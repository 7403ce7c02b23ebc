import Mqtt.Client.Handlers

/-!
# Calls

What an application can ask of its client without waiting, and the handlers through which the client
answers. A handler is known by what it does: it makes calls of its own, the first so many times that
it is invoked, and may panic at the end. Since calls register handlers, the two are one notion.
-/

namespace Mqtt

inductive Call
  | disconnect
  | publish (packet : Publish)
  | subscribe (packet : Subscribe)
  | unsubscribe (packet : Unsubscribe)
  | ping
  | status
  | clientId
  | describe
  /-- Begins a connection attempt in the background. -/
  | spawnConnect
  | setHandler (kind : EventKind) (tag : String) (calls : List Call) (rounds : Nat) (panics : Bool)
  | clearHandler (kind : EventKind)

structure Handler where
  tag : String
  calls : List Call := []
  /-- How many more times the calls are made. -/
  rounds : Nat := 0
  panics : Bool := false

/-- What a call returns. -/
inductive Answer
  | done
  | packetId (id : UInt16)
  | status (status : Status)
  | text (text : String)
  deriving DecidableEq

/-! ## How long handlers can go on

The calls of a handler can register further handlers, but only smaller ones. -/

mutual

/-- A bound on how often calls can still be made on behalf of a call. -/
def Call.weight : Call → Nat
  | .setHandler _ _ calls rounds _ => rounds * (1 + weights calls)
  | _ => 0

def weights : List Call → Nat
  | [] => 0
  | c :: rest => c.weight + weights rest

end

def Handler.weight (h : Handler) : Nat := h.rounds * (1 + weights h.calls)

end Mqtt
