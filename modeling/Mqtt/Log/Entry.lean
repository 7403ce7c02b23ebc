import Mqtt.IllegalByte
import Mqtt.Log.ClientNote
import Mqtt.Log.SessionNote
import Mqtt.Rejection

/-!
# Log entries

An entry is kept as the thing that happened; `Entry.line?` gives the line that it leaves under a
limit, if any. Packets and snapshots of a session look at the limit themselves: a packet is
summarised while debugging is off, and a snapshot is shown only while it is on.
-/

namespace Mqtt

/-- The figures that describe a session from outside. -/
structure Snapshot where
  status : Status
  attempt : Nat
  boundIds : Nat
  pending : Nat
  held : Nat
  nextPingMs : Option Nat
  deriving DecidableEq

def Snapshot.text (s : Snapshot) : String :=
  Text.lineRecord "ProtocolState " (Text.lineField "state" s.status.name ++
    Text.lineField "connection_id" (toString s.attempt) ++
    Text.lineField "allocated_packet_ids" (toString s.boundIds) ++
    Text.lineField "pending_outbound_operations" (toString s.pending) ++
    Text.lineField "unreleased_incoming_qos2_publishes" (toString s.held) ++
    optionalField "next_ping_elapsed_ms" s.nextPingMs toString)

inductive Entry
  | session (elapsedMs : Nat) (note : SessionNote)
  | client (note : ClientNote)
  | rejected (rejection : Rejection)
  | idsExhausted
  | illegal (byte : IllegalByte)
  | packet (lead : String) (packet : Packet)
  | snapshot (snapshot : Snapshot)

/-- A line at a fixed level, recorded if the limit admits the level. -/
def lineAt (level : Level) (message : String) (limit : Option Level) : Option LogLine :=
  if level.isShown limit then some ⟨level, message⟩ else none

namespace Entry

def line? (limit : Option Level) : Entry → Option LogLine
  | session elapsedMs note =>
    lineAt note.level ("[" ++ toString elapsedMs ++ " ms] " ++ note.message) limit
  | client note => lineAt note.level note.message limit
  | rejected rejection => lineAt .error rejection.message limit
  | idsExhausted =>
    lineAt .error "PacketIdAllocator::acquire - could not find an unbound packet id" limit
  | illegal byte => lineAt .error byte.message limit
  | packet lead p =>
    match limit with
    | some .info => some ⟨.info, lead ++ p.summary⟩
    | some .debug | some .trace => some ⟨.debug, lead ++ p.text⟩
    | _ => none
  | snapshot s =>
    match limit with
    | some .debug => some ⟨.debug, s.text⟩
    | some .trace => some ⟨.trace, s.text⟩
    | _ => none

end Entry

def logLines (limit : Option Level) (entries : List Entry) : List LogLine :=
  entries.filterMap (Entry.line? limit)

end Mqtt
