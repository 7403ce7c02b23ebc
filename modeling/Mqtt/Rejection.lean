import Mqtt.Error

/-!
# Rejected requests

The checks that a request passes before it takes a packet id or reaches a transport. A rejection
says what is wrong with the first offending part; it is both an error for the caller and one line
for the log.
-/

namespace Mqtt

inductive Rejection
  | topic (kind : PacketKind) (text : String) (fault : Topic.Fault)
  | filter (kind : PacketKind) (text : String) (fault : Topic.Fault)
  | noSubscriptions
  | noFilters
  | willPayloadTooLong
  deriving DecidableEq

namespace Rejection

/-- The kind of packet that the request would have become. -/
def kind : Rejection → PacketKind
  | topic kind _ _ | filter kind _ _ => kind
  | noSubscriptions => .subscribe
  | noFilters => .unsubscribe
  | willPayloadTooLong => .connect

def reason : Rejection → String
  | topic _ text fault => "invalid topic " ++ Text.lineText text ++ ": " ++ fault.message
  | filter _ text fault => "invalid topic filter " ++ Text.lineText text ++ ": " ++ fault.message
  | noSubscriptions => "empty subscription set"
  | noFilters => "empty topic filter set"
  | willPayloadTooLong => "will payload too long"

def message (r : Rejection) : String := r.kind.packetName ++ " Validation - " ++ r.reason

def error (r : Rejection) : Error :=
  match r with
  | topic _ text fault | filter _ text fault => .invalidTopic text fault
  | _ => .packetValidation r.kind (.text r.reason)

end Rejection

def requireTopic (kind : PacketKind) (topic : String) : Except Rejection Unit :=
  match Topic.checkName topic with
  | .ok () => .ok ()
  | .error fault => .error (.topic kind topic fault)

/-- Checks topic filters on behalf of a packet, in order; the first illegal one is reported. -/
def requireFilters (kind : PacketKind) : List String → Except Rejection Unit
  | [] => .ok ()
  | filter :: rest =>
    match Topic.checkFilter filter with
    | .ok () => requireFilters kind rest
    | .error fault => .error (.filter kind filter fault)

def Publish.check (p : Publish) : Except Rejection Unit := requireTopic .publish p.topic

def Subscribe.check (s : Subscribe) : Except Rejection Unit :=
  if s.subscriptions.isEmpty then .error .noSubscriptions
  else requireFilters .subscribe (s.subscriptions.map Subscription.filter)

def Unsubscribe.check (u : Unsubscribe) : Except Rejection Unit :=
  if u.filters.isEmpty then .error .noFilters else requireFilters .unsubscribe u.filters

def Will.check (w : Will) : Except Rejection Unit :=
  match requireTopic .connect w.topic with
  | .error r => .error r
  | .ok () =>
    if Topic.maxFieldBytes < w.payload.size then .error .willPayloadTooLong else .ok ()

end Mqtt
