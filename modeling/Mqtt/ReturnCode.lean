import Mqtt.Qos

/-!
# Return codes

`ConnectCode` is the server's verdict on a connection: every byte is one, those from 6 on being
reserved. `SubackCode` is its verdict on one subscription: the level of service it grants, or a
failure; no other byte is one.
-/

namespace Mqtt

inductive ConnectCode
  | accepted
  | unacceptableProtocolVersion
  | identifierRejected
  | serverUnavailable
  | badUsernameOrPassword
  | notAuthorized
  | reserved (byte : UInt8)
  deriving DecidableEq, Repr, Inhabited

namespace ConnectCode

def ofByte (b : UInt8) : ConnectCode :=
  if b = 0 then accepted
  else if b = 1 then unacceptableProtocolVersion
  else if b = 2 then identifierRejected
  else if b = 3 then serverUnavailable
  else if b = 4 then badUsernameOrPassword
  else if b = 5 then notAuthorized
  else reserved b

def toByte : ConnectCode → UInt8
  | accepted => 0
  | unacceptableProtocolVersion => 1
  | identifierRejected => 2
  | serverUnavailable => 3
  | badUsernameOrPassword => 4
  | notAuthorized => 5
  | reserved byte => byte

def isAccepted (c : ConnectCode) : Bool := c = accepted

def name : ConnectCode → String
  | accepted => "Accepted"
  | unacceptableProtocolVersion => "UnacceptableProtocolVersion"
  | identifierRejected => "IdentifierRejected"
  | serverUnavailable => "ServerUnavailable"
  | badUsernameOrPassword => "BadUsernameOrPassword"
  | notAuthorized => "NotAuthorized"
  | reserved _ => "Reserved"

/-- The byte and the name together, as messages show a code. -/
def text (c : ConnectCode) : String := toString c.toByte ++ " (" ++ c.name ++ ")"

def spelled : ConnectCode → String
  | reserved byte => "Reserved(" ++ toString byte ++ ")"
  | c => c.name

@[simp] theorem toByte_ofByte (b : UInt8) : (ofByte b).toByte = b := by
  simp only [ofByte]
  repeat' split
  all_goals simp_all [toByte]

end ConnectCode

inductive SubackCode
  | granted (qos : Qos)
  | failure
  deriving DecidableEq, Repr, Inhabited

namespace SubackCode

def ofByte? (b : UInt8) : Option SubackCode :=
  if b = 0x80 then some failure else (Qos.ofByte? b).map granted

def toByte : SubackCode → UInt8
  | granted qos => qos.toByte
  | failure => 0x80

def granted? : SubackCode → Option Qos
  | granted qos => some qos
  | failure => none

def name : SubackCode → String
  | granted qos => "GrantedQos" ++ toString qos.toByte
  | failure => "Failure"

/-- The byte and the name together, as log lines show a code. -/
def text (c : SubackCode) : String := toString c.toByte ++ " (" ++ c.name ++ ")"

@[simp] theorem ofByte?_toByte (c : SubackCode) : ofByte? c.toByte = some c := by
  rcases c with qos | _
  · cases qos <;> rfl
  · rfl

end SubackCode

end Mqtt
