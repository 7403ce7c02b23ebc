import Mqtt.Error

/-!
# Illegal bytes

Reading a level of service or a subscription's return code from its byte. A byte that encodes none
is refused with an error and leaves one line in the log.
-/

namespace Mqtt

/-- A byte that encodes no value of the named kind. -/
structure IllegalByte where
  what : String
  byte : UInt8
  deriving DecidableEq

namespace IllegalByte

def finding (b : IllegalByte) : String := b.what ++ " value (" ++ toString b.byte ++ ")"

def message (b : IllegalByte) : String := "Packet Decode - Invalid " ++ b.finding

def error (b : IllegalByte) : Error := .decodingFailure (.text ("invalid " ++ b.finding))

end IllegalByte

def Qos.decode (byte : UInt8) : Except IllegalByte Qos :=
  match Qos.ofByte? byte with
  | some qos => .ok qos
  | none => .error ⟨"quality of service", byte⟩

def SubackCode.decode (byte : UInt8) : Except IllegalByte SubackCode :=
  match SubackCode.ofByte? byte with
  | some code => .ok code
  | none => .error ⟨"suback return code", byte⟩

end Mqtt
