/-!
# Quality of service

The three levels of delivery: at most once, at least once, exactly once. `ofByte?` reads the byte
that encodes a level, and `ofByte?_toByte` says that it reads back what `toByte` writes.
-/

namespace Mqtt

inductive Qos
  | atMostOnce
  | atLeastOnce
  | exactlyOnce
  deriving DecidableEq, Repr, Inhabited

namespace Qos

def toByte : Qos → UInt8
  | atMostOnce => 0
  | atLeastOnce => 1
  | exactlyOnce => 2

def ofByte? (b : UInt8) : Option Qos :=
  if b = 0 then some atMostOnce
  else if b = 1 then some atLeastOnce
  else if b = 2 then some exactlyOnce
  else none

def name : Qos → String
  | atMostOnce => "AtMostOnce"
  | atLeastOnce => "AtLeastOnce"
  | exactlyOnce => "ExactlyOnce"

/-- The byte and the name together, as log lines show a level. -/
def text (q : Qos) : String := toString q.toByte ++ " (" ++ q.name ++ ")"

@[simp] theorem ofByte?_toByte (q : Qos) : ofByte? q.toByte = some q := by cases q <;> rfl

end Qos

end Mqtt
