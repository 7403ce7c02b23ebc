/-!
# Topic names and topic filters

A message is published to a topic name; a subscription asks for the names that match a topic
filter. Both are texts of 1 to 65535 UTF-8 bytes without U+0000. A name holds no wildcard. A
filter is cut into levels at `/`: the wildcard `+` stands for one whole level, and `#` for the whole
last level and all below it.
-/

namespace Mqtt.Topic

/-- Why a text is no topic name or no topic filter. -/
inductive Fault
  | lengthOutOfRange
  | badWildcard
  | nullCharacter
  deriving DecidableEq, Repr

def Fault.name : Fault → String
  | .lengthOutOfRange => "LengthOutOfRange"
  | .badWildcard => "BadWildcard"
  | .nullCharacter => "NullCharacter"

def Fault.message : Fault → String
  | .lengthOutOfRange => "topic length must be between 1 and 65535 utf-8 bytes"
  | .badWildcard => "topic contains an illegal use of the '#' or '+' wildcard"
  | .nullCharacter => "topic contains a U+0000 character"

/-- The most bytes that a text or byte field of a packet can carry. -/
def maxFieldBytes : Nat := 65535

/-- A text of 1 to 65535 UTF-8 bytes. -/
def hasLegalLength (s : String) : Bool :=
  0 < s.utf8ByteSize && s.utf8ByteSize ≤ maxFieldBytes

def isWildcard (c : Char) : Bool := c = '#' || c = '+'

def isNull (c : Char) : Bool := c = '\x00'

def cut (c : Char) : List (List Char) → List (List Char)
  | [] => if c = '/' then [[], []] else [[c]]
  | level :: rest => if c = '/' then [] :: level :: rest else (c :: level) :: rest

/-- The levels of a text: what stands before, between and after its slashes. -/
def levels (cs : List Char) : List (List Char) := cs.foldr cut [[]]

/-- A level that may stand anywhere in a filter: `+`, or one free of wildcards. -/
def isInnerLevel (level : List Char) : Bool := level == ['+'] || !level.any isWildcard

/-- A level that may end a filter: `#`, or any level that may stand elsewhere. -/
def isLastLevel (level : List Char) : Bool := level == ['#'] || isInnerLevel level

def levelsLegal : List (List Char) → Bool
  | [] => true
  | [level] => isLastLevel level
  | level :: rest => isInnerLevel level && levelsLegal rest

/-- Checks a topic name; a wildcard is reported before a null character. -/
def checkName (s : String) : Except Fault Unit :=
  if !hasLegalLength s then .error .lengthOutOfRange
  else if s.toList.any isWildcard then .error .badWildcard
  else if s.toList.any isNull then .error .nullCharacter
  else .ok ()

/-- Checks a topic filter; a null character is reported before a wildcard. -/
def checkFilter (s : String) : Except Fault Unit :=
  if !hasLegalLength s then .error .lengthOutOfRange
  else if s.toList.any isNull then .error .nullCharacter
  else if !levelsLegal (levels s.toList) then .error .badWildcard
  else .ok ()

@[simp] theorem levels_nil : levels [] = [[]] := rfl

@[simp] theorem levels_cons (c : Char) (cs : List Char) : levels (c :: cs) = cut c (levels cs) :=
  rfl

theorem cut_ne_nil (c : Char) (ls : List (List Char)) : cut c ls ≠ [] := by
  cases ls <;> simp only [cut] <;> split <;> simp

theorem levels_ne_nil (cs : List Char) : levels cs ≠ [] := by
  cases cs with
  | nil => simp
  | cons c cs => exact cut_ne_nil c (levels cs)

end Mqtt.Topic
