import Mqtt.Text.Quoted

/-!
# Spelled values

Two ways to write a value as text. The *spelled* form is the full structural one, used where a
value is shown for diagnosis: `Name { field: value, .. }`, `Name(value)`, `Some(value)`, `[1, 2]`.
The *line* form is the one of log lines: `Name { field:value .. }`, with texts between bare quotes.
-/

namespace Mqtt.Text

def spellBool (b : Bool) : String := if b then "true" else "false"

def spellRecord (name : String) (fields : List (String × String)) : String :=
  name ++ " \x7b " ++ ", ".intercalate (fields.map fun f => f.1 ++ ": " ++ f.2) ++ " \x7d"

def spellWrapped (name value : String) : String := name ++ "(" ++ value ++ ")"

def spellOption : Option String → String
  | none => "None"
  | some value => spellWrapped "Some" value

def spellList (items : List String) : String := "[" ++ ", ".intercalate items ++ "]"

def spellBytes (bytes : ByteArray) : String := spellList (bytes.toList.map toString)

/-- The spelled form of a result, from the spelled forms of its two sides. -/
def spellResult {ε α : Type} (failure : ε → String) (success : α → String) :
    Except ε α → String
  | .ok a => spellWrapped "Ok" (success a)
  | .error e => spellWrapped "Err" (failure e)

def lineField (name value : String) : String := " " ++ name ++ ":" ++ value

/-- A text in line form: between quotes, and otherwise as it is. -/
def lineText (s : String) : String := "\"" ++ s ++ "\""

/-- Bytes in line form: only their number is shown. -/
def lineBytes (bytes : ByteArray) : String := "<" ++ toString bytes.size ++ " Bytes>"

def redacted : String := "<...redacted>"

/-- A record in line form, from what stands before its braces and the text of its fields. -/
def lineRecord (lead : String) (body : String) : String := lead ++ "\x7b" ++ body ++ " \x7d"

end Mqtt.Text
