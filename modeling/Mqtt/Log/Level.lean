/-!
# Log levels

Five levels from errors to traces, and lines of log at a level. A limit is the least urgent level
that is recorded; without one nothing is.
-/

namespace Mqtt

inductive Level
  | error
  | warn
  | info
  | debug
  | trace
  deriving DecidableEq, Repr

namespace Level

def rank : Level → Nat
  | error => 1
  | warn => 2
  | info => 3
  | debug => 4
  | trace => 5

def name : Level → String
  | error => "ERROR"
  | warn => "WARN"
  | info => "INFO"
  | debug => "DEBUG"
  | trace => "TRACE"

def isShown (level : Level) (limit : Option Level) : Bool :=
  match limit with
  | none => false
  | some limit => level.rank ≤ limit.rank

end Level

structure LogLine where
  level : Level
  message : String
  deriving DecidableEq

def LogLine.text (l : LogLine) : String := l.level.name ++ " " ++ l.message

end Mqtt
