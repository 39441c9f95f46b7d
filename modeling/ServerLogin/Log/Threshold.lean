import ServerLogin.Log.Entry
import ServerLogin.Number.Integer
import ServerLogin.Text.Blank

/-!
Log thresholds: which entries are kept.  A threshold is chosen by name, or by
the number in the variable `DEBUG_LEVEL`.
-/

namespace ServerLogin.Log

open ServerLogin.Text

/-- The least serious level that is kept, if any is. -/
inductive Threshold
  | off
  | error
  | warn
  | info
  | debug
  | trace
deriving DecidableEq, Repr

namespace Threshold

/-- All thresholds, from the strictest on. -/
def all : List Threshold := [.off, .error, .warn, .info, .debug, .trace]

def name : Threshold → String
  | .off => "off"
  | .error => "error"
  | .warn => "warn"
  | .info => "info"
  | .debug => "debug"
  | .trace => "trace"

def view : Threshold → String
  | .off => "Off"
  | .error => "Error"
  | .warn => "Warn"
  | .info => "Info"
  | .debug => "Debug"
  | .trace => "Trace"

/-- The position of a threshold, counted from the strictest. -/
def rank : Threshold → Nat
  | .off => 0
  | .error => 1
  | .warn => 2
  | .info => 3
  | .debug => 4
  | .trace => 5

/-- The threshold that keeps a level and everything more serious. -/
def ofLevel : Level → Threshold
  | .error => .error
  | .warn => .warn
  | .info => .info
  | .debug => .debug
  | .trace => .trace

def admits (t : Threshold) (level : Level) : Bool := (ofLevel level).rank ≤ t.rank

def ofName? (ignoreCase : Bool) (value : String) : Option Threshold :=
  all.find? fun t =>
    if ignoreCase then sameIgnoringCase t.name.toList value.toList else t.name == value

def unknownName (value : String) : String := "invalid variant: " ++ value

/-- The threshold that a value of `DEBUG_LEVEL` asks for: warnings and errors,
unless it is a number from one to four. -/
def ofDebugLevel (value : Option String) : Threshold :=
  match value.bind fun v => Number.unsigned? 256 (trimChars v.toList) with
  | some 1 => .error
  | some 2 => .info
  | some 3 => .debug
  | some 4 => .trace
  | _ => .warn

end Threshold

end ServerLogin.Log
