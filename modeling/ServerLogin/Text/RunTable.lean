import ServerLogin.Text.Digit

/-!
Values attached to code points.  A character property is constant on long runs
of consecutive code points, so a table lists those runs in increasing order and
a binary search finds the run that holds a code point.

A table is written as a text of words separated by spaces and line breaks.  A
word is a hexadecimal code point, or two of them joined by `-`, followed by
whatever spells the value of the run.
-/

namespace ServerLogin.Text

/-- Consecutive code points that share one value. -/
structure Run (α : Type) where
  first : Nat
  last : Nat
  value : α

/-- Runs in increasing order of their code points. -/
structure RunTable (α : Type) where
  runs : Array (Run α)

namespace RunTable

variable {α : Type}

/-- Look for `n` among the runs with index at least `low` and below `high`. -/
private def search (runs : Array (Run α)) (n low high : Nat) : Option (Run α) :=
  if _h : low < high then
    match runs[(low + high) / 2]? with
    | none => none
    | some run =>
      if n < run.first then search runs n low ((low + high) / 2)
      else if run.last < n then search runs n ((low + high) / 2 + 1) high
      else some run
  else none
termination_by high - low

def find? (table : RunTable α) (n : Nat) : Option (Run α) :=
  search table.runs n 0 table.runs.size

def contains (table : RunTable α) (c : Char) : Bool := (table.find? c.toNat).isSome

def value? (table : RunTable α) (c : Char) : Option α := (table.find? c.toNat).map (·.value)

/-- Read one word: the ends of the run, then the text of its value. -/
private def readRun (value : List Char → α) (word : List Char) : Run α :=
  let first := word.takeWhile isHex
  match word.dropWhile isHex with
  | '-' :: more =>
    ⟨ofDigits 16 first, ofDigits 16 (more.takeWhile isHex), value (more.dropWhile isHex)⟩
  | rest => ⟨ofDigits 16 first, ofDigits 16 first, value rest⟩

/-- Read a table, given how the value of a run is spelled. -/
def read (value : List Char → α) (text : String) : RunTable α :=
  let words := (text.toList.splitOnP fun c => c == ' ' || c == '\n').filter (!·.isEmpty)
  ⟨(words.map (readRun value)).toArray⟩

/-- Read a table of runs without values: a set of code points. -/
def readSet (text : String) : RunTable Unit := read (fun _ => ()) text

end RunTable

end ServerLogin.Text
