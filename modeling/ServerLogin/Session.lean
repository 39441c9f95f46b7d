import ServerLogin.Environment
import ServerLogin.Files.Tree
import ServerLogin.Log.Threshold
import ServerLogin.Outcome

/-!
A session: the files, the environment and the log of one run.  Every entry is
kept; when a log file is open, the entries that its threshold admits are also
written to it at once, so that later reads of that file see them.
-/

namespace ServerLogin

/-- A file that the log is written to. -/
structure LogFile where
  id : Nat
  threshold : Log.Threshold
deriving DecidableEq

/-- The files, the environment and the log of one run. -/
structure Session where
  files : FileTree := {}
  environment : Environment := {}
  /-- All entries made so far, in order. -/
  entries : List Log.Entry := []
  logFile : Option LogFile := none

namespace Session

def log (s : Session) (entry : Log.Entry) : Session :=
  let s := { s with entries := s.entries ++ [entry] }
  match s.logFile with
  | none => s
  | some file =>
    if file.threshold.admits entry.level then
      { s with files := s.files.append file.id entry.line.toUTF8 }
    else s

def logAll (s : Session) (entries : List Log.Entry) : Session := entries.foldl log s

/-- Carry out an operation that does nothing but log. -/
def absorb {α : Type} (s : Session) (outcome : Outcome α) : Session × Except LoginError α :=
  (s.logAll outcome.entries, outcome.result)

end Session

end ServerLogin
