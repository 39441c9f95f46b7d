import ServerLogin.Login

/-!
The whole program: it reads its command line, opens the log, carries the command
out and reports what came of it.
-/

namespace ServerLogin.Program

open ServerLogin.CommandLine

def version : String := "0.1.0"

def name : String := "omero-login"

/-- What a run of the program leaves behind. -/
structure Exit where
  code : Nat
  stdout : String
  stderr : String
  files : FileTree

/-- What the program says about its use; the command line that asks for help or
the version is no error. -/
def usage (files : FileTree) : UsageFault → Exit
  | .version => ⟨0, name ++ " " ++ version ++ "\n", "", files⟩
  | .help => ⟨0, "Usage: " ++ name ++ " [OPTIONS] [-- <ARGS>...]\n", "", files⟩
  | _ => ⟨2, "", "error: invalid command line\n", files⟩

def threshold (o : Options) (env : Environment) : Log.Threshold :=
  o.logLevel.getD (.ofDebugLevel (env.text? "DEBUG_LEVEL"))

/-- Open the log file, if one is asked for; what is said when that fails. -/
def openLog (o : Options) (threshold : Log.Threshold) (s : Session) : Session × String :=
  match o.logFile with
  | none => (s, "")
  | some path =>
    match s.files.openFile path with
    | .ok (files, id) => ({ s with files := files, logFile := some ⟨id, threshold⟩ }, "")
    | .error fault =>
      (s, name ++ ": cannot open log file, using stderr: " ++ fault.message ++ "\n")

/-- The entries that go to the standard error stream. -/
def logText (threshold : Log.Threshold) (s : Session) : String :=
  if s.logFile.isSome then ""
  else String.join ((s.entries.filter fun e => threshold.admits e.level).map Log.Entry.line)

/-- Carry out a command line that has been read. -/
def execute (o : Options) (s : Session) : Exit :=
  let threshold := threshold o s.environment
  let (s, complaint) := openLog o threshold s
  let s := s.log ⟨.info, .program, "Starting " ++ name ++ " " ++ version⟩
  match Login.run o s with
  | (s, .ok output) => ⟨0, output, complaint ++ logText threshold s, s.files⟩
  | (s, .error failure) =>
    let s := s.log ⟨.error, .program, failure.message⟩
    ⟨1, "", complaint ++ logText threshold s ++ name ++ ": error: " ++ failure.message ++ "\n",
      s.files⟩

def run (arguments : List String) (s : Session) : Exit :=
  match parse s.environment arguments with
  | .error fault => usage s.files fault
  | .ok o => execute o s

end ServerLogin.Program
