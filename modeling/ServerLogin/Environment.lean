/-!
Environment variables, and the account of a process.  A value that is not text is
kept apart: most readers treat it as unset, and the command line refuses it.
-/

namespace ServerLogin

inductive Variable
  | text (value : String)
  | notText
deriving DecidableEq, Repr

/-- What the system knows of an account.  An environment finds its account by
instance, so that it can be written by its variables alone. -/
class Account where
  home? : Option String
deriving DecidableEq, Repr

/-- The account of the superuser. -/
instance : Account := ⟨some "/root"⟩

/-- The variables of a process, and the account that it runs under. -/
structure Environment where
  bindings : List (String × Variable) := []
  [account : Account]
deriving DecidableEq, Repr

namespace Environment

/-- The value of a variable that is set to text. -/
def text? (env : Environment) (name : String) : Option String :=
  match env.bindings.lookup name with
  | some (.text value) => some value
  | _ => none

def set (env : Environment) (name : String) (value : Option Variable) : Environment :=
  let others := env.bindings.filter (·.1 != name)
  match value with
  | some v => { env with bindings := (name, v) :: others }
  | none => { env with bindings := others }

/-- The home directory: `HOME`, or the one of the account when that is unset or
empty.  Paths are text here, so a `HOME` that is not text is passed over, too. -/
def home? (env : Environment) : Option String :=
  ((env.text? "HOME").filter (!·.isEmpty)).or (env.account.home?.filter (!·.isEmpty))

end Environment

end ServerLogin
