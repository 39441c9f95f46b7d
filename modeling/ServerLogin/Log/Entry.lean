/-!
Log entries.  An entry has a level and names the part of the program it comes
from; its written form is the message behind both, ended by a line break.
-/

namespace ServerLogin.Log

/-- How serious an entry is. -/
inductive Level
  | error
  | warn
  | info
  | debug
  | trace
deriving DecidableEq, Repr

/-- The level in capitals, filled up to five characters. -/
def Level.label : Level → String
  | .error => "ERROR"
  | .warn => "WARN "
  | .info => "INFO "
  | .debug => "DEBUG"
  | .trace => "TRACE"

/-- The part of the program an entry comes from. -/
inductive Source
  | arguments
  | credentials
  | template
  | profile
  | server
  | program
deriving DecidableEq, Repr

def Source.label : Source → String
  | .arguments => "omero_login_config::arguments"
  | .credentials => "omero_login_config::credentials"
  | .template => "omero_login_config::env_vars"
  | .profile => "omero_login_config::profile"
  | .server => "omero_login_config::server"
  | .program => "omero_login"

structure Entry where
  level : Level
  source : Source
  message : String
deriving DecidableEq, Repr

def Entry.text (e : Entry) : String :=
  "[" ++ e.level.label ++ "] [" ++ e.source.label ++ "] " ++ e.message

def Entry.line (e : Entry) : String := e.text ++ "\n"

end ServerLogin.Log
