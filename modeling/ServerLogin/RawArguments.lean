import ServerLogin.Credentials
import ServerLogin.Text.Blank

/-!
Raw connection arguments, written `--omero.<key>=<value>`.  A `#` starts a
comment unless a backslash stands before it.  Arguments of another form, and
keys without a meaning, are skipped; of a repeated key the last value counts.
-/

namespace ServerLogin.RawArguments

open ServerLogin.Text ServerLogin.Number

/-- What stands behind `mark` in a text that begins with it. -/
def after? (mark : List Char) (cs : List Char) : Option (List Char) :=
  if mark.isPrefixOf cs then some (cs.drop mark.length) else none

/-- What stands before and behind the first equals sign. -/
def splitEquals? : List Char → Option (List Char × List Char)
  | [] => none
  | c :: rest =>
    if c = '=' then some ([], rest)
    else (splitEquals? rest).map fun (key, value) => (c :: key, value)

/-- Read `\#` as `#` and drop the comment behind any other `#`. -/
def unescape : List Char → List Char
  | '\\' :: '#' :: rest => '#' :: unescape rest
  | '#' :: _ => []
  | c :: rest => c :: unescape rest
  | [] => []

/-- The value of an argument: comment and blanks at the ends removed. -/
def value (raw : List Char) : String := String.ofList (trimChars (unescape raw))

/-- The keys with a meaning. -/
inductive Key
  | host
  | port
  | user
  | pass
  | session
  | group
deriving DecidableEq, Repr

namespace Key

def all : List Key := [.host, .port, .user, .pass, .session, .group]

def name : Key → String
  | .host => "host"
  | .port => "port"
  | .user => "user"
  | .pass => "pass"
  | .session => "session"
  | .group => "group"

def ofName? (name : String) : Option Key := all.find? (·.name == name)

end Key

/-- What an argument says. -/
inductive Reading
  | skipped (message : String)
  | property (key : Key) (value : String)

/-- Read one argument. -/
def read (argument : String) : Reading :=
  match after? "--omero.".toList argument.toList with
  | none => .skipped ("Skipping unrecognised connection argument " ++ quote argument)
  | some rest =>
    match splitEquals? rest with
    | none => .skipped ("Skipping connection argument without value " ++ quote argument)
    | some (name, raw) =>
      let name := String.ofList (trimChars name)
      match Key.ofName? name with
      | none => .skipped ("Ignoring unknown property omero." ++ name)
      | some key => .property key (value raw)

/-- The values given so far. -/
structure Settings where
  host : String := ""
  port : Option UInt16 := none
  user : String := ""
  pass : String := ""
  session : Option String := none
  group : Option Int64 := none
deriving DecidableEq

def Settings.set (s : Settings) (key : Key) (value : String) : Except LoginError Settings :=
  match key with
  | .host => .ok { s with host := value }
  | .user => .ok { s with user := value }
  | .pass => .ok { s with pass := value }
  | .session => .ok { s with session := some value }
  | .port =>
    match uint16? value.toList with
    | some port => .ok { s with port := some port }
    | none => .error (.invalidArgument (.badNumber key.name value))
  | .group =>
    match int64? value.toList with
    | some group => .ok { s with group := some group }
    | none => .error (.invalidArgument (.badNumber key.name value))

def Settings.add (s : Settings) (argument : String) : Outcome Settings :=
  match read argument with
  | .skipped message => do
    Outcome.log .debug .arguments message
    return s
  | .property key value => .ofResult (s.set key value)

/-- Take all arguments into account, up to the first malformed number. -/
def Settings.addAll (s : Settings) (arguments : List String) : Outcome Settings :=
  match arguments with
  | [] => pure s
  | argument :: rest => s.add argument >>= fun s => s.addAll rest

/-- The user that logs in: a session takes the place of name and password. -/
def Settings.login (s : Settings) : User :=
  match s.session with
  | some session => ⟨session, ""⟩
  | none => ⟨s.user, s.pass⟩

def Settings.credentials (s : Settings) : Outcome Credentials :=
  if s.host.isEmpty then .fail (.invalidArgument .missingHost)
  else do
    let c ← Credentials.build s.login.username s.login.password s.host s.port
    return { c with groupId := s.group.getD c.groupId }

def interpret (arguments : List String) : Outcome Credentials := do
  let settings ← Settings.addAll {} arguments
  settings.credentials

end ServerLogin.RawArguments

namespace ServerLogin

def Credentials.resolveArguments (c : Credentials) : Outcome Credentials :=
  match c.arguments with
  | none => .fail (.invalidArgument .noArguments)
  | some arguments => RawArguments.interpret arguments

end ServerLogin
