import ServerLogin.CommandLine.Parse
import ServerLogin.Profile.Storage

/-!
Logging in from the command line.  Raw arguments or a profile form the base of
the settings, options override it, and the credentials that come out are checked,
perhaps saved, and summarised.
-/

namespace ServerLogin

open ServerLogin.CommandLine ServerLogin.Number

/-- An error, and what was being done when it arose. -/
structure Failure where
  doing : Option String
  error : LoginError
deriving DecidableEq

namespace Failure

/-- The outermost wording of a failure. -/
def top (f : Failure) : String := f.doing.getD f.error.message

/-- The wordings of a failure and of all that lies behind it. -/
def message (f : Failure) : String :=
  String.intercalate ": " (f.doing.toList ++ [f.error.message] ++ f.error.cause?.toList)

end Failure

namespace Login

/-- Say what was being done when an error arose. -/
def during {α : Type} (doing : Option String) (result : Except LoginError α) :
    Except Failure α :=
  match result with
  | .ok a => .ok a
  | .error e => .error ⟨doing, e⟩

/-- Where the settings come from before options override them. -/
inductive Base
  | arguments (raw : List String)
  | file (path : Path)
  | nothing
deriving DecidableEq, Repr

/-- The base that the options ask for. -/
def base (o : Options) (env : Environment) : Base :=
  if !o.rawArguments.isEmpty then .arguments o.rawArguments
  else if o.defaultProfile then .file (Profile.defaultPath env)
  else match o.profile with
    | some path => .file path
    | none => .nothing

def argumentSettings (raw : List String) : Outcome Profile := do
  let stored ← Credentials.ofArguments (some raw)
  let credentials ← stored.resolveArguments
  return Profile.ofCredentials credentials

/-- The settings of a base. -/
def settings (b : Base) (s : Session) : Session × Except Failure Profile :=
  match b with
  | .arguments raw =>
    let (s, result) := s.absorb (argumentSettings raw)
    (s, during (some "Failed to interpret raw connection arguments") result)
  | .file path =>
    let (s, result) := Profile.load path s
    (s, during (some ("Failed to load profile " ++ path.text)) result)
  | .nothing => (s, .ok {})

/-- Settings with the options in place of what they override.  A new host makes
the port be derived again. -/
def override (o : Options) (p : Profile) : Profile where
  host := o.host.getD p.host
  port := o.port.or (if o.host.isSome then none else p.port)
  username := o.user.getD p.username
  password := o.password.getD p.password
  applicationName := o.appName.or p.applicationName
  encryption := p.encryption && !o.noEncryption
  checkNetwork := p.checkNetwork && !o.noCheckNetwork
  checkVersion := p.checkVersion && !o.noCheckVersion
  compression := o.compression.getD p.compression
  groupId := o.group.getD p.groupId
  allowAllVariables := p.allowAllVariables

/-- The credentials that the options ask for. -/
def credentials (o : Options) (s : Session) : Session × Except Failure Credentials :=
  match settings (base o s.environment) s with
  | (s, .error failure) => (s, .error failure)
  | (s, .ok profile) =>
    let (s, result) := s.absorb (override o profile).toCredentials
    (s, during none result)

/-- One line of a summary: the label, filled up, and the value. -/
def summaryLine (label value : String) : String :=
  String.ofList (label.toList ++ ':' :: List.replicate (16 - label.length) ' ') ++ value ++ "\n"

/-- A summary of credentials for people, without the password. -/
def summary (sealed : SealedCredentials) : String :=
  let c := sealed.credentials
  String.join
    ([summaryLine "host" c.server.host]
      ++ (if c.server.isUrl then
          [summaryLine "hostname" c.server.hostname,
            summaryLine "protocol" (c.server.protocol.getD "")]
        else [])
      ++ [summaryLine "port" (match c.server.port with
          | some port => Server.portText port
          | none => "(unset)"),
        summaryLine "user" c.user.username,
        summaryLine "password" (if c.user.password.isEmpty then "(none)" else "***"),
        summaryLine "group" (match c.group with
          | some group => integerText group.toInt
          | none => "(default)")]
      ++ (match c.applicationName with
        | some name => [summaryLine "application" name]
        | none => [])
      ++ [summaryLine "encryption" (Text.viewBool c.encryption),
        summaryLine "check network" (Text.viewBool c.checkNetwork),
        summaryLine "check version" (Text.viewBool c.checkVersion),
        summaryLine "compression" (c.compression.text .plain)])

def saveTo (path : Option Path) (sealed : SealedCredentials) (s : Session) :
    Session × Except Failure Unit :=
  match path with
  | none => (s, .ok ())
  | some path =>
    let (s, result) := (Profile.ofCredentials sealed.credentials).save path s
    (s, during (some ("Failed to save profile " ++ path.text)) result)

/-- Carry out a command line.  What it prints is the summary. -/
def run (o : Options) (s : Session) : Session × Except Failure String :=
  match credentials o s with
  | (s, .error failure) => (s, .error failure)
  | (s, .ok credentials) =>
    match s.absorb credentials.seal with
    | (s, .error e) => (s, .error ⟨none, e⟩)
    | (s, .ok sealed) =>
      match saveTo o.save sealed s with
      | (s, .error failure) => (s, .error failure)
      | (s, .ok ()) => (s, .ok (summary sealed))

end Login

end ServerLogin
