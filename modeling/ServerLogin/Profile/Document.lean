import ServerLogin.Environment
import ServerLogin.Profile.Basic
import ServerLogin.Yaml.Writer

/-!
Profiles as documents.  A field that is left out has its default, and a field
that no profile has is ignored.  The password is read but never written.
-/

namespace ServerLogin.Profile

open ServerLogin.Yaml

inductive Field
  | host
  | port
  | username
  | password
  | applicationName
  | encryption
  | checkNetwork
  | checkVersion
  | compression
  | groupId
  | allowAllVariables
deriving DecidableEq, Repr

namespace Field

/-- All fields, in the order in which they are written. -/
def all : List Field :=
  [.host, .port, .username, .password, .applicationName, .encryption, .checkNetwork,
    .checkVersion, .compression, .groupId, .allowAllVariables]

def name : Field → String
  | .host => "host"
  | .port => "port"
  | .username => "username"
  | .password => "password"
  | .applicationName => "application_name"
  | .encryption => "encryption"
  | .checkNetwork => "check_network"
  | .checkVersion => "check_version"
  | .compression => "compression"
  | .groupId => "group_id"
  | .allowAllVariables => "allow_all_env_vars"

def ofName? (name : String) : Option Field := all.find? (·.name == name)

end Field

/-- The profile with a field set from a value of the right kind. -/
def set? (p : Profile) (field : Field) (value : Value) : Option Profile :=
  match field with
  | .host => value.text?.map fun host => { p with host := host }
  | .port =>
    (value.optional? (Value.natural? 65536)).map fun port =>
      { p with port := port.map UInt16.ofNat }
  | .username => value.text?.map fun username => { p with username := username }
  | .password => value.text?.map fun password => { p with password := password }
  | .applicationName =>
    (value.optional? Value.text?).map fun name => { p with applicationName := name }
  | .encryption => value.bool?.map fun b => { p with encryption := b }
  | .checkNetwork => value.bool?.map fun b => { p with checkNetwork := b }
  | .checkVersion => value.bool?.map fun b => { p with checkVersion := b }
  | .compression => value.number?.map fun x => { p with compression := x }
  | .groupId => value.int64?.map fun n => { p with groupId := n }
  | .allowAllVariables => value.bool?.map fun b => { p with allowAllVariables := b }

/-- Set the fields of a document; `seen` lists those that are set already. -/
def setAll (p : Profile) (seen : List Field) : Fields → Except YamlFault Profile
  | [] => .ok p
  | (key, value) :: rest =>
    match Field.ofName? key with
    | none => setAll p seen rest
    | some field =>
      if seen.contains field then .error (.repeatedField key)
      else match p.set? field value with
        | none => .error (.invalidValue key)
        | some p => setAll p (field :: seen) rest

/-- The profile in a document, before its variables are expanded. -/
def ofText (text : String) : Except YamlFault Profile := do setAll {} [] (← readDocument text)

/-- Read a profile and expand its variables. -/
def parse (lookup : String → Option String) (text : String) : Outcome Profile :=
  match ofText text with
  | .error fault => .fail (.document fault)
  | .ok p => do
    Outcome.logAll p.expansionEntries
    return p.expand lookup

/-- What is written of a field; nothing of the password or of a value that is
not set. -/
def content? (p : Profile) : Field → Option Content
  | .host => some (.text p.host)
  | .port => p.port.map fun port => .integer port.toNat
  | .username => some (.text p.username)
  | .password => none
  | .applicationName => p.applicationName.map .text
  | .encryption => some (.bool p.encryption)
  | .checkNetwork => some (.bool p.checkNetwork)
  | .checkVersion => some (.bool p.checkVersion)
  | .compression => some (.number p.compression)
  | .groupId => some (.integer p.groupId.toInt)
  | .allowAllVariables => some (.bool p.allowAllVariables)

/-- The document that a profile is saved as. -/
def toText (p : Profile) : String :=
  writeFields (Field.all.filterMap fun field =>
    (p.content? field).map fun content => (field.name, content))

end ServerLogin.Profile
