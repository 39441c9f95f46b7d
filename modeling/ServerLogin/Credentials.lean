import ServerLogin.Server

/-!
Login credentials: who logs in, where, and how the connection behaves.
`Credentials.build` resolves the port of the server; `Credentials.seal` checks
the settings and gives a value that can only be read.
-/

namespace ServerLogin

open ServerLogin.Text ServerLogin.Number

/-- A user name, or the id of a session, and a password. -/
structure User where
  username : String := ""
  password : String := ""
deriving DecidableEq

/-- The debug view of a user, without the password. -/
def User.view (user : User) : String :=
  viewRecord "UserCredentials"
    [("username", quote user.username), ("password", viewSecret user.password)]

/-- The port of a bare host name that gives none. -/
def defaultPort : UInt16 := 4064

/-- The group id that stands for the user's default group. -/
def defaultGroup : Int64 := -1

/-- Everything needed to ask for a connection. -/
structure Credentials where
  user : User := {}
  server : Server := {}
  applicationName : Option String := none
  encryption : Bool := true
  checkNetwork : Bool := true
  checkVersion : Bool := true
  compression : Single := .eightyFivePercent
  groupId : Int64 := defaultGroup
  /-- Raw connection arguments that are still to be interpreted. -/
  arguments : Option (List String) := none
deriving DecidableEq

namespace Credentials

/-- Whether two credentials agree; numbers are compared as numbers, so a NaN
makes credentials differ from themselves. -/
def agrees (a b : Credentials) : Bool :=
  a.compression.equals b.compression && decide ({ a with compression := b.compression } = b)

/-- The group to join, unless it is the default one. -/
def group (c : Credentials) : Option Int64 :=
  if c.groupId = defaultGroup then none else some c.groupId

/-- Credentials that only carry raw arguments. -/
def ofArguments (arguments : Option (List String)) : Outcome Credentials :=
  match arguments with
  | none => .fail (.invalidArgument .noArguments)
  | some args => do
    Outcome.log .debug .credentials
      ("Login credentials created from " ++ naturalText args.length ++ " raw arguments")
    return { arguments := some args }

/-- The port to use: the one given, else the one of the address, else the
default for a bare host name or the port that `portOf?` has for the protocol. -/
def resolvePortBy (portOf? : String → Option UInt16) (given : Option UInt16)
    (server : Server) : Except LoginError UInt16 :=
  match given, server.port, server.protocol with
  | some port, _, _ => .ok port
  | none, some port, _ => .ok port
  | none, none, none => .ok defaultPort
  | none, none, some protocol =>
    match portOf? protocol with
    | some port => .ok port
    | none => .error (.unsupportedProtocol protocol)

/-- The port to use, given the supported protocols. -/
def resolvePort (given : Option UInt16) (server : Server) : Except LoginError UInt16 :=
  resolvePortBy Protocol.portOf? given server

def build (username password host : String) (port : Option UInt16) : Outcome Credentials := do
  let server ← Server.ofHost host
  let port ← .ofResult (resolvePort port server)
  let server := server.setPort port
  Outcome.log .debug .credentials
    ("Login credentials for " ++ quote username ++ " on " ++ server.connectionString)
  return { user := ⟨username, password⟩, server := server }

/-- The first setting that is out of range. -/
def fault? (c : Credentials) : Option SettingFault :=
  if !c.compression.inUnitInterval then some (.compression c.compression)
  else if c.groupId < defaultGroup then some (.group c.groupId)
  else none

def validate (c : Credentials) : Except LoginError Unit :=
  match c.fault? with
  | some fault => .error (.invalidSetting fault)
  | none => .ok ()

def view (c : Credentials) : String :=
  viewRecord "LoginCredentials"
    [("user", c.user.view), ("server", c.server.view),
      ("application_name", viewOption quote c.applicationName),
      ("encryption", viewBool c.encryption), ("check_network", viewBool c.checkNetwork),
      ("check_version", viewBool c.checkVersion), ("compression", c.compression.text .debug),
      ("group_id", integerText c.groupId.toInt),
      ("arguments", viewOption (viewList quote) c.arguments)]

end Credentials

/-- Credentials whose settings have been checked. -/
structure SealedCredentials where
  credentials : Credentials
  valid : credentials.fault? = none
deriving DecidableEq

/-- Check credentials and make them read-only. -/
def Credentials.seal (c : Credentials) : Outcome SealedCredentials :=
  match h : c.fault? with
  | some fault => .fail (.invalidSetting fault)
  | none => do
    Outcome.log .info .credentials
      ("Credentials sealed for " ++ quote c.user.username ++ " on " ++ c.server.connectionString)
    return ⟨c, h⟩

def SealedCredentials.view (s : SealedCredentials) : String :=
  viewWrapped "SealedCredentials" s.credentials.view

end ServerLogin
