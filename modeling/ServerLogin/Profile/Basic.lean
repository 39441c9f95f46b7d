import ServerLogin.Credentials
import ServerLogin.Template
import ServerLogin.Text.Blank

/-!
Profiles: saved login settings.  Reading a profile expands the variables in its
text fields; turning it into credentials resolves the port like any other way of
building them.
-/

namespace ServerLogin

open ServerLogin.Text ServerLogin.Number

/-- Saved login settings. -/
structure Profile where
  host : String := ""
  port : Option UInt16 := none
  username : String := ""
  password : String := ""
  applicationName : Option String := none
  encryption : Bool := true
  checkNetwork : Bool := true
  checkVersion : Bool := true
  compression : Single := .eightyFivePercent
  groupId : Int64 := defaultGroup
  /-- Whether the fields may refer to any variable. -/
  allowAllVariables : Bool := false
deriving DecidableEq

namespace Profile

/-- Whether two profiles agree; numbers are compared as numbers. -/
def agrees (a b : Profile) : Bool :=
  a.compression.equals b.compression && decide ({ a with compression := b.compression } = b)

def expand (p : Profile) (lookup : String → Option String) : Profile :=
  let value := Template.expand p.allowAllVariables lookup
  { p with
    host := value p.host
    username := value p.username
    password := value p.password
    applicationName := p.applicationName.map value }

/-- What is logged while the variables are expanded. -/
def expansionEntries (p : Profile) : List Log.Entry :=
  ([p.host, p.username, p.password] ++ p.applicationName.toList).flatMap
    (Template.entries p.allowAllVariables)

def toCredentials (p : Profile) : Outcome Credentials :=
  if (trimChars p.host.toList).isEmpty then .fail (.invalidArgument .profileWithoutHost)
  else do
    let c ← Credentials.build p.username p.password p.host p.port
    return { c with
      applicationName := p.applicationName
      encryption := p.encryption
      checkNetwork := p.checkNetwork
      checkVersion := p.checkVersion
      compression := p.compression
      groupId := p.groupId }

def ofCredentials (c : Credentials) : Profile where
  host := c.server.host
  port := c.server.port
  username := c.user.username
  password := c.user.password
  applicationName := c.applicationName
  encryption := c.encryption
  checkNetwork := c.checkNetwork
  checkVersion := c.checkVersion
  compression := c.compression
  groupId := c.groupId

/-- The debug view of a profile, without the password. -/
def view (p : Profile) : String :=
  viewRecord "LoginProfile"
    [("host", quote p.host), ("port", viewOption Server.portText p.port),
      ("username", quote p.username), ("password", viewSecret p.password),
      ("application_name", viewOption quote p.applicationName),
      ("encryption", viewBool p.encryption), ("check_network", viewBool p.checkNetwork),
      ("check_version", viewBool p.checkVersion), ("compression", p.compression.text .debug),
      ("group_id", integerText p.groupId.toInt),
      ("allow_all_env_vars", viewBool p.allowAllVariables)]

end Profile

end ServerLogin
