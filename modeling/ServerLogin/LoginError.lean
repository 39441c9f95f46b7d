import ServerLogin.Files.Fault
import ServerLogin.Number.Single
import ServerLogin.Protocol
import ServerLogin.Text.Quoted
import ServerLogin.Url.Fault
import ServerLogin.Yaml.Fault

/-!
Why building, checking, reading or saving login settings fails.
-/

namespace ServerLogin

open ServerLogin.Number

/-- An input that is absent or malformed. -/
inductive ArgumentFault
  | badUrl (host : String) (fault : UrlFault)
  | noArguments
  | badNumber (key value : String)
  | missingHost
  | profileWithoutHost
deriving DecidableEq

/-- A setting that is out of range. -/
inductive SettingFault
  | compression (value : Single)
  | group (value : Int64)
deriving DecidableEq

/-- The reasons for which an operation on login settings fails. -/
inductive LoginError
  | invalidArgument (fault : ArgumentFault)
  | unsupportedProtocol (protocol : String)
  | invalidSetting (fault : SettingFault)
  | file (fault : FileFault)
  | document (fault : YamlFault)
deriving DecidableEq

def ArgumentFault.message : ArgumentFault → String
  | .badUrl host fault => "Invalid server URL '" ++ host ++ "': " ++ fault.message
  | .noArguments => "No connection arguments"
  | .badNumber key value => "Invalid value for omero." ++ key ++ ": " ++ Text.quote value
  | .missingHost => "Missing --omero.host"
  | .profileWithoutHost => "Profile has no host"

def SettingFault.message : SettingFault → String
  | .compression value => "compression must be between 0.0 and 1.0, got " ++ value.text .plain
  | .group value =>
    "group_id must be -1 or a non-negative group id, got " ++ integerText value.toInt

namespace LoginError

def message : LoginError → String
  | invalidArgument fault => "Invalid argument: " ++ fault.message
  | unsupportedProtocol protocol =>
    protocol ++ " is not supported. Supported protocols: " ++ Protocol.names
  | invalidSetting fault => "Credentials validation error: " ++ fault.message
  | file fault => "I/O error reading profile: " ++ fault.message
  | document fault => "YAML parse error in profile: " ++ fault.message

/-- The error that lies behind this one. -/
def cause? : LoginError → Option String
  | file fault => some fault.message
  | document fault => some fault.message
  | _ => none

end LoginError

end ServerLogin
