import ServerLogin.Files.Path
import ServerLogin.Log.Threshold
import ServerLogin.Number.Single
import ServerLogin.RawArguments

/-!
The options of the command line.  A setting takes a value; a switch takes none.
-/

namespace ServerLogin.CommandLine

open ServerLogin.Text ServerLogin.Number

structure Options where
  host : Option String := none
  port : Option UInt16 := none
  user : Option String := none
  password : Option String := none
  group : Option Int64 := none
  appName : Option String := none
  noEncryption : Bool := false
  noCheckNetwork : Bool := false
  noCheckVersion : Bool := false
  compression : Option Single := none
  profile : Option Path := none
  defaultProfile : Bool := false
  save : Option Path := none
  logLevel : Option Log.Threshold := none
  logFile : Option Path := none
  rawArguments : List String := []
deriving DecidableEq

/-- Options with a value. -/
inductive Setting
  | host
  | port
  | user
  | password
  | group
  | appName
  | compression
  | profile
  | save
  | logLevel
  | logFile
deriving DecidableEq, Repr

/-- Options without a value. -/
inductive Switch
  | noEncryption
  | noCheckNetwork
  | noCheckVersion
  | defaultProfile
deriving DecidableEq, Repr

/-- What an option is. -/
inductive Kind
  | setting (s : Setting)
  | switch (s : Switch)
  | help
  | version
deriving DecidableEq, Repr

/-- The options by their long names. -/
def longNames : List (String × Kind) :=
  [("host", .setting .host), ("port", .setting .port), ("user", .setting .user),
    ("password", .setting .password), ("group", .setting .group),
    ("app-name", .setting .appName), ("no-encryption", .switch .noEncryption),
    ("no-check-network", .switch .noCheckNetwork), ("no-check-version", .switch .noCheckVersion),
    ("compression", .setting .compression), ("profile", .setting .profile),
    ("default-profile", .switch .defaultProfile), ("save", .setting .save),
    ("log-level", .setting .logLevel), ("log-file", .setting .logFile), ("help", .help),
    ("version", .version)]

def letters : List (Char × Kind) :=
  [('s', .setting .host), ('p', .setting .port), ('u', .setting .user),
    ('w', .setting .password), ('g', .setting .group), ('h', .help), ('V', .version)]

private def pathView (path : Path) : String := quoteName path.text

/-- The debug view of a raw argument: a password is hidden. -/
def argumentView (argument : String) : String :=
  quote (if "--omero.pass=".toList.isPrefixOf argument.toList then "--omero.pass=***"
    else argument)

/-- The debug view of the options, without passwords. -/
def Options.view (o : Options) : String :=
  viewRecord "Cli"
    [("host", viewOption quote o.host), ("port", viewOption Server.portText o.port),
      ("user", viewOption quote o.user), ("password", viewOption (fun _ => quote "***") o.password),
      ("group", viewOption (fun g => integerText g.toInt) o.group),
      ("app_name", viewOption quote o.appName), ("no_encryption", viewBool o.noEncryption),
      ("no_check_network", viewBool o.noCheckNetwork),
      ("no_check_version", viewBool o.noCheckVersion),
      ("compression", viewOption (Single.text .debug) o.compression),
      ("profile", viewOption pathView o.profile),
      ("default_profile", viewBool o.defaultProfile), ("save", viewOption pathView o.save),
      ("log_level", viewOption Log.Threshold.view o.logLevel),
      ("log_file", viewOption pathView o.logFile),
      ("raw_args", viewList argumentView o.rawArguments)]

end ServerLogin.CommandLine
