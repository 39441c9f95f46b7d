import ServerLogin.CommandLine.Options
import ServerLogin.Environment

/-!
Reading a command line.  The value of a setting is attached to it or stands in
the next argument; a value in the next argument is looked at only when the
argument after it is read.  Everything behind `--` is a raw argument.
-/

namespace ServerLogin.CommandLine

open ServerLogin.Number

/-- Why a command line is not carried out. -/
inductive UsageFault
  | unknownArgument
  | badValue
  | missingValue
  | conflict
  | unneededValue
  | notText
  | help
  | version
deriving DecidableEq, Repr

/-- A setting that waits for its value, or whose value has not been looked at. -/
structure Pending where
  setting : Setting
  value : Option String
deriving DecidableEq, Repr

/-- Where reading stands. -/
structure State where
  options : Options := {}
  pending : Option Pending := none
deriving DecidableEq

/-- Give a field its value, unless it has one already or the value is malformed. -/
def fill {α : Type} (field : Option α) (value : Except UsageFault α) :
    Except UsageFault (Option α) :=
  match field with
  | some _ => .error .conflict
  | none => value.map some

/-- A value that may be malformed. -/
def orBad {α : Type} : Option α → Except UsageFault α
  | some a => .ok a
  | none => .error .badValue

/-- A path, which must not be empty. -/
def path (value : String) : Except UsageFault Path :=
  if value.isEmpty then .error .missingValue else .ok ⟨value⟩

/-- A port.  It is read as any whole number first, so a zero may have a sign. -/
def port? (value : String) : Option UInt16 :=
  (int64? value.toList).bind fun n =>
    if 0 ≤ n ∧ n ≤ 65535 then some (UInt16.ofNat n.toInt.toNat) else none

/-- Set a setting. -/
def Options.set (o : Options) (setting : Setting) (value : String) : Except UsageFault Options :=
  match setting with
  | .host => (fill o.host (.ok value)).map fun x => { o with host := x }
  | .port => (fill o.port (orBad (port? value))).map fun x => { o with port := x }
  | .user => (fill o.user (.ok value)).map fun x => { o with user := x }
  | .password => (fill o.password (.ok value)).map fun x => { o with password := x }
  | .group => (fill o.group (orBad (int64? value.toList))).map fun x => { o with group := x }
  | .appName => (fill o.appName (.ok value)).map fun x => { o with appName := x }
  | .compression =>
    (fill o.compression (orBad (Single.read? value))).map fun x => { o with compression := x }
  | .profile => (fill o.profile (path value)).map fun x => { o with profile := x }
  | .save => (fill o.save (path value)).map fun x => { o with save := x }
  | .logLevel =>
    (fill o.logLevel (match Log.Threshold.ofName? false value with
      | some t => .ok t
      | none => .error .missingValue)).map fun x => { o with logLevel := x }
  | .logFile => (fill o.logFile (path value)).map fun x => { o with logFile := x }

/-- Turn a switch on, which must not be on already. -/
def Options.turnOn (o : Options) (switch : Switch) : Except UsageFault Options :=
  let (on, o) := match switch with
    | .noEncryption => (o.noEncryption, { o with noEncryption := true })
    | .noCheckNetwork => (o.noCheckNetwork, { o with noCheckNetwork := true })
    | .noCheckVersion => (o.noCheckVersion, { o with noCheckVersion := true })
    | .defaultProfile => (o.defaultProfile, { o with defaultProfile := true })
  if on then .error .conflict else .ok o

namespace State

/-- Look at the value of the setting before. -/
def settle (s : State) : Except UsageFault State :=
  match s.pending with
  | none => .ok s
  | some ⟨_, none⟩ => .error .missingValue
  | some ⟨setting, some value⟩ =>
    (s.options.set setting value).map fun options => ⟨options, none⟩

/-- The setting that waits for its value. -/
def waiting? (s : State) : Option Setting :=
  match s.pending with
  | some ⟨setting, none⟩ => some setting
  | _ => none

/-- Read a setting whose value is attached to it. -/
def attach (s : State) (setting : Setting) (value : String) : Except UsageFault State := do
  let s ← s.settle
  return ⟨← s.options.set setting value, none⟩

/-- Read a setting whose value comes next. -/
def await (s : State) (setting : Setting) : Except UsageFault State := do
  let s ← s.settle
  return { s with pending := some ⟨setting, none⟩ }

/-- Read an option without a value behind it. -/
def mark (s : State) : Kind → Except UsageFault State
  | .setting setting => s.await setting
  | .switch switch => do
    let s ← s.settle
    return ⟨← s.options.turnOn switch, none⟩
  | .help => do
    let _ ← s.settle
    throw .help
  | .version => do
    let _ ← s.settle
    throw .version

/-- Read an option by its long name, perhaps with a value behind an equals sign. -/
def long (s : State) (text : List Char) : Except UsageFault State :=
  let (name, value) := match RawArguments.splitEquals? text with
    | some (name, value) => (name, some (String.ofList value))
    | none => (text, none)
  match longNames.lookup (String.ofList name), value with
  | none, _ => .error .unknownArgument
  | some (.setting setting), some value => s.attach setting value
  | some _, some _ => .error .unneededValue
  | some kind, none => s.mark kind

/-- Read letters behind one dash.  The rest after a setting is its value. -/
def short (s : State) : List Char → Except UsageFault State
  | [] => .ok s
  | c :: rest =>
    match letters.lookup c with
    | none => .error .unknownArgument
    | some (.setting setting) =>
      match rest with
      | [] => s.await setting
      | '=' :: value => s.attach setting (String.ofList value)
      | value => s.attach setting (String.ofList value)
    | some kind => do (← s.mark kind).short rest

end State

/-- Whether the text behind a dash makes it a negative number: digits, then
perhaps a point, then perhaps an exponent. -/
def looksNumeric (cs : List Char) : Bool :=
  let afterDigits (cs : List Char) : List Char := cs.dropWhile Char.isDigit
  let exponentOrEnd (cs : List Char) : Bool := match cs with
    | [] => true
    | 'e' :: rest => !rest.isEmpty && rest.all Char.isDigit
    | _ => false
  match cs with
  | [] => true
  | c :: _ =>
    c.isDigit && match afterDigits cs with
      | '.' :: rest => exponentOrEnd (afterDigits rest)
      | rest => exponentOrEnd rest

/-- Read one argument that is not `--`. -/
def State.read (s : State) (argument : String) : Except UsageFault State :=
  let value : Except UsageFault State := match s.waiting? with
    | some setting => .ok { s with pending := some ⟨setting, some argument⟩ }
    | none => .error .unknownArgument
  match argument.toList with
  | '-' :: '-' :: text => s.long text
  | '-' :: c :: rest =>
    if s.waiting? = some .group ∧ looksNumeric (c :: rest) then value else s.short (c :: rest)
  | _ => value

def readAll (s : State) : List String → Except UsageFault State
  | [] => s.settle
  | "--" :: rest => do
    let s ← s.settle
    return { s with options := { s.options with rawArguments := rest } }
  | argument :: rest => do readAll (← s.read argument) rest

/-- Take the password from the environment unless one is given. -/
private def withPassword (env : Environment) (o : Options) : Except UsageFault Options :=
  match o.password, env.bindings.lookup "OMERO_PASSWORD" with
  | none, some (.text password) => .ok { o with password := some password }
  | none, some .notText => .error .notText
  | _, _ => .ok o

/-- Whether at most one of raw arguments, a profile and the default profile is
given. -/
def Options.hasOneBase (o : Options) : Bool :=
  (o.rawArguments.isEmpty || (o.profile.isNone && !o.defaultProfile))
    && (o.profile.isNone || !o.defaultProfile)

def parse (env : Environment) (arguments : List String) : Except UsageFault Options := do
  let s ← readAll {} arguments
  let o ← withPassword env s.options
  if o.hasOneBase then return o else throw .conflict

end ServerLogin.CommandLine
