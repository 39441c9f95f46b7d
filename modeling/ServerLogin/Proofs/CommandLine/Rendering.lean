import Mathlib.Data.List.Nodup
import ServerLogin.Proofs.CommandLine.Reading
import ServerLogin.Proofs.Number.RoundTrip

/-!
Options are read back as they are written.  Each option that is given is written as one
argument, `--name=value` or `--name`, in any order, and raw arguments stand behind `--`.  The
invariant is that after some of the options exactly these are set.
-/

namespace ServerLogin.CommandLine

open ServerLogin.Number

def Kind.longName (kind : Kind) : String :=
  ((longNames.find? fun entry => entry.2 = kind).map Prod.fst).getD ""

theorem lookup_longName (kind : Kind) : longNames.lookup kind.longName = some kind := by
  cases kind with
  | setting s => cases s <;> decide
  | switch s => cases s <;> decide
  | help | version => decide

namespace Options

def text? (o : Options) : Setting → Option String
  | .host => o.host
  | .port => o.port.map Server.portText
  | .user => o.user
  | .password => o.password
  | .group => o.group.map fun group => integerText group.toInt
  | .appName => o.appName
  | .compression => o.compression.map (Single.text .plain)
  | .profile => o.profile.map Path.text
  | .save => o.save.map Path.text
  | .logLevel => o.logLevel.map Log.Threshold.name
  | .logFile => o.logFile.map Path.text

def isOn (o : Options) : Switch → Bool
  | .noEncryption => o.noEncryption
  | .noCheckNetwork => o.noCheckNetwork
  | .noCheckVersion => o.noCheckVersion
  | .defaultProfile => o.defaultProfile

def gives (o : Options) : Kind → Bool
  | .setting s => (o.text? s).isSome
  | .switch s => o.isOn s
  | .help | .version => false

def kinds (o : Options) : List Kind := (longNames.map Prod.snd).filter o.gives

/-- An option that is given, as it is written. -/
def word (o : Options) : Kind → String
  | .setting s => "--" ++ (Kind.setting s).longName ++ "=" ++ (o.text? s).getD ""
  | kind => "--" ++ kind.longName

/-- The raw arguments, as they are written. -/
def tail (o : Options) : List String :=
  if o.rawArguments.isEmpty then [] else "--" :: o.rawArguments

/-- At most one of raw arguments, a profile and the default profile is given. -/
structure OneBase (o : Options) : Prop where
  arguments : o.rawArguments ≠ [] → o.profile = none ∧ o.defaultProfile = false
  profile : o.defaultProfile = true → o.profile = none

/-- Options that can be written: no path is empty, and the compression is a number. -/
structure Writable (o : Options) : Prop where
  profile : ∀ path, o.profile = some path → path.text ≠ ""
  save : ∀ path, o.save = some path → path.text ≠ ""
  logFile : ∀ path, o.logFile = some path → path.text ≠ ""
  compression : o.compression ≠ some .nan

/-- The options of some kinds alone, without raw arguments. -/
def only (o : Options) (kinds : List Kind) : Options where
  host := if .setting .host ∈ kinds then o.host else none
  port := if .setting .port ∈ kinds then o.port else none
  user := if .setting .user ∈ kinds then o.user else none
  password := if .setting .password ∈ kinds then o.password else none
  group := if .setting .group ∈ kinds then o.group else none
  appName := if .setting .appName ∈ kinds then o.appName else none
  noEncryption := decide (.switch .noEncryption ∈ kinds) && o.noEncryption
  noCheckNetwork := decide (.switch .noCheckNetwork ∈ kinds) && o.noCheckNetwork
  noCheckVersion := decide (.switch .noCheckVersion ∈ kinds) && o.noCheckVersion
  compression := if .setting .compression ∈ kinds then o.compression else none
  profile := if .setting .profile ∈ kinds then o.profile else none
  defaultProfile := decide (.switch .defaultProfile ∈ kinds) && o.defaultProfile
  save := if .setting .save ∈ kinds then o.save else none
  logLevel := if .setting .logLevel ∈ kinds then o.logLevel else none
  logFile := if .setting .logFile ∈ kinds then o.logFile else none

theorem hasOneBase_iff {o : Options} : o.hasOneBase = true ↔ o.OneBase := by
  have hraw : o.rawArguments.isEmpty = true ↔ o.rawArguments = [] := List.isEmpty_iff
  have hprofile : o.profile.isNone = true ↔ o.profile = none := Option.isNone_iff_eq_none
  simp only [hasOneBase, Bool.and_eq_true, Bool.or_eq_true, Bool.not_eq_true', hraw, hprofile]
  constructor
  · rintro ⟨harguments, hdefault⟩
    constructor
    · intro hne
      exact harguments.resolve_left hne
    · intro hon
      exact hdefault.resolve_right (by simp [hon])
  · intro h
    constructor
    · by_cases hempty : o.rawArguments = []
      · exact .inl hempty
      · exact .inr (h.arguments hempty)
    · cases hon : o.defaultProfile with
      | false => exact .inr rfl
      | true => exact .inl (h.profile hon)

end Options

theorem port?_portText (port : UInt16) : port? (Server.portText port) = some port := by
  have hsize := port.toNat_lt
  have hvalue : (Int64.ofNat port.toNat).toInt = port.toNat := by
    rw [Int64.toInt_ofNat_of_lt]
    omega
  have htext : Server.portText port = integerText (Int64.ofNat port.toNat).toInt := by
    have hpositive : ¬((port.toNat : Int) < 0) := by omega
    rw [Server.portText, naturalText, integerText, hvalue, if_neg hpositive, Int.natAbs_natCast]
  have hrange : 0 ≤ Int64.ofNat port.toNat ∧ Int64.ofNat port.toNat ≤ 65535 := by
    rw [Int64.le_iff_toInt_le, Int64.le_iff_toInt_le, hvalue]
    change (0 : Int) ≤ port.toNat ∧ (port.toNat : Int) ≤ 65535
    omega
  rw [port?, htext, int64?_integerText, Option.bind_some, if_pos hrange, hvalue, Int.toNat_natCast,
    UInt16.ofNat_toNat]

theorem ofName?_name (level : Log.Threshold) :
    Log.Threshold.ofName? false level.name = some level := by
  cases level <;> decide

theorem path_text {p : Path} (h : p.text ≠ "") : path p.text = .ok p := by
  rw [path, if_neg (by rwa [String.isEmpty_iff])]

namespace Options

/-- Setting what has been written, where it is not set, gives it back. -/
theorem set_only {o : Options} (h : o.Writable) {kinds : List Kind} {s : Setting} {value : String}
    (hnew : .setting s ∉ kinds) (hvalue : o.text? s = some value) :
    (o.only kinds).set s value = .ok (o.only (.setting s :: kinds)) := by
  cases s with
  | host | user | password | appName =>
    simp only [text?] at hvalue
    simp [set, only, fill, hnew, hvalue, Except.map]
  | port =>
    obtain ⟨port, hfield, rfl⟩ := Option.map_eq_some_iff.mp hvalue
    simp [set, only, fill, orBad, port?_portText, hnew, hfield, Except.map]
  | group =>
    obtain ⟨group, hfield, rfl⟩ := Option.map_eq_some_iff.mp hvalue
    simp [set, only, fill, orBad, int64?_integerText, hnew, hfield, Except.map]
  | compression =>
    obtain ⟨compression, hfield, rfl⟩ := Option.map_eq_some_iff.mp hvalue
    have hnumber : compression ≠ .nan := by
      rintro rfl
      exact h.compression hfield
    simp [set, only, fill, orBad, Single.read?_text hnumber, hnew, hfield, Except.map]
  | profile =>
    obtain ⟨path, hfield, rfl⟩ := Option.map_eq_some_iff.mp hvalue
    simp [set, only, fill, path_text (h.profile path hfield), hnew, hfield, Except.map]
  | save =>
    obtain ⟨path, hfield, rfl⟩ := Option.map_eq_some_iff.mp hvalue
    simp [set, only, fill, path_text (h.save path hfield), hnew, hfield, Except.map]
  | logFile =>
    obtain ⟨path, hfield, rfl⟩ := Option.map_eq_some_iff.mp hvalue
    simp [set, only, fill, path_text (h.logFile path hfield), hnew, hfield, Except.map]
  | logLevel =>
    obtain ⟨level, hfield, rfl⟩ := Option.map_eq_some_iff.mp hvalue
    simp [set, only, fill, ofName?_name, hnew, hfield, Except.map]

theorem turnOn_only {o : Options} {kinds : List Kind} {s : Switch} (hnew : .switch s ∉ kinds)
    (hon : o.isOn s = true) :
    (o.only kinds).turnOn s = .ok (o.only (.switch s :: kinds)) := by
  cases s <;>
  · simp only [isOn] at hon
    simp [turnOn, only, hnew, hon]

/-- Nothing is missing when all options that are given are there. -/
theorem only_of_kinds {o : Options} {kinds : List Kind}
    (h : ∀ kind, o.gives kind = true → kind ∈ kinds) :
    { o.only kinds with rawArguments := o.rawArguments } = o := by
  have hfield : ∀ {α : Type} (field : Option α) (s : Setting),
      (o.text? s).isSome = field.isSome → (if .setting s ∈ kinds then field else none) = field := by
    intro α field s hgives
    split
    · rfl
    · next hmissing =>
      cases field with
      | none => rfl
      | some a => exact absurd (h (.setting s) hgives) hmissing
  have hswitch : ∀ s, (decide (.switch s ∈ kinds) && o.isOn s) = o.isOn s := by
    intro s
    cases hon : o.isOn s with
    | false => exact Bool.and_false _
    | true => rw [decide_eq_true (h (.switch s) hon), Bool.and_true]
  simp only [only, hfield o.host .host rfl, hfield o.port .port Option.isSome_map,
    hfield o.user .user rfl, hfield o.password .password rfl,
    hfield o.group .group Option.isSome_map, hfield o.appName .appName rfl,
    hfield o.compression .compression Option.isSome_map,
    hfield o.profile .profile Option.isSome_map, hfield o.save .save Option.isSome_map,
    hfield o.logLevel .logLevel Option.isSome_map, hfield o.logFile .logFile Option.isSome_map]
  have hencryption := hswitch .noEncryption
  have hnetwork := hswitch .noCheckNetwork
  have hversion := hswitch .noCheckVersion
  have hdefault := hswitch .defaultProfile
  simp only [isOn] at hencryption hnetwork hversion hdefault
  rw [hencryption, hnetwork, hversion, hdefault]

end Options

/-- An option that is written is read, whatever has been read before it. -/
theorem State.read_word {o : Options} (h : o.Writable) {kinds : List Kind} {kind : Kind}
    (hnew : kind ∉ kinds) (hgives : o.gives kind = true) :
    State.read ⟨o.only kinds, none⟩ (o.word kind) = .ok ⟨o.only (kind :: kinds), none⟩ := by
  cases kind with
  | setting s =>
    obtain ⟨value, hvalue⟩ := Option.isSome_iff_exists.mp hgives
    rw [Options.word, State.read_attached (lookup_longName _), hvalue, Option.getD_some,
      State.attach]
    change ((o.only kinds).set s value).bind _ = _
    rw [Options.set_only h hnew hvalue]
    rfl
  | switch s =>
    rw [Options.word, State.read_name (lookup_longName _), State.mark]
    · change ((o.only kinds).turnOn s).bind _ = _
      rw [Options.turnOn_only hnew hgives]
      rfl
    · intro s hsetting
      cases hsetting
  | help | version => cases hgives

theorem longName_ne (kind : Kind) : kind.longName ≠ "" := by
  intro hempty
  have hnone : longNames.lookup "" = none := by decide
  have hlookup := lookup_longName kind
  rw [hempty, hnone] at hlookup
  cases hlookup

theorem word_ne_end (o : Options) (kind : Kind) : o.word kind ≠ "--" := by
  have hlong : ∀ text : String, text ≠ "" → "--" ++ text ≠ "--" := by
    intro text hne hsame
    have htext := congrArg String.toList hsame
    rw [String.toList_append] at htext
    exact hne (String.toList_eq_nil_iff.mp (List.append_right_eq_self.mp htext))
  cases kind with
  | setting s =>
    rw [Options.word, String.append_assoc, String.append_assoc]
    apply hlong
    intro hempty
    have htext := congrArg String.toList hempty
    simp at htext
  | switch | help | version =>
    apply hlong
    exact longName_ne _

/-- After some of the options exactly these are set. -/
theorem State.foldlM_words {o : Options} (h : o.Writable) {kinds before : List Kind}
    (hgives : ∀ kind ∈ kinds, o.gives kind = true) (hnodup : (before.reverse ++ kinds).Nodup) :
    (kinds.map o.word).foldlM State.read ⟨o.only before, none⟩ =
      .ok ⟨o.only (kinds.reverse ++ before), none⟩ := by
  induction kinds generalizing before with
  | nil => rfl
  | cons kind rest ih =>
    rw [List.forall_mem_cons] at hgives
    have hnew : kind ∉ before := by
      intro hmem
      have hdisjoint := List.disjoint_of_nodup_append hnodup
      exact hdisjoint (List.mem_reverse.mpr hmem) List.mem_cons_self
    have hrest : ((kind :: before).reverse ++ rest).Nodup := by
      rw [List.reverse_cons, List.append_assoc]
      exact hnodup
    rw [List.map_cons, List.foldlM_cons, State.read_word h hnew hgives.1]
    change (rest.map o.word).foldlM State.read ⟨o.only (kind :: before), none⟩ = _
    rw [ih hgives.2 hrest, List.reverse_cons, List.append_assoc]
    rfl

/-- Raw arguments are taken as they are, whatever they look like. -/
theorem readAll_tail {s : State} (h : s.pending = none) (hraw : s.options.rawArguments = [])
    (o : Options) :
    readAll s o.tail =
      .ok { s with options := { s.options with rawArguments := o.rawArguments } } := by
  have hsettle := State.settle_of_pending h
  by_cases hempty : o.rawArguments = []
  · rw [Options.tail, hempty, List.isEmpty_nil, if_pos rfl, readAll, hsettle, ← hraw]
  · have htail : o.tail = "--" :: o.rawArguments := if_neg (by rwa [List.isEmpty_iff])
    rw [htail, readAll, hsettle]
    rfl

theorem gives_of_mem_kinds {o : Options} {kind : Kind} (h : kind ∈ o.kinds) :
    o.gives kind = true := (List.mem_filter.mp h).2

theorem mem_kinds_of_gives {o : Options} {kind : Kind} (h : o.gives kind = true) :
    kind ∈ o.kinds :=
  List.mem_filter.mpr ⟨List.mem_map_of_mem (mem_of_lookup (lookup_longName kind)), h⟩

theorem nodup_kinds (o : Options) : o.kinds.Nodup := by
  have hall : (longNames.map Prod.snd).Nodup := by decide
  exact hall.filter _

/-- Options that are written in any order, with raw arguments behind them, are read back. -/
theorem parse_words {o : Options} (hbase : o.OneBase) (h : o.Writable) {kinds : List Kind}
    (horder : kinds.Perm o.kinds) {env : Environment}
    (henv : env.bindings.lookup "OMERO_PASSWORD" = none) :
    parse env (kinds.map o.word ++ o.tail) = .ok o := by
  have hend : "--" ∉ kinds.map o.word := by
    intro hmem
    obtain ⟨kind, -, hword⟩ := List.mem_map.mp hmem
    exact word_ne_end o kind hword
  have hgives : ∀ kind ∈ kinds, o.gives kind = true := fun kind hmem =>
    gives_of_mem_kinds (horder.mem_iff.mp hmem)
  have hwords : (kinds.map o.word).foldlM State.read ⟨o.only [], none⟩ =
      .ok ⟨o.only (kinds.reverse ++ []), none⟩ :=
    State.foldlM_words h hgives (horder.nodup_iff.mpr (nodup_kinds o))
  have hread : readAll {} (kinds.map o.word ++ o.tail) = .ok ⟨o, none⟩ := by
    rw [readAll_append hend]
    change (kinds.map o.word).foldlM State.read ⟨o.only [], none⟩ >>= _ = _
    rw [hwords]
    change readAll _ o.tail = _
    rw [readAll_tail rfl rfl, Options.only_of_kinds]
    intro kind hkind
    rw [List.append_nil, List.mem_reverse, horder.mem_iff]
    exact mem_kinds_of_gives hkind
  rw [parse_of_readAll hread (.inr henv), if_pos (Options.hasOneBase_iff.mpr hbase)]

end ServerLogin.CommandLine
