import ServerLogin.Proofs.CommandLine.Reading

/-!
An option for the log, added to a command line that has none of its kind.  It stands anywhere in
front of `--`, but not between an option and its value.  From there on reading goes as it does
without it; so the command line is refused all the same, or gives the same options but for the
one.
-/

namespace ServerLogin.CommandLine

open ServerLogin.RawArguments

/-- The options with a log file and a log level. -/
def Options.logTo (file : Path) (level : Log.Threshold) (o : Options) : Options :=
  { o with logFile := some file, logLevel := some level }

/-- An option for the log. -/
inductive LogOption
  | file (path : Path)
  | level (threshold : Log.Threshold)

namespace LogOption

/-- The long name of the option; it has no letter. -/
def name : LogOption → String
  | file _ => "log-file"
  | level _ => "log-level"

def setting : LogOption → Setting
  | file _ => .logFile
  | level _ => .logLevel

def value : LogOption → String
  | file path => path.text
  | level threshold => threshold.name

/-- The path of a file must not be empty. -/
def WellFormed : LogOption → Prop
  | file path => path.text ≠ ""
  | level _ => True

/-- No option of its kind is given. -/
def Absent : LogOption → Options → Prop
  | file _, o => o.logFile = none
  | level _, o => o.logLevel = none

/-- The options with this one, too. -/
def addTo : LogOption → Options → Options
  | file path, o => { o with logFile := some path }
  | level threshold, o => { o with logLevel := some threshold }

/-- Options without one of its kind, beside options that have this one and differ from them in
nothing else. -/
structure Given (option : LogOption) (o o' : Options) : Prop where
  absent : option.Absent o
  eq : o' = option.addTo o

end LogOption

/-- How an option for the log is written: its value is attached to it or comes next. -/
inductive LogOption.Writes (option : LogOption) : List String → Prop
  | attached : option.Writes ["--" ++ option.name ++ "=" ++ option.value]
  | apart : isValue option.value = true → option.Writes ["--" ++ option.name, option.value]

/-- One option for the log more. -/
inductive LogOption.Adds (option : LogOption) : List String → List String → Prop
  | intro {before written : List String} (after : List String) :
    endsOption before = true → option.Writes written →
      option.Adds (before ++ after) (before ++ written ++ after)

/-- Two ways to read go on alike: what they come to is related, or both are refused, if not
always for the same reason. -/
inductive Alike {α : Type} (R : α → α → Prop) : Except UsageFault α → Except UsageFault α → Prop
  | ok {x y : α} : R x y → Alike R (.ok x) (.ok y)
  | same (fault : UsageFault) : Alike R (.error fault) (.error fault)
  | refused {fault other : UsageFault} : fault.Refuses → other.Refuses →
    Alike R (.error fault) (.error other)

namespace Alike

variable {α β : Type} {R : α → α → Prop} {Q : β → β → Prop} {x y : Except UsageFault α}

theorem bind {f g : α → Except UsageFault β} (h : Alike R x y)
    (hnext : ∀ a b, R a b → Alike Q (f a) (g b)) : Alike Q (x >>= f) (y >>= g) := by
  cases h with
  | ok h => exact hnext _ _ h
  | same fault => exact .same fault
  | refused h h' => exact .refused h h'

theorem exists_ok {a : α} (h : Alike R (.ok a) y) : ∃ b, y = .ok b ∧ R a b := by
  cases h with
  | ok h => exact ⟨_, rfl, h⟩

theorem exists_error {fault : UsageFault} (h : Alike R (.error fault) y) :
    ∃ other, y = .error other := by
  cases h with
  | same => exact ⟨fault, rfl⟩
  | @refused _ other => exact ⟨other, rfl⟩

theorem map {f g : α → β} (h : Alike R x y) (hnext : ∀ a b, R a b → Q (f a) (g b)) :
    Alike Q (x.map f) (y.map g) :=
  h.bind fun a b hab => .ok (hnext a b hab)

end Alike

variable {option : LogOption}

namespace LogOption

theorem lookup_name (option : LogOption) :
    longNames.lookup option.name = some (.setting option.setting) := by
  cases option <;> rfl

theorem equals_notMem_name (option : LogOption) : '=' ∉ option.name.toList := by
  cases option with
  | file =>
    change '=' ∉ "log-file".toList
    decide
  | level =>
    change '=' ∉ "log-level".toList
    decide

/-- No option with one letter is about the log. -/
theorem ne_setting_of_letter {c : Char} {setting : Setting}
    (h : letters.lookup c = some (.setting setting)) : setting ≠ option.setting := by
  have hletters : ∀ entry ∈ letters,
      entry.2 ≠ .setting .logFile ∧ entry.2 ≠ .setting .logLevel := by decide
  obtain ⟨hfile, hlevel⟩ := hletters _ (mem_of_lookup h)
  rintro rfl
  cases option with
  | file => exact hfile rfl
  | level => exact hlevel rfl

/-- No other long name means the option. -/
theorem ne_setting_of_longName {name : String} {setting : Setting} (hname : name ≠ option.name)
    (h : longNames.lookup name = some (.setting setting)) : setting ≠ option.setting := by
  have hnames : ∀ entry ∈ longNames, (entry.2 = .setting .logFile → entry.1 = "log-file") ∧
      (entry.2 = .setting .logLevel → entry.1 = "log-level") := by decide
  obtain ⟨hfile, hlevel⟩ := hnames _ (mem_of_lookup h)
  rintro rfl
  cases option with
  | file => exact hname (hfile rfl)
  | level => exact hname (hlevel rfl)

theorem set_self (hform : option.WellFormed) {o : Options} (h : option.Absent o) :
    o.set option.setting option.value = .ok (option.addTo o) := by
  cases option with
  | file path =>
    have hpath : path.text ≠ "" := hform
    have habsent : o.logFile = none := h
    rw [setting, value, Options.set, habsent]
    change ((if path.text.isEmpty then Except.error UsageFault.missingValue
      else .ok (⟨path.text⟩ : Path)).map some).map _ = _
    rw [if_neg (by simpa using hpath)]
    rfl
  | level threshold =>
    have habsent : o.logLevel = none := h
    rw [setting, value, Options.set, habsent]
    cases threshold <;> rfl

namespace Given

variable {o o' : Options}

/-- Setting something else is the same with and without the option. -/
theorem set (h : option.Given o o') {setting : Setting} (hother : setting ≠ option.setting)
    (value : String) : Alike option.Given (o.set setting value) (o'.set setting value) := by
  have hmap : ∀ {α : Type} (r : Except UsageFault α) {f f' : α → Options},
      (∀ a, option.Absent (f a)) → (∀ a, f' a = option.addTo (f a)) →
        Alike option.Given (r.map f) (r.map f') := by
    intro α r f f' hf hf'
    cases r with
    | error fault => exact .same fault
    | ok a => exact .ok ⟨hf a, hf' a⟩
  obtain ⟨habsent, rfl⟩ := h
  cases option with
  | file => cases setting with
    | logFile => exact absurd rfl hother
    | _ => exact hmap _ (fun _ => habsent) fun _ => rfl
  | level => cases setting with
    | logLevel => exact absurd rfl hother
    | _ => exact hmap _ (fun _ => habsent) fun _ => rfl

theorem turnOn (h : option.Given o o') (switch : Switch) :
    Alike option.Given (o.turnOn switch) (o'.turnOn switch) := by
  have hif : ∀ (on : Bool) (o : Options), option.Absent o →
      Alike option.Given (if on then .error .conflict else .ok o)
        (if on then .error .conflict else .ok (option.addTo o)) := by
    intro on o ho
    cases on with
    | true => exact .same _
    | false => exact .ok ⟨ho, rfl⟩
  obtain ⟨habsent, rfl⟩ := h
  cases option <;> cases switch <;> exact hif _ _ habsent

end Given

end LogOption

namespace State

/-- Where reading stands without this option, and where it stands with it. -/
structure Given (option : LogOption) (s s' : State) : Prop where
  options : option.Given s.options s'.options
  pending : s'.pending = s.pending
  other : ∀ p, s.pending = some p → p.setting ≠ option.setting

variable {s s' t : State}

namespace Given

theorem of_options {o o' : Options} (h : option.Given o o') :
    State.Given option ⟨o, none⟩ ⟨o', none⟩ := ⟨h, rfl, nofun⟩

theorem waiting? (h : s.Given option s') : s'.waiting? = s.waiting? := by
  unfold State.waiting?
  rw [h.pending]

/-- The setting that waits for its value is another one. -/
theorem ne_of_waiting? (h : s.Given option s') {setting : Setting}
    (hwaiting : s.waiting? = some setting) : setting ≠ option.setting := by
  unfold State.waiting? at hwaiting
  split at hwaiting
  · next hpending =>
    cases hwaiting
    exact h.other _ hpending
  · cases hwaiting

theorem settle (h : s.Given option s') : Alike (State.Given option) s.settle s'.settle := by
  have hpending := h.pending
  unfold State.settle
  cases hs : s.pending with
  | none =>
    rw [hpending, hs]
    exact .ok h
  | some p =>
    obtain ⟨setting, value⟩ := p
    rw [hpending, hs]
    cases value with
    | none => exact .same _
    | some value => exact (h.options.set (h.other _ hs) value).map fun _ _ => of_options

theorem attach (h : s.Given option s') {setting : Setting} (hother : setting ≠ option.setting)
    (value : String) :
    Alike (State.Given option) (s.attach setting value) (s'.attach setting value) :=
  h.settle.bind fun _ _ ht => (ht.options.set hother value).bind fun _ _ ho =>
    .ok (of_options ho)

theorem await (h : s.Given option s') {setting : Setting} (hother : setting ≠ option.setting) :
    Alike (State.Given option) (s.await setting) (s'.await setting) := by
  refine h.settle.bind fun t t' ht => .ok ⟨ht.options, rfl, fun p hp => ?_⟩
  cases hp
  exact hother

theorem mark (h : s.Given option s') {kind : Kind}
    (hother : ∀ setting, kind = .setting setting → setting ≠ option.setting) :
    Alike (State.Given option) (s.mark kind) (s'.mark kind) := by
  cases kind with
  | setting setting => exact h.await (hother setting rfl)
  | switch switch =>
    exact h.settle.bind fun _ _ ht => (ht.options.turnOn switch).bind fun _ _ ho =>
      .ok (of_options ho)
  | help => exact h.settle.bind fun _ _ _ => .same _
  | version => exact h.settle.bind fun _ _ _ => .same _

theorem short (h : s.Given option s') (cs : List Char) :
    Alike (State.Given option) (s.short cs) (s'.short cs) := by
  induction cs generalizing s s' with
  | nil => exact .ok h
  | cons c rest ih =>
    rw [State.short, State.short]
    cases hkind : letters.lookup c with
    | none => exact .same _
    | some kind =>
      have hmark (hother : ∀ setting, kind = .setting setting → setting ≠ option.setting) :
          Alike (State.Given option) (s.mark kind >>= (·.short rest))
            (s'.mark kind >>= (·.short rest)) :=
        (h.mark hother).bind fun _ _ ht => ih ht
      cases kind with
      | setting setting =>
        have hother : setting ≠ option.setting := LogOption.ne_setting_of_letter hkind
        dsimp only
        split
        · exact h.await hother
        · exact h.attach hother _
        · exact h.attach hother _
      | _ => exact hmark fun _ hsetting => by cases hsetting

theorem long (h : s.Given option s') {argument : String} {text : List Char}
    (hargument : argument.toList = '-' :: '-' :: text)
    (hname : longName? argument ≠ some option.name) :
    Alike (State.Given option) (s.long text) (s'.long text) := by
  rw [longName?_of_toList hargument] at hname
  unfold State.long
  cases hsplit : splitEquals? text with
  | none =>
    rw [hsplit] at hname
    dsimp only at hname ⊢
    cases hkind : longNames.lookup (String.ofList text) with
    | none => exact .same _
    | some kind =>
      have hother : ∀ setting, kind = .setting setting → setting ≠ option.setting := by
        rintro setting rfl
        exact LogOption.ne_setting_of_longName (fun heq => hname (congrArg some heq)) hkind
      cases kind <;> exact h.mark hother
  | some parts =>
    obtain ⟨name, value⟩ := parts
    rw [hsplit] at hname
    dsimp only at hname ⊢
    cases hkind : longNames.lookup (String.ofList name) with
    | none => exact .same _
    | some kind =>
      cases kind with
      | setting setting =>
        exact h.attach
          (LogOption.ne_setting_of_longName (fun heq => hname (congrArg some heq)) hkind) _
      | _ => exact .same _

/-- An argument that is no option is the value of the setting that waits for one. -/
theorem value (h : s.Given option s') (argument : String) :
    Alike (State.Given option)
      (match s.waiting? with
        | some setting => .ok { s with pending := some ⟨setting, some argument⟩ }
        | none => .error .unknownArgument)
      (match s'.waiting? with
        | some setting => .ok { s' with pending := some ⟨setting, some argument⟩ }
        | none => .error .unknownArgument) := by
  rw [h.waiting?]
  cases hsetting : s.waiting? with
  | none => exact .same _
  | some setting =>
    refine .ok ⟨h.options, rfl, fun p hp => ?_⟩
    cases hp
    exact h.ne_of_waiting? hsetting

theorem read (h : s.Given option s') {argument : String}
    (hname : longName? argument ≠ some option.name) :
    Alike (State.Given option) (s.read argument) (s'.read argument) := by
  have hvalue := h.value argument
  rw [h.waiting?] at hvalue
  unfold State.read
  dsimp only
  rw [h.waiting?]
  split
  · next text hargument => exact h.long hargument hname
  · split
    · exact hvalue
    · exact h.short _
  · exact hvalue

theorem foldlM (h : s.Given option s') {arguments : List String}
    (hname : ∀ argument ∈ arguments, longName? argument ≠ some option.name) :
    Alike (State.Given option) (arguments.foldlM State.read s)
      (arguments.foldlM State.read s') := by
  induction arguments generalizing s s' with
  | nil => exact .ok h
  | cons argument rest ih =>
    rw [List.foldlM_cons, List.foldlM_cons]
    rw [List.forall_mem_cons] at hname
    exact (h.read hname.1).bind fun _ _ ht => ih ht hname.2

end Given

end State

/-- Reading goes on with the option as it does without it. -/
theorem State.Given.readAll {s s' : State} (h : s.Given option s') {arguments : List String}
    (hwithout : Without option.name arguments) :
    Alike (State.Given option) (readAll s arguments) (readAll s' arguments) := by
  have hbefore : "--" ∉ arguments.takeWhile (· ≠ "--") := fun hmem => by
    simpa using List.mem_takeWhile_imp hmem
  rw [← List.takeWhile_append_dropWhile (p := (· ≠ "--")) (l := arguments)]
  rw [readAll_append hbefore, readAll_append hbefore]
  refine (h.foldlM hwithout).bind fun t t' ht => ?_
  cases hrest : arguments.dropWhile (· ≠ "--") with
  | nil => exact ht.settle
  | cons argument rest =>
    have hend : argument = "--" := by
      have hhead := List.head?_dropWhile_not (· ≠ "--") arguments
      rw [hrest] at hhead
      simpa using hhead
    subst hend
    refine ht.settle.bind fun u u' hu => .ok ⟨⟨?_, ?_⟩, hu.pending, hu.other⟩
    · cases option <;> exact hu.options.absent
    · rw [hu.options.eq]
      cases option <;> rfl

namespace LogOption

variable {written arguments longer : List String}

theorem toList_attached (option : LogOption) :
    ("--" ++ option.name ++ "=" ++ option.value).toList =
      '-' :: '-' :: (option.name.toList ++ '=' :: option.value.toList) := by
  simp

theorem toList_apart (option : LogOption) :
    ("--" ++ option.name).toList = '-' :: '-' :: option.name.toList := by
  simp

namespace Writes

theorem end_notMem (h : option.Writes written) : "--" ∉ written := by
  cases h with
  | attached =>
    intro hmem
    have htext := toList_attached option
    rw [← List.mem_singleton.mp hmem] at htext
    exact absurd (congrArg List.length htext) (by simp)
  | apart hvalue =>
    intro hmem
    rcases List.mem_pair.mp hmem with hname | hend
    · have htext := toList_apart option
      rw [← hname] at htext
      have hlength := congrArg List.length htext
      cases option <;> simp [name] at hlength
    · rw [← hend] at hvalue
      exact absurd hvalue (by decide)

/-- What is written gives no option with another name. -/
theorem longName?_ne (h : option.Writes written) {name : String} (hname : name ≠ option.name) :
    ∀ argument ∈ written, longName? argument ≠ some name := by
  cases h with
  | attached =>
    rw [List.forall_mem_singleton, longName?_of_toList (toList_attached option),
      splitEquals?_append option.equals_notMem_name]
    simpa using hname.symm
  | apart hvalue =>
    simp only [List.forall_mem_cons, List.not_mem_nil, false_imp_iff, implies_true, and_true]
    constructor
    · rw [longName?_of_toList (toList_apart option),
        splitEquals?_eq_none option.equals_notMem_name]
      simpa using hname.symm
    · rw [longName?_of_isValue hvalue]
      nofun

/-- The option is read as what it is. -/
theorem readAll (h : option.Writes written) (hform : option.WellFormed) {s t : State}
    (hsettle : s.settle = .ok t) (habsent : option.Absent t.options) (rest : List String) :
    readAll s (written ++ rest) = readAll { t with options := option.addTo t.options } rest := by
  have hend := h.end_notMem
  have hnone : t.pending = none := State.pending_of_settle hsettle
  have hset := option.set_self hform habsent
  rw [readAll_append hend]
  cases h with
  | attached =>
    have hread : s.read ("--" ++ option.name ++ "=" ++ option.value) =
        .ok ⟨option.addTo t.options, none⟩ := by
      rw [State.read_attached option.lookup_name, State.attach, hsettle]
      change (t.options.set option.setting option.value).bind _ = _
      rw [hset]
      rfl
    rw [List.foldlM_cons, hread, hnone]
    rfl
  | apart hvalue =>
    have hname : s.read ("--" ++ option.name) =
        .ok { t with pending := some ⟨option.setting, none⟩ } := by
      rw [State.read_name option.lookup_name, State.mark, State.await, hsettle]
      rfl
    have hread : State.read { t with pending := some ⟨option.setting, none⟩ } option.value =
        .ok { t with pending := some ⟨option.setting, some option.value⟩ } :=
      State.read_value rfl hvalue
    change (s.read _ >>= fun t => State.read t option.value >>= pure) >>= _ = _
    rw [hname]
    change (State.read _ _ >>= pure) >>= _ = _
    rw [hread]
    refine readAll_congr ?_ rfl ?_ rest
    · have hdone : State.settle ⟨option.addTo t.options, none⟩ =
          .ok ⟨option.addTo t.options, none⟩ := State.settle_of_pending rfl
      rw [hnone, hdone]
      change (t.options.set option.setting option.value).map _ = _
      rw [hset]
      rfl
    · unfold State.waiting?
      rw [hnone]

end Writes

end LogOption

namespace LogOption.Adds

variable {arguments longer : List String}

/-- An option for the log that is added does not give another one. -/
theorem without (h : option.Adds arguments longer) {name : String} (hname : name ≠ option.name)
    (hwithout : Without name arguments) : Without name longer := by
  obtain ⟨after, hbefore, hwritten⟩ := h
  obtain ⟨hend, _⟩ := endsOption_iff.mp hbefore
  rw [without_append hend] at hwithout
  rw [List.append_assoc, without_append hend, without_append hwritten.end_notMem]
  exact ⟨hwithout.1, hwritten.longName?_ne hname, hwithout.2⟩

/-- All arguments are read alike with and without the option. -/
theorem readAll (h : option.Adds arguments longer) (hform : option.WellFormed)
    (hwithout : Without option.name arguments) :
    Alike (State.Given option) (readAll {} arguments) (readAll {} longer) := by
  obtain @⟨before, written, after, hbefore, hwritten⟩ := h
  obtain ⟨hend, hwaiting⟩ := endsOption_iff.mp hbefore
  rw [without_append hend] at hwithout
  rw [List.append_assoc, readAll_append hend, readAll_append hend]
  have hgiven : State.Given option {} ⟨option.addTo {}, none⟩ :=
    .of_options ⟨by cases option <;> rfl, rfl⟩
  have hstart := hgiven.foldlM hwithout.1
  cases hs : before.foldlM State.read {} with
  | error fault => exact .same fault
  | ok s =>
    have hidle := hwaiting s hs
    rw [hs] at hstart
    change Alike _ (CommandLine.readAll s after) (CommandLine.readAll s (written ++ after))
    -- The option has the setting before it looked at, which otherwise happens later on; this
    -- can change the reason for which the command line is refused, but nothing else.
    cases hsettle : s.settle with
    | error fault =>
      obtain ⟨_, hrefuses, hread⟩ := readAll_of_settle_error hsettle hidle after
      obtain ⟨_, hrefuses', hread'⟩ := readAll_of_settle_error hsettle hidle (written ++ after)
      rw [hread, hread']
      exact .refused hrefuses hrefuses'
    | ok t =>
      have hnone := State.pending_of_settle hsettle
      obtain ⟨s', _, hs'⟩ := hstart.exists_ok
      obtain ⟨t', _, ht'⟩ := (hsettle ▸ hs'.settle).exists_ok
      have habsent : option.Absent t.options := ht'.options.absent
      have ht : State.Given option t { t with options := option.addTo t.options } :=
        ⟨⟨habsent, rfl⟩, rfl, fun p hp => by cases hnone.symm.trans hp⟩
      have hskip : CommandLine.readAll s after = CommandLine.readAll t after :=
        readAll_congr (hsettle.trans (State.settle_of_pending hnone).symm) hidle
          (by unfold State.waiting?; rw [hnone]) after
      rw [hwritten.readAll hform hsettle habsent, hskip]
      exact ht.readAll hwithout.2

/-- A command line with an option for the log is refused as it is without, or gives the same
options but for this one. -/
theorem parse (h : option.Adds arguments longer) (hform : option.WellFormed)
    (hwithout : Without option.name arguments) (env : Environment) :
    Alike option.Given (parse env arguments) (parse env longer) := by
  rw [parse_eq, parse_eq]
  have hbase : ∀ o o', option.Given o o' →
      Alike option.Given (if o.hasOneBase then .ok o else .error .conflict)
        (if o'.hasOneBase then .ok o' else .error .conflict) := by
    intro o o' ho
    have hsame : o'.hasOneBase = o.hasOneBase := by
      rw [ho.eq]
      cases option <;> rfl
    rw [hsame]
    cases o.hasOneBase with
    | true => exact .ok ho
    | false => exact .same _
  refine (h.readAll hform hwithout).bind fun s s' hs => Alike.bind ?_ hbase
  have hpassword : s'.options.password = s.options.password := by
    rw [hs.options.eq]
    cases option <;> rfl
  rw [hpassword]
  cases s.options.password with
  | some password => exact .ok hs.options
  | none =>
    rcases env.bindings.lookup "OMERO_PASSWORD" with _ | password | _
    · exact .ok hs.options
    · refine .ok ⟨?_, ?_⟩
      · cases option <;> exact hs.options.absent
      · rw [hs.options.eq]
        cases option <;> rfl
    · exact .same _

end LogOption.Adds

end ServerLogin.CommandLine
