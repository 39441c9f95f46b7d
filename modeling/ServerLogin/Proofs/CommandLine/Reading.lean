import ServerLogin.CommandLine.Parse
import ServerLogin.Proofs.RawArguments.Value

/-!
How a command line is read, argument by argument.  The value of a setting that comes next to it is
looked at late, when the argument behind it is read; it makes no difference when, but for the
reason for which a command line is refused.
-/

namespace ServerLogin.CommandLine

open ServerLogin.RawArguments

/-- The command line is refused, and asks for nothing that could be shown instead. -/
def UsageFault.Refuses (fault : UsageFault) : Prop := fault ≠ .help ∧ fault ≠ .version

instance (fault : UsageFault) : Decidable fault.Refuses := inferInstanceAs (Decidable (_ ∧ _))

/-- An argument that is no option, so that it can be the value of the one before. -/
def isValue (argument : String) : Bool :=
  match argument.toList with
  | '-' :: _ :: _ => false
  | _ => true

/-- Whether another option can follow the arguments: none of them is `--`, and the last one does
not wait for its value. -/
def endsOption (arguments : List String) : Bool :=
  !arguments.contains "--" && match arguments.foldlM State.read {} with
    | .ok s => s.waiting?.isNone
    | .error _ => true

/-- The long name that an argument gives. -/
def longName? (argument : String) : Option String :=
  match argument.toList with
  | '-' :: '-' :: text =>
    some <| String.ofList <| match splitEquals? text with
      | some (name, _) => name
      | none => text
  | _ => none

/-- No argument in front of `--` gives the option with the long name. -/
def Without (name : String) (arguments : List String) : Prop :=
  ∀ argument ∈ arguments.takeWhile (· ≠ "--"), longName? argument ≠ some name

instance (name : String) (arguments : List String) : Decidable (Without name arguments) :=
  inferInstanceAs (Decidable (∀ _ ∈ _, _))

theorem mem_of_lookup {α β : Type} [BEq α] [LawfulBEq α] {entries : List (α × β)} {a : α} {b : β}
    (h : entries.lookup a = some b) : (a, b) ∈ entries := by
  obtain ⟨before, behind, rfl, _⟩ := List.lookup_eq_some_iff.mp h
  exact List.mem_append_right _ List.mem_cons_self

theorem equals_notMem_of_lookup {name : String} {kind : Kind}
    (h : longNames.lookup name = some kind) : '=' ∉ name.toList := by
  have hnames : ∀ entry ∈ longNames, '=' ∉ entry.1.toList := by decide
  exact hnames _ (mem_of_lookup h)

theorem longName?_of_toList {argument : String} {text : List Char}
    (h : argument.toList = '-' :: '-' :: text) :
    longName? argument = some (String.ofList (match splitEquals? text with
      | some (name, _) => name
      | none => text)) := by
  unfold longName?
  rw [h]
  rfl

theorem longName?_of_isValue {argument : String} (h : isValue argument = true) :
    longName? argument = none := by
  unfold isValue at h
  unfold longName?
  split
  · next htext =>
    rw [htext] at h
    cases h
  · rfl

theorem without_append {name : String} {before : List String} (hbefore : "--" ∉ before)
    (rest : List String) : Without name (before ++ rest) ↔
      (∀ argument ∈ before, longName? argument ≠ some name) ∧ Without name rest := by
  have hall : ∀ argument ∈ before, decide (argument ≠ "--") = true := fun argument hmem =>
    decide_eq_true fun hend => hbefore (hend ▸ hmem)
  unfold Without
  rw [List.takeWhile_append_of_pos hall, List.forall_mem_append]

theorem readAll_append {before : List String} (hbefore : "--" ∉ before) (s : State)
    (rest : List String) :
    readAll s (before ++ rest) = before.foldlM State.read s >>= (readAll · rest) := by
  induction before generalizing s with
  | nil => rfl
  | cons argument before ih =>
    rw [List.mem_cons, not_or] at hbefore
    rw [List.cons_append, readAll, List.foldlM_cons, bind_assoc]
    · exact congrArg _ (funext fun t => ih hbefore.2 t)
    · exact Ne.symm hbefore.1

theorem endsOption_iff {arguments : List String} : endsOption arguments = true ↔
    "--" ∉ arguments ∧ ∀ s, arguments.foldlM State.read {} = .ok s → s.waiting? = none := by
  unfold endsOption
  rw [Bool.and_eq_true]
  refine and_congr (by simp) ?_
  generalize List.foldlM State.read {} arguments = read
  cases read with
  | error fault =>
    refine ⟨fun _ s hs => ?_, fun _ => rfl⟩
    cases hs
  | ok s =>
    refine Option.isNone_iff_eq_none.trans ⟨fun h t ht => ?_, fun h => h s rfl⟩
    cases ht
    exact h

namespace State

variable {s t : State}

theorem pending_of_settle (h : s.settle = .ok t) : t.pending = none := by
  unfold settle at h
  split at h
  · next hnone =>
    cases h
    exact hnone
  · cases h
  · next setting value _ =>
    cases hset : s.options.set setting value with
    | error fault => rw [hset] at h; cases h
    | ok o => rw [hset] at h; cases h; rfl

theorem settle_of_pending (h : t.pending = none) : t.settle = .ok t := by
  unfold settle
  rw [h]

/-- What is no option is the value of the setting that waits for one. -/
theorem read_value {setting : Setting} (hs : s.waiting? = some setting)
    {argument : String} (h : isValue argument = true) :
    s.read argument = .ok { s with pending := some ⟨setting, some argument⟩ } := by
  unfold isValue at h
  unfold read
  rw [hs]
  dsimp only
  split
  · next htext =>
    rw [htext] at h
    cases h
  · next htext =>
    rw [htext] at h
    cases h
  · rfl

/-- Behind one dash stand letters, unless a number is waited for. -/
theorem read_letters (hs : s.waiting? = none) {argument : String} {c : Char} {rest : List Char}
    (hc : c ≠ '-') (h : argument.toList = '-' :: c :: rest) :
    s.read argument = s.short (c :: rest) := by
  unfold read
  rw [hs, h]
  dsimp only
  split
  · next heq => exact absurd (List.cons.inj (List.cons.inj heq).2).1 hc
  · next heq =>
    cases heq
    exact if_neg nofun
  · next hother => exact absurd rfl (hother c rest)

theorem read_name {name : String} {kind : Kind} (h : longNames.lookup name = some kind) (s : State) :
    s.read ("--" ++ name) = s.mark kind := by
  have htext : ("--" ++ name).toList = '-' :: '-' :: name.toList := by simp
  unfold read
  rw [htext]
  dsimp only
  unfold long
  simp only [splitEquals?_eq_none (equals_notMem_of_lookup h), String.ofList_toList, h]

/-- Behind the long name of a setting and an equals sign stands its value. -/
theorem read_attached {name : String} {setting : Setting}
    (h : longNames.lookup name = some (.setting setting)) (s : State) (value : String) :
    s.read ("--" ++ name ++ "=" ++ value) = s.attach setting value := by
  have htext : ("--" ++ name ++ "=" ++ value).toList =
      '-' :: '-' :: (name.toList ++ '=' :: value.toList) := by simp
  unfold read
  rw [htext]
  dsimp only
  unfold long
  simp only [splitEquals?_append (equals_notMem_of_lookup h), String.ofList_toList, h]

/-- Two states are read on from alike when no setting waits for its value and the one before
comes to the same in both. -/
theorem mark_congr (h : s.settle = t.settle) (kind : Kind) : s.mark kind = t.mark kind := by
  cases kind <;> simp only [mark, await, h]

theorem short_congr (h : s.settle = t.settle) (c : Char) (rest : List Char) :
    s.short (c :: rest) = t.short (c :: rest) := by
  simp only [short, attach, await, mark_congr h, h]

theorem long_congr (h : s.settle = t.settle) (text : List Char) : s.long text = t.long text := by
  simp only [long, attach, mark_congr h, h]

theorem read_congr (h : s.settle = t.settle) (hs : s.waiting? = none) (ht : t.waiting? = none)
    (argument : String) : s.read argument = t.read argument := by
  unfold read
  simp only [hs, ht, long_congr h, short_congr h]

end State

theorem readAll_congr {s t : State} (h : s.settle = t.settle) (hs : s.waiting? = none)
    (ht : t.waiting? = none) (arguments : List String) :
    readAll s arguments = readAll t arguments := by
  cases arguments with
  | nil => exact h
  | cons argument rest =>
    by_cases hend : argument = "--"
    · subst hend
      simp only [readAll, h]
    · rw [readAll, readAll, State.read_congr h hs ht]
      · exact hend
      · exact hend

/-- Reading may be refused, but asks for nothing to be shown. -/
def OnlyRefused {α : Type} (read : Except UsageFault α) : Prop :=
  ∀ fault, read = .error fault → fault.Refuses

namespace OnlyRefused

variable {α β : Type}

theorem ok (a : α) : OnlyRefused (.ok a) := nofun

theorem error {fault : UsageFault} (h : fault.Refuses) :
    OnlyRefused (.error fault : Except UsageFault α) := by
  intro other hother
  cases hother
  exact h

theorem map {read : Except UsageFault α} (h : OnlyRefused read) (f : α → β) :
    OnlyRefused (read.map f) := by
  cases read with
  | error fault => exact .error (h fault rfl)
  | ok a => exact .ok _

/-- A field that has its value already is not given another one. -/
theorem field (field : Option α) {read : Except UsageFault α} (h : OnlyRefused read)
    (f : Option α → β) :
    OnlyRefused ((match field with
      | some _ => Except.error UsageFault.conflict
      | none => read.map some).map f) := by
  cases field with
  | some _ => exact .error (by decide)
  | none => exact (h.map some).map f

theorem ofOption (a : Option α) {fault : UsageFault} (h : fault.Refuses) :
    OnlyRefused (match a with
      | some a => .ok a
      | none => .error fault) := by
  cases a with
  | some a => exact .ok a
  | none => exact .error h

theorem level (a : Option Log.Threshold) :
    OnlyRefused (match a with
      | some t => .ok t
      | none => .error .missingValue) := by
  cases a with
  | some t => exact .ok t
  | none => exact .error (by decide)

theorem ite (refused : Bool) (a : α) {fault : UsageFault} (h : fault.Refuses) :
    OnlyRefused (if refused then .error fault else .ok a) := by
  cases refused with
  | true => exact .error h
  | false => exact .ok a

/-- Setting something is refused when it has been given before, or its value is no good. -/
theorem set (o : Options) (setting : Setting) (value : String) :
    OnlyRefused (o.set setting value) := by
  have hbad : UsageFault.badValue.Refuses := by decide
  have hmissing : UsageFault.missingValue.Refuses := by decide
  cases setting with
  | port | group | compression => exact .field _ (.ofOption _ hbad) _
  | profile | save | logFile => exact .field _ (.ite _ _ hmissing) _
  | logLevel => exact .field _ (.level _) _
  | _ => exact .field _ (.ok value) _

theorem settle (s : State) : OnlyRefused s.settle := by
  unfold State.settle
  split
  · exact .ok s
  · exact .error (by decide)
  · exact (set _ _ _).map _

end OnlyRefused

namespace State

/-- Once the setting before turns out to be no good, the next argument is refused. -/
theorem read_of_settle_error {s : State} {fault : UsageFault} (h : s.settle = .error fault)
    (hs : s.waiting? = none) (argument : String) :
    ∃ other : UsageFault, other.Refuses ∧ s.read argument = .error other := by
  have hfault : fault.Refuses := OnlyRefused.settle s fault h
  have hmark : ∀ kind, s.mark kind = .error fault := by
    intro kind
    cases kind <;> simp only [mark, await, h] <;> rfl
  have hawait : ∀ setting, s.await setting = .error fault := fun setting => by
    rw [await, h]
    rfl
  have hattach : ∀ setting value, s.attach setting value = .error fault := fun setting value => by
    rw [attach, h]
    rfl
  have hunknown : UsageFault.unknownArgument.Refuses := by decide
  unfold read
  rw [hs]
  dsimp only
  split
  · next text _ =>
    unfold long
    dsimp only
    split
    · exact ⟨_, hunknown, rfl⟩
    · exact ⟨fault, hfault, hattach _ _⟩
    · exact ⟨_, by decide, rfl⟩
    · exact ⟨fault, hfault, hmark _⟩
  · next c rest _ =>
    rw [if_neg (fun hgroup => by cases hgroup.1), short]
    split
    · exact ⟨_, hunknown, rfl⟩
    · split
      · exact ⟨fault, hfault, hawait _⟩
      · exact ⟨fault, hfault, hattach _ _⟩
      · exact ⟨fault, hfault, hattach _ _⟩
    · refine ⟨fault, hfault, ?_⟩
      rw [hmark]
      rfl
  · exact ⟨_, hunknown, rfl⟩

end State

theorem readAll_of_settle_error {s : State} {fault : UsageFault} (h : s.settle = .error fault)
    (hs : s.waiting? = none) (arguments : List String) :
    ∃ other : UsageFault, other.Refuses ∧ readAll s arguments = .error other := by
  have hfault : fault.Refuses := OnlyRefused.settle s fault h
  cases arguments with
  | nil => exact ⟨fault, hfault, h⟩
  | cons argument rest =>
    by_cases hend : argument = "--"
    · subst hend
      refine ⟨fault, hfault, ?_⟩
      rw [readAll, h]
      rfl
    · obtain ⟨other, hother, hread⟩ := State.read_of_settle_error h hs argument
      refine ⟨other, hother, ?_⟩
      rw [readAll, hread]
      · rfl
      · exact hend

/-- What is left to do once all arguments are read. -/
theorem parse_eq (env : Environment) (arguments : List String) :
    parse env arguments = readAll {} arguments >>= fun s =>
      (match s.options.password, env.bindings.lookup "OMERO_PASSWORD" with
        | none, some (.text password) =>
          Except.ok { s.options with password := some password }
        | none, some .notText => Except.error UsageFault.notText
        | _, _ => Except.ok s.options) >>= fun o =>
          if o.hasOneBase then .ok o else .error .conflict := rfl

theorem parse_of_readAll_error {arguments : List String} {fault : UsageFault}
    (h : readAll {} arguments = .error fault) (env : Environment) :
    parse env arguments = .error fault := by
  rw [parse_eq, h]
  rfl

/-- The environment is asked for a password only when none is given. -/
theorem parse_of_readAll {arguments : List String} {s : State}
    (h : readAll {} arguments = .ok s) {env : Environment}
    (hpassword : s.options.password ≠ none ∨ env.bindings.lookup "OMERO_PASSWORD" = none) :
    parse env arguments = if s.options.hasOneBase then .ok s.options else .error .conflict := by
  rw [parse_eq, h]
  change (match s.options.password, env.bindings.lookup "OMERO_PASSWORD" with
    | none, some (.text password) => Except.ok { s.options with password := some password }
    | none, some .notText => Except.error UsageFault.notText
    | _, _ => Except.ok s.options) >>= _ = _
  cases hgiven : s.options.password with
  | some password => rfl
  | none =>
    rw [hpassword.resolve_left (absurd hgiven)]
    rfl

end ServerLogin.CommandLine
