import ServerLogin.RawArguments

/-!
What a list of raw arguments means.  When no number is malformed, the settings
that come out hold the last value given to each key, and what was there before
where none is given.
-/

namespace ServerLogin.RawArguments

open ServerLogin.Number

def valueFor? (key : Key) (argument : String) : Option String :=
  match read argument with
  | .skipped _ => none
  | .property other value => if other = key then some value else none

def valuesFor (key : Key) (arguments : List String) : List String :=
  arguments.filterMap (valueFor? key)

/-- The number that the last value of a key spells. -/
def lastNumber {α : Type} (parse? : List Char → Option α) (key : Key)
    (arguments : List String) : Option α :=
  (valuesFor key arguments).getLast?.bind fun value => parse? value.toList

/-- The last value of each key, in place of what the settings hold. -/
def Settings.lastValues (s : Settings) (arguments : List String) : Settings where
  host := (valuesFor .host arguments).getLast?.getD s.host
  port := (lastNumber uint16? .port arguments).or s.port
  user := (valuesFor .user arguments).getLast?.getD s.user
  pass := (valuesFor .pass arguments).getLast?.getD s.pass
  session := (valuesFor .session arguments).getLast?.or s.session
  group := (lastNumber int64? .group arguments).or s.group

/-- The numbers among the values are well formed. -/
structure WellFormed (arguments : List String) : Prop where
  port : ∀ value ∈ valuesFor .port arguments, (uint16? value.toList).isSome
  group : ∀ value ∈ valuesFor .group arguments, (int64? value.toList).isSome

theorem valuesFor_append (key : Key) (front back : List String) :
    valuesFor key (front ++ back) = valuesFor key front ++ valuesFor key back :=
  List.filterMap_append

theorem WellFormed.of_cons {argument : String} {rest : List String}
    (h : WellFormed (argument :: rest)) : WellFormed [argument] ∧ WellFormed rest := by
  have hsplit : ∀ key, valuesFor key (argument :: rest)
      = valuesFor key [argument] ++ valuesFor key rest :=
    fun key => valuesFor_append key [argument] rest
  have hport := h.port
  have hgroup := h.group
  rw [hsplit, List.forall_mem_append] at hport hgroup
  exact ⟨⟨hport.1, hgroup.1⟩, ⟨hport.2, hgroup.2⟩⟩

/-- Of two lists of arguments the later one decides, when its numbers are well
formed. -/
theorem lastNumber_append {α : Type} {parse? : List Char → Option α} {key : Key}
    {front back : List String}
    (h : ∀ value ∈ valuesFor key back, (parse? value.toList).isSome) :
    lastNumber parse? key (front ++ back) =
      (lastNumber parse? key back).or (lastNumber parse? key front) := by
  rw [lastNumber, valuesFor_append, List.getLast?_append, lastNumber, lastNumber]
  cases hlast : (valuesFor key back).getLast? with
  | none => rfl
  | some value =>
    obtain ⟨n, hn⟩ := Option.isSome_iff_exists.mp (h value (List.mem_of_getLast? hlast))
    simp only [Option.some_or, Option.bind_some, hn]

namespace Settings

theorem lastValues_append {s : Settings} {front back : List String} (h : WellFormed back) :
    s.lastValues (front ++ back) = (s.lastValues front).lastValues back := by
  simp only [lastValues, valuesFor_append, List.getLast?_append, lastNumber_append h.port,
    lastNumber_append h.group, Option.or_assoc, Option.getD_or]

theorem add_skipped {s : Settings} {argument message : String}
    (h : read argument = .skipped message) : (s.add argument).result = .ok s := by
  rw [add, h]
  rfl

theorem add_property {s : Settings} {argument value : String} {key : Key}
    (h : read argument = .property key value) : (s.add argument).result = s.set key value := by
  rw [add, h]
  rfl

/-- One argument replaces the value of its key and nothing else. -/
theorem result_add {s : Settings} {argument : String} (h : WellFormed [argument]) :
    (s.add argument).result = .ok (s.lastValues [argument]) := by
  cases hread : read argument with
  | skipped message =>
    have hnone : ∀ key, valueFor? key argument = none := by simp [valueFor?, hread]
    rw [add_skipped hread]
    simp [lastValues, lastNumber, valuesFor, hnone]
  | property key value =>
    have hvalue : ∀ other, valueFor? other argument = if key = other then some value else none := by
      simp [valueFor?, hread]
    have hport := h.port
    have hgroup := h.group
    simp only [valuesFor, List.filterMap_cons, List.filterMap_nil, hvalue] at hport hgroup
    rw [add_property hread]
    cases key with
    | host => simp [set, lastValues, lastNumber, valuesFor, hvalue]
    | user => simp [set, lastValues, lastNumber, valuesFor, hvalue]
    | pass => simp [set, lastValues, lastNumber, valuesFor, hvalue]
    | session => simp [set, lastValues, lastNumber, valuesFor, hvalue]
    | port =>
      obtain ⟨port, hnumber⟩ := Option.isSome_iff_exists.mp (hport value (by simp))
      simp [set, lastValues, lastNumber, valuesFor, hvalue, hnumber]
    | group =>
      obtain ⟨group, hnumber⟩ := Option.isSome_iff_exists.mp (hgroup value (by simp))
      simp [set, lastValues, lastNumber, valuesFor, hvalue, hnumber]

/-- Taking in a list of arguments leaves the last value of each key. -/
theorem result_addAll {s : Settings} {arguments : List String} (h : WellFormed arguments) :
    (s.addAll arguments).result = .ok (s.lastValues arguments) := by
  induction arguments generalizing s with
  | nil => rfl
  | cons argument rest ih =>
    rw [addAll, Outcome.result_bind, result_add h.of_cons.1]
    exact (ih h.of_cons.2).trans (congrArg Except.ok (lastValues_append h.of_cons.2).symm)

end Settings
end ServerLogin.RawArguments
