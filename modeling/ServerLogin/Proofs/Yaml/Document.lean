import ServerLogin.Proofs.Yaml.Fields

/-!
A written mapping is read back as its fields.
-/

namespace ServerLogin.Yaml

def fieldEvents (field : String × Content) : List Event :=
  [.scalar none ⟨field.1, .plain, none⟩, .scalar none field.2.scalar]

def fieldItems (field : String × Content) : List Item :=
  [.scalar ⟨field.1, .plain, none⟩, .scalar field.2.scalar]

def fieldValue (field : String × Content) : String × Value := (field.1, .scalar field.2.scalar)

theorem Content.tag_scalar (content : Content) : content.scalar.tag = none := by
  cases content <;> rfl

namespace Grammar

variable {stack : List Expectation} {handles : List (String × String)} {events : Array Event}

/-- A field meets two expectations. -/
theorem run_field (field : String × Content) (rest : List Token) (steps : Nat) :
    run (steps + 2) ⟨fieldTokens field ++ rest, .blockMappingKey :: stack, handles, events⟩ =
      run steps ⟨rest, .blockMappingKey :: stack, handles,
        events ++ (fieldEvents field).toArray⟩ := by
  have htag := field.2.tag_scalar
  obtain ⟨key, content⟩ := field
  dsimp only [fieldTokens, fieldEvents] at htag ⊢
  generalize content.scalar = s at htag ⊢
  obtain ⟨text, style, tag⟩ := s
  cases htag
  have hevents : ∀ a b : Event, events ++ [a, b].toArray = (events.push a).push b := fun a b =>
    Array.toList_inj.mp (by simp)
  rw [hevents]
  rfl

theorem run_fields (fields : List (String × Content)) (rest : List Token) (steps : Nat) :
    run (steps + 2 * fields.length)
        ⟨fields.flatMap fieldTokens ++ rest, .blockMappingKey :: stack, handles, events⟩ =
      run steps ⟨rest, .blockMappingKey :: stack, handles,
        events ++ (fields.flatMap fieldEvents).toArray⟩ := by
  induction fields generalizing events with
  | nil => simp
  | cons field fields ih =>
    rw [List.length_cons, Nat.mul_succ, ← Nat.add_assoc, List.flatMap_cons, List.append_assoc,
      run_field, ih, List.flatMap_cons, Array.append_assoc, ← List.append_toArray]

end Grammar

theorem Event.read_writeFields {fields : List (String × Content)} (hne : fields ≠ [])
    (hkeys : ∀ field ∈ fields, IsKey field.1) :
    ∃ events, Event.read (writeFields fields) = .ok events ∧ events.toList =
      .mappingStart none :: (fields.flatMap fieldEvents ++ [.collectionEnd, .documentEnd]) := by
  obtain ⟨tokens, hread, htokens⟩ := Lexer.read_writeFields hne hkeys
  have hsize : 2 * fields.length + 3 ≤ 8 * tokens.size := by
    have hlength := congrArg List.length htokens
    simp only [List.length_cons, List.length_append, List.length_flatMap, fieldTokens,
      List.length_nil, Array.length_toList, List.map_const', List.sum_replicate_nat] at hlength
    omega
  obtain ⟨steps, hsteps⟩ : ∃ steps, 8 * tokens.size + 16 =
      (steps + 4) + 2 * fields.length + 2 := ⟨8 * tokens.size + 10 - 2 * fields.length, by omega⟩
  refine ⟨((#[Event.mappingStart none] ++ (fields.flatMap fieldEvents).toArray).push
    .collectionEnd).push .documentEnd, ?_, by simp⟩
  have hstart : Grammar.run ((steps + 4) + 2 * fields.length + 2) { tokens := tokens.toList } =
      Grammar.run ((steps + 4) + 2 * fields.length)
        ⟨fields.flatMap fieldTokens ++ [.blockEnd, .streamEnd],
          [.blockMappingKey, .documentEnd], Grammar.usualHandles, #[.mappingStart none]⟩ := by
    rw [htokens]
    rfl
  rw [Event.read, hread]
  simp only [bind, Except.bind]
  rw [hsteps, hstart, Grammar.run_fields]
  rfl

theorem resolve_fields (fields : List (String × Content)) {rest : List Event} {items : List Item}
    (h : resolve {} rest = .ok ({}, items)) :
    resolve {} (fields.flatMap fieldEvents ++ rest) =
      .ok ({}, fields.flatMap fieldItems ++ items) := by
  induction fields with
  | nil => exact h
  | cons field fields ih =>
    rw [List.flatMap_cons, List.append_assoc, fieldEvents, List.cons_append, List.cons_append,
      List.nil_append, resolve, resolve, Anchors.add, Anchors.add, ih]
    rfl

theorem readFields_fields (fields : List (String × Content)) (rest : List Item) :
    readFields {} 0 none (fields.flatMap fieldItems ++ .collectionEnd :: rest) =
      .ok (fields.map fieldValue) := by
  induction fields with
  | nil => rfl
  | cons field fields ih =>
    rw [List.flatMap_cons, List.append_assoc, fieldItems, List.cons_append, List.cons_append,
      List.nil_append, readFields, readFields, ih]
    rfl

/-- A written mapping is read back. -/
theorem readDocument_writeFields {fields : List (String × Content)} (hne : fields ≠ [])
    (hkeys : ∀ field ∈ fields, IsKey field.1) :
    readDocument (writeFields fields) = .ok (fields.map fieldValue) := by
  obtain ⟨events, hread, hevents⟩ := Event.read_writeFields hne hkeys
  have hnone : Event.documentEnd ∉ fields.flatMap fieldEvents := by
    intro hmem
    obtain ⟨field, _, hmem⟩ := List.mem_flatMap.mp hmem
    simp [fieldEvents] at hmem
  have hcount : events.toList.count .documentEnd = 1 := by
    rw [hevents, List.count_cons_of_ne (by simp), List.count_append,
      List.count_eq_zero_of_not_mem hnone]
    rfl
  have hfilter : events.toList.filter (· != .documentEnd) =
      .mappingStart none :: (fields.flatMap fieldEvents ++ [.collectionEnd]) := by
    have hkeep : (fields.flatMap fieldEvents).filter (· != .documentEnd) =
        fields.flatMap fieldEvents :=
      List.filter_eq_self.mpr fun event hevent =>
        bne_iff_ne.mpr fun heq => hnone (heq ▸ hevent)
    rw [hevents, List.filter_cons_of_pos (by decide), List.filter_append, hkeep]
    rfl
  have hroot : rootFields (.mappingStart none :: (fields.flatMap fieldEvents ++ [.collectionEnd])) =
      .ok (fields.map fieldValue) := by
    have hresolve : resolve {} (.mappingStart none ::
        (fields.flatMap fieldEvents ++ [.collectionEnd])) =
        .ok ({}, .collectionStart :: (fields.flatMap fieldItems ++ [.collectionEnd])) := by
      have hend : resolve {} [.collectionEnd] = .ok ({}, [.collectionEnd]) := rfl
      rw [resolve, Anchors.add, resolve_fields fields hend]
      rfl
    rw [rootFields, hresolve]
    exact readFields_fields fields []
  rw [readDocument, hread]
  simp only [bind, Except.bind, hcount, hfilter, hroot]
  rfl

end ServerLogin.Yaml
