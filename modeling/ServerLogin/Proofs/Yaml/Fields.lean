import ServerLogin.Proofs.Yaml.Allowed

/-!
The tokens of a written mapping.  The characters of the document are all allowed,
and reading it gives the tokens of its fields, one after the other.
-/

namespace ServerLogin.Yaml

open ServerLogin.Number ServerLogin.Text

/-- A key that is written plainly and read as a key. -/
structure IsKey (key : String) : Prop where
  ne_nil : key.toList ≠ []
  isKeyChar : ∀ c ∈ key.toList, isKeyChar c = true
  length : key.toList.length ≤ 1024

def fieldText (field : String × Content) : List Char :=
  field.1.toList ++ ':' :: ' ' :: field.2.write.toList

theorem toList_writeFields (fields : List (String × Content)) :
    (writeFields fields).toList = fields.flatMap fieldText := by
  have hfield : ∀ field : String × Content,
      (field.1 ++ ": " ++ field.2.write).toList = fieldText field := by
    intro field
    rw [String.toList_append, String.toList_append, fieldText, List.append_assoc]
    rfl
  rw [writeFields, String.toList_join, List.flatMap_map]
  simp only [hfield]

def fieldTokens (field : String × Content) : List Token :=
  [.key, .scalar field.1 .plain, .value, .scalar field.2.scalar.text field.2.scalar.style]

theorem startsField_fields {fields : List (String × Content)}
    (h : ∀ field ∈ fields, IsKey field.1) : StartsField (fields.flatMap fieldText) := by
  cases fields with
  | nil => nofun
  | cons field fields =>
    obtain ⟨hne, hkey, _⟩ := h field List.mem_cons_self
    obtain ⟨c, key, hcons⟩ := List.exists_cons_of_ne_nil hne
    intro d hd
    rw [List.flatMap_cons, fieldText, hcons] at hd
    cases hd
    exact hkey c (hcons ▸ List.mem_cons_self)

/-- The document has enough characters for three steps a field. -/
theorem length_le_flatMap_fieldText {fields : List (String × Content)}
    (h : ∀ field ∈ fields, IsKey field.1) :
    3 * fields.length ≤ (fields.flatMap fieldText).length := by
  induction fields with
  | nil => exact Nat.le_refl 0
  | cons field fields ih =>
    obtain ⟨hkey, h⟩ := List.forall_mem_cons.mp h
    have hpos := List.length_pos_of_ne_nil hkey.ne_nil
    have hfield : 3 ≤ (fieldText field).length := by
      rw [fieldText, List.length_append, List.length_cons, List.length_cons]
      omega
    have hrest := ih h
    rw [List.flatMap_cons, List.length_append, List.length_cons]
    omega

theorem isAllowed_of_mem_writeFields {fields : List (String × Content)}
    (hkeys : ∀ field ∈ fields, IsKey field.1) {c : Char} (h : c ∈ (writeFields fields).toList) :
    isAllowed c = true := by
  rw [toList_writeFields, List.mem_flatMap] at h
  obtain ⟨field, hfield, h⟩ := h
  rw [fieldText, List.mem_append, List.mem_cons, List.mem_cons] at h
  rcases h with h | rfl | rfl | h
  · have hrange := toNat_of_isKeyChar ((hkeys field hfield).isKeyChar c h)
    simp only [isAllowed, Bool.or_eq_true, Bool.and_eq_true, beq_iff_eq, decide_eq_true_eq]
    omega
  · decide
  · decide
  · exact isAllowed_of_mem_write h

namespace Lexer

/-- A field takes three steps. -/
theorem run_field {l : Lexer} {field : String × Content} {rest : List Char} (hkey : IsKey field.1)
    (h : l.AtLine (fieldText field ++ rest)) (hrest : StartsField rest) :
    ∃ l' : Lexer, Leads 3 l l' ∧ l'.AtLine rest ∧ l'.indents = [0] ∧
      l'.tokens.toList = l.tokens.toList ++
        (if l.indents = [] then [.blockMappingStart] else []) ++ fieldTokens field := by
  rw [fieldText, List.append_assoc, List.cons_append, List.cons_append] at h
  obtain ⟨q, required, hq, hfirst⟩ := run_key hkey.ne_nil hkey.isKeyChar rfl h
  obtain ⟨c, key, hcons⟩ := List.exists_cons_of_ne_nil hkey.ne_nil
  obtain ⟨tokens, hsecond, htokens⟩ := run_colon required l.tokens
    (.scalar (String.ofList field.1.toList) .plain) (field.2.write.toList ++ rest)
    (p := q.along field.1.toList.length) (q := q) h.indents
    (by rw [Position.column_along, hcons, List.length_cons]; omega) hq rfl
    (Nat.add_le_add_left hkey.length _)
  have hcolumn : (q.along field.1.toList.length |>.along 1).column ≠ 0 := by
    rw [Position.column_along]
    omega
  obtain ⟨l', hthird, hline, hindents, hvalue⟩ := run_value
    (l := ⟨⟨_, ' ' :: (field.2.write.toList ++ rest)⟩, tokens, [0], false, [none]⟩)
    ⟨rfl, hcolumn, rfl, rfl, rfl⟩ hrest
  refine ⟨l', (hfirst.trans hsecond).trans hthird, hline, hindents, ?_⟩
  rw [hvalue, Array.toList_push, htokens, String.ofList_toList, fieldTokens]
  simp

/-- The fields of a mapping that is open already. -/
theorem run_fields {fields : List (String × Content)} (hkeys : ∀ field ∈ fields, IsKey field.1) :
    ∀ {l : Lexer}, l.AtLine (fields.flatMap fieldText) → l.indents = [0] →
      ∃ l' : Lexer, Leads (3 * fields.length) l l' ∧ l'.AtLine [] ∧ l'.indents = [0] ∧
        l'.tokens.toList = l.tokens.toList ++ fields.flatMap fieldTokens := by
  induction fields with
  | nil => exact fun {l} h hindents => ⟨l, fun _ => rfl, h, hindents, by simp⟩
  | cons field fields ih =>
    intro l h hindents
    obtain ⟨hkey, hkeys⟩ := List.forall_mem_cons.mp hkeys
    rw [List.flatMap_cons] at h
    obtain ⟨l₁, hfirst, hline, hindents₁, htokens₁⟩ := run_field hkey h (startsField_fields hkeys)
    obtain ⟨l₂, hrest, hend, hindents₂, htokens₂⟩ := ih hkeys hline hindents₁
    refine ⟨l₂, ?_, hend, hindents₂, ?_⟩
    · rw [List.length_cons, Nat.mul_succ]
      exact hfirst.trans hrest
    · rw [htokens₂, htokens₁, hindents]
      simp

/-- At the end of the text the mapping is closed. -/
theorem run_end {l : Lexer} (h : l.AtLine []) (hindents : l.indents = [0]) (steps : Nat) :
    ∃ tokens, run (steps + 1) l = .ok tokens ∧
      tokens.toList = l.tokens.toList ++ [.blockEnd, .streamEnd] := by
  obtain ⟨⟨q, hq, hgap⟩, hkeys, _⟩ := h
  obtain ⟨cursor, tokens, indents, keyAllowed, keys⟩ := l
  cases hkeys
  cases hindents
  have hstale : dropStale ⟨⟨q, []⟩, tokens, [0], true, [none]⟩ =
      .ok ⟨⟨q, []⟩, tokens, [0], true, [none]⟩ := dropStale_fresh rfl nofun
  have hclose : closeBlocks ⟨⟨q, []⟩, tokens, [0], true, [none]⟩ (some q.column) =
      ⟨⟨q, []⟩, tokens, [0], true, [none]⟩ := closeBlocks_some (.inr rfl) _
  refine ⟨(tokens ++ #[Token.blockEnd]).push .streamEnd, ?_, ?_⟩
  · rw [run]
    simp only [inFlow, List.length_singleton, Nat.lt_irrefl, decide_false, hgap, hstale, bind,
      Except.bind, hclose]
    rfl
  · simp

theorem read_writeFields {fields : List (String × Content)} (hne : fields ≠ [])
    (hkeys : ∀ field ∈ fields, IsKey field.1) :
    ∃ tokens, read (writeFields fields) = .ok tokens ∧ tokens.toList =
      .blockMappingStart :: (fields.flatMap fieldTokens ++ [.blockEnd, .streamEnd]) := by
  obtain ⟨field, fields, rfl⟩ := List.exists_cons_of_ne_nil hne
  have hallowed : (writeFields (field :: fields)).toList.all isAllowed = true :=
    List.all_eq_true.mpr fun c hc => isAllowed_of_mem_writeFields hkeys hc
  obtain ⟨hkey, hothers⟩ := List.forall_mem_cons.mp hkeys
  have htext := toList_writeFields (field :: fields)
  have hfields := startsField_fields hothers
  have hstart : AtLine { cursor := ⟨{}, (writeFields (field :: fields)).toList⟩ }
      (fieldText field ++ fields.flatMap fieldText) := by
    rw [htext, List.flatMap_cons]
    refine ⟨⟨{}, rfl, ?_⟩, rfl, .inl rfl⟩
    exact skipGap_field true {} (startsField_fields hkeys)
  obtain ⟨l₁, hfirst, hline, hindents₁, htokens₁⟩ := run_field hkey hstart hfields
  obtain ⟨l₂, hrest, hend, hindents₂, htokens₂⟩ := run_fields hothers hline hindents₁
  have hlength : 3 * fields.length + 3 ≤ (writeFields (field :: fields)).toList.length := by
    rw [htext]
    exact length_le_flatMap_fieldText hkeys
  obtain ⟨steps, hsteps⟩ : ∃ steps, (writeFields (field :: fields)).toList.length + 1 =
      (steps + 1) + (3 * fields.length + 3) :=
    ⟨(writeFields (field :: fields)).toList.length - (3 * fields.length + 3), by omega⟩
  obtain ⟨tokens, hlast, htokens⟩ := run_end hend hindents₂ steps
  refine ⟨tokens, ?_, ?_⟩
  · rw [read]
    rw [if_pos hallowed, hsteps, (hfirst.trans hrest) (steps + 1), hlast]
  · rw [htokens, htokens₂, htokens₁]
    simp

end Lexer
end ServerLogin.Yaml
