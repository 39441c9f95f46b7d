import ServerLogin.Proofs.Text.Hexadecimal
import ServerLogin.Proofs.Text.Run
import ServerLogin.Text.View

/-!
Quoted texts and debug views of lists of them give their values away.  A code is
self-delimiting when it also tells where it ends, so that values written one after
the other, with anything behind them, can be told apart.
-/

namespace ServerLogin.Text

/-- The code of a value is read from the front of any text in one way only. -/
def SelfDelimiting {α β : Type} (code : α → List β) : Prop :=
  ∀ ⦃a b : α⦄ ⦃x y : List β⦄, code a ++ x = code b ++ y → a = b ∧ x = y

section Codes

variable {α β : Type} {code : α → List β}

theorem SelfDelimiting.injective (h : SelfDelimiting code) {a b : α} (hab : code a = code b) :
    a = b :=
  (h (congrArg (· ++ []) hab)).1

/-- A list is delimited by a mark that no code begins with. -/
theorem SelfDelimiting.flatMap {stop : β} (h : SelfDelimiting code)
    (hstop : ∀ a x y, code a ++ x ≠ stop :: y) :
    SelfDelimiting fun as : List α => as.flatMap code ++ [stop] := by
  intro as
  -- The lists end together: the mark is where one ends, and no code begins with it.
  induction as with
  | nil =>
    intro bs x y heq
    cases bs with
    | nil => exact ⟨rfl, List.tail_eq_of_cons_eq heq⟩
    | cons b bs =>
      simp only [List.flatMap_cons, List.append_assoc] at heq
      exact absurd heq.symm (hstop b _ _)
  | cons a as ih =>
    intro bs x y heq
    cases bs with
    | nil =>
      simp only [List.flatMap_cons, List.append_assoc] at heq
      exact absurd heq (hstop a _ _)
    | cons b bs =>
      simp only [List.flatMap_cons, List.append_assoc] at heq
      obtain ⟨rfl, hrest⟩ := h heq
      simp only [← List.append_assoc] at hrest
      obtain ⟨rfl, hxy⟩ := ih hrest
      exact ⟨rfl, hxy⟩

end Codes

section Escapes

theorem hexadecimal_injective : Function.Injective hexadecimal := by
  intro m n h
  calc m = ofDigits 16 (hexadecimal m) := (ofDigits_hexadecimal m).symm
    _ = ofDigits 16 (hexadecimal n) := by rw [h]
    _ = n := ofDigits_hexadecimal n

/-- The characters whose escape is a letter behind a backslash, with the letter. -/
def letterEscapes : List (Char × Char) :=
  [('\x00', '0'), ('\t', 't'), ('\r', 'r'), ('\n', 'n'), ('\\', '\\'), ('"', '"')]

theorem eq_of_mem_letterEscapes {c d l : Char} (hc : (c, l) ∈ letterEscapes)
    (hd : (d, l) ∈ letterEscapes) : c = d :=
  (by decide : ∀ p ∈ letterEscapes, ∀ q ∈ letterEscapes, p.2 = q.2 → p.1 = q.1)
    (c, l) hc (d, l) hd rfl

theorem u_notMem_letterEscapes (c : Char) : (c, 'u') ∉ letterEscapes := fun h =>
  (by decide : ∀ p ∈ letterEscapes, p.2 ≠ 'u') (c, 'u') h rfl

/-- What stands behind the backslash of an escape. -/
inductive Escape (c : Char) : List Char → Prop
  | letter {l : Char} (h : (c, l) ∈ letterEscapes) : Escape c [l]
  | codePoint : Escape c ('u' :: '\x7b' :: (hexadecimal c.toNat ++ ['\x7d']))

/-- The ways a character is written inside double quotes. -/
inductive Written (c : Char) : List Char → Prop
  | plain (hslash : c ≠ '\\') (hquote : c ≠ '"') : Written c [c]
  | escaped {e : List Char} (h : Escape c e) : Written c ('\\' :: e)

theorem written_escapeChar (c : Char) : Written c (escapeChar c) := by
  unfold escapeChar
  split
  case h_7 c _ _ _ _ hslash hquote =>
    split
    · exact .escaped .codePoint
    · exact .plain hslash hquote
  all_goals exact .escaped (.letter (by decide))

variable {c d : Char} {e f x y : List Char}

/-- No letter is `u`, and the digits of a code point end at the brace. -/
theorem Escape.append_inj (hc : Escape c e) (hd : Escape d f) (heq : e ++ x = f ++ y) :
    c = d ∧ x = y := by
  cases hc with
  | letter hl =>
    cases hd with
    | letter hl' =>
      obtain ⟨rfl, hxy⟩ := List.cons_eq_cons.mp heq
      exact ⟨eq_of_mem_letterEscapes hl hl', hxy⟩
    | codePoint =>
      obtain ⟨rfl, _⟩ := List.cons_eq_cons.mp heq
      exact absurd hl (u_notMem_letterEscapes c)
  | codePoint =>
    cases hd with
    | letter hl =>
      obtain ⟨rfl, _⟩ := List.cons_eq_cons.mp heq
      exact absurd hl (u_notMem_letterEscapes d)
    | codePoint =>
      simp only [List.cons_append, List.append_assoc, List.nil_append, List.cons.injEq,
        true_and] at heq
      obtain ⟨hdigits, hxy⟩ := run_append_inj (fun _ => isHex_of_mem_hexadecimal)
        (by decide) (fun _ => isHex_of_mem_hexadecimal) heq
      exact ⟨Char.toNat_inj.mp (hexadecimal_injective hdigits), hxy⟩

/-- A backslash tells an escape from a character that stands for itself. -/
theorem Written.append_inj (hc : Written c e) (hd : Written d f) (heq : e ++ x = f ++ y) :
    c = d ∧ x = y := by
  cases hc with
  | plain hslash =>
    cases hd with
    | plain => exact List.cons_eq_cons.mp heq
    | escaped => exact absurd (List.head_eq_of_cons_eq heq) hslash
  | escaped hc =>
    cases hd with
    | plain hslash => exact absurd (List.head_eq_of_cons_eq heq).symm hslash
    | escaped hd => exact hc.append_inj hd (List.tail_eq_of_cons_eq heq)

/-- What is written for a character does not begin with a double quote. -/
theorem Written.append_ne_quote (h : Written c e) : e ++ x ≠ '"' :: y := by
  intro heq
  cases h with
  | plain _ hquote => exact hquote (List.head_eq_of_cons_eq heq)
  | escaped => exact absurd (List.head_eq_of_cons_eq heq) (by decide)

theorem selfDelimiting_escapeChar : SelfDelimiting escapeChar := fun c d _ _ heq =>
  (written_escapeChar c).append_inj (written_escapeChar d) heq

end Escapes

/-- A quoted text shows the text and where it ends. -/
theorem selfDelimiting_quote : SelfDelimiting fun s : String => (quote s).toList := by
  intro s t x y heq
  simp only [quote, String.toList_ofList] at heq
  have hlist := selfDelimiting_escapeChar.flatMap
    fun c _ _ => (written_escapeChar c).append_ne_quote
  obtain ⟨hst, hxy⟩ := hlist (List.tail_eq_of_cons_eq heq)
  exact ⟨String.toList_inj.mp hst, hxy⟩

section Views

variable {α : Type} {view : α → String}

/-- A list behind its first item: each further item after a comma and a blank, and the
bracket that closes the list. -/
def furtherItems (view : α → String) (as : List α) : List Char :=
  as.flatMap (fun a => ',' :: ' ' :: (view a).toList) ++ [']']

@[simp] theorem furtherItems_nil : furtherItems view [] = [']'] := rfl

@[simp] theorem furtherItems_cons (a : α) (as : List α) :
    furtherItems view (a :: as) = ',' :: ' ' :: ((view a).toList ++ furtherItems view as) := by
  rw [furtherItems, List.flatMap_cons, List.append_assoc]
  rfl

theorem toList_viewList_nil : (viewList view []).toList = ['[', ']'] := by
  rw [viewList, List.map_nil, String.intercalate_nil, String.append_empty]
  rfl

theorem toList_viewList_cons (a : α) (as : List α) :
    (viewList view (a :: as)).toList = '[' :: ((view a).toList ++ furtherItems view as) := by
  have hitems : (String.intercalate ", " ((a :: as).map view)).toList ++ [']'] =
      (view a).toList ++ furtherItems view as := by
    induction as generalizing a with
    | nil => rw [List.map_singleton, String.intercalate_singleton, furtherItems_nil]
    | cons b as ih =>
      rw [List.map_cons, List.map_cons, String.intercalate_cons_cons, ← List.map_cons,
        String.toList_append, List.append_assoc, ih b, String.toList_append, List.append_assoc,
        furtherItems_cons]
      rfl
  rw [viewList, String.toList_append, String.toList_append, List.append_assoc]
  exact congrArg ('[' :: ·) hitems

theorem selfDelimiting_furtherItems (hview : SelfDelimiting fun a => (view a).toList) :
    SelfDelimiting (furtherItems view) := by
  apply SelfDelimiting.flatMap
  · intro a b x y heq
    exact hview (List.tail_eq_of_cons_eq (List.tail_eq_of_cons_eq heq))
  · intro a x y heq
    exact absurd (List.head_eq_of_cons_eq heq) (by decide)

/-- The view of a list shows the views of its items, in order. -/
theorem selfDelimiting_viewList (hview : SelfDelimiting fun a => (view a).toList)
    (hstop : ∀ a x y, (view a).toList ++ x ≠ ']' :: y) :
    SelfDelimiting fun as => (viewList view as).toList := by
  intro as bs x y heq
  cases as with
  | nil =>
    cases bs with
    | nil => exact ⟨rfl, List.append_cancel_left heq⟩
    | cons b bs =>
      simp only [toList_viewList_nil, toList_viewList_cons, List.cons_append, List.append_assoc,
        List.cons.injEq, true_and] at heq
      exact absurd heq.symm (hstop b _ _)
  | cons a as =>
    cases bs with
    | nil =>
      simp only [toList_viewList_nil, toList_viewList_cons, List.cons_append, List.append_assoc,
        List.cons.injEq, true_and] at heq
      exact absurd heq (hstop a _ _)
    | cons b bs =>
      simp only [toList_viewList_cons, List.cons_append, List.append_assoc, List.cons.injEq,
        true_and] at heq
      obtain ⟨rfl, hrest⟩ := hview heq
      obtain ⟨rfl, hxy⟩ := selfDelimiting_furtherItems hview hrest
      exact ⟨rfl, hxy⟩

theorem viewList_quote_injective : Function.Injective (viewList quote) := by
  intro as bs h
  refine (selfDelimiting_viewList selfDelimiting_quote ?_).injective (congrArg String.toList h)
  intro s x y heq
  rw [quote, String.toList_ofList] at heq
  exact absurd (List.head_eq_of_cons_eq heq) (by decide)

theorem viewWrapped_injective (name : String) : Function.Injective (viewWrapped name) := by
  intro value value' h
  simpa [viewWrapped, String.append_assoc] using h

theorem viewOption_injective (hview : Function.Injective view) :
    Function.Injective (viewOption view) := by
  have hne : ∀ a, viewOption view (some a) ≠ viewOption view none := by
    intro a h
    have hlist := congrArg String.toList h
    simp [viewOption, viewWrapped] at hlist
  intro a b h
  cases a with
  | none =>
    cases b with
    | none => rfl
    | some b => exact absurd h.symm (hne b)
  | some a =>
    cases b with
    | none => exact absurd h (hne a)
    | some b => rw [hview (viewWrapped_injective "Some" h)]

theorem viewRecord_last_inj {name field value value' : String} (fields : List (String × String))
    (hfields : fields ≠ []) :
    viewRecord name (fields ++ [(field, value)]) = viewRecord name (fields ++ [(field, value')]) ↔
      value = value' := by
  refine ⟨fun h => ?_, fun h => by rw [h]⟩
  have hmap : ∀ text : String × String → String, fields.map text ≠ [] :=
    fun _ => mt List.map_eq_nil_iff.mp hfields
  simp only [viewRecord, List.map_append, List.map_cons, List.map_nil] at h
  rw [String.intercalate_append_of_ne_nil (hmap _) (List.cons_ne_nil _ _),
    String.intercalate_append_of_ne_nil (hmap _) (List.cons_ne_nil _ _)] at h
  simpa [String.append_assoc] using h

end Views

end ServerLogin.Text
