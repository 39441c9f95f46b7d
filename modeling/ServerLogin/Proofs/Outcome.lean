import ServerLogin.Session

/-!
Two runs side by side.  `Agree r` relates two results that are the same error or
two values related by `r`; `Outcome.Related r` asks besides that the same entries
are logged.  Both pass through sequences of operations.
-/

namespace ServerLogin

/-- The same error twice, or two related values. -/
inductive Agree {ε α β : Type} (r : α → β → Prop) : Except ε α → Except ε β → Prop
  | ok {a : α} {b : β} (h : r a b) : Agree r (.ok a) (.ok b)
  | error (e : ε) : Agree r (.error e) (.error e)

namespace Agree

variable {ε α β γ δ : Type} {r : α → β → Prop} {q : γ → δ → Prop}

theorem refl {r : α → α → Prop} (hr : ∀ a, r a a) (x : Except ε α) : Agree r x x := by
  cases x with
  | error e => exact .error e
  | ok a => exact .ok (hr a)

theorem bind {x : Except ε α} {y : Except ε β} {f : α → Except ε γ} {g : β → Except ε δ}
    (h : Agree r x y) (hf : ∀ a b, r a b → Agree q (f a) (g b)) :
    Agree q (x.bind f) (y.bind g) := by
  cases h with
  | ok h => exact hf _ _ h
  | error e => exact .error e

end Agree

namespace Outcome

variable {α β γ δ : Type} {r : α → β → Prop} {q : γ → δ → Prop}

/-- Two outcomes that log the same and whose results agree. -/
structure Related (r : α → β → Prop) (x : Outcome α) (y : Outcome β) : Prop where
  entries : x.entries = y.entries
  result : Agree r x.result y.result

/-- What is logged by a sequence: the second part logs only after a success. -/
theorem entries_bind (x : Outcome α) (f : α → Outcome γ) :
    (x >>= f).entries = x.entries ++ match x.result with
      | .ok a => (f a).entries
      | .error _ => [] := by
  change (Outcome.bind x f).entries = _
  unfold Outcome.bind
  cases x.result with
  | ok a => rfl
  | error e => rw [List.append_nil]

namespace Related

theorem refl {r : α → α → Prop} (hr : ∀ a, r a a) (x : Outcome α) : Related r x x :=
  ⟨rfl, .refl hr x.result⟩

theorem pure {a : α} {b : β} (h : r a b) : Related r (Pure.pure a) (Pure.pure b) :=
  ⟨rfl, .ok h⟩

theorem of_ok {x : Outcome α} {y : Outcome β} {a : α} {b : β} (h : Related r x y)
    (ha : x.result = .ok a) (hb : y.result = .ok b) : r a b := by
  have hresult := h.result
  rw [ha, hb] at hresult
  cases hresult with
  | ok hab => exact hab

theorem bind {x : Outcome α} {y : Outcome β} {f : α → Outcome γ} {g : β → Outcome δ}
    (h : Related r x y) (hf : ∀ a b, r a b → Related q (f a) (g b)) :
    Related q (x >>= f) (y >>= g) := by
  constructor
  · rw [entries_bind, entries_bind, h.entries]
    have hresult := h.result
    generalize x.result = u at hresult ⊢
    generalize y.result = v at hresult ⊢
    cases hresult with
    | error e => rfl
    | ok hab => exact congrArg (y.entries ++ ·) (hf _ _ hab).entries
  · rw [result_bind, result_bind]
    exact h.result.bind fun a b hab => (hf a b hab).result

theorem bind_same {x : Outcome α} {f : α → Outcome γ} {g : α → Outcome δ}
    (hf : ∀ a, Related q (f a) (g a)) : Related q (x >>= f) (x >>= g) :=
  (refl (fun _ => rfl) x).bind fun a _ hab => hab ▸ hf a

end Related

end Outcome

end ServerLogin
