import ServerLogin.Log.Entry
import ServerLogin.LoginError

/-!
What an operation comes to: its result or the reason why it failed, and the log
entries it made on the way.  Entries made before a failure are kept.
-/

namespace ServerLogin

/-- A result or an error, with the log entries made on the way. -/
structure Outcome (α : Type) where
  result : Except LoginError α
  entries : List Log.Entry

namespace Outcome

variable {α β : Type}

def ofResult (result : Except LoginError α) : Outcome α := ⟨result, []⟩

def fail (error : LoginError) : Outcome α := ⟨.error error, []⟩

def log (level : Log.Level) (source : Log.Source) (message : String) : Outcome Unit :=
  ⟨.ok (), [⟨level, source, message⟩]⟩

def logAll (entries : List Log.Entry) : Outcome Unit := ⟨.ok (), entries⟩

/-- Go on with a result; after an error nothing more happens. -/
protected def bind (x : Outcome α) (f : α → Outcome β) : Outcome β :=
  match x.result with
  | .ok a => ⟨(f a).result, x.entries ++ (f a).entries⟩
  | .error e => ⟨.error e, x.entries⟩

instance : Monad Outcome where
  pure a := ⟨.ok a, []⟩
  bind := Outcome.bind

@[simp] theorem result_pure (a : α) : (pure a : Outcome α).result = .ok a := rfl

@[simp] theorem entries_pure (a : α) : (pure a : Outcome α).entries = [] := rfl

@[simp] theorem result_ofResult (r : Except LoginError α) : (ofResult r).result = r := rfl

@[simp] theorem entries_ofResult (r : Except LoginError α) : (ofResult r).entries = [] := rfl

@[simp] theorem result_log (level : Log.Level) (source : Log.Source) (message : String) :
    (log level source message).result = .ok () := rfl

@[simp] theorem result_bind (x : Outcome α) (f : α → Outcome β) :
    (x >>= f).result = x.result.bind fun a => (f a).result := by
  change (Outcome.bind x f).result = _
  unfold Outcome.bind
  cases x.result <;> rfl

end Outcome

end ServerLogin
