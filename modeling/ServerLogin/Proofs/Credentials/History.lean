import ServerLogin.Proofs.Credentials.Calls

/-!
Credentials over their life in a variable: they are made, changed where they stand,
interpreted, converted, sealed and opened again, in any order and with any failures.
`Step.did_run` says once what a step can do.  What holds after every history follows from it
by induction: sealed credentials are in range and stay as they were sealed, and raw
arguments are those of the call that the credentials were made by.
-/

namespace ServerLogin

namespace Credentials

/-- A way to make credentials out of nothing but what it is given. -/
inductive Source
  | empty
  | arguments (given : Option (List String))
  | host (username password name : String) (port : Option UInt16)
  | interpret (given : List String)
  | profile (p : Profile)

def Source.result : Source → Except LoginError Credentials
  | empty => .ok {}
  | arguments given => (ofArguments given).result
  | host username password name port => (build username password name port).result
  | interpret given => (RawArguments.interpret given).result
  | profile p => p.toCredentials.result

/-- A variable for credentials. -/
inductive Slot
  | vacant
  | held (c : Credentials)
  | frozen (s : SealedCredentials)
deriving DecidableEq

/-- The credentials in a variable; sealed ones can be read as well. -/
def Slot.credentials? : Slot → Option Credentials
  | vacant => none
  | held c => some c
  | frozen s => some s.credentials

def Slot.arguments? (slot : Slot) : Option (List String) := slot.credentials?.bind (·.arguments)

/-- Why a step is not taken: there is nothing that it could be taken on, or it fails. -/
inductive Refusal
  | inapplicable
  | failed (e : LoginError)
deriving DecidableEq

/-- What is done with a variable.  Credentials that are derived from those in it may be
adopted in their place. -/
inductive Step
  | make (source : Source)
  | change (call : Call)
  | resolveArguments (adopt : Bool)
  | convert (adopt : Bool)
  | freeze
  | intoInner

/-- Credentials that are made are put in when they are adopted. -/
def Slot.offer (slot : Slot) (adopt : Bool) :
    Except LoginError Credentials → Except Refusal Unit × Slot
  | .ok c => (.ok (), if adopt then .held c else slot)
  | .error e => (.error (.failed e), slot)

/-- What a step comes to, and the variable that it leaves.  Calls need credentials that are
not sealed.  Those that cannot be sealed stay where they are. -/
def Step.run (step : Step) (slot : Slot) : Except Refusal Unit × Slot :=
  match step, slot with
  | make source, _ => slot.offer true source.result
  | change call, .held c => ((call.run c).1.mapError .failed, .held (call.run c).2)
  | resolveArguments adopt, .held c => slot.offer adopt c.resolveArguments.result
  | resolveArguments adopt, .frozen s => slot.offer adopt s.credentials.resolveArguments.result
  | convert adopt, .held c => slot.offer adopt (Profile.ofCredentials c).toCredentials.result
  | convert adopt, .frozen s =>
    slot.offer adopt (Profile.ofCredentials s.credentials).toCredentials.result
  | freeze, .held c =>
    match c.seal.result with
    | .ok s => (.ok (), .frozen s)
    | .error e => (.error (.failed e), slot)
  | intoInner, .frozen s => (.ok (), .held s.credentials)
  | _, _ => (.error .inapplicable, slot)

/-- The new credentials that a step puts in. -/
def Step.fresh? (step : Step) (slot : Slot) : Option Credentials :=
  match step with
  | make source => source.result.toOption
  | resolveArguments true => slot.credentials?.bind (·.resolveArguments.result.toOption)
  | convert true =>
    slot.credentials?.bind fun c => (Profile.ofCredentials c).toCredentials.result.toOption
  | _ => none

/-- The credentials stay the same ones, whether or not they are changed in place. -/
def Step.Keeps (step : Step) (slot : Slot) : Prop := step.fresh? slot = none

/-- They also stay sealed if they are. -/
def Step.KeepsSeal (step : Step) (slot : Slot) : Prop := step.Keeps slot ∧ step ≠ .intoInner

def Slot.after (slot : Slot) (history : List Step) : Slot :=
  history.foldl (fun slot step => (step.run slot).2) slot

/-- What holds of every step of a history, on the variable that it is taken on. -/
def Throughout (P : Step → Slot → Prop) : List Step → Slot → Prop
  | [], _ => True
  | step :: rest, slot => P step slot ∧ Throughout P rest (step.run slot).2

/-- What a step can do. -/
inductive Step.Did : Step → Slot → Except Refusal Unit × Slot → Prop
  | replaced {step : Step} {slot : Slot} {c : Credentials} (h : step.fresh? slot = some c) :
      Did step slot (.ok (), .held c)
  | changed (call : Call) (c : Credentials) :
      Did (.change call) (.held c) ((call.run c).1.mapError .failed, .held (call.run c).2)
  | sealed {c : Credentials} {s : SealedCredentials} (h : c.seal.result = .ok s) :
      Did .freeze (.held c) (.ok (), .frozen s)
  | opened (s : SealedCredentials) : Did .intoInner (.frozen s) (.ok (), .held s.credentials)
  | left {step : Step} {slot : Slot} (outcome : Except Refusal Unit) (h : step.Keeps slot)
      (hopen : step = .intoInner → ∀ s, slot ≠ .frozen s) : Did step slot (outcome, slot)

theorem Step.did_offer {step : Step} {slot : Slot} {adopt : Bool}
    {result : Except LoginError Credentials}
    (hfresh : step.fresh? slot = if adopt then result.toOption else none)
    (hstep : step ≠ .intoInner) : Did step slot (slot.offer adopt result) := by
  cases result with
  | error e => exact .left _ (by cases adopt <;> exact hfresh) fun h => absurd h hstep
  | ok c =>
    cases adopt with
    | false => exact .left _ hfresh fun h => absurd h hstep
    | true => exact .replaced hfresh

theorem Step.did_run (step : Step) (slot : Slot) : Did step slot (step.run slot) := by
  cases step with
  | make source => exact did_offer rfl nofun
  | change call =>
    cases slot with
    | held c => exact .changed call c
    | _ => exact .left _ rfl nofun
  | resolveArguments adopt =>
    cases slot with
    | vacant => exact .left _ (by cases adopt <;> rfl) nofun
    | _ => exact did_offer (by cases adopt <;> rfl) nofun
  | convert adopt =>
    cases slot with
    | vacant => exact .left _ (by cases adopt <;> rfl) nofun
    | _ => exact did_offer (by cases adopt <;> rfl) nofun
  | freeze =>
    cases slot with
    | held c =>
      dsimp only [run]
      split
      · next s hs => exact .sealed hs
      · exact .left _ rfl nofun
    | _ => exact .left _ rfl nofun
  | intoInner =>
    cases slot with
    | frozen s => exact .opened s
    | _ => exact .left _ rfl fun _ _ => nofun

theorem Step.run_of_error {step : Step} {slot : Slot} {refusal : Refusal}
    (h : (step.run slot).1 = .error refusal) : (step.run slot).2 = slot := by
  have hdid := step.did_run slot
  generalize step.run slot = done at h hdid
  cases hdid with
  | changed call c =>
    cases hcall : (call.run c).1 with
    | ok _ =>
      rw [hcall] at h
      cases h
    | error e => exact congrArg Slot.held (Credentials.run_of_error hcall)
  | left => rfl
  | _ => cases h

theorem Step.run_of_fresh {step : Step} {slot : Slot} {c : Credentials}
    (h : step.fresh? slot = some c) : (step.run slot).2 = .held c := by
  have hdid := step.did_run slot
  generalize step.run slot = done at hdid
  cases hdid with
  | replaced h' =>
    cases h.symm.trans h'
    rfl
  | left _ h' => cases h.symm.trans h'
  | _ => cases h

/-- Sealed credentials can only be opened or replaced. -/
theorem Step.run_frozen {step : Step} {s : SealedCredentials} (h : step.KeepsSeal (.frozen s)) :
    (step.run (.frozen s)).2 = .frozen s := by
  obtain ⟨hkeeps, hclosed⟩ := h
  have hdid := step.did_run (.frozen s)
  generalize step.run (.frozen s) = done at hdid
  cases hdid with
  | replaced h' => cases hkeeps.symm.trans h'
  | opened => exact absurd rfl hclosed
  | left => rfl

/-- Sealed credentials have just been sealed, or were sealed before. -/
theorem Step.frozen_of_run {step : Step} {slot : Slot} {s : SealedCredentials}
    (h : (step.run slot).2 = .frozen s) :
    (step = .freeze ∧ slot = .held s.credentials) ∨ (slot = .frozen s ∧ step.KeepsSeal slot) := by
  have hdid := step.did_run slot
  generalize step.run slot = done at h hdid
  cases hdid with
  | sealed hseal =>
    cases h
    exact .inl ⟨rfl, congrArg Slot.held (credentials_of_seal hseal).symm⟩
  | left _ hkeeps hopen => exact .inr ⟨h, hkeeps, fun hstep => hopen hstep s h⟩
  | _ => cases h

theorem arguments_run (call : Call) (c : Credentials) : (call.run c).2.arguments = c.arguments := by
  cases call <;> rfl

theorem Step.arguments?_run {step : Step} {slot : Slot} (h : step.Keeps slot) :
    (step.run slot).2.arguments? = slot.arguments? := by
  have hdid := step.did_run slot
  generalize step.run slot = done at hdid
  cases hdid with
  | replaced h' => cases h.symm.trans h'
  | changed call c => exact arguments_run call c
  | sealed hseal => exact congrArg arguments (credentials_of_seal hseal)
  | opened => rfl
  | left => rfl

theorem arguments_of_build {username password host : String} {port : Option UInt16}
    {c : Credentials} (h : (build username password host port).result = .ok c) :
    c.arguments = none := by
  obtain ⟨_, _, _, _, rfl⟩ := build_eq_ok_iff.mp h
  rfl

theorem arguments_of_interpret {arguments : List String} {c : Credentials}
    (h : (RawArguments.interpret arguments).result = .ok c) : c.arguments = none := by
  obtain ⟨_, hcredentials⟩ := RawArguments.interpret_eq_ok_iff.mp h
  obtain ⟨_, built, hbuilt, rfl⟩ := RawArguments.Settings.credentials_eq_ok_iff.mp hcredentials
  have harguments : built.arguments = none := arguments_of_build hbuilt
  exact harguments

theorem arguments_of_resolveArguments {c d : Credentials}
    (h : c.resolveArguments.result = .ok d) : d.arguments = none := by
  unfold resolveArguments at h
  split at h
  · cases h
  · exact arguments_of_interpret h

theorem arguments_of_toCredentials {p : Profile} {c : Credentials}
    (h : p.toCredentials.result = .ok c) : c.arguments = none := by
  obtain ⟨_, _, _, _, _, rfl⟩ := Profile.toCredentials_eq_ok_iff.mp h
  rfl

theorem eq_ok_of_toOption {ε α : Type} {result : Except ε α} {a : α}
    (h : result.toOption = some a) : result = .ok a := by
  cases result with
  | error e => cases h
  | ok b => exact congrArg Except.ok (Option.some.inj h)

/-- New credentials carry raw arguments only when they are made from these. -/
theorem Step.arguments_of_fresh {step : Step} {slot : Slot} {c : Credentials}
    (h : step.fresh? slot = some c) (given : List String) :
    c.arguments = some given ↔ step = .make (.arguments (some given)) := by
  have hnone (hc : c.arguments = none) (hstep : step ≠ .make (.arguments (some given))) :
      c.arguments = some given ↔ step = .make (.arguments (some given)) :=
    ⟨fun h' => absurd (hc.symm.trans h') nofun, fun h' => absurd h' hstep⟩
  cases step with
  | make source =>
    have hresult : source.result = .ok c := eq_ok_of_toOption h
    cases source with
    | empty => cases hresult; exact hnone rfl nofun
    | arguments given' =>
      cases given' with
      | none => cases hresult
      | some given' =>
        cases hresult
        exact ⟨fun h' => by cases h'; rfl, fun h' => by cases h'; rfl⟩
    | host => exact hnone (arguments_of_build hresult) nofun
    | interpret => exact hnone (arguments_of_interpret hresult) nofun
    | profile => exact hnone (arguments_of_toCredentials hresult) nofun
  | resolveArguments adopt =>
    cases adopt with
    | false => cases h
    | true =>
      obtain ⟨d, _, hd⟩ := Option.bind_eq_some_iff.mp h
      exact hnone (arguments_of_resolveArguments (eq_ok_of_toOption hd)) nofun
  | convert adopt =>
    cases adopt with
    | false => cases h
    | true =>
      obtain ⟨d, _, hd⟩ := Option.bind_eq_some_iff.mp h
      exact hnone (arguments_of_toCredentials (eq_ok_of_toOption hd)) nofun
  | _ => cases h

@[simp] theorem Slot.after_nil (slot : Slot) : slot.after [] = slot := rfl

@[simp] theorem Slot.after_cons (slot : Slot) (step : Step) (rest : List Step) :
    slot.after (step :: rest) = (step.run slot).2.after rest := rfl

@[simp] theorem Slot.after_append (slot : Slot) (earlier later : List Step) :
    slot.after (earlier ++ later) = (slot.after earlier).after later :=
  List.foldl_append

theorem throughout_append {P : Step → Slot → Prop} {earlier later : List Step} {slot : Slot} :
    Throughout P (earlier ++ later) slot ↔
      Throughout P earlier slot ∧ Throughout P later (slot.after earlier) := by
  induction earlier generalizing slot with
  | nil => exact ⟨fun h => ⟨trivial, h⟩, And.right⟩
  | cons step rest ih =>
    simp only [List.cons_append, Throughout, ih, Slot.after_cons, and_assoc]

/-- What a variable has come to be was brought about by one step of its history, and kept by
all that followed, when one step can only bring it about or keep it. -/
theorem exists_origin {Q : Slot → Prop} {brings keeps : Step → Slot → Prop}
    (hvacant : ¬Q .vacant)
    (hstep : ∀ step slot, Q (step.run slot).2 → brings step slot ∨ (Q slot ∧ keeps step slot))
    {history : List Step} (h : Q (Slot.vacant.after history)) :
    ∃ earlier step later, history = earlier ++ step :: later ∧
      brings step (Slot.vacant.after earlier) ∧
      Throughout keeps later (Slot.vacant.after (earlier ++ [step])) := by
  induction history using List.reverseRecOn with
  | nil => exact absurd h hvacant
  | append_singleton history last ih =>
    rw [Slot.after_append] at h
    rcases hstep last _ h with hbrings | ⟨hbefore, hkeeps⟩
    · exact ⟨history, last, [], rfl, hbrings, trivial⟩
    · obtain ⟨earlier, step, later, rfl, horigin, hlater⟩ := ih hbefore
      refine ⟨earlier, step, later ++ [last], by simp, horigin, ?_⟩
      refine throughout_append.mpr ⟨hlater, ?_, trivial⟩
      rwa [← Slot.after_append, List.append_assoc]

/-- Sealed credentials stay as they are until they are opened or replaced. -/
theorem after_frozen {s : SealedCredentials} {later : List Step}
    (h : Throughout Step.KeepsSeal later (.frozen s)) :
    (Slot.frozen s).after later = .frozen s := by
  induction later with
  | nil => rfl
  | cons step rest ih =>
    obtain ⟨hstep, hrest⟩ := h
    rw [Step.run_frozen hstep] at hrest
    rw [Slot.after_cons, Step.run_frozen hstep]
    exact ih hrest

theorem arguments?_after {slot : Slot} {later : List Step}
    (h : Throughout Step.Keeps later slot) : (slot.after later).arguments? = slot.arguments? := by
  induction later generalizing slot with
  | nil => rfl
  | cons step rest ih => exact (ih h.2).trans (Step.arguments?_run h.1)

/-- Credentials that are sealed were sealed by a step that found them as they are. -/
theorem exists_seal {history : List Step} {s : SealedCredentials}
    (h : Slot.vacant.after history = .frozen s) :
    ∃ earlier later, history = earlier ++ .freeze :: later ∧
      Slot.vacant.after earlier = .held s.credentials ∧
      Throughout Step.KeepsSeal later (Slot.vacant.after (earlier ++ [.freeze])) := by
  obtain ⟨earlier, step, later, hhistory, ⟨rfl, hheld⟩, hlater⟩ :=
    exists_origin (Q := (· = .frozen s)) nofun
      (fun step slot => Step.frozen_of_run) h
  exact ⟨earlier, later, hhistory, hheld, hlater⟩

/-- Credentials carry raw arguments when they are the ones that were made from these. -/
theorem arguments?_after_iff {history : List Step} {given : List String} :
    (Slot.vacant.after history).arguments? = some given ↔
      ∃ earlier later, history = earlier ++ .make (.arguments (some given)) :: later ∧
        Throughout Step.Keeps later
          (Slot.vacant.after (earlier ++ [.make (.arguments (some given))])) := by
  constructor
  · intro h
    have hstep : ∀ (step : Step) (slot : Slot), (step.run slot).2.arguments? = some given →
        step = .make (.arguments (some given)) ∨
          (slot.arguments? = some given ∧ step.Keeps slot) := by
      intro step slot hcarried
      cases hfresh : step.fresh? slot with
      | none => exact .inr ⟨(Step.arguments?_run hfresh).symm.trans hcarried, hfresh⟩
      | some c =>
        rw [Step.run_of_fresh hfresh] at hcarried
        exact .inl ((Step.arguments_of_fresh hfresh given).mp hcarried)
    obtain ⟨earlier, step, later, hhistory, rfl, hlater⟩ :=
      exists_origin (Q := fun slot => slot.arguments? = some given) nofun hstep h
    exact ⟨earlier, later, hhistory, hlater⟩
  · rintro ⟨earlier, later, rfl, hlater⟩
    have hmade : ((Step.make (.arguments (some given))).run (Slot.vacant.after earlier)).2 =
        .held { arguments := some given } := rfl
    rw [Slot.after_append, Slot.after_cons, Slot.after_nil, hmade] at hlater
    rw [Slot.after_append, Slot.after_cons, hmade, arguments?_after hlater]
    rfl

theorem run_freeze_eq_ok_iff {c : Credentials} :
    (Step.freeze.run (.held c)).1 = .ok () ↔ c.validate = .ok () := by
  rw [validate_eq_ok_iff_fault, Step.run]
  cases hfault : c.fault? with
  | none => simp [seal_of_valid hfault]
  | some fault => simp [seal_of_fault hfault]

/-- What holds after every history of credentials in a variable.

Sealed credentials pass the check: their compression is a number between zero and one and
their group is none below the default one.  They were sealed as they are.  Sealing succeeds
exactly when the check does; from then on every step but the one that opens them again leaves
them alone, short of putting others in their place, and opening them gives back what was
sealed.  Raw arguments are carried by credentials that were made from exactly these and have
been kept since, whatever was changed, sealed or opened, and by no others; new credentials of
any other kind carry none.  A step that is refused leaves everything as it was. -/
theorem invariants_of_history (history : List Step) :
    (∀ s, Slot.vacant.after history = .frozen s →
      s.credentials.validate = .ok () ∧
      (∃ q, s.credentials.compression.value? = some q ∧ 0 ≤ q ∧ q ≤ 1) ∧
      defaultGroup ≤ s.credentials.groupId ∧
      ∃ earlier later, history = earlier ++ .freeze :: later ∧
        Slot.vacant.after earlier = .held s.credentials ∧
        Throughout Step.KeepsSeal later (Slot.vacant.after (earlier ++ [.freeze]))) ∧
    (∀ c, Slot.vacant.after history = .held c →
      ((Step.freeze.run (.held c)).1 = .ok () ↔ c.validate = .ok ()) ∧
      ∀ later, (Step.freeze.run (.held c)).1 = .ok () →
        Throughout Step.KeepsSeal later (Slot.vacant.after (history ++ [.freeze])) →
        (∃ s, s.credentials = c ∧ Slot.vacant.after (history ++ .freeze :: later) = .frozen s) ∧
        Slot.vacant.after (history ++ .freeze :: later ++ [.intoInner]) = .held c) ∧
    ((∀ given, (Slot.vacant.after history).arguments? = some given ↔
      ∃ earlier later, history = earlier ++ .make (.arguments (some given)) :: later ∧
        Throughout Step.Keeps later
          (Slot.vacant.after (earlier ++ [.make (.arguments (some given))]))) ∧
      ∀ (step : Step) c, step.fresh? (Slot.vacant.after history) = some c →
        (step.run (Slot.vacant.after history)).2 = .held c ∧
        ∀ given, c.arguments = some given ↔ step = .make (.arguments (some given))) ∧
    ∀ (step : Step) refusal, (step.run (Slot.vacant.after history)).1 = .error refusal →
      (step.run (Slot.vacant.after history)).2 = Slot.vacant.after history := by
  refine ⟨fun s hs => ?_, fun c hc => ⟨run_freeze_eq_ok_iff, fun later hseal hlater => ?_⟩,
    ⟨fun given => arguments?_after_iff, fun step c hfresh =>
      ⟨Step.run_of_fresh hfresh, Step.arguments_of_fresh hfresh⟩⟩,
    fun step refusal => Step.run_of_error⟩
  · have hvalidate : s.credentials.validate = .ok () := validate_eq_ok_iff_fault.mpr s.valid
    obtain ⟨hcompression, hgroup⟩ := (validate_eq_ok_iff _).mp hvalidate
    exact ⟨hvalidate, hcompression, hgroup, exists_seal hs⟩
  · have hfault : c.fault? = none :=
      validate_eq_ok_iff_fault.mp (run_freeze_eq_ok_iff.mp hseal)
    have hsealed : (Step.freeze.run (.held c)).2 = .frozen ⟨c, hfault⟩ := by
      rw [Step.run, seal_of_valid hfault]
    rw [Slot.after_append, Slot.after_cons, Slot.after_nil, hc, hsealed] at hlater
    have hafter : Slot.vacant.after (history ++ .freeze :: later) = .frozen ⟨c, hfault⟩ := by
      rw [Slot.after_append, Slot.after_cons, hc, hsealed, after_frozen hlater]
    refine ⟨⟨_, rfl, hafter⟩, ?_⟩
    rw [Slot.after_append, hafter]
    rfl

/-- Credentials that are made from raw arguments, changed and sealed: a change is refused
from then on, and interpreting the arguments without adopting the result is no change. -/
theorem invariants_of_history_sealed :
    let given := ["--omero.host=h", "#"]
    let history : List Step := [.make (.arguments (some given)), .change (.setEncryption false)]
    let later : List Step := [.change (.setGroupId (-7)), .resolveArguments false]
    ∃ s, s.credentials = { arguments := some given, encryption := false } ∧
      Slot.vacant.after (history ++ .freeze :: later) = .frozen s ∧
      (Slot.vacant.after (history ++ .freeze :: later ++ [.intoInner])).arguments? =
        some given ∧
      s.credentials.validate = .ok () := by
  intro given history later
  have hheld : Slot.vacant.after history =
      .held { arguments := some given, encryption := false } := by decide +kernel
  obtain ⟨_, hseal, _, _⟩ := invariants_of_history history
  have hlater : Throughout Step.KeepsSeal later (Slot.vacant.after (history ++ [.freeze])) :=
    ⟨⟨rfl, nofun⟩, ⟨rfl, nofun⟩, trivial⟩
  obtain ⟨⟨s, hs, hafter⟩, hopened⟩ :=
    (hseal _ hheld).2 later ((hseal _ hheld).1.mpr (by decide +kernel)) hlater
  obtain ⟨hvalid, -⟩ := (invariants_of_history (history ++ .freeze :: later)).1 s hafter
  exact ⟨s, hs, hafter, by rw [hopened]; rfl, hvalid⟩

end Credentials
end ServerLogin
