import ServerLogin.Proofs.Credentials.Calls
import ServerLogin.Proofs.Secrecy.Options

/-!
What the debug view of credentials tells of the passwords that went into them.  Two
histories of credentials are followed that differ in nothing but passwords.  The password
of the user never shows, but raw arguments that credentials were made from are shown as
they are.
-/

namespace ServerLogin

open ServerLogin.Text ServerLogin.CommandLine

/-- Two passwords that are both empty or both not. -/
def SameSecret (p q : String) : Prop := p = "" ↔ q = ""

namespace RawArguments

variable {a b : String} {as bs : List String} {key : Key}

/-- Arguments that are the same, or that give a password and differ in nothing but its
value, which is empty in both or in none. -/
structure TwinArgument (a b : String) : Prop where
  value : SameButValue a b
  secret : ∀ p q, read a = .property .pass p → read b = .property .pass q → SameSecret p q

theorem TwinArgument.refl (a : String) : TwinArgument a a := by
  refine ⟨.inl rfl, fun p q hp hq => ?_⟩
  rw [hp] at hq
  cases hq
  exact Iff.rfl

theorem twinArguments_refl (arguments : List String) :
    List.Forall₂ TwinArgument arguments arguments := List.forall₂_same.mpr fun a _ => .refl a

theorem TwinArgument.valueFor?_eq (h : TwinArgument a b) (hkey : key ≠ .pass) :
    valueFor? key a = valueFor? key b := by
  obtain rfl | ⟨p, q, ha, hb⟩ := h.value.sameArgument
  · rfl
  · rw [valueFor?, valueFor?, ha, hb]
    dsimp only
    rw [if_neg (Ne.symm hkey), if_neg (Ne.symm hkey)]

theorem TwinArgument.valueFor?_pass (h : TwinArgument a b) :
    Option.Rel SameSecret (valueFor? .pass a) (valueFor? .pass b) := by
  obtain rfl | ⟨p, q, ha, hb⟩ := h.value.sameArgument
  · cases valueFor? .pass a with
    | none => exact .none
    | some p => exact .some Iff.rfl
  · rw [valueFor?, valueFor?, ha, hb]
    exact .some (h.secret p q ha hb)

theorem valuesFor_eq_of_twins (h : List.Forall₂ TwinArgument as bs) (hkey : key ≠ .pass) :
    valuesFor key as = valuesFor key bs := by
  induction h with
  | nil => rfl
  | cons hab _ ih => rw [valuesFor, valuesFor, List.filterMap_cons, List.filterMap_cons,
      hab.valueFor?_eq hkey, ← valuesFor, ← valuesFor, ih]

/-- Of two lists of passwords, the last ones are both empty or both not. -/
theorem sameSecret_last {ps qs : List String} (h : List.Forall₂ SameSecret ps qs) :
    ∀ p q, SameSecret p q → SameSecret (ps.getLast?.getD p) (qs.getLast?.getD q) := by
  induction h with
  | nil => exact fun _ _ hpq => hpq
  | @cons p q ps qs hpq _ ih =>
    intro _ _ _
    rw [List.getLast?_cons, List.getLast?_cons]
    exact ih p q hpq

theorem sameSecret_lastValues (h : List.Forall₂ TwinArgument as bs) :
    SameSecret (Settings.lastValues {} as).login.password
      (Settings.lastValues {} bs).login.password := by
  have hsession : valuesFor .session as = valuesFor .session bs :=
    valuesFor_eq_of_twins h (by decide)
  have hpass : List.Forall₂ SameSecret (valuesFor .pass as) (valuesFor .pass bs) :=
    List.rel_filterMap (fun _ _ hab => hab.valueFor?_pass) h
  unfold Settings.login Settings.lastValues
  rw [hsession]
  dsimp only
  cases (valuesFor .session bs).getLast?.or none with
  | none => exact sameSecret_last hpass "" "" Iff.rfl
  | some session => exact Iff.rfl

/-- The password of the credentials that arguments come to. -/
theorem password_of_interpret {c : Credentials} (h : (interpret as).result = .ok c) :
    c.user.password = (Settings.lastValues {} as).login.password := by
  obtain ⟨_, hcredentials⟩ := interpret_eq_ok_iff.mp h
  obtain ⟨_, built, hbuilt, rfl⟩ := Settings.credentials_eq_ok_iff.mp hcredentials
  obtain ⟨server, port, _, _, rfl⟩ := Credentials.build_eq_ok_iff.mp hbuilt
  rfl

end RawArguments

namespace Credentials

open ServerLogin.RawArguments

variable {c d : Credentials}

/-- Two calls that are the same but for the passwords they set. -/
inductive Call.Twins : Call → Call → Prop
  | same (call : Call) : Twins call call
  | setUser (username : String) {p q : String} (h : SameSecret p q) :
      Twins (setUser ⟨username, p⟩) (setUser ⟨username, q⟩)
  | setPassword {p q : String} (h : SameSecret p q) : Twins (setPassword p) (setPassword q)

/-- Credentials that the same operations lead to, in the same order, with passwords that
are both empty or both not wherever one is given. -/
inductive Twins : Credentials → Credentials → Prop
  | empty : Twins {} {}
  | ofArguments {as bs : List String} {c d : Credentials} (h : List.Forall₂ TwinArgument as bs)
      (hc : (ofArguments (some as)).result = .ok c) (hd : (ofArguments (some bs)).result = .ok d) :
      Twins c d
  | build {username p q host : String} {port : Option UInt16} {c d : Credentials}
      (h : SameSecret p q) (hc : (build username p host port).result = .ok c)
      (hd : (build username q host port).result = .ok d) : Twins c d
  | interpret {as bs : List String} {c d : Credentials} (h : List.Forall₂ TwinArgument as bs)
      (hc : (interpret as).result = .ok c) (hd : (interpret bs).result = .ok d) : Twins c d
  | ofProfile {p : Profile} {password : String} {c d : Credentials}
      (h : SameSecret p.password password) (hc : p.toCredentials.result = .ok c)
      (hd : (p.setPassword password).toCredentials.result = .ok d) : Twins c d
  | resolveArguments {c d c' d' : Credentials} (h : Twins c d)
      (hc : c.resolveArguments.result = .ok c') (hd : d.resolveArguments.result = .ok d') :
      Twins c' d'
  | call {c d : Credentials} {call call' : Call} (h : Twins c d) (hcall : call.Twins call') :
      Twins (call.run c).2 (call'.run d).2
  | intoInner {c d : Credentials} {c' d' : SealedCredentials} (h : Twins c d)
      (hc : c.seal.result = .ok c') (hd : d.seal.result = .ok d') :
      Twins c'.credentials d'.credentials

/-- Credentials that differ in nothing but passwords, in the user and in raw arguments. -/
inductive Alike (c : Credentials) : Credentials → Prop
  | intro {password : String} {arguments : Option (List String)}
      (secret : SameSecret c.user.password password)
      (twins : Option.Rel (List.Forall₂ TwinArgument) c.arguments arguments) :
      Alike c { c.setPassword password with arguments := arguments }

theorem Alike.of_sameButPassword (h : c.SameButPassword d)
    (hsecret : SameSecret c.user.password d.user.password) : c.Alike d := by
  obtain ⟨password, rfl⟩ := h
  refine .intro hsecret ?_
  cases c.arguments with
  | none => exact .none
  | some arguments => exact .some (twinArguments_refl arguments)

theorem Alike.arguments (h : c.Alike d) :
    Option.Rel (List.Forall₂ TwinArgument) c.arguments d.arguments := by
  cases h with
  | intro _ twins => exact twins

theorem alike_of_interpret {as bs : List String} (h : List.Forall₂ TwinArgument as bs)
    (hc : (RawArguments.interpret as).result = .ok c)
    (hd : (RawArguments.interpret bs).result = .ok d) : c.Alike d := by
  have hsame : List.Forall₂ SameArgument as bs := h.imp fun _ _ hab => hab.value.sameArgument
  refine .of_sameButPassword ((interpret_related hsame).of_ok hc hd) ?_
  rw [password_of_interpret hc, password_of_interpret hd]
  exact sameSecret_lastValues h

theorem Alike.resolveArguments {c' d' : Credentials} (h : c.Alike d)
    (hc : c.resolveArguments.result = .ok c') (hd : d.resolveArguments.result = .ok d') :
    c'.Alike d' := by
  have harguments := h.arguments
  unfold Credentials.resolveArguments at hc hd
  generalize c.arguments = arguments at harguments hc
  generalize d.arguments = others at harguments hd
  cases harguments with
  | none => cases hc
  | some htwins => exact alike_of_interpret htwins hc hd

theorem Alike.run {call call' : Call} (h : c.Alike d) (hcall : call.Twins call') :
    (call.run c).2.Alike (call'.run d).2 := by
  obtain ⟨secret, twins⟩ := h
  cases hcall with
  | setUser username hsecret => exact .intro hsecret twins
  | setPassword hsecret => exact .intro hsecret twins
  | same call =>
    cases call with
    | setUser user => exact .intro Iff.rfl twins
    | setPassword password => exact .intro Iff.rfl twins
    | _ => exact .intro secret twins

theorem Twins.alike (h : Twins c d) : c.Alike d := by
  induction h with
  | empty => exact .of_sameButPassword ⟨"", rfl⟩ Iff.rfl
  | ofArguments h hc hd =>
    cases hc
    cases hd
    exact .intro Iff.rfl (.some h)
  | @build username p q host port c d h hc hd =>
    refine .of_sameButPassword ((build_related username p q host port).of_ok hc hd) ?_
    obtain ⟨_, _, _, _, rfl⟩ := build_eq_ok_iff.mp hc
    obtain ⟨_, _, _, _, rfl⟩ := build_eq_ok_iff.mp hd
    exact h
  | interpret h hc hd => exact alike_of_interpret h hc hd
  | @ofProfile p password c d h hc hd =>
    refine .of_sameButPassword ((Profile.toCredentials_related ⟨password, rfl⟩).of_ok hc hd) ?_
    obtain ⟨_, _, _, _, _, rfl⟩ := Profile.toCredentials_eq_ok_iff.mp hc
    obtain ⟨_, _, _, _, _, rfl⟩ := Profile.toCredentials_eq_ok_iff.mp hd
    exact h
  | resolveArguments _ hc hd ih => exact ih.resolveArguments hc hd
  | call _ hcall ih => exact ih.run hcall
  | intoInner _ hc hd ih =>
    rw [credentials_of_seal hc, credentials_of_seal hd]
    exact ih

/-- Every history of credentials is a twin of itself. -/
theorem Reachable.twins (h : c.Reachable) : c.Twins c := by
  induction h with
  | empty => exact .empty
  | @ofArguments arguments c h =>
    cases arguments with
    | none => cases h
    | some arguments => exact .ofArguments (twinArguments_refl arguments) h h
  | build h => exact .build Iff.rfl h h
  | interpret h => exact .interpret (twinArguments_refl _) h h
  | resolveArguments _ h ih => exact .resolveArguments ih h h
  | @ofProfile p c h => exact @Twins.ofProfile p p.password c c Iff.rfl h h
  | call call _ _ ih => exact .call ih (.same call)
  | intoInner _ h ih => exact .intoInner ih h h

theorem view_eq_of_alike (h : c.Alike d) : c.view = d.view ↔ c.arguments = d.arguments := by
  obtain ⟨secret, _⟩ := h
  have huser : ∀ password, SameSecret c.user.password password →
      (c.setPassword password).user.view = c.user.view := by
    intro password hsecret
    have hview : viewSecret (c.setPassword password).user.password = viewSecret c.user.password :=
      viewSecret_eq hsecret.symm
    rw [User.view, User.view, hview]
    rfl
  rw [← (viewOption_injective viewList_quote_injective).eq_iff]
  unfold view
  dsimp only
  rw [huser _ secret]
  -- The eight fields in front are now the same on both sides.
  exact viewRecord_last_inj [_, _, _, _, _, _, _, _] (List.cons_ne_nil _ _)

/-- Credentials with the same history but for passwords look the same, sealed or not,
exactly when they carry the same raw arguments: those, with the passwords in them, are all
that the view tells one from the other by. -/
theorem view_eq_iff_arguments (h : c.Twins d) :
    (c.view = d.view ↔ c.arguments = d.arguments) ∧
    Option.Rel (List.Forall₂ TwinArgument) c.arguments d.arguments ∧
    ∀ c' d', c.seal.result = .ok c' → d.seal.result = .ok d' →
      (c'.view = d'.view ↔ c.arguments = d.arguments) := by
  have halike := h.alike
  refine ⟨view_eq_of_alike halike, halike.arguments, fun c' d' hc hd => ?_⟩
  rw [SealedCredentials.view, SealedCredentials.view, credentials_of_seal hc,
    credentials_of_seal hd, (viewWrapped_injective _).eq_iff]
  exact view_eq_of_alike halike

/-- Two passwords among raw arguments, and two views. -/
theorem view_ne_of_arguments :
    let c : Credentials := { arguments := some ["--omero.pass=s3cret"] }
    let d : Credentials := { arguments := some ["--omero.pass=other"] }
    c.Twins d ∧ c.view ≠ d.view := by
  intro c d
  have hvalue : SameButValue "--omero.pass=s3cret" "--omero.pass=other" :=
    .inr ⟨"pass".toList, "s3cret".toList, "other".toList, by decide, by decide, by decide,
      "s3cret", rfl⟩
  have hargument : TwinArgument "--omero.pass=s3cret" "--omero.pass=other" := by
    refine ⟨hvalue, fun p q hp hq => ?_⟩
    cases hp
    cases hq
    exact ⟨nofun, nofun⟩
  have htwins : c.Twins d := .ofArguments (.cons hargument .nil) rfl rfl
  refine ⟨htwins, fun hview => ?_⟩
  exact absurd ((view_eq_iff_arguments htwins).1.mp hview) (by decide)

end Credentials
end ServerLogin
