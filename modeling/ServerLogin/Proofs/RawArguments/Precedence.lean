import Mathlib.Logic.Relation
import ServerLogin.Proofs.RawArguments.Credentials

/-!
What any list of raw arguments comes to.  `Means` says it in terms of the text: the first
argument with a malformed number decides; without one, the last text that is given to each
key does, and a host must be among these.  So a list may lose the arguments that do not
count, and neighbours for different keys may change places.
-/

namespace ServerLogin.RawArguments

open ServerLogin.Text ServerLogin.Number

theorem after?_eq_some_iff {mark cs rest : List Char} :
    after? mark cs = some rest ↔ cs = mark ++ rest := by
  constructor
  · intro h
    simp only [after?, Option.ite_none_right_eq_some, Option.some.injEq,
      List.isPrefixOf_iff_prefix] at h
    obtain ⟨⟨behind, rfl⟩, hdrop⟩ := h
    rw [← hdrop, List.drop_left]
  · rintro rfl
    exact after?_append mark rest

theorem splitEquals?_eq_some_iff {cs name raw : List Char} :
    splitEquals? cs = some (name, raw) ↔ '=' ∉ name ∧ cs = name ++ '=' :: raw := by
  constructor
  · intro h
    induction cs generalizing name with
    | nil => cases h
    | cons c rest ih =>
      rw [splitEquals?] at h
      split at h
      · next hc =>
        cases h
        exact ⟨List.not_mem_nil, congrArg (· :: raw) hc⟩
      · next hc =>
        obtain ⟨⟨more, behind⟩, hmore, hsame⟩ := Option.map_eq_some_iff.mp h
        cases hsame
        obtain ⟨hname, rfl⟩ := ih hmore
        refine ⟨?_, rfl⟩
        rw [List.mem_cons, not_or]
        exact ⟨Ne.symm hc, hname⟩
  · rintro ⟨hname, rfl⟩
    exact splitEquals?_append hname raw

/-- An argument gives a text to a key: it begins with the mark, what stands before the first
equals sign is the name of the key, blanks around it aside, and the text is the value of
what stands behind. -/
def Gives (key : Key) (argument text : String) : Prop :=
  ∃ name raw, '=' ∉ name ∧ argument.toList = "--omero.".toList ++ (name ++ '=' :: raw) ∧
    trim (String.ofList name) = key.name ∧ text = value raw

theorem read_eq_property_iff {key : Key} {argument text : String} :
    read argument = .property key text ↔ Gives key argument text := by
  constructor
  · intro h
    simp only [read] at h
    split at h
    · cases h
    · next rest hafter =>
      split at h
      · cases h
      · next name raw hsplit =>
        split at h
        · cases h
        · next found hkey =>
          cases h
          obtain ⟨hname, rfl⟩ := splitEquals?_eq_some_iff.mp hsplit
          refine ⟨name, raw, hname, after?_eq_some_iff.mp hafter, ?_, rfl⟩
          rw [trim, String.toList_ofList]
          exact (Key.ofName?_eq_some_iff.mp hkey).symm
  · rintro ⟨name, raw, hname, htext, hkey, rfl⟩
    have hfound : Key.ofName? (String.ofList (trimChars name)) = some key := by
      apply Key.ofName?_eq_some_iff.mpr
      rw [← hkey, trim, String.toList_ofList]
    rw [read, htext, after?_append]
    simp only [splitEquals?_append hname, hfound]

theorem valueFor?_eq_some_iff_gives {key : Key} {argument text : String} :
    valueFor? key argument = some text ↔ Gives key argument text :=
  valueFor?_eq_some_iff.trans read_eq_property_iff

theorem valueFor?_eq_none_iff {key : Key} {argument : String} :
    valueFor? key argument = none ↔ ∀ text, ¬Gives key argument text := by
  simp only [Option.eq_none_iff_forall_ne_some, ne_eq, valueFor?_eq_some_iff_gives]

/-- An argument gives a text to one key only. -/
theorem Gives.valueFor? {key : Key} {argument text : String} (h : Gives key argument text)
    (other : Key) : valueFor? other argument = if key = other then some text else none := by
  rw [RawArguments.valueFor?, read_eq_property_iff.mpr h]

theorem Gives.valuesFor_cons {key : Key} {argument text : String} (h : Gives key argument text)
    (other : Key) (rest : List String) : valuesFor other (argument :: rest) =
      (if key = other then [text] else []) ++ valuesFor other rest := by
  rw [valuesFor, List.filterMap_cons, h.valueFor? other, ← valuesFor]
  by_cases hkey : key = other
  · simp only [if_pos hkey, List.singleton_append]
  · simp only [if_neg hkey, List.nil_append]

/-- A text that is no number, though the key asks for one. -/
def NoNumber : Key → String → Prop
  | .port, text => uint16? text.toList = none
  | .group, text => int64? text.toList = none
  | _, _ => False

instance (key : Key) (text : String) : Decidable (NoNumber key text) :=
  match key with
  | .port => inferInstanceAs (Decidable (uint16? text.toList = none))
  | .group => inferInstanceAs (Decidable (int64? text.toList = none))
  | .host | .user | .pass | .session => inferInstanceAs (Decidable False)

/-- An argument that gives a key a malformed number. -/
def Faulty (argument : String) : Prop :=
  ∃ key text, Gives key argument text ∧ NoNumber key text

/-- The key that an argument gives a malformed number, with this text. -/
def fault? (argument : String) : Option (Key × String) :=
  match read argument with
  | .skipped _ => none
  | .property key text => if NoNumber key text then some (key, text) else none

theorem fault?_eq_some_iff {argument : String} {key : Key} {text : String} :
    fault? argument = some (key, text) ↔ Gives key argument text ∧ NoNumber key text := by
  rw [← read_eq_property_iff, fault?]
  cases read argument with
  | skipped message => simp
  | property other given =>
    simp only [Option.ite_none_right_eq_some, Option.some.injEq, Prod.mk.injEq,
      Reading.property.injEq]
    constructor
    · rintro ⟨hbad, rfl, rfl⟩
      exact ⟨⟨rfl, rfl⟩, hbad⟩
    · rintro ⟨⟨rfl, rfl⟩, hbad⟩
      exact ⟨hbad, rfl, rfl⟩

theorem fault?_eq_none_iff {argument : String} : fault? argument = none ↔ ¬Faulty argument := by
  rw [Option.eq_none_iff_forall_ne_some, Faulty]
  simp only [Prod.forall, ne_eq, fault?_eq_some_iff, not_exists]

theorem wellFormed_iff {arguments : List String} :
    WellFormed arguments ↔ ∀ argument ∈ arguments, ¬Faulty argument := by
  constructor
  · rintro h argument hmem ⟨key, text, hgives, hbad⟩
    have htext : text ∈ valuesFor key arguments :=
      mem_valuesFor_iff.mpr ⟨argument, hmem, read_eq_property_iff.mpr hgives⟩
    cases key with
    | port => exact absurd hbad (Option.isSome_iff_ne_none.mp (h.port text htext))
    | group => exact absurd hbad (Option.isSome_iff_ne_none.mp (h.group text htext))
    | host | user | pass | session => exact hbad
  · intro h
    have hnumber : ∀ key, ∀ text ∈ valuesFor key arguments, ¬NoNumber key text := by
      intro key text htext hbad
      obtain ⟨argument, hmem, hread⟩ := mem_valuesFor_iff.mp htext
      exact h argument hmem ⟨key, text, read_eq_property_iff.mp hread, hbad⟩
    exact ⟨fun text htext => Option.isSome_iff_ne_none.mpr (hnumber .port text htext),
      fun text htext => Option.isSome_iff_ne_none.mpr (hnumber .group text htext)⟩

namespace Settings

theorem set_of_noNumber {s : Settings} {key : Key} {text : String} (h : NoNumber key text) :
    s.set key text = .error (.invalidArgument (.badNumber key.name text)) := by
  cases key with
  | port =>
    have hnone : uint16? text.toList = none := h
    simp only [set, hnone]
  | group =>
    have hnone : int64? text.toList = none := h
    simp only [set, hnone]
  | host | user | pass | session => exact h.elim

/-- Of several malformed numbers the first one is reported, whatever stands behind it. -/
theorem result_addAll_of_fault {s : Settings} {front back : List String} {argument : String}
    {key : Key} {text : String} (hfront : ∀ earlier ∈ front, ¬Faulty earlier)
    (hgives : Gives key argument text) (hbad : NoNumber key text) :
    (s.addAll (front ++ argument :: back)).result =
      .error (.invalidArgument (.badNumber key.name text)) := by
  induction front generalizing s with
  | nil =>
    rw [List.nil_append, addAll, Outcome.result_bind,
      add_property (read_eq_property_iff.mpr hgives), set_of_noNumber hbad]
    rfl
  | cons earlier rest ih =>
    rw [List.forall_mem_cons] at hfront
    have hwell : WellFormed [earlier] :=
      wellFormed_iff.mpr (List.forall_mem_singleton.mpr hfront.1)
    rw [List.cons_append, addAll, Outcome.result_bind, result_add hwell]
    exact ih hfront.2

/-- The settings for a text, or none, for each key. -/
def ofTexts (texts : Key → Option String) : Settings where
  host := (texts .host).getD ""
  port := (texts .port).bind fun text => uint16? text.toList
  user := (texts .user).getD ""
  pass := (texts .pass).getD ""
  session := texts .session
  group := (texts .group).bind fun text => int64? text.toList

theorem lastValues_eq_ofTexts (arguments : List String) :
    Settings.lastValues {} arguments =
      ofTexts fun key => (valuesFor key arguments).getLast? := by
  simp only [lastValues, lastNumber, Option.or_none, ofTexts]

end Settings

/-- The first malformed number and the last text of each key decide on the result. -/
theorem result_interpret (arguments : List String) :
    (interpret arguments).result =
      match arguments.findSome? fault? with
      | some (key, text) => .error (.invalidArgument (.badNumber key.name text))
      | none =>
        (Settings.ofTexts fun key => (valuesFor key arguments).getLast?).credentials.result := by
  rw [interpret, Outcome.result_bind]
  cases hfault : arguments.findSome? fault? with
  | some fault =>
    obtain ⟨front, argument, back, rfl, hfound, hfront⟩ := List.findSome?_eq_some_iff.mp hfault
    obtain ⟨hgives, hbad⟩ := fault?_eq_some_iff.mp hfound
    rw [Settings.result_addAll_of_fault (fun earlier hmem => fault?_eq_none_iff.mp
      (hfront earlier hmem)) hgives hbad]
    rfl
  | none =>
    have hnumbers : ∀ argument ∈ arguments, ¬Faulty argument := fun argument hmem =>
      fault?_eq_none_iff.mp (List.findSome?_eq_none_iff.mp hfault argument hmem)
    rw [Settings.result_addAll (wellFormed_iff.mpr hnumbers), Settings.lastValues_eq_ofTexts]
    rfl

/-- The text, or none, that a list gives to a key: that of the last argument for it. -/
inductive LastGiven (key : Key) (arguments : List String) : Option String → Prop
  | given {front back : List String} {argument text : String}
      (split : arguments = front ++ argument :: back) (gives : Gives key argument text)
      (after : ∀ later ∈ back, ∀ other, ¬Gives key later other) :
      LastGiven key arguments (some text)
  | absent (nowhere : ∀ argument ∈ arguments, ∀ text, ¬Gives key argument text) :
      LastGiven key arguments none

theorem lastGiven_iff {key : Key} {arguments : List String} {given : Option String} :
    LastGiven key arguments given ↔ (valuesFor key arguments).getLast? = given := by
  constructor
  · rintro (⟨rfl, hgives, hafter⟩ | hnone)
    · rename_i front back argument text
      have hback : valuesFor key back = [] := by
        apply List.filterMap_eq_nil_iff.mpr
        intro later hlater
        exact valueFor?_eq_none_iff.mpr (hafter later hlater)
      rw [valuesFor_append, hgives.valuesFor_cons, hback, if_pos rfl, List.getLast?_append]
      rfl
    · have hvalues : valuesFor key arguments = [] := by
        apply List.filterMap_eq_nil_iff.mpr
        intro argument hargument
        exact valueFor?_eq_none_iff.mpr (hnone argument hargument)
      rw [hvalues]
      rfl
  · intro hlast
    cases given with
    | none =>
      apply LastGiven.absent
      intro argument hargument
      apply valueFor?_eq_none_iff.mp
      exact List.filterMap_eq_nil_iff.mp (List.getLast?_eq_none_iff.mp hlast) argument hargument
    | some text =>
      obtain ⟨values, hvalues⟩ := List.getLast?_eq_some_iff.mp hlast
      obtain ⟨before, rest, rfl, -, hrest⟩ := List.filterMap_eq_append_iff.mp hvalues
      obtain ⟨front, argument, back, rfl, -, hgives, hback⟩ := List.filterMap_eq_cons_iff.mp hrest
      apply LastGiven.given (List.append_assoc before front (argument :: back)).symm
      · exact valueFor?_eq_some_iff_gives.mp hgives
      · intro later hlater
        apply valueFor?_eq_none_iff.mp
        exact List.filterMap_eq_nil_iff.mp hback later hlater

/-- What is gathered from arguments none of which is faulty: the last text of each key. -/
structure Gathered (arguments : List String) (texts : Key → Option String) : Prop where
  numbers : ∀ argument ∈ arguments, ¬Faulty argument
  last : ∀ key, LastGiven key arguments (texts key)

/-- Credentials for a group, the default one if none is given. -/
def inGroup (group : Option Int64) (c : Credentials) : Credentials :=
  { c with groupId := group.getD defaultGroup }

/-- What a list of arguments comes to. -/
inductive Means (arguments : List String) : Except LoginError Credentials → Prop
  /-- The first malformed number is reported. -/
  | badNumber {front back : List String} {argument : String} {key : Key} {text : String}
      (split : arguments = front ++ argument :: back)
      (before : ∀ earlier ∈ front, ¬Faulty earlier) (gives : Gives key argument text)
      (bad : NoNumber key text) :
      Means arguments (.error (.invalidArgument (.badNumber key.name text)))
  /-- Without one, no host or an empty one is reported. -/
  | missingHost {texts : Key → Option String} (gathered : Gathered arguments texts)
      (host : texts .host = none ∨ texts .host = some "") :
      Means arguments (.error (.invalidArgument .missingHost))
  /-- A session logs in without a password. -/
  | session {texts : Key → Option String} {host session : String}
      (gathered : Gathered arguments texts) (given : texts .host = some host)
      (nonempty : host ≠ "") (replaces : texts .session = some session) :
      Means arguments ((Credentials.build session "" host
          ((texts .port).bind fun text => uint16? text.toList)).result.map
        (inGroup ((texts .group).bind fun text => int64? text.toList)))
  /-- Without a session, the user logs in with the password. -/
  | user {texts : Key → Option String} {host : String}
      (gathered : Gathered arguments texts) (given : texts .host = some host)
      (nonempty : host ≠ "") (absent : texts .session = none) :
      Means arguments ((Credentials.build ((texts .user).getD "") ((texts .pass).getD "") host
          ((texts .port).bind fun text => uint16? text.toList)).result.map
        (inGroup ((texts .group).bind fun text => int64? text.toList)))

/-- The arguments that give the last text of each key give all that counts. -/
theorem Gathered.result {arguments : List String} {texts : Key → Option String}
    (h : Gathered arguments texts) :
    (interpret arguments).result = (Settings.ofTexts texts).credentials.result := by
  have hfault : arguments.findSome? fault? = none := by
    apply List.findSome?_eq_none_iff.mpr
    intro argument hmem
    exact fault?_eq_none_iff.mpr (h.numbers argument hmem)
  have htexts : (fun key => (valuesFor key arguments).getLast?) = texts :=
    funext fun key => lastGiven_iff.mp (h.last key)
  rw [result_interpret, hfault, htexts]

theorem Settings.credentials_of_noHost {s : Settings} (h : s.host = "") :
    s.credentials.result = .error (.invalidArgument .missingHost) := by
  rw [credentials, h]
  rfl

theorem Settings.host_ofTexts {texts : Key → Option String} {host : String}
    (h : texts .host = some host) : (Settings.ofTexts texts).host = host := by
  rw [ofTexts, h, Option.getD_some]

/-- What a list of arguments means is what comes of it. -/
theorem Means.result {arguments : List String} {result : Except LoginError Credentials}
    (h : Means arguments result) : (interpret arguments).result = result := by
  cases h with
  | badNumber split before gives bad =>
    rw [interpret, Outcome.result_bind, split, Settings.result_addAll_of_fault before gives bad]
    rfl
  | missingHost gathered host =>
    rw [gathered.result, Settings.credentials_of_noHost]
    rcases host with hnone | hempty
    · rw [Settings.ofTexts, hnone, Option.getD_none]
    · exact Settings.host_ofTexts hempty
  | @session texts host session gathered given nonempty replaces =>
    have hhost := Settings.host_ofTexts given
    rw [gathered.result, result_credentials (hhost ▸ nonempty), hhost]
    simp only [Settings.ofTexts, Settings.login, replaces]
    rfl
  | @user texts host gathered given nonempty absent =>
    have hhost := Settings.host_ofTexts given
    rw [gathered.result, result_credentials (hhost ▸ nonempty), hhost]
    simp only [Settings.ofTexts, Settings.login, absent]
    rfl

theorem exists_means (arguments : List String) : ∃ result, Means arguments result := by
  cases hfault : arguments.findSome? fault? with
  | some fault =>
    obtain ⟨front, argument, back, hsplit, hfound, hfront⟩ := List.findSome?_eq_some_iff.mp hfault
    obtain ⟨hgives, hbad⟩ := fault?_eq_some_iff.mp hfound
    exact ⟨_, .badNumber hsplit
      (fun earlier hmem => fault?_eq_none_iff.mp (hfront earlier hmem)) hgives hbad⟩
  | none =>
    have gathered : Gathered arguments fun key => (valuesFor key arguments).getLast? := by
      constructor
      · intro argument hmem
        exact fault?_eq_none_iff.mp (List.findSome?_eq_none_iff.mp hfault argument hmem)
      · intro key
        exact lastGiven_iff.mpr rfl
    cases hhost : (valuesFor .host arguments).getLast? with
    | none => exact ⟨_, .missingHost gathered (.inl hhost)⟩
    | some host =>
      by_cases hempty : host = ""
      · exact ⟨_, .missingHost gathered (.inr (hempty ▸ hhost))⟩
      · cases hsession : (valuesFor .session arguments).getLast? with
        | some session => exact ⟨_, .session gathered hhost hempty hsession⟩
        | none => exact ⟨_, .user gathered hhost hempty hsession⟩

theorem result_eq_iff_means {arguments : List String} {result : Except LoginError Credentials} :
    (interpret arguments).result = result ↔ Means arguments result := by
  constructor
  · rintro rfl
    obtain ⟨result, h⟩ := exists_means arguments
    rw [h.result]
    exact h
  · exact Means.result

/-- One change of a list that does not matter. -/
inductive Harmless : List String → List String → Prop
  /-- Leave out an argument that gives nothing. -/
  | skip {argument : String} (front back : List String)
      (nothing : ∀ key text, ¬Gives key argument text) :
      Harmless (front ++ argument :: back) (front ++ back)
  /-- Leave out an argument that is not faulty, when a later one is for the same key. -/
  | overridden {key : Key} {argument text later other : String} (front between back : List String)
      (gives : Gives key argument text) (number : ¬NoNumber key text)
      (overrides : Gives key later other) :
      Harmless (front ++ argument :: (between ++ later :: back))
        (front ++ (between ++ later :: back))
  /-- Exchange neighbours that are for different keys, and are not faulty. -/
  | exchange {key key' : Key} {argument text argument' text' : String} (front back : List String)
      (gives : Gives key argument text) (number : ¬NoNumber key text)
      (gives' : Gives key' argument' text') (number' : ¬NoNumber key' text')
      (different : key ≠ key') :
      Harmless (front ++ argument :: argument' :: back) (front ++ argument' :: argument :: back)

/-- Lists with the same first fault and the same last texts come to the same. -/
theorem result_interpret_congr {arguments others : List String}
    (hfault : arguments.findSome? fault? = others.findSome? fault?)
    (hlast : ∀ key, (valuesFor key arguments).getLast? = (valuesFor key others).getLast?) :
    (interpret arguments).result = (interpret others).result := by
  simp only [result_interpret, hfault, hlast]

theorem Gives.fault?_eq_none {key : Key} {argument text : String} (h : Gives key argument text)
    (hnumber : ¬NoNumber key text) : fault? argument = none := by
  rw [fault?, read_eq_property_iff.mpr h]
  exact if_neg hnumber

theorem fault?_eq_none_of_nothing {argument : String}
    (h : ∀ key text, ¬Gives key argument text) : fault? argument = none := by
  apply fault?_eq_none_iff.mpr
  rintro ⟨key, text, hgives, -⟩
  exact h key text hgives

/-- An argument that is not faulty changes nothing about the first fault. -/
theorem findSome?_fault?_drop {argument : String} (front back : List String)
    (h : fault? argument = none) :
    (front ++ argument :: back).findSome? fault? = (front ++ back).findSome? fault? := by
  rw [List.findSome?_append, List.findSome?_append, List.findSome?_cons, h]

theorem getLast?_valuesFor_congr {key : Key} (front : List String) {back back' : List String}
    (h : (valuesFor key back).getLast? = (valuesFor key back').getLast?) :
    (valuesFor key (front ++ back)).getLast? = (valuesFor key (front ++ back')).getLast? := by
  rw [valuesFor_append, valuesFor_append, List.getLast?_append, List.getLast?_append, h]

theorem Harmless.result {arguments others : List String} (h : Harmless arguments others) :
    (interpret others).result = (interpret arguments).result := by
  symm
  cases h with
  | skip front back nothing =>
    have hfault := fault?_eq_none_of_nothing nothing
    apply result_interpret_congr (findSome?_fault?_drop front back hfault)
    intro key
    apply getLast?_valuesFor_congr
    rw [valuesFor, List.filterMap_cons_none (valueFor?_eq_none_iff.mpr (nothing key)), ← valuesFor]
  | @overridden key argument text later other front between back gives number overrides =>
    apply result_interpret_congr (findSome?_fault?_drop front _ (gives.fault?_eq_none number))
    intro asked
    apply getLast?_valuesFor_congr
    rw [gives.valuesFor_cons asked]
    by_cases hkey : key = asked
    · subst hkey
      have hmem : other ∈ valuesFor key (between ++ later :: back) := by
        apply mem_valuesFor_iff.mpr
        have hlater : later ∈ between ++ later :: back :=
          List.mem_append_right _ List.mem_cons_self
        exact ⟨later, hlater, read_eq_property_iff.mpr overrides⟩
      rw [if_pos rfl, List.getLast?_append, Option.or_of_isSome]
      exact List.getLast?_isSome.mpr (List.ne_nil_of_mem hmem)
    · rw [if_neg hkey, List.nil_append]
  | @exchange key key' argument text argument' text' front back gives number gives' number'
      different =>
    have hfault := gives.fault?_eq_none number
    have hfault' := gives'.fault?_eq_none number'
    apply result_interpret_congr
    · calc (front ++ argument :: argument' :: back).findSome? fault?
          = (front ++ argument' :: back).findSome? fault? := findSome?_fault?_drop _ _ hfault
        _ = (front ++ back).findSome? fault? := findSome?_fault?_drop _ _ hfault'
        _ = (front ++ argument :: back).findSome? fault? := (findSome?_fault?_drop _ _ hfault).symm
        _ = (front ++ argument' :: argument :: back).findSome? fault? :=
          (findSome?_fault?_drop _ _ hfault').symm
    · intro asked
      apply getLast?_valuesFor_congr
      simp only [gives.valuesFor_cons, gives'.valuesFor_cons]
      by_cases hkey : key = asked
      · have hother : key' ≠ asked := hkey ▸ different.symm
        rw [if_neg hother, List.nil_append, List.nil_append]
      · rw [if_neg hkey, List.nil_append, List.nil_append]

/-- What a list of raw arguments comes to is fixed by the first faulty one, and without one
by the last text that is given to each key.  So it stays the same, however often arguments
are left out or put in that give nothing or that later ones override, and neighbours for
different keys are exchanged. -/
theorem interpret_means (arguments : List String) :
    (∀ result, (interpret arguments).result = result ↔ Means arguments result) ∧
    ∀ others, Relation.EqvGen Harmless arguments others →
      (interpret others).result = (interpret arguments).result := by
  refine ⟨fun result => result_eq_iff_means, ?_⟩
  intro others hchanges
  induction hchanges with
  | rel _ _ hchange => exact hchange.result
  | refl _ => rfl
  | symm _ _ _ ih => exact ih.symm
  | trans _ _ _ _ _ ih ih' => exact ih'.trans ih

/-- Of two ports the later one counts, what gives nothing is left out, and the host may come
first. -/
theorem interpret_means_ports :
    (interpret ["--omero.port=1", "-v", "--omero.port=2", "--omero.host=h"]).result =
        .ok { user := ⟨"", ""⟩, server := ⟨"h", "h", some 2, none⟩ } ∧
      Means ["--omero.port=1", "-v", "--omero.port=2", "--omero.host=h"]
        (.ok { user := ⟨"", ""⟩, server := ⟨"h", "h", some 2, none⟩ }) ∧
      (interpret ["--omero.host=h", "--omero.port=2"]).result =
        (interpret ["--omero.port=1", "-v", "--omero.port=2", "--omero.host=h"]).result := by
  have hresult : (interpret ["--omero.port=1", "-v", "--omero.port=2", "--omero.host=h"]).result =
      .ok { user := ⟨"", ""⟩, server := ⟨"h", "h", some 2, none⟩ } := by decide +kernel
  have hfirst : Gives .port "--omero.port=1" "1" :=
    ⟨"port".toList, "1".toList, by decide, by decide, by decide, by decide⟩
  have hsecond : Gives .port "--omero.port=2" "2" :=
    ⟨"port".toList, "2".toList, by decide, by decide, by decide, by decide⟩
  have hhost : Gives .host "--omero.host=h" "h" :=
    ⟨"host".toList, "h".toList, by decide, by decide, by decide, by decide⟩
  have hnothing : ∀ key text, ¬Gives key "-v" text := by
    intro key text hgives
    cases read_eq_property_iff.mpr hgives
  have hmeans := interpret_means ["--omero.port=1", "-v", "--omero.port=2", "--omero.host=h"]
  refine ⟨hresult, (hmeans.1 _).mp hresult, hmeans.2 _ ?_⟩
  have hskip := Harmless.skip ["--omero.port=1"] ["--omero.port=2", "--omero.host=h"] hnothing
  have hoverridden := Harmless.overridden [] [] ["--omero.host=h"] hfirst (by decide) hsecond
  have hexchange := Harmless.exchange [] [] hsecond (by decide) hhost (by decide) (by decide)
  exact .trans _ _ _ (.trans _ _ _ (.rel _ _ hskip) (.rel _ _ hoverridden)) (.rel _ _ hexchange)

end ServerLogin.RawArguments
