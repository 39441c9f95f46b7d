import Mathlib.Data.List.Forall2
import ServerLogin.Proofs.Credentials
import ServerLogin.Proofs.Number.Integer
import ServerLogin.Proofs.RawArguments.Meaning
import ServerLogin.Proofs.RawArguments.Value

/-!
Raw arguments are read back.  Settings are written as one argument for each key
that has a value; in whatever order these stand, and whatever arguments without a
meaning stand between them, interpreting them gives the credentials that the
settings ask for.
-/

namespace ServerLogin.RawArguments

open ServerLogin.Number ServerLogin.Text

/-- The text that a key is given. -/
def Settings.text? (t : Settings) : Key → Option String
  | .host => some t.host
  | .port => t.port.map Server.portText
  | .user => some t.user
  | .pass => some t.pass
  | .session => t.session
  | .group => t.group.map fun group => integerText group.toInt

def Settings.texts (t : Settings) : List (Key × String) :=
  Key.all.filterMap fun key => (t.text? key).map fun text => (key, text)

/-- An argument that gives a text to a key, whatever comment stands behind it. -/
def Writes (entry : Key × String) (argument : String) : Prop :=
  ∃ comment, argument = written entry.1 entry.2 comment

theorem valuesFor_of_writes {entries : List (Key × String)} {arguments : List String}
    (h : List.Forall₂ Writes entries arguments) (key : Key) :
    valuesFor key arguments =
      entries.filterMap fun entry => if entry.1 = key then some (trim entry.2) else none := by
  induction h with
  | nil => rfl
  | cons hhead htail ih =>
    obtain ⟨comment, rfl⟩ := hhead
    rw [valuesFor, List.filterMap_cons, List.filterMap_cons, ← valuesFor, ih, valueFor?,
      read_written]

theorem valuesFor_of_unread {arguments : List String}
    (h : ∀ argument ∈ arguments, Unread argument) (key : Key) : valuesFor key arguments = [] := by
  rw [valuesFor, List.filterMap_eq_nil_iff]
  intro argument hmem
  obtain ⟨message, hread⟩ := read_of_unread (h argument hmem)
  rw [valueFor?, hread]

theorem eq_toList_of_perm {α : Type} {values : List α} {value : Option α}
    (h : values.Perm value.toList) : values = value.toList := by
  cases value with
  | none => exact List.perm_nil.mp h
  | some a => exact List.perm_singleton.mp h

/-- Among the texts of all keys each key finds its own. -/
theorem filterMap_texts (t : Settings) (key : Key) :
    t.texts.filterMap (fun entry => if entry.1 = key then some (trim entry.2) else none) =
      ((t.text? key).map trim).toList := by
  have hown : ∀ other : Key, ((t.text? other).map fun text => (other, text)).bind
      (fun entry => if entry.1 = key then some (trim entry.2) else none) =
        if other = key then (t.text? key).map trim else none := by
    intro other
    by_cases hkey : other = key
    · subst hkey
      cases t.text? other <;> simp
    · cases t.text? other <;> simp [hkey]
  rw [Settings.texts, List.filterMap_filterMap]
  simp only [hown]
  cases key <;> simp [Key.all, List.filterMap_cons] <;> rfl

/-- Every key gets its own text, trimmed, and nothing else. -/
theorem valuesFor_of_perm {t : Settings} {arguments given others : List String}
    (hgiven : List.Forall₂ Writes t.texts given) (hothers : ∀ argument ∈ others, Unread argument)
    (hperm : arguments.Perm (given ++ others)) (key : Key) :
    valuesFor key arguments = ((t.text? key).map trim).toList := by
  have hvalues : (valuesFor key arguments).Perm (valuesFor key (given ++ others)) :=
    hperm.filterMap (valueFor? key)
  rw [valuesFor_append, valuesFor_of_writes hgiven, filterMap_texts,
    valuesFor_of_unread hothers, List.append_nil] at hvalues
  exact eq_toList_of_perm hvalues

/-- A port is read back from its text. -/
theorem uint16?_trim_portText (port : UInt16) :
    uint16? (trim (Server.portText port)).toList = some port := by
  have htrim : trimChars (decimal port.toNat) = decimal port.toNat :=
    trimChars_of_forall fun c hc => isBlank_of_isDigit (isDigit_of_mem_decimal hc)
  rw [trim, Server.portText, naturalText, String.toList_ofList, String.toList_ofList, htrim,
    uint16?_decimal]

theorem int64?_trim_integerText (group : Int64) :
    int64? (trim (integerText group.toInt)).toList = some group := by
  have hdecimal : ∀ c ∈ decimal group.toInt.natAbs, isBlank c = false :=
    fun c hc => isBlank_of_isDigit (isDigit_of_mem_decimal hc)
  have htrim : trimChars (integerText group.toInt).toList = (integerText group.toInt).toList := by
    apply trimChars_of_forall
    rw [integerText, String.toList_ofList]
    split
    · exact List.forall_mem_cons.mpr ⟨rfl, hdecimal⟩
    · exact hdecimal
  rw [trim, String.toList_ofList, htrim, int64?_integerText]

/-- The settings that come out: the texts are trimmed, the numbers are kept. -/
def Settings.trimmed (t : Settings) : Settings :=
  { t with
    host := trim t.host
    user := trim t.user
    pass := trim t.pass
    session := t.session.map trim }

theorem wellFormed_of_perm {t : Settings} {arguments given others : List String}
    (hgiven : List.Forall₂ Writes t.texts given) (hothers : ∀ argument ∈ others, Unread argument)
    (hperm : arguments.Perm (given ++ others)) : WellFormed arguments := by
  constructor
  · rw [valuesFor_of_perm hgiven hothers hperm, Settings.text?]
    cases t.port with
    | none => simp
    | some port => simp [uint16?_trim_portText]
  · rw [valuesFor_of_perm hgiven hothers hperm, Settings.text?]
    cases t.group with
    | none => simp
    | some group => simp [int64?_trim_integerText]

theorem result_addAll_of_perm {t : Settings} {arguments given others : List String}
    (hgiven : List.Forall₂ Writes t.texts given) (hothers : ∀ argument ∈ others, Unread argument)
    (hperm : arguments.Perm (given ++ others)) :
    (Settings.addAll {} arguments).result = .ok t.trimmed := by
  have hlast : ∀ key, (valuesFor key arguments).getLast? = (t.text? key).map trim := by
    intro key
    rw [valuesFor_of_perm hgiven hothers hperm]
    cases t.text? key <;> rfl
  have hport : lastNumber uint16? .port arguments = t.port := by
    rw [lastNumber, hlast, Settings.text?]
    cases t.port with
    | none => rfl
    | some port => simp [uint16?_trim_portText]
  have hgroup : lastNumber int64? .group arguments = t.group := by
    rw [lastNumber, hlast, Settings.text?]
    cases t.group with
    | none => rfl
    | some group => simp [int64?_trim_integerText]
  rw [Settings.result_addAll (wellFormed_of_perm hgiven hothers hperm)]
  simp only [Settings.lastValues, hlast, hport, hgroup, Settings.text?, Option.map_some,
    Option.getD_some, Option.or_none, Settings.trimmed]

theorem groupId_of_build {username password host : String} {port : Option UInt16}
    {c : Credentials} (h : (Credentials.build username password host port).result = .ok c) :
    c.groupId = defaultGroup := by
  obtain ⟨_, _, _, _, rfl⟩ := Credentials.build_eq_ok_iff.mp h
  rfl

/-- The credentials that settings with a host come to. -/
theorem result_credentials {s : Settings} (hhost : s.host ≠ "") :
    s.credentials.result =
      (Credentials.build s.login.username s.login.password s.host s.port).result.map
        fun c => { c with groupId := s.group.getD (-1) } := by
  have hempty : s.host.isEmpty = false := by
    rw [← Bool.not_eq_true, String.isEmpty_iff]
    exact hhost
  rw [Settings.credentials, hempty]
  simp only [Bool.false_eq_true, if_false, Outcome.result_bind]
  cases hbuild : (Credentials.build s.login.username s.login.password s.host s.port).result with
  | error e => rfl
  | ok c =>
    simp only [Except.bind, Except.map, Outcome.result_pure, groupId_of_build hbuild]
    rfl

/-- Settings that are written as arguments are read back.  The arguments may stand
in any order, each may carry a comment, and arguments without a meaning may stand
anywhere among them; a session takes the place of the user name and the
password. -/
theorem interpret_of_perm (t : Settings) (arguments given others : List String)
    (hhost : trim t.host ≠ "") (hgiven : List.Forall₂ Writes t.texts given)
    (hothers : ∀ argument ∈ others, Unread argument)
    (hperm : arguments.Perm (given ++ others)) :
    (interpret arguments).result =
      (match t.session with
        | some session => Credentials.build (trim session) "" (trim t.host) t.port
        | none => Credentials.build (trim t.user) (trim t.pass) (trim t.host) t.port).result.map
          fun c : Credentials => { c with groupId := t.group.getD (-1) } := by
  rw [interpret, Outcome.result_bind, result_addAll_of_perm hgiven hothers hperm]
  change t.trimmed.credentials.result = _
  rw [result_credentials hhost]
  cases hsession : t.session with
  | none => simp only [Settings.trimmed, Settings.login, hsession, Option.map_none]
  | some session => simp only [Settings.trimmed, Settings.login, hsession, Option.map_some]

/-- A session, values with number signs, comments, and arguments out of order. -/
theorem interpret_of_perm_session :
    (interpret ["-v", "--omero.group=3", "--omero.session= id \\# #c", "--omero.pass=a\\#b #c",
        "--omero.flavour=x", "--omero.host=h", "--omero.user=root"]).result =
      .ok { user := ⟨"id #", ""⟩, server := ⟨"h", "h", some 4064, none⟩, groupId := 3 } := by
  have hunknown : "--omero.flavour=x" =
      String.ofList ("--omero.".toList ++ ("flavour".toList ++ '=' :: "x".toList)) := by decide
  have h := interpret_of_perm
    { host := "h", user := "root", pass := "a#b", session := some " id #", group := some 3 }
    ["-v", "--omero.group=3", "--omero.session= id \\# #c", "--omero.pass=a\\#b #c",
      "--omero.flavour=x", "--omero.host=h", "--omero.user=root"]
    ["--omero.host=h", "--omero.user=root", "--omero.pass=a\\#b #c",
      "--omero.session= id \\# #c", "--omero.group=3"]
    ["-v", "--omero.flavour=x"]
    (by decide)
    (.cons ⟨none, by decide⟩ (.cons ⟨none, by decide⟩ (.cons ⟨some "c", by decide⟩
      (.cons ⟨some "c", by decide⟩ (.cons ⟨none, by decide⟩ .nil)))))
    (List.forall_mem_cons.mpr ⟨.foreign (by decide), List.forall_mem_singleton.mpr
      (hunknown ▸ .unknown _ (by decide) (fun key => by cases key <;> decide))⟩)
    (by decide)
  rw [h]
  rfl

end ServerLogin.RawArguments
