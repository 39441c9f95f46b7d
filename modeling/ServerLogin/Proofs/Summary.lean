import ServerLogin.Login
import ServerLogin.Proofs.CommandLine.Rendering
import ServerLogin.Proofs.Credentials.Calls
import ServerLogin.Proofs.Url.HostText

/-!
What a summary tells.  It has an entry for each field that it reports, and the value of a field
is written as it is.  So a line feed in the host, the user name or the application name begins
a line that may look like the one of another field.  Where there is none, there is a line for
each field, and the summary tells all that it reports.
-/

namespace ServerLogin

open ServerLogin.Text ServerLogin.Number ServerLogin.Server

def portValue (port : Option UInt16) : String :=
  match port with
  | some port => portText port
  | none => "(unset)"

def passwordValue (password : String) : String := if password.isEmpty then "(none)" else "***"

def groupValue (group : Option Int64) : String :=
  match group with
  | some group => integerText group.toInt
  | none => "(default)"

def lineFeeds (text : String) : Nat := text.toList.count '\n'

/-- The lines of a text, each of which ends in a line feed. -/
def linesOf (text : String) : List (List Char) := (text.toList.splitOn '\n').dropLast

/-- An entry of a summary: the label with a colon, filled up to a fixed width, and the value. -/
def entryText (field : String × String) : List Char :=
  field.1.toList ++ ':' :: List.replicate (16 - field.1.length) ' ' ++ field.2.toList

namespace Credentials

/-- The reported fields that come last, each with its label and its value. -/
def reportedSettings (c : Credentials) : List (String × String) :=
  [("encryption", viewBool c.encryption), ("check network", viewBool c.checkNetwork),
    ("check version", viewBool c.checkVersion), ("compression", c.compression.text .plain)]

/-- The reported fields up to the password. -/
def reportedAccess (c : Credentials) : List (String × String) :=
  ("host", c.server.host)
    :: (if c.server.isUrl then
        [("hostname", c.server.hostname), ("protocol", c.server.protocol.getD "")]
      else [])
    ++ [("port", portValue c.server.port), ("user", c.user.username),
      ("password", passwordValue c.user.password)]

/-- The fields that a summary reports, in order. -/
def reported (c : Credentials) : List (String × String) :=
  c.reportedAccess ++ ("group", groupValue c.group)
    :: (c.applicationName.toList.map (fun name => ("application", name)) ++ c.reportedSettings)

/-- The lines that line feeds in the values add to a summary. -/
def addedLines (c : Credentials) : Nat :=
  lineFeeds c.server.host + lineFeeds c.user.username + (c.applicationName.map lineFeeds).getD 0

/-- Credentials that agree in all that a summary is about: of the password, only whether there
is one. -/
structure SameReport (c d : Credentials) : Prop where
  server : c.server = d.server
  username : c.user.username = d.user.username
  password : c.user.password.isEmpty = d.user.password.isEmpty
  group : c.groupId = d.groupId
  applicationName : c.applicationName = d.applicationName
  encryption : c.encryption = d.encryption
  checkNetwork : c.checkNetwork = d.checkNetwork
  checkVersion : c.checkVersion = d.checkVersion
  compression : c.compression = d.compression

end Credentials

namespace Login

def labels (url named : Bool) : List String :=
  "host" :: (if url then ["hostname", "protocol"] else [])
    ++ ["port", "user", "password", "group"] ++ (if named then ["application"] else [])
    ++ ["encryption", "check network", "check version", "compression"]

theorem length_labels (url named : Bool) :
    (labels url named).length = 9 + (if url then 2 else 0) + (if named then 1 else 0) := by
  cases url <;> cases named <;> rfl

section Lines

theorem length_splitOn (c : Char) (text : List Char) :
    (text.splitOn c).length = text.count c + 1 := by
  induction text with
  | nil => simp
  | cons d text ih =>
    rw [List.splitOn_cons_eq_if_modifyHead, List.count_cons]
    split <;> simp_all

/-- The lines of entries that are each ended by a line feed are those of one entry after the
other. -/
theorem dropLast_splitOn_flatMap {α : Type} (f : α → List Char) (entries : List α) :
    ((entries.flatMap fun entry => f entry ++ ['\n']).splitOn '\n').dropLast =
      entries.flatMap fun entry => (f entry).splitOn '\n' := by
  induction entries with
  | nil => simp
  | cons entry entries ih =>
    rw [List.flatMap_cons, List.flatMap_cons, List.append_assoc, List.singleton_append,
      List.splitOn_append_cons_self, List.dropLast_append_of_ne_nil (List.splitOn_ne_nil _ _), ih]

/-- A text without the mark, up to the first mark, is a prefix of any other up to one. -/
theorem prefix_of_append_cons_eq {mark : Char} {front other rest more : List Char}
    (hfront : mark ∉ front) (h : front ++ mark :: rest = other ++ mark :: more) :
    front <+: other := by
  rcases List.append_eq_append_iff.mp h with ⟨between, rfl, _⟩ | ⟨between, rfl, hrest⟩
  · exact List.prefix_append ..
  · cases between with
    | nil => simp
    | cons d between =>
      cases (List.cons.inj hrest).1
      exact absurd (List.mem_append_right _ List.mem_cons_self) hfront

end Lines

section Entries

variable {label value : String}

theorem newline_notMem_entryText (hlabel : '\n' ∉ label.toList) (hvalue : '\n' ∉ value.toList) :
    '\n' ∉ entryText (label, value) := by
  simp [entryText, hlabel, hvalue]

theorem count_entryText (hlabel : '\n' ∉ label.toList) :
    (entryText (label, value)).count '\n' = lineFeeds value := by
  simp [entryText, lineFeeds, List.count_append, List.count_eq_zero.mpr hlabel,
    List.count_replicate]

/-- The label of a line is what stands in front of its first colon. -/
theorem takeWhile_of_label {line : List Char} (hlabel : ':' ∉ label.toList)
    (h : label.toList ++ [':'] <+: line) : line.takeWhile (· != ':') = label.toList := by
  obtain ⟨rest, rfl⟩ := h
  have hall : ∀ c ∈ label.toList, (c != ':') = true := fun c hc =>
    bne_iff_ne.mpr (ne_of_mem_of_not_mem hc hlabel)
  rw [List.append_assoc, List.takeWhile_append_of_pos hall]
  simp

theorem prefix_entryText (label value : String) :
    label.toList ++ [':'] <+: entryText (label, value) := by
  simp [entryText]

theorem entryText_eq_append (label value : String) :
    entryText (label, value) = entryText (label, "") ++ value.toList := by
  simp [entryText]

theorem entryText_inj {value' : String} (h : entryText (label, value) = entryText (label, value')) :
    value = value' := by
  rw [entryText_eq_append label value, entryText_eq_append label value'] at h
  exact String.toList_inj.mp (List.append_cancel_left h)

theorem eq_of_map_entryText_eq {fields others : List (String × String)}
    (hlabels : fields.map Prod.fst = others.map Prod.fst)
    (htexts : fields.map entryText = others.map entryText) : fields = others := by
  induction fields generalizing others with
  | nil => exact (List.map_eq_nil_iff.mp htexts.symm).symm
  | cons field fields ih =>
    cases others with
    | nil => cases htexts
    | cons other others =>
      obtain ⟨label, value⟩ := field
      obtain ⟨label', value'⟩ := other
      obtain ⟨hlabel, hmore⟩ := List.cons.inj hlabels
      obtain ⟨htext, hrest⟩ := List.cons.inj htexts
      cases (hlabel : label = label')
      rw [entryText_inj htext, ih hmore hrest]

end Entries

/-- A summary has an entry for each reported field, and nothing else. -/
theorem toList_summary (sealed : SealedCredentials) :
    (summary sealed).toList =
      sealed.credentials.reported.flatMap fun field => entryText field ++ ['\n'] := by
  have hline : ∀ label value,
      (summaryLine label value).toList = entryText (label, value) ++ ['\n'] := by
    intro label value
    simp [summaryLine, entryText]
  obtain ⟨c, -⟩ := sealed
  simp only [summary, Credentials.reported, Credentials.reportedAccess,
    Credentials.reportedSettings, String.toList_join, List.flatMap_append, List.flatMap_cons,
    List.flatMap_nil, hline]
  cases c.server.isUrl <;> cases c.applicationName <;> cases c.server.port <;> cases c.group <;>
    simp [hline, portValue, passwordValue, groupValue]

section Labels

theorem map_fst_reported (c : Credentials) :
    c.reported.map Prod.fst = labels c.server.isUrl c.applicationName.isSome := by
  unfold Credentials.reported Credentials.reportedAccess
  cases c.server.isUrl <;> cases c.applicationName <;> rfl

theorem label_mem {c : Credentials} {field : String × String} (h : field ∈ c.reported) :
    '\n' ∉ field.1.toList ∧ ':' ∉ field.1.toList := by
  have hall : ∀ url named, ∀ label ∈ labels url named,
      '\n' ∉ label.toList ∧ ':' ∉ label.toList := by
    decide
  have hmem : field.1 ∈ c.reported.map Prod.fst := List.mem_map_of_mem h
  rw [map_fst_reported] at hmem
  exact hall _ _ _ hmem

theorem nodup_labels (url named : Bool) : (labels url named).Nodup := by
  cases url <;> cases named <;> decide

end Labels

section Values

theorem lineFeeds_eq_zero {text : String} : lineFeeds text = 0 ↔ '\n' ∉ text.toList :=
  List.count_eq_zero

theorem lineFeeds_of_forall {P : Char → Prop} {text : String} (h : ∀ c ∈ text.toList, P c)
    (hnot : ¬P '\n') : lineFeeds text = 0 :=
  lineFeeds_eq_zero.mpr fun hmem => hnot (h _ hmem)

@[simp] theorem lineFeeds_portValue (port : Option UInt16) : lineFeeds (portValue port) = 0 := by
  cases port with
  | none => decide
  | some port =>
    refine lineFeeds_of_forall (P := fun c => c.isDigit = true) ?_ (by decide)
    rw [portValue, portText, naturalText, String.toList_ofList]
    exact fun c => isDigit_of_mem_decimal

@[simp] theorem lineFeeds_groupValue (group : Option Int64) : lineFeeds (groupValue group) = 0 := by
  cases group with
  | none => decide
  | some group => exact lineFeeds_of_forall (fun c => isNumberChar_of_mem_integerText) (by decide)

@[simp] theorem lineFeeds_passwordValue (password : String) :
    lineFeeds (passwordValue password) = 0 := by
  unfold passwordValue
  split <;> decide

@[simp] theorem lineFeeds_viewBool (b : Bool) : lineFeeds (viewBool b) = 0 := by
  cases b <;> decide

@[simp] theorem lineFeeds_text (x : Single) : lineFeeds (x.text .plain) = 0 := by
  cases x with
  | nan => decide
  | infinity negative => cases negative <;> decide
  | finite negative code =>
    exact lineFeeds_of_forall (Single.isNumeral_text .plain negative code).isNumberChar (by decide)

/-- The host name and the protocol of a URL hold no line feeds, whatever its host holds. -/
theorem lineFeeds_of_isUrl {server : Server} (h : server.Consistent) (hurl : server.isUrl = true) :
    lineFeeds server.hostname = 0 ∧ lineFeeds (server.protocol.getD "") = 0 := by
  obtain ⟨url, hread, hname, hprotocol⟩ := h.url (h.isUrl_iff.mp hurl)
  rw [hname, hprotocol, Option.getD_some]
  exact ⟨lineFeeds_of_forall (Url.isHostChar_of_read hread) (by decide),
    lineFeeds_of_forall (Url.isSchemeChar_of_read hread) (by decide)⟩

end Values

section Layout

variable {c : Credentials}

/-- Nothing but the host, the user name and the application name can hold a line feed. -/
theorem sum_lineFeeds_reported (h : c.server.Consistent) :
    (c.reported.map fun field => lineFeeds field.2).sum = c.addedLines := by
  unfold Credentials.reported Credentials.reportedAccess Credentials.reportedSettings
    Credentials.addedLines
  cases hurl : c.server.isUrl with
  | false => cases c.applicationName <;> simp [Nat.add_assoc]
  | true =>
    obtain ⟨hname, hprotocol⟩ := lineFeeds_of_isUrl h hurl
    cases c.applicationName <;> simp [hname, hprotocol, Nat.add_assoc]

theorem newline_notMem_of_addedLines (h : c.server.Consistent) (hnone : c.addedLines = 0) :
    ∀ field ∈ c.reported, '\n' ∉ entryText field := by
  intro field hfield
  rw [← sum_lineFeeds_reported h, List.sum_eq_zero_iff_forall_eq_nat] at hnone
  have hvalue : lineFeeds field.2 = 0 := hnone _ (List.mem_map_of_mem hfield)
  exact newline_notMem_entryText (label_mem hfield).1 (lineFeeds_eq_zero.mp hvalue)

theorem length_reported (c : Credentials) : c.reported.length =
    9 + (if c.server.isUrl then 2 else 0) + (if c.applicationName.isSome then 1 else 0) := by
  rw [← length_labels, ← map_fst_reported, List.length_map]

theorem linesOf_summary (sealed : SealedCredentials) : linesOf (summary sealed) =
    sealed.credentials.reported.flatMap fun field => (entryText field).splitOn '\n' := by
  rw [linesOf, toList_summary, dropLast_splitOn_flatMap]

/-- A summary has a line for each reported field, and one more for each line feed in a value. -/
theorem length_linesOf_summary {sealed : SealedCredentials}
    (h : sealed.credentials.server.Consistent) : (linesOf (summary sealed)).length =
      sealed.credentials.reported.length + sealed.credentials.addedLines := by
  have hlines : ∀ field ∈ sealed.credentials.reported,
      ((entryText field).splitOn '\n').length = 1 + lineFeeds field.2 := by
    intro field hfield
    rw [length_splitOn, count_entryText (label_mem hfield).1, Nat.add_comm]
  rw [linesOf_summary, List.length_flatMap, List.map_congr_left hlines, List.sum_map_add,
    sum_lineFeeds_reported h, List.map_const', List.sum_replicate_nat, Nat.mul_one]

theorem flatMap_splitOn_eq_map {fields : List (String × String)}
    (h : ∀ field ∈ fields, '\n' ∉ entryText field) :
    (fields.flatMap fun field => (entryText field).splitOn '\n') = fields.map entryText := by
  rw [List.flatMap_congr fun field hfield => List.splitOn_eq_singleton (h field hfield),
    List.map_eq_flatMap]

end Layout

section Determined

theorem portValue_injective : Function.Injective portValue := by
  have hread : Function.LeftInverse CommandLine.port? portValue := by
    intro port
    cases port with
    | none => decide
    | some port => exact CommandLine.port?_portText port
  exact hread.injective

theorem groupValue_injective : Function.Injective groupValue := by
  have hread : Function.LeftInverse (fun text => int64? text.toList) groupValue := by
    intro group
    cases group with
    | none => decide
    | some group => exact int64?_integerText group
  exact hread.injective

theorem viewBool_inj {a b : Bool} (h : viewBool a = viewBool b) : a = b := by
  cases a <;> cases b <;> first | rfl | exact absurd h (by decide)

theorem isEmpty_eq_of_passwordValue_eq {password other : String}
    (h : passwordValue password = passwordValue other) : password.isEmpty = other.isEmpty := by
  unfold passwordValue at h
  cases hp : password.isEmpty <;> cases ho : other.isEmpty <;> simp_all

theorem groupId_eq_of_group_eq {c d : Credentials} (h : c.group = d.group) :
    c.groupId = d.groupId := by
  unfold Credentials.group at h
  grind

theorem compression_ne_nan (sealed : SealedCredentials) :
    sealed.credentials.compression ≠ .nan := by
  intro hnan
  have hvalid := sealed.valid
  rw [Credentials.fault?, hnan] at hvalid
  cases hvalid

variable {sealed other : SealedCredentials}

/-- Where two summaries are the same, so are the last entries of both, as many as there are
without a line feed. -/
theorem map_entryText_eq_of_summary_eq {front tail front' tail' : List (String × String)}
    (hsealed : sealed.credentials.reported = front ++ tail)
    (hother : other.credentials.reported = front' ++ tail')
    (htail : ∀ field ∈ tail, '\n' ∉ entryText field)
    (htail' : ∀ field ∈ tail', '\n' ∉ entryText field) (hlength : tail.length = tail'.length)
    (h : summary sealed = summary other) : tail.map entryText = tail'.map entryText := by
  have hlines : linesOf (summary sealed) = linesOf (summary other) := by rw [h]
  rw [linesOf_summary, linesOf_summary, hsealed, hother, List.flatMap_append, List.flatMap_append,
    flatMap_splitOn_eq_map htail, flatMap_splitOn_eq_map htail'] at hlines
  exact (List.append_inj' hlines (by rw [List.length_map, List.length_map, hlength])).2

theorem newline_notMem_settings (c : Credentials) :
    ∀ field ∈ c.reportedSettings, '\n' ∉ entryText field := by
  intro field hfield
  have hvalues : ∀ field ∈ c.reportedSettings, lineFeeds field.2 = 0 := by
    simp [Credentials.reportedSettings]
  have hmem : field ∈ c.reported := List.mem_append_right _ (List.mem_cons_of_mem _
    (List.mem_append_right _ hfield))
  exact newline_notMem_entryText (label_mem hmem).1 (lineFeeds_eq_zero.mp (hvalues field hfield))

/-- The settings at the end of a summary can always be told. -/
theorem settings_eq_of_summary_eq (h : summary sealed = summary other) :
    sealed.credentials.encryption = other.credentials.encryption ∧
    sealed.credentials.checkNetwork = other.credentials.checkNetwork ∧
    sealed.credentials.checkVersion = other.credentials.checkVersion ∧
    sealed.credentials.compression = other.credentials.compression := by
  have hsplit : ∀ c : Credentials, ∃ front, c.reported = front ++ c.reportedSettings := fun c =>
    ⟨_, by rw [Credentials.reported, ← List.cons_append, ← List.append_assoc]⟩
  obtain ⟨front, hfront⟩ := hsplit sealed.credentials
  obtain ⟨front', hfront'⟩ := hsplit other.credentials
  have htexts := map_entryText_eq_of_summary_eq hfront hfront' (newline_notMem_settings _)
    (newline_notMem_settings _) rfl h
  have hfields : sealed.credentials.reportedSettings = other.credentials.reportedSettings :=
    eq_of_map_entryText_eq rfl htexts
  simp only [Credentials.reportedSettings, List.cons.injEq, Prod.mk.injEq, true_and,
    and_true] at hfields
  obtain ⟨hencryption, hnetwork, hversion, hcompression⟩ := hfields
  exact ⟨viewBool_inj hencryption, viewBool_inj hnetwork, viewBool_inj hversion,
    Single.text_plain_inj (compression_ne_nan sealed) (compression_ne_nan other) hcompression⟩

/-- An application name that is told on one line is one in every summary like this: without it
the line of the group would stand in its place. -/
theorem isSome_applicationName_of_summary_eq {name : String} (hname : lineFeeds name = 0)
    (hsome : sealed.credentials.applicationName = some name)
    (h : summary sealed = summary other) : other.credentials.applicationName.isSome = true := by
  by_contra hnone
  rw [Option.not_isSome_iff_eq_none] at hnone
  have hsealed : sealed.credentials.reported =
      (sealed.credentials.reportedAccess ++ [("group", groupValue sealed.credentials.group)]) ++
        (("application", name) :: sealed.credentials.reportedSettings) := by
    rw [Credentials.reported, hsome]
    simp
  have hother : other.credentials.reported = other.credentials.reportedAccess ++
      (("group", groupValue other.credentials.group) :: other.credentials.reportedSettings) := by
    rw [Credentials.reported, hnone]
    simp
  have happlication : '\n' ∉ entryText ("application", name) :=
    newline_notMem_entryText (by decide) (lineFeeds_eq_zero.mp hname)
  have hgroup : '\n' ∉ entryText ("group", groupValue other.credentials.group) :=
    newline_notMem_entryText (by decide) (lineFeeds_eq_zero.mp (lineFeeds_groupValue _))
  have htexts := map_entryText_eq_of_summary_eq hsealed hother
    (List.forall_mem_cons.mpr ⟨happlication, newline_notMem_settings _⟩)
    (List.forall_mem_cons.mpr ⟨hgroup, newline_notMem_settings _⟩) rfl h
  have hline := (List.cons.inj htexts).1
  have hlabel : "application".toList = "group".toList := by
    calc "application".toList = (entryText ("application", name)).takeWhile (· != ':') :=
          (takeWhile_of_label (by decide) (prefix_entryText ..)).symm
      _ = "group".toList := by
        rw [hline, takeWhile_of_label (by decide) (prefix_entryText ..)]
  exact absurd hlabel (by decide)

/-- A host without a line feed begins every host that is summarised in the same way. -/
theorem host_prefix_of_summary_eq (hhost : lineFeeds sealed.credentials.server.host = 0)
    (h : summary sealed = summary other) :
    sealed.credentials.server.host.toList <+: other.credentials.server.host.toList := by
  have hfirst : ∀ s : SealedCredentials, ∃ rest, (summary s).toList =
      entryText ("host", "") ++ (s.credentials.server.host.toList ++ '\n' :: rest) := by
    intro s
    obtain ⟨fields, hfields⟩ : ∃ fields,
        s.credentials.reported = ("host", s.credentials.server.host) :: fields := ⟨_, rfl⟩
    refine ⟨fields.flatMap fun field => entryText field ++ ['\n'], ?_⟩
    rw [toList_summary, hfields, List.flatMap_cons, entryText_eq_append, List.append_assoc,
      List.append_assoc, List.singleton_append]
  obtain ⟨rest, hsealed⟩ := hfirst sealed
  obtain ⟨more, hother⟩ := hfirst other
  rw [h, hother] at hsealed
  exact prefix_of_append_cons_eq (lineFeeds_eq_zero.mp hhost)
    (List.append_cancel_left hsealed.symm)

theorem addedLines_eq_zero {c : Credentials} : c.addedLines = 0 ↔
    lineFeeds c.server.host = 0 ∧ lineFeeds c.user.username = 0 ∧
      ∀ name, c.applicationName = some name → lineFeeds name = 0 := by
  unfold Credentials.addedLines
  cases c.applicationName <;> simp [and_assoc]

/-- Without line feeds in the values, a summary tells how many there are in any other
credentials that it is the summary of, and which fields are reported. -/
theorem fields_eq_of_summary_eq (hs : sealed.credentials.server.Consistent)
    (ho : other.credentials.server.Consistent) (hnone : sealed.credentials.addedLines = 0)
    (h : summary sealed = summary other) : other.credentials.addedLines = 0 ∧
      sealed.credentials.server.isUrl = other.credentials.server.isUrl ∧
      sealed.credentials.applicationName.isSome = other.credentials.applicationName.isSome := by
  obtain ⟨hhost, -, hname⟩ := addedLines_eq_zero.mp hnone
  have hurl : sealed.credentials.server.isUrl = true → other.credentials.server.isUrl = true := by
    rw [hs.isUrl_iff, ho.isUrl_iff]
    exact fun hmark => hmark.trans (host_prefix_of_summary_eq hhost h).isInfix
  have hsome : sealed.credentials.applicationName.isSome = true →
      other.credentials.applicationName.isSome = true := by
    intro hsome
    obtain ⟨name, happ⟩ := Option.isSome_iff_exists.mp hsome
    exact isSome_applicationName_of_summary_eq (hname name happ) happ h
  have hcount := length_linesOf_summary hs
  rw [h, length_linesOf_summary ho, hnone, length_reported, length_reported] at hcount
  revert hurl hsome hcount
  cases sealed.credentials.server.isUrl <;> cases other.credentials.server.isUrl <;>
    cases sealed.credentials.applicationName.isSome <;>
    cases other.credentials.applicationName.isSome <;> simp <;> omega

theorem lookup_reported (c : Credentials) :
    c.reported.lookup "host" = some c.server.host ∧
    c.reported.lookup "port" = some (portValue c.server.port) ∧
    c.reported.lookup "user" = some c.user.username ∧
    c.reported.lookup "password" = some (passwordValue c.user.password) ∧
    c.reported.lookup "group" = some (groupValue c.group) ∧
    c.reported.lookup "application" = c.applicationName := by
  unfold Credentials.reported Credentials.reportedAccess Credentials.reportedSettings
  cases c.server.isUrl <;> cases c.applicationName <;> exact ⟨rfl, rfl, rfl, rfl, rfl, rfl⟩

theorem sameReport_of_summary_eq (hs : sealed.credentials.server.Consistent)
    (ho : other.credentials.server.Consistent) (hnone : sealed.credentials.addedLines = 0)
    (h : summary sealed = summary other) : other.credentials.addedLines = 0 ∧
      sealed.credentials.SameReport other.credentials := by
  obtain ⟨hother, hurl, hsome⟩ := fields_eq_of_summary_eq hs ho hnone h
  have hlabels : sealed.credentials.reported.map Prod.fst =
      other.credentials.reported.map Prod.fst := by
    rw [map_fst_reported, map_fst_reported, hurl, hsome]
  have htexts := map_entryText_eq_of_summary_eq (List.nil_append _).symm (List.nil_append _).symm
    (newline_notMem_of_addedLines hs hnone) (newline_notMem_of_addedLines ho hother)
    (by simpa using congrArg List.length hlabels) h
  have hfields := eq_of_map_entryText_eq hlabels htexts
  obtain ⟨hhost, hport, huser, hpassword, hgroup, happ⟩ := lookup_reported sealed.credentials
  rw [hfields] at hhost hport huser hpassword hgroup happ
  obtain ⟨hhost', hport', huser', hpassword', hgroup', happ'⟩ := lookup_reported other.credentials
  have hportEq : sealed.credentials.server.port = other.credentials.server.port :=
    portValue_injective (Option.some.inj (hport.symm.trans hport'))
  have hgroupEq : sealed.credentials.group = other.credentials.group :=
    groupValue_injective (Option.some.inj (hgroup.symm.trans hgroup'))
  obtain ⟨hencryption, hnetwork, hversion, hcompression⟩ := settings_eq_of_summary_eq h
  exact ⟨hother, {
    server := (hs.eq_iff ho).mpr ⟨Option.some.inj (hhost.symm.trans hhost'), hportEq⟩
    username := Option.some.inj (huser.symm.trans huser')
    password := isEmpty_eq_of_passwordValue_eq (Option.some.inj (hpassword.symm.trans hpassword'))
    group := groupId_eq_of_group_eq hgroupEq
    applicationName := happ.symm.trans happ'
    encryption := hencryption
    checkNetwork := hnetwork
    checkVersion := hversion
    compression := hcompression }⟩

/-- A line that begins as the one of a field is the one of that field. -/
theorem eq_entryText_of_prefix (hs : sealed.credentials.server.Consistent)
    (hnone : sealed.credentials.addedLines = 0) {field : String × String}
    (hfield : field ∈ sealed.credentials.reported) {line : List Char}
    (hline : line ∈ linesOf (summary sealed)) (h : field.1.toList ++ [':'] <+: line) :
    line = entryText field := by
  rw [linesOf_summary, flatMap_splitOn_eq_map (newline_notMem_of_addedLines hs hnone)] at hline
  obtain ⟨found, hfound, rfl⟩ := List.mem_map.mp hline
  have hlabel : found.1 = field.1 := by
    apply String.toList_inj.mp
    calc found.1.toList = (entryText found).takeWhile (· != ':') :=
          (takeWhile_of_label (label_mem hfound).2 (prefix_entryText ..)).symm
      _ = field.1.toList := takeWhile_of_label (label_mem hfield).2 h
  have hnodup : (sealed.credentials.reported.map Prod.fst).Nodup := by
    rw [map_fst_reported]
    exact nodup_labels _ _
  rw [List.inj_on_of_nodup_map hnodup hfound hfield hlabel]

end Determined

/-- What a summary tells.  It has an entry for each reported field, in order, and a line for
each entry, with one more for each line feed in the host, the user name or the application
name.  Without these a line that begins with a label is the one of that field.  The settings at
the end can be told from every summary, and all that is reported, of the password whether there
is one, from a summary without such line feeds. -/
theorem summary_tells_fields {sealed : SealedCredentials} (h : sealed.credentials.Reachable) :
    let c := sealed.credentials
    (summary sealed).toList = (c.reported.flatMap fun field => entryText field ++ ['\n']) ∧
    c.reported.map Prod.fst = labels c.server.isUrl c.applicationName.isSome ∧
    c.reported.length =
      9 + (if c.server.isUrl then 2 else 0) + (if c.applicationName.isSome then 1 else 0) ∧
    linesOf (summary sealed) = (c.reported.flatMap fun field => (entryText field).splitOn '\n') ∧
    (linesOf (summary sealed)).length = c.reported.length + c.addedLines ∧
    (c.addedLines = 0 → linesOf (summary sealed) = c.reported.map entryText ∧
      ∀ field ∈ c.reported, ∀ line ∈ linesOf (summary sealed),
        field.1.toList ++ [':'] <+: line → line = entryText field) ∧
    ("password", if c.user.password.isEmpty then "(none)" else "***") ∈ c.reported ∧
    ∀ other : SealedCredentials, other.credentials.Reachable → summary sealed = summary other →
      (c.encryption = other.credentials.encryption ∧
        c.checkNetwork = other.credentials.checkNetwork ∧
        c.checkVersion = other.credentials.checkVersion ∧
        c.compression = other.credentials.compression) ∧
      (c.addedLines = 0 → other.credentials.addedLines = 0 ∧ c.SameReport other.credentials) := by
  intro c
  have hs : c.server.Consistent := h.server.consistent
  refine ⟨toList_summary sealed, map_fst_reported c, length_reported c, linesOf_summary sealed,
    length_linesOf_summary hs, ?lines, ?password, ?determined⟩
  case lines =>
    intro hnone
    have hlines : linesOf (summary sealed) = c.reported.map entryText := by
      rw [linesOf_summary, flatMap_splitOn_eq_map (newline_notMem_of_addedLines hs hnone)]
    exact ⟨hlines, fun field hfield line hline => eq_entryText_of_prefix hs hnone hfield hline⟩
  case password =>
    have haccess : ("password", passwordValue c.user.password) ∈ c.reportedAccess :=
      List.mem_append_right _ (by simp)
    exact List.mem_append_left _ haccess
  case determined =>
    intro other hother heq
    exact ⟨settings_eq_of_summary_eq heq,
      fun hnone => sameReport_of_summary_eq hs hother.server.consistent hnone heq⟩

/-- Credentials for a URL: there are eleven lines, one of which tells that there is a password,
and others with this summary agree in all that it reports. -/
theorem summary_tells_fields_url :
    let sealed : SealedCredentials :=
      ⟨{ user := ⟨"root", "s"⟩, server := ⟨"wss://a:4065/x", "a", some 4065, some "wss"⟩ },
        by decide +kernel⟩
    sealed.credentials.Reachable ∧ (linesOf (summary sealed)).length = 11 ∧
      (∀ line ∈ linesOf (summary sealed),
        "password".toList ++ [':'] <+: line → line = entryText ("password", "***")) ∧
      ∀ other : SealedCredentials, other.credentials.Reachable → summary sealed = summary other →
        sealed.credentials.SameReport other.credentials := by
  intro sealed
  have hreached : sealed.credentials.Reachable :=
    @Credentials.Reachable.build "root" "s" "wss://a:4065/x" none _ (by decide +kernel)
  have hnone : sealed.credentials.addedLines = 0 := by decide
  obtain ⟨-, -, hfields, -, hlength, hlines, hpassword, hdetermined⟩ :=
    summary_tells_fields hreached
  rw [hfields, hnone] at hlength
  exact ⟨hreached, hlength, (hlines hnone).2 _ hpassword,
    fun other hother heq => ((hdetermined other hother heq).2 hnone).2⟩

/-- A line feed in a user name makes a line that tells of a password which is not there, and a
summary that two credentials share which differ in their password and in their group. -/
theorem summary_forged_by_username :
    (∃ sealed : SealedCredentials, sealed.credentials.Reachable ∧
      sealed.credentials.server.isUrl = false ∧ sealed.credentials.applicationName = none ∧
      sealed.credentials.user = ⟨"u\npassword:        ***", ""⟩ ∧
      (linesOf (summary sealed)).length = 10 ∧
      "password:        ***".toList ∈ linesOf (summary sealed)) ∧
    ∃ sealed other : SealedCredentials, sealed.credentials.Reachable ∧
      other.credentials.Reachable ∧ summary sealed = summary other ∧
      sealed.credentials.user.password.isEmpty = false ∧
      other.credentials.user.password.isEmpty = true ∧
      sealed.credentials.groupId ≠ other.credentials.groupId := by
  constructor
  · have hbuilt : (Credentials.build "u\npassword:        ***" "" "h" none).result =
        .ok { user := ⟨"u\npassword:        ***", ""⟩, server := ⟨"h", "h", some 4064, none⟩ } := by
      decide +kernel
    have hreached := Credentials.Reachable.build hbuilt
    refine ⟨⟨_, by decide +kernel⟩, hreached, rfl, rfl, rfl, ?_, ?_⟩
    · rw [length_linesOf_summary hreached.server.consistent]
      rfl
    · rw [linesOf_summary]
      refine List.mem_flatMap.mpr ⟨("user", "u\npassword:        ***"), ?_, by decide⟩
      simp [Credentials.reported, Credentials.reportedAccess]
  · have hsealed : (Credentials.build
          "x\npassword:        (none)\ngroup:           1\napplication:     z" "s" "h" none).result =
        .ok { user := ⟨"x\npassword:        (none)\ngroup:           1\napplication:     z", "s"⟩
              server := ⟨"h", "h", some 4064, none⟩ } := by
      decide +kernel
    have hbuilt : (Credentials.build "x" "" "h" none).result =
        .ok { user := ⟨"x", ""⟩, server := ⟨"h", "h", some 4064, none⟩ } := by
      decide +kernel
    have hgroup := (Credentials.Reachable.build hbuilt).call (.setGroupId 1) trivial
    have hother := hgroup.call
      (.setApplicationName (some "z\npassword:        ***\ngroup:           (default)")) trivial
    refine ⟨⟨_, by decide +kernel⟩, ⟨_, by decide +kernel⟩, .build hsealed, hother, ?_, rfl, rfl,
      by decide⟩
    apply String.toList_inj.mp
    rw [toList_summary, toList_summary]
    rfl

end Login
end ServerLogin
