import ServerLogin.Profile.Document
import ServerLogin.Proofs.Yaml.Document
import ServerLogin.Proofs.Yaml.Value

/-!
A profile is read back from the document it is written to, without its password.
Each field is read on its own: texts, truth values and whole numbers come back as
they were, and the compression is what its text is read as.
-/

namespace ServerLogin.Profile

open ServerLogin.Yaml

/-- What is written of some fields. -/
def written (p : Profile) (fields : List Field) : List (String × Content) :=
  fields.filterMap fun field => (p.content? field).map fun content => (field.name, content)

/-- Read a field of `q` from what is written of `p`. -/
def readBack (p q : Profile) (field : Field) : Except YamlFault Profile :=
  match p.content? field with
  | none => .ok q
  | some content =>
    match q.set? field (.scalar content.scalar) with
    | none => .error (.invalidValue field.name)
    | some q => .ok q

theorem ofName?_name (field : Field) : Field.ofName? field.name = some field := by
  cases field <;> decide

/-- A written document is read field by field. -/
theorem setAll_written (p : Profile) {fields : List Field} (hnodup : fields.Nodup) (q : Profile)
    {seen : List Field} (hnew : ∀ field ∈ fields, field ∉ seen) :
    setAll q seen ((p.written fields).map fieldValue) = fields.foldlM (readBack p) q := by
  induction fields generalizing q seen with
  | nil => rfl
  | cons field fields ih =>
    obtain ⟨hfield, hnodup⟩ := List.nodup_cons.mp hnodup
    obtain ⟨hseen, hnew⟩ := List.forall_mem_cons.mp hnew
    rw [List.foldlM_cons, readBack, written, List.filterMap_cons]
    cases hcontent : p.content? field with
    | none => exact ih hnodup q hnew
    | some content =>
      rw [Option.map_some, List.map_cons, fieldValue, setAll, ofName?_name]
      dsimp only
      rw [if_neg (by rwa [List.contains_iff_mem])]
      cases q.set? field (.scalar content.scalar) with
      | none => rfl
      | some q =>
        refine ih hnodup q fun other hother => ?_
        rw [List.mem_cons, not_or]
        refine ⟨?_, hnew other hother⟩
        rintro rfl
        exact hfield hother

/-- The profile `q` with a field as it is written of `p`. -/
def restore (p q : Profile) : Field → Profile
  | .host => { q with host := p.host }
  | .port => { q with port := p.port.or q.port }
  | .username => { q with username := p.username }
  | .password => q
  | .applicationName => { q with applicationName := p.applicationName.or q.applicationName }
  | .encryption => { q with encryption := p.encryption }
  | .checkNetwork => { q with checkNetwork := p.checkNetwork }
  | .checkVersion => { q with checkVersion := p.checkVersion }
  | .compression => { q with compression := p.compression }
  | .groupId => { q with groupId := p.groupId }
  | .allowAllVariables => { q with allowAllVariables := p.allowAllVariables }

theorem readBack_of_content {p q r : Profile} {field : Field} {content : Content}
    (hcontent : p.content? field = some content)
    (hset : q.set? field (.scalar content.scalar) = some r) : readBack p q field = .ok r := by
  rw [readBack, hcontent]
  dsimp only
  rw [hset]

theorem readBack_of_ne (p q : Profile) {field : Field} (h : field ≠ .compression) :
    readBack p q field = .ok (p.restore q field) := by
  have hbool : ∀ (b : Bool) (setBool : Bool → Profile),
      (Value.bool? (.scalar (Content.bool b).scalar)).map setBool = some (setBool b) :=
    fun b setBool => by rw [Value.bool?_bool, Option.map_some]
  cases field with
  | host => rfl
  | port =>
    cases hport : p.port with
    | none => simp only [readBack, content?, restore, hport, Option.map_none, Option.none_or]
    | some port =>
      have hcontent : p.content? .port = some (.integer port.toNat) := by
        rw [content?, hport, Option.map_some]
      refine readBack_of_content hcontent ?_
      rw [set?.eq_def]
      dsimp only
      rw [Value.natural?_integer port.toNat_lt, Option.map_some, Option.map_some,
        UInt16.ofNat_toNat, restore, hport, Option.some_or]
  | username => rfl
  | password => rfl
  | applicationName =>
    cases hname : p.applicationName with
    | none => simp only [readBack, content?, restore, hname, Option.map_none, Option.none_or]
    | some name =>
      have hcontent : p.content? .applicationName = some (.text name) := by
        rw [content?, hname, Option.map_some]
      refine readBack_of_content hcontent ?_
      rw [set?.eq_def]
      dsimp only
      rw [Value.text?_text, Option.map_some, restore, hname, Option.some_or]
  | encryption => exact readBack_of_content rfl (hbool ..)
  | checkNetwork => exact readBack_of_content rfl (hbool ..)
  | checkVersion => exact readBack_of_content rfl (hbool ..)
  | compression => exact absurd rfl h
  | groupId => exact readBack_of_content rfl (congrArg (Option.map _) (Value.int64?_integer _))
  | allowAllVariables => exact readBack_of_content rfl (hbool ..)

theorem foldlM_readBack (p : Profile) {fields : List Field} (h : .compression ∉ fields)
    (q : Profile) : fields.foldlM (readBack p) q = .ok (fields.foldl p.restore q) := by
  induction fields generalizing q with
  | nil => rfl
  | cons field fields ih =>
    rw [List.mem_cons, not_or] at h
    obtain ⟨hfield, hfields⟩ := h
    rw [List.foldlM_cons, readBack_of_ne p q (Ne.symm hfield), List.foldl_cons]
    exact ih hfields _

/-- The compression is what its text is read as. -/
theorem readBack_compression (p q : Profile) :
    readBack p q .compression = match Yaml.number? (p.compression.text .document) with
      | some x => .ok { q with compression := x }
      | none => .error (.invalidValue Field.compression.name) := by
  rw [readBack, content?]
  dsimp only
  rw [set?.eq_def]
  dsimp only
  rw [Value.number?_number]
  cases Yaml.number? (p.compression.text .document) <;> rfl

theorem isKey_name (field : Field) : IsKey field.name := by
  cases field <;> exact ⟨by decide, List.all_eq_true.mp (by decide), by decide⟩

/-- A document that is written is read back field by field. -/
theorem ofText_toText_eq_foldlM (p : Profile) :
    ofText p.toText = Field.all.foldlM (readBack p) {} := by
  have hne : p.written Field.all ≠ [] := List.cons_ne_nil _ _
  have hkeys : ∀ field ∈ p.written Field.all, IsKey field.1 := by
    intro field hfield
    obtain ⟨_, _, hwritten⟩ := List.mem_filterMap.mp hfield
    obtain ⟨_, _, rfl⟩ := Option.map_eq_some_iff.mp hwritten
    exact isKey_name _
  have htext : p.toText = writeFields (p.written Field.all) := rfl
  rw [ofText, htext, readDocument_writeFields hne hkeys]
  exact setAll_written p (by decide) {} nofun

/-- What the document of a profile is read as. -/
theorem ofText_toText (p : Profile) :
    ofText p.toText = match Yaml.number? (p.compression.text .document) with
      | some x => .ok { p with password := "", compression := x }
      | none => .error (.invalidValue Field.compression.name) := by
  have hall : Field.all = [.host, .port, .username, .password, .applicationName, .encryption,
      .checkNetwork, .checkVersion] ++ .compression :: [.groupId, .allowAllVariables] := rfl
  rw [ofText_toText_eq_foldlM, hall, List.foldlM_append, foldlM_readBack p (by decide)]
  change List.foldlM (readBack p) _ (.compression :: _) = _
  rw [List.foldlM_cons, readBack_compression]
  cases Yaml.number? (p.compression.text .document) with
  | none => rfl
  | some x =>
    change List.foldlM (readBack p) _ _ = _
    rw [foldlM_readBack p (by decide)]
    simp only [List.foldl_cons, List.foldl_nil, restore, Option.or_none]

end ServerLogin.Profile
