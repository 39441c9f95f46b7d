import Mathlib.Data.List.Forall2
import ServerLogin.CommandLine.Options
import ServerLogin.Proofs.RawArguments.Value
import ServerLogin.Proofs.Secrecy.Credentials
import ServerLogin.Proofs.Text.Quoted

/-!
What the debug view of the options tells of the passwords in them.  The option for
the password is hidden, whatever it holds.  A raw argument is hidden under one
spelling of its key, while blanks around the key do not keep an argument from being
read as the password; so the view shows every password that is spelled another way.
-/

namespace ServerLogin.CommandLine

open ServerLogin.RawArguments ServerLogin.Text

/-- A raw argument with its key as it is spelled. -/
def spelled (key value : List Char) : String :=
  String.ofList ("--omero.".toList ++ (key ++ '=' :: value))

theorem toList_spelled (key value : List Char) :
    (spelled key value).toList = "--omero.".toList ++ (key ++ '=' :: value) :=
  String.toList_ofList

/-- Which key an argument gives a value depends on the spelling, up to blanks around it. -/
theorem read_spelled_iff {key : List Char} (hkey : '=' ∉ key) (raw : List Char) (known : Key) :
    (∃ value, read (spelled key raw) = .property known value) ↔
      known.name = trim (String.ofList key) := by
  rw [← Key.ofName?_eq_some_iff, trim, String.toList_ofList]
  unfold RawArguments.read
  rw [toList_spelled, after?_append]
  simp only [splitEquals?_append hkey]
  cases Key.ofName? (String.ofList (trimChars key)) with
  | none => simp
  | some key => simp

/-- Arguments that are the same, or that are read as the password and differ in
nothing but the value. -/
def SameButValue (a b : String) : Prop :=
  a = b ∨ ∃ key v w : List Char, '=' ∉ key ∧ a = spelled key v ∧ b = spelled key w ∧
    ∃ password, read a = .property .pass password

/-- The other argument is read as a password too. -/
theorem SameButValue.sameArgument {a b : String} (h : SameButValue a b) : SameArgument a b := by
  obtain rfl | ⟨key, v, w, hkey, rfl, rfl, hread⟩ := h
  · exact .inl rfl
  · have hname := (read_spelled_iff hkey v .pass).mp hread
    obtain ⟨password, hv⟩ := hread
    obtain ⟨other, hw⟩ := (read_spelled_iff hkey w .pass).mpr hname
    exact .inr ⟨password, other, hv, hw⟩

/-- Arguments whose value a debug view does not show. -/
def Hidden (argument : String) : Prop := "--omero.pass=".toList <+: argument.toList

instance (argument : String) : Decidable (Hidden argument) :=
  inferInstanceAs (Decidable ("--omero.pass=".toList <+: argument.toList))

def shown (argument : String) : String :=
  if Hidden argument then "--omero.pass=***" else argument

theorem argumentView_eq (argument : String) : argumentView argument = quote (shown argument) := by
  by_cases h : Hidden argument
  · rw [shown, if_pos h, argumentView, if_pos (List.isPrefixOf_iff_prefix.mpr h)]
  · rw [shown, if_neg h, argumentView, if_neg fun hmark => h (List.isPrefixOf_iff_prefix.mp hmark)]

theorem viewList_argumentView (arguments : List String) :
    viewList argumentView arguments = viewList quote (arguments.map shown) := by
  have hview : arguments.map argumentView = (arguments.map shown).map quote := by
    rw [List.map_map]
    exact List.map_congr_left fun argument _ => argumentView_eq argument
  rw [viewList, viewList, hview]

/-- One spelling of the key is hidden. -/
theorem hidden_spelled_iff {key : List Char} (hkey : '=' ∉ key) (value : List Char) :
    Hidden (spelled key value) ↔ key = Key.pass.name.toList := by
  have hmark : "--omero.pass=".toList = "--omero.".toList ++ (Key.pass.name.toList ++ ['=']) := rfl
  have hrun : ∀ name : List Char, '=' ∉ name → ∀ c ∈ name, (c != '=') = true :=
    fun name hname c hc => bne_iff_ne.mpr fun hequals => hname (hequals ▸ hc)
  rw [Hidden, toList_spelled, hmark, List.prefix_append_right_inj]
  constructor
  · rintro ⟨rest, heq⟩
    rw [List.append_assoc, List.singleton_append] at heq
    have hname := run_append_inj (hrun _ Key.pass.equals_notMem_name) (by decide) (hrun key hkey) heq
    exact hname.1.symm
  · rintro rfl
    exact ⟨value, List.append_assoc ..⟩

theorem shown_eq_iff {a b : String} (h : SameButValue a b) :
    shown a = shown b ↔ a = b ∨ Hidden a := by
  obtain rfl | ⟨key, v, w, hkey, rfl, rfl, _⟩ := h
  · exact ⟨fun _ => .inl rfl, fun _ => rfl⟩
  · have hsame : Hidden (spelled key v) ↔ Hidden (spelled key w) :=
      (hidden_spelled_iff hkey v).trans (hidden_spelled_iff hkey w).symm
    by_cases hhidden : Hidden (spelled key v)
    · rw [shown, shown, if_pos hhidden, if_pos (hsame.mp hhidden)]
      exact ⟨fun _ => .inr hhidden, fun _ => rfl⟩
    · rw [shown, shown, if_neg hhidden, if_neg fun h => hhidden (hsame.mpr h)]
      exact ⟨.inl, fun h => h.resolve_right hhidden⟩

theorem map_shown_eq_iff {as bs : List String} (h : List.Forall₂ SameButValue as bs) :
    as.map shown = bs.map shown ↔ List.Forall₂ (fun a b => a = b ∨ Hidden a) as bs := by
  induction h with
  | nil => exact ⟨fun _ => .nil, fun _ => rfl⟩
  | cons hab _ ih =>
    rw [List.map_cons, List.map_cons, List.cons.injEq, List.forall₂_cons, shown_eq_iff hab, ih]

/-- The raw arguments are the last field of the view, and the other fields do not
depend on what the password is. -/
theorem view_eq_iff {o : Options} {password : Option String} {arguments : List String}
    (hpassword : o.password.isSome = password.isSome) :
    o.view = { o with password := password, rawArguments := arguments }.view ↔
      viewList argumentView o.rawArguments = viewList argumentView arguments := by
  have hhidden : viewOption (fun _ => quote "***") o.password =
      viewOption (fun _ => quote "***") password := by
    cases ho : o.password <;> cases password <;> simp_all [viewOption]
  unfold Options.view
  dsimp only
  rw [hhidden]
  -- The fifteen fields in front are now the same on both sides.
  exact viewRecord_last_inj [_, _, _, _, _, _, _, _, _, _, _, _, _, _, _] (List.cons_ne_nil _ _)

/-- Options that differ in nothing but the passwords they give: their debug views are
the same exactly when every argument in which they differ spells its key in the way
that is hidden. -/
theorem view_eq_iff_hidden (o : Options) (password : Option String) (arguments : List String)
    (hpassword : o.password.isSome = password.isSome)
    (harguments : List.Forall₂ SameButValue o.rawArguments arguments) :
    o.view = { o with password := password, rawArguments := arguments }.view ↔
      List.Forall₂ (fun a b => a = b ∨ Hidden a) o.rawArguments arguments := by
  rw [view_eq_iff hpassword, viewList_argumentView, viewList_argumentView,
    viewList_quote_injective.eq_iff]
  exact map_shown_eq_iff harguments

/-- Two passwords behind a blank: both are read, and the view tells one from the other. -/
theorem view_ne_of_blank :
    read "--omero. pass=s3cret" = .property .pass "s3cret" ∧
      read "--omero. pass=other" = .property .pass "other" ∧
      ({ rawArguments := ["--omero.host=h", "--omero. pass=s3cret"] } : Options).view ≠
        ({ rawArguments := ["--omero.host=h", "--omero. pass=other"] } : Options).view := by
  have hread : read "--omero. pass=s3cret" = .property .pass "s3cret" := rfl
  have hsame : SameButValue "--omero. pass=s3cret" "--omero. pass=other" :=
    .inr ⟨" pass".toList, "s3cret".toList, "other".toList, by decide, by decide, by decide,
      "s3cret", hread⟩
  refine ⟨hread, rfl, fun hview => ?_⟩
  have hhidden := (view_eq_iff_hidden
    { rawArguments := ["--omero.host=h", "--omero. pass=s3cret"] } none
    ["--omero.host=h", "--omero. pass=other"] rfl (.cons (.inl rfl) (.cons hsame .nil))).mp hview
  exact absurd hhidden (by decide)

end ServerLogin.CommandLine
