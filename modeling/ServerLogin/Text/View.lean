import ServerLogin.Text.Quoted

/-!
Debug views of values: records with named fields, optional values, lists and
names of constructors, all on one line.
-/

namespace ServerLogin.Text

/-- A record: its name, then its fields between braces. -/
def viewRecord (name : String) (fields : List (String × String)) : String :=
  name ++ " \x7b " ++ String.intercalate ", " (fields.map fun (field, value) =>
    field ++ ": " ++ value) ++ " \x7d"

def viewWrapped (name value : String) : String := name ++ "(" ++ value ++ ")"

def viewOption {α : Type} (view : α → String) : Option α → String
  | some a => viewWrapped "Some" (view a)
  | none => "None"

def viewList {α : Type} (view : α → String) (items : List α) : String :=
  "[" ++ String.intercalate ", " (items.map view) ++ "]"

def viewBool (b : Bool) : String := if b then "true" else "false"

/-- A secret: nothing but whether it is empty. -/
def viewSecret (secret : String) : String := quote (if secret.isEmpty then "" else "***")

end ServerLogin.Text
