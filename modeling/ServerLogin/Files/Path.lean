/-!
Paths as text.  A path is cut at its slashes; what names nothing at its end
(empty pieces and single dots) is passed over when the last component is looked
for.  Replacing the extension of a path keeps everything before its file name as
it is written.
-/

namespace ServerLogin

/-- A path, as it was given. -/
structure Path where
  text : String
deriving DecidableEq, Repr

namespace Path

def pieces (path : Path) : List (List Char) := path.text.toList.splitOnP (· == '/')

def ofPieces (pieces : List (List Char)) : Path := ⟨String.ofList (List.intercalate ['/'] pieces)⟩

def isAbsolute (path : Path) : Bool := path.text.toList.head? == some '/'

/-- Drop what names nothing from reversed pieces: empty pieces, and single dots
behind a slash. -/
def dropBlank : List (List Char) → List (List Char)
  | [] => []
  | [piece] => if piece.isEmpty then [] else [piece]
  | piece :: before =>
    if piece.isEmpty || piece == ['.'] then dropBlank before else piece :: before

/-- The last component of a path and, in reverse, the pieces before it. -/
def split? (path : Path) : Option (List (List Char) × List Char) :=
  match dropBlank path.pieces.reverse with
  | [] => none
  | last :: before => some (before, last)

/-- The file name a path ends in, and the pieces before it; a path that ends in
a dot or two has none. -/
def fileName? (path : Path) : Option (List (List Char) × List Char) :=
  path.split?.filter fun (_, last) => last != ['.'] && last != ['.', '.']

/-- The path of the directory around the last component. -/
def parent? (path : Path) : Option Path :=
  path.split?.map fun (before, _) =>
    match dropBlank before with
    | [] => if path.isAbsolute then ⟨"/"⟩ else ⟨""⟩
    | pieces => ofPieces pieces.reverse

/-- A file name without its extension.  A dot at the very start begins no
extension. -/
def stem (name : List Char) : List Char :=
  let extension := name.reverse.takeWhile (· ≠ '.')
  let before := name.take (name.length - extension.length - 1)
  if before.isEmpty then name else before

/-- Replace the extension of the file name.  A path without a file name is kept. -/
def withExtension (path : Path) (extension : String) : Path :=
  match path.fileName? with
  | none => path
  | some (before, name) =>
    ofPieces (before.reverse ++ [stem name ++ '.' :: extension.toList])

def join (path : Path) (component : String) : Path :=
  if path.text.isEmpty || path.text.toList.getLast? == some '/' then ⟨path.text ++ component⟩
  else ⟨path.text ++ "/" ++ component⟩

end Path

end ServerLogin
