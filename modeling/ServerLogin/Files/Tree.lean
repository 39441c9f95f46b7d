import ServerLogin.Files.Fault
import ServerLogin.Files.Path

/-!
A tree of files.  A location is the list of names that leads to it from the
root; it holds a directory or refers to a file by number, so a file that is open
keeps its content when its name is given to another.  A path is looked up from
the working directory, or from the root when it begins with a slash.
-/

namespace ServerLogin

/-- The content and the permission bits of a file. -/
structure File where
  content : ByteArray
  mode : Nat

/-- What a name in a directory stands for. -/
inductive Node
  | directory (mode : Nat)
  | file (id : Nat)
deriving DecidableEq, Repr

/-- The names that lead from the root to a place in the tree. -/
abbrev Location := List String

/-- A tree of files. -/
structure FileTree where
  /-- What stands at each location; the root is always a directory. -/
  nodes : List (Location × Node) := []
  /-- The files, by number. -/
  files : Array File := #[]
  /-- Where relative paths begin. -/
  workingDirectory : Location := []

namespace FileTree

def newFileMode : Nat := 0o644

def newDirectoryMode : Nat := 0o755

/-- What stands at a location. -/
def node? (tree : FileTree) (location : Location) : Option Node :=
  if location.isEmpty then some (.directory newDirectoryMode) else tree.nodes.lookup location

/-- The tree with a location given to a node. -/
def put (tree : FileTree) (location : Location) (node : Node) : FileTree :=
  { tree with nodes := (location, node) :: tree.nodes.filter (·.1 != location) }

def remove (tree : FileTree) (location : Location) : FileTree :=
  { tree with nodes := tree.nodes.filter (·.1 != location) }

/-- The longest name a directory takes, in bytes. -/
def nameLimit : Nat := 255

/-- The longest path that is looked up, in bytes. -/
def pathLimit : Nat := 4095

/-- The end of a path, once the directory around it is found. -/
inductive Target
  /-- The path ends in a dot or two, or is the root. -/
  | directory (location : Location)
  /-- The path ends in a name; a slash behind it asks for a directory. -/
  | name (location : Location) (slash : Bool)
deriving DecidableEq, Repr

/-- Follow names from a directory; each has to be a directory. -/
def walk (tree : FileTree) (location : Location) : List String → Except FileFault Location
  | [] => .ok location
  | name :: rest =>
    if name = "." then tree.walk location rest
    else if name = ".." then tree.walk location.dropLast rest
    else if nameLimit < name.utf8ByteSize then .error .nameTooLong
    else match tree.node? (location ++ [name]) with
      | none => .error .notFound
      | some (.file _) => .error .notDirectory
      | some (.directory _) => tree.walk (location ++ [name]) rest

/-- Find the directory around the end of a path. -/
def locate (tree : FileTree) (path : Path) : Except FileFault Target :=
  if path.text.toList.contains '\x00' then .error .nulInName
  else if path.text.isEmpty then .error .notFound
  else if pathLimit < path.text.utf8ByteSize then .error .nameTooLong
  else
    let names := (path.pieces.filter (!·.isEmpty)).map String.ofList
    match names.getLast? with
    | none => .ok (.directory [])
    | some last =>
      match tree.walk (if path.isAbsolute then [] else tree.workingDirectory) names.dropLast with
      | .error fault => .error fault
      | .ok location =>
        if last = "." then .ok (.directory location)
        else if last = ".." then .ok (.directory location.dropLast)
        else if nameLimit < last.utf8ByteSize then .error .nameTooLong
        else .ok (.name (location ++ [last]) (path.text.toList.getLast? == some '/'))

/-- What a path leads to. -/
def find (tree : FileTree) (path : Path) : Except FileFault Node :=
  match tree.locate path with
  | .error fault => .error fault
  | .ok (.directory location) =>
    match tree.node? location with
    | some node => .ok node
    | none => .error .notFound
  | .ok (.name location slash) =>
    match tree.node? location with
    | none => .error .notFound
    | some (.file id) => if slash then .error .notDirectory else .ok (.file id)
    | some node => .ok node

def isDirectory (tree : FileTree) (path : Path) : Bool :=
  match tree.find path with
  | .ok (.directory _) => true
  | _ => false

def mode? (tree : FileTree) (path : Path) : Option Nat :=
  match tree.find path with
  | .ok (.directory mode) => some mode
  | .ok (.file id) => tree.files[id]?.map (·.mode)
  | .error _ => none

def read (tree : FileTree) (path : Path) : Except FileFault ByteArray :=
  match tree.find path with
  | .error fault => .error fault
  | .ok (.directory _) => .error .isDirectory
  | .ok (.file id) =>
    match tree.files[id]? with
    | some file => .ok file.content
    | none => .error .notFound

def readText (tree : FileTree) (path : Path) : Except FileFault String :=
  match tree.read path with
  | .error fault => .error fault
  | .ok content =>
    match String.fromUTF8? content with
    | some text => .ok text
    | none => .error .notText

/-- Open a file for writing: make it unless it exists.  Its content is left
alone. -/
def openFile (tree : FileTree) (path : Path) : Except FileFault (FileTree × Nat) :=
  match tree.locate path with
  | .error fault => .error fault
  | .ok (.directory _) => .error .isDirectory
  | .ok (.name location slash) =>
    if slash then .error .isDirectory
    else match tree.node? location with
      | some (.directory _) => .error .isDirectory
      | some (.file id) => .ok (tree, id)
      | none =>
        let id := tree.files.size
        .ok ({ tree.put location (.file id) with
          files := tree.files.push ⟨ByteArray.empty, newFileMode⟩ }, id)

def setContent (tree : FileTree) (id : Nat) (content : ByteArray) : FileTree :=
  { tree with files := tree.files.modify id fun file => { file with content := content } }

def append (tree : FileTree) (id : Nat) (content : ByteArray) : FileTree :=
  { tree with files := tree.files.modify id fun file =>
      { file with content := file.content ++ content } }

/-- Write a whole file, in place of what it held. -/
def write (tree : FileTree) (path : Path) (content : ByteArray) : Except FileFault FileTree :=
  match tree.openFile path with
  | .error fault => .error fault
  | .ok (tree, id) => .ok (tree.setContent id content)

def setMode (tree : FileTree) (path : Path) (mode : Nat) : FileTree :=
  match tree.find path with
  | .ok (.file id) =>
    { tree with files := tree.files.modify id fun file => { file with mode := mode } }
  | _ => tree

def makeDirectory (tree : FileTree) (path : Path) : Except FileFault FileTree :=
  match tree.locate path with
  | .error fault => .error fault
  | .ok (.directory _) => .error .exists
  | .ok (.name location _) =>
    match tree.node? location with
    | some _ => .error .exists
    | none => .ok (tree.put location (.directory newDirectoryMode))

/-- Make one directory unless it is there already. -/
def ensureDirectory (tree : FileTree) (path : Path) :
    FileTree × Except FileFault Unit :=
  match tree.makeDirectory path with
  | .ok tree => (tree, .ok ())
  | .error fault =>
    if fault = .exists && tree.isDirectory path then (tree, .ok ()) else (tree, .error fault)

/-- Make a directory and those around it that are missing.  `fuel` bounds the
number of directories around it. -/
def makeAround : Nat → FileTree → Path → FileTree × Except FileFault Unit
  | 0, tree, _ => (tree, .error .notFound)
  | fuel + 1, tree, path =>
    match tree.ensureDirectory path with
    | (tree, .error .notFound) =>
      match path.parent? with
      | none => (tree, .error .notFound)
      | some parent =>
        if parent.text.isEmpty then (tree, .error .notFound)
        else match makeAround fuel tree parent with
          | (tree, .error fault) => (tree, .error fault)
          | (tree, .ok ()) => tree.ensureDirectory path
    | outcome => outcome

/-- Make a directory and those around it that are missing.  What was made before
a failure stays. -/
def makeDirectories (tree : FileTree) (path : Path) : FileTree × Except FileFault Unit :=
  if path.text.isEmpty then (tree, .ok ()) else makeAround (path.text.length + 1) tree path

/-- Give the file at one path another path, in place of a file that is there.  Two
names of one file are both kept. -/
def rename (tree : FileTree) (source target : Path) : Except FileFault FileTree :=
  match tree.locate source, tree.locate target with
  | .error fault, _ => .error fault
  | _, .error fault => .error fault
  | .ok (.directory _), _ => .error .busy
  | _, .ok (.directory _) => .error .busy
  | .ok (.name old oldSlash), .ok (.name new newSlash) =>
    match tree.node? old with
    | none => .error .notFound
    | some (.directory _) => .error .busy
    | some (.file id) =>
      if oldSlash || newSlash then .error .notDirectory
      else match tree.node? new with
        | some (.directory _) => .error .isDirectory
        | standing =>
          if standing = some (.file id) then .ok tree
          else .ok ((tree.remove old).put new (.file id))

end FileTree

end ServerLogin
