import ServerLogin.Profile.Document
import ServerLogin.Session

/-!
Profiles in files.  A profile is saved in three steps: the directories around it
are made, the document is written beside it under another name, and that file
takes the place of the profile.
-/

namespace ServerLogin.Profile

open ServerLogin.Text

/-- The permission bits that let others read a file. -/
def readableByOthers : Nat := 0o044

/-- Permission bits as four octal digits. -/
def modeText (mode : Nat) : String :=
  let digits := Nat.toDigits 8 (mode % 0o1000)
  String.ofList (List.replicate (4 - digits.length) '0' ++ digits)

def loadingEntry (path : Path) : Log.Entry :=
  ⟨.info, .profile, "Loading login profile from " ++ quoteName path.text⟩

/-- What is logged about a file that others can read. -/
def insecureEntry (path : Path) (mode : Nat) : Log.Entry :=
  ⟨.warn, .profile, "Profile " ++ quoteName path.text ++ " has insecure permissions (mode " ++
    modeText mode ++ "). Run: chmod 600 " ++ quoteName path.text⟩

def savedEntry (path : Path) : Log.Entry :=
  ⟨.info, .profile, "Saved login profile to " ++ quoteName path.text⟩

/-- Warn when others can read the file at a path. -/
def warnIfInsecure (path : Path) (s : Session) : Session :=
  match s.files.mode? path with
  | some mode => if mode &&& readableByOthers = 0 then s else s.log (insecureEntry path mode)
  | none => s

def load (path : Path) (s : Session) : Session × Except LoginError Profile :=
  let s := warnIfInsecure path (s.log (loadingEntry path))
  match s.files.readText path with
  | .error fault => (s, .error (.file fault))
  | .ok text => s.absorb (parse s.environment.text? text)

/-- The path that the document is written to first. -/
def temporaryPath (path : Path) : Path := path.withExtension "yaml.tmp"

/-- Make the directories around a path. -/
def makeSurroundings (path : Path) (tree : FileTree) : FileTree × Except FileFault Unit :=
  match path.parent? with
  | none => (tree, .ok ())
  | some parent => tree.makeDirectories parent

/-- Put a document at a path, by way of the temporary one. -/
def store (text : String) (path : Path) (tree : FileTree) : FileTree × Except FileFault Unit :=
  match makeSurroundings path tree with
  | (tree, .error fault) => (tree, .error fault)
  | (tree, .ok ()) =>
    match tree.write (temporaryPath path) text.toUTF8 with
    | .error fault => (tree, .error fault)
    | .ok tree =>
      match tree.rename (temporaryPath path) path with
      | .error fault => (tree, .error fault)
      | .ok tree => (tree, .ok ())

def save (p : Profile) (path : Path) (s : Session) : Session × Except LoginError Unit :=
  match store p.toText path s.files with
  | (tree, .error fault) => ({ s with files := tree }, .error (.file fault))
  | (tree, .ok ()) => ({ s with files := tree }.log (savedEntry path), .ok ())

/-- Where the profile of a user is, unless another path is given.  Without a home
directory it is looked for where the program runs. -/
def defaultPath (env : Environment) : Path :=
  match env.home? with
  | some home => ((Path.mk home).join ".config" |>.join "omero-login").join "profile.yaml"
  | none => ⟨"profile.yaml"⟩

end ServerLogin.Profile
