import ServerLogin.Program

/-!
The program on a real file system.  What the command line names is read into a
file tree, the program runs on it, and what it changed is written back.  The
system does not tell the permission bits of a file here, so a file counts as
readable by its owner alone.
-/

namespace ServerLogin.Main

open ServerLogin.CommandLine

/-- The text of a location, from the root. -/
private def locationText (location : Location) : String :=
  "/" ++ String.intercalate "/" location

/-- The names between the slashes of a path. -/
private def names (path : String) : Location :=
  ((Path.pieces ⟨path⟩).filter (!·.isEmpty)).map String.ofList

/-- The account of this process, as the system's table lists it. -/
private def readAccount : IO Account := do
  let status ← IO.FS.lines "/proc/self/status"
  let user? := status.toList.findSome? fun line =>
    match line.splitOn "\t" with
    | "Uid:" :: user :: _ => some user
    | _ => none
  let accounts ← try IO.FS.lines "/etc/passwd" catch _ => pure #[]
  return ⟨accounts.toList.findSome? fun line =>
    match line.splitOn ":" with
    | [_, _, user, _, _, home, _] => if user? = some user then some home else none
    | _ => none⟩

private def readEnvironment : IO Environment := do
  let raw ← IO.FS.readBinFile "/proc/self/environ"
  let bindings := (raw.toList.splitOnP (· == 0)).filterMap fun entry =>
    let name := entry.takeWhile (· != 61)
    let value := entry.drop (name.length + 1)
    let text? (bytes : List UInt8) := String.fromUTF8? (ByteArray.mk bytes.toArray)
    (text? name).map fun name => (name, match text? value with
      | some value => Variable.text value
      | none => Variable.notText)
  return { bindings := bindings, account := ← readAccount }

/-- The location and those around it, shortest first. -/
private def around (location : Location) : List Location :=
  (List.range location.length).map fun n => location.take (n + 1)

/-- Where a path leads, its dots worked off. -/
private def resolved (path : Path) (directory : Location) : Location :=
  (names path.text).foldl
    (fun location name =>
      if name = "." then location
      else if name = ".." then location.dropLast
      else location ++ [name])
    (if path.isAbsolute then [] else directory)

/-- Read what stands at a location into the tree. -/
private def readNode (tree : FileTree) (location : Location) : IO FileTree := do
  let place := (← IO.currentDir) / locationText location
  if ← place.isDir then
    return tree.put location (.directory FileTree.newDirectoryMode)
  else if ← place.pathExists then
    let content ← IO.FS.readBinFile place
    return { tree.put location (.file tree.files.size) with
      files := tree.files.push ⟨content, 0o600⟩ }
  else return tree

/-- The paths that a command line may touch. -/
private def touched (o : Options) (env : Environment) : List Path :=
  o.profile.toList ++ o.logFile.toList
    ++ (if o.defaultProfile then [Profile.defaultPath env] else [])
    ++ o.save.toList.flatMap fun path => [path, Profile.temporaryPath path]

private def contentAt? (tree : FileTree) (location : Location) : Option ByteArray :=
  match tree.node? location with
  | some (.file id) => tree.files[id]?.map (·.content)
  | _ => none

/-- Bring a location of the file system in line with the tree.  A file takes the
place of an earlier one in one step. -/
private def writeNode (before after : FileTree) (location : Location) : IO Unit := do
  let place := locationText location
  match after.node? location, contentAt? after location with
  | some (.directory _), _ =>
    if (before.node? location).isNone then IO.FS.createDir place
  | _, some content =>
    if contentAt? before location != some content then
      IO.FS.writeBinFile (place ++ ".new") content
      IO.FS.rename (place ++ ".new") place
  | _, none =>
    if (contentAt? before location).isSome then IO.FS.removeFile place

def run (arguments : List String) : IO UInt32 := do
  let env ← readEnvironment
  let directory := names (← IO.currentDir).toString
  let locations := match parse env arguments with
    | .ok o => (touched o env).flatMap fun path => around (resolved path directory)
    | .error _ => []
  let root := (around directory).foldl
    (fun tree location => tree.put location (.directory FileTree.newDirectoryMode))
    { workingDirectory := directory }
  let tree ← locations.eraseDups.foldlM readNode root
  let exit := Program.run arguments { files := tree, environment := env }
  for location in locations.eraseDups do
    writeNode tree exit.files location
  IO.print exit.stdout
  IO.eprint exit.stderr
  return UInt32.ofNat exit.code

end ServerLogin.Main

def main (arguments : List String) : IO UInt32 := ServerLogin.Main.run arguments
