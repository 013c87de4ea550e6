import VisibleText.Console.Run

/-!
# The program

Everything that is decided here is decided by `VisibleText.Console.start` and
`VisibleText.Console.PendingEdits.finish` on a disk that holds as much of the real one as a
command can ask for: the files with settings, the file with edits and the folder of
pages. What is left is to read those, to print the report, and to write the page.
-/

set_option autoImplicit false

open VisibleText
open VisibleText.Console

namespace VisibleText.Program

/-! ## Reading -/

/-- What really stands at a path; there may be nothing. -/
partial def readEntry (path : String) : IO (Option Entry) := do
  let found := (← IO.currentDir) / path
  if ← found.isDir then
    match ← found.readDir.toBaseIO with
    | .error _ => return some (.folder [] false)
    | .ok children =>
      let mut entries := []
      for child in children do
        if let some entry ← readEntry child.path.toString then
          entries := (text child.fileName, entry) :: entries
      return some (.folder entries.reverse)
  else if ← found.pathExists then
    match (← found.metadata).type with
    | .file => return some (.file (← IO.FS.readBinFile path).toList)
    | _ => return some .special
  else return none

/-- What really stands at a path, without what stands in a folder. -/
def readShallow (path : String) : IO (Option Entry) := do
  if ← ((← IO.currentDir) / path).isDir then return some (.folder [])
  else readEntry path

/-- A disk with what really stands at a place, unless the disk holds something there. -/
def taken (read : String → IO (Option Entry)) (disk : Disk) (place : Place) : IO Disk := do
  match disk.at? place, ← read place.toText.toString with
  | none, some entry => return disk.put entry place
  | _, _ => return disk

/-- The places that a path goes through from some place on, and the one that it leads
to. -/
def placesThrough (base : Place) (path : Text) : List Place :=
  let names := Place.names path
  let start := if Place.isAbsolute path then text "/" else []
  (List.range (names.length + 1)).map fun n =>
    Place.follow base (start ++ Text.join (text "/") (names.take n))

/-- A disk with all that a path goes through from some place on. -/
def takenThrough (disk : Disk) (base : Place) (path : Text) : IO Disk :=
  (placesThrough base path).foldlM (taken readShallow) disk

/-- An environment with those of some variables that are set. -/
def environmentOf (names : List Text) : IO Environment := do
  let mut env : Environment := []
  for name in names do
    if let some value ← IO.getEnv name.toString then env := env.set name (text value)
  return env

/-- The variables that loading the environment file of a project may ask for. -/
def variablesOf (disk : Disk) (root : Place) : List Text :=
  let own := EnvironmentFile.switchName :: Settings.overrides.map Settings.Override.name
  match disk.file? (Place.follow root Settings.environmentFile) with
  | none => own
  | some content => own ++ EnvironmentFile.namedVariables content.decodeLossy

/-- As much of the real disk and environment as the command of an invocation can ask
for. -/
def workplaceOf (folder : Place) (i : Invocation) : IO Workplace := do
  let disk ← taken readShallow (.folder []) folder
  let disk ← takenThrough disk folder (i.root.getD [])
  let root := (Workplace.mk disk folder []).root i
  let disk ← takenThrough disk root Settings.environmentFile
  let disk ← takenThrough disk root (SettingsSource.ofFile root i.settingsFile).file
  let disk ← i.words.foldlM (fun disk word => takenThrough disk folder word) disk
  let w : Workplace := ⟨disk, folder, ← environmentOf (variablesOf disk root)⟩
  match w.site i with
  | .error _ => return w
  | .ok site =>
    let pages := Place.follow root (site.pagesFolder.getD [])
    match ← readEntry pages.toText.toString with
    | none => return w
    | some entry => return { w with disk := disk.put entry pages }

/-! ## Writing -/

/-- Writes a file under another name and then puts it at its place at once. -/
def writeFile (tag : Text) (place : Place) (content : Bytes) : IO Unit := do
  let beside := (Store.temporaryPlace tag place).toText.toString
  IO.FS.writeBinFile beside ⟨content.toArray⟩
  IO.FS.rename beside place.toText.toString

/-- Finishes edits on the page as it is by now. -/
def finished (w : Workplace) (p : PendingEdits) : IO Report := do
  let place := Place.follow p.prepared.site.store.root p.prepared.storePath
  let before ← readEntry place.toText.toString
  let disk := before.elim (w.disk.remove place) fun entry => w.disk.put entry place
  let tag := text (String.ofList (Nat.toDigits 16 (← IO.rand 0x10000000 0xFFFFFFFF)))
  let (report, disk) := p.finish disk tag
  if let some content := disk.file? place then
    if before.bind (Entry.file? · []) ≠ some content then writeFile tag place content
  return report

/-- Prints a report; what the command did not expect is shown behind it. -/
def printed (report : Report) : IO UInt32 := do
  IO.print report.written.toString
  match report.shown.2 with
  | .exit code => return code.toUInt32
  | .failed => return 1
  | .crash cause =>
    IO.print (Report.written ⟨[Report.crashBlock cause], .failed⟩).toString
    return 1

end VisibleText.Program

open VisibleText.Program in
/-- Runs the command that arguments ask for. -/
def main (args : List String) : IO UInt32 := do
  let folder := Place.follow [] (text (← IO.currentDir).toString)
  let args := args.map text
  let w ←
    match Request.ofArguments args with
    | .invoke i => workplaceOf folder i
    | _ => pure ⟨.folder [], folder, []⟩
  match start w args with
  | .done report => printed report
  | .pending p => printed (← finished w p)
