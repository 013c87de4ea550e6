import VisibleText.Bytes.Utf8
import VisibleText.Project.Place

/-!
# Files, folders and disks

What stands on a disk is a tree, and a disk is the entry at its root.
-/

set_option autoImplicit false

namespace VisibleText

/-! ## Files and folders

What stands on a disk is a tree: a file has bytes, a folder has entries with names, and
what is neither has nothing in it that is looked into here.

Whatever stands in a folder can be looked at by its name, but a disk may refuse to list the
entries of a folder.
-/

/-- What stands on a disk under a name. -/
inductive Entry where
  | file (content : Bytes)
  /-- neither a file nor a folder: a socket, a pipe or a device -/
  | special
  | folder (entries : List (Text × Entry)) (isListable : Bool := true)

namespace Entry

/-- Whether an entry is a folder. -/
def isFolder : Entry → Bool
  | folder _ _ => true
  | _ => false

/-- The entry of a name in a folder. -/
def child? : Entry → Text → Option Entry
  | folder entries _, name => entries.lookup name
  | _, _ => none

/-- The entry at a place below an entry. -/
def at? (entry : Entry) : Place → Option Entry
  | [] => some entry
  | name :: place =>
    match entry.child? name with
    | none => none
    | some child => child.at? place

/-- Named entries with one of them set. -/
def setIn (name : Text) (entry : Entry) : List (Text × Entry) → List (Text × Entry)
  | [] => [(name, entry)]
  | (n, e) :: entries =>
    if n = name then (name, entry) :: entries else (n, e) :: setIn name entry entries

/-- Named entries without the one of a name. -/
def removeFrom (name : Text) (entries : List (Text × Entry)) : List (Text × Entry) :=
  entries.filter fun (n, _) => n ≠ name

/-- An entry with another one put at a place below it. Folders are made on the way;
nothing changes if something else stands in the way. -/
def put (entry new : Entry) : Place → Entry
  | [] => new
  | name :: place =>
    match entry with
    | folder entries isListable =>
      let child := (entries.lookup name).getD (folder [])
      folder (setIn name (child.put new place) entries) isListable
    | other => other

/-- An entry without the one at a place below it. -/
def remove (entry : Entry) : Place → Entry
  | [] => entry
  | name :: place =>
    match entry with
    | folder entries isListable =>
      match place with
      | [] => folder (removeFrom name entries) isListable
      | next :: place =>
        match entries.lookup name with
        | none => folder entries isListable
        | some child => folder (setIn name (child.remove (next :: place)) entries) isListable
    | other => other

/-- Why a folder cannot be made. -/
inductive FolderFault where
  /-- something else stands at its place -/
  | fileThere
  /-- something else than a folder stands on the way to it -/
  | fileOnTheWay
  /-- a name on the way to it is too long -/
  | longName
deriving DecidableEq

/-- An entry with a folder at a place below it, made with all folders on the way if
there is none. If something stands in the way, only the folders before it are made. -/
def withFolder (entry : Entry) : Place → Option FolderFault × Entry
  | [] => (if entry.isFolder then none else some .fileThere, entry)
  | name :: place =>
    match entry with
    | folder entries isListable =>
      if name.isLongName then (some .longName, folder entries isListable)
      else
        let (fault, child) := ((entries.lookup name).getD (folder [])).withFolder place
        (fault, folder (setIn name child entries) isListable)
    | other => (some .fileOnTheWay, other)

/-- The bytes of the file at a place below an entry. -/
def file? (entry : Entry) (place : Place) : Option Bytes :=
  match entry.at? place with
  | some (file content) => some content
  | _ => none

end Entry

/-! ## Disks

A disk is the entry at its root. There are two ways to look for something on it. A place is
looked for name by name, and whatever is missing on the way, nothing is there. A path is
walked: it may go up again only from where it has been.

Making folders stops at the first one that cannot be made and keeps those before it.
-/

/-- A disk is the entry at its root. -/
abbrev Disk := Entry

namespace Disk

/-- Whether a name that is too long is looked for at a place below an entry. Names are
looked for as long as there is a folder to look in. -/
def meetsLongName (entry : Entry) : Place → Bool
  | [] => false
  | name :: place =>
    match entry with
    | .folder entries _ =>
      name.isLongName ||
        match entries.lookup name with
        | none => false
        | some child => meetsLongName child place
    | _ => false

/-- What stands at a place. -/
def look (disk : Disk) (place : Place) : Except DiskFault (Option Entry) :=
  let path := place.toText
  if path.isLongPath || meetsLongName disk place then .error (.tooLong path)
  else .ok (disk.at? place)

/-- Whether something else than a folder stands on the way to a place. -/
def isBehindFile (entry : Entry) : Place → Bool
  | [] => false
  | name :: place =>
    match entry with
    | .folder entries _ =>
      match entries.lookup name with
      | none => false
      | some child => isBehindFile child place
    | _ => true

/-- The place to which names lead from a folder. Every name must be looked for in a
folder, also one that goes up or stays; so nothing can be passed that is not there. -/
def walk (disk : Disk) (path : Text) :
    (upward : List Text) → List Text → Except DiskFault (Option Place)
  | upward, [] => .ok (some upward.reverse)
  | upward, name :: names =>
    match disk.at? upward.reverse with
    | some (.folder entries _) =>
      let next := Place.step upward name
      if name.isLongName then .error (.tooLong path)
      else if next.length ≤ upward.length then walk disk path next names
      else if (entries.lookup name).isNone then .ok none
      else walk disk path next names
    | _ => .ok none

/-- What a path leads to from some place, if every folder that it goes through is
there. -/
def find (disk : Disk) (base : Place) (path : Text) : Except DiskFault (Option Entry) :=
  match path.pathFault? with
  | some fault => .error fault
  | none =>
    if path.isLongPath then .error (.tooLong path)
    else if path.isEmpty then .ok none
    else do
      let found ← walk disk path (Place.startOf base path).reverse (Place.names path)
      return found.bind disk.at?

/-- What was found, where something that is too long to be looked for is not there. -/
def orAbsent (found : Except DiskFault (Option Entry)) : Except DiskFault (Option Entry) :=
  match found with
  | .error (.tooLong _) => .ok none
  | found => found

/-- Why a folder cannot be made at a place, as what the disk refuses. -/
def folderFault (place : Place) : Entry.FolderFault → DiskFault
  | .fileThere => .alreadyThere place.toText
  | .fileOnTheWay => .notAFolder place.toText
  | .longName => .tooLong place.toText

/-- Makes a folder, with the folders that lead to it. A path that is too long makes
none. -/
def makeFolder (disk : Disk) (place : Place) : Option DiskFault × Disk :=
  if place.toText.isLongPath then (some (.tooLong place.toText), disk)
  else
    let (fault, disk) := disk.withFolder place
    (fault.map (folderFault place), disk)

/-- Whether a place has no file because of the length of its path. -/
def isTooLong (place : Place) : Bool :=
  place.toText.isLongPath || (place.getLastD []).isLongName

/-- Writes a file, with the folders that lead to it. -/
def putFile (disk : Disk) (place : Place) (content : Bytes) : Option DiskFault × Disk :=
  match disk.makeFolder place.dropLast with
  | (some fault, disk) => (some fault, disk)
  | (none, disk) =>
    if isTooLong place then (some (.tooLong place.toText), disk)
    else
      match disk.at? place with
      | some (.folder _ _) => (some (.isAFolder place.toText), disk)
      | _ => (none, disk.put (.file content) place)

/-- Removes a file. -/
def removeFile (disk : Disk) (place : Place) : Except DiskFault Disk := do
  match ← disk.look place with
  | some (.folder _ _) => .error (.isAFolder place.toText)
  | some _ => return disk.remove place
  | none =>
    if isBehindFile disk place then .error (.notAFolder place.toText)
    else .error (.missing place.toText)

end Disk

end VisibleText
