import VisibleText.Project.Disk

/-!
# Reading and writing the files of a project

A store reads and writes whole files below the root of a project, and refuses paths
that lead out of it. A writer may say what it read before; the file is then written
only if it still holds that, so no other writer's work is lost.

A file is first written under another name beside its place, and then put there at
once. The other name is made of the file's name and of a tag that is new each time.
-/

set_option autoImplicit false

namespace VisibleText

/-- A store of the files below the root of a project. -/
structure Store where
  root : Place

/-- Why a file cannot be read or written. -/
inductive StoreError where
  /-- the path leads out of the project -/
  | outside (path : Text)
  /-- the file does not hold what the writer read -/
  | conflict (path : Text)
  /-- the file is not UTF-8 -/
  | undecodable (fault : DecodeFault)
  /-- a text has no UTF-8 form -/
  | unencodable (fault : EncodeFault)
  /-- the disk refuses -/
  | disk (fault : DiskFault)

/-- The wording of a conflict. -/
def conflictMessage (path : Text) : Text :=
  text "Conflict updating " ++ path ++
    text ": the file was modified concurrently. Please retry."

namespace Store

/-- The place that a path leads to in a project. -/
def place (store : Store) (path : Text) : Except StoreError Place := do
  let place ← (Place.follow? store.root path).mapError .disk
  if place.isWithin store.root then return place else .error (.outside path)

/-- The text of the file at a place; there may be none. -/
def textAt (disk : Disk) (place : Place) : Except StoreError (Option Text) := do
  match ← (disk.look place).mapError .disk with
  | some (.file content) =>
    match content.decode with
    | .ok t => return some t
    | .error fault => .error (.undecodable fault)
  | _ => return none

/-- The text of the file that a path leads to; there may be none. -/
def readText (store : Store) (disk : Disk) (path : Text) : Except StoreError (Option Text) := do
  textAt disk (← store.place path)

/-- Checks that the file at a place still holds what a writer read. -/
def checkUnchanged (disk : Disk) (place : Place) (path expected : Text) :
    Except StoreError Unit := do
  match ← textAt disk place with
  | none => .error (.conflict path)
  | some current =>
    match expected.encodeFault? with
    | some fault => .error (.unencodable fault)
    | none => if current = expected then return () else .error (.conflict path)

/-- The name under which a file is written first. -/
def temporaryName (tag name : Text) : Text :=
  text "." ++ name ++ text "." ++ tag ++ text ".tmp"

/-- The place at which a file is written first. -/
def temporaryPlace (tag : Text) (place : Place) : Place :=
  place.dropLast ++ [temporaryName tag (place.getLastD [])]

/-- Puts a text at a place whose folder is there. A text without a UTF-8 form leaves an
empty file under the other name behind. -/
def putText (disk : Disk) (tag : Text) (place : Place) (t : Text) : Except StoreError Unit × Disk :=
  let beside := temporaryPlace tag place
  if Disk.isTooLong beside then (.error (.disk (.tooLong beside.toText)), disk)
  else
    match t.encodeFault? with
    | some fault => (.error (.unencodable fault), disk.put (.file []) beside)
    | none =>
      match disk.at? place with
      | some (.folder _ _) => (.error (.disk (.isAFolder place.toText)), disk)
      | _ => (.ok (), disk.put (.file t.bytes) place)

/-- Writes a text to a place, with the folders on the way to it. -/
def writeAt (disk : Disk) (tag : Text) (place : Place) (t : Text) : Except StoreError Unit × Disk :=
  match disk.makeFolder place.dropLast with
  | (some fault, disk) => (.error (.disk fault), disk)
  | (none, disk) => putText disk tag place t

/-- Writes a text to the file that a path leads to. If the writer says what it read,
the file has to hold that still. -/
def writeText (store : Store) (disk : Disk) (tag path t : Text) (expected : Option Text) :
    Except StoreError Unit × Disk :=
  match store.place path with
  | .error e => (.error e, disk)
  | .ok place =>
    match expected.map (checkUnchanged disk place path) with
    | some (.error e) => (.error e, disk)
    | _ => writeAt disk tag place t

end Store

end VisibleText
