import VisibleText.Bytes.Utf8
import VisibleText.Text.Printable
import VisibleText.Text.Search

/-!
# Places on a disk

A place is the list of names that lead to it from the root of the disk. A path is text
that is read from some place on: it may start over from the root, stay where it is, and
go up. There are no links, so going up undoes the last name.
-/

set_option autoImplicit false

namespace VisibleText

/-! ## What a disk refuses

A disk refuses paths that it cannot be given or that are too long for it, and it refuses
to take a file for a folder or a folder for a file. Each refusal names the path that it
is about, unless the disk was not even given one.
-/

/-- Why a disk does not do what it is asked. -/
inductive DiskFault where
  /-- the path holds the character of number zero -/
  | zeroCharacter
  /-- the path has no bytes -/
  | unencodable (fault : EncodeFault)
  /-- the path, or a name in it, is too long -/
  | tooLong (path : Text)
  /-- nothing stands there -/
  | missing (path : Text)
  /-- something stands there already -/
  | alreadyThere (path : Text)
  /-- a file stands where a folder should -/
  | notAFolder (path : Text)
  /-- a folder stands where a file should -/
  | isAFolder (path : Text)
  /-- what stands there holds no bytes that could be read -/
  | unopenable (path : Text)
deriving DecidableEq

namespace DiskFault

/-- The number and the words of a refusal about a path. -/
def numbered (number : Nat) (words : String) (path : Text) : Text :=
  text "[Errno " ++ Text.ofNat number ++ text "] " ++ text words ++ text ": " ++ quoted path

/-- The wording of a refusal. -/
def message : DiskFault → Text
  | zeroCharacter => text "embedded null byte"
  | unencodable fault => fault.message
  | tooLong path => numbered 36 "File name too long" path
  | missing path => numbered 2 "No such file or directory" path
  | alreadyThere path => numbered 17 "File exists" path
  | notAFolder path => numbered 20 "Not a directory" path
  | isAFolder path => numbered 21 "Is a directory" path
  | unopenable path => numbered 6 "No such device or address" path

end DiskFault

/-- The fault of a text that is given to a disk as a path or a part of one, if the disk
cannot take it. -/
def Text.pathFault? (t : Text) : Option DiskFault :=
  match t.systemFault? with
  | some fault => some (.unencodable fault)
  | none => if List.contains t (.char '\x00') then some .zeroCharacter else none

/-- The most bytes that a name may have. -/
def longestName : Nat := 255

/-- The most bytes that a path may have. -/
def longestPath : Nat := 4095

/-- How many bytes a text takes on a disk. -/
def Text.systemWidth (t : Text) : Nat := (t.systemBytes?.map List.length).getD t.width

/-- Whether a text is too long for a name. -/
def Text.isLongName (t : Text) : Bool := decide (longestName < t.systemWidth)

/-- Whether a text is too long for a path. -/
def Text.isLongPath (t : Text) : Bool := decide (longestPath < t.systemWidth)

/-! ## Places and paths -/

/-- A place on a disk: the names that lead to it from the root. -/
abbrev Place := List Text

namespace Place

/-- The names between the slashes of a path. -/
def names (path : Text) : List Text := path.splitOn (.char '/')

/-- Whether a path starts from the root. -/
def isAbsolute (path : Text) : Bool := path.startsWith (text "/")

/-- The names of a place, the last one first, after one more name of a path. -/
def step (upward : List Text) (name : Text) : List Text :=
  if name = [] ∨ name = text "." then upward
  else if name = text ".." then upward.drop 1
  else name :: upward

/-- The place that a path is read from. -/
def startOf (base : Place) (path : Text) : Place := if isAbsolute path then [] else base

/-- The place that a path leads to from some place. -/
def follow (base : Place) (path : Text) : Place :=
  ((names path).foldl step (startOf base path).reverse).reverse

/-- A place as an absolute path. -/
def toText (place : Place) : Text := text "/" ++ Text.join (text "/") place

/-- Whether a place is another one or lies below it. -/
def isWithin (place base : Place) : Bool := base.isPrefixOf place

/-- The slashes that a path keeps at its start: two of them if it has two and no more,
and one if it has any other number of them. -/
def leadingSlashes (path : Text) : Text :=
  let slashes := path.takeWhile (· == .char '/')
  if slashes.length = 2 then slashes else slashes.take 1

/-- A path in its shortest form that still goes up where the path does. -/
def tidied (path : Text) : Text :=
  let kept := (names path).filter fun name => name ≠ [] ∧ name ≠ text "."
  if kept.isEmpty && !isAbsolute path then text "."
  else leadingSlashes path ++ Text.join (text "/") kept

/-- The path under which something is looked for that a path names from some place on: a
path that starts from the root is kept, and any other one is followed. -/
def absolute (base : Place) (path : Text) : Text :=
  if isAbsolute path then tidied path else (follow base path).toText

/-- The path of a place below another path. -/
def below (path : Text) (place : Place) : Text :=
  (if path.endsWith (text "/") then path else path ++ text "/") ++ Text.join (text "/") place

/-- The first fault of the names of a path, which are looked at one after the other from
some place on, each together with all that comes before it. -/
def followFault? (upward : List Text) : List Text → Option DiskFault
  | [] => none
  | name :: names =>
    let next := step upward name
    match (toText next.reverse).pathFault? with
    | some fault => some fault
    | none => followFault? next names

/-- The place that a path leads to from some place, if all of its names can be looked
at. -/
def follow? (base : Place) (path : Text) : Except DiskFault Place :=
  match followFault? (startOf base path).reverse (names path) with
  | some fault => .error fault
  | none => .ok (follow base path)

end Place

end VisibleText
