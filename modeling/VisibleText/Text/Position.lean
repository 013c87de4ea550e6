import VisibleText.Bytes.Utf8
import VisibleText.Text.CodePoint

/-!
# Positions in a text

Where a code point of a text stands in bytes, and in which line.

The code points before a place are counted anew for every question by `Text.byteOffset`. A
`PlaceIndex` counts once for all questions about a text, and not at all where every code point has
one byte.
-/

set_option autoImplicit false

namespace VisibleText

/-- An index that a text does not have. The place behind its last code point counts as
an index. -/
structure IndexError where
  index : Int
  length : Nat
deriving DecidableEq

/-- The wording of an index error. -/
def IndexError.message (e : IndexError) : Text :=
  text "Character index " ++ Text.ofInt e.index ++ text " outside source of length " ++
    Text.ofNat e.length

namespace Text

/-- The byte at which the code point of an index starts. -/
def byteOffset (t : Text) (index : Int) : Except IndexError Nat :=
  if 0 ≤ index ∧ index ≤ t.length then .ok (width (t.take index.toNat))
  else .error ⟨index, t.length⟩

/-- A code point starts behind the bytes of what stands before it. -/
theorem byteOffset_append (u v : Text) : (u ++ v).byteOffset u.length = .ok u.width := by
  have hindex : 0 ≤ (u.length : Int) ∧ (u.length : Int) ≤ (u ++ v).length := by
    rw [List.length_append]
    omega
  rw [byteOffset, if_pos hindex, Int.toNat_natCast, List.take_left]

theorem exists_append_of_byteOffset {t : Text} {index place : Nat}
    (h : t.byteOffset index = .ok place) :
    ∃ u v, t = u ++ v ∧ u.length = index ∧ u.width = place := by
  unfold byteOffset at h
  split at h
  · next hindex =>
    cases h
    refine ⟨t.take index, t.drop index, (List.take_append_drop _ _).symm, ?_, rfl⟩
    rw [List.length_take]
    omega
  · cases h

/-- The line of the code point of an index, counted from one. An index below zero
counts from the end, and one beyond the end is the end. -/
def lineAt (t : Text) (index : Int) : Nat :=
  (t.take (Bytes.place t.length index)).count (.char '\n') + 1

/-- Whether all code points of a text are ASCII, so that each has one byte. -/
def isAscii (t : Text) : Bool := t.all fun c => decide (c.val < 0x80)

/-- The bytes at which the code points of a text start, and the one behind the last of them. -/
def starts (t : Text) : List Nat := (t.map CodePoint.width).scanl (· + ·) 0

@[simp] theorem length_starts (t : Text) : t.starts.length = t.length + 1 := by
  rw [starts, List.length_scanl, List.length_map]

end Text

/-- The places of all code points of one text. Without a table, the place of a code point is its
index. -/
structure PlaceIndex where
  length : Nat
  table? : Option (Vector Nat (length + 1))

namespace PlaceIndex

/-- The places of so many code points of one byte each. -/
def ofLength (length : Nat) : PlaceIndex := ⟨length, none⟩

/-- The places of a text, in a table. -/
def tabulated (t : Text) : PlaceIndex :=
  ⟨t.length, some ⟨t.starts.toArray, by rw [List.size_toArray, Text.length_starts]⟩⟩

/-- The places of a text, in a table unless all of it is ASCII. -/
def ofText (t : Text) : PlaceIndex := if t.isAscii then ofLength t.length else tabulated t

/-- The byte at which the code point of an index starts. -/
def byteOffset (p : PlaceIndex) (index : Int) : Except IndexError Nat :=
  if h : index < 0 ∨ p.length < index then .error ⟨index, p.length⟩
  else
    match p.table? with
    | none => .ok index.toNat
    | some table => .ok (table.get ⟨index.toNat, by omega⟩)

/-- The number of bytes of the whole text. -/
def size (p : PlaceIndex) : Except IndexError Nat := p.byteOffset p.length

end PlaceIndex

end VisibleText
