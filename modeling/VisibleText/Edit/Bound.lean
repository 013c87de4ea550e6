import VisibleText.Json.Basic
import VisibleText.Text.CodePoint

/-!
# How far is looked

Two searches in the bytes of a page are bounded: the one for the end of an opening tag and the one
for a value that has moved. The first must see at least one byte.
-/

set_option autoImplicit false

namespace VisibleText

/-- The bounds of the searches, in bytes. -/
structure Reach where
  openTag : Nat
  search : Nat
  openTag_pos : 0 < openTag := by decide

/-- The bounds where nothing else is asked for. -/
def Reach.default : Reach where
  openTag := 2000
  search := 200

/-- Why two numbers are no bounds. -/
inductive ReachError where
  | openTagNotPositive
  | searchNegative
deriving DecidableEq

/-- The wording of an error. -/
def ReachError.message : ReachError → Text
  | openTagNotPositive => text "open_tag_window must be positive"
  | searchNegative => text "search_window must not be negative"

/-- The bounds that two integers give. -/
def Reach.ofInts (openTag search : Int) : Except ReachError Reach :=
  if h : 0 < openTag then
    if search < 0 then .error .searchNegative
    else .ok { openTag := openTag.toNat, search := search.toNat, openTag_pos := by omega }
  else
    .error .openTagNotPositive

/-! ## Bounds as they are given

A bound is given as a number of bytes. It may be a number with a point, and such a number
bounds nothing: a search that it would have to cut short cannot be made at all. Where the
search passes both ends of the page anyhow, the number is as good as any other.
-/

/-- A bound as it is given. -/
inductive Bound where
  | whole (n : Int)
  /-- a number with a point -/
  | pointed (x : Binary64)
deriving DecidableEq

namespace Bound

/-- The bound that a value is; a truth value counts as zero or one. -/
def ofJson? : Json → Option Bound
  | .int n => some (.whole n)
  | .bool b => some (.whole (if b then 1 else 0))
  | .float x => some (.pointed x)
  | _ => none

/-- Whether a bound is not zero or less. What is no number at all is not. -/
def isPositive : Bound → Bool
  | .whole n => decide (0 < n)
  | .pointed .nan => true
  | .pointed x => x.isAbove 0

/-- Whether a bound is less than zero. -/
def isNegative : Bound → Bool
  | .whole n => decide (n < 0)
  | .pointed x => x.isBelow 0

/-- How many bytes a bound allows on a page of some size. A number with a point is only
used where it allows more bytes than there are. -/
def extent (size : Nat) : Bound → Nat
  | .whole n => n.toNat
  | .pointed _ => size + 1

theorem extent_pos {b : Bound} (h : b.isPositive = true) (size : Nat) : 0 < b.extent size := by
  cases b with
  | whole n => simp only [isPositive, decide_eq_true_eq] at h; simp only [extent]; omega
  | pointed x => simp [extent]

/-- Whether a scan from a place on can be made with a bound: one with a point has to pass
the end of the page. -/
def allowsScan (size start : Nat) : Bound → Bool
  | .whole _ => true
  | .pointed x => (x.plus start).isAbove size

/-- Whether a search for some bytes near a place can be made with a bound: one with a
point must not end the search before either end of the page. -/
def allowsSearch (size start length : Nat) : Bound → Bool
  | .whole _ => true
  | .pointed x => !x.isBelow start && !(x.plus (start + length)).isBelow size

end Bound

/-- The bounds of both searches. -/
structure Bounds where
  openTag : Bound
  search : Bound
  openTag_positive : openTag.isPositive = true := by decide
  search_not_negative : search.isNegative = false := by decide

namespace Bounds

/-- The bounds that are used if they can be; the bound of opening tags is looked at
first. -/
def ofGiven (openTag search : Bound) : Except ReachError Bounds :=
  if h : openTag.isPositive = true then
    if h' : search.isNegative = false then .ok ⟨openTag, search, h, h'⟩
    else .error .searchNegative
  else .error .openTagNotPositive

/-- How far the searches reach on a page of some size. -/
def reach (b : Bounds) (size : Nat) : Reach where
  openTag := b.openTag.extent size
  search := b.search.extent size
  openTag_pos := Bound.extent_pos b.openTag_positive size

end Bounds

end VisibleText
