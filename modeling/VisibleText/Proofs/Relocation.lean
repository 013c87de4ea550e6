import Mathlib.Order.Bounds.Defs
import VisibleText.Proofs.CutCharacter
import VisibleText.Proofs.Reasons

/-!
# Where a value that has moved is found

A value that no longer stands at its field is looked for in the bytes near the field. The window
that is searched is bounded by bytes, so either end of it may lie within a character. What is found
is exact all the same: the lowest place in the window at which the bytes of the value stand
(`Bytes.findNear?_eq_some_iff_isLeast`), and as UTF-8 synchronises itself, both ends of what stands
there are boundaries of the page (`relocation_isLeast`).
-/

set_option autoImplicit false

namespace VisibleText

namespace Bytes

variable {b needle : Bytes} {reach start place : Nat}

/-- A needle stands at a place in the window around a given place. The window starts `reach` bytes
before the given place, or with the first byte, and ends `reach` bytes behind the end that the
needle would have there, or with the last byte. -/
structure InWindow (b : Bytes) (reach start : Nat) (needle : Bytes) (place : Nat) : Prop where
  low : start - reach ≤ place
  high : place + needle.length ≤ min b.length (start + needle.length + reach)
  slice_eq : b.slice ⟨place, needle.length⟩ = needle

theorem InWindow.prefix_drop (h : b.InWindow reach start needle place) :
    needle <+: b.drop place := by
  have hslice := h.slice_eq
  rw [slice] at hslice
  rw [← hslice]
  exact List.take_prefix _ _

theorem InWindow.le (h : b.InWindow reach start needle place) : place ≤ start + reach := by
  have hhigh := Nat.le_trans h.high (Nat.min_le_right _ _)
  omega

theorem inWindow_of_stands (needle_ne : needle ≠ []) (hlow : start - reach ≤ place)
    (hhigh : place ≤ start + reach) (hstands : needle <+: b.drop place) :
    b.InWindow reach start needle place := by
  have hpos := List.length_pos_iff.2 needle_ne
  have hlength := hstands.length_le
  rw [List.length_drop] at hlength
  exact ⟨hlow, by omega, slice_of_prefix_drop hstands⟩

/-- What stands near a place is what stands in the window around it. -/
theorem standsNear_iff_exists_inWindow (needle_ne : needle ≠ []) :
    b.StandsNear reach start needle ↔ ∃ n, b.InWindow reach start needle n := by
  constructor
  · rintro ⟨n, hlow, hhigh, hstands⟩
    exact ⟨n, inWindow_of_stands needle_ne hlow hhigh hstands⟩
  · rintro ⟨n, hn⟩
    exact ⟨n, hn.low, hn.le, hn.prefix_drop⟩

/-- The search near a place ends at the lowest place of its window at which the needle stands. -/
theorem findNear?_eq_some_iff_isLeast (needle_ne : needle ≠ []) :
    b.findNear? reach start needle = some place ↔
      IsLeast {n | b.InWindow reach start needle n} place := by
  rw [findNear?_eq_some_iff needle_ne]
  constructor
  · intro near
    refine ⟨inWindow_of_stands needle_ne near.low near.high near.stands, fun n hn => ?_⟩
    by_contra hlt
    exact near.first n hn.low (Nat.lt_of_not_le hlt) hn.prefix_drop
  · rintro ⟨hplace, hleast⟩
    refine ⟨hplace.low, hplace.le, hplace.prefix_drop, fun n hlow hlt hstands => ?_⟩
    have hn := inWindow_of_stands needle_ne hlow (Nat.le_trans (Nat.le_of_lt hlt) hplace.le) hstands
    exact Nat.not_le_of_lt hlt (hleast hn)

end Bytes

/-- Where the bytes of a text stand in a page, the text ends at a boundary: else the last of its
bytes would be part of a character that goes on. -/
theorem isBoundary_stop_of_stands {page old : Text} {place : Nat}
    (hpage : page.hasSurrogate = false) (hold : old.hasSurrogate = false) (old_ne : old ≠ [])
    (h : old.bytes <+: page.bytes.drop place) : page.IsBoundary (place + old.width) := by
  have holding := holding_of_prefix old_ne h
  rcases ByteRange.isBoundary_or_cuts holding.boundary holding.stop_le with hstop |
    ⟨read, c, hcuts⟩
  · exact hstop
  · have hslice := Bytes.slice_of_prefix_drop h
    rw [Text.length_bytes] at hslice
    exact absurd hslice (hcuts.slice_ne hpage hold)

/-- Around whatever place a text is looked for, the search finds the lowest place in its window at
which the bytes of the text stand, and nothing if there is none; and what stands there starts and
ends at boundaries of the page, even if the ends of the window do not. -/
theorem relocation_isLeast {page old : Text} (hpage : page.hasSurrogate = false)
    (hold : old.hasSurrogate = false) (old_ne : old ≠ []) (reach start : Nat) :
    (∀ place, page.bytes.findNear? reach start old.bytes = some place ↔
        IsLeast {n | page.bytes.InWindow reach start old.bytes n} place) ∧
      (page.bytes.findNear? reach start old.bytes = none ↔
        ∀ n, ¬ page.bytes.InWindow reach start old.bytes n) ∧
      ∀ place, page.bytes.findNear? reach start old.bytes = some place →
        page.IsBoundary place ∧ page.IsBoundary (place + old.bytes.length) := by
  have needle_ne := Text.bytes_ne_nil old_ne
  refine ⟨fun place => Bytes.findNear?_eq_some_iff_isLeast needle_ne, ?_, fun place hfound => ?_⟩
  · rw [Bytes.findNear?_eq_none_iff needle_ne, Bytes.standsNear_iff_exists_inWindow needle_ne,
      not_exists]
  · have hstands := ((Bytes.findNear?_eq_some_iff needle_ne).1 hfound).stands
    have holding := holding_of_prefix old_ne hstands
    rw [Text.length_bytes]
    exact ⟨holding.boundary, isBoundary_stop_of_stands hpage hold old_ne hstands⟩

/-- A window both ends of which lie within a symbol, and one that is a byte too short. -/
theorem relocation_isLeast_between_symbols : ∃ page old : Text,
    page = text "🎉aé🎉" ∧ old = text "é" ∧
      page.bytes.findNear? 2 4 old.bytes = some 5 ∧ page.bytes.findNear? 0 4 old.bytes = none ∧
      ¬ page.IsBoundary (4 - 2) ∧ ¬ page.IsBoundary (4 + old.bytes.length + 2) ∧
      IsLeast {n | page.bytes.InWindow 2 4 old.bytes n} 5 ∧
      (∀ n, ¬ page.bytes.InWindow 0 4 old.bytes n) ∧
      page.IsBoundary 5 ∧ page.IsBoundary (5 + old.bytes.length) := by
  have hfound : (text "🎉aé🎉").bytes.findNear? 2 4 (text "é").bytes = some 5 := by
    decide +kernel
  have hnone : (text "🎉aé🎉").bytes.findNear? 0 4 (text "é").bytes = none := by
    decide +kernel
  have hfront : ∃ x b, (text "🎉aé🎉").bytes.drop 2 = x :: b ∧ isContinuation x = true :=
    ⟨_, _, rfl, by decide⟩
  have hback : ∃ x b, (text "🎉aé🎉").bytes.drop 8 = x :: b ∧ isContinuation x = true :=
    ⟨_, _, rfl, by decide⟩
  have within {n : Nat}
      (h : ∃ x b, (text "🎉aé🎉").bytes.drop n = x :: b ∧ isContinuation x = true) :
      ¬ (text "🎉aé🎉").IsBoundary n := by
    obtain ⟨x, b, hdrop, hx⟩ := h
    intro hn
    rw [Text.not_continuation_of_drop hn hdrop] at hx
    cases hx
  have hpage : (text "🎉aé🎉").hasSurrogate = false := by decide
  have hold : (text "é").hasSurrogate = false := by decide
  have old_ne : text "é" ≠ [] := by decide
  obtain ⟨hleast, -, hboundary⟩ := relocation_isLeast hpage hold old_ne 2 4
  obtain ⟨-, hnowhere, -⟩ := relocation_isLeast hpage hold old_ne 0 4
  exact ⟨_, _, rfl, rfl, hfound, hnone, within hfront, within hback, (hleast 5).1 hfound,
    hnowhere.1 hnone, hboundary 5 hfound⟩

end VisibleText
