import VisibleText.Text.Column

/-!
# Text with spans

A shown text has spans, each of which asks for a style for a part of the text. When a text is
divided, a part keeps what the spans have in common with it; a span that has nothing in
common with any part is lost, and so is one that is empty. A text that is not divided
keeps all of its spans.
-/

set_option autoImplicit false

namespace VisibleText.Console

/-- A part of a text, from one place up to another, with the style it asks for. -/
structure Span where
  first : Nat
  last : Nat
  style : Text
deriving DecidableEq

namespace Span

/-- What a span has in common with a part of the text, with places in that part. -/
def within? (s : Span) (first last : Nat) : Option Span :=
  let front := s.first - first
  let back := min s.last last - first
  if front < back then some { s with first := front, last := back } else none

/-- A span of a text of which only the start is left. -/
def cropped? (s : Span) (size : Nat) : Option Span :=
  if s.first < size then some { s with last := min s.last size } else none

/-- A span behind so many code points. -/
def behind (s : Span) (size : Nat) : Span :=
  { s with first := s.first + size, last := s.last + size }

end Span

/-- A text with its spans. -/
structure SpannedText where
  text : Text
  spans : List Span
deriving DecidableEq

namespace SpannedText

/-- A text without spans. -/
def plain (t : Text) : SpannedText := ⟨t, []⟩

/-- A text behind another one. -/
def append (s t : SpannedText) : SpannedText :=
  ⟨s.text ++ t.text, s.spans ++ t.spans.map fun span => span.behind s.text.length⟩

/-- The part of a text from one place up to another. -/
def part (s : SpannedText) (first last : Nat) : SpannedText :=
  ⟨(s.text.take last).drop first, s.spans.filterMap fun span => span.within? first last⟩

/-- The parts of a text of some sizes, from a place on, with a gap behind each of them. -/
def partsFrom (s : SpannedText) (gap : Nat) : (first : Nat) → (sizes : List Nat) →
    List SpannedText
  | _, [] => []
  | first, size :: sizes =>
    s.part first (first + size) :: s.partsFrom gap (first + size + gap) sizes

/-- A text divided into texts of some sizes with a gap between them. -/
def divided (s : SpannedText) (gap : Nat) (sizes : List Nat) : List SpannedText :=
  if sizes.length ≤ 1 then [s] else s.partsFrom gap 0 sizes

/-- The lines of a text. -/
def lines (s : SpannedText) : List SpannedText :=
  s.divided 1 ((s.text.splitOn (.char '\n')).map List.length)

/-- A text of which only the start is left, if it is longer. -/
def cropped (s : SpannedText) (size : Nat) : SpannedText :=
  if size < s.text.length then ⟨s.text.take size, s.spans.filterMap fun span => span.cropped? size⟩
  else s

/-! ## Tabs -/

/-- Parts that end in tabs, but for the last one, joined with blanks for the tabs. A span up
to the end of a part goes on to the stop. -/
def joinedAtStops (column : Nat) : List SpannedText → SpannedText
  | [] => plain []
  | [last] => last
  | part :: parts =>
    let t := part.text.dropLast ++ [.char ' ']
    let column := column + Text.columns t
    let behind := Text.blanksToStop column
    let spans := part.spans.map fun span =>
      if t.length ≤ span.last then { span with last := span.last + behind } else span
    append ⟨t ++ List.replicate behind (.char ' '), spans⟩
      (joinedAtStops (column + behind) parts)

/-- The sizes of the parts of a line, each but the last with the tab behind it. -/
def tabbedSizes (line : Text) : List Nat :=
  match (line.splitOn (.char '\t')).map List.length with
  | [] => []
  | sizes => sizes.dropLast.map (· + 1) ++ sizes.getLast?.toList

/-- A line with blanks for its tabs. -/
def withoutTabs (s : SpannedText) : SpannedText :=
  joinedAtStops 0 (s.divided 0 (tabbedSizes s.text))

/-- The lines of a text with blanks for their tabs. -/
def shownLines (s : SpannedText) : List SpannedText := s.lines.map withoutTabs

/-! ## Lines that fit -/

/-- A line cut off with an ellipsis if it takes too many columns. -/
def cutOff (width : Nat) (s : SpannedText) : SpannedText :=
  let t := Text.cutOff width s.text
  { s.cropped t.length with text := t }

/-- The lines that one line makes between words. A line that is still too long is cut
off. -/
def fitted (width : Nat) (s : SpannedText) : List SpannedText :=
  (s.divided 0 ((Text.broken width s.text).map List.length)).map fun line =>
    cutOff width (line.cropped (Text.withoutExcess width line.text).length)

end SpannedText

end VisibleText.Console
