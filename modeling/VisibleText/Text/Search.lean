import VisibleText.Text.CodePoint

/-!
# Searching and trimming texts

A text is searched for the first occurrence of another one, and every search says what comes before
it and what comes after it. Texts are trimmed and split at blanks.
-/

set_option autoImplicit false

namespace VisibleText.Text

/-! ## Finding one text in another -/

/-- What follows an opening that a text starts with. -/
def after? (opening t : Text) : Option Text := opening.isPrefixOf? t

/-- Whether a text starts with another one. -/
def startsWith (t opening : Text) : Bool := opening.isPrefixOf t

/-- Whether a text ends with another one. -/
def endsWith (t ending : Text) : Bool := ending.reverse.isPrefixOf t.reverse

/-- A text cut at the first occurrence of a mark: what comes before the mark and
what comes after it. -/
def cutAt? (mark : Text) : Text → Option (Text × Text)
  | [] => if mark.isEmpty then some ([], []) else none
  | c :: t =>
    match after? mark (c :: t) with
    | some rest => some ([], rest)
    | none =>
      match cutAt? mark t with
      | some (front, rest) => some (c :: front, rest)
      | none => none

/-- Whether a text occurs in another one. -/
def contains (t mark : Text) : Bool := (cutAt? mark t).isSome

/-- The pieces of a text between the occurrences of one code point. -/
def splitOn (separator : CodePoint) : Text → List Text
  | [] => [[]]
  | c :: t =>
    if c = separator then [] :: splitOn separator t
    else
      match splitOn separator t with
      | [] => [[c]]
      | piece :: pieces => (c :: piece) :: pieces

/-- Every occurrence of one code point written as a text. -/
def substitute (t : Text) (c : CodePoint) (written : Text) : Text :=
  t.flatMap fun d => if d = c then written else [d]

/-- Every occurrence of a mark written as another text, from the first one on. Every step
takes a code point at least, so the length of the text is steps enough. -/
def replacedFrom (mark written : Text) : (steps : Nat) → Text → Text
  | 0, t => t
  | steps + 1, t =>
    match cutAt? mark t with
    | none => t
    | some (front, rest) => front ++ written ++ replacedFrom mark written steps rest

/-- Every occurrence of a mark written as another text. -/
def replaced (mark written t : Text) : Text := replacedFrom mark written t.length t

theorem eq_append_of_after? {opening t rest : Text} (h : after? opening t = some rest) :
    t = opening ++ rest := by
  unfold after? at h
  induction opening generalizing t with
  | nil => exact Option.some.inj h
  | cons c opening ih =>
    cases t with
    | nil => cases h
    | cons d t =>
      change (if c == d then opening.isPrefixOf? t else none) = some rest at h
      split at h
      · next hcd => rw [ih h, beq_iff_eq.1 hcd, List.cons_append]
      · cases h

theorem cutAt?_eq_append {mark t front rest : Text} (h : cutAt? mark t = some (front, rest)) :
    t = front ++ mark ++ rest := by
  induction t generalizing front with
  | nil =>
    unfold cutAt? at h
    split at h
    · next hm => simp_all
    · simp at h
  | cons c t ih =>
    unfold cutAt? at h
    split at h
    · next r hr =>
      simp only [Option.some.injEq, Prod.mk.injEq] at h
      obtain ⟨rfl, rfl⟩ := h
      simpa using eq_append_of_after? hr
    · split at h
      · next f r hr =>
        simp only [Option.some.injEq, Prod.mk.injEq] at h
        obtain ⟨rfl, rfl⟩ := h
        simp [ih hr]
      · simp at h

end VisibleText.Text

namespace VisibleText

/-! ## Blanks

The code points that count as white space: the controls from U+0009 to U+000D and
from U+001C to U+001F, the next-line control, and the spaces and separators of
Unicode. Texts are trimmed and split at them.
-/

/-- Whether a code point is white space. -/
def CodePoint.isBlank (c : CodePoint) : Bool :=
  let n := c.val
  (0x09 ≤ n && n ≤ 0x0D) || (0x1C ≤ n && n ≤ 0x20) || n == 0x85 || n == 0xA0 || n == 0x1680 ||
    (0x2000 ≤ n && n ≤ 0x200A) || n == 0x2028 || n == 0x2029 || n == 0x202F || n == 0x205F ||
    n == 0x3000

namespace Text

/-- Whether a text holds nothing but blanks. -/
def isBlank (t : Text) : Bool := t.all CodePoint.isBlank

/-- A text without the code points at its end that satisfy a test. -/
def dropLastWhile (p : CodePoint → Bool) (t : Text) : Text := (t.reverse.dropWhile p).reverse

/-- A text without the blanks at its start. -/
def trimStart (t : Text) : Text := t.dropWhile CodePoint.isBlank

/-- A text without the blanks at its end. -/
def trimEnd (t : Text) : Text := t.dropLastWhile CodePoint.isBlank

/-- A text without the blanks at both ends. -/
def trim (t : Text) : Text := Text.trimEnd (Text.trimStart t)

/-- The words of a text, with the word that is being read in reverse. -/
def wordsFrom (word : Text) : Text → List Text
  | [] => if word.isEmpty then [] else [word.reverse]
  | c :: t =>
    if c.isBlank then
      if word.isEmpty then wordsFrom [] t else word.reverse :: wordsFrom [] t
    else
      wordsFrom (c :: word) t

/-- The longest runs of a text without blanks, in order. -/
def words (t : Text) : List Text := wordsFrom [] t

end Text

end VisibleText
