/-!
# Texts as sequences of code points

A text is a list of Unicode code points. Almost all of them are characters, but
text that arrives from outside may hold a surrogate that stands alone, so a code
point is either a character or one of the 2048 surrogates. A surrogate counts
three bytes in every position of this library, like any other code point below
U+10000 and above U+07FF, although UTF-8 has no form for it
(`VisibleText.Text.encode?` refuses it).
-/

set_option autoImplicit false

namespace VisibleText

/-- A Unicode code point: a character, or the surrogate at this distance from
U+D800 standing alone. -/
inductive CodePoint where
  | char (c : Char)
  | surrogate (s : Fin 2048)
deriving DecidableEq, Inhabited

namespace CodePoint

/-- The number of a code point. -/
def val : CodePoint → Nat
  | char c => c.toNat
  | surrogate s => 0xD800 + s.val

/-- The code point with a given number, if there is one. -/
def ofNat? (n : Nat) : Option CodePoint :=
  if h : 0xD800 ≤ n ∧ n < 0xE000 then
    some (surrogate ⟨n - 0xD800, by omega⟩)
  else if n < 0x110000 then
    some (char (Char.ofNat n))
  else
    none

/-- The character U+FFFD, which stands for what could not be decoded. -/
def replacement : CodePoint := char '\uFFFD'

/-- The number of bytes that a code point takes in a position. -/
def width (c : CodePoint) : Nat :=
  if c.val < 0x80 then 1
  else if c.val < 0x800 then 2
  else if c.val < 0x10000 then 3
  else 4

/-- A surrogate has no encoded form. -/
def isSurrogate : CodePoint → Bool
  | char _ => false
  | surrogate _ => true

/-- Whether a code point is one of the given characters. -/
def isAmong (c : CodePoint) (cs : List Char) : Bool :=
  match c with
  | char c => cs.contains c
  | surrogate _ => false

/-- Code points are ordered by their numbers. -/
instance : LT CodePoint := ⟨fun a b => a.val < b.val⟩

instance (a b : CodePoint) : Decidable (a < b) := inferInstanceAs (Decidable (a.val < b.val))

theorem width_pos (c : CodePoint) : 0 < c.width := by
  unfold width
  repeat' split
  all_goals omega

@[simp] theorem width_surrogate (s : Fin 2048) : (surrogate s).width = 3 := by
  have h := s.isLt
  have hv : (surrogate s).val = 0xD800 + s.val := rfl
  unfold width
  rw [if_neg (by omega), if_neg (by omega), if_pos (by omega)]

end CodePoint

/-- A text is a sequence of code points. -/
abbrev Text := List CodePoint

/-- The text of a string. -/
def text (s : String) : Text := s.toList.map CodePoint.char

/-- The text that consists of one line feed. -/
def newline : Text := [.char '\n']

namespace Text

/-- The number of bytes that a text takes in positions. -/
def width (t : Text) : Nat := (t.map CodePoint.width).foldr (· + ·) 0

@[simp] theorem width_nil : width [] = 0 := rfl

@[simp] theorem width_cons (c : CodePoint) (t : Text) : width (c :: t) = c.width + width t := by
  simp [width]

@[simp] theorem width_append (s t : Text) : width (s ++ t) = width s + width t := by
  induction s with
  | nil => simp
  | cons c s ih => rw [List.cons_append, width_cons, ih, width_cons, Nat.add_assoc]

theorem width_pos {t : Text} (h : t ≠ []) : 0 < width t := by
  obtain ⟨c, rest, rfl⟩ := List.exists_cons_of_ne_nil h
  rw [width_cons]
  exact Nat.add_pos_left c.width_pos _

/-- Whether a text holds a surrogate that stands alone. -/
def hasSurrogate (t : Text) : Bool := t.any CodePoint.isSurrogate

/-- The string of a text; a surrogate becomes U+FFFD. -/
def toString (t : Text) : String :=
  String.ofList <| t.map fun
    | .char c => c
    | .surrogate _ => '\uFFFD'

/-- The decimal digits of a number. -/
def ofNat (n : Nat) : Text := text n.repr

/-- The decimal digits of an integer, after a minus sign if it is negative. -/
def ofInt : Int → Text
  | .ofNat n => ofNat n
  | .negSucc n => text "-" ++ ofNat (n + 1)

/-- Texts joined with a separator between neighbours. -/
def join (separator : Text) (ts : List Text) : Text := (ts.intersperse separator).flatten

/-- Lines joined by line feeds. -/
def unlines (ts : List Text) : Text := join newline ts

/-- Whether one text comes before another in the order of code point numbers. -/
def before (s t : Text) : Bool := decide (s < t)

/-- Whether a text comes before another one or is equal to it. -/
def atMost (s t : Text) : Bool := !before t s

end Text

/-- How many calls may stand in each other while something that nests is read or copied. The
stack of a run takes a thousand calls, and about forty of them stand around every reading. What
nests deeper is refused, at a depth that follows from how many calls each level takes. -/
def nestedCalls : Nat := 960

/-! ## Tables of runs of numbers

A Unicode property is a set of code points, and such a set is short when it is
written as runs. A table lists its runs in ascending order, none of them touching
the next, and is searched by halving.
-/

/-- A run of numbers, from the first to the last, each `step` above the one
before. -/
structure Run where
  first : Nat
  last : Nat
  step : Nat := 1
deriving DecidableEq, Inhabited

/-- Whether a run holds a number. -/
def Run.holds (r : Run) (n : Nat) : Bool :=
  decide (r.first ≤ n) && decide (n ≤ r.last) && (n - r.first) % r.step == 0

/-- The entry of a sorted table whose run spans a number, looked for between two
places of the table. Each round halves the gap between the places, so as many
rounds as there are entries are enough. -/
def spanningEntry? {α : Type} (run : α → Run) (table : Array α) (n : Nat) :
    (rounds low high : Nat) → Option α
  | 0, _, _ => none
  | rounds + 1, low, high =>
    if low < high then
      let middle := (low + high) / 2
      match table[middle]? with
      | none => none
      | some entry =>
        if n < (run entry).first then spanningEntry? run table n rounds low middle
        else if (run entry).last < n then spanningEntry? run table n rounds (middle + 1) high
        else some entry
    else
      none

/-- A sorted table of runs. -/
structure RunTable where
  runs : Array Run

/-- A table of runs without gaps, each given by its first and its last number. -/
def RunTable.ofPairs (pairs : Array (Nat × Nat)) : RunTable :=
  ⟨(pairs.toList.map fun p => ⟨p.1, p.2, 1⟩).toArray⟩

/-- Whether some run of a table holds a number. -/
def RunTable.holds (t : RunTable) (n : Nat) : Bool :=
  match spanningEntry? id t.runs n t.runs.size 0 t.runs.size with
  | none => false
  | some r => r.holds n

end VisibleText
