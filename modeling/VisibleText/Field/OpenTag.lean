import VisibleText.Bytes.Utf8

/-!
# Opening tags in bytes

What is looked for in the bytes of an opening tag: where the tag ends, and where the value of one of
its attributes starts.
-/

set_option autoImplicit false

namespace VisibleText

/-! ## Where an opening tag ends

The end of an opening tag is found without reading its parts: it is the first `>`
that stands neither between quotes nor between braces. The characters that matter are
ASCII, so the scan sees the same in the bytes of a tag as in its code points; it is
defined on numbers, and both are numbers.
-/

/-- What encloses a place in an opening tag: an open quote, and so many braces. -/
structure TagScan where
  quote : Option Nat
  braces : Nat
deriving DecidableEq

namespace TagScan

/-- At the start of a tag nothing is open. -/
def start : TagScan := ⟨none, 0⟩

/-- Passes one byte or code point; `none` says that the tag ends with it. Within
quotes only the same quote matters, and a closing brace that closes nothing is
passed over. -/
def pass (s : TagScan) (n : Nat) : Option TagScan :=
  match s.quote with
  | some quote => some (if n = quote then ⟨none, s.braces⟩ else s)
  | none =>
    if n = '"'.toNat || n = '\''.toNat then some ⟨some n, s.braces⟩
    else if n = '{'.toNat then some ⟨none, s.braces + 1⟩
    else if n = '}'.toNat then some ⟨none, s.braces - 1⟩
    else if n = '>'.toNat && s.braces = 0 then none
    else some s

/-- How many numbers a tag takes, if it ends among them. -/
def length? (s : TagScan) : List Nat → Option Nat
  | [] => none
  | n :: ns =>
    match s.pass n with
    | none => some 1
    | some s => (s.length? ns).map (· + 1)

end TagScan

namespace Bytes

/-- The place behind the opening tag that starts at a place, if the tag ends within
`window` bytes. -/
def openTagEnd? (b : Bytes) (window : Int) (start : Nat) : Option Nat :=
  let seen := (b.drop start).take window.toNat
  (TagScan.start.length? (seen.map UInt8.toNat)).map (start + ·)

end Bytes

end VisibleText

namespace VisibleText.Bytes

/-! ## Where the value of an attribute starts

A document knows where the name of an attribute stands, not where its value does. The
value is found in the bytes of the opening tag: behind a blank, the name, an equals
sign with blanks around it, and a quote. The name may look like an attribute in other
places of the tag too, so the occurrence at the position of the attribute is taken if
there is one, and the first occurrence otherwise.
-/

/-- The blanks of ASCII. -/
def isAsciiBlank (x : UInt8) : Bool := x == 0x20 || (0x09 ≤ x && x ≤ 0x0D)

/-- How many bytes the start of a quoted value takes, from its name through its
opening quote, if it stands at the start of some bytes. -/
def quotedStart? (name b : Bytes) : Option Nat := do
  let rest ← name.isPrefixOf? b
  match rest.dropWhile isAsciiBlank with
  | 0x3D :: rest =>
    match rest.dropWhile isAsciiBlank with
    | quote :: rest => if quote = 0x22 || quote = 0x27 then some (b.length - rest.length) else none
    | [] => none
  | _ => none

/-- An occurrence of a name before a quoted value: where the name starts, and where
the value does. -/
structure Occurrence where
  name : Nat
  value : Nat
deriving DecidableEq

/-- The occurrences of a name before quoted values, each behind a blank, from a place
on. `passed` counts the bytes that belong to an occurrence that was found. -/
def occurrencesFrom (name : Bytes) :
    (place passed : Nat) → (behindBlank : Bool) → Bytes → List Occurrence
  | _, _, _, [] => []
  | place, passed + 1, _, x :: b => occurrencesFrom name (place + 1) passed (isAsciiBlank x) b
  | place, 0, behindBlank, x :: b =>
    match if behindBlank then quotedStart? name (x :: b) else none with
    | some size =>
      ⟨place, place + size⟩ :: occurrencesFrom name (place + 1) (size - 1) (isAsciiBlank x) b
    | none => occurrencesFrom name (place + 1) 0 (isAsciiBlank x) b

/-- The bytes of the opening tag at a place, or as many as the window holds if the tag
does not end in it. -/
def openTag (b : Bytes) (window : Int) (start : Nat) : Bytes :=
  match b.openTagEnd? window start with
  | some stop => b.slice ⟨start, stop - start⟩
  | none => b.slice ⟨start, window.toNat⟩

/-- The place of the first byte of the quoted value of an attribute, whose name stands
at a position in the opening tag at `start`. -/
def valueStart? (b : Bytes) (window : Int) (start : Nat) (name : Bytes) (position : Nat) :
    Option Nat :=
  let found := occurrencesFrom name start 0 false (b.openTag window start)
  let own := found.find? fun o => o.name = position
  (own.or found.head?).map Occurrence.value

end VisibleText.Bytes
