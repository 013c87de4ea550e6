import VisibleText.Text.CodePoint

/-!
# Texts as bytes

Sources are edited as bytes: every field and every edit is a range of bytes, and an edit is a splice
of such a range. The bytes of a text are its UTF-8 form.
-/

set_option autoImplicit false

namespace VisibleText

/-- A sequence of bytes. -/
abbrev Bytes := List UInt8

/-- A range of bytes, from `start` on for `length` bytes. -/
structure ByteRange where
  start : Nat
  length : Nat
deriving DecidableEq, Repr

namespace ByteRange

/-- The first place after a range. -/
def stop (r : ByteRange) : Nat := r.start + r.length

end ByteRange

namespace Bytes

/-- The bytes of a range; what lies beyond the end is left out. -/
def slice (b : Bytes) (r : ByteRange) : Bytes := (b.drop r.start).take r.length

/-- A bound of a range as a place in `size` bytes: a negative bound counts from the
end, and every bound is held between the two ends. -/
def place (size : Nat) (bound : Int) : Nat :=
  if bound < 0 then (bound + size).toNat else min bound.toNat size

/-- The range between two bounds that may count from the end. -/
def between (b : Bytes) (start stop : Int) : ByteRange :=
  let first := place b.length start
  ⟨first, place b.length stop - first⟩

/-- The bytes with one range replaced. -/
def splice (b : Bytes) (r : ByteRange) (written : Bytes) : Bytes :=
  b.take r.start ++ written ++ b.drop r.stop

/-- How far into some bytes a needle first occurs. -/
def find? (needle : Bytes) : Bytes → Option Nat
  | [] => if needle.isEmpty then some 0 else none
  | x :: b => if needle.isPrefixOf (x :: b) then some 0 else (find? needle b).map (· + 1)

/-- The digit for a number below sixteen. -/
def hexDigit (n : Nat) : Char :=
  if n < 10 then Char.ofNat (0x30 + n) else Char.ofNat (0x57 + n)

/-- Two hexadecimal digits for each byte. -/
def hex (b : Bytes) : String :=
  String.ofList <| b.flatMap fun x => [hexDigit (x.toNat / 16), hexDigit (x.toNat % 16)]

end Bytes

/-! ## UTF-8

The bytes of a text, and the text of some bytes.

Writing is total: a surrogate is written like any other code point of three bytes,
so the number of bytes is the width of the text (`Text.length_bytes`). That form of a
surrogate is not UTF-8, and `Text.encode?` refuses texts that would need it.

Reading goes byte by byte. A character that is damaged ends at the first byte that
cannot continue it, and that byte is read afresh; so every damaged stretch is a
maximal part of some character, or one byte that starts none.
-/

/-- The bytes of a code point. -/
def CodePoint.bytes (c : CodePoint) : Bytes :=
  let n := c.val
  if n < 0x80 then
    [UInt8.ofNat n]
  else if n < 0x800 then
    [UInt8.ofNat (0xC0 + n / 64), UInt8.ofNat (0x80 + n % 64)]
  else if n < 0x10000 then
    [UInt8.ofNat (0xE0 + n / 4096), UInt8.ofNat (0x80 + n / 64 % 64), UInt8.ofNat (0x80 + n % 64)]
  else
    [UInt8.ofNat (0xF0 + n / 262144), UInt8.ofNat (0x80 + n / 4096 % 64),
      UInt8.ofNat (0x80 + n / 64 % 64), UInt8.ofNat (0x80 + n % 64)]

theorem CodePoint.length_bytes (c : CodePoint) : c.bytes.length = c.width := by
  unfold bytes width
  by_cases h₁ : c.val < 0x80
  · simp [h₁]
  · by_cases h₂ : c.val < 0x800
    · simp [h₁, h₂]
    · by_cases h₃ : c.val < 0x10000
      · simp [h₁, h₂, h₃]
      · simp [h₁, h₂, h₃]

namespace Text

/-- The bytes of a text. -/
def bytes (t : Text) : Bytes := t.flatMap CodePoint.bytes

@[simp] theorem bytes_nil : bytes [] = [] := rfl

@[simp] theorem bytes_cons (c : CodePoint) (t : Text) : bytes (c :: t) = c.bytes ++ bytes t := rfl

@[simp] theorem bytes_append (s t : Text) : bytes (s ++ t) = bytes s ++ bytes t := by
  simp [bytes]

theorem length_bytes (t : Text) : (bytes t).length = width t := by
  induction t with
  | nil => rfl
  | cons c t ih => simp [CodePoint.length_bytes, ih]

/-- The UTF-8 form of a text, which one with a surrogate does not have. -/
def encode? (t : Text) : Option Bytes := if hasSurrogate t then none else some (bytes t)

end Text

/-- Why some bytes are not a character. -/
inductive Damage where
  /-- the first byte starts no character -/
  | start
  /-- the byte after them does not continue the character -/
  | continuation
  /-- there are no more bytes -/
  | cutShort
deriving DecidableEq

/-- What reading finds: a character, or bytes that are none. -/
inductive Decoded where
  | character (c : Char)
  | damaged (run : Bytes) (why : Damage)

/-- A character of which some bytes have been read. -/
structure Unfinished where
  /-- the bytes read so far -/
  run : Bytes
  /-- the number that they amount to -/
  value : Nat
  /-- how many bytes are still to come, without the next one -/
  left : Nat
  /-- the least and the greatest byte that may come next -/
  low : UInt8
  high : UInt8

/-- What the first byte of a character says: the character is complete, more bytes
follow, or no character starts with it. -/
def readLead (b : UInt8) : List Decoded × Option Unfinished :=
  if b < 0x80 then ([.character (Char.ofNat b.toNat)], none)
  else if b < 0xC2 then ([.damaged [b] .start], none)
  else if b < 0xE0 then ([], some ⟨[b], b.toNat - 0xC0, 0, 0x80, 0xBF⟩)
  else if b < 0xF0 then
    let low := if b = 0xE0 then 0xA0 else 0x80
    let high := if b = 0xED then 0x9F else 0xBF
    ([], some ⟨[b], b.toNat - 0xE0, 1, low, high⟩)
  else if b < 0xF5 then
    let low := if b = 0xF0 then 0x90 else 0x80
    let high := if b = 0xF4 then 0x8F else 0xBF
    ([], some ⟨[b], b.toNat - 0xF0, 2, low, high⟩)
  else ([.damaged [b] .start], none)

/-- Reads one more byte. -/
def readByte : Option Unfinished → UInt8 → List Decoded × Option Unfinished
  | none, b => readLead b
  | some u, b =>
    if u.low ≤ b && b ≤ u.high then
      let value := u.value * 64 + (b.toNat - 0x80)
      match u.left with
      | 0 => ([.character (Char.ofNat value)], none)
      | left + 1 => ([], some ⟨u.run ++ [b], value, left, 0x80, 0xBF⟩)
    else
      let (found, next) := readLead b
      (.damaged u.run .continuation :: found, next)

/-- Reads the rest of some bytes. -/
def decodeFrom : Option Unfinished → Bytes → List Decoded
  | none, [] => []
  | some u, [] => [.damaged u.run .cutShort]
  | u, b :: bs => let (found, next) := readByte u b; found ++ decodeFrom next bs

/-- The first stretch of bytes that is not UTF-8. -/
structure DecodeFault where
  start : Nat
  run : Bytes
  why : Damage
deriving DecidableEq

/-- The text that was read, as far as it is undamaged, from a given place on. -/
def undamaged : (place : Nat) → List Decoded → Except DecodeFault Text
  | _, [] => .ok []
  | place, .character c :: rest =>
    match undamaged (place + (CodePoint.char c).width) rest with
    | .ok t => .ok (.char c :: t)
    | .error fault => .error fault
  | place, .damaged run why :: _ => .error ⟨place, run, why⟩

namespace Bytes

/-- The text of some bytes, with U+FFFD for every damaged stretch. -/
def decodeLossy (b : Bytes) : Text :=
  (decodeFrom none b).map fun
    | .character c => .char c
    | .damaged _ _ => .replacement

/-- The text of some bytes that must be UTF-8. -/
def decode (b : Bytes) : Except DecodeFault Text := undamaged 0 (decodeFrom none b)

/-- Whether the bytes at a place read as a given text: as many bytes as the text
has are read, damaged stretches as U+FFFD. -/
def matchesAt (b : Bytes) (start : Nat) (t : Text) : Bool :=
  decodeLossy (b.slice ⟨start, t.width⟩) == t

end Bytes

/-- The wording of a fault in some bytes. -/
def DecodeFault.message (f : DecodeFault) : Text :=
  let stretch := match f.run with
    | [b] => text "byte 0x" ++ text (Bytes.hex [b]) ++ text " in position " ++ Text.ofNat f.start
    | run => text "bytes in position " ++ Text.ofNat f.start ++ text "-" ++
        Text.ofNat (f.start + run.length - 1)
  let why := match f.why with
    | .start => "invalid start byte"
    | .continuation => "invalid continuation byte"
    | .cutShort => "unexpected end of data"
  text "'utf-8' codec can't decode " ++ stretch ++ text ": " ++ text why

/-! ## Ends of lines

A line may end in a carriage return, a line feed, or both. Where only the lines matter,
all of them are written as line feeds.
-/

/-- A text with a line feed at each end of a line. -/
def Text.withLineFeeds : Text → Text
  | [] => []
  | .char '\r' :: .char '\n' :: t => .char '\n' :: Text.withLineFeeds t
  | .char '\r' :: t => .char '\n' :: Text.withLineFeeds t
  | c :: t => c :: Text.withLineFeeds t

/-- The text of a file whose ends of lines do not matter. -/
def readLineText (content : Bytes) : Except DecodeFault Text :=
  content.decode.map Text.withLineFeeds

/-! ## Texts for the system

The system knows names and values as bytes, which need not be UTF-8. A byte from 0x80 on
that belongs to no character is then written as a surrogate, and such a surrogate stands
for its byte. No other surrogate stands for anything.

Since two such surrogates may stand for the bytes of a character, a text that the system
has kept may come back as another text; `Text.kept?` is what comes back.
-/

/-- The byte that a surrogate stands for, if it stands for one. -/
def CodePoint.escapedByte? : CodePoint → Option UInt8
  | .char _ => none
  | .surrogate s => if 0x480 ≤ s.val && s.val ≤ 0x4FF then some (UInt8.ofNat (s.val - 0x400)) else none

/-- The surrogate that stands for a byte. -/
def escapedByte (x : UInt8) : CodePoint :=
  (CodePoint.ofNat? (0xDC00 + x.toNat)).getD .replacement

/-- The bytes of a code point for the system. -/
def CodePoint.systemBytes? (c : CodePoint) : Option Bytes :=
  if c.isSurrogate then c.escapedByte?.map fun x => [x] else some c.bytes

/-- Where a text has code points that have no bytes: the first one, and how many
surrogates follow each other from there on. -/
structure EncodeFault where
  place : Nat
  run : Text
deriving DecidableEq

namespace Text

/-- The first stretch of surrogates of a text from a place on, leaving out those that
stand for bytes if they are allowed to. -/
def encodeFaultFrom? (allowed : CodePoint → Bool) (place : Nat) : Text → Option EncodeFault
  | [] => none
  | c :: t =>
    if c.isSurrogate && !allowed c then
      some ⟨place, c :: t.takeWhile CodePoint.isSurrogate⟩
    else encodeFaultFrom? allowed (place + 1) t

/-- Why a text has no UTF-8 form, if it has none. -/
def encodeFault? (t : Text) : Option EncodeFault := encodeFaultFrom? (fun _ => false) 0 t

/-- Why the system cannot be given a text, if it cannot. -/
def systemFault? (t : Text) : Option EncodeFault :=
  encodeFaultFrom? (fun c => c.escapedByte?.isSome) 0 t

/-- The bytes of a text for the system. -/
def systemBytes? (t : Text) : Option Bytes := (t.mapM CodePoint.systemBytes?).map List.flatten

/-- A text as it comes back from the system. -/
def kept? (t : Text) : Option Text := t.systemBytes?.map fun b =>
  (decodeFrom none b).flatMap fun
    | .character c => [.char c]
    | .damaged run _ => run.map escapedByte

end Text

/-- The wording of a fault in a text. -/
def EncodeFault.message (f : EncodeFault) : Text :=
  let stretch :=
    match f.run with
    | [c] => text "character '\\u" ++ hex c ++ text "' in position " ++ Text.ofNat f.place
    | run => text "characters in position " ++ Text.ofNat f.place ++ text "-" ++
        Text.ofNat (f.place + run.length - 1)
  text "'utf-8' codec can't encode " ++ stretch ++ text ": surrogates not allowed"
where
  /-- The four digits of a surrogate in base sixteen. -/
  hex (c : CodePoint) : Text :=
    text (Bytes.hex [UInt8.ofNat (c.val / 256), UInt8.ofNat (c.val % 256)])

end VisibleText
