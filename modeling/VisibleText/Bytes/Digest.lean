import VisibleText.Bytes.Utf8

/-!
# Digests

The SHA-256 digest of some bytes, and the fingerprint of a text, which is the digest of
its UTF-8 form. The bytes are padded to blocks of 64 bytes, and each block is mixed
into eight words of 32 bits.
-/

set_option autoImplicit false

namespace VisibleText

namespace Digest

/-- The words that are added in the 64 rounds: the first 32 bits behind the point of
the cube roots of the first 64 primes. -/
def roundWords : List UInt32 := [
  0x428a2f98, 0x71374491, 0xb5c0fbcf, 0xe9b5dba5, 0x3956c25b, 0x59f111f1,
  0x923f82a4, 0xab1c5ed5, 0xd807aa98, 0x12835b01, 0x243185be, 0x550c7dc3,
  0x72be5d74, 0x80deb1fe, 0x9bdc06a7, 0xc19bf174, 0xe49b69c1, 0xefbe4786,
  0x0fc19dc6, 0x240ca1cc, 0x2de92c6f, 0x4a7484aa, 0x5cb0a9dc, 0x76f988da,
  0x983e5152, 0xa831c66d, 0xb00327c8, 0xbf597fc7, 0xc6e00bf3, 0xd5a79147,
  0x06ca6351, 0x14292967, 0x27b70a85, 0x2e1b2138, 0x4d2c6dfc, 0x53380d13,
  0x650a7354, 0x766a0abb, 0x81c2c92e, 0x92722c85, 0xa2bfe8a1, 0xa81a664b,
  0xc24b8b70, 0xc76c51a3, 0xd192e819, 0xd6990624, 0xf40e3585, 0x106aa070,
  0x19a4c116, 0x1e376c08, 0x2748774c, 0x34b0bcb5, 0x391c0cb3, 0x4ed8aa4a,
  0x5b9cca4f, 0x682e6ff3, 0x748f82ee, 0x78a5636f, 0x84c87814, 0x8cc70208,
  0x90befffa, 0xa4506ceb, 0xbef9a3f7, 0xc67178f2]

/-- The eight words that are being mixed. -/
structure Words where
  a : UInt32
  b : UInt32
  c : UInt32
  d : UInt32
  e : UInt32
  f : UInt32
  g : UInt32
  h : UInt32

/-- The words at the start: the first 32 bits behind the point of the square roots of
the first eight primes. -/
def Words.start : Words where
  a := 0x6a09e667
  b := 0xbb67ae85
  c := 0x3c6ef372
  d := 0xa54ff53a
  e := 0x510e527f
  f := 0x9b05688c
  g := 0x1f83d9ab
  h := 0x5be0cd19

/-- A word with its bits turned to the right by less than 32 places. -/
def turn (x : UInt32) (places : UInt32) : UInt32 := (x >>> places) ||| (x <<< (32 - places))

/-- Sixteen words of a block, and the words that follow from them. Every word depends on
the one two before it, seven, fifteen and sixteen before it; the newest stands first. -/
def schedule : (count : Nat) → (newestFirst : List UInt32) → List UInt32
  | 0, ws => ws
  | count + 1, ws =>
    let word (k : Nat) : UInt32 := ws.getD (k - 1) 0
    let near := word 2
    let far := word 15
    let s₁ := turn near 17 ^^^ turn near 19 ^^^ (near >>> 10)
    let s₀ := turn far 7 ^^^ turn far 18 ^^^ (far >>> 3)
    schedule count ((word 16 + s₀ + word 7 + s₁) :: ws)

/-- One round of mixing. -/
def mix (s : Words) (input : UInt32 × UInt32) : Words :=
  let s₁ := turn s.e 6 ^^^ turn s.e 11 ^^^ turn s.e 25
  let choice := (s.e &&& s.f) ^^^ ((s.e ^^^ 0xffffffff) &&& s.g)
  let t₁ := s.h + s₁ + choice + input.1 + input.2
  let s₀ := turn s.a 2 ^^^ turn s.a 13 ^^^ turn s.a 22
  let majority := (s.a &&& s.b) ^^^ (s.a &&& s.c) ^^^ (s.b &&& s.c)
  ⟨t₁ + (s₀ + majority), s.a, s.b, s.c, s.d + t₁, s.e, s.f, s.g⟩

/-- The words of a block of bytes. -/
def blockWords : Bytes → List UInt32
  | w :: x :: y :: z :: rest =>
    ((w.toUInt32 <<< 24) ||| (x.toUInt32 <<< 16) ||| (y.toUInt32 <<< 8) ||| z.toUInt32) ::
      blockWords rest
  | _ => []

/-- Mixes one block into the words. -/
def mixBlock (s : Words) (block : Bytes) : Words :=
  let ws := (schedule 48 (blockWords block).reverse).reverse
  let t := (roundWords.zip ws).foldl mix s
  ⟨s.a + t.a, s.b + t.b, s.c + t.c, s.d + t.d, s.e + t.e, s.f + t.f, s.g + t.g, s.h + t.h⟩

/-- Mixes some blocks of 64 bytes. -/
def mixBlocks : (blocks : Nat) → Words → Bytes → Words
  | 0, s, _ => s
  | blocks + 1, s, b => mixBlocks blocks (mixBlock s (b.take 64)) (b.drop 64)

/-- The bytes of a number, the highest of them first. -/
def bigEndian : (size n : Nat) → Bytes
  | 0, _ => []
  | size + 1, n => UInt8.ofNat (n / Nat.pow 256 size) :: bigEndian size n

/-- Bytes with a bit, with zeros up to eight bytes before the end of a block, and with
their number of bits. -/
def padded (b : Bytes) : Bytes :=
  b ++ 0x80 :: List.replicate ((119 - b.length % 64) % 64) 0 ++ bigEndian 8 (8 * b.length)

/-- The bytes of eight words. -/
def Words.bytes (s : Words) : Bytes :=
  [s.a, s.b, s.c, s.d, s.e, s.f, s.g, s.h].flatMap fun w => bigEndian 4 w.toNat

end Digest

/-- The SHA-256 digest of some bytes. -/
def Bytes.digest (b : Bytes) : Bytes :=
  let padded := Digest.padded b
  (Digest.mixBlocks (padded.length / 64) Digest.Words.start padded).bytes

/-- The fingerprint of a text in hexadecimal digits; a text without a UTF-8 form has
none. -/
def Text.fingerprint? (t : Text) : Option String := t.encode?.map fun b => b.digest.hex

end VisibleText
