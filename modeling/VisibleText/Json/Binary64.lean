import VisibleText.Text.CodePoint

/-!
# Binary64 numbers

A number with a fraction or an exponent is kept as the nearest binary64 number: a
mantissa below 2⁵³ times a power of two. Reading rounds the exact decimal to it, a
tie going to the even mantissa. Writing takes the fewest decimal digits that read
back as the same number. Both work in exact arithmetic on natural numbers.
-/

set_option autoImplicit false

namespace VisibleText

/-- A binary64 number. A finite one is its mantissa times two to its exponent. -/
inductive Binary64 where
  | finite (negative : Bool) (mantissa : Nat) (exponent : Int)
  | infinite (negative : Bool)
  | nan
deriving DecidableEq

namespace Binary64

/-- The least exponent. -/
def leastExponent : Int := -1074

/-- The greatest exponent. -/
def greatestExponent : Int := 971

/-- A ratio as numerator and denominator after a multiplication with a power of a
base. -/
def scale (base : Nat) (power : Int) (num den : Nat) : Nat × Nat :=
  match power with
  | .ofNat k => (num * Nat.pow base k, den)
  | .negSucc k => (num, den * Nat.pow base (k + 1))

/-- The whole number nearest to a ratio; a tie goes to the even one. -/
def roundHalfEven (num den : Nat) : Nat :=
  let q := num / den
  let twice := 2 * (num % den)
  if twice < den then q
  else if den < twice then q + 1
  else if q % 2 = 0 then q else q + 1

/-- The exponent of the number nearest to a positive ratio: the one that leaves a
mantissa of 53 bits, but not less than the least one. -/
def exponentOf (num den : Nat) : Int :=
  let guess : Int := (num.log2 : Int) - (den.log2 : Int) - 52
  let (n, d) := scale 2 (-guess) num den
  let exact := if n / d < Nat.pow 2 52 then guess - 1 else guess
  max exact leastExponent

/-- The binary64 number nearest to a ratio. -/
def ofRatio (negative : Bool) (num den : Nat) : Binary64 :=
  if num = 0 then .finite negative 0 leastExponent
  else
    let exponent := exponentOf num den
    let (n, d) := scale 2 (-exponent) num den
    let mantissa := roundHalfEven n d
    let (mantissa, exponent) :=
      if mantissa = Nat.pow 2 53 then (Nat.pow 2 52, exponent + 1) else (mantissa, exponent)
    if greatestExponent < exponent then .infinite negative else .finite negative mantissa exponent

/-- The binary64 number nearest to some digits times a power of ten. Far outside the
range the power is not worked out. -/
def ofDecimal (negative : Bool) (digits : Nat) (power : Int) : Binary64 :=
  if digits = 0 then .finite negative 0 leastExponent
  else
    let places : Int := power + digits.repr.length
    if places < -400 then .finite negative 0 leastExponent
    else if 400 < places then .infinite negative
    else
      let (num, den) := scale 10 power digits 1
      ofRatio negative num den

/-- Whether a number is whole. -/
def isWhole : Binary64 → Bool
  | .finite _ mantissa exponent =>
    match exponent with
    | .ofNat _ => true
    | .negSucc k => mantissa % Nat.pow 2 (k + 1) = 0
  | _ => false

/-- The whole part of a number, toward zero. -/
def truncated : Binary64 → Int
  | .finite negative mantissa exponent =>
    let (num, den) := scale 2 exponent mantissa 1
    let whole : Int := (num / den : Nat)
    if negative then -whole else whole
  | _ => 0

/-- A number as a ratio with its sign. -/
def signedRatio (negative : Bool) (mantissa : Nat) (exponent : Int) : Int × Nat :=
  let (num, den) := scale 2 exponent mantissa 1
  (if negative then -(num : Int) else num, den)

/-- The number nearest to the sum of a number and a whole one. -/
def plus (x : Binary64) (n : Nat) : Binary64 :=
  match x with
  | .finite negative mantissa exponent =>
    let (num, den) := signedRatio negative mantissa exponent
    let total := num + n * den
    ofRatio (total < 0) total.natAbs den
  | x => x

/-- Whether a number is greater than a whole one. -/
def isAbove (x : Binary64) (n : Int) : Bool :=
  match x with
  | .finite negative mantissa exponent =>
    let (num, den) := signedRatio negative mantissa exponent
    n * den < num
  | .infinite negative => !negative
  | .nan => false

/-- Whether a number is less than a whole one. -/
def isBelow (x : Binary64) (n : Int) : Bool :=
  match x with
  | .finite negative mantissa exponent =>
    let (num, den) := signedRatio negative mantissa exponent
    num < n * den
  | .infinite negative => negative
  | .nan => false

/-! ## The fewest digits -/

/-- The place of the first decimal digit of a positive ratio, found upwards from a
place that is not above it. -/
def decadeFrom (num den : Nat) : (rounds : Nat) → Int → Int
  | 0, place => place
  | rounds + 1, place =>
    let (n, d) := scale 10 (-(place + 1)) num den
    if d ≤ n then decadeFrom num den rounds (place + 1) else place

/-- The place of the first decimal digit of a positive ratio: the greatest power of
ten that is not above it. -/
def decade (num den : Nat) : Int :=
  let guess : Int := ((num.log2 : Int) - (den.log2 : Int) - 1) * 30103 / 100000 - 1
  decadeFrom num den 4 guess

/-- Whether a ratio lies between the two ends of an interval, which are ratios with
one denominator. -/
def within (inclusive : Bool) (low high den : Nat) (num' den' : Nat) : Bool :=
  let n := num' * den
  if inclusive then low * den' ≤ n && n ≤ high * den' else low * den' < n && n < high * den'

/-- Of the two neighbours of a number on the grid of decimals with a last place, the
nearer one that reads back as the number, as a count of units of that place. -/
def onGrid? (inclusive : Bool) (low value high den : Nat) (lastPlace : Int) : Option Nat :=
  let (n, d) := scale 10 (-lastPlace) value den
  let below := n / d
  let hits (k : Nat) : Bool :=
    let (num', den') := scale 10 lastPlace k 1
    within inclusive low high den num' den'
  match hits below, hits (below + 1) with
  | true, true => some (roundHalfEven n d)
  | true, false => some below
  | false, true => some (below + 1)
  | false, false => none

/-- The digits of the first grid that has a hit, starting with grids of `count`
digits, and the place of the last digit. -/
def firstHit (inclusive : Bool) (low value high den : Nat) (first : Int) :
    (grids count : Nat) → Nat × Int
  | 0, _ => (value, 0)
  | grids + 1, count =>
    let lastPlace := first - count + 1
    match onGrid? inclusive low value high den lastPlace with
    | some units => (units, lastPlace)
    | none => firstHit inclusive low value high den first grids (count + 1)

/-- The fewest decimal digits that read back as a number, and the place of the last
one. The interval of what reads back reaches halfway to the neighbours of the
number; below a power of two the neighbour is only half as far. -/
def shortest (mantissa : Nat) (exponent : Int) : Nat × Int :=
  let narrow := mantissa = Nat.pow 2 52 && leastExponent < exponent
  let (value, den) := scale 2 exponent (4 * mantissa) 4
  let unit := value / mantissa
  let low := value - (if narrow then unit / 4 else unit / 2)
  let high := value + unit / 2
  firstHit (mantissa % 2 = 0) low value high den (decade value den) 17 1

/-- Digits without the zeros at their end, and the place of the last one left. -/
def withoutZeros : (rounds : Nat) → Nat × Int → Nat × Int
  | 0, found => found
  | rounds + 1, (digits, place) =>
    if digits ≠ 0 && digits % 10 = 0 then withoutZeros rounds (digits / 10, place + 1)
    else (digits, place)

/-- Where the text of a number changes form: from the sixteenth place before the
point and from the fifth place behind it, it has an exponent of at least two
digits. -/
def positional (first : Int) : Bool := -4 ≤ first && first < 16

/-- The text of a positive number from its digits and the place of the last one. -/
def digitsText (digits : Nat) (last : Int) : String :=
  let ds := digits.repr
  let first : Int := last + ds.length - 1
  if positional first then
    if 0 ≤ last then ds ++ String.ofList (List.replicate last.toNat '0') ++ ".0"
    else if 0 ≤ first then
      let whole := (first + 1).toNat
      String.ofList (ds.toList.take whole) ++ "." ++ String.ofList (ds.toList.drop whole)
    else "0." ++ String.ofList (List.replicate (-first - 1).toNat '0') ++ ds
  else
    let fraction := ds.toList.drop 1
    let mantissa :=
      String.ofList (ds.toList.take 1) ++
        if fraction.isEmpty then "" else "." ++ String.ofList fraction
    let size := first.natAbs.repr
    mantissa ++ "e" ++ (if first < 0 then "-" else "+") ++
      (if size.length < 2 then "0" ++ size else size)

/-- The text of a number: the fewest digits that read back as it. -/
def shown : Binary64 → String
  | .nan => "nan"
  | .infinite negative => if negative then "-inf" else "inf"
  | .finite negative mantissa exponent =>
    let sign := if negative then "-" else ""
    if mantissa = 0 then sign ++ "0.0"
    else
      let (digits, last) := withoutZeros 17 (shortest mantissa exponent)
      sign ++ digitsText digits last

end Binary64

end VisibleText

namespace VisibleText.Binary64

/-! ## Numbers with a given number of digits

A number may be written with so many places behind the point, with so many behind the
first digit and an exponent, or in whichever of the two forms is shorter. The exact
value is rounded, and a tie goes to the even neighbour.
-/

/-- The size of a finite number as a ratio. -/
def ratio (mantissa : Nat) (exponent : Int) : Nat × Nat := scale 2 exponent mantissa 1

/-- Digits with a point before the last `places` of them. A point without places behind
it is written only if it is asked for. -/
def pointed (keepPoint : Bool) (places digits : Nat) : String :=
  let ds := (digits.repr).toList
  let ds := List.replicate (places + 1 - ds.length) '0' ++ ds
  let whole := String.ofList (ds.take (ds.length - places))
  if places = 0 then whole ++ (if keepPoint then "." else "")
  else whole ++ "." ++ String.ofList (ds.drop (ds.length - places))

/-- A ratio with so many places behind the point. -/
def fixedText (keepPoint : Bool) (places num den : Nat) : String :=
  pointed keepPoint places (roundHalfEven (num * Nat.pow 10 places) den)

/-- A ratio as digits, one of them before the point and `places` behind it, and the
exponent of the first one. -/
def leading (places num den : Nat) : Nat × Int :=
  if num = 0 then (0, 0)
  else
    let first := decade num den
    let (n, d) := scale 10 ((places : Int) - first) num den
    let digits := roundHalfEven n d
    if digits = Nat.pow 10 (places + 1) then (Nat.pow 10 places, first + 1) else (digits, first)

/-- An exponent, with its sign and at least two digits. -/
def exponentText (exponent : Int) : String :=
  let size := exponent.natAbs.repr
  "e" ++ (if exponent < 0 then "-" else "+") ++ (if size.length < 2 then "0" ++ size else size)

/-- A ratio with an exponent and so many places behind the first digit. -/
def scientificText (keepPoint : Bool) (places num den : Nat) : String :=
  let (digits, exponent) := leading places num den
  pointed keepPoint places digits ++ exponentText exponent

/-- A text with a point without the zeros at its end, and without the point if it comes
to stand there. -/
def withoutPointZeros (s : String) : String :=
  let cs := s.toList
  if cs.contains '.' then
    let kept := cs.reverse.dropWhile (· == '0')
    String.ofList (match kept with
      | '.' :: rest => rest.reverse
      | kept => kept.reverse)
  else s

/-- A ratio with so many digits: positional unless its exponent is below -4 or not
below the number of digits. The zeros at the end are left out unless the point is to
be kept. -/
def generalText (keepPoint : Bool) (digits num den : Nat) : String :=
  let digits := if digits = 0 then 1 else digits
  let (kept, exponent) := leading (digits - 1) num den
  let tidy (s : String) : String := if keepPoint then s else withoutPointZeros s
  if exponent < -4 ∨ (digits : Int) ≤ exponent then
    tidy (pointed keepPoint (digits - 1) kept) ++ exponentText exponent
  else
    tidy (fixedText keepPoint ((digits : Int) - 1 - exponent).toNat num den)

end VisibleText.Binary64
