import VisibleText.Bytes.Utf8
import VisibleText.Field.Basic
import VisibleText.Field.OpenTag
import VisibleText.Text.CodePoint
import VisibleText.Text.Search

/-!
# Edits and the bytes that they take

An edit names a field, says what the field holds as far as the editor knows, and what
it should hold. An edit that cannot be carried out safely is dropped with a reason.
-/

set_option autoImplicit false

namespace VisibleText

/-- A proposed change of one field. -/
structure Edit where
  /-- the identifier of the field -/
  id : Text
  oldValue : Text
  newValue : Text
deriving DecidableEq

/-- An edit whose old value is empty puts text into a field that has none. -/
def Edit.isInsertion (e : Edit) : Bool := e.oldValue.isEmpty

/-- Why an edit was not carried out. -/
inductive DropReason where
  /-- the page has no field of that identifier -/
  | unknownField
  /-- text was to be put into a field that has some -/
  | fieldNotEmpty
  /-- the old value is neither at the field nor near it -/
  | notFound
  /-- another edit of the batch takes these bytes -/
  | overlap
  /-- a value cannot be encoded -/
  | invalidText
deriving DecidableEq

/-- The name of a reason in reports. -/
def DropReason.name : DropReason → String
  | unknownField => "unknown_field"
  | fieldNotEmpty => "field_not_empty"
  | notFound => "not_found"
  | overlap => "overlap"
  | invalidText => "invalid_text"

/-- An edit that was not carried out. -/
structure DroppedEdit where
  edit : Edit
  reason : DropReason
deriving DecidableEq

/-- The outcome of a batch of edits. -/
structure Outcome where
  /-- the page with the edits carried out -/
  source : Text
  /-- the identifiers of the edits that were carried out, in the order of the batch -/
  applied : List Text
  dropped : List DroppedEdit
deriving DecidableEq

/-! ## The bytes that an edit takes

An edit of a field takes the bytes of the field if they still spell its old value,
and otherwise the first bytes near the field that do. An insertion takes no bytes and
stands at its field, which must be empty. In the value of an attribute the quote
around it is written as an entity.
-/

/-- The entity for a quote, given as the byte of the quote. -/
def quoteEntity? (quote : UInt8) : Option (CodePoint × Text) :=
  if quote = 0x22 then some (.char '"', text "&quot;")
  else if quote = 0x27 then some (.char '\'', text "&#39;")
  else none

/-- The entity for the quote that stands before a place, if a quote does. -/
def quoteBefore? (b : Bytes) : (start : Nat) → Option (CodePoint × Text)
  | 0 => none
  | n + 1 => b[n]?.bind quoteEntity?

/-- A value as it is written behind a place: the quote before the place is written as
an entity. -/
def escapeQuote (b : Bytes) (start : Nat) (value : Text) : Text :=
  match quoteBefore? b start with
  | none => value
  | some (quote, entity) => value.substitute quote entity

/-- The first place near a given one at which some bytes stand: no more than `reach`
bytes before it, and ending no more than `reach` bytes behind the end that they would
have at the given place. -/
def Bytes.findNear? (b : Bytes) (reach start : Nat) (needle : Bytes) : Option Nat :=
  let first := start - reach
  let stop := min b.length (start + needle.length + reach)
  if stop < first then none
  else (Bytes.find? needle (b.slice ⟨first, stop - first⟩)).map (first + ·)

/-- An edit with the bytes that it takes and what is written there. -/
structure Replacement where
  range : ByteRange
  written : Bytes
  edit : Edit
  /-- the place of the edit in its batch -/
  order : Nat
deriving DecidableEq

/-- The bytes that an edit of a field takes. -/
def Edit.range (b : Bytes) (reach : Nat) (f : Field) (e : Edit) : Except DropReason ByteRange :=
  if e.isInsertion then
    if f.range.length = 0 then .ok ⟨f.range.start, 0⟩ else .error .fieldNotEmpty
  else
    let size := e.oldValue.width
    if b.matchesAt f.range.start e.oldValue then .ok ⟨f.range.start, size⟩
    else
      match b.findNear? reach f.range.start e.oldValue.bytes with
      | some start => .ok ⟨start, size⟩
      | none => .error .notFound

/-- What an edit of a field writes. -/
def Edit.written (b : Bytes) (f : Field) (e : Edit) : Text :=
  match f.kind with
  | .text => e.newValue
  | .attribute => escapeQuote b f.range.start e.newValue

/-- The replacement that an edit is, or why it is dropped. -/
def Edit.resolve (b : Bytes) (reach : Nat) (fields : List Field) (order : Nat) (e : Edit) :
    Except DropReason Replacement :=
  match fields.find? fun f => f.id = e.id with
  | none => .error .unknownField
  | some f =>
    if e.oldValue.hasSurrogate || e.newValue.hasSurrogate then .error .invalidText
    else (e.range b reach f).map fun range => ⟨range, (e.written b f).bytes, e, order⟩

end VisibleText

namespace VisibleText.Bytes

/-! ## Places that count from the end

Places in bytes are natural numbers wherever a document gives them. A place that is given
from outside may be negative and then counts from the end of the bytes. Scans and searches
go on from such a place over the end of the bytes to their start; a scan from before the
first byte is refused. From any other place they do what they always do. Only a text is not
looked for there: nothing stands at a negative place.
-/

/-- The bytes that a scan sees from one place up to another; `none` if the first one lies
before all bytes. -/
def wrapped? (b : Bytes) (start stop : Int) : Option Bytes :=
  if stop ≤ start then some []
  else if 0 ≤ start then some (b.slice ⟨start.toNat, (stop - start).toNat⟩)
  else if start < -b.length then none
  else
    some ((b.drop (start + b.length).toNat).take (stop - start).toNat ++ b.take stop.toNat)

/-- The place behind the opening tag that starts at a place, if the tag ends within
`window` bytes. The outer `none` says that the place lies before all bytes. -/
def openTagEndFrom? (b : Bytes) (window start : Int) : Option (Option Int) := do
  let seen ← b.wrapped? start (min (start + window) b.length)
  return (TagScan.start.length? (seen.map UInt8.toNat)).map (start + ·)

/-- The place of the first byte of the quoted value of an attribute, whose name stands at a
position in the opening tag at `start`. The outer `none` says that the tag lies before all
bytes. -/
def valueStartFrom? (b : Bytes) (window start : Int) (name : Bytes) (position : Int) :
    Option (Option Int) := do
  let stop := (← b.openTagEndFrom? window start).getD (min (start + window) b.length)
  let found := occurrencesFrom name 0 0 false (b.slice (b.between start stop))
  let own := found.find? fun o => start + o.name = position
  return (own.or found.head?).map fun o => start + o.value

/-- The first place near a given one at which some bytes stand. Before the first byte no
bytes are looked at, but an end that lies there counts from the end of the bytes. -/
def findNearFrom? (b : Bytes) (reach : Nat) (start : Int) (needle : Bytes) : Option Nat :=
  if 0 ≤ start then b.findNear? reach start.toNat needle
  else find? needle (b.take (place b.length (min b.length (start + needle.length + reach))))

/-- Whether the bytes at a place read as a given text. -/
def matchesFrom (b : Bytes) (start : Int) (t : Text) : Bool :=
  decide (0 ≤ start) && b.matchesAt start.toNat t

end VisibleText.Bytes
