import VisibleText.Edit.Bound
import VisibleText.Edit.Draft
import VisibleText.Edit.Resolve
import VisibleText.Field.Extract

/-!
# Carrying out a batch of edits

A page is never written anew: every edit becomes a splice of the bytes that it takes,
and all other bytes stay as they are. The splices go from the end of the page to its
start, so a splice does not move the bytes that later ones take. An edit that would
take bytes of one that was carried out before is dropped.
-/

set_option autoImplicit false

namespace VisibleText

open VisibleText.Markup (ParseError)

/-- Why a page could not be edited at all. -/
inductive EditError where
  | parse (e : ParseError)
  /-- the page holds a surrogate, so it has no bytes -/
  | unencodable
  /-- the bytes that came out are no text -/
  | undecodable (fault : DecodeFault)
deriving DecidableEq

/-- The fields of a page. -/
def Field.ofPage (window : Int) (source : Text) : Except EditError (List Field) :=
  match Document.parse source with
  | .error e => .error (.parse e)
  | .ok document =>
    match source.encode? with
    | none => .error .unencodable
    | some bytes =>
      match Field.ofDocument? ⟨bytes, window⟩ document with
      | none => .error .unencodable
      | some fields => .ok fields

/-- Each edit of a batch with its place in the batch, resolved. -/
def resolveAll (b : Bytes) (reach : Nat) (fields : List Field) (batch : List Edit) :
    List (Edit × Except DropReason Replacement) :=
  batch.zipIdx.map fun (e, order) => (e, e.resolve b reach fields order)

/-- The edits that take bytes. -/
def resolved (found : List (Edit × Except DropReason Replacement)) : List Replacement :=
  found.filterMap fun (_, result) =>
    match result with
    | .ok r => some r
    | .error _ => none

/-- The edits that take none, with the reasons. -/
def unresolved (found : List (Edit × Except DropReason Replacement)) : List DroppedEdit :=
  found.filterMap fun (e, result) =>
    match result with
    | .ok _ => none
    | .error reason => some ⟨e, reason⟩

/-- Replacements from the highest start to the lowest. Those that start at one place
stay in their order. -/
def fromTheEnd (rs : List Replacement) : List Replacement :=
  rs.mergeSort fun a b => b.range.start ≤ a.range.start

/-- Whether a replacement would take bytes at or behind a place, where another one
starts. -/
def Replacement.reaches (r : Replacement) (bound : Nat) : Bool :=
  bound < r.range.stop || r.range.start = bound

/-- Goes through replacements from the end of the page and keeps each that ends before
the last one kept. The others are the second component. -/
def keepApart : (bound : Option Nat) → List Replacement → List Replacement × List Replacement
  | _, [] => ([], [])
  | bound, r :: rs =>
    if bound.any r.reaches then
      let (kept, others) := keepApart bound rs
      (kept, r :: others)
    else
      let (kept, others) := keepApart (some r.range.start) rs
      (r :: kept, others)

/-- The bytes of a page with replacements carried out one after the other. -/
def spliceAll (b : Bytes) (rs : List Replacement) : Bytes :=
  rs.foldl (fun b r => b.splice r.range r.written) b

/-- Carries out edits on the bytes of a page with known fields. -/
def applyTo (b : Bytes) (reach : Nat) (fields : List Field) (batch : List Edit) :
    Except EditError Outcome :=
  let found := resolveAll b reach fields batch
  let (kept, others) := keepApart none (fromTheEnd (resolved found))
  match (spliceAll b kept).decode with
  | .error fault => .error (.undecodable fault)
  | .ok source => .ok
    { source := source
      applied := (kept.mergeSort fun a b => a.order ≤ b.order).map fun r => r.edit.id
      dropped := unresolved found ++ others.map fun r => ⟨r.edit, .overlap⟩ }

/-- Carries out a batch of edits on a page. The fields are looked for afresh, so an
edit that was made from an older state of the page does no harm. -/
def applyEdits (reach : Reach) (source : Text) (batch : List Edit) : Except EditError Outcome := do
  let fields ← Field.ofPage reach.openTag source
  applyTo source.bytes reach.search fields batch

/-! ## Carrying out drafts

Drafts are carried out like edits, one batch at a time. A draft of a field that is not on
the page is dropped whatever its values are. A draft of a field that is there breaks off
the batch if one of its values is no text, and so does one whose old value would have to
be looked for within a bound that allows no search. Nothing of a batch that breaks off is
carried out.

The outcome shows the drafts that were dropped as they arrived.
-/

/-- Why a batch of drafts breaks off. -/
inductive DraftError where
  | edit (e : EditError)
  /-- an opening tag cannot be scanned within the bound -/
  | scanBound
  /-- a value cannot be looked for within the bound -/
  | searchBound
  /-- a value is no text, but a value of another kind -/
  | notText (kind : String)
deriving DecidableEq

/-- Whether the opening tags of a page can be scanned within a bound. -/
def Bound.allowsScans (source : Text) (openTag : Bound) : Bool :=
  match openTag with
  | .whole _ => true
  | .pointed _ =>
    match Document.parse source with
    | .error _ => true
    | .ok d => (Field.scans d).all fun start => openTag.allowsScan source.width start

/-- The fields of a page, whose opening tags are scanned within a bound. -/
def Field.ofPageWithin (openTag : Bound) (source : Text) : Except DraftError (List Field) := do
  let fields ← (Field.ofPage (openTag.extent source.width) source).mapError .edit
  if openTag.allowsScans source then return fields else .error .scanBound

namespace EditDraft

/-- Why a draft of a field breaks off its batch, if its values are texts: its old value
has to be looked for and cannot be. -/
def searchFault? (b : Bytes) (search : Bound) (f : Field) (e : Edit) : Option DraftError :=
  if e.isInsertion || b.matchesAt f.range.start e.oldValue ||
      search.allowsSearch b.length f.range.start e.oldValue.width then none
  else some .searchBound

/-- Why a draft breaks off its batch, if it does. The old value is looked at first; if it
has no bytes, the new value does not matter. -/
def fault? (b : Bytes) (search : Bound) (fields : List Field) (d : EditDraft) :
    Option DraftError :=
  match fields.find? fun f => f.id = d.id with
  | none => none
  | some f =>
    match d.oldValue, d.newValue with
    | .string oldValue, newValue =>
      if oldValue.hasSurrogate then none
      else
        match newValue with
        | .string t => if t.hasSurrogate then none else searchFault? b search f d.toEdit
        | other => some (.notText other.kindName)
    | other, _ => some (.notText other.kindName)

end EditDraft

/-- A draft that was not carried out. -/
structure DroppedDraft where
  draft : EditDraft
  reason : DropReason

/-- The outcome of a batch of drafts. -/
structure DraftOutcome where
  /-- the page with the drafts carried out -/
  source : Text
  /-- the identifiers of the drafts that were carried out, in the order of the batch -/
  applied : List Text
  dropped : List DroppedDraft

/-- The drafts that take no bytes, with the reasons. -/
def unresolvedDrafts (drafts : List EditDraft)
    (found : List (Edit × Except DropReason Replacement)) : List DroppedDraft :=
  (drafts.zip found).filterMap fun (draft, _, result) =>
    match result with
    | .ok _ => none
    | .error reason => some ⟨draft, reason⟩

/-- Carries out drafts that do not break off on the bytes of a page with known fields. The
drafts that take no bytes are dropped before those that take bytes of others. -/
def applyDraftsTo (b : Bytes) (reach : Nat) (fields : List Field) (drafts : List EditDraft) :
    Except EditError DraftOutcome := do
  let edits := drafts.map EditDraft.toEdit
  let outcome ← applyTo b reach fields edits
  let unresolved := unresolvedDrafts drafts (resolveAll b reach fields edits)
  let overlapping := outcome.dropped.drop unresolved.length
  return {
    source := outcome.source
    applied := outcome.applied
    dropped := unresolved ++ overlapping.map fun d => ⟨.ofEdit d.edit, d.reason⟩ }

/-- Carries out a batch of drafts on a page. -/
def applyDrafts (bounds : Bounds) (source : Text) (drafts : List EditDraft) :
    Except DraftError DraftOutcome := do
  let fields ← Field.ofPageWithin bounds.openTag source
  let b := source.bytes
  match drafts.findSome? fun d => d.fault? b bounds.search fields with
  | some e => .error e
  | none => (applyDraftsTo b (bounds.reach b.length).search fields drafts).mapError .edit

/-! ## Editing sessions

An editor works on a page step by step: it asks for the fields, remembers them, and
sends edits that refer to what it remembers. What it remembers is renewed only when it
asks again, so its edits may be stale.

The bounds of the searches are given with each step and are looked at when the step needs
them: asking for the fields needs the bound of opening tags, and only once the page has
been read.
-/

/-- A page that is being edited, and the fields that the editor remembers. -/
structure Session where
  source : Text
  fields : List Field

/-- An edit of the field that the editor remembers at a place. -/
structure RememberedEdit where
  index : Int
  newValue : Json
  /-- the value of the field as remembered, if nothing else is given -/
  oldValue : Option Json

/-- A step of a session. -/
inductive SessionStep where
  | extract
  | setSource (source : Text)
  /-- edits as they arrive -/
  | apply (edits : List Json)
  | editFields (edits : List RememberedEdit)

/-- What a step answers. -/
inductive SessionAnswer where
  | fields (fields : List Field)
  | source (source : Text)
  | outcome (outcome : DraftOutcome)

/-- Why a step fails. -/
inductive SessionError where
  | reach (e : ReachError)
  | batch (e : BatchError)
  | draft (e : DraftError)

/-- Carries out edits as they arrive, within bounds as they are given. The bounds are
looked at first, then the shapes of the edits, then the page. -/
def applyGiven (openTag search : Bound) (source : Text)
    (drafts : Except BatchError (List EditDraft)) : Except SessionError DraftOutcome := do
  let bounds ← (Bounds.ofGiven openTag search).mapError .reach
  let drafts ← drafts.mapError .batch
  (applyDrafts bounds source drafts).mapError .draft

/-- The fields of a page within a bound as it is given. The page is read first. -/
def fieldsGiven (openTag : Bound) (source : Text) : Except SessionError (List Field) :=
  match Document.parse source with
  | .error e => .error (.draft (.edit (.parse e)))
  | .ok _ =>
    if openTag.isPositive then (Field.ofPageWithin openTag source).mapError .draft
    else .error (.reach .openTagNotPositive)

namespace Session

/-- A session starts with a page and remembers nothing. -/
def start (source : Text) : Session := ⟨source, []⟩

/-- The draft that a remembered edit is. Places are counted around the fields that are
remembered, so each place is one of them if there are any. -/
def toDraft? (s : Session) (e : RememberedEdit) : Option EditDraft := do
  let field ← s.fields[(e.index % s.fields.length).toNat]?
  return ⟨field.id, e.oldValue.getD (.string field.value), e.newValue⟩

/-- Carries out edits; the page becomes what comes out. -/
def apply (openTag search : Bound) (s : Session) (drafts : Except BatchError (List EditDraft)) :
    Except SessionError (SessionAnswer × Session) := do
  let outcome ← applyGiven openTag search s.source drafts
  return (.outcome outcome, { s with source := outcome.source })

/-- Takes a step. One that fails leaves the session as it is. -/
def step (openTag search : Bound) (s : Session) :
    SessionStep → Except SessionError (SessionAnswer × Session)
  | .extract => do
    let fields ← fieldsGiven openTag s.source
    return (.fields fields, { s with fields := fields })
  | .setSource source => .ok (.source source, { s with source := source })
  | .apply edits => s.apply openTag search (edits.mapM EditDraft.ofJson)
  | .editFields edits => s.apply openTag search (.ok (edits.filterMap s.toDraft?))

end Session

end VisibleText
