import VisibleText.Edit.Resolve
import VisibleText.Schema.Basic

/-!
# Drafts of edits

Edits arrive as JSON. A draft has all members of an edit, but its values may still be
anything. Older editors call the new value just the value.
-/

set_option autoImplicit false

namespace VisibleText

/-- Why a batch of edits is refused. -/
inductive BatchError where
  | missingKey (key : Text)
  | notAnObject (kind : String)
  | violations (list : List Text)
  | empty
deriving DecidableEq

/-- The numbered lines of a list, counted from a number. -/
def numbered : Nat → List Text → List Text
  | _, [] => []
  | n, line :: lines =>
    (text "  " ++ Text.ofNat n ++ text ". " ++ line) :: numbered (n + 1) lines

namespace BatchError

/-- What a batch violates, in words. -/
def list : BatchError → List Text
  | violations list => list
  | _ => []

/-- The wording of an error, without the list. -/
def headline : BatchError → Text
  | missingKey key => text "Edit is missing required key " ++ quoted key
  | notAnObject kind => text ("Edit must be a mapping, got " ++ kind)
  | violations _ => text "Invalid edit batch"
  | empty => text "Edit batch is empty"

/-- The wording of an error with a list of what is violated. -/
def withList (headline : Text) (list : List Text) : Text :=
  if list.isEmpty then headline
  else Text.unlines ([headline, [], text "Validation errors:"] ++ numbered 1 list)

/-- The wording of an error. -/
def message (e : BatchError) : Text := withList e.headline e.list

end BatchError

/-- An edit as it arrives: its values may still be anything. -/
structure EditDraft where
  id : Text
  oldValue : Json
  newValue : Json

namespace EditDraft

/-- The keys of an edit. -/
def idKey : Text := text "id"
def oldKey : Text := text "oldValue"
def newKey : Text := text "newValue"
def olderNewKey : Text := text "value"

/-- The member of a key that has to be there. -/
def need (members : Json.Members) (key : Text) : Except BatchError Json :=
  match Json.Members.find? members key with
  | some value => .ok value
  | none => .error (.missingKey key)

/-- The draft that an object is. Its identifier may be any value and is taken as
text. -/
def ofJson : Json → Except BatchError EditDraft
  | .object members => do
    let newValue ←
      match Json.Members.find? members newKey with
      | some value => .ok value
      | none => need members olderNewKey
    let id ← need members idKey
    let oldValue ← need members oldKey
    return ⟨id.plainText, oldValue, newValue⟩
  | other => .error (.notAnObject other.kindName)

/-- Whether the draft puts text into an empty field. -/
def isInsertion (d : EditDraft) : Bool :=
  match d.oldValue with
  | .string [] => true
  | _ => false

/-- The edit that a draft is. A value that is no text is left empty. -/
def toEdit (d : EditDraft) : Edit := ⟨d.id, textOf d.oldValue, textOf d.newValue⟩
where
  /-- The text that a value is, if it is one. -/
  textOf : Json → Text
    | .string t => t
    | _ => []

/-- The draft of an edit. -/
def ofEdit (e : Edit) : EditDraft := ⟨e.id, .string e.oldValue, .string e.newValue⟩

end EditDraft

/-! ## Batches of edits from outside

Edits arrive as JSON: a list of objects, or an object that holds such a list. The whole
batch is checked before any edit of it is carried out, and everything that is wrong
with it is reported at once.
-/

/-- What an edit has to be. -/
def editSchema : Schema :=
  [ .kind .object,
    .members
      [ (EditDraft.idKey, [.kind .string, .minLength 1]),
        (EditDraft.oldKey, [.kind .string]),
        (EditDraft.newKey, [.kind .string]),
        (EditDraft.olderNewKey, [.kind .string]) ],
    .required [EditDraft.idKey, EditDraft.oldKey],
    .anyOf [[.required [EditDraft.newKey]], [.required [EditDraft.olderNewKey]]] ]

/-- The key of the list of edits. -/
def editsKey : Text := text "edits"

/-- What a batch has to be. -/
def batchSchema : Schema :=
  [ .kind .object,
    .members [(editsKey, [.kind .array, .minItems 1, .items editSchema])],
    .required [editsKey] ]

/-- A list of edits stands for the object that holds it. -/
def wrapBatch : Json → Json
  | .array edits => .object [(editsKey, .array edits)]
  | value => value

/-- What is reported of a violation. -/
def violationLine (v : Violation) : Text :=
  if v.location.isEmpty then v.message else v.location ++ text ": " ++ v.message

/-- Everything that is wrong with a batch, ordered by place. -/
def batchViolations (value : Json) : List Text :=
  ((batchSchema.violations value).mergeSort Violation.atMost).map violationLine

/-- The edits of an object that keeps the schema. -/
def batchItems (value : Json) : List Json :=
  match value.member? editsKey with
  | some (.array items) => items
  | _ => []

/-- The edits of a batch, or everything that is wrong with it. -/
def parseBatch (value : Json) : Except BatchError (List Edit) :=
  let value := wrapBatch value
  match batchViolations value with
  | [] => do
    let drafts ← (batchItems value).mapM EditDraft.ofJson
    return drafts.map EditDraft.toEdit
  | list => .error (.violations list)

end VisibleText
