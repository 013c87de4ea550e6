import VisibleText.Bytes.Utf8
import VisibleText.Text.CodePoint

/-!
# Fields

A field is a range of the bytes of a page that holds text for readers, and that an
edit may replace. Its identifier is made of its place, so it is good for one state of
the page only.
-/

set_option autoImplicit false

namespace VisibleText

/-- Whether a field is text between tags or the value of an attribute. -/
inductive FieldKind where
  | text
  | attribute
deriving DecidableEq

/-- A piece of text that may be edited. -/
structure Field where
  id : Text
  /-- what the field is, in words -/
  label : Text
  value : Text
  kind : FieldKind
  /-- where the value stands in the bytes of the page -/
  range : ByteRange
  /-- whether the value should be shown on several lines -/
  multiline : Bool
  /-- the part of the page that the field belongs to -/
  group : Text
deriving DecidableEq

namespace Field

/-- A value longer than this is shown on several lines. -/
def lineLimit : Nat := 80

/-- Whether a value should be shown on several lines. -/
def isMultiline (value : Text) : Bool := lineLimit < value.length || value.contains (.char '\n')

/-- The identifier of text at a place. -/
def textId (start : Nat) : Text := VisibleText.text "text:" ++ Text.ofNat start

/-- The identifier of the value of an attribute at a place. -/
def attributeId (start : Nat) (name : Text) : Text :=
  VisibleText.text "attr:" ++ Text.ofNat start ++ VisibleText.text ":" ++ name

/-- The field of a value between tags. -/
def ofText (start : Nat) (label value group : Text) : Field where
  id := textId start
  label := label
  value := value
  kind := .text
  range := ⟨start, value.width⟩
  multiline := isMultiline value
  group := group

/-- The field of a value of an attribute. -/
def ofAttribute (start : Nat) (tagName name value group : Text) : Field where
  id := attributeId start name
  label := tagName ++ VisibleText.text " " ++ name
  value := value
  kind := .attribute
  range := ⟨start, value.width⟩
  multiline := isMultiline value
  group := group

end Field

end VisibleText
