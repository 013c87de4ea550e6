import VisibleText.Json.Binary64
import VisibleText.Text.Printable

/-!
# Values of JSON

Configuration files, edit batches and log records are values of JSON. The members of
an object keep their order, and no two of them have one key. A number with a fraction
or an exponent is a binary64 number, any other one an integer of any size.
-/

set_option autoImplicit false

namespace VisibleText

/-- A value of JSON. -/
inductive Json where
  | null
  | bool (b : Bool)
  | int (n : Int)
  | float (x : Binary64)
  | string (t : Text)
  | array (items : List Json)
  | object (members : List (Text × Json))

namespace Json

/-- Members of an object. -/
abbrev Members := List (Text × Json)

/-- The member of a key. -/
def Members.find? (members : Members) (key : Text) : Option Json := List.lookup key members

/-- The members with one of them set. A new one comes last, one that was there keeps
its place. -/
def Members.set (key : Text) (value : Json) : Members → Members
  | [] => [(key, value)]
  | (k, v) :: members =>
    if k = key then (key, value) :: members else (k, v) :: Members.set key value members

/-- The member of a key of an object. -/
def member? (value : Json) (key : Text) : Option Json :=
  match value with
  | object members => Members.find? members key
  | _ => none

/-- A string value. -/
def ofString (s : String) : Json := string (text s)

/-- A natural number as a value. -/
def ofNat (n : Nat) : Json := int n

/-- An object from keys that are plain strings. -/
def record (members : List (String × Json)) : Json :=
  object (members.map fun (key, value) => (text key, value))

/-- A value or null. -/
def ofOption : Option Json → Json
  | some value => value
  | none => null

/-- What a value is called when it is not of the kind that is asked for. -/
def kindName : Json → String
  | null => "NoneType"
  | bool _ => "bool"
  | int _ => "int"
  | float _ => "float"
  | string _ => "str"
  | array _ => "list"
  | object _ => "dict"

mutual

/-- How deep arrays and objects stand in each other in a value. -/
def depth : Json → Nat
  | array items => depthOfItems items + 1
  | object members => depthOfMembers members + 1
  | _ => 0

/-- The greatest depth of some values. -/
def depthOfItems : List Json → Nat
  | [] => 0
  | item :: items => max item.depth (depthOfItems items)

/-- The greatest depth of the values of some members. -/
def depthOfMembers : List (Text × Json) → Nat
  | [] => 0
  | (_, value) :: members => max value.depth (depthOfMembers members)

end

mutual

/-- A value as it is written in messages. -/
def shown : Json → Text
  | null => text "None"
  | bool true => text "True"
  | bool false => text "False"
  | int n => Text.ofInt n
  | float x => text x.shown
  | string t => quoted t
  | array items => text "[" ++ Text.join (text ", ") (shownItems items) ++ text "]"
  | object members =>
    text "\x7b" ++ Text.join (text ", ") (shownMembers members) ++ text "\x7d"

/-- Values as they are written in messages. -/
def shownItems : List Json → List Text
  | [] => []
  | item :: items => item.shown :: shownItems items

/-- Members as they are written in messages. -/
def shownMembers : List (Text × Json) → List Text
  | [] => []
  | (key, value) :: members => (quoted key ++ text ": " ++ value.shown) :: shownMembers members

end

mutual

/-- A value with another value for every text in it. Keys stay. -/
def mapText (f : Text → Json) : Json → Json
  | string t => f t
  | array items => array (mapTextItems f items)
  | object members => object (mapTextMembers f members)
  | value => value

/-- Values with other values for the texts in them. -/
def mapTextItems (f : Text → Json) : List Json → List Json
  | [] => []
  | item :: items => mapText f item :: mapTextItems f items

/-- Members with other values for the texts in them. -/
def mapTextMembers (f : Text → Json) : List (Text × Json) → List (Text × Json)
  | [] => []
  | (key, value) :: members => (key, mapText f value) :: mapTextMembers f members

end

/-- A value as plain text: a string is itself, any other value is as in messages. -/
def plainText : Json → Text
  | string t => t
  | value => value.shown

end Json

end VisibleText

namespace VisibleText.Json

/-! ## Writing JSON

Values are written on one line or with an indentation, and with or without escapes for
what is not ASCII.
-/

/-- How values are written. -/
structure Style where
  /-- what is not ASCII is written as escapes -/
  ascii : Bool
  /-- the blanks by which each level is indented; none puts all on one line -/
  indent : Option Nat
deriving DecidableEq

/-- An escape for a code unit of sixteen bits. -/
def unitEscape (n : Nat) : Text := text "\\u" ++ hexDigits 4 n

/-- A code point within a string. -/
def writtenPoint (ascii : Bool) (c : CodePoint) : Text :=
  match c with
  | .char '"' => text "\\\""
  | .char '\\' => text "\\\\"
  | .char '\n' => text "\\n"
  | .char '\r' => text "\\r"
  | .char '\t' => text "\\t"
  | .char '\x08' => text "\\b"
  | .char '\x0c' => text "\\f"
  | c =>
    let n := c.val
    if n < 0x20 then unitEscape n
    else if !ascii || n < 0x7F then [c]
    else if n < 0x10000 then unitEscape n
    else unitEscape (0xD800 + (n - 0x10000) / 0x400) ++ unitEscape (0xDC00 + (n - 0x10000) % 0x400)

/-- A string as it is written. -/
def writtenString (ascii : Bool) (t : Text) : Text :=
  .char '"' :: t.flatMap (writtenPoint ascii) ++ [.char '"']

/-- A binary64 number as it is written. -/
def writtenFloat : Binary64 → Text
  | .nan => text "NaN"
  | .infinite negative => text (if negative then "-Infinity" else "Infinity")
  | x => text x.shown

/-- The start of a line at a depth. -/
def lineStart (style : Style) (depth : Nat) : Text :=
  match style.indent with
  | none => []
  | some width => .char '\n' :: List.replicate (width * depth) (.char ' ')

/-- What stands between a key and its value. -/
def keyMark (style : Style) : Text := if style.indent.isSome then text ": " else text ":"

/-- Parts between brackets, each at the start of a line if lines are broken. -/
def bracketed (style : Style) (depth : Nat) (first last : Char) (parts : List Text) : Text :=
  if parts.isEmpty then [.char first, .char last]
  else
    .char first :: lineStart style (depth + 1) ++
      Text.join (.char ',' :: lineStart style (depth + 1)) parts ++
      lineStart style depth ++ [.char last]

mutual

/-- A value as it is written at a depth. -/
def writtenAt (style : Style) (depth : Nat) : Json → Text
  | .null => text "null"
  | .bool true => text "true"
  | .bool false => text "false"
  | .int n => Text.ofInt n
  | .float x => writtenFloat x
  | .string t => writtenString style.ascii t
  | .array items => bracketed style depth '[' ']' (writtenItems style depth items)
  | .object members => bracketed style depth '{' '}' (writtenMembers style depth members)

/-- The items of an array as they are written. -/
def writtenItems (style : Style) (depth : Nat) : List Json → List Text
  | [] => []
  | item :: items => writtenAt style (depth + 1) item :: writtenItems style depth items

/-- The members of an object as they are written. -/
def writtenMembers (style : Style) (depth : Nat) : List (Text × Json) → List Text
  | [] => []
  | (key, value) :: members =>
    (writtenString style.ascii key ++ keyMark style ++ writtenAt style (depth + 1) value) ::
      writtenMembers style depth members

end

/-- A value as it is written. -/
def written (style : Style) (value : Json) : Text := writtenAt style 0 value

/-- All on one line. -/
def Style.compact (ascii : Bool) : Style := ⟨ascii, none⟩

/-- Two blanks for each level. -/
def Style.indented (ascii : Bool) : Style := ⟨ascii, some 2⟩

end VisibleText.Json
