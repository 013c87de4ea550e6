import VisibleText.Json.Basic
import VisibleText.Text.Search

/-!
# Schemas

A schema is a list of rules that a value of JSON has to keep. A rule about one kind of
value is kept by every value of another kind. Checking a value lists everything that it
violates, each violation with the path of the value in question, rule by rule and
member by member in the order of the schema.
-/

set_option autoImplicit false

namespace VisibleText

/-- The kinds of values that a schema may ask for. -/
inductive JsonKind where
  | object
  | array
  | string
  | integer
deriving DecidableEq

namespace JsonKind

/-- The name of a kind in messages. -/
def name : JsonKind → String
  | object => "object"
  | array => "array"
  | string => "string"
  | integer => "integer"

/-- Whether a value is of a kind. A number with a point is an integer if it is whole;
a truth value is no number. -/
def holds : JsonKind → Json → Bool
  | object, .object _ => true
  | array, .array _ => true
  | string, .string _ => true
  | integer, .int _ => true
  | integer, .float x => x.isWhole
  | _, _ => false

end JsonKind

/-- A rule of a schema. -/
inductive Rule where
  | kind (kind : JsonKind)
  /-- each of these members keeps its schema, if it is there -/
  | members (schemas : List (Text × List Rule))
  /-- these members are there -/
  | required (keys : List Text)
  /-- one of these schemas is kept -/
  | anyOf (schemas : List (List Rule))
  /-- the string has at least so many characters -/
  | minLength (least : Nat)
  /-- the array has at least so many items -/
  | minItems (least : Nat)
  /-- each item keeps a schema -/
  | items (schema : List Rule)
  /-- the string starts with a text -/
  | opening (start : Text)
  /-- the number is at least this one -/
  | minimum (least : Int)
  /-- the value is one of these strings -/
  | oneOf (options : List Text)

/-- A schema is a list of rules. -/
abbrev Schema := List Rule

/-- What a value violates: where, and in words. -/
structure Violation where
  path : List Text
  message : Text
deriving DecidableEq

/-- A violation of a part of a value, seen from the value. -/
def Violation.under (step : Text) (v : Violation) : Violation := { v with path := step :: v.path }

namespace Schema

/-- The violation of a rule by the value itself. -/
def here (message : Text) : List Violation := [⟨[], message⟩]

/-- What is too short is empty if the least length is one. -/
def shortMessage (least : Nat) (value : Json) : Text :=
  value.shown ++ text (if least = 1 then " should be non-empty" else " is too short")

/-- Whether a value is a number below another one. -/
def isBelow : Json → Int → Bool
  | .int n, least => n < least
  | .float x, least => x.isBelow least
  | _, _ => false

/-- The violations of a rule that does not look into the value. -/
def flatViolations : Rule → Json → List Violation
  | .kind kind, value =>
    if kind.holds value then []
    else here (value.shown ++ text " is not of type " ++ quoted (text kind.name))
  | .required keys, .object members =>
    (keys.filter fun key => (Json.Members.find? members key).isNone).flatMap fun key =>
      here (quoted key ++ text " is a required property")
  | .minLength least, .string t =>
    if t.length < least then here (shortMessage least (.string t)) else []
  | .minItems least, .array items =>
    if items.length < least then here (shortMessage least (.array items)) else []
  | .opening start, .string t =>
    if t.startsWith start then []
    else here (quoted t ++ text " does not match " ++ quoted (text "^" ++ start))
  | .minimum least, value =>
    if isBelow value least then
      here (value.shown ++ text " is less than the minimum of " ++ Text.ofInt least)
    else []
  | .oneOf options, value =>
    let found :=
      match value with
      | .string t => options.contains t
      | _ => false
    if found then []
    else here (value.shown ++ text " is not one of " ++ (Json.array (options.map .string)).shown)
  | _, _ => []

mutual

/-- What a value violates of a rule. -/
def ruleViolations : Rule → Json → List Violation
  | .members schemas, .object members => membersViolations schemas members
  | .items schema, .array items =>
    items.zipIdx.flatMap fun (item, i) =>
      (rulesViolations schema item).map (Violation.under (Text.ofNat i))
  | .anyOf schemas, value =>
    if someKept schemas value then []
    else here (value.shown ++ text " is not valid under any of the given schemas")
  | rule, value => flatViolations rule value

/-- What a value violates of several rules. -/
def rulesViolations : List Rule → Json → List Violation
  | [], _ => []
  | rule :: rules, value => ruleViolations rule value ++ rulesViolations rules value

/-- What the members of an object violate of their schemas. -/
def membersViolations : List (Text × List Rule) → Json.Members → List Violation
  | [], _ => []
  | (key, schema) :: schemas, members =>
    (match Json.Members.find? members key with
      | none => []
      | some value => (rulesViolations schema value).map (Violation.under key)) ++
      membersViolations schemas members

/-- Whether a value keeps one of several schemas. -/
def someKept : List (List Rule) → Json → Bool
  | [], _ => false
  | schema :: schemas, value =>
    (rulesViolations schema value).isEmpty || someKept schemas value

end

/-- Everything that a value violates of a schema. -/
def violations (schema : Schema) (value : Json) : List Violation := rulesViolations schema value

/-- Whether a value keeps a schema. -/
def holds (schema : Schema) (value : Json) : Bool := (violations schema value).isEmpty

end Schema

namespace Violation

/-- The path of a violation with dots between its parts. -/
def location (v : Violation) : Text := Text.join (text ".") v.path

/-- The order of violations by their paths. -/
def atMost (v w : Violation) : Bool := !decide (w.path < v.path)

/-- Whether a violation is reported rather than another one, when only one of them is:
the one with the shorter path is, and of two paths of one length the greater one. -/
def outranks (v w : Violation) : Bool :=
  v.path.length < w.path.length || (v.path.length = w.path.length && decide (w.path < v.path))

/-- The violation that is reported when only one is; among equals the first. -/
def foremost? : List Violation → Option Violation
  | [] => none
  | v :: vs => some (vs.foldl (fun best v => if v.outranks best then v else best) v)

end Violation

end VisibleText
