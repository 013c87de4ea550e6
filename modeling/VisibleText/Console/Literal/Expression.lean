import VisibleText.Console.Literal.Quoted

/-!
# Expressions

An expression is what words make when they are put together as values are. Most
expressions are no literal values; of those only what faults name and what literal values
are told apart by is kept. Besides whole expressions there are the parts that they are made
of: entries of tables, named arguments, and what a value is compared with.

An expression knows the words that it is made of, since a fault may be told by where an
expression stands. Brackets around a single value do not belong to it. It also knows its
height, that is how deep expressions stand in each other in it.
-/

set_option autoImplicit false

namespace VisibleText.Console.Literal

/-- Some words next to each other, by their places. -/
structure Span where
  /-- the place of the first word -/
  first : Nat
  /-- the place behind the last word -/
  behind : Nat

mutual

/-- An expression, or a part of one, with the words that it is made of and its height. -/
inductive Expression where
  | of (span : Span) (height : Nat) (form : Form)

/-- What an expression, or a part of one, is. -/
inductive Form where
  | number (n : Number)
  /-- a text or bytes -/
  | plain
  /-- a text with values inside it -/
  | formatted
  /-- one of several texts next to each other -/
  | piece (q : Quoted)
  /-- a name that is a value, or three dots, with what it is called -/
  | constant (called : String)
  | name (t : Text)
  | tuple (items : List Expression)
  | set (items : List Expression)
  | table (entries : List Expression)
  | entry (key value : Expression)
  /-- an entry of a table that puts another one into it -/
  | unpacked
  /-- an argument that puts a table of arguments into a call -/
  | unpackedArgument
  | starred (value : Expression)
  /-- a named part of a value -/
  | component
  | call (function : Expression) (arguments : List Expression)
  /-- an argument with a name -/
  | named
  | function
  | conditional
  /-- a value with what it is compared with first -/
  | compared (first : Expression) (byMembership : Bool)
  /-- what a value is compared with -/
  | comparison (byMembership : Bool)
  /-- a value with a plus or a minus sign -/
  | signed (value : Expression)
  /-- a sum or a difference -/
  | sum (first second : Expression)
  | operation
  | generator
  | setComprehension
  | tableComprehension
  | assignment
  | awaited
  | yielded
  /-- a loop of a comprehension -/
  | clause

end

/-- What kind of expression faults call one. -/
def Form.kind : Form → String
  | number _ | plain | piece _ => "literal"
  | formatted => "f-string expression"
  | constant called => called
  | name _ => "name"
  | tuple _ => "tuple"
  | set _ => "set display"
  | table _ => "dict literal"
  | entry _ _ | unpacked | unpackedArgument | named | comparison _ => "expression"
  | starred _ => "starred"
  | component => "attribute"
  | call _ _ => "function call"
  | function => "lambda"
  | conditional => "conditional expression"
  | compared _ _ => "comparison"
  | signed _ | sum _ _ | operation => "expression"
  | generator => "generator expression"
  | setComprehension => "set comprehension"
  | tableComprehension => "dict comprehension"
  | assignment => "named expression"
  | awaited => "await expression"
  | yielded => "yield expression"
  | clause => "expression"

/-- Whether something is an expression of its own, which stands above those in it. What an
entry of a table or a comparison has in it belongs to the table or the compared value. -/
def Form.isWhole : Form → Bool
  | entry _ _ | unpacked | comparison _ => false
  | _ => true

namespace Expression

/-- The words that an expression is made of. -/
def span : Expression → Span
  | of span _ _ => span

/-- How deep expressions stand in each other in an expression. -/
def height : Expression → Nat
  | of _ height _ => height

/-- The greatest height of some expressions. -/
def heightAmong (es : List Expression) : Nat := es.foldl (fun h e => max h e.height) 0

/-- An expression that has others in it. -/
def above (span : Span) (form : Form) (es : List Expression) : Expression :=
  of span (heightAmong es + if form.isWhole then 1 else 0) form

/-- What an expression is. -/
def form : Expression → Form
  | of _ _ form => form

/-- What kind of expression faults call one. -/
def kind (e : Expression) : String := e.form.kind

mutual

/-- What makes an expression no target of a loop, if anything does. What stands before the
word that ends the target counts as compared with what stands behind it. -/
def nonTarget? : Expression → Option Expression
  | of _ _ (.name _) | of _ _ .component => none
  | of _ _ (.tuple items) => nonTargetAmong? items
  | of _ _ (.starred value) => value.nonTarget?
  | of _ _ (.compared first byMembership) => if byMembership then first.nonTarget? else none
  | e => some e

/-- What makes one of several expressions no target of a loop, if anything does. -/
def nonTargetAmong? : List Expression → Option Expression
  | [] => none
  | item :: items => item.nonTarget? <|> nonTargetAmong? items

end

/-- Whether an argument stands at its place, without a name. -/
def isPlaced (e : Expression) : Bool :=
  match e.form with
  | .named | .unpackedArgument => false
  | _ => true

/-- Whether an argument puts a table of arguments into a call. -/
def isUnpacked (e : Expression) : Bool :=
  match e.form with
  | .unpackedArgument => true
  | _ => false

end Expression

/-! ## Values of literals

Of the expressions, only some are literal values: numbers, which may have a sign, the sum
or difference of a real number and an imaginary one, texts and bytes, names of values, and
collections of literal values. Members of sets and keys of tables must be values that can
be looked up, which sets and tables are not, nor tuples that hold one.
-/

/-- What matters of a value. -/
inductive Value where
  /-- a real number, perhaps too large to have an imaginary one added -/
  | real (isLarge : Bool)
  | imaginary
  /-- another value that can be looked up -/
  | plain
  /-- a value that cannot be looked up because of a set or a table -/
  | collection (kind : String)
deriving DecidableEq

/-- From here on whole numbers are too large for a number with a point: half a unit of the
last place above the largest one. -/
def largest : Nat := Nat.pow 2 1024 - Nat.pow 2 970

/-- The value of a number. -/
def Number.value : Number → Value
  | .whole n => .real (decide (largest ≤ n))
  | .long _ => .real true
  | .real => .real false
  | .imaginary => .imaginary

namespace Expression

/-- The value of a number without a sign. -/
def unsignedValue (e : Expression) : Except LiteralFault Value :=
  match e.form with
  | .number n => .ok n.value
  | _ => .error .malformed

/-- The value of a number that may have a sign. -/
def signedValue (e : Expression) : Except LiteralFault Value :=
  match e.form with
  | .signed e => e.unsignedValue
  | _ => e.unsignedValue

/-- The value of a sum or a difference. -/
def sumValue (first second : Expression) : Except LiteralFault Value := do
  match ← first.signedValue, ← second.unsignedValue with
  | .real isLarge, .imaginary => if isLarge then .error .largeInteger else .ok .plain
  | _, _ => .error .malformed

/-- A member of a set or a key of a table has to be looked up. -/
def lookedUp : Value → Except LiteralFault Unit
  | .collection kind => .error (.notKey kind)
  | _ => .ok ()

/-- A tuple of values: the first one that cannot be looked up makes it one. -/
def tupleValue (values : List Value) : Value :=
  (values.find? fun
    | .collection _ => true
    | _ => false).getD .plain

/-- The value of a call: the only one that is a literal makes an empty set. -/
def calledValue (function : Expression) (arguments : List Expression) :
    Except LiteralFault Value :=
  match function.form, arguments with
  | .name t, [] => if t = text "set" then .ok (.collection "set") else .error .malformed
  | _, _ => .error .malformed

mutual

/-- The literal value of an expression. -/
def value : Expression → Except LiteralFault Value
  | of _ _ .plain | of _ _ (.constant _) => .ok .plain
  | of _ _ (.tuple items) => do return tupleValue (← values items)
  | of _ _ (.set items) => do
    checkMembers items
    return .collection "set"
  | of _ _ (.call function arguments) => calledValue function arguments
  | of _ _ (.table entries) => do
    checkEntries entries
    return .collection "dict"
  | of _ _ (.sum first second) => sumValue first second
  | e => e.signedValue

/-- The literal values of expressions. -/
def values : List Expression → Except LiteralFault (List Value)
  | [] => .ok []
  | item :: items => do
    let first ← item.value
    return first :: (← values items)

/-- Puts the members of a set into it, one after the other. -/
def checkMembers : List Expression → Except LiteralFault Unit
  | [] => .ok ()
  | item :: items => do
    lookedUp (← item.value)
    checkMembers items

/-- Puts the entries of a table into it, one after the other. -/
def checkEntries : List Expression → Except LiteralFault Unit
  | [] => .ok ()
  | .of _ _ (.entry key content) :: entries => do
    let keyValue ← key.value
    let _ ← content.value
    lookedUp keyValue
    checkEntries entries
  | .of _ _ .unpacked :: _ => .error .absentKey
  | _ :: _ => .error .malformed

end

end Expression

end VisibleText.Console.Literal
