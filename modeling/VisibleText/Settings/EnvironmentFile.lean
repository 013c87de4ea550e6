import VisibleText.Project.Disk
import VisibleText.Settings.Environment
import VisibleText.Text.Search
import VisibleText.Bytes.Utf8
import VisibleText.Text.Case

/-!
# Files with environment variables

A file has a binding on each line: a name, an equals sign and a value. A value may
stand between quotes and then go over several lines. The word `export` may stand before
a name, comments start with `#`, and a line that is no binding is passed over. Values
may refer to other variables, which are looked for in the environment first and among
the bindings before them then.

Loading a file never changes a variable that is set. A variable that cannot be set ends
the loading; those before it stay set. The environment itself may forbid the loading.
-/

set_option autoImplicit false

namespace VisibleText.EnvironmentFile

open VisibleText.Text (after?)

/-- What was read, and what is left of the file. A reader that finds nothing gives what
is left from the place on that it cannot read. -/
structure Taken (α : Type) where
  value : α
  left : Text

/-- Whether a code point is a blank within a line. -/
def isGap (c : CodePoint) : Bool := c.isBlank && !c.isAmong ['\n', '\r']

/-- Whether a code point does not end a line. -/
def isInLine (c : CodePoint) : Bool := !c.isAmong ['\n', '\r']

/-! ## Values between quotes -/

/-- Text up to a quote, and what follows that quote. A backslash takes the code point
behind it along, which may be a quote. -/
def upToQuote? (quote : Char) : Text → Option (Text × Text)
  | [] => none
  | [c] => if c = .char quote then some ([], []) else none
  | c :: d :: t =>
    if c = .char quote then some ([], d :: t)
    else if c = .char '\\' then
      (upToQuote? quote t).map fun (value, rest) => (c :: d :: value, rest)
    else (upToQuote? quote (d :: t)).map fun (value, rest) => (c :: value, rest)

/-- The characters that letters stand for behind a backslash, between double quotes. -/
def doubleQuoteEscapes : List (CodePoint × Char) :=
  [ (.char '\\', '\\'), (.char '\'', '\''), (.char '"', '"'), (.char 'a', '\x07'),
    (.char 'b', '\x08'), (.char 'f', '\x0c'), (.char 'n', '\n'), (.char 'r', '\r'),
    (.char 't', '\t'), (.char 'v', '\x0b') ]

/-- The characters that stand for themselves behind a backslash, between single
quotes. -/
def singleQuoteEscapes : List (CodePoint × Char) := [(.char '\\', '\\'), (.char '\'', '\'')]

/-- A text with its escapes replaced by what they stand for. -/
def unescaped (escapes : List (CodePoint × Char)) : Text → Text
  | [] => []
  | .char '\\' :: c :: t =>
    match escapes.lookup c with
    | some d => .char d :: unescaped escapes t
    | none => .char '\\' :: unescaped escapes (c :: t)
  | c :: t => c :: unescaped escapes t

/-- Reads a value behind its opening quote. -/
def readQuoted (quote : Char) (escapes : List (CodePoint × Char)) (start t : Text) :
    Except Text (Taken Text) :=
  match upToQuote? quote t with
  | some (value, rest) => .ok ⟨unescaped escapes value, rest⟩
  | none => .error start

/-! ## Lines -/

/-- A value without the comment that follows it, which starts at a `#` behind a blank. -/
def withoutComment : Text → Text
  | [] => []
  | c :: t =>
    if c.isBlank && ((c :: t).dropWhile CodePoint.isBlank).head? = some (.char '#') then []
    else c :: withoutComment t

/-- Reads a value. -/
def readValue (t : Text) : Except Text (Taken Text) :=
  match t with
  | .char '\'' :: rest => readQuoted '\'' singleQuoteEscapes t rest
  | .char '"' :: rest => readQuoted '"' doubleQuoteEscapes t rest
  | _ => .ok ⟨Text.trimEnd (withoutComment (t.takeWhile isInLine)), t.dropWhile isInLine⟩

/-- Passes over the word `export`, if a blank follows it. -/
def skipExport (t : Text) : Text :=
  match after? (text "export") t with
  | some (c :: rest) => if isGap c then rest.dropWhile isGap else t
  | _ => t

/-- Whether a code point may stand in a name without quotes. -/
def isNamePart (c : CodePoint) : Bool := !c.isBlank && !c.isAmong ['=', '#']

/-- Reads a name; a comment has none. -/
def readName (t : Text) : Except Text (Taken (Option Text)) :=
  match t with
  | .char '#' :: _ => .ok ⟨none, t⟩
  | .char '\'' :: rest =>
    match rest.span (· ≠ .char '\'') with
    | (c :: name, _ :: left) => .ok ⟨some (c :: name), left⟩
    | _ => .error t
  | _ =>
    match t.span isNamePart with
    | ([], _) => .error t
    | (name, left) => .ok ⟨some name, left⟩

/-- Whether only a comment stands behind an equals sign: a `#` behind a blank. -/
def hasNoValue (t : Text) : Bool :=
  t.head?.any isGap && (t.dropWhile isGap).head? = some (.char '#')

/-- Reads the equals sign and the value behind a name; there may be none. -/
def readAssigned (t : Text) : Except Text (Taken (Option Text)) :=
  match t with
  | .char '=' :: rest =>
    if hasNoValue rest then .ok ⟨some [], rest⟩
    else
      match readValue (rest.dropWhile isGap) with
      | .ok ⟨value, left⟩ => .ok ⟨some value, left⟩
      | .error left => .error left
  | _ => .ok ⟨none, t⟩

/-- Passes over blanks and a comment up to the end of the line. -/
def readLineEnd (t : Text) : Except Text (Taken Unit) :=
  let rest := t.dropWhile isGap
  let rest :=
    match rest with
    | .char '#' :: _ => rest.dropWhile isInLine
    | _ => rest
  match rest with
  | [] => .ok ⟨(), []⟩
  | .char '\r' :: .char '\n' :: left => .ok ⟨(), left⟩
  | c :: left => if isInLine c then .error rest else .ok ⟨(), left⟩

/-- A variable and its value, if it has one. -/
abbrev Binding := Text × Option Text

/-- Reads one line from its first sign on. -/
def readLine (t : Text) : Except Text (Taken (Option Binding)) := do
  let ⟨name, t⟩ ← readName (skipExport t)
  let ⟨value, t⟩ ← readAssigned (t.dropWhile isGap)
  let ⟨_, t⟩ ← readLineEnd t
  return ⟨name.map fun name => (name, value), t⟩

/-- What follows the line that a text starts in. -/
def afterLine (t : Text) : Text := (t.dropWhile isInLine).drop 1

/-- Reads lines; each takes at least one code point, so the length of the text is steps
enough. -/
def readLines : (steps : Nat) → Text → List Binding
  | 0, _ => []
  | steps + 1, t =>
    let t := Text.trimStart t
    if t.isEmpty then []
    else
      match readLine t with
      | .ok ⟨found, left⟩ => found.toList ++ readLines steps left
      | .error left => readLines steps (afterLine left)

/-- The bindings of a file. -/
def bindings (t : Text) : List Binding := readLines t.length t

/-! ## References -/

/-- A reference to a variable. -/
structure Reference where
  name : Text
  /-- what stands for the value of a variable that has none -/
  default : Text

/-- The reference that a text starts with: a name between braces behind a dollar sign,
and a default behind `:-`. -/
def reference? (t : Text) : Option (Taken Reference) := do
  let t ← after? (text "$\x7b") t
  let name := t.takeWhile fun c => !c.isAmong ['}', ':']
  match t.drop name.length with
  | .char '}' :: left => return ⟨⟨name, []⟩, left⟩
  | .char ':' :: .char '-' :: t =>
    let default := t.takeWhile (· ≠ .char '}')
    match t.drop default.length with
    | _ :: left => return ⟨⟨name, default⟩, left⟩
    | [] => none
  | _ => none

/-- The variables that a value refers to. -/
def referredTo : Text → List Text
  | [] => []
  | c :: t => ((reference? (c :: t)).map fun taken => taken.value.name).toList ++ referredTo t

/-- The variables that a file binds or refers to. -/
def namedVariables (file : Text) : List Text :=
  (bindings file).flatMap fun (name, value) => name :: referredTo (value.getD [])

/-- A value with its references replaced. `passed` counts what belongs to a reference
that was replaced. -/
def resolveFrom (env : Environment) : (passed : Nat) → Text → Text
  | _, [] => []
  | passed + 1, _ :: t => resolveFrom env passed t
  | 0, c :: t =>
    match reference? (c :: t) with
    | some ⟨r, left⟩ =>
      (env.find? r.name).getD r.default ++ resolveFrom env (t.length - left.length) t
    | none => c :: resolveFrom env 0 t

/-- The bindings with their references replaced; `known` holds the bindings before
them. -/
def resolveBindings (env known : Environment) : List Binding → List Binding
  | [] => []
  | (name, value) :: rest =>
    match value with
    | none => (name, none) :: resolveBindings env (known.set name []) rest
    | some value =>
      let value := resolveFrom (env ++ known) 0 value
      (name, some value) :: resolveBindings env (known.set name value) rest

/-- The last value of each variable, in the order in which the variables first come. -/
def lastValues : List Binding → List Binding → List Binding
  | found, [] => found
  | found, (name, value) :: rest =>
    let found :=
      if found.any fun entry => entry.1 = name then
        found.map fun entry => if entry.1 = name then (name, value) else entry
      else found ++ [(name, value)]
    lastValues found rest

/-! ## Loading -/

/-- Why a file was not loaded to its end. -/
inductive Fault where
  /-- the file is not UTF-8 -/
  | undecodable (fault : DecodeFault)
  | unsettable (fault : VariableFault)

/-- An environment with variables set in order, as far as they are not set already and
have a value. The first one that cannot be set ends it. -/
def setMissing (env : Environment) : List Binding → Option Fault × Environment
  | [] => (none, env)
  | (name, value) :: rest =>
    match value, env.find? name with
    | some value, none =>
      match env.assign? name value with
      | .error fault => (some (.unsettable fault), env)
      | .ok env => setMissing env rest
    | _, _ => setMissing env rest

/-- An environment with the variables of a file, as far as they are not set. -/
def load (env : Environment) (file : Text) : Option Fault × Environment :=
  setMissing env (lastValues [] (resolveBindings env [] (bindings file)))

/-- The variable that forbids the loading, and its values that do. The long s counts as an
s in them. -/
def switchName : Text := text "PYTHON_DOTENV_DISABLED"
def switchValues : List Text := ["1", "true", "t", "yes", "y"].map text

/-- Whether an environment forbids the loading. -/
def isForbidden (env : Environment) : Bool :=
  match env.find? switchName with
  | none => false
  | some value => switchValues.contains ((Text.small value).substitute (.char 'ſ') (text "s"))

/-- An environment with the variables of the file of a project, if it has one. -/
def loadAt (disk : Disk) (root : Place) (env : Environment) : Option Fault × Environment :=
  if isForbidden env then (none, env)
  else
    match disk.file? (Place.follow root Settings.environmentFile) with
    | none => (none, env)
    | some content =>
      match readLineText content with
      | .error fault => (some (.undecodable fault), env)
      | .ok file => load env file

end VisibleText.EnvironmentFile
