import VisibleText.Project.Place
import VisibleText.Settings.Basic
import VisibleText.Text.Letter
import VisibleText.Text.Search

/-!
# Settings from the environment

Six variables of the environment override settings. An empty variable counts as not
set. Two of them are integers; the others are taken as they are.
-/

set_option autoImplicit false

namespace VisibleText

/-! ## Integers in words of the environment

An integer is written in decimal digits of any script. Blanks may stand around it, a
sign before it, and single underscores between its digits. What is written with too many
digits is no integer.
-/

/-- Whether a code point may stand around an integer: a blank, but not one of the four
information separators of ASCII. -/
def isIntegerBlank (c : CodePoint) : Bool := c.isBlank && !(0x1C ≤ c.val && c.val ≤ 0x1F)

/-- The number that digits write, behind digits that write `read`. An underscore counts
only before another digit. -/
def digitsFrom? (read : Nat) : Text → Option Nat
  | [] => some read
  | .char '_' :: c :: rest => do digitsFrom? (read * 10 + (← c.digitValue?)) rest
  | c :: rest => do digitsFrom? (read * 10 + (← c.digitValue?)) rest

/-- The most digits that an integer may be written with, zeros at its start included. -/
def mostDigits : Nat := 4300

/-- The number that a text writes, if the text starts with a digit and does not have too
many of them. -/
def unsigned? (t : Text) : Option Nat :=
  if mostDigits < t.countP CodePoint.isDigit then none
  else
    match t with
    | [] => none
    | c :: rest => do digitsFrom? (← c.digitValue?) rest

/-- The integer that a text writes. -/
def integer? (t : Text) : Option Int :=
  let trimmed := Text.dropLastWhile isIntegerBlank (t.dropWhile isIntegerBlank)
  match trimmed with
  | .char '-' :: rest => (unsigned? rest).map fun n => -(n : Int)
  | .char '+' :: rest => (unsigned? rest).map Int.ofNat
  | rest => (unsigned? rest).map Int.ofNat

/-! ## Overrides -/

/-- Why settings could not be loaded: they are wrong, or their file could not be
read. -/
inductive LoadError where
  | settings (fault : SettingsFault)
  | undecodable (fault : DecodeFault)
  | disk (fault : DiskFault)
  /-- the file is well formed, but holds a number or a value that is refused -/
  | refused (fault : Json.Fault)

/-- The variables of an environment with their values. -/
abbrev Environment := List (Text × Text)

/-- Why a variable cannot be set. -/
inductive VariableFault where
  /-- its name or its value has no bytes -/
  | unencodable (fault : EncodeFault)
  /-- its name or its value holds the character of number zero -/
  | zeroCharacter
  /-- its name holds an equals sign -/
  | equalsInName
  | emptyName
deriving DecidableEq

/-- The wording of a fault. -/
def VariableFault.message : VariableFault → Text
  | unencodable fault => fault.message
  | zeroCharacter => text "embedded null byte"
  | equalsInName => text "illegal environment variable name"
  | emptyName => text "[Errno 22] Invalid argument"

/-- Why a variable of some name cannot have a value, if it cannot. -/
def VariableFault.of? (name value : Text) : Option VariableFault :=
  match name.systemFault?.or value.systemFault? with
  | some fault => some (unencodable fault)
  | none =>
    if (name ++ value).any (· == .char '\x00') then some zeroCharacter
    else if name.any (· == .char '=') then some equalsInName
    else if name.isEmpty then some emptyName
    else none

namespace Environment

/-- The value of a variable. -/
def find? (env : Environment) (name : Text) : Option Text := List.lookup name env

/-- The environment with one variable set, whatever its name and its value are. -/
def set (name value : Text) : Environment → Environment
  | [] => [(name, value)]
  | (v, x) :: env => if v = name then (v, value) :: env else (v, x) :: set name value env

/-- The environment with one variable set, if it can be. The name and the value are kept
by the system. -/
def assign? (env : Environment) (name value : Text) : Except VariableFault Environment :=
  match VariableFault.of? name value with
  | some fault => .error fault
  | none => .ok (env.set (name.kept?.getD name) (value.kept?.getD value))

/-- The environment with one variable unset. -/
def unset (env : Environment) (name : Text) : Environment :=
  env.filter fun entry => entry.1 ≠ name

/-- The value of a variable that is set and not empty. -/
def active? (env : Environment) (name : Text) : Option Text :=
  (env.find? name).filter fun value => !value.isEmpty

end Environment

namespace Settings

/-- How the value of a variable is read. -/
inductive VariableKind where
  | string
  | integer
deriving DecidableEq

/-- A variable that overrides a setting. -/
structure Override where
  /-- the name of the variable -/
  name : Text
  /-- the path of the setting -/
  path : List Text
  kind : VariableKind

/-- The path of a setting as one key. -/
def Override.key (o : Override) : Text := Text.join (text ".") o.path

/-- The variables that override settings. -/
def overrides : List Override :=
  [ ⟨text "PAGE_TEXT_PAGES_DIR", [text "pages_dir"], .string⟩,
    ⟨text "PAGE_TEXT_BASE_PATH", [text "base_path"], .string⟩,
    ⟨text "PAGE_TEXT_LOG_LEVEL", [text "logging", text "level"], .string⟩,
    ⟨text "PAGE_TEXT_LOG_FORMAT", [text "logging", text "format"], .string⟩,
    ⟨text "PAGE_TEXT_OPEN_TAG_WINDOW", [text "extraction", text "open_tag_window"], .integer⟩,
    ⟨text "PAGE_TEXT_SEARCH_WINDOW", [text "patching", text "search_window"], .integer⟩ ]

/-- The setting that the value of a variable is. -/
def convert (name value : Text) : VariableKind → Except SettingsFault Json
  | .string => .ok (.string value)
  | .integer =>
    match integer? value with
    | some n => .ok (.int n)
    | none => .error (.notAnInteger name value)

/-- Members with a setting put at a path. What stands on the way and is no object gives
way to one. -/
def putAt (value : Json) : List Text → Json.Members → Json.Members
  | [], members => members
  | [key], members => Json.Members.set key value members
  | key :: path, members =>
    let inner :=
      match Json.Members.find? members key with
      | some (.object inner) => inner
      | _ => []
    Json.Members.set key (.object (putAt value path inner)) members

/-- Settings with the variables of an environment laid over them, in the order of the
overrides. -/
def applyOverrides (env : Environment) :
    List Override → Json.Members → Except SettingsFault Json.Members
  | [], members => .ok members
  | o :: os, members =>
    match env.active? o.name with
    | none => applyOverrides env os members
    | some value => do
      let value ← convert o.name value o.kind
      applyOverrides env os (putAt value o.path members)

/-- Settings with the variables of an environment laid over them. -/
def withEnvironment (env : Environment) (members : Json.Members) :
    Except SettingsFault Json.Members :=
  applyOverrides env overrides members

/-- A copy of settings with the variables of an environment laid over it. -/
def overridden (env : Environment) (members : Json.Members) : Except LoadError Json.Members := do
  (withEnvironment env (← members.copied.mapError .refused)).mapError .settings

/-- The variables of an environment that override settings. -/
def activeOverrides (env : Environment) : List Override :=
  overrides.filter fun o => (env.active? o.name).isSome

/-- Checks settings; the file is the one that an error names. -/
def check (file : Text) (settings : Json) : Except SettingsFault Unit :=
  match Violation.foremost? (schema.violations settings) with
  | none => .ok ()
  | some violation => .error (.violated file violation)

end Settings

end VisibleText
