import VisibleText.Bytes.Utf8
import VisibleText.Edit.Bound
import VisibleText.Json.Reader
import VisibleText.Schema.Basic

/-!
# Settings

The settings of a project: where its pages are, which routes are not for editors, how
far searches reach, and how much is logged. Settings are an object of JSON, so a
project may keep settings of its own among them.
-/

set_option autoImplicit false

namespace VisibleText.Settings

/-- The version of the program. -/
def programVersion : Text := text "0.1.0"

/-- The settings file that a project may have. -/
def defaultFile : Text := text "pagetext.config.json"

/-- The file with environment variables that a project may have. -/
def environmentFile : Text := text ".env"

/-- The settings that hold where a project says nothing else. -/
def defaults : Json.Members :=
  [ (text "version", .string programVersion),
    (text "pages_dir", .ofString "src/pages"),
    (text "base_path", .ofString "/admin"),
    (text "extraction", .record [("open_tag_window", .ofNat Reach.default.openTag)]),
    (text "patching", .record [("search_window", .ofNat Reach.default.search)]),
    (text "logging", .record [("level", .ofString "INFO"), ("format", .ofString "standard")]) ]

/-- What settings have to be. -/
def schema : Schema :=
  [ .kind .object,
    .members
      [ (text "version", [.kind .string]),
        (text "pages_dir", [.kind .string, .minLength 1]),
        (text "base_path", [.kind .string, .opening (text "/")]),
        (text "extraction",
          [.kind .object, .members [(text "open_tag_window", [.kind .integer, .minimum 1])]]),
        (text "patching",
          [.kind .object, .members [(text "search_window", [.kind .integer, .minimum 0])]]),
        (text "logging",
          [ .kind .object,
            .members
              [ (text "level",
                  [.oneOf (["DEBUG", "INFO", "WARNING", "ERROR", "CRITICAL"].map text)]),
                (text "format", [.oneOf (["standard", "json", "detailed"].map text)]) ] ]) ],
    .required [text "pages_dir", text "base_path"] ]

end VisibleText.Settings

namespace VisibleText.Json

/-! ## Laying settings over others

Members of the upper object win. Where both objects hold an object these are laid over
each other in turn, and everywhere else the upper value takes the whole place of the
lower one. Members keep the order of the lower object; new ones follow in the order of
the upper one.

Both objects are copied first, so neither may be too deep for that.
-/

mutual

/-- A value laid over another one. -/
def layOver (lower : Json) : Json → Json
  | .object upper =>
    match lower with
    | .object lower => .object (layMembers lower upper)
    | _ => .object upper
  | upper => upper

/-- Members laid over others, one after the other. -/
def layMembers (lower : Members) : List (Text × Json) → Members
  | [] => lower
  | (key, value) :: upper =>
    let laid :=
      match Members.find? lower key with
      | some below => layOver below value
      | none => value
    layMembers (Members.set key laid lower) upper

end

/-- An object laid over another one. -/
def Members.merge (lower upper : Members) : Members := layMembers lower upper

/-- How deep arrays and objects may stand in each other in an object that is copied: a copy of
each of them takes two calls. -/
def deepestCopied : Nat := nestedCalls / 2

/-- A copy of an object. -/
def Members.copied (members : Members) : Except Fault Members :=
  if deepestCopied < (object members).depth then .error (.tooDeep true) else .ok members

/-- A copy of an object laid over a copy of another one. -/
def Members.merged (lower upper : Members) : Except Fault Members := do
  return (← lower.copied).merge (← upper.copied)

end VisibleText.Json

namespace VisibleText

/-! ## Why settings cannot be loaded

Each cause comes with the file it was found in and with a hint on what to do, where
there is one. The wording of an error has a line for each of them.
-/

/-- What is wrong with settings. -/
inductive SettingsFault where
  /-- a settings file that was asked for is missing -/
  | fileNotFound (file : Text)
  /-- a settings file is not JSON, with what is wrong in it -/
  | notJson (file fault : Text)
  /-- a settings file holds something else than an object -/
  | notAnObject (file : Text)
  /-- the settings violate the schema -/
  | violated (file : Text) (violation : Violation)
  /-- a variable of the environment should be an integer -/
  | notAnInteger (name value : Text)
deriving DecidableEq

namespace SettingsFault

/-- What is wrong, in words. -/
def headline : SettingsFault → Text
  | fileNotFound file => text "Configuration file not found: " ++ file
  | notJson file fault => text "Invalid JSON in configuration file " ++ file ++ text ": " ++ fault
  | notAnObject file => text "Configuration file " ++ file ++ text " must contain a JSON object"
  | violated _ violation => text "Configuration validation failed: " ++ violation.message
  | notAnInteger name value =>
    text "Environment variable " ++ name ++ text "=" ++ quoted value ++
      text " is not an integer"

/-- The settings file that an error is about. -/
def file? : SettingsFault → Option Text
  | fileNotFound file => some file
  | notJson file _ => some file
  | notAnObject file => some file
  | violated file _ => some file
  | notAnInteger _ _ => none

/-- The settings that an error is about. -/
def invalidFields : SettingsFault → List Text
  | violated _ violation => if violation.path.isEmpty then [] else [violation.location]
  | _ => []

/-- What to do about an error. -/
def hint? (fault : SettingsFault) : Option Text :=
  match fault with
  | fileNotFound _ => some (text "Omit --config-path to run with built-in defaults")
  | notAnInteger name _ => some (text "Fix or unset " ++ name)
  | _ =>
    if fault.invalidFields.isEmpty then none
    else some (text "Check " ++ Text.join (text ", ") fault.invalidFields)

/-- The wording of an error. A file without a name and an empty hint have no line. -/
def message (fault : SettingsFault) : Text :=
  let line (name : String) (value : Option Text) : List Text :=
    match value with
    | none => []
    | some value => if value.isEmpty then [] else [text name ++ value]
  Text.unlines
    (fault.headline :: line "Config file: " fault.file? ++ line "Hint: " fault.hint?)

end SettingsFault

end VisibleText
