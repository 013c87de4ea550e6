import VisibleText.Json.Reader
import VisibleText.Project.Disk
import VisibleText.Settings.Environment
import VisibleText.Bytes.Utf8

/-!
# Loading settings

Settings are put together from the defaults, the settings file of the project, if there
is one, and the environment. A cache keeps what was loaded last and answers from it
until it is told to load again or to forget.
-/

set_option autoImplicit false

namespace VisibleText

/-- Where the settings of a project come from. -/
structure SettingsSource where
  /-- the root of the project -/
  root : Place
  /-- the path of the settings file -/
  file : Text
  /-- whether the file has to be there -/
  required : Bool

namespace SettingsSource

/-- The source of the settings of a project, with the path of the settings file if one
was asked for. -/
def ofFile (root : Place) : Option Text → SettingsSource
  | none => ⟨root, Settings.defaultFile, false⟩
  | some file => ⟨root, if file.isEmpty then Settings.defaultFile else file, true⟩

/-- The absolute path of the settings file. -/
def path (source : SettingsSource) : Text := Place.absolute source.root source.file

/-- The settings that the text of the settings file gives. -/
def parse (source : SettingsSource) (t : Text) : Except LoadError Json.Members :=
  match Json.read t with
  | .error failure =>
    if failure.fault.isOfForm then
      .error (.settings (.notJson source.path (failure.message t)))
    else .error (.refused failure.fault)
  | .ok (.object members) => .ok members
  | .ok _ => .error (.settings (.notAnObject source.path))

/-- What stands at the path of the settings file. A path from the root of the disk is
walked, and one that a disk cannot be given leads to nothing. Any other path is looked
for in the project. -/
def find (source : SettingsSource) (disk : Disk) : Except DiskFault (Option Entry) :=
  if Place.isAbsolute source.file then
    match disk.find [] source.path with
    | .error (.tooLong path) => .error (.tooLong path)
    | .error _ => .ok none
    | .ok found => .ok found
  else do disk.look (← Place.follow? source.root source.file)

/-- The settings of the settings file; there may be none. -/
def read (source : SettingsSource) (disk : Disk) : Except LoadError (Option Json.Members) := do
  match ← (source.find disk).mapError .disk with
  | none =>
    if source.required then .error (.settings (.fileNotFound source.path)) else return none
  | some (.folder _ _) => .error (.disk (.isAFolder source.path))
  | some .special => .error (.disk (.unopenable source.path))
  | some (.file content) =>
    let t ← (readLineText content).mapError .undecodable
    return some (← source.parse t)

/-- The settings of a project, with those of the settings file given. -/
def compose (source : SettingsSource) (env : Environment) (validate : Bool)
    (members : Json.Members) : Except LoadError Json.Members := do
  let merged ← (Settings.defaults.merged members).mapError .refused
  let settings ← Settings.overridden env merged
  if validate then (Settings.check source.file (.object settings)).mapError .settings
  return settings

end SettingsSource

/-- Settings with what is known of them. -/
structure SettingsCache where
  source : SettingsSource
  members : Json.Members
  isLoaded : Bool
  /-- the path of the settings file that was read last -/
  loadedFrom : Option Text

namespace SettingsCache

/-- A cache that knows nothing yet. -/
def start (source : SettingsSource) : SettingsCache := ⟨source, [], false, none⟩

/-- Forgets what was loaded. -/
def reset (c : SettingsCache) : SettingsCache := start c.source

/-- Loads the settings. If they are wrong, nothing counts as loaded from then on. -/
def load (c : SettingsCache) (disk : Disk) (env : Environment) (validate : Bool) :
    Except LoadError Json.Members × SettingsCache :=
  match c.source.read disk with
  | .error (.settings fault) => (.error (.settings fault), { c with isLoaded := false })
  | .error e => (.error e, c)
  | .ok found =>
    let c := { c with loadedFrom := found.map fun _ => c.source.path }
    match c.source.compose env validate (found.getD []) with
    | .error (.settings fault) => (.error (.settings fault), { c with isLoaded := false })
    | .error e => (.error e, c)
    | .ok members => (.ok members, { c with members := members, isLoaded := true })

/-- The settings, which are loaded if they are not yet, or if that is asked for. -/
def fetch (c : SettingsCache) (disk : Disk) (env : Environment) (force validate : Bool) :
    Except LoadError Json.Members × SettingsCache :=
  if c.isLoaded && !force then (.ok c.members, c) else c.load disk env validate

/-- The settings, which are loaded and checked if they are not loaded yet. -/
def settings (c : SettingsCache) (disk : Disk) (env : Environment) :
    Except LoadError Json.Members × SettingsCache :=
  c.fetch disk env false true

end SettingsCache

/-! ## Looking into settings -/

/-- The value that a path of keys leads to. -/
def Json.follow? (value : Json) : List Text → Option Json
  | [] => some value
  | key :: path =>
    match value.member? key with
    | none => none
    | some inner => inner.follow? path

/-- The setting of a key, whose parts are joined by dots. -/
def Json.Members.setting? (members : Json.Members) (key : Text) : Option Json :=
  (Json.object members).follow? (key.splitOn (.char '.'))

/-- A key below another one, if there is another one. -/
def keyBelow (above key : Text) : Text :=
  if above.isEmpty then key else above ++ text "." ++ key

mutual

/-- The keys of all settings in a value, below a key. -/
def Json.keysBelow (above : Text) : Json → List Text
  | .object members => membersKeysBelow above members
  | _ => []

/-- The keys of all settings among members, below a key. -/
def membersKeysBelow (above : Text) : List (Text × Json) → List Text
  | [] => []
  | (key, value) :: members =>
    keyBelow above key :: (value.keysBelow (keyBelow above key) ++ membersKeysBelow above members)

end

/-- The keys of all settings. -/
def Json.Members.allKeys (members : Json.Members) : List Text := membersKeysBelow [] members

/-- What is known of settings. Keys and variables are only named once settings are
loaded. -/
def SettingsCache.summary (c : SettingsCache) (env : Environment) : Json :=
  let keys := if c.isLoaded then c.members.allKeys else []
  let active := if c.isLoaded then Settings.activeOverrides env else []
  .record
    [ ("loaded", .bool c.isLoaded), ("config_file", .string c.source.file),
      ("loaded_from", .ofOption (c.loadedFrom.map Json.string)),
      ("project_root", .string c.source.root.toText),
      ("config_keys", .array (keys.map Json.string)),
      ("environment_overrides", .array (active.map fun o =>
        .record [("env_var", .string o.name), ("config_key", .string o.key)])) ]

end VisibleText
