import VisibleText.Console.Command
import VisibleText.Console.Report
import VisibleText.Json.Basic
import VisibleText.Settings.EnvironmentFile
import VisibleText.Site.Basic
import VisibleText.Site.Content

/-!
# Running commands

A command runs in a folder of a disk, with an environment. It reads what it needs and
makes a report. The command that carries out edits stops before it writes, so that the
writing can be done on the disk as it is by then.
-/

set_option autoImplicit false

namespace VisibleText.Console

/-- Where a command runs. -/
structure Workplace where
  disk : Disk
  /-- the folder that relative paths start from -/
  folder : Place
  env : Environment

/-! ## Settings -/

/-- A report without blocks of a command that crashed. -/
def crashed (cause : Crash) : Report := ⟨[], .crash cause⟩

/-- The report of a command whose settings could not be loaded. -/
def loadReport : LoadError → Report
  | .settings fault => ⟨[(Failing.mk .settings fault.message).block], .exit 1⟩
  | .undecodable fault => crashed (.undecodable fault)
  | .disk fault => crashed (.disk fault)
  | .refused fault => crashed (.refused fault)

/-- The settings of a project, with what is known of them. -/
structure ProjectSettings where
  cache : SettingsCache
  members : Json.Members
  /-- the environment with the variables of the project's own file -/
  env : Environment

namespace Workplace

/-- The root of the project that an invocation is about. -/
def root (w : Workplace) (i : Invocation) : Place :=
  match i.root with
  | none => w.folder
  | some path => Place.follow w.folder path

/-- Loads the settings of the project that an invocation is about. -/
def settings (w : Workplace) (i : Invocation) : Except Report ProjectSettings :=
  match EnvironmentFile.loadAt w.disk (w.root i) w.env with
  | (some (.undecodable fault), _) => .error (crashed (.undecodable fault))
  | (some (.unsettable fault), _) => .error (crashed (.unsettable fault))
  | (none, env) =>
    let source := SettingsSource.ofFile (w.root i) i.settingsFile
    match (SettingsCache.start source).settings w.disk env with
    | (.error e, _) => .error (loadReport e)
    | (.ok members, cache) => .ok ⟨cache, members, env⟩

/-- The site that an invocation is about. -/
def site (w : Workplace) (i : Invocation) : Except Report Site := do
  let settings ← w.settings i
  match Site.ofSettings (w.root i) settings.members with
  | .ok site => return site
  | .error (.reach e) => .error (crashed (.unusable e.message))
  | .error _ => .error (crashed (.unusable (text "settings of the wrong kind")))

end Workplace

/-! ## Commands that only read -/

/-- A setting as it is shown. -/
def settingText (members : Json.Members) (key : String) : Text :=
  ((members.setting? (text key)).getD .null).plainText

/-- What is shown about the settings of a project. -/
def infoBlock (root : Place) (s : ProjectSettings) : Block :=
  let line (name : String) (key : String) (unit : String) : Text :=
    text ("• " ++ name ++ ": ") ++ settingText s.members key ++ text unit
  let active := Settings.activeOverrides s.env
  .panel (text "System Information") <| Text.unlines <|
    [ text "Page Text Information", [],
      text "Version: " ++ settingText s.members "version",
      text "Config file: " ++ s.cache.loadedFrom.getD (text "built-in defaults"),
      text "Project root: " ++ root.toText, [],
      text "Configuration:",
      line "Pages directory" "pages_dir" "",
      line "Admin base path" "base_path" "",
      line "Open tag window" "extraction.open_tag_window" " bytes",
      line "Search window" "patching.search_window" " bytes",
      line "Log level" "logging.level" "" ] ++
    (if active.isEmpty then []
      else
        [[], text "Environment overrides:"] ++
          active.map fun o => text "• " ++ o.name ++ text " → " ++ o.key)

/-- The command that shows the settings. -/
def runInfo (w : Workplace) (i : Invocation) : Except Report Report := do
  let settings ← w.settings i
  return ⟨[infoBlock (w.root i) settings], .exit 0⟩

/-- The command that shows the version. -/
def runVersion : Report :=
  ⟨[.lines (text "Page Text [blue]v" ++ Settings.programVersion ++ text "[/blue]")], .exit 0⟩

/-- JSON with a line feed behind it. -/
def jsonBlock (ascii : Bool) (value : Json) : Block :=
  .verbatim (Json.written (.indented ascii) value ++ newline)

/-- What is shown of listed pages. -/
def listingBlock (site : Site) (pages : List ListedPage) : Block :=
  if pages.isEmpty then
    .lines (text "[yellow]No pages found in[/yellow] " ++ site.pagesFolder.getD [])
  else
    .table (text "Pages (" ++ Text.ofNat pages.length ++ text ")")
      (["Name", "Path", "Route"].map fun name => ⟨text name, true⟩)
      (pages.map fun page => [page.name, page.path, page.route])

/-- The command that lists pages. -/
def runListing (w : Workplace) (i : Invocation) (asJson : Bool) : Except Report Report := do
  let site ← w.site i
  match site.pages w.disk with
  | .error e => return (Failing.ofSiteError e).pageReport "page listing"
  | .ok pages =>
    let block :=
      if asJson then jsonBlock true (.array (pages.map ListedPage.toJson))
      else listingBlock site pages
    return ⟨[block], .exit 0⟩

/-- A value is shown with no more characters than this. -/
def previewLength : Nat := 60

/-- A value on one line, shortened if it is long. -/
def preview (value : Text) : Text :=
  let value := value.map fun c => if c.isSurrogate then .char '?' else c
  let flat := Text.join (text " ") (Text.words value)
  if flat.isEmpty then text "[dim](empty)[/dim]"
  else if previewLength < flat.length then flat.take (previewLength - 1) ++ text "…"
  else flat

/-- A table of the fields of a group. -/
def groupBlock (group : Text) (fields : List Field) : Block :=
  .table (if group.isEmpty then text "(page)" else group)
    [⟨text "Id", false⟩, ⟨text "Label", true⟩, ⟨text "Value", true⟩]
    (fields.map fun f => [f.id, f.label, preview f.value])

/-- What is shown of the content of a page. -/
def contentBlocks (content : PageContent) : List Block :=
  if content.fields.isEmpty then
    [.lines (text "[yellow]No editable text in[/yellow] " ++ content.page)]
  else
    (Field.grouped content.fields).map (fun (group, fields) => groupBlock group fields) ++
      if content.collections.isEmpty then []
      else [.lines (text "Collections: " ++ Text.join (text ", ") content.collections)]

/-- The command that shows the fields of a page. -/
def runFields (w : Workplace) (i : Invocation) (page : Text) (asJson : Bool) :
    Except Report Report := do
  let site ← w.site i
  match site.content w.disk (some page) with
  | .error e => return (Failing.ofSiteError e).pageReport "field extraction"
  | .ok content =>
    let blocks := if asJson then [jsonBlock false content.toJson] else contentBlocks content
    return ⟨blocks, .exit 0⟩

/-! ## Carrying out edits -/

/-- Edits that were worked out, but not written. -/
structure PendingEdits where
  /-- the page as it was named -/
  page : Text
  /-- how many edits were asked for -/
  total : Nat
  prepared : PreparedEdits

/-- How far a command got. -/
inductive Progress where
  | done (report : Report)
  | pending (edits : PendingEdits)

/-- A table of the edits that were dropped. -/
def droppedBlock (dropped : List DroppedDraft) : Block :=
  .table (text "Dropped edits")
    [⟨text "Id", false⟩, ⟨text "Reason", true⟩, ⟨text "Old value", true⟩]
    (dropped.map fun d =>
      [d.draft.id, text d.reason.name, preview d.draft.oldValue.plainText])

/-- The bytes of the edits file; there may be none. -/
def batchFile? (w : Workplace) (file : Text) : Except DiskFault (Option Bytes) := do
  match ← w.disk.find w.folder file with
  | some (.file content) => return some content
  | some .special => .error (.unopenable (Place.tidied file))
  | _ => return none

/-- The batch that an edits file holds. -/
def readBatchFile (file : Text) (content : Bytes) : Except Report Json :=
  match readLineText content with
  | .error fault => .error (crashed (.undecodable fault))
  | .ok t =>
    match Json.read t with
    | .ok value => .ok value
    | .error failure =>
      if failure.fault.isOfForm then
        let line := text "[red]Invalid JSON in " ++ Place.tidied file ++ text ":[/red] " ++
          failure.message t
        .error ⟨[.lines line], .exit 1⟩
      else .error (crashed (.refused failure.fault))

/-- The words for an operation in messages. -/
def applying : String := "edit application"

namespace PendingEdits

/-- The report of edits that were carried out. -/
def report (p : PendingEdits) : Report :=
  let outcome := p.prepared.outcome
  let verb := if p.prepared.isDryRun then "Would apply " else "Applied "
  let headline := text "[green]" ++ text verb ++ Text.ofNat outcome.applied.length ++
    text " of " ++ Text.ofNat p.total ++ text " edits[/green] to " ++ p.page
  let applied := outcome.applied.map fun id => Block.lines (text "  [green]✓[/green] " ++ id)
  let dropped := if outcome.dropped.isEmpty then [] else [droppedBlock outcome.dropped]
  ⟨.lines headline :: applied ++ dropped, .exit (if outcome.applied.isEmpty then 1 else 0)⟩

/-- Writes the page, if it is to be written, and makes the report. -/
def finish (p : PendingEdits) (disk : Disk) (tag : Text) : Report × Disk :=
  match p.prepared.commit disk tag with
  | (.error e, disk) => ((Failing.ofSiteError e).pageReport applying, disk)
  | (.ok _, disk) => (p.report, disk)

end PendingEdits

/-- The command that carries out edits, up to where it writes. -/
def startEdits (w : Workplace) (i : Invocation) (page file : Text) (content : Bytes)
    (isDryRun : Bool) : Except Report PendingEdits := do
  let value ← readBatchFile file content
  let site ← w.site i
  match parseBatch value with
  | .error e => .error ((Failing.ofSiteError (.batch e)).pageReport applying)
  | .ok edits =>
    match site.prepare w.disk (some page) (.ok (edits.map EditDraft.ofEdit)) isDryRun with
    | .error e => .error ((Failing.ofSiteError e).pageReport applying)
    | .ok prepared => return ⟨page, edits.length, prepared⟩

/-! ## All commands -/

/-- The report of a command whose arguments are refused. -/
def refusal : Report := ⟨[], .exit 2⟩

/-- What is shown when help is asked for. -/
def helpReport : Report where
  blocks :=
    [ .verbatim <| Text.unlines <|
        [ "Usage: page-text [OPTIONS] COMMAND [ARGS]...",
          "",
          "Options:",
          "  -c, --config-path PATH   Path to configuration file",
          "  -r, --project-root PATH  Project root directory",
          "  -v, --verbose            Enable verbose logging",
          "  -h, --help               Show this message and exit",
          "",
          "Commands:",
          "  info                                   Show configuration status",
          "  version                                Show version information",
          "  pages list [--json]                    List the editable pages",
          "  pages fields [--json] PAGE             Show the text fields of a page",
          "  pages apply [--dry-run] PAGE FILE      Apply a batch of text edits",
          "" ].map text ]
  ending := .exit 0

/-- A report, whichever way it came about. -/
def settled : Except Report Report → Report
  | .ok report => report
  | .error report => report

/-- Runs the command that carries out edits, up to where it writes. The edits file has to
be a file that is there. -/
def runEdits (w : Workplace) (i : Invocation) (page file : Text) (isDryRun : Bool) : Progress :=
  match batchFile? w file with
  | .error (.tooLong _) => .done refusal
  | .error fault => .done (crashed (.disk fault))
  | .ok none => .done refusal
  | .ok (some content) =>
    match startEdits w i page file content isDryRun with
    | .error report => .done report
    | .ok pending => .pending pending

/-- Runs a command, up to where it writes. -/
def runCommand (w : Workplace) (i : Invocation) : Command → Progress
  | .info => .done (settled (runInfo w i))
  | .version => .done runVersion
  | .listPages asJson => .done (settled (runListing w i asJson))
  | .showFields page asJson => .done (settled (runFields w i page asJson))
  | .applyEdits page file isDryRun => runEdits w i page file isDryRun

/-- What is wrong with the root of the project, if it keeps every command from being run:
it may be missing, but it may not be a file. -/
def rootRefusal? (w : Workplace) (i : Invocation) : Option Report :=
  match i.root.map (w.disk.find w.folder) with
  | none => none
  | some (.error (.tooLong _)) => none
  | some (.error fault) => some (crashed (.disk fault))
  | some (.ok (some (.file _))) => some refusal
  | some (.ok _) => none

/-- Does what arguments ask for, up to where something is written. The root of the project
is looked at before the command is. -/
def start (w : Workplace) (args : List Text) : Progress :=
  match Request.ofArguments args with
  | .refused => .done refusal
  | .help => .done helpReport
  | .invoke i =>
    match rootRefusal? w i with
    | some report => .done report
    | none =>
      match CommandRequest.ofWords i.words with
      | .refused => .done refusal
      | .help => .done helpReport
      | .run command => runCommand w i command

end VisibleText.Console
