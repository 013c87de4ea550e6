import VisibleText.Console.Styled
import VisibleText.Json.Reader
import VisibleText.Project.Place
import VisibleText.Settings.Environment
import VisibleText.Site.Basic

/-!
# What a command reports

A command reports blocks of text, and then ends: with a code, or because of something
that it did not expect. The blocks are shown one after the other; one whose styles are
faulty ends the report.

A column of a table is as wide as the widest of its cells. Tabs count for nothing there, so
a line with tabs may be too long for its column; then it is broken, or cut off.

Tags that do not fit together are found before anything of a block is shown. A style that
cannot be shown is found where it is asked for.
-/

set_option autoImplicit false

namespace VisibleText.Console

/-- A column of a table. -/
structure Column where
  heading : Text
  /-- whether a line that is too long for the column is broken -/
  isBroken : Bool

/-- A block of text. Lines and the cells of tables are styled. -/
inductive Block where
  | lines (t : Text)
  | panel (title body : Text)
  | table (title : Text) (columns : List Column) (rows : List (List Text))
  /-- text that is shown as it is -/
  | verbatim (t : Text)

/-- What a command did not expect. -/
inductive Crash where
  | undecodable (fault : DecodeFault)
  | disk (fault : DiskFault)
  | unsettable (fault : VariableFault)
  /-- JSON that is well formed, but refused -/
  | refused (fault : Json.Fault)
  | style (fault : StyleFault)
  /-- settings that gave no site, with the wording -/
  | unusable (message : Text)

/-- How a command ends. -/
inductive Ending where
  | exit (code : Nat)
  | crash (cause : Crash)
  /-- the command crashed, and the crash was shown -/
  | failed

/-- What a command reports. -/
structure Report where
  blocks : List Block
  ending : Ending

namespace Block

/-- Cells next to each other, with bars between them. -/
def rowLine (cells : List Text) : Text := Text.join (text " │ ") cells

/-- The lines of a row of a table: as many as the cell with the most lines has. -/
def rowLines (cells : List (List Text)) : List Text :=
  let height := (cells.map List.length).foldl max 0
  (List.range height).map fun i => rowLine (cells.map fun cell => cell.getD i [])

/-- What ends a line where the width of a cell is measured. -/
def isLineEnd (c : CodePoint) : Bool :=
  [0x0A, 0x1C, 0x1D, 0x1E, 0x85, 0x2028, 0x2029].contains c.val

/-- How many columns the longest line of a cell takes, apart from its tabs. -/
def cellWidth (cell : Text) : Nat :=
  ((List.splitOnP isLineEnd cell).map Text.columns).foldl max 0

/-- The lines of a cell in a column of some width. -/
def cellLines (column : Column) (width : Nat) (cell : SpannedText) : List SpannedText :=
  cell.shownLines.flatMap fun line =>
    if column.isBroken then line.fitted width else [line.cutOff width]

/-- Lines as they are shown, if the styles in them can be. -/
def written (lines : List SpannedText) : Except StyleFault (List Text) := do
  lines.forM checkStyles
  return lines.map SpannedText.text

/-- What is shown of each cell of a column. -/
def columnCells (cells : List Text) : Except StyleFault (List SpannedText) := cells.mapM shownText

/-- The lines of each cell of a column. -/
def columnLines (column : Column) (cells : List SpannedText) : List (List SpannedText) :=
  let width := (cells.map fun cell => cellWidth cell.text).foldl max 0
  cells.map (cellLines column width)

/-- The lines of rows, each given by the lines of its cells. -/
def rowsWritten : List (List (List SpannedText)) → Except StyleFault (List Text)
  | [] => .ok []
  | row :: rows => do
    let first ← row.mapM written
    return rowLines first ++ (← rowsWritten rows)

/-- The lines of a table. The cells are looked at column by column before anything is
shown, and are shown row by row. -/
def tableShown (title : Text) (columns : List Column) (rows : List (List Text)) :
    Except StyleFault (List Text) := do
  let cells ← columns.zipIdx.mapM fun (column, i) => do
    return columnLines column (← columnCells (column.heading :: rows.map (·.getD i [])))
  let first ← written (← shownText title).shownLines
  let others ← rowsWritten <|
    (List.range (rows.length + 1)).map fun i => cells.map (·.getD i [])
  return first ++ others

/-- The lines of a block as they are shown. -/
def shown : Block → Except StyleFault (List Text)
  | lines t => do written (← shownText t).shownLines
  | panel title body => do
    let body := SpannedText.plain (withoutControls body)
    written ((← shownText title) :: body.shownLines)
  | table title columns rows => tableShown title columns rows
  | verbatim t => .ok (t.splitOn (.char '\n'))

/-- The lines of blocks as they are shown, up to a block whose styles are faulty. -/
def shownAll : List Block → List Text × Option StyleFault
  | [] => ([], none)
  | block :: blocks =>
    match block.shown with
    | .error fault => ([], some fault)
    | .ok first =>
      let (others, fault) := shownAll blocks
      (first ++ others, fault)

/-- All that is written for blocks, up to one whose styles are faulty. -/
def writtenAll : List Block → Text
  | [] => []
  | block :: blocks =>
    match block, block.shown with
    | verbatim t, _ => t ++ writtenAll blocks
    | _, .ok own => own.flatMap (· ++ newline) ++ writtenAll blocks
    | _, .error _ => []

end Block

/-- The wording of what was not expected. -/
def Crash.message : Crash → Text
  | undecodable fault => fault.message
  | disk fault => fault.message
  | unsettable fault => fault.message
  | refused fault => text fault.message
  | style fault => fault.message
  | unusable message => message

namespace Report

/-- What is shown of a report, and how the command ends. -/
def shown (r : Report) : List Text × Ending :=
  match Block.shownAll r.blocks with
  | (lines, none) => (lines, r.ending)
  | (lines, some fault) => (lines, .crash (.style fault))

/-- The line for a crash. -/
def crashBlock (cause : Crash) : Block := .lines (text "[red]Error:[/red] " ++ cause.message)

/-- What is shown of a report if crashes are shown too. -/
def shownWithCrash (r : Report) : List Text × Ending :=
  match r.shown with
  | (lines, .crash cause) =>
    match (crashBlock cause).shown with
    | .ok more => (lines ++ more, .failed)
    | .error fault => (lines, .crash (.style fault))
  | shown => shown

/-- All that is written for a report, up to a block whose styles are faulty. -/
def written (r : Report) : Text := Block.writtenAll r.blocks

end Report

/-! ## Showing what went wrong

What goes wrong is shown as a line with a label. A command about pages has labels of its
own, and says what it was doing when something happened that it did not expect.
-/

/-- What kind of thing went wrong. -/
inductive FailureKind where
  | settings
  | page
  | parse
  | conflict
  | batch
  | permission
  | unexpected
deriving DecidableEq

/-- What went wrong, in words. -/
structure Failing where
  kind : FailureKind
  message : Text

namespace Failing

/-- A line with a label in a style. -/
def labelled (style label : String) (message : Text) : Block :=
  .lines (text "[" ++ text style ++ text "]" ++ text label ++ text "[/" ++ text style ++
    text "] " ++ message)

/-- The label of what went wrong outside the commands about pages. -/
def label : FailureKind → String
  | .settings => "Configuration Error:"
  | .permission => "Permission Denied:"
  | _ => "Error:"

/-- What is shown of something that went wrong. -/
def block (f : Failing) : Block := labelled "red" (label f.kind) f.message

/-- What is shown of something that went wrong in a command about pages. -/
def pageBlocks (operation : String) (f : Failing) : List Block :=
  match f.kind with
  | .parse =>
    [ labelled "red" "Parse Error:" f.message,
      .lines (text "The page was not modified. Fix the markup and try again.") ]
  | .conflict => [labelled "yellow" "Conflict:" f.message]
  | .batch => [labelled "red" "Invalid edits:" f.message]
  | .page => [labelled "red" "Error:" f.message]
  | _ =>
    [labelled "red" "Error:" (text ("Unexpected error during " ++ operation ++ ": ") ++ f.message)]

/-- The report of something that went wrong in a command about pages. -/
def pageReport (operation : String) (f : Failing) : Report := ⟨f.pageBlocks operation, .exit 1⟩

/-- What goes wrong in a store. -/
def ofStoreError : StoreError → Failing
  | .outside path => ⟨.page, invalidPathMessage (some path)⟩
  | .conflict path => ⟨.conflict, conflictMessage path⟩
  | .undecodable fault => ⟨.unexpected, fault.message⟩
  | .unencodable fault => ⟨.unexpected, fault.message⟩
  | .disk fault => ⟨.unexpected, fault.message⟩

/-- What goes wrong while a page is edited. -/
def ofDraftError : DraftError → Failing
  | .edit (.parse e) => ⟨.parse, e.message⟩
  | .edit .unencodable => ⟨.unexpected, text "'utf-8' codec can't encode the page"⟩
  | .edit (.undecodable fault) => ⟨.unexpected, fault.message⟩
  | .scanBound =>
    ⟨.unexpected, text "'float' object cannot be interpreted as an integer"⟩
  | .searchBound =>
    ⟨.unexpected,
      text "slice indices must be integers or None or have an __index__ method"⟩
  | .notText kind =>
    ⟨.unexpected, text "'" ++ text kind ++ text "' object has no attribute 'encode'"⟩

/-- What goes wrong on a site. -/
def ofSiteError : SiteError → Failing
  | .invalidPage path => ⟨.page, invalidPathMessage path⟩
  | .pageNotFound page => ⟨.page, pageNotFoundMessage page⟩
  | .batch e => ⟨.batch, e.message⟩
  | .draft _ e => ofDraftError e
  | .store e => ofStoreError e
  | .disk fault => ⟨.unexpected, fault.message⟩
  | .folderNotText => ⟨.unexpected, text "the folder of pages is no text"⟩
  | .basePathNotText => ⟨.unexpected, text "the route of the editors is no text"⟩

end Failing

end VisibleText.Console
