import VisibleText.Edit.Apply
import VisibleText.Edit.Draft
import VisibleText.Log.Record
import VisibleText.Page.Listing
import VisibleText.Project.Store
import VisibleText.Settings.Cache

/-!
# Sites

A site is a project whose settings are known: where its pages are, which routes belong
to the editors, and how far is looked. Settings that were checked always give a site.
Settings that were not may be of a kind that gives none; and a folder of pages or a route
of the editors that is no text gives a site all the same, but one that fails as soon as it
is needed.
-/

set_option autoImplicit false

namespace VisibleText

/-- A project whose settings are known. -/
structure Site where
  store : Store
  /-- the path of the folder of pages, without slashes at its end -/
  pagesFolder : Option Text
  /-- the route below which everything belongs to the editors -/
  basePath : Option Text
  bounds : Bounds

/-- Why settings give no site. -/
inductive SiteFault where
  /-- the searches cannot be bounded so -/
  | reach (e : ReachError)
  /-- a bound is no number -/
  | notANumber
deriving DecidableEq

/-- Why something cannot be done on a site. -/
inductive SiteError where
  | invalidPage (path : Option Text)
  | pageNotFound (page : Text)
  | batch (e : BatchError)
  | draft (page : Text) (e : DraftError)
  | store (e : StoreError)
  | disk (e : DiskFault)
  /-- the folder of pages is no text -/
  | folderNotText
  /-- the route of the editors is no text -/
  | basePathNotText

/-- The wording for a page that is missing. -/
def pageNotFoundMessage (page : Text) : Text :=
  text "Page '" ++ page ++ text "' not found"

namespace Site

/-- A setting that is a bound, with what holds if it is missing. -/
def bound (settings : Json.Members) (key : String) (otherwise : Nat) : Except SiteFault Bound :=
  match settings.setting? (text key) with
  | none => .ok (.whole otherwise)
  | some value =>
    match Bound.ofJson? value with
    | some b => .ok b
    | none => .error .notANumber

/-- A setting that is a text, with what holds if it is missing. -/
def words? (settings : Json.Members) (key otherwise : String) : Option Text :=
  match settings.setting? (text key) with
  | none => some (text otherwise)
  | some (.string t) => some t
  | some _ => none

/-- The site of the project below a root, with its settings. The bound of opening tags is
looked at before the other one is. -/
def ofSettings (root : Place) (settings : Json.Members) : Except SiteFault Site := do
  let openTag ← bound settings "extraction.open_tag_window" Reach.default.openTag
  if !openTag.isPositive then .error (.reach .openTagNotPositive)
  let search ← bound settings "patching.search_window" Reach.default.search
  let bounds ← (Bounds.ofGiven openTag search).mapError .reach
  let folder := words? settings "pages_dir" "src/pages"
  return {
    store := ⟨root⟩
    pagesFolder := folder.map (Text.dropLastWhile (· == .char '/'))
    basePath := words? settings "base_path" "/admin"
    bounds := bounds }

/-- The path of a page in the project. -/
def storePath (site : Site) (page : PagePath) : Except SiteError Text :=
  match site.pagesFolder with
  | none => .error .folderNotText
  | some folder => .ok (folder ++ text "/" ++ page.path)

/-- The path of the page that a text names. -/
def pagePath (name : Option Text) : Except SiteError PagePath :=
  match name.bind PagePath.ofText? with
  | some page => .ok page
  | none => .error (.invalidPage name)

/-- The source of a page. -/
def readPage (site : Site) (disk : Disk) (page : PagePath) : Except SiteError Text := do
  match ← (site.store.readText disk (← site.storePath page)).mapError .store with
  | none => .error (.pageNotFound page.path)
  | some source => return source

end Site

/-! ## Editing the pages of a site

A batch of edits is carried out in two steps. The first one reads the page and works
out what becomes of it; nothing is written. The second one writes the page, if
something is to be written, and makes the record. Between the two steps other writers
may change the page; then the second one refuses to write.
-/

/-- A batch of edits that was worked out, but not written. -/
structure PreparedEdits where
  site : Site
  page : PagePath
  /-- the path of the page in the project -/
  storePath : Text
  /-- the source of the page as it was read -/
  source : Text
  outcome : DraftOutcome
  /-- whether the batch is only tried -/
  isDryRun : Bool

namespace PreparedEdits

/-- Whether the page is to be written: some edit was carried out, and not only tried. -/
def writes (p : PreparedEdits) : Bool := !p.isDryRun && !p.outcome.applied.isEmpty

/-- The record of the batch. -/
def record (p : PreparedEdits) : Log.AuditRecord :=
  Log.AuditRecord.ofOutcome p.page.path p.isDryRun p.outcome

/-- Writes the page, if it is to be written, and gives the record. -/
def commit (p : PreparedEdits) (disk : Disk) (tag : Text) :
    Except SiteError Log.AuditRecord × Disk :=
  if p.writes then
    match p.site.store.writeText disk tag p.storePath p.outcome.source (some p.source) with
    | (.error e, disk) => (.error (.store e), disk)
    | (.ok _, disk) => (.ok p.record, disk)
  else (.ok p.record, disk)

end PreparedEdits

namespace Site

/-- Works out a batch of edits of the page that a text names. What is wrong with the
edits themselves matters only if the page is there, but an empty batch is refused
before the page is read. -/
def prepare (site : Site) (disk : Disk) (name : Option Text)
    (batch : Except BatchError (List EditDraft)) (isDryRun : Bool) :
    Except SiteError PreparedEdits := do
  let page ← pagePath name
  if let .ok [] := batch then .error (.batch .empty)
  let path ← site.storePath page
  let source ← site.readPage disk page
  let drafts ← batch.mapError .batch
  let outcome ← (applyDrafts site.bounds source drafts).mapError (.draft page.path)
  return ⟨site, page, path, source, outcome, isDryRun⟩

end Site

end VisibleText
