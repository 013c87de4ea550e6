import VisibleText.Json.Basic
import VisibleText.Page.Listing
import VisibleText.Site.Basic
import VisibleText.Text.Letter
import VisibleText.Text.Search

/-!
# What is on the pages of a site

The pages of a site, the fields of a page, and the collections that it reads. The
fields of a page are shown in groups, in the order in which the groups first come.
-/

set_option autoImplicit false

namespace VisibleText.Page

/-! ## Collections that a page reads

The frontmatter of a page may read collections of content, by calls that name them
between quotes. The frontmatter stands between two fences, the first of them at the
very start of the page and each at the start of a line.
-/

open VisibleText.Text (after? cutAt?)

/-- The fence before and behind frontmatter. -/
def fence : Text := text "---"

/-- What follows the end of a line. -/
def afterLineEnd? : Text → Option Text
  | .char '\r' :: .char '\n' :: t => some t
  | .char '\n' :: t => some t
  | _ => none

/-- A line without the carriage return at its end, if it has one. -/
def withoutReturn (t : Text) : Text :=
  if t.getLast? = some (.char '\r') then t.dropLast else t

/-- The text between the fences. -/
def fenced? (source : Text) : Option Text := do
  let t ← after? fence source
  let t ← afterLineEnd? t
  let (front, _) ← cutAt? (newline ++ fence) t
  return withoutReturn front

/-- The calls that read collections. -/
def readers : List Text := ["getCollection", "getEntry"].map text

/-- Whether a text starts with a quote. -/
def startsWithQuote : Text → Bool
  | c :: _ => c.isAmong ['\'', '"']
  | [] => false

/-- The collection that is read by a call at the start of a text. -/
def collectionAt? (t : Text) : Option Text := do
  let t ← readers.findSome? fun reader => after? reader t
  let t ← after? (text "(") (Text.trimStart t)
  let t := Text.trimStart t
  let name := (t.drop 1).takeWhile CodePoint.isWordPart
  if startsWithQuote t && !name.isEmpty && startsWithQuote (t.drop (1 + name.length)) then
    some name
  else none

/-- The collections that are read by the calls in a text. A name of a call counts only
where a word starts. -/
def collectionsIn : (insideWord : Bool) → Text → List Text
  | _, [] => []
  | insideWord, c :: t =>
    let found := if insideWord then none else collectionAt? (c :: t)
    found.toList ++ collectionsIn c.isWordPart t

/-- The collections that a page reads, each once, in the order of the first calls. -/
def collections (source : Text) : List Text :=
  match fenced? source with
  | none => []
  | some front => (collectionsIn false front).eraseDups

end VisibleText.Page

namespace VisibleText

/-! ## Content -/

/-- Fields in groups, each group at the place of its first field. -/
def Field.grouped (fields : List Field) : List (Text × List Field) :=
  (fields.map Field.group).eraseDups.map fun group =>
    (group, fields.filter fun field => field.group = group)

/-- What may be edited on a page. -/
structure PageContent where
  page : Text
  fields : List Field
  /-- the collections that the page reads -/
  collections : List Text

namespace Site

/-- The folder of pages; there may be none. A path from the root of the disk is walked,
any other one is looked for in the project. -/
def folder (site : Site) (disk : Disk) (path : Text) : Except DiskFault (Option Entry) :=
  Disk.orAbsent <|
    if Place.isAbsolute path then disk.find [] (Place.tidied path)
    else do disk.look (← Place.follow? site.store.root path)

/-- The pages of a site, without those that belong to the editors. The route of the editors is
needed as soon as a page is come to. -/
def pages (site : Site) (disk : Disk) : Except SiteError (List ListedPage) :=
  match site.pagesFolder with
  | none => .error .folderNotText
  | some path => do
    let folder ← (site.folder disk path).mapError .disk
    let path := Place.absolute site.store.root path
    match site.basePath, ListedPage.inFolder path folder with
    | some basePath, _ => (ListedPage.list path folder basePath).mapError .disk
    | none, ([], none) => return []
    | none, ([], some fault) => .error (.disk fault)
    | none, _ => .error .basePathNotText

/-- What may be edited on the page that a text names. -/
def content (site : Site) (disk : Disk) (name : Option Text) : Except SiteError PageContent := do
  let page ← pagePath name
  let source ← site.readPage disk page
  let fields ← (Field.ofPageWithin site.bounds.openTag source).mapError (.draft page.path)
  return ⟨page.path, fields, Page.collections source⟩

end Site

/-! ## What clients see as JSON

The shapes in which pages, fields and the content of a page are handed to clients.
-/

/-- The name of a kind of fields. -/
def FieldKind.name : FieldKind → String
  | .text => "text"
  | .attribute => "attribute"

/-- A field for clients. -/
def Field.toJson (f : Field) : Json :=
  .record
    [ ("id", .string f.id), ("label", .string f.label), ("value", .string f.value),
      ("kind", .ofString f.kind.name), ("offset", .ofNat f.range.start),
      ("length", .ofNat f.range.length), ("multiline", .bool f.multiline),
      ("group", .string f.group) ]

/-- A listed page for clients. -/
def ListedPage.toJson (page : ListedPage) : Json :=
  .record
    [("name", .string page.name), ("path", .string page.path), ("route", .string page.route)]

/-- The content of a page for clients. -/
def PageContent.toJson (content : PageContent) : Json :=
  .record
    [ ("page", .string content.page), ("fields", .array (content.fields.map Field.toJson)),
      ("collectionRefs", .array (content.collections.map Json.string)) ]

end VisibleText
