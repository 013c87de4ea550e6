import VisibleText.Project.Disk
import VisibleText.Text.Case
import VisibleText.Text.Letter
import VisibleText.Text.Printable
import VisibleText.Text.Search

/-!
# The pages of a folder

A page is named by its path below the folder of pages, and listed with its route. Not every page
that is listed has a path that names a page.
-/

set_option autoImplicit false

namespace VisibleText

/-! ## Paths of pages

A page is named by its path below the folder of pages. Only paths of plain characters
that end in the suffix of pages are accepted, and none that could lead out of the
folder. Backslashes are taken as slashes.
-/

/-- The suffix of the files that are pages. -/
def pageSuffix : Text := text ".astro"

/-- Whether a code point may stand in the path of a page. -/
def CodePoint.isPathSign (c : CodePoint) : Bool := c.isWordPart || c.isAmong ['-', '/', '.']

/-- Whether a text is the path of a page: it has the suffix of pages and something
before it, no two dots in a row, and only plain characters. -/
def Text.isPagePath (t : Text) : Bool :=
  t.endsWith pageSuffix && decide (pageSuffix.length < t.length) && !t.contains (text "..") &&
    t.all CodePoint.isPathSign

/-- The path of a page. -/
structure PagePath where
  path : Text
  isPagePath : path.isPagePath = true
deriving DecidableEq

namespace PagePath

/-- A path with slashes for its backslashes. -/
def normalized (t : Text) : Text := t.substitute (.char '\\') (text "/")

/-- The path of a page that a text gives, if it gives one. -/
def ofText? (t : Text) : Option PagePath :=
  if h : (normalized t).isPagePath = true then some ⟨normalized t, h⟩ else none

end PagePath

/-- The wording for a path that is not accepted. -/
def invalidPathMessage (path : Option Text) : Text :=
  text "Invalid page path: " ++ (path.map quoted).getD (text "None")

/-! ## Listing

Pages are what stands in a folder, or in the folders below it, under a name with the suffix
of pages and is no folder. What has a bracket in its name stands for many routes at once and
is left out, and so are pages whose routes belong to the editors.

A folder whose entries cannot be listed is passed over, with all that is in it. What is come
to has to be looked at, be it a page or not, and the first that cannot be looked at ends the
listing.
-/

/-- A page as it is listed. -/
structure ListedPage where
  /-- what the page is called -/
  name : Text
  /-- where it stands below the folder of pages -/
  path : Text
  /-- where it is served -/
  route : Text
deriving DecidableEq

namespace ListedPage

/-- The file name of the page of a folder. -/
def indexName : Text := text "index" ++ pageSuffix

/-- A text without an ending, if it has that ending. A line feed may stand behind the
ending, and stays. -/
def withoutEnd (ending t : Text) : Text :=
  if t.endsWith ending then t.take (t.length - ending.length)
  else if t.endsWith (ending ++ newline) then t.take (t.length - ending.length - 1) ++ newline
  else t

/-- A path without the name of the page of a folder at its end. -/
def withoutIndex (path : Text) : Text :=
  if path = indexName then []
  else if path = indexName ++ newline then newline
  else withoutEnd (text "/" ++ indexName) path

/-- The route of the page with a path. -/
def routeOf (path : Text) : Text :=
  text "/" ++ Text.dropLastWhile (· == .char '/') (withoutEnd pageSuffix (withoutIndex path))

/-- What the page of a route is called: the last part of the route with a capital at
its start. -/
def nameOf (route : Text) : Text :=
  let path := route.dropWhile (· == .char '/')
  if path.isEmpty then text "Home"
  else
    let last := (path.splitOn (.char '/')).getLastD []
    Text.capitals (last.take 1) ++ last.drop 1

/-- The page with a path. -/
def ofPath (path : Text) : ListedPage := ⟨nameOf (routeOf path), path, routeOf path⟩

/-- Whether a route belongs to the editors, whose routes start with a base. -/
def isBelow (base route : Text) : Bool :=
  route == base || route.startsWith (base ++ text "/")

/-- Whether a name is one of pages. -/
def isPageName (name : Text) : Bool :=
  name.endsWith pageSuffix && decide (pageSuffix.length < name.length)

/-- Whether a name stands for many routes at once. -/
def isPattern (name : Text) : Bool := List.contains name (.char '[')

/-- The page at a place below the folder of pages. -/
def pageAt (place : Place) : ListedPage := ofPath (Text.join (text "/") place)

mutual

/-- What is come to below an entry when its pages are looked for, with the places of it. -/
def reachedIn : Entry → List (Place × Entry)
  | .folder entries true => reachedAmong entries
  | _ => []

/-- What is come to among the entries of a folder and below them. -/
def reachedAmong : List (Text × Entry) → List (Place × Entry)
  | [] => []
  | (name, entry) :: entries =>
    (if isPattern name then []
      else ([name], entry) :: (reachedIn entry).map fun (place, found) => (name :: place, found)) ++
      reachedAmong entries

end

/-- Whether what stands at a place is a page. -/
def isPage (place : Place) (found : Entry) : Bool :=
  !found.isFolder && isPageName (place.getLastD [])

/-- The places of the pages in what was come to. -/
def placesAmong (reached : List (Place × Entry)) : List Place :=
  (reached.filter fun (place, found) => isPage place found).map Prod.fst

/-- The places of the pages below an entry. -/
def placesIn (entry : Entry) : List Place := placesAmong (reachedIn entry)

/-- What was come to, in the order of the names of its places. -/
def inNameOrder (reached : List (Place × Entry)) : List (Place × Entry) :=
  reached.mergeSort fun a b => !decide (b.1 < a.1)

/-- The pages in what was come to below the folder at a path, up to the first place that cannot
be looked at, and what the disk says of that. -/
def pagesAmong (path : Text) : List (Place × Entry) → List ListedPage × Option DiskFault
  | [] => ([], none)
  | (place, found) :: reached =>
    let own := Place.below path place
    if own.isLongPath then ([], some (.tooLong own))
    else
      let (pages, fault) := pagesAmong path reached
      (if isPage place found then pageAt place :: pages else pages, fault)

/-- What is come to below a folder, if it is there, in the order of the names of its places. -/
def reachedFrom (folder : Option Entry) : List (Place × Entry) :=
  inNameOrder ((folder.map reachedIn).getD [])

/-- The pages in the folder at a path and below it, up to the first place that cannot be looked
at, and what the disk says of that. -/
def inFolder (path : Text) (folder : Option Entry) : List ListedPage × Option DiskFault :=
  pagesAmong path (reachedFrom folder)

/-- Pages ordered by route, without those that belong to the editors. Pages of one route stay in
the order that they are in. -/
def sorted (base : Text) (pages : List ListedPage) : List ListedPage :=
  (pages.filter fun page => !isBelow base page.route).mergeSort fun a b =>
    Text.atMost a.route b.route

/-- The pages in the folder at a path and below it, ordered by route, without those that belong
to the editors. Pages of one route stay in the order of their names. -/
def list (path : Text) (folder : Option Entry) (base : Text) :
    Except DiskFault (List ListedPage) :=
  match inFolder path folder with
  | (pages, none) => .ok (sorted base pages)
  | (_, some fault) => .error fault

/-- The pages of a disk in the folder at a path, as they are listed. There are none if there is
no such folder, or if the path is too long to list its entries. -/
def scan (disk : Disk) (path base : Text) : Except DiskFault (List ListedPage) := do
  let path := Place.tidied path
  list path (← Disk.orAbsent (disk.find [] path)) base

end ListedPage

end VisibleText
