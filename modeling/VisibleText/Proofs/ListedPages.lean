import VisibleText.Proofs.Pieces

/-!
# Listed pages can be opened

Two parts of a site decide what the path of a page is. The listing takes whatever is no folder and
has the suffix of pages, whatever else its name holds but a bracket; and a text that is to name a
page may hold plain characters only. So of the pages that are listed just those with plain paths can
be opened by them, if they are files (`Site.listed_pages_open_if_plain`); the others are refused
(`Site.not_forall_listed_open`), once the backslashes in them are taken for slashes.

What the listing comes to is what the folder reaches (`Entry.mem_reachedIn_iff`). So what is listed
is there (`Entry.exists_of_mem_placesIn`), and the names of its path are the names of the place
(`Place.names_join`). The folder of pages is found by walking its path where the path starts from
the root of the disk, and where both find it walking and following lead to the same place
(`Disk.eq_follow_of_walk`).
-/

set_option autoImplicit false

namespace VisibleText

open VisibleText.ListedPage (isPage isPageName isPattern placesIn reachedAmong reachedIn)

/-! ## Names in folders -/

instance : DecidablePred Text.IsProperName :=
  fun name => inferInstanceAs (Decidable (name ≠ [] ∧ name ≠ text "." ∧ name ≠ text ".." ∧
    .char '/' ∉ name))

namespace ListedPage

theorem isPattern_eq_false_iff {name : Text} : isPattern name = false ↔ .char '[' ∉ name := by
  rw [isPattern, List.contains_eq_mem, decide_eq_false_iff_not]

theorem inNameOrder_perm (reached : List (Place × Entry)) : (inNameOrder reached).Perm reached :=
  List.mergeSort_perm reached _

theorem mem_placesAmong_iff {reached : List (Place × Entry)} {place : Place} :
    place ∈ placesAmong reached ↔ ∃ found, (place, found) ∈ reached ∧ isPage place found = true := by
  rw [placesAmong, List.mem_map]
  constructor
  · rintro ⟨⟨place, found⟩, hmem, rfl⟩
    exact ⟨found, List.mem_filter.1 hmem⟩
  · rintro ⟨found, hmem⟩
    exact ⟨(place, found), List.mem_filter.2 hmem, rfl⟩

end ListedPage

namespace Entry

mutual

/-- Whether every folder in an entry has names that lead to what stands under them, and none of
them twice. -/
def isWellNamed : Entry → Bool
  | .folder entries _ => areWellNamed entries
  | _ => true

/-- Whether entries of a folder have such names, and all that is in them. -/
def areWellNamed : List (Text × Entry) → Bool
  | [] => true
  | (name, entry) :: entries =>
    decide name.IsProperName && !(entries.map Prod.fst).contains name && entry.isWellNamed &&
      areWellNamed entries

end

theorem lookup_of_mem {entries : List (Text × Entry)} (h : areWellNamed entries = true)
    {name : Text} {entry : Entry} (hmem : (name, entry) ∈ entries) :
    name.IsProperName ∧ entry.isWellNamed = true ∧ entries.lookup name = some entry := by
  induction entries with
  | nil => cases hmem
  | cons first entries ih =>
    obtain ⟨other, found⟩ := first
    simp only [areWellNamed, Bool.and_eq_true, Bool.not_eq_true', decide_eq_true_eq] at h
    obtain ⟨⟨⟨hproper, hfresh⟩, hfound⟩, hentries⟩ := h
    rcases List.mem_cons.1 hmem with heq | hmem
    · cases heq
      refine ⟨hproper, hfound, ?_⟩
      rw [lookup_cons, if_pos rfl]
    · obtain ⟨hname, hentry, hlookup⟩ := ih hentries hmem
      refine ⟨hname, hentry, ?_⟩
      have hother : other ≠ name := by
        rintro rfl
        rw [List.contains_iff_mem.2 (List.mem_map.2 ⟨_, hmem, rfl⟩)] at hfresh
        cases hfresh
      rw [lookup_cons, if_neg (Ne.symm hother), hlookup]

theorem isWellNamed_of_at? {entry found : Entry} {place : Place} (h : entry.isWellNamed = true)
    (hfound : entry.at? place = some found) : found.isWellNamed = true := by
  induction place generalizing entry with
  | nil =>
    cases hfound
    exact h
  | cons name place ih =>
    obtain ⟨entries, isListable, child, rfl, hchild, hinner⟩ := exists_of_at?_cons hfound
    obtain ⟨before, after, rfl, -⟩ := List.lookup_eq_some_iff.1 hchild
    exact ih (lookup_of_mem h (List.mem_append_right _ (.head _))).2.1 hinner

theorem at?_append {entry found : Entry} {place : Place} (h : entry.at? place = some found)
    (place' : Place) : entry.at? (place ++ place') = found.at? place' := by
  induction place generalizing entry with
  | nil =>
    cases h
    rfl
  | cons name place ih =>
    obtain ⟨entries, isListable, child, rfl, hchild, hfound⟩ := exists_of_at?_cons h
    rw [List.cons_append, at?_folder_cons, hchild, Option.bind_some, ih hfound]

/-! ## What is come to -/

/-- What stands at a place below a folder is come to when the pages of the folder are looked for:
every folder on the way has entries that can be listed, and no name has a bracket. -/
structure Reaches (folder : Entry) (place : Place) (found : Entry) : Prop where
  isThere : folder.at? place = some found
  isBelow : place ≠ []
  isListed : ∀ above, above <+: place → above ≠ place →
    ∃ entries, folder.at? above = some (.folder entries true)
  isStatic : ∀ name ∈ place, .char '[' ∉ name

/-- What is come to stands in the folder itself, or below what stands there. -/
theorem reaches_cons_iff {entry found : Entry} {name : Text} {rest : Place} :
    entry.Reaches (name :: rest) found ↔
      ∃ entries child, entry = .folder entries true ∧ entries.lookup name = some child ∧
        .char '[' ∉ name ∧ (rest = [] ∧ found = child ∨ child.Reaches rest found) := by
  constructor
  · rintro ⟨isThere, -, isListed, isStatic⟩
    obtain ⟨entries, hentry⟩ := isListed [] List.nil_prefix (List.cons_ne_nil _ _).symm
    obtain rfl : entry = .folder entries true := Option.some.inj hentry
    obtain ⟨hname, hstatic⟩ := List.forall_mem_cons.1 isStatic
    rw [at?_folder_cons] at isThere
    obtain ⟨child, hchild, hfound⟩ := Option.bind_eq_some_iff.1 isThere
    refine ⟨entries, child, rfl, hchild, hname, ?_⟩
    rcases eq_or_ne rest [] with rfl | hrest
    · exact .inl ⟨rfl, (Option.some.inj hfound).symm⟩
    · refine .inr ⟨hfound, hrest, fun above habove hne => ?_, hstatic⟩
      obtain ⟨inner, hinner⟩ := isListed (name :: above) (List.cons_prefix_cons.2 ⟨rfl, habove⟩)
        fun heq => hne (List.cons.inj heq).2
      rw [at?_folder_cons, hchild] at hinner
      exact ⟨inner, hinner⟩
  · rintro ⟨entries, child, rfl, hchild, hname, hrest⟩
    have hat (place : Place) :
        (folder entries true).at? (name :: place) = child.at? place := by
      rw [at?_folder_cons, hchild, Option.bind_some]
    rcases hrest with ⟨rfl, rfl⟩ | ⟨isThere, -, isListed, isStatic⟩
    · refine ⟨hat [], List.cons_ne_nil _ _, fun above habove hne => ?_,
        List.forall_mem_singleton.2 hname⟩
      rcases List.prefix_cons_iff.1 habove with rfl | ⟨behind, rfl, hbehind⟩
      · exact ⟨entries, rfl⟩
      · exact absurd (congrArg (name :: ·) (List.prefix_nil.1 hbehind)) hne
    · refine ⟨(hat rest).trans isThere, List.cons_ne_nil _ _, fun above habove hne => ?_,
        List.forall_mem_cons.2 ⟨hname, isStatic⟩⟩
      rcases List.prefix_cons_iff.1 habove with rfl | ⟨behind, rfl, hbehind⟩
      · exact ⟨entries, rfl⟩
      · obtain ⟨inner, hinner⟩ := isListed behind hbehind fun heq =>
          hne (congrArg (name :: ·) heq)
        exact ⟨inner, (hat behind).trans hinner⟩

theorem mem_reachedAmong_iff {entries : List (Text × Entry)} {place : Place} {found : Entry} :
    (place, found) ∈ reachedAmong entries ↔
      ∃ name child rest, (name, child) ∈ entries ∧ place = name :: rest ∧ .char '[' ∉ name ∧
        (rest = [] ∧ found = child ∨ (rest, found) ∈ reachedIn child) := by
  induction entries with
  | nil => exact iff_of_false nofun fun ⟨_, _, _, hmem, _⟩ => nomatch hmem
  | cons first entries ih =>
    obtain ⟨name, child⟩ := first
    rw [reachedAmong, List.mem_append, ih]
    constructor
    · rintro (h | ⟨name', child', rest, hmem, hrest⟩)
      · split at h
        · cases h
        · next hpattern =>
          have hname := ListedPage.isPattern_eq_false_iff.1 (eq_false_of_ne_true hpattern)
          rcases List.mem_cons.1 h with heq | hbelow
          · cases heq
            exact ⟨name, found, [], .head _, rfl, hname, .inl ⟨rfl, rfl⟩⟩
          · obtain ⟨⟨rest, inner⟩, hinner, heq⟩ := List.mem_map.1 hbelow
            cases heq
            exact ⟨name, child, rest, .head _, rfl, hname, .inr hinner⟩
      · exact ⟨name', child', rest, .tail _ hmem, hrest⟩
    · rintro ⟨name', child', rest, hmem, rfl, hname, hrest⟩
      rcases List.mem_cons.1 hmem with heq | hmem
      · cases heq
        rw [if_neg (Bool.eq_false_iff.1 (ListedPage.isPattern_eq_false_iff.2 hname))]
        refine .inl (List.mem_cons.2 ?_)
        rcases hrest with ⟨rfl, rfl⟩ | hinner
        · exact .inl rfl
        · exact .inr (List.mem_map.2 ⟨_, hinner, rfl⟩)
      · exact .inr ⟨name', child', rest, hmem, rfl, hname, hrest⟩

theorem exists_folder_of_mem_reachedIn {entry : Entry} {reached : Place × Entry}
    (h : reached ∈ reachedIn entry) : ∃ entries, entry = .folder entries true := by
  cases entry with
  | file | special => cases h
  | folder entries isListable =>
    cases isListable with
    | false => cases h
    | true => exact ⟨entries, rfl⟩

/-- The listing comes to just what there is to come to. -/
theorem mem_reachedIn_iff {entry found : Entry} {place : Place}
    (hnamed : entry.isWellNamed = true) :
    (place, found) ∈ reachedIn entry ↔ entry.Reaches place found := by
  -- a place has a name for every folder that it goes through
  induction place generalizing entry with
  | nil =>
    refine iff_of_false (fun h => ?_) fun h => h.isBelow rfl
    rcases exists_folder_of_mem_reachedIn h with ⟨entries, rfl⟩
    obtain ⟨_, _, _, -, heq, -⟩ := mem_reachedAmong_iff.1 h
    cases heq
  | cons name rest ih =>
    rw [reaches_cons_iff]
    constructor
    · intro h
      obtain ⟨entries, rfl⟩ := exists_folder_of_mem_reachedIn h
      obtain ⟨name, child, rest, hmem, heq, hname, hrest⟩ := mem_reachedAmong_iff.1 h
      cases heq
      obtain ⟨-, hchild, hlookup⟩ := lookup_of_mem hnamed hmem
      exact ⟨entries, child, rfl, hlookup, hname, hrest.imp_right (ih hchild).1⟩
    · rintro ⟨entries, child, rfl, hlookup, hname, hrest⟩
      obtain ⟨before, after, rfl, -⟩ := List.lookup_eq_some_iff.1 hlookup
      have hmem : (name, child) ∈ before ++ (name, child) :: after :=
        List.mem_append_right _ (.head _)
      exact mem_reachedAmong_iff.2 ⟨name, child, rest, hmem, rfl, hname,
        hrest.imp_right (ih (lookup_of_mem hnamed hmem).2.1).2⟩

/-! ## Places that are listed -/

/-- Just what is come to is listed, if it is no folder and its last name is that of a page. -/
theorem mem_placesIn_iff {entry : Entry} {place : Place} (hnamed : entry.isWellNamed = true) :
    place ∈ placesIn entry ↔
      ∃ found, entry.Reaches place found ∧ found.isFolder = false ∧
        ∃ front last, place = front ++ [last] ∧ isPageName last = true := by
  rw [placesIn, ListedPage.mem_placesAmong_iff]
  simp only [mem_reachedIn_iff hnamed]
  refine exists_congr fun found => and_congr_right fun hreaches => ?_
  obtain ⟨front, last, rfl⟩ := (List.eq_nil_or_concat' place).resolve_left hreaches.isBelow
  rw [isPage, List.getLastD_concat, Bool.and_eq_true, Bool.not_eq_true', and_congr_right_iff]
  intro _
  constructor
  · exact fun hlast => ⟨front, last, rfl, hlast⟩
  · rintro ⟨front', last', heq, hlast⟩
    obtain ⟨-, heq⟩ := List.append_inj' heq rfl
    rwa [(List.cons.inj heq).1]

theorem isProperName_of_at? {entry found : Entry} {place : Place}
    (hnamed : entry.isWellNamed = true) (h : entry.at? place = some found) :
    ∀ name ∈ place, name.IsProperName := by
  induction place generalizing entry with
  | nil => exact nofun
  | cons name place ih =>
    obtain ⟨entries, isListable, child, rfl, hlookup, hfound⟩ := exists_of_at?_cons h
    obtain ⟨before, after, rfl, -⟩ := List.lookup_eq_some_iff.1 hlookup
    obtain ⟨hname, hchild, -⟩ := lookup_of_mem hnamed (List.mem_append_right before (.head after))
    exact List.forall_mem_cons.2 ⟨hname, ih hchild hfound⟩

/-- What is listed is there and no folder, below names that lead to it, of which the last one is
that of a page. -/
theorem exists_of_mem_placesIn {entry : Entry} {place : Place}
    (hnamed : entry.isWellNamed = true) (h : place ∈ placesIn entry) :
    (∃ found, entry.at? place = some found ∧ found.isFolder = false) ∧
      (∀ name ∈ place, name.IsProperName) ∧
        ∃ front last, place = front ++ [last] ∧ isPageName last = true := by
  obtain ⟨found, hreaches, hfolder, hlast⟩ := (mem_placesIn_iff hnamed).1 h
  exact ⟨⟨found, hreaches.isThere, hfolder⟩, isProperName_of_at? hnamed hreaches.isThere, hlast⟩

end Entry

/-! ## The listing -/

namespace ListedPage

theorem placesAmong_cons_of_isPage {place : Place} {found : Entry} (h : isPage place found = true)
    (reached : List (Place × Entry)) :
    placesAmong ((place, found) :: reached) = place :: placesAmong reached := by
  rw [placesAmong, List.filter_cons, if_pos h, List.map_cons, placesAmong]

theorem placesAmong_cons_of_not_isPage {place : Place} {found : Entry}
    (h : isPage place found ≠ true) (reached : List (Place × Entry)) :
    placesAmong ((place, found) :: reached) = placesAmong reached := by
  rw [placesAmong, List.filter_cons, if_neg h, placesAmong]

/-- Either all that was come to can be looked at and its pages are listed, or something cannot be
looked at, and the disk says of one such place that its path is too long. -/
theorem pagesAmong_cases (path : Text) (reached : List (Place × Entry)) :
    ((∀ place found, (place, found) ∈ reached → (Place.below path place).isLongPath = false) ∧
        pagesAmong path reached = ((placesAmong reached).map pageAt, none)) ∨
      ∃ place found pages, (place, found) ∈ reached ∧ (Place.below path place).isLongPath = true ∧
        pagesAmong path reached = (pages, some (.tooLong (Place.below path place))) := by
  induction reached with
  | nil => exact .inl ⟨nofun, rfl⟩
  | cons first reached ih =>
    obtain ⟨place, found⟩ := first
    rw [pagesAmong]
    -- the first place decides, and where it can be looked at the others do
    by_cases hlong : (Place.below path place).isLongPath = true
    · exact .inr ⟨place, found, [], .head _, hlong, if_pos hlong⟩
    · simp only [if_neg hlong]
      rcases ih with ⟨hshort, heq⟩ | ⟨place', found', pages, hmem, hlong', heq⟩
      · refine .inl ⟨fun other inner hother => ?_, ?_⟩
        · rcases List.mem_cons.1 hother with heq | hother
          · cases heq
            exact eq_false_of_ne_true hlong
          · exact hshort other inner hother
        · rw [heq]
          by_cases hpage : isPage place found = true
          · simp only [if_pos hpage, placesAmong_cons_of_isPage hpage, List.map_cons]
          · simp only [if_neg hpage, placesAmong_cons_of_not_isPage hpage]
      · rw [heq]
        exact .inr ⟨place', found', _, .tail _ hmem, hlong', rfl⟩

/-- The listing of a folder gives the pages in it, unless something that is come to has a path that
is too long. -/
theorem list_cases (path : Text) (folder : Option Entry) (base : Text) :
    ((∀ place found, (place, found) ∈ reachedFrom folder →
          (Place.below path place).isLongPath = false) ∧
        list path folder base = .ok (sorted base ((placesAmong (reachedFrom folder)).map pageAt))) ∨
      ∃ place found, (place, found) ∈ reachedFrom folder ∧
        (Place.below path place).isLongPath = true ∧
        list path folder base = .error (.tooLong (Place.below path place)) := by
  rcases pagesAmong_cases path (reachedFrom folder) with
    ⟨hshort, heq⟩ | ⟨place, found, pages, hmem, hlong, heq⟩
  · refine .inl ⟨hshort, ?_⟩
    rw [list, inFolder, heq]
  · refine .inr ⟨place, found, hmem, hlong, ?_⟩
    rw [list, inFolder, heq]

/-- Where all that a folder comes to is in the order of its places, and its pages are in the order
of their routes, the listing leaves the pages of the editors out and nothing else is to do. -/
theorem list_eq_filter {path base : Text} {entry : Entry}
    (hplaces : (reachedIn entry).Pairwise fun a b => (!decide (b.1 < a.1)) = true)
    (hshort : ∀ reached ∈ reachedIn entry, (Place.below path reached.1).isLongPath = false)
    (hroutes : (((placesIn entry).map pageAt).filter fun page =>
      !isBelow base page.route).Pairwise fun a b => Text.atMost a.route b.route = true) :
    list path (some entry) base =
      .ok (((placesIn entry).map pageAt).filter fun page => !isBelow base page.route) := by
  have horder : reachedFrom (some entry) = reachedIn entry := List.mergeSort_of_pairwise hplaces
  rcases list_cases path (some entry) base with ⟨-, heq⟩ | ⟨place, found, hmem, hlong, -⟩
  · rw [heq, horder, sorted]
    exact congrArg _ (List.mergeSort_of_pairwise hroutes)
  · rw [horder] at hmem
    rw [hshort _ hmem] at hlong
    cases hlong

theorem mem_reachedFrom_iff {folder : Option Entry} {reached : Place × Entry} :
    reached ∈ reachedFrom folder ↔ ∃ entry ∈ folder, reached ∈ reachedIn entry := by
  rw [reachedFrom, (inNameOrder_perm _).mem_iff]
  cases folder <;> simp

/-- Just the pages below the folder are gone through. -/
theorem mem_placesAmong_reachedFrom_iff {folder : Option Entry} {place : Place} :
    place ∈ placesAmong (reachedFrom folder) ↔ ∃ entry ∈ folder, place ∈ placesIn entry := by
  simp only [placesIn, mem_placesAmong_iff, mem_reachedFrom_iff]
  constructor
  · rintro ⟨found, ⟨entry, hentry, hmem⟩, hpage⟩
    exact ⟨entry, hentry, found, hmem, hpage⟩
  · rintro ⟨entry, hentry, found, hmem, hpage⟩
    exact ⟨found, ⟨entry, hentry, hmem⟩, hpage⟩

/-- Just the pages in a folder are listed that do not belong to the editors. -/
theorem mem_iff_of_list_eq_ok {path base : Text} {folder : Option Entry} {pages : List ListedPage}
    {page : ListedPage} (h : list path folder base = .ok pages) :
    page ∈ pages ↔ (∃ entry ∈ folder, ∃ place ∈ placesIn entry, page = pageAt place) ∧
      isBelow base page.route = false := by
  rcases list_cases path folder base with ⟨-, heq⟩ | ⟨place, found, -, -, heq⟩
  · -- an order changes nothing about what is listed
    obtain rfl := Except.ok.inj (heq.symm.trans h)
    rw [sorted, List.mem_mergeSort, List.mem_filter, Bool.not_eq_true', List.mem_map,
      and_congr_left_iff]
    intro _
    constructor
    · rintro ⟨place, hplace, rfl⟩
      obtain ⟨entry, hentry, hplace⟩ := mem_placesAmong_reachedFrom_iff.1 hplace
      exact ⟨entry, hentry, place, hplace, rfl⟩
    · rintro ⟨entry, hentry, place, hplace, rfl⟩
      exact ⟨place, mem_placesAmong_reachedFrom_iff.2 ⟨entry, hentry, hplace⟩, rfl⟩
  · cases heq.symm.trans h

end ListedPage

/-! ## Paths of listed pages -/

namespace Text

theorem suffix_join (separator : Text) (front : List Text) (last : Text) :
    last <:+ join separator (front ++ [last]) := by
  induction front with
  | nil => simp
  | cons first front ih =>
    obtain ⟨next, rest, hrest⟩ : ∃ next rest, front ++ [last] = next :: rest :=
      List.exists_cons_of_ne_nil (by simp)
    rw [List.cons_append, hrest, join_cons_cons, ← hrest]
    exact ih.trans (List.suffix_append _ _)

/-- Whether a text may be the path of a page by its code points: it holds plain ones only, and no
two dots in a row. -/
def isPlain (t : Text) : Bool := t.all CodePoint.isPathSign && !t.contains (text "..")

/-- Whether a text ends with the suffix of pages and has something before it. -/
def HasPageSuffix (t : Text) : Prop :=
  pageSuffix <:+ t ∧ pageSuffix.length < t.length

theorem isPagePath_eq_isPlain {t : Text} (h : t.HasPageSuffix) : t.isPagePath = t.isPlain := by
  rw [isPagePath, endsWith_iff.2 h.1, decide_eq_true h.2, isPlain, Bool.true_and, Bool.true_and,
    Bool.and_comm]

theorem HasPageSuffix.mono {t t' : Text} (h : t.HasPageSuffix) (hsuffix : t <:+ t') :
    t'.HasPageSuffix :=
  ⟨h.1.trans hsuffix, Nat.lt_of_lt_of_le h.2 hsuffix.length_le⟩

end Text

namespace PagePath

theorem normalized_eq_map (t : Text) :
    normalized t = t.map fun c => if c = .char '\\' then .char '/' else c := by
  rw [normalized, Text.substitute, List.map_eq_flatMap]
  refine List.flatMap_congr fun c _ => ?_
  split <;> rfl

/-- Plain texts hold no backslashes. -/
theorem normalized_of_isPlain {t : Text} (h : t.isPlain = true) : normalized t = t := by
  rw [Text.isPlain, Bool.and_eq_true] at h
  rw [normalized_eq_map]
  refine (List.map_congr_left fun c hc => ?_).trans (List.map_id t)
  rw [if_neg]
  · rfl
  · rintro rfl
    exact absurd (List.all_eq_true.1 h.1 _ hc) (by decide)

theorem hasPageSuffix_normalized {t : Text} (h : t.HasPageSuffix) :
    (normalized t).HasPageSuffix := by
  obtain ⟨⟨front, rfl⟩, hlength⟩ := h
  rw [normalized_eq_map, List.map_append]
  refine ⟨⟨_, rfl⟩, ?_⟩
  simpa using hlength

end PagePath

namespace Place

variable {place : Place}

/-- The names of the path that a place has are those of the place. -/
theorem names_join (place_ne : place ≠ []) (h : ∀ name ∈ place, name.IsProperName) :
    names (Text.join (text "/") place) = place :=
  Text.splitOn_join place_ne fun name hname => (h name hname).2.2.2

theorem downward_eq {page : PagePath} (hpath : page.path = Text.join (text "/") place)
    (place_ne : place ≠ []) (h : ∀ name ∈ place, name.IsProperName) : page.downward = place := by
  rw [PagePath.downward, hpath, names_join place_ne h, List.filter_eq_self]
  intro name hname
  obtain ⟨name_ne, hdot, -⟩ := h name hname
  exact decide_eq_true ⟨name_ne, hdot⟩

end Place

/-! ## Where the folder of pages is found -/

namespace Disk

variable {disk : Disk}

/-- Walking leads where the names lead. -/
theorem eq_follow_of_walk {path : Text} {upward names : List Text} {place : Place}
    (h : walk disk path upward names = .ok (some place)) :
    place = (names.foldl Place.step upward).reverse := by
  induction names generalizing upward with
  | nil =>
    cases h
    rfl
  | cons name names ih =>
    rw [walk] at h
    split at h
    · dsimp only at h
      split at h
      · cases h
      · split at h
        · exact ih h
        · split at h
          · cases h
          · exact ih h
    · cases h

theorem at?_of_find {base : Place} {path : Text} {found : Entry}
    (h : disk.find base path = .ok (some found)) :
    disk.at? (Place.follow base path) = some found := by
  unfold find at h
  split at h
  · cases h
  · split at h
    · cases h
    · split at h
      · cases h
      · obtain ⟨place, hwalk, h⟩ := Markup.exists_of_bind_eq_ok h
        obtain ⟨place, rfl, hfound⟩ := Option.bind_eq_some_iff.1 (Except.ok.inj h)
        rwa [eq_follow_of_walk hwalk] at hfound

/-- What is found although a path that is too long finds nothing is found. -/
theorem eq_ok_of_orAbsent {x : Except DiskFault (Option Entry)} {found : Entry}
    (h : orAbsent x = .ok (some found)) : x = .ok (some found) := by
  unfold orAbsent at h
  split at h
  · cases h
  · exact h

end Disk

namespace Place

theorem follow_of_isAbsolute {path : Text} (h : isAbsolute path = true) (base : Place) :
    follow base path = follow [] path := by
  rw [follow, follow, startOf, startOf, if_pos h, if_pos h]

theorem follow?_eq_ok {base place : Place} {path : Text} (h : follow? base path = .ok place) :
    place = follow base path := by
  unfold follow? at h
  split at h
  · cases h
  · exact (Except.ok.inj h).symm

/-- Names that stay lead nowhere. -/
theorem foldl_step_filter (taken upward : List Text) :
    (taken.filter fun name => name ≠ [] ∧ name ≠ text ".").foldl step upward =
      taken.foldl step upward := by
  induction taken generalizing upward with
  | nil => rfl
  | cons name taken ih =>
    rw [List.filter_cons, List.foldl_cons]
    by_cases hstays : name = [] ∨ name = text "."
    · have hstep : step upward name = upward := if_pos hstays
      have hdrop : ¬ (name ≠ [] ∧ name ≠ text ".") := by
        rw [← not_or, not_not]
        exact hstays
      rw [hstep, if_neg (by simpa using hdrop), ih]
    · have hkeep : name ≠ [] ∧ name ≠ text "." := not_or.1 hstays
      rw [if_pos (by simpa using hkeep), List.foldl_cons, ih]

/-- A path from the root keeps one slash at its start, or two. -/
theorem leadingSlashes_eq {path : Text} (h : isAbsolute path = true) :
    leadingSlashes path = text "/" ∨ leadingSlashes path = text "//" := by
  obtain ⟨rest, rfl⟩ : ∃ rest, path = .char '/' :: rest := by
    obtain ⟨rest, hrest⟩ := List.isPrefixOf_iff_prefix.1 h
    exact ⟨rest, hrest.symm⟩
  rw [leadingSlashes]
  split
  · next htwo =>
    right
    rw [List.takeWhile_cons_of_pos (by rfl)] at htwo ⊢
    obtain ⟨c, hc⟩ := List.length_eq_one_iff.1 (Nat.succ.inj htwo)
    have hslash := List.all_eq_true.1 List.all_takeWhile c (hc ▸ List.mem_singleton.2 rfl)
    rw [hc, beq_iff_eq.1 hslash]
    rfl
  · left
    rw [List.takeWhile_cons_of_pos (by rfl)]
    rfl

/-- A path from the root leads to the same place in its shortest form. -/
theorem follow_tidied {path : Text} (h : isAbsolute path = true) (base : Place) :
    follow base (tidied path) = follow base path := by
  have hkept : follow base path =
      (((names path).filter fun name => name ≠ [] ∧ name ≠ text ".").foldl step []).reverse := by
    rw [foldl_step_filter, follow, startOf, if_pos h]
    rfl
  have hslashes : follow base (tidied path) = follow base (.char '/' :: Text.join (text "/")
      ((names path).filter fun name => name ≠ [] ∧ name ≠ text ".")) := by
    rw [tidied, h, Bool.not_true, Bool.and_false, if_neg Bool.false_ne_true]
    rcases leadingSlashes_eq h with hone | htwo
    · rw [hone]
      rfl
    · -- the second slash stays where it is
      rw [htwo, follow_slash]
      change follow base (.char '/' :: .char '/' :: _) = _
      rw [follow_slash, names, Text.splitOn_cons_self, List.foldl_cons]
      rfl
  rw [hslashes, hkept, follow_slash]
  cases hnames : (names path).filter fun name => name ≠ [] ∧ name ≠ text "." with
  | nil => rfl
  | cons name rest =>
    have hsplit : names (Text.join (text "/") (name :: rest)) = name :: rest :=
      Text.splitOn_join (List.cons_ne_nil _ _) fun taken htaken =>
        Text.not_mem_of_mem_splitOn (List.mem_filter.1 (hnames ▸ htaken)).1
    rw [hsplit]

/-- A setting that leads into the project leads to the same place without the slashes at its end,
also if nothing else is in it. -/
theorem follow_folder {root : Place} {dir : Text} (dir_ne : dir ≠ [])
    (hinside : (follow root dir).isWithin root = true) :
    follow root (dir.dropLastWhile (· == .char '/')) = follow root dir := by
  by_cases hfolder : dir.dropLastWhile (· == .char '/') = []
  · -- of slashes nothing is left; they lead to the root of the disk, so that is the project
    obtain ⟨slashes, hdir, hslashes⟩ := dir.dropLastWhile_append (· == .char '/')
    rw [hfolder, List.nil_append] at hdir
    obtain ⟨c, slashes, rfl⟩ := List.exists_cons_of_ne_nil (hdir ▸ dir_ne)
    obtain ⟨hc, hslashes⟩ := List.forall_mem_cons.1 hslashes
    have hfollow : follow root dir = [] := by
      rw [hdir, beq_iff_eq.1 hc, follow_slash,
        foldl_step_slashes fun c hc => beq_iff_eq.1 (hslashes c hc), List.reverse_nil]
    rw [hfollow] at hinside ⊢
    rw [hfolder, follow_nil]
    exact List.prefix_nil.1 (List.isPrefixOf_iff_prefix.1 hinside)
  · exact follow_dropLastWhile hfolder root

end Place

/-! ## The setting of the folder of pages -/

namespace Schema

theorem ruleViolations_eq_nil {rules : List Rule} {value : Json} {rule : Rule}
    (h : rulesViolations rules value = []) (hrule : rule ∈ rules) :
    ruleViolations rule value = [] := by
  induction rules with
  | nil => cases hrule
  | cons first rules ih =>
    rw [rulesViolations, List.append_eq_nil_iff] at h
    rcases List.mem_cons.1 hrule with rfl | hrule
    · exact h.1
    · exact ih h.2 hrule

theorem memberViolations_eq_nil {schemas : List (Text × List Rule)} {members : Json.Members}
    {key : Text} {schema : List Rule} {value : Json}
    (h : membersViolations schemas members = []) (hschema : (key, schema) ∈ schemas)
    (hvalue : Json.Members.find? members key = some value) : rulesViolations schema value = [] := by
  induction schemas with
  | nil => cases hschema
  | cons first schemas ih =>
    rw [membersViolations, List.append_eq_nil_iff] at h
    rcases List.mem_cons.1 hschema with rfl | hschema
    · rw [hvalue] at h
      exact List.map_eq_nil_iff.1 h.1
    · exact ih h.2 hschema

/-- In a value that keeps a schema, the members keep theirs. -/
theorem rulesViolations_eq_nil_of_holds {schema : Schema} {schemas : List (Text × List Rule)}
    {members : Json.Members} {key : Text} {rules : List Rule} {value : Json}
    (hvalid : schema.holds (.object members) = true) (hrule : .members schemas ∈ schema)
    (hkey : (key, rules) ∈ schemas) (hvalue : Json.Members.find? members key = some value) :
    rulesViolations rules value = [] := by
  have hschema : rulesViolations schema (.object members) = [] := List.isEmpty_iff.1 hvalid
  exact memberViolations_eq_nil (ruleViolations_eq_nil hschema hrule) hkey hvalue

end Schema

theorem Json.Members.setting?_eq_find? {settings : Json.Members} {key : Text}
    (hkey : .char '.' ∉ key) : settings.setting? key = settings.find? key := by
  rw [setting?, Text.splitOn_of_not_mem hkey, follow?, member?]
  cases settings.find? key <;> rfl

/-- A setting that should be a string is not there, or it is a string. -/
theorem Site.words?_eq_some {settings : Json.Members} {key otherwise : String} {t : Text}
    (hkey : .char '.' ∉ text key) (h : words? settings key otherwise = some t) :
    t = text otherwise ∨ Json.Members.find? settings (text key) = some (.string t) := by
  rw [words?, Json.Members.setting?_eq_find? hkey] at h
  split at h
  · exact .inl (Option.some.inj h).symm
  · next hvalue =>
    cases h
    exact .inr hvalue
  · cases h

/-- Valid settings do not leave the folder of pages empty. -/
theorem Site.dir_ne_nil_of_holds {settings : Json.Members} {dir : Text}
    (hvalid : Settings.schema.holds (.object settings) = true)
    (hdir : Site.words? settings "pages_dir" "src/pages" = some dir) : dir ≠ [] := by
  rintro rfl
  rcases words?_eq_some (by decide) hdir with hnil | hvalue
  · cases hnil
  · have hrules := Schema.rulesViolations_eq_nil_of_holds hvalid (.tail _ (.head _))
      (.tail _ (.head _)) hvalue
    -- of the rules for the setting the one about its length is violated
    have hlength := Schema.ruleViolations_eq_nil hrules (.tail _ (.head _))
    cases hlength

/-! ## Reading listed pages -/

/-- Whether an error says that a text names no page of the site. -/
def SiteError.deniesPage : SiteError → Bool
  | .invalidPage _ => true
  | .pageNotFound _ => true
  | .store (.outside _) => true
  | _ => false

theorem Store.place_of_isWithin {store : Store} {path : Text}
    (h : (Place.follow store.root path).isWithin store.root = true) :
    store.place path = .ok (Place.follow store.root path) ∨
      ∃ fault, store.place path = .error (.disk fault) := by
  rw [place]
  cases hfollow : Place.follow? store.root path with
  | error fault => exact .inr ⟨fault, rfl⟩
  | ok place =>
    obtain rfl := Place.follow?_eq_ok hfollow
    refine .inl ?_
    change (if _ then _ else _) = _
    rw [if_pos h]
    rfl

theorem Disk.look_eq_at? {disk : Disk} {place : Place} {found : Option Entry}
    (h : disk.look place = .ok found) : found = disk.at? place := by
  rw [look] at h
  split at h
  · cases h
  · exact (Except.ok.inj h).symm

namespace Site

variable {site : Site} {disk : Disk}

/-- Where a file stands a page is read, if neither the disk nor the bytes of the file refuse it. -/
theorem deniesPage_of_readPage {page : PagePath} {path : Text} {b : Bytes} {e : SiteError}
    (hpath : site.storePath page = .ok path)
    (hinside : (Place.follow site.store.root path).isWithin site.store.root = true)
    (hfile : disk.at? (Place.follow site.store.root path) = some (.file b))
    (h : site.readPage disk page = .error e) : e.deniesPage = false := by
  rw [readPage, hpath] at h
  simp only [bind, Except.bind, Store.readText] at h
  rcases Store.place_of_isWithin hinside with hplace | ⟨fault, hplace⟩
  · rw [hplace] at h
    simp only [Store.textAt, bind, Except.bind] at h
    cases hlook : disk.look (Place.follow site.store.root path) with
    | error fault =>
      rw [hlook] at h
      cases h
      rfl
    | ok found =>
      obtain rfl := (Disk.look_eq_at? hlook).trans hfile
      rw [hlook] at h
      simp only [Except.mapError] at h
      cases hdecode : b.decode with
      | ok source =>
        rw [hdecode] at h
        cases h
      | error fault =>
        rw [hdecode] at h
        cases h
        rfl
  · rw [hplace] at h
    cases h
    rfl

/-- A text that opens a page: neither its fields nor its edits are refused because the text names
no page. -/
structure Opens (site : Site) (disk : Disk) (name : Text) : Prop where
  content : ∀ e, site.content disk (some name) = .error e → e.deniesPage = false
  apply : ∀ tag batch isDryRun e,
    (site.apply disk disk tag (some name) batch isDryRun).1 = .error e → e.deniesPage = false

section Page

variable {name path : Text} {page : PagePath} {e : SiteError}

theorem deniesPage_of_content (hpage : pagePath (some name) = .ok page)
    (hread : ∀ e, site.readPage disk page = .error e → e.deniesPage = false)
    (h : site.content disk (some name) = .error e) : e.deniesPage = false := by
  rw [content, hpage] at h
  simp only [bind, Except.bind] at h
  cases hsource : site.readPage disk page with
  | error e' =>
    rw [hsource] at h
    cases h
    exact hread e hsource
  | ok source =>
    rw [hsource] at h
    simp only at h
    cases hfields : Field.ofPageWithin site.bounds.openTag source with
    | error fault =>
      rw [hfields] at h
      cases h
      rfl
    | ok fields =>
      rw [hfields] at h
      cases h

theorem deniesPage_of_prepare {batch : Except BatchError (List EditDraft)} {isDryRun : Bool}
    (hpage : pagePath (some name) = .ok page) (hpath : site.storePath page = .ok path)
    (hread : ∀ e, site.readPage disk page = .error e → e.deniesPage = false)
    (h : site.prepare disk (some name) batch isDryRun = .error e) : e.deniesPage = false := by
  unfold prepare at h
  rw [hpage] at h
  simp only [bind, Except.bind, hpath] at h
  split at h
  · cases h
    rfl
  · cases hsource : site.readPage disk page with
    | error e' =>
      rw [hsource] at h
      cases h
      exact hread e hsource
    | ok source =>
      rw [hsource] at h
      simp only at h
      -- what is wrong with the edits is not laid to the page
      cases batch with
      | error fault =>
        cases h
        rfl
      | ok drafts =>
        simp only [Except.mapError] at h
        cases hdrafts : applyDrafts site.bounds source drafts with
        | error fault =>
          rw [hdrafts] at h
          cases h
          rfl
        | ok outcome =>
          rw [hdrafts] at h
          cases h

end Page

/-- A text opens a page whose place holds a file. -/
theorem opens_of_file {name : Text} {page : PagePath} {path : Text} {b : Bytes}
    (hpage : pagePath (some name) = .ok page) (hpath : site.storePath page = .ok path)
    (hinside : (Place.follow site.store.root path).isWithin site.store.root = true)
    (hfile : disk.at? (Place.follow site.store.root path) = some (.file b)) :
    site.Opens disk name := by
  have hread : ∀ e, site.readPage disk page = .error e → e.deniesPage = false :=
    fun e => deniesPage_of_readPage hpath hinside hfile
  refine ⟨fun e => deniesPage_of_content hpage hread, fun tag batch isDryRun e h => ?_⟩
  rw [apply] at h
  cases hprepare : site.prepare disk (some name) batch isDryRun with
  | error e' =>
    rw [hprepare] at h
    cases h
    exact deniesPage_of_prepare hpage hpath hread hprepare
  | ok p =>
    obtain ⟨-, -, -, -, place, drafts, -, found⟩ := exists_of_prepare hprepare
    obtain ⟨b, hfile, hdecode⟩ := found.read
    have hcommits := found.commits disk tag
    rw [hprepare] at h
    dsimp only at h
    generalize p.commit disk tag = result at h hcommits
    cases hcommits with
    | kept | written => cases h
    | failed =>
      cases h
      rfl
    | refused writes refusal =>
      -- the page is what it was when it was read
      rw [Store.refusal?_eq_none_iff.2 ⟨b, hfile, hdecode⟩] at refusal
      cases refusal

/-- Where something stands that is neither a file nor a folder, no page is found; or the disk
refuses to look for it. -/
theorem readPage_of_special {page : PagePath} {path : Text} (hpath : site.storePath page = .ok path)
    (hinside : (Place.follow site.store.root path).isWithin site.store.root = true)
    (hspecial : disk.at? (Place.follow site.store.root path) = some .special) :
    site.readPage disk page = .error (.pageNotFound page.path) ∨
      ∃ fault, site.readPage disk page = .error (.store (.disk fault)) := by
  rw [readPage, hpath]
  simp only [bind, Except.bind, Store.readText]
  rcases Store.place_of_isWithin hinside with hplace | ⟨fault, hplace⟩
  · rw [hplace]
    simp only [Store.textAt, bind, Except.bind]
    cases hlook : disk.look (Place.follow site.store.root path) with
    | error fault => exact .inr ⟨fault, rfl⟩
    | ok found =>
      obtain rfl := (Disk.look_eq_at? hlook).trans hspecial
      exact .inl rfl
  · rw [hplace]
    exact .inr ⟨fault, rfl⟩

/-- A text that finds no page: what is on it is refused because there is none, or because the disk
refuses to look for it, and every batch of edits is refused too. -/
structure Misses (site : Site) (disk : Disk) (name : Text) : Prop where
  content : site.content disk (some name) = .error (.pageNotFound name) ∨
    ∃ fault, site.content disk (some name) = .error (.store (.disk fault))
  apply : ∀ disk' tag batch isDryRun, ∃ e,
    site.apply disk disk' tag (some name) batch isDryRun = (.error e, disk')

theorem misses_of_special {name : Text} {page : PagePath} {path : Text}
    (hpage : pagePath (some name) = .ok page) (hname : page.path = name)
    (hpath : site.storePath page = .ok path)
    (hinside : (Place.follow site.store.root path).isWithin site.store.root = true)
    (hspecial : disk.at? (Place.follow site.store.root path) = some .special) :
    site.Misses disk name := by
  have hread := readPage_of_special hpath hinside hspecial
  rw [hname] at hread
  constructor
  · rw [content, hpage]
    rcases hread with hread | ⟨fault, hread⟩
    · left
      simp only [bind, Except.bind, hread]
    · right
      refine ⟨fault, ?_⟩
      simp only [bind, Except.bind, hread]
  · intro disk' tag batch isDryRun
    have hprepare : ∃ e, site.prepare disk (some name) batch isDryRun = .error e := by
      rw [prepare, hpage]
      rcases hread with hread | ⟨fault, hread⟩
      all_goals
        simp only [bind, Except.bind, hpath, hread]
        split
        · exact ⟨_, rfl⟩
        · exact ⟨_, rfl⟩
    obtain ⟨e, hprepare⟩ := hprepare
    exact ⟨e, by rw [apply, hprepare]⟩

/-! ## Listed pages -/

/-- The folder of pages is what stands where its path leads. -/
theorem at?_of_folder {path : Text} {found : Entry}
    (h : site.folder disk path = .ok (some found)) :
    disk.at? (Place.follow site.store.root path) = some found := by
  have h := Disk.eq_ok_of_orAbsent h
  split at h
  · next habsolute =>
    rw [Place.follow_of_isAbsolute habsolute, ← Place.follow_tidied habsolute]
    exact Disk.at?_of_find h
  · obtain ⟨place, hfollow, hlook⟩ := Markup.exists_of_bind_eq_ok h
    rw [← Place.follow?_eq_ok hfollow]
    exact (Disk.look_eq_at? hlook).symm

/-- The pages of a site are listed in the folder that its path leads to. -/
theorem exists_list_of_pages {pages : List ListedPage} (h : site.pages disk = .ok pages) :
    ∃ path folder, site.pagesFolder = some path ∧ site.folder disk path = .ok folder ∧
      ((∃ base, site.basePath = some base ∧
          ListedPage.list (Place.absolute site.store.root path) folder base = .ok pages) ∨
        site.basePath = none ∧ pages = []) := by
  rw [Site.pages] at h
  split at h
  · cases h
  next path hpath =>
  obtain ⟨folder, hfolder, h⟩ := Markup.exists_of_bind_eq_ok h
  refine ⟨path, folder, hpath, eq_ok_of_mapError hfolder, ?_⟩
  dsimp only at h
  cases hbase : site.basePath with
  | some base =>
    rw [hbase] at h
    exact .inl ⟨base, rfl, eq_ok_of_mapError h⟩
  | none =>
    rw [hbase] at h
    split at h
    · next heq => cases heq
    · cases h
      exact .inr ⟨rfl, rfl⟩
    · cases h
    · cases h

/-- A listed page has the path of a place that is listed. -/
theorem exists_place_of_mem_pages {path : Text} {pages : List ListedPage} {page : ListedPage}
    (hpath : site.pagesFolder = some path) (hpages : site.pages disk = .ok pages)
    (hpage : page ∈ pages) :
    ∃ found place, disk.at? (Place.follow site.store.root path) = some found ∧
      place ∈ placesIn found ∧ page.path = Text.join (text "/") place := by
  obtain ⟨path', folder, hpath', hfolder, hlist⟩ := exists_list_of_pages hpages
  obtain rfl := Option.some.inj (hpath.symm.trans hpath')
  rcases hlist with ⟨base, -, hlist⟩ | ⟨-, rfl⟩
  · obtain ⟨⟨found, hfound, place, hplace, rfl⟩, -⟩ :=
      (ListedPage.mem_iff_of_list_eq_ok hlist).1 hpage
    obtain rfl := Option.mem_def.1 hfound
    exact ⟨found, place, at?_of_folder hfolder, hplace, rfl⟩
  · cases hpage

/-- The path of a page that plain text names. -/
theorem pagePath_of_isPlain {name : Text} (hsuffix : name.HasPageSuffix)
    (hplain : (PagePath.normalized name).isPlain = true) :
    ∃ page : PagePath, page.path = PagePath.normalized name ∧
      pagePath (some name) = .ok page := by
  have hpage : (PagePath.normalized name).isPagePath = true := by
    rw [Text.isPagePath_eq_isPlain (PagePath.hasPageSuffix_normalized hsuffix), hplain]
  refine ⟨⟨_, hpage⟩, rfl, ?_⟩
  rw [pagePath, Option.bind_some, PagePath.ofText?, dif_pos hpage]

theorem pagePath_of_not_isPlain {name : Text} (hsuffix : name.HasPageSuffix)
    (hplain : (PagePath.normalized name).isPlain = false) :
    pagePath (some name) = .error (.invalidPage (some name)) := by
  have hpage : ¬ (PagePath.normalized name).isPagePath = true := by
    rw [Text.isPagePath_eq_isPlain (PagePath.hasPageSuffix_normalized hsuffix), hplain]
    exact Bool.false_ne_true
  rw [pagePath, Option.bind_some, PagePath.ofText?, dif_neg hpage]

/-- A text that is refused as the path of a page, whatever is on the disk. -/
structure Rejects (site : Site) (name : Text) : Prop where
  content : ∀ disk, site.content disk (some name) = .error (.invalidPage (some name))
  apply : ∀ before disk tag batch isDryRun,
    site.apply before disk tag (some name) batch isDryRun =
      (.error (.invalidPage (some name)), disk)

theorem rejects_of_pagePath {name : Text}
    (h : pagePath (some name) = .error (.invalidPage (some name))) : site.Rejects name := by
  refine ⟨fun disk => ?_, fun before disk tag batch isDryRun => ?_⟩
  · rw [content, h]
    rfl
  · rw [apply, prepare, h]
    rfl

/-- A text gets the answers that another one gets. -/
structure AnswersLike (site : Site) (name name' : Text) : Prop where
  content : ∀ disk, site.content disk (some name) = site.content disk (some name')
  apply : ∀ before disk tag batch isDryRun, site.apply before disk tag (some name) batch isDryRun =
    site.apply before disk tag (some name') batch isDryRun

theorem answersLike_of_pagePath {name name' : Text} {page : PagePath}
    (h : pagePath (some name) = .ok page) (h' : pagePath (some name') = .ok page) :
    site.AnswersLike name name' := by
  refine ⟨fun disk => ?_, fun before disk tag batch isDryRun => ?_⟩
  · rw [content, content, h, h']
  · rw [apply, apply, prepare, prepare, h, h']

/-- A plain path leads to the place whose names it is made of. -/
theorem exists_storePath_of_place {dir name : Text} {place : Place} (dir_ne : dir ≠ [])
    (hfolder : site.pagesFolder = some (dir.dropLastWhile (· == .char '/')))
    (hinside : (Place.follow site.store.root dir).isWithin site.store.root = true)
    (place_ne : place ≠ []) (hproper : ∀ name ∈ place, name.IsProperName)
    (hname : name = Text.join (text "/") place) (hsuffix : name.HasPageSuffix)
    (hplain : name.isPlain = true) :
    ∃ page path, pagePath (some name) = .ok page ∧ page.path = name ∧
      site.storePath page = .ok path ∧
      (Place.follow site.store.root path).isWithin site.store.root = true ∧
      Place.follow site.store.root path = Place.follow site.store.root dir ++ place := by
  have hnormalized := PagePath.normalized_of_isPlain hplain
  obtain ⟨page, hpath, hpage⟩ := pagePath_of_isPlain hsuffix (by rwa [hnormalized])
  have hstorePath : site.storePath page =
      .ok (dir.dropLastWhile (· == .char '/') ++ text "/" ++ page.path) := by
    rw [storePath, hfolder]
  have hdownward : page.downward = place :=
    Place.downward_eq (by rw [hpath, hnormalized, hname]) place_ne hproper
  have hfollow : Place.follow site.store.root
      (dir.dropLastWhile (· == .char '/') ++ text "/" ++ page.path) =
        Place.follow site.store.root dir ++ place := by
    rw [Place.follow_page dir_ne, hdownward]
  have hwithin : (Place.follow site.store.root dir ++ place).isWithin site.store.root = true :=
    List.isPrefixOf_iff_prefix.2
      ((List.isPrefixOf_iff_prefix.1 hinside).trans (List.prefix_append _ _))
  rw [← hfollow] at hwithin
  exact ⟨page, _, hpage, hpath.trans hnormalized, hstorePath, hwithin, hfollow⟩

/-- A path that is plain once its backslashes are taken for slashes names the page with slashes in
its path. -/
theorem answersLike_normalized {name : Text} (hsuffix : name.HasPageSuffix)
    (hplain : (PagePath.normalized name).isPlain = true) :
    site.AnswersLike name (PagePath.normalized name) := by
  have hnormalized := PagePath.normalized_of_isPlain hplain
  obtain ⟨page, hpath, hpage⟩ := pagePath_of_isPlain hsuffix hplain
  obtain ⟨page', hpath', hpage'⟩ := pagePath_of_isPlain
    (PagePath.hasPageSuffix_normalized hsuffix) (by rwa [hnormalized])
  have hsame : page' = page := by
    cases page
    cases page'
    simp only at hpath hpath'
    rw [PagePath.mk.injEq, hpath, hpath', hnormalized]
  rw [hsame] at hpage'
  exact answersLike_of_pagePath hpage hpage'

/-- Whatever the settings and the disk are, where a listed page has a plain path there is a file or
something that is neither file nor folder. A file can be opened by the path: what is on the page,
and a batch of edits of it, are never refused because there is no such page. Anything else is no
page that is found. A path with other characters, or with two dots in a row, is refused once its
backslashes are taken for slashes; and if it is plain then, it names the page with slashes in its
path. -/
theorem listed_pages_open_if_plain {root : Place} {settings : Json.Members} {site : Site}
    {dir : Text} {disk : Disk} {pages : List ListedPage} {page : ListedPage}
    (hvalid : Settings.schema.holds (.object settings) = true)
    (hsite : ofSettings root settings = .ok site)
    (hdir : words? settings "pages_dir" "src/pages" = some dir)
    (hinside : (Place.follow root dir).isWithin root = true) (hnamed : disk.isWellNamed = true)
    (hpages : site.pages disk = .ok pages) (hpage : page ∈ pages) :
    (page.path.isPlain = true →
      (∃ b, disk.at? (Place.follow root dir ++ Place.names page.path) = some (.file b)) ∧
          site.Opens disk page.path ∨
        disk.at? (Place.follow root dir ++ Place.names page.path) = some .special ∧
          site.Misses disk page.path) ∧
      ((PagePath.normalized page.path).isPlain = false → site.Rejects page.path) ∧
        ((PagePath.normalized page.path).isPlain = true →
          site.AnswersLike page.path (PagePath.normalized page.path)) := by
  obtain ⟨hstore, hfolder⟩ := ofSettings_eq_ok hsite hdir
  obtain rfl : site.store.root = root := by rw [hstore]
  have dir_ne := dir_ne_nil_of_holds hvalid hdir
  obtain ⟨folder, place, hat, hplace, hpath⟩ := exists_place_of_mem_pages hfolder hpages hpage
  rw [Place.follow_folder dir_ne hinside] at hat
  obtain ⟨⟨found, hfound, hfile⟩, hproper, front, last, hlast, hname⟩ :=
    Entry.exists_of_mem_placesIn (Entry.isWellNamed_of_at? hnamed hat) hplace
  have place_ne : place ≠ [] := by
    rw [hlast]
    exact List.append_ne_nil_of_right_ne_nil _ (List.cons_ne_nil _ _)
  have hsuffix : page.path.HasPageSuffix := by
    rw [isPageName, Bool.and_eq_true, decide_eq_true_eq, Text.endsWith_iff] at hname
    have hname : last.HasPageSuffix := hname
    rw [hpath, hlast]
    exact hname.mono (Text.suffix_join _ front last)
  have hentry : disk.at? (Place.follow site.store.root dir ++ Place.names page.path) =
      some found := by
    rw [hpath, Place.names_join place_ne hproper, Entry.at?_append hat, hfound]
  refine ⟨fun hplain => ?_, fun hplain => rejects_of_pagePath (pagePath_of_not_isPlain hsuffix hplain),
    answersLike_normalized hsuffix⟩
  -- the path is read back as the names that it was made of
  obtain ⟨pagePath, path, hpagePath, hsame, hstorePath, hwithin, hfollow⟩ :=
    exists_storePath_of_place dir_ne hfolder hinside place_ne hproper hpath hsuffix hplain
  have hthere : disk.at? (Place.follow site.store.root path) = some found := by
    rw [hfollow, Entry.at?_append hat, hfound]
  cases found with
  | file b => exact .inl ⟨⟨b, hentry⟩, opens_of_file hpagePath hstorePath hwithin hthere⟩
  | special =>
    exact .inr ⟨hentry, misses_of_special hpagePath hsame hstorePath hwithin hthere⟩
  | folder => cases hfile

/-- A page that is a file. -/
theorem listed_pages_open_if_plain_of_file : ∃ (site : Site) (disk : Disk)
    (pages : List ListedPage) (page : ListedPage),
    disk = .folder [(text "src", .folder [(text "pages", .folder
      [(text "c-1.astro", .file (text "<p>x</p>").bytes)])])] ∧
    ofSettings [] Settings.defaults = .ok site ∧ site.pages disk = .ok pages ∧ page ∈ pages ∧
      page.path = text "c-1.astro" ∧ site.Opens disk page.path := by
  let disk : Disk := .folder [(text "src", .folder [(text "pages", .folder
    [(text "c-1.astro", .file (text "<p>x</p>").bytes)])])]
  have hrun : (ofSettings [] Settings.defaults).toOption.bind (fun site =>
      (site.pages disk).toOption) =
        some [⟨text "C-1", text "c-1.astro", text "/c-1"⟩] := by
    decide +kernel
  obtain ⟨site, hsite, hpages⟩ := Option.bind_eq_some_iff.1 hrun
  have hsite := Markup.eq_ok_of_toOption hsite
  have hpages := Markup.eq_ok_of_toOption hpages
  have hdir : words? Settings.defaults "pages_dir" "src/pages" = some (text "src/pages") := by
    decide
  have hopens := listed_pages_open_if_plain (by decide +kernel) hsite hdir (by decide)
    (by decide +kernel) hpages (.head _)
  refine ⟨site, disk, _, _, rfl, hsite, hpages, .head _, rfl, ?_⟩
  rcases hopens.1 (by decide +kernel) with ⟨-, hopens⟩ | ⟨hspecial, -⟩
  · exact hopens
  · cases hspecial

/-- Not every listed page can be opened: a blank in its name is enough. -/
theorem not_forall_listed_open : ¬ ∀ (root : Place) (settings : Json.Members) (site : Site)
    (dir : Text) (disk : Disk) (pages : List ListedPage) (page : ListedPage),
    Settings.schema.holds (.object settings) = true → ofSettings root settings = .ok site →
      words? settings "pages_dir" "src/pages" = some dir →
        (Place.follow root dir).isWithin root = true → disk.isWellNamed = true →
          site.pages disk = .ok pages → page ∈ pages → site.Opens disk page.path := by
  intro hall
  let disk : Disk := .folder [(text "src", .folder [(text "pages", .folder
    [(text "a b.astro", .file (text "<p>x</p>").bytes)])])]
  have hrun : (ofSettings [] Settings.defaults).toOption.bind (fun site =>
      (site.pages disk).toOption) =
        some [⟨text "A b", text "a b.astro", text "/a b"⟩] := by
    decide +kernel
  obtain ⟨site, hsite, hpages⟩ := Option.bind_eq_some_iff.1 hrun
  have hopens := hall [] Settings.defaults site (text "src/pages") disk _ _ (by decide +kernel)
    (Markup.eq_ok_of_toOption hsite) (by decide) (by decide) (by decide +kernel)
    (Markup.eq_ok_of_toOption hpages) (.head _)
  have hrejects : site.Rejects (text "a b.astro") := rejects_of_pagePath (by
    rw [pagePath, Option.bind_some, PagePath.ofText?, dif_neg (by decide +kernel)])
  cases hopens.content _ (hrejects.content disk)

end Site

end VisibleText
