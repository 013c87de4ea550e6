import VisibleText.Proofs.PageWrite
import VisibleText.Site.Content

/-!
# Pages stay below their folder

A page is named by a text, and its folder by a setting; neither can name a file outside the folder
and the project. The names of a page path only go down (`PagePath.isBelow_downward`), so the place
of a page lies below the place that the setting leads to; and a store takes no place outside its
project.

A setting of slashes only leaves no path once the slashes at its end are gone, and what is read from
there starts from the root of the disk. Then it is the store that keeps the page in the project.
-/

set_option autoImplicit false

namespace VisibleText

/-! ## Pieces of texts -/

namespace Text

variable {separator : CodePoint}

theorem splitOn_ne_nil (separator : CodePoint) (t : Text) : t.splitOn separator ≠ [] := by
  cases t with
  | nil => exact List.cons_ne_nil _ _
  | cons c t =>
    unfold splitOn
    split
    · exact List.cons_ne_nil _ _
    · split <;> exact List.cons_ne_nil _ _

theorem splitOn_cons_self (t : Text) :
    Text.splitOn separator (separator :: t) = [] :: t.splitOn separator := by
  rw [splitOn, if_pos rfl]

theorem splitOn_cons_of_ne {c : CodePoint} (hc : c ≠ separator) (t : Text) :
    ∃ piece pieces, t.splitOn separator = piece :: pieces ∧
      Text.splitOn separator (c :: t) = (c :: piece) :: pieces := by
  obtain ⟨piece, pieces, hpieces⟩ := List.exists_cons_of_ne_nil (splitOn_ne_nil separator t)
  refine ⟨piece, pieces, hpieces, ?_⟩
  rw [splitOn, if_neg hc, hpieces]

/-- A text is cut at a separator into the pieces before it and those behind it. -/
theorem splitOn_append_cons (s t : Text) :
    Text.splitOn separator (s ++ separator :: t) = s.splitOn separator ++ t.splitOn separator := by
  induction s with
  | nil => exact splitOn_cons_self t
  | cons c s ih =>
    by_cases hc : c = separator
    · subst hc
      rw [List.cons_append, splitOn_cons_self, splitOn_cons_self, ih, List.cons_append]
    · obtain ⟨piece, pieces, hpieces, hsplit⟩ := splitOn_cons_of_ne hc (s ++ separator :: t)
      obtain ⟨piece', pieces', hpieces', hsplit'⟩ := splitOn_cons_of_ne hc s
      rw [ih, hpieces', List.cons_append, List.cons.injEq] at hpieces
      rw [List.cons_append, hsplit, hsplit', ← hpieces.1, ← hpieces.2, List.cons_append]

theorem not_mem_of_mem_splitOn {t piece : Text} (h : piece ∈ t.splitOn separator) :
    separator ∉ piece := by
  induction t generalizing piece with
  | nil =>
    obtain rfl := List.mem_singleton.1 h
    exact List.not_mem_nil
  | cons c t ih =>
    by_cases hc : c = separator
    · subst hc
      rw [splitOn_cons_self] at h
      rcases List.mem_cons.1 h with rfl | h
      · exact List.not_mem_nil
      · exact ih h
    · obtain ⟨first, pieces, hpieces, hsplit⟩ := splitOn_cons_of_ne hc t
      rw [hsplit] at h
      rcases List.mem_cons.1 h with rfl | h
      · rw [List.mem_cons, not_or]
        exact ⟨Ne.symm hc, ih (hpieces ▸ .head _)⟩
      · exact ih (hpieces ▸ .tail _ h)

/-- A piece stands in the text, and the first one stands at its start. -/
theorem isInfix_of_mem_splitOn (t : Text) :
    (∀ first pieces, t.splitOn separator = first :: pieces → first <+: t) ∧
      ∀ piece ∈ t.splitOn separator, piece <:+: t := by
  induction t with
  | nil =>
    refine ⟨fun first pieces h => ?_, fun piece h => ?_⟩
    · obtain ⟨rfl, -⟩ := List.cons.inj h
      exact List.nil_prefix
    · obtain rfl := List.mem_singleton.1 h
      exact List.nil_infix
  | cons c t ih =>
    by_cases hc : c = separator
    · subst hc
      rw [splitOn_cons_self]
      refine ⟨fun first pieces h => ?_, fun piece h => ?_⟩
      · obtain ⟨rfl, -⟩ := List.cons.inj h
        exact List.nil_prefix
      · rcases List.mem_cons.1 h with rfl | h
        · exact List.nil_infix
        · exact (ih.2 piece h).trans (List.suffix_cons c t).isInfix
    · obtain ⟨first, pieces, hpieces, hsplit⟩ := splitOn_cons_of_ne hc t
      have hfirst : c :: first <+: c :: t := List.cons_prefix_cons.2 ⟨rfl, ih.1 _ _ hpieces⟩
      rw [hsplit]
      refine ⟨fun first' pieces' h => ?_, fun piece h => ?_⟩
      · obtain ⟨rfl, -⟩ := List.cons.inj h
        exact hfirst
      · rcases List.mem_cons.1 h with rfl | h
        · exact hfirst.isInfix
        · exact (ih.2 piece (hpieces ▸ .tail _ h)).trans (List.suffix_cons c t).isInfix

/-- The last piece of a text ends with what the text ends with behind its last separator. -/
theorem exists_splitOn_eq_concat (s : Text) {ending : Text} (h : separator ∉ ending) :
    ∃ pieces last, Text.splitOn separator (s ++ ending) = pieces ++ [last] ∧ ending <:+ last := by
  induction s with
  | nil =>
    refine ⟨[], ending, ?_, List.suffix_rfl⟩
    rw [List.nil_append, List.nil_append]
    induction ending with
    | nil => rfl
    | cons c ending ih =>
      rw [List.mem_cons, not_or] at h
      rw [splitOn, if_neg (Ne.symm h.1), ih h.2]
  | cons c s ih =>
    obtain ⟨pieces, last, hsplit, hlast⟩ := ih
    rw [List.cons_append]
    by_cases hc : c = separator
    · subst hc
      rw [splitOn_cons_self, hsplit]
      exact ⟨[] :: pieces, last, rfl, hlast⟩
    · obtain ⟨first, more, hmore, hcons⟩ := splitOn_cons_of_ne hc (s ++ ending)
      rw [hcons]
      cases pieces with
      | nil =>
        obtain ⟨rfl, rfl⟩ := List.cons.inj (hmore.symm.trans hsplit)
        exact ⟨[], _, rfl, hlast.trans (List.suffix_cons _ _)⟩
      | cons piece pieces =>
        obtain ⟨rfl, rfl⟩ := List.cons.inj (hmore.symm.trans hsplit)
        exact ⟨_ :: pieces, last, rfl, hlast⟩

theorem contains_of_isInfix {t mark : Text} (h : mark <:+: t) : t.contains mark = true := by
  induction t with
  | nil =>
    obtain rfl := List.infix_nil.1 h
    rfl
  | cons c t ih =>
    rw [Text.contains, cutAt?]
    cases hafter : after? mark (c :: t) with
    | some rest => rfl
    | none =>
      rcases List.infix_cons_iff.1 h with ⟨rest, hprefix⟩ | hinfix
      · rw [after?, List.isPrefixOf?_eq_some_iff_append_eq.2 hprefix] at hafter
        cases hafter
      · have hcut := ih hinfix
        rw [Text.contains, Option.isSome_iff_exists] at hcut
        obtain ⟨⟨front, rest⟩, hcut⟩ := hcut
        simp only [hcut]
        rfl

theorem dropLastWhile_append (p : CodePoint → Bool) (t : Text) :
    ∃ dropped : Text, t = t.dropLastWhile p ++ dropped ∧ ∀ c ∈ dropped, p c = true := by
  refine ⟨(t.reverse.takeWhile p).reverse, ?_, fun c hc => ?_⟩
  · rw [dropLastWhile, ← List.reverse_append, List.takeWhile_append_dropWhile, List.reverse_reverse]
  · exact List.all_eq_true.1 List.all_takeWhile c (List.mem_reverse.1 hc)

theorem endsWith_iff {t ending : Text} : t.endsWith ending = true ↔ ending <:+ t := by
  rw [endsWith, List.isPrefixOf_iff_prefix, List.reverse_prefix]

end Text

/-! ## Names of paths -/

/-- A name that leads to what stands under it in a folder: it does not stay, go up, or hold the
slashes that names end at. -/
def Text.IsProperName (name : Text) : Prop :=
  name ≠ [] ∧ name ≠ text "." ∧ name ≠ text ".." ∧ .char '/' ∉ name

/-- A place lies strictly below another one. -/
def Place.IsBelow (place base : Place) : Prop :=
  ∃ names, place = base ++ names ∧ names ≠ [] ∧ ∀ name ∈ names, Text.IsProperName name

namespace Place

/-- A name of a path stays, goes up, or is a proper one. -/
theorem step_cases {path name : Text} (h : name ∈ names path) (upward : List Text) :
    step upward name = upward ∨ step upward name = upward.drop 1 ∨
      (name.IsProperName ∧ step upward name = name :: upward) := by
  unfold step
  split
  · exact .inl rfl
  · next hstays =>
    rw [not_or] at hstays
    split
    · exact .inr (.inl rfl)
    · next hup =>
      exact .inr (.inr ⟨⟨hstays.1, hstays.2, hup, Text.not_mem_of_mem_splitOn h⟩, rfl⟩)

/-- Where names lead to is some of the names of where they started, and proper names behind
them. -/
theorem exists_foldl_step {path : Text} :
    ∀ (taken upward : List Text), (∀ name ∈ taken, name ∈ names path) →
      ∃ pushed kept : List Text, taken.foldl step upward = pushed ++ kept ∧ kept <:+ upward ∧
        ∀ name ∈ pushed, Text.IsProperName name := by
  intro taken
  induction taken with
  | nil => exact fun upward _ => ⟨[], upward, rfl, List.suffix_rfl, fun _ h => nomatch h⟩
  | cons name taken ih =>
    intro upward htaken
    obtain ⟨hname, htaken⟩ := List.forall_mem_cons.1 htaken
    rw [List.foldl_cons]
    obtain ⟨pushed, kept, hfold, hkept, hpushed⟩ := ih (step upward name) htaken
    rcases step_cases hname upward with hstep | hstep | ⟨hproper, hstep⟩
    · rw [hstep] at hkept
      exact ⟨pushed, kept, hfold, hkept, hpushed⟩
    · rw [hstep] at hkept
      exact ⟨pushed, kept, hfold, hkept.trans (List.drop_suffix 1 upward), hpushed⟩
    · -- the name is the first one to be lost when names go up later
      rw [hstep] at hkept
      rcases List.suffix_cons_iff.1 hkept with rfl | hkept
      · refine ⟨pushed ++ [name], upward, ?_, List.suffix_rfl, ?_⟩
        · rw [hfold, List.append_assoc]
          rfl
        · intro other hother
          rcases List.mem_append.1 hother with hother | hother
          · exact hpushed other hother
          · exact List.mem_singleton.1 hother ▸ hproper
      · exact ⟨pushed, kept, hfold, hkept, hpushed⟩

/-- Names that do not go up lead down, by those of them that do not stay. -/
theorem foldl_step_of_not_up {upward : List Text} :
    ∀ taken : List Text, text ".." ∉ taken →
      taken.foldl step upward =
        (taken.filter fun name => name ≠ [] ∧ name ≠ text ".").reverse ++ upward := by
  intro taken
  induction taken generalizing upward with
  | nil => exact fun _ => rfl
  | cons name taken ih =>
    intro hup
    rw [List.mem_cons, not_or] at hup
    rw [List.foldl_cons, ih hup.2, List.filter_cons]
    by_cases hstays : name = [] ∨ name = text "."
    · have hstep : step upward name = upward := if_pos hstays
      have hkeep : ¬ (name ≠ [] ∧ name ≠ text ".") := by
        rw [← not_or, not_not]
        exact hstays
      rw [hstep, if_neg (by simpa using hkeep)]
    · have hstep : step upward name = name :: upward := by
        rw [step, if_neg hstays, if_neg (Ne.symm hup.1)]
      have hkeep : name ≠ [] ∧ name ≠ text "." := not_or.1 hstays
      rw [hstep, if_pos (by simpa using hkeep), List.reverse_cons, List.append_assoc]
      rfl

/-! ## Paths -/

/-- What a path leads to, if it starts with a path that is not empty, is read on from there. -/
theorem follow_append {folder : Text} (folder_ne : folder ≠ []) (base : Place) (path : Text) :
    follow base (folder ++ .char '/' :: path) =
      ((names path).foldl step (follow base folder).reverse).reverse := by
  have hstart : startOf base (folder ++ .char '/' :: path) = startOf base folder := by
    obtain ⟨c, folder, rfl⟩ := List.exists_cons_of_ne_nil folder_ne
    have habsolute : isAbsolute (c :: folder ++ .char '/' :: path) = isAbsolute (c :: folder) := by
      simp [isAbsolute, Text.startsWith, text, List.isPrefixOf]
    rw [startOf, habsolute, startOf]
  rw [follow, follow, hstart, names, Text.splitOn_append_cons, List.foldl_append,
    List.reverse_reverse]
  rfl

theorem follow_nil (base : Place) : follow base [] = base := List.reverse_reverse base

theorem follow_slash (base : Place) (path : Text) :
    follow base (.char '/' :: path) = ((names path).foldl step []).reverse := by
  have hstart : startOf base (.char '/' :: path) = [] := rfl
  rw [follow, hstart, names, Text.splitOn_cons_self, List.foldl_cons]
  rfl

/-- Slashes stay where they are. -/
theorem foldl_step_slashes {slashes : Text} (h : ∀ c ∈ slashes, c = .char '/')
    (upward : List Text) : (names slashes).foldl step upward = upward := by
  induction slashes with
  | nil => rfl
  | cons c slashes ih =>
    obtain ⟨hc, hslashes⟩ := List.forall_mem_cons.1 h
    rw [hc, names, Text.splitOn_cons_self, List.foldl_cons]
    exact ih hslashes

/-- A place within another one lies below it or is the same, and if a path leads there, by proper
names. -/
theorem eq_or_isBelow_of_isWithin {base : Place} {path : Text}
    (h : (follow base path).isWithin base = true) :
    follow base path = base ∨ (follow base path).IsBelow base := by
  obtain ⟨rest, hrest⟩ := List.isPrefixOf_iff_prefix.1 h
  by_cases hnil : rest = []
  · rw [hnil, List.append_nil] at hrest
    exact .inl hrest.symm
  refine .inr ⟨rest, hrest.symm, hnil, ?_⟩
  obtain ⟨pushed, kept, hfold, hkept, hpushed⟩ :=
    exists_foldl_step (names path) (startOf base path).reverse fun _ hname => hname
  -- no more names are kept than the base has, so what lies behind the base was pushed
  have hstart : (startOf base path).length ≤ base.length := by
    unfold startOf
    split
    · exact Nat.zero_le _
    · exact Nat.le_refl _
  have hkept_le : kept.length ≤ base.length := by
    have := hkept.length_le
    rw [List.length_reverse] at this
    omega
  have hreverse : rest.reverse ++ base.reverse = pushed ++ kept := by
    rw [← List.reverse_append, hrest, follow, hfold, List.reverse_reverse]
  have hlength := congrArg List.length hreverse
  simp only [List.length_append, List.length_reverse] at hlength
  have hstarts : rest.reverse <+: pushed := by
    refine List.prefix_of_prefix_length_le ⟨_, hreverse⟩ ⟨_, rfl⟩ ?_
    rw [List.length_reverse]
    omega
  intro name hname
  exact hpushed name (hstarts.subset (List.mem_reverse.2 hname))

end Place

/-! ## Pages -/

namespace PagePath

/-- The names of a page's path that lead down: those that do not stay. -/
def downward (page : PagePath) : List Text :=
  (Place.names page.path).filter fun name => name ≠ [] ∧ name ≠ text "."

theorem not_up_mem_names (page : PagePath) : text ".." ∉ Place.names page.path := by
  intro hmem
  have hpage := page.isPagePath
  have hcontains := Text.contains_of_isInfix ((Text.isInfix_of_mem_splitOn page.path).2 _ hmem)
  simp [Text.isPagePath, hcontains] at hpage

theorem foldl_step_names (page : PagePath) (upward : List Text) :
    (Place.names page.path).foldl Place.step upward = page.downward.reverse ++ upward :=
  Place.foldl_step_of_not_up _ page.not_up_mem_names

theorem isProperName_of_mem_downward {page : PagePath} {name : Text} (h : name ∈ page.downward) :
    name.IsProperName := by
  obtain ⟨hmem, hstays⟩ := List.mem_filter.1 h
  rw [decide_eq_true_eq] at hstays
  refine ⟨hstays.1, hstays.2, ?_, Text.not_mem_of_mem_splitOn hmem⟩
  rintro rfl
  exact page.not_up_mem_names hmem

/-- A page has a name of its own: the last name of its path has the suffix of pages. -/
theorem downward_ne_nil (page : PagePath) : page.downward ≠ [] := by
  have hpage := page.isPagePath
  simp only [Text.isPagePath, Bool.and_eq_true] at hpage
  obtain ⟨front, hfront⟩ := Text.endsWith_iff.1 hpage.1.1.1
  have hslash : CodePoint.char '/' ∉ pageSuffix := by decide
  obtain ⟨pieces, last, hsplit, hlast⟩ := Text.exists_splitOn_eq_concat front hslash
  have hlength := hlast.length_le
  have hsuffix : pageSuffix.length = 6 := rfl
  have hkeep : last ≠ [] ∧ last ≠ text "." := by
    constructor <;>
    · rintro rfl
      exact absurd hlength (by decide)
  have hmem : last ∈ page.downward := by
    refine List.mem_filter.2 ⟨?_, by simpa using hkeep⟩
    rw [Place.names, ← hfront, hsplit]
    exact List.mem_append_right _ (.head _)
  exact List.ne_nil_of_mem hmem

theorem isBelow_downward (page : PagePath) (base : Place) :
    Place.IsBelow (base ++ page.downward) base :=
  ⟨page.downward, rfl, page.downward_ne_nil, fun _ => isProperName_of_mem_downward⟩

end PagePath

namespace Place

/-- Where the setting of the folder of pages leads does not depend on the slashes at its end, unless
it is nothing but slashes. -/
theorem follow_dropLastWhile {dir : Text} (folder_ne : dir.dropLastWhile (· == .char '/') ≠ [])
    (base : Place) : follow base (dir.dropLastWhile (· == .char '/')) = follow base dir := by
  obtain ⟨slashes, hdir, hslashes⟩ := dir.dropLastWhile_append (· == .char '/')
  generalize dir.dropLastWhile (· == .char '/') = folder at hdir folder_ne ⊢
  rw [hdir]
  cases slashes with
  | nil => rw [List.append_nil]
  | cons c slashes =>
    obtain ⟨hc, hslashes⟩ := List.forall_mem_cons.1 hslashes
    rw [beq_iff_eq.1 hc, follow_append folder_ne,
      foldl_step_slashes fun c hc => beq_iff_eq.1 (hslashes c hc), List.reverse_reverse]

/-- A page lies below where the setting of its folder leads, unless the setting is empty. -/
theorem follow_page {dir : Text} (dir_ne : dir ≠ []) (base : Place) (page : PagePath) :
    follow base (dir.dropLastWhile (· == .char '/') ++ text "/" ++ page.path) =
      follow base dir ++ page.downward := by
  have hslash (folder : Text) :
      folder ++ text "/" ++ page.path = folder ++ .char '/' :: page.path :=
    List.append_assoc _ _ _
  rw [hslash]
  by_cases hfolder : dir.dropLastWhile (· == .char '/') = []
  · -- of slashes nothing is left, and they lead to the root of the disk
    obtain ⟨slashes, hdir, hslashes⟩ := dir.dropLastWhile_append (· == .char '/')
    rw [hfolder, List.nil_append] at hdir
    obtain ⟨c, slashes, rfl⟩ := List.exists_cons_of_ne_nil (hdir ▸ dir_ne)
    obtain ⟨hc, hslashes⟩ := List.forall_mem_cons.1 hslashes
    rw [hfolder, hdir, beq_iff_eq.1 hc, List.nil_append, follow_slash, follow_slash,
      page.foldl_step_names, foldl_step_slashes fun c hc => beq_iff_eq.1 (hslashes c hc)]
    simp
  · rw [follow_append hfolder, page.foldl_step_names, List.reverse_append, List.reverse_reverse,
      List.reverse_reverse, follow_dropLastWhile hfolder]

end Place

/-- The place of a page lies below its project and below the folder of pages, unless the page is the
project itself. -/
theorem Store.isBelow_of_place {root place : Place} {dir : Text} {page : PagePath}
    (h : (Store.mk root).place
      (dir.dropLastWhile (· == .char '/') ++ text "/" ++ page.path) = .ok place) :
    place = root ∨ (place.IsBelow root ∧ place.IsBelow (Place.follow root dir)) := by
  obtain ⟨place', hfollow, h⟩ := Markup.exists_of_bind_eq_ok h
  have hplace : Place.follow root
      (dir.dropLastWhile (· == .char '/') ++ text "/" ++ page.path) = place' := by
    have hfollow := eq_ok_of_mapError hfollow
    unfold Place.follow? at hfollow
    split at hfollow
    · cases hfollow
    · exact Except.ok.inj hfollow
  split at h
  · next hwithin =>
    cases h
    rw [← hplace] at hwithin ⊢
    rcases Place.eq_or_isBelow_of_isWithin hwithin with heq | hbelow
    · exact .inl heq
    refine .inr ⟨hbelow, ?_⟩
    by_cases dir_ne : dir = []
    · -- an empty setting leads to the project
      rw [dir_ne, Place.follow_nil]
      rwa [dir_ne] at hbelow
    · rw [Place.follow_page dir_ne]
      exact page.isBelow_downward _
  · cases h

/-- The name under which a page is written first lies where the page does. -/
theorem Store.isBelow_temporaryPlace {place base : Place} (h : place.IsBelow base) (tag : Text) :
    ∃ names, Store.temporaryPlace tag place = base ++ names ∧ names ≠ [] := by
  obtain ⟨names, rfl, names_ne, -⟩ := h
  refine ⟨names.dropLast ++ [Store.temporaryName tag ((base ++ names).getLastD [])], ?_, by simp⟩
  rw [Store.temporaryPlace, List.dropLast_append_of_ne_nil names_ne, List.append_assoc]

/-! ## Sites -/

namespace Site

/-- A text that is refused as a page, whatever is on the disk. -/
structure Refuses (site : Site) (name : Option Text) : Prop where
  content : ∃ e, ∀ disk, site.content disk name = .error e
  apply : ∀ tag batch isDryRun, ∃ e, ∀ before disk,
    site.apply before disk tag name batch isDryRun = (.error e, disk)

/-- Of the files of a disk only the one at a place decides what is said of a page, and only that one
is ever changed. -/
structure Touches (site : Site) (name : Option Text) (place : Place) : Prop where
  content : ∀ disk disk', Store.textAt disk place = Store.textAt disk' place →
    site.content disk name = site.content disk' name
  prepare : ∀ disk disk' batch isDryRun, Store.textAt disk place = Store.textAt disk' place →
    site.prepare disk name batch isDryRun = site.prepare disk' name batch isDryRun
  apply : ∀ before disk tag batch isDryRun,
    (site.apply before disk tag name batch isDryRun).2 = disk ∨
      ∃ old new, disk.file? place = some old ∧
        (site.apply before disk tag name batch isDryRun).2 = disk.put (.file new) place

variable {site : Site} {name : Option Text}

theorem refuses_of_pagePath {e : SiteError} (h : pagePath name = .error e) :
    site.Refuses name := by
  refine ⟨⟨e, fun disk => ?_⟩, fun tag batch isDryRun => ⟨e, fun before disk => ?_⟩⟩
  · rw [Site.content, h]
    rfl
  · rw [Site.apply, Site.prepare, h]
    rfl

/-- Reading a page looks at the file at its place only. -/
theorem readPage_congr {page : PagePath} {path : Text} {place : Place} {disk disk' : Disk}
    (hpath : site.storePath page = .ok path) (hplace : site.store.place path = .ok place)
    (hsame : Store.textAt disk place = Store.textAt disk' place) :
    site.readPage disk page = site.readPage disk' page := by
  have hread : site.store.readText disk path = site.store.readText disk' path := by
    rw [Store.readText, Store.readText, hplace]
    exact hsame
  rw [Site.readPage, Site.readPage, hpath]
  simp only [Bind.bind, Except.bind, hread]

theorem refuses_of_place {page : PagePath} {path : Text} {e : StoreError}
    (hpage : pagePath name = .ok page) (hpath : site.storePath page = .ok path)
    (hplace : site.store.place path = .error e) : site.Refuses name := by
  have hread (disk : Disk) : site.readPage disk page = .error (.store e) := by
    rw [Site.readPage, hpath]
    simp only [Bind.bind, Except.bind, Store.readText, hplace]
    rfl
  refine ⟨⟨.store e, fun disk => ?_⟩, fun tag batch isDryRun => ?_⟩
  · rw [Site.content, hpage]
    simp only [Bind.bind, Except.bind, hread]
  · -- an empty batch is refused before the page is looked for
    by_cases hempty : batch = .ok []
    · refine ⟨.batch .empty, fun before disk => ?_⟩
      rw [Site.apply, Site.prepare, hpage, hempty]
      rfl
    · refine ⟨.store e, fun before disk => ?_⟩
      have hprepare : site.prepare before name batch isDryRun = .error (.store e) := by
        unfold Site.prepare
        rw [hpage]
        simp only [Bind.bind, Except.bind, hpath, hread]
      rw [Site.apply, hprepare]

theorem touches_of_hasPage {place : Place} (hasPage : site.HasPage name place) :
    site.Touches name place := by
  have ⟨page, path, hpage, hpath, hplace⟩ := hasPage
  refine ⟨fun disk disk' hsame => ?_, fun disk disk' batch isDryRun hsame => ?_,
    fun before disk tag batch isDryRun => ?_⟩
  · rw [Site.content, Site.content, hpage]
    simp only [Bind.bind, Except.bind, readPage_congr hpath hplace hsame]
  · rw [Site.prepare, Site.prepare, hpage]
    simp only [Bind.bind, Except.bind, readPage_congr hpath hplace hsame]
  · rw [Site.apply]
    cases hprepare : site.prepare before name batch isDryRun with
    | error e => exact .inl rfl
    | ok p =>
      obtain ⟨-, -, drafts, -, found⟩ := hasPage.exists_found hprepare
      have hcommits := found.commits disk tag
      dsimp only
      generalize p.commit disk tag = result at hcommits ⊢
      cases hcommits with
      | kept | refused | failed => exact .inl rfl
      | written writes unchanged =>
        obtain ⟨old, hfile, -⟩ := Store.refusal?_eq_none_iff.1 unchanged
        exact .inr ⟨old, _, hfile, rfl⟩

/-- Where no file stands, there is no page. -/
theorem errors_of_no_file {place : Place} (hasPage : site.HasPage name place) {disk : Disk}
    (hfile : disk.file? place = none) :
    (∃ e, site.content disk name = .error e) ∧
      ∀ disk' tag batch isDryRun, ∃ e,
        site.apply disk disk' tag name batch isDryRun = (.error e, disk') := by
  constructor
  · cases hcontent : site.content disk name with
    | error e => exact ⟨e, rfl⟩
    | ok content =>
      obtain ⟨page, hpage, hcontent⟩ := Markup.exists_of_bind_eq_ok hcontent
      obtain ⟨source, hsource, -⟩ := Markup.exists_of_bind_eq_ok hcontent
      obtain ⟨path, hpath, hread⟩ := readPage_eq_ok hsource
      obtain ⟨other, b, hplace, -, hfile', -⟩ := Store.exists_of_readText hread
      rw [hasPage.unique ⟨page, path, hpage, hpath, hplace⟩, hfile] at hfile'
      cases hfile'
  · intro disk' tag batch isDryRun
    rw [Site.apply]
    cases hprepare : site.prepare disk name batch isDryRun with
    | error e => exact ⟨e, rfl⟩
    | ok p =>
      obtain ⟨-, -, drafts, -, found⟩ := hasPage.exists_found hprepare
      obtain ⟨b, hfile', -⟩ := found.read
      cases hfile.symm.trans hfile'

/-- The folder of pages and the root of a site are those of its settings. -/
theorem ofSettings_eq_ok {root : Place} {settings : Json.Members} {dir : Text}
    (h : ofSettings root settings = .ok site)
    (hdir : words? settings "pages_dir" "src/pages" = some dir) :
    site.store = ⟨root⟩ ∧ site.pagesFolder = some (dir.dropLastWhile (· == .char '/')) := by
  obtain ⟨openTag, -, h⟩ := Markup.exists_of_bind_eq_ok h
  split at h
  · cases h
  · obtain ⟨search, -, h⟩ := Markup.exists_of_bind_eq_ok h
    obtain ⟨bounds, -, h⟩ := Markup.exists_of_bind_eq_ok h
    cases h
    rw [hdir]
    exact ⟨rfl, rfl⟩

/-- Whatever the root, the setting of the folder of pages and the text that names a page are, the
page is refused without looking at the disk, or there is a single file that decides what is said of
the page and that may be changed; and it lies strictly below the root and strictly below where the
setting leads, and so does the name under which it is written first. The one other place that a path
may lead to is the root itself, where no file stands if it is a folder; then there is no page. -/
theorem pages_stay_below_folder {root : Place} {settings : Json.Members} {site : Site} {dir : Text}
    (hsite : ofSettings root settings = .ok site)
    (hdir : words? settings "pages_dir" "src/pages" = some dir) (name : Option Text) :
    site.Refuses name ∨
    ∃ place, site.Touches name place ∧
      ((place.IsBelow root ∧ place.IsBelow (Place.follow root dir) ∧
        ∀ tag, (∃ names, Store.temporaryPlace tag place = root ++ names ∧ names ≠ []) ∧
          ∃ names, Store.temporaryPlace tag place = Place.follow root dir ++ names ∧ names ≠ []) ∨
      (place = root ∧ ∀ disk, disk.file? root = none →
        (∃ e, site.content disk name = .error e) ∧
          ∀ disk' tag batch isDryRun, ∃ e,
            site.apply disk disk' tag name batch isDryRun = (.error e, disk'))) := by
  obtain ⟨hstore, hfolder⟩ := ofSettings_eq_ok hsite hdir
  cases hpage : pagePath name with
  | error e => exact .inl (refuses_of_pagePath hpage)
  | ok page =>
    have hpath : site.storePath page =
        .ok (dir.dropLastWhile (· == .char '/') ++ text "/" ++ page.path) := by
      rw [storePath, hfolder]
    cases hplace : site.store.place
        (dir.dropLastWhile (· == .char '/') ++ text "/" ++ page.path) with
    | error e => exact .inl (refuses_of_place hpage hpath hplace)
    | ok place =>
      have hasPage : site.HasPage name place := ⟨page, _, hpage, hpath, hplace⟩
      refine .inr ⟨place, touches_of_hasPage hasPage, ?_⟩
      rw [hstore] at hplace
      rcases Store.isBelow_of_place hplace with rfl | ⟨hroot, hpages⟩
      · exact .inr ⟨rfl, fun disk hfile => errors_of_no_file hasPage hfile⟩
      · exact .inl ⟨hroot, hpages, fun tag => ⟨Store.isBelow_temporaryPlace hroot tag,
          Store.isBelow_temporaryPlace hpages tag⟩⟩

/-- A setting that goes up and down, and a page that is named with a backslash. -/
theorem pages_stay_below_folder_of_detour : ∃ (settings : Json.Members) (site : Site)
    (place : Place),
    ofSettings [text "p"] settings = .ok site ∧
      words? settings "pages_dir" "src/pages" = some (text "../p//pages/./") ∧
        site.Touches (some (text "a\\b.astro")) place ∧ place.IsBelow [text "p"] ∧
          place.IsBelow (Place.follow [text "p"] (text "../p//pages/./")) := by
  let settings : Json.Members := [(text "pages_dir", .ofString "../p//pages/./")]
  let disk : Disk := .folder [(text "p", .folder [(text "pages", .folder [(text "a",
    .folder [(text "b.astro", .file (text "<p>x</p>").bytes)])])])]
  have hrun : (ofSettings [text "p"] settings).toOption.bind (fun site =>
      (site.content disk (some (text "a\\b.astro"))).toOption.map PageContent.page) =
        some (text "a/b.astro") := by
    decide +kernel
  obtain ⟨site, hsite, hcontent⟩ := Option.bind_eq_some_iff.1 hrun
  obtain ⟨content, hcontent, -⟩ := Option.map_eq_some_iff.1 hcontent
  have hsite := Markup.eq_ok_of_toOption hsite
  have hcontent := Markup.eq_ok_of_toOption hcontent
  have hdir : words? settings "pages_dir" "src/pages" = some (text "../p//pages/./") := by decide
  rcases pages_stay_below_folder hsite hdir (some (text "a\\b.astro")) with refuses |
    ⟨place, touches, ⟨hroot, hpages, -⟩ | ⟨-, herrors⟩⟩
  · -- the page is there
    obtain ⟨e, he⟩ := refuses.content
    cases hcontent.symm.trans (he disk)
  · exact ⟨settings, site, place, hsite, hdir, touches, hroot, hpages⟩
  · obtain ⟨⟨e, he⟩, -⟩ := herrors disk rfl
    cases hcontent.symm.trans he

end Site

end VisibleText
