import VisibleText.Proofs.StaticPages

/-!
# The routes of the editors

A page belongs to the editors if its route leads below their base: the segments of the base, which
are what stands between its slashes, come first among those of the route. A page is left out of the
listing by comparing texts, not segments. The routes of pages have single slashes and none at their
end (`ListedPage.isPlainRoute_routeOf`), so the two agree just if the base is written in the same
way (`ListedPage.isBelow_iff_of_isPlainRoute`).

Settings may give a base with a slash at its end, or with two in a row. Then no page is left out at
all, and the pages of the editors are hidden only if there are none
(`Site.editors_unlisted_iff`, `Site.not_forall_editors_unlisted`).
-/

set_option autoImplicit false

namespace VisibleText

/-! ## Segments -/

namespace Text

/-- The segments of a route: what stands between its slashes, if it is not empty. -/
def segments (route : Text) : List Text := (route.splitOn (.char '/')).filter (· ≠ [])

/-- A route is written plainly if it has one slash before each of its segments, and no others. -/
def IsPlainRoute (route : Text) : Prop := route = text "/" ++ join (text "/") route.segments

instance (route : Text) : Decidable route.IsPlainRoute :=
  inferInstanceAs (Decidable (route = text "/" ++ join (text "/") route.segments))

/-- Every slash of a text stands behind something that is no slash. -/
def SlashesApart (t : Text) : Prop :=
  ∀ front back : Text, t = front ++ .char '/' :: back →
    ∃ (rest : Text) (c : CodePoint), front = rest ++ [c] ∧ c ≠ .char '/'

/-- Everything about segments follows from this equation. -/
theorem segments_append_slash (s t : Text) :
    segments (s ++ .char '/' :: t) = s.segments ++ t.segments := by
  rw [segments, splitOn_append_cons, List.filter_append]
  rfl

theorem mem_segments {route name : Text} (h : name ∈ route.segments) :
    name ≠ [] ∧ .char '/' ∉ name := by
  obtain ⟨hname, hne⟩ := List.mem_filter.1 h
  exact ⟨of_decide_eq_true hne, not_mem_of_mem_splitOn hname⟩

/-- Two lists of texts are joined separately, with a separator between them. -/
theorem join_append {separator : Text} {ts us : List Text} (ts_ne : ts ≠ []) (us_ne : us ≠ []) :
    join separator (ts ++ us) = join separator ts ++ separator ++ join separator us := by
  induction ts with
  | nil => exact absurd rfl ts_ne
  | cons t ts ih =>
    cases ts with
    | nil =>
      obtain ⟨u, us, rfl⟩ := List.exists_cons_of_ne_nil us_ne
      rw [List.singleton_append, join_cons_cons, join_singleton]
    | cons t' ts =>
      rw [List.cons_append, List.cons_append, join_cons_cons, ← List.cons_append,
        ih (List.cons_ne_nil _ _), join_cons_cons]
      simp only [List.append_assoc]

/-- Names are the segments of the path that is made of them. -/
theorem segments_join {names : List Text} (h : ∀ name ∈ names, name ≠ [] ∧ .char '/' ∉ name) :
    segments (join (text "/") names) = names := by
  rcases List.eq_nil_or_concat names with rfl | ⟨front, last, rfl⟩
  · rfl
  · have hsplit := splitOn_join (by simp) fun name hname => (h name hname).2
    rw [segments]
    refine (congrArg (List.filter _) hsplit).trans (List.filter_eq_self.2 fun name hname => ?_)
    exact decide_eq_true (h name hname).1

/-! ## Slashes that stand apart -/

namespace SlashesApart

variable {t front : Text}

theorem of_prefix (h : t.SlashesApart) (hfront : front <+: t) : front.SlashesApart := by
  obtain ⟨behind, rfl⟩ := hfront
  intro before back heq
  apply h before (back ++ behind)
  rw [heq, List.append_assoc, List.cons_append]

theorem concat (h : t.SlashesApart) {c : CodePoint} (hc : c ≠ .char '/') :
    (t ++ [c]).SlashesApart := by
  intro before back heq
  rcases List.eq_nil_or_concat back with rfl | ⟨back, last, rfl⟩
  · -- the only slash that could come last is the code point itself
    obtain ⟨-, hlast⟩ := List.append_inj' heq rfl
    exact absurd (List.cons.inj hlast).1 hc
  · apply h before back
    rw [List.concat_eq_append, ← List.cons_append, ← List.append_assoc] at heq
    exact (List.append_inj' heq rfl).1

/-- A path of names that are not empty has its slashes apart. -/
theorem join {names : List Text} (h : ∀ name ∈ names, name ≠ [] ∧ .char '/' ∉ name) :
    (Text.join (text "/") names).SlashesApart := by
  intro front back heq
  have names_ne : names ≠ [] := by
    rintro rfl
    cases front <;> cases heq
  have hsplit : names = front.splitOn (.char '/') ++ back.splitOn (.char '/') := by
    rw [← splitOn_append_cons, ← heq]
    exact (splitOn_join names_ne fun name hname => (h name hname).2).symm
  -- what stands before a slash ends with one of the names
  obtain ⟨pieces, last, hpieces⟩ := (List.eq_nil_or_concat (front.splitOn (.char '/'))).resolve_left
    (splitOn_ne_nil _ _)
  rw [List.concat_eq_append] at hpieces
  obtain ⟨last_ne, hslash⟩ := h last (by simp [hsplit, hpieces])
  obtain ⟨rest, c, rfl⟩ := (List.eq_nil_or_concat last).resolve_left last_ne
  obtain ⟨before, hbefore⟩ := suffix_join (text "/") pieces (rest.concat c)
  rw [← hpieces] at hbefore
  refine ⟨before ++ rest, c, ?_, ?_⟩
  · rw [← join_splitOn (.char '/') front, List.append_assoc, ← List.concat_eq_append]
    exact hbefore.symm
  · rintro rfl
    exact hslash (by simp)

/-- A text whose slashes stand apart, and none at its end, is made of its segments. -/
theorem join_segments (h : t.SlashesApart) (hend : ¬ text "/" <:+ t) :
    Text.join (text "/") t.segments = t := by
  by_cases ht : t = []
  · rw [ht]
    rfl
  have hpieces : ∀ piece ∈ t.splitOn (.char '/'), piece ≠ [] := by
    rintro piece hpiece rfl
    obtain ⟨before, behind, hsplit⟩ := List.append_of_mem hpiece
    have hjoin := join_splitOn (.char '/') t
    rw [hsplit] at hjoin
    -- an empty piece has a slash on one of its sides, which is out of place
    rcases eq_or_ne before [] with rfl | before_ne
    · cases behind with
      | nil => exact ht hjoin.symm
      | cons next behind =>
        rw [List.nil_append, join_cons_cons] at hjoin
        obtain ⟨rest, c, hrest, -⟩ := h [] _ hjoin.symm
        cases rest <;> cases hrest
    · rw [join_append before_ne (List.cons_ne_nil _ _)] at hjoin
      cases behind with
      | nil =>
        apply hend
        rw [← hjoin, join_singleton, List.append_nil]
        exact List.suffix_append _ _
      | cons next behind =>
        rw [join_cons_cons, List.nil_append, ← List.append_assoc] at hjoin
        obtain ⟨rest, c, hrest, hc⟩ := h (Text.join [.char '/'] before ++ [.char '/'])
          (Text.join [.char '/'] (next :: behind)) (hjoin.symm.trans (by simp))
        exact hc (List.cons.inj (List.append_inj' hrest rfl).2).1.symm
  rw [segments, List.filter_eq_self.2 fun piece hpiece => decide_eq_true (hpieces piece hpiece)]
  exact join_splitOn (.char '/') t

end SlashesApart

end Text

/-! ## The routes of pages -/

namespace ListedPage

variable {base route : Text}

theorem slashesApart_withoutEnd (ending : Text) {t : Text} (h : t.SlashesApart) :
    (withoutEnd ending t).SlashesApart := by
  unfold withoutEnd
  split
  · exact h.of_prefix (List.take_prefix _ _)
  split
  · exact (h.of_prefix (List.take_prefix _ _)).concat (by decide)
  · exact h

theorem slashesApart_withoutIndex {path : Text} (h : path.SlashesApart) :
    (withoutIndex path).SlashesApart := by
  have hnil : Text.SlashesApart [] := fun front back heq => by cases front <;> cases heq
  unfold withoutIndex
  split
  · exact hnil
  split
  · exact hnil.concat (by decide)
  · exact slashesApart_withoutEnd _ h

/-- The route of a page is written plainly. -/
theorem isPlainRoute_routeOf {place : Place} (h : ∀ name ∈ place, name.IsProperName) :
    (routeOf (Text.join (text "/") place)).IsPlainRoute := by
  have hpath : (Text.join (text "/") place).SlashesApart :=
    .join fun name hname => ⟨(h name hname).1, (h name hname).2.2.2⟩
  have hrest := slashesApart_withoutEnd pageSuffix (slashesApart_withoutIndex hpath)
  obtain ⟨dropped, hdropped, -⟩ := Text.dropLastWhile_append (· == .char '/')
    (withoutEnd pageSuffix (withoutIndex (Text.join (text "/") place)))
  rw [routeOf]
  generalize hkept : Text.dropLastWhile _ _ = kept at hdropped ⊢
  have hend : ¬ text "/" <:+ kept := by
    rintro ⟨front, hfront⟩
    have hslash := Text.dropLastWhile_concat (hkept.trans hfront.symm)
    cases hslash
  have hjoin := (hrest.of_prefix ⟨dropped, hdropped.symm⟩).join_segments hend
  rw [Text.IsPlainRoute]
  exact congrArg (text "/" ++ ·) hjoin.symm

/-- A plain route is left out just if the base is written plainly too and the route leads below
it. -/
theorem isBelow_iff_of_isPlainRoute (hroute : route.IsPlainRoute) (hslash : text "/" <+: base)
    (hsegments : base.segments ≠ []) :
    isBelow base route = true ↔ base.IsPlainRoute ∧ base.segments <+: route.segments := by
  obtain ⟨tail, rfl⟩ := hslash
  rw [isBelow, Bool.or_eq_true, beq_iff_eq, Text.startsWith, List.isPrefixOf_iff_prefix]
  constructor
  · rintro (rfl | ⟨behind, hbehind⟩)
    · exact ⟨hroute, List.prefix_rfl⟩
    · have hjoin : Text.join (text "/") route.segments = tail ++ .char '/' :: behind := by
        rw [hroute, List.append_assoc, List.append_assoc] at hbehind
        exact (List.append_cancel_left hbehind).symm
      have hapart : (Text.join (text "/") route.segments).SlashesApart :=
        .join fun name => Text.mem_segments
      refine ⟨?_, ?_⟩
      · -- the slash behind the base shows that none stands at its end
        obtain ⟨rest, c, htail, hc⟩ := hapart tail behind hjoin
        have hend : ¬ text "/" <:+ tail := by
          rintro ⟨front, rfl⟩
          exact hc (List.cons.inj (List.append_inj' htail rfl).2).1.symm
        have htidy := (hapart.of_prefix ⟨_, hjoin.symm⟩).join_segments hend
        exact congrArg (text "/" ++ ·) htidy.symm
      · have hsplit := congrArg Text.segments hjoin
        rw [Text.segments_join fun name => Text.mem_segments, Text.segments_append_slash] at hsplit
        exact ⟨Text.segments behind, hsplit.symm⟩
  · rintro ⟨hbase, rest, hrest⟩
    rw [Text.IsPlainRoute] at hroute hbase
    rcases eq_or_ne rest [] with rfl | rest_ne
    · left
      rw [hroute, ← hrest, List.append_nil, ← hbase]
    · right
      refine ⟨Text.join (text "/") rest, ?_⟩
      rw [hroute, ← hrest, Text.join_append hsegments rest_ne, ← List.append_assoc,
        ← List.append_assoc, ← hbase]

end ListedPage

/-! ## The setting of the base -/

theorem Schema.prefix_of_opening {start t : Text}
    (h : ruleViolations (.opening start) (.string t) = []) : start <+: t := by
  have h : flatViolations (.opening start) (.string t) = [] := h
  by_contra hstart
  rw [flatViolations, Text.startsWith, if_neg (mt List.isPrefixOf_iff_prefix.1 hstart)] at h
  cases h

namespace Site

variable {root : Place} {settings : Json.Members} {site : Site} {base : Text} {disk : Disk}
  {pages : List ListedPage} {page : ListedPage}

/-- In valid settings the base of the editors starts with a slash. -/
theorem slash_prefix_of_holds (hvalid : Settings.schema.holds (.object settings) = true)
    (hbase : words? settings "base_path" "/admin" = some base) : text "/" <+: base := by
  rcases words?_eq_some (by decide) hbase with rfl | hvalue
  · exact List.prefix_append [_] _
  · have hrules := Schema.rulesViolations_eq_nil_of_holds hvalid (.tail _ (.head _))
      (.tail _ (.tail _ (.head _))) hvalue
    exact Schema.prefix_of_opening (Schema.ruleViolations_eq_nil hrules (.tail _ (.head _)))

theorem basePath_of_ofSettings (h : ofSettings root settings = .ok site) :
    site.basePath = words? settings "base_path" "/admin" := by
  obtain ⟨openTag, -, h⟩ := Markup.exists_of_bind_eq_ok h
  split at h
  · cases h
  · obtain ⟨search, -, h⟩ := Markup.exists_of_bind_eq_ok h
    obtain ⟨bounds, -, h⟩ := Markup.exists_of_bind_eq_ok h
    cases h
    rfl

/-! ## Pages of the editors -/

/-- A page stands in the folder of pages of a site, whoever its route belongs to. -/
def HasStatic (site : Site) (disk : Disk) (page : ListedPage) : Prop :=
  ∃ path folder, site.pagesFolder = some path ∧ site.folder disk path = .ok (some folder) ∧
    ∃ place ∈ ListedPage.placesIn folder, page = ListedPage.pageAt place

/-- A page of a site has a route that is written plainly. -/
theorem HasStatic.isPlainRoute (h : site.HasStatic disk page) (hnamed : disk.isWellNamed = true) :
    page.route.IsPlainRoute := by
  obtain ⟨path, folder, -, hfolder, place, hplace, rfl⟩ := h
  obtain ⟨-, hproper, -⟩ := Entry.exists_of_mem_placesIn
    (Entry.isWellNamed_of_at? hnamed (at?_of_folder hfolder)) hplace
  exact ListedPage.isPlainRoute_routeOf hproper

/-- Just the pages are listed that are not below the base. -/
theorem mem_pages_iff (hbase : site.basePath = some base) (hpages : site.pages disk = .ok pages) :
    page ∈ pages ↔
      site.HasStatic disk page ∧ ListedPage.isBelow base page.route = false := by
  obtain ⟨path, folder, hpath, hfolder, hlist⟩ := exists_list_of_pages hpages
  rcases hlist with ⟨base', hbase', hlist⟩ | ⟨hnone, -⟩
  · obtain rfl := Option.some.inj (hbase.symm.trans hbase')
    rw [ListedPage.mem_iff_of_list_eq_ok hlist, and_congr_left_iff]
    intro _
    constructor
    · rintro ⟨entry, hentry, hplace⟩
      obtain rfl := Option.mem_def.1 hentry
      exact ⟨path, entry, hpath, hfolder, hplace⟩
    · rintro ⟨path', entry, hpath', hfolder', hplace⟩
      obtain rfl := Option.some.inj (hpath.symm.trans hpath')
      exact ⟨entry, Except.ok.inj (hfolder.symm.trans hfolder'), hplace⟩
  · cases hbase.symm.trans hnone

/-- Whatever valid settings and the disk are, if the base of the editors has a segment, the pages
of a site are listed but for those whose routes have the segments of the base first; and these are
left out just if the base is written plainly. So no page of the editors is listed just if the base
is written plainly or there is none. -/
theorem editors_unlisted_iff (hvalid : Settings.schema.holds (.object settings) = true)
    (hsite : ofSettings root settings = .ok site)
    (hbase : words? settings "base_path" "/admin" = some base) (hsegments : base.segments ≠ [])
    (hnamed : disk.isWellNamed = true) (hpages : site.pages disk = .ok pages) :
    (∀ page, page ∈ pages ↔ site.HasStatic disk page ∧
      ¬ (base.IsPlainRoute ∧ base.segments <+: page.route.segments)) ∧
    ((∀ page ∈ pages, ¬ base.segments <+: page.route.segments) ↔
      base.IsPlainRoute ∨
        ∀ page, site.HasStatic disk page → ¬ base.segments <+: page.route.segments) := by
  have hslash := slash_prefix_of_holds hvalid hbase
  have hlisted (page : ListedPage) : page ∈ pages ↔ site.HasStatic disk page ∧
      ¬ (base.IsPlainRoute ∧ base.segments <+: page.route.segments) := by
    rw [mem_pages_iff ((basePath_of_ofSettings hsite).trans hbase) hpages, and_congr_right_iff]
    intro hstatic
    rw [← ListedPage.isBelow_iff_of_isPlainRoute (hstatic.isPlainRoute hnamed) hslash hsegments,
      Bool.not_eq_true]
  refine ⟨hlisted, ?_⟩
  constructor
  · intro hnone
    by_cases hplain : base.IsPlainRoute
    · exact .inl hplain
    · -- nothing is left out, so what is not listed is not there
      refine .inr fun page hstatic => ?_
      apply hnone page
      exact (hlisted page).2 ⟨hstatic, fun h => hplain h.1⟩
  · rintro (hplain | hnone) page hpage
    · intro hbelow
      exact ((hlisted page).1 hpage).2 ⟨hplain, hbelow⟩
    · exact hnone page ((hlisted page).1 hpage).1

theorem openTag_positive : (Bound.whole 2000).isPositive = true := rfl

theorem search_not_negative : (Bound.whole 200).isNegative = false := rfl

/-- A site with a base and else with what settings give if they say nothing. -/
def withBase (base : Text) : Site :=
  ⟨⟨[]⟩, some (text "src/pages"), some base,
    ⟨.whole 2000, .whole 200, openTag_positive, search_not_negative⟩⟩

/-- A disk with the folder of pages that settings give if they say nothing else. -/
def pagesDisk (entries : List (Text × Entry)) : Disk :=
  .folder [(text "src", .folder [(text "pages", .folder entries)])]

/-- A page of the editors and a page whose route only starts with the same letters. -/
theorem editors_unlisted_iff_of_sibling : ∃ (disk : Disk) (pages : List ListedPage),
    disk = pagesDisk [(text "admin", .folder [(text "users.astro", .file [])]),
      (text "administrator.astro", .file [])] ∧
    ofSettings [] Settings.defaults = .ok (withBase (text "/admin")) ∧
      (withBase (text "/admin")).pages disk = .ok pages ∧
        ListedPage.pageAt [text "administrator.astro"] ∈ pages ∧
          ListedPage.pageAt [text "admin", text "users.astro"] ∉ pages := by
  let entries : List (Text × Entry) := [(text "admin", .folder [(text "users.astro", .file [])]),
    (text "administrator.astro", .file [])]
  have hsite : ofSettings [] Settings.defaults = .ok (withBase (text "/admin")) := by rfl
  have hpages : (withBase (text "/admin")).pages (pagesDisk entries) =
      .ok [ListedPage.pageAt [text "administrator.astro"]] := by
    have hlist : ListedPage.list (text "/src/pages") (some (.folder entries)) (text "/admin") =
        .ok [ListedPage.pageAt [text "administrator.astro"]] :=
      ListedPage.list_eq_filter (by decide +kernel) (by decide +kernel) (by decide +kernel)
    exact congrArg (Except.mapError SiteError.disk) hlist
  have hbase : words? Settings.defaults "base_path" "/admin" = some (text "/admin") := by decide
  obtain ⟨hlisted, -⟩ := editors_unlisted_iff (by decide +kernel) hsite hbase (by decide)
    (by decide +kernel) hpages
  refine ⟨_, _, rfl, hsite, hpages, (hlisted _).2 ⟨?_, ?_⟩, fun hmem => ((hlisted _).1 hmem).2 ?_⟩
  · exact ⟨_, .folder entries, rfl, by rfl, _, by decide, rfl⟩
  · decide +kernel
  · decide +kernel

/-- Not every valid base hides the pages of the editors: a slash at its end is enough. -/
theorem not_forall_editors_unlisted : ¬ ∀ (root : Place) (settings : Json.Members) (site : Site)
    (base : Text) (disk : Disk) (pages : List ListedPage),
    Settings.schema.holds (.object settings) = true → ofSettings root settings = .ok site →
      words? settings "base_path" "/admin" = some base → base.segments ≠ [] →
        disk.isWellNamed = true → site.pages disk = .ok pages →
          ∀ page ∈ pages, ¬ base.segments <+: page.route.segments := by
  intro hall
  let settings : Json.Members := [(text "pages_dir", .ofString "src/pages"),
    (text "base_path", .ofString "/admin/")]
  let entries : List (Text × Entry) := [(text "admin", .folder [(text "users.astro", .file [])])]
  have hsite : ofSettings [] settings = .ok (withBase (text "/admin/")) := by rfl
  have hpages : (withBase (text "/admin/")).pages (pagesDisk entries) =
      .ok [⟨text "Users", text "admin/users.astro", text "/admin/users"⟩] := by
    have hlist : ListedPage.list (text "/src/pages") (some (.folder entries)) (text "/admin/") =
        .ok [⟨text "Users", text "admin/users.astro", text "/admin/users"⟩] :=
      ListedPage.list_eq_filter (by decide +kernel) (by decide +kernel) (by decide +kernel)
    exact congrArg (Except.mapError SiteError.disk) hlist
  apply hall [] settings _ (text "/admin/") (pagesDisk entries) _ (by decide +kernel) hsite
    (by decide) (by decide) (by decide +kernel) hpages _ (.head _)
  decide

end Site

end VisibleText
