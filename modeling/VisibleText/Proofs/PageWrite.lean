import VisibleText.Proofs.Application
import VisibleText.Site.Basic

/-!
# Writing a page

A batch of edits is all or nothing on the disk (`Site.apply_all_or_nothing`). Whatever goes wrong,
and whatever was only tried, leaves the disk as it was; a batch that was carried out leaves the
page with what came out of it, and every other file as it was.

The page is written only if it holds what the batch was worked out from. Then the folders that
lead to it are there, so that putting the file there changes nothing else
(`Entry.file?_put_of_ne`).
-/

set_option autoImplicit false

namespace VisibleText

/-! ## What stands at other places -/

namespace Entry

variable {entries : List (Text × Entry)} {name : Text} {child : Entry}

theorem lookup_cons (other n : Text) (e : Entry) (entries : List (Text × Entry)) :
    ((n, e) :: entries).lookup other = if other = n then some e else entries.lookup other := by
  rw [List.lookup_cons]
  by_cases h : other = n
  · rw [if_pos h, beq_iff_eq.2 h]
  · rw [if_neg h, beq_eq_false_iff_ne.2 h]

theorem lookup_setIn (name other : Text) (new : Entry) (entries : List (Text × Entry)) :
    (setIn name new entries).lookup other =
      if other = name then some new else entries.lookup other := by
  induction entries with
  | nil => rw [setIn, lookup_cons]
  | cons e entries ih =>
    obtain ⟨n, e⟩ := e
    rw [setIn]
    split
    · next hn =>
      rw [lookup_cons, lookup_cons, hn]
      split <;> rfl
    · next hn =>
      rw [lookup_cons, ih, lookup_cons]
      by_cases h : other = n
      · rw [if_pos h, if_pos h, if_neg fun heq => hn (h.symm.trans heq)]
      · rw [if_neg h, if_neg h]

theorem setIn_of_lookup (h : entries.lookup name = some child) :
    setIn name child entries = entries := by
  induction entries with
  | nil => cases h
  | cons e entries ih =>
    obtain ⟨n, e⟩ := e
    rw [lookup_cons] at h
    rw [setIn]
    by_cases hn : name = n
    · rw [if_pos hn] at h
      rw [if_pos hn.symm, hn, Option.some.inj h]
    · rw [if_neg hn] at h
      rw [if_neg (Ne.symm hn), ih h]

theorem file?_eq_some_iff {entry : Entry} {place : Place} {content : Bytes} :
    entry.file? place = some content ↔ entry.at? place = some (.file content) := by
  unfold file?
  split
  · next found heq => rw [heq, Option.some_inj, Option.some_inj, Entry.file.injEq]
  · next hne => exact iff_of_false (Option.some_ne_none _).symm (hne content)

/-- What stands at a place stands in a folder, if the place is not the root. -/
theorem exists_of_at?_cons {entry found : Entry} {place : Place}
    (h : entry.at? (name :: place) = some found) :
    ∃ entries isListable child, entry = .folder entries isListable ∧
      entries.lookup name = some child ∧ child.at? place = some found := by
  cases entry with
  | file content => cases h
  | special => cases h
  | folder entries isListable =>
    rw [at?, child?] at h
    cases hchild : entries.lookup name with
    | none =>
      rw [hchild] at h
      cases h
    | some child =>
      rw [hchild] at h
      exact ⟨entries, isListable, child, rfl, hchild, h⟩

theorem at?_folder_cons (entries : List (Text × Entry)) (isListable : Bool) (name : Text)
    (place : Place) : (folder entries isListable).at? (name :: place) =
      (entries.lookup name).bind fun child => child.at? place := by
  rw [at?, child?]
  cases entries.lookup name <;> rfl

theorem file?_folder_cons (entries : List (Text × Entry)) (isListable : Bool) (name : Text)
    (place : Place) : (folder entries isListable).file? (name :: place) =
      (entries.lookup name).bind fun child => child.file? place := by
  rw [file?, at?_folder_cons]
  cases entries.lookup name <;> rfl

/-- Making the folders that lead to a place where something stands changes nothing. -/
theorem withFolder_of_at? {entry found : Entry} {place : Place}
    (h : entry.at? place = some found) : (entry.withFolder place).2 = entry := by
  induction place generalizing entry with
  | nil => rfl
  | cons name place ih =>
    obtain ⟨entries, isListable, child, rfl, hchild, hfound⟩ := exists_of_at?_cons h
    rw [withFolder]
    split
    · rfl
    · simp only [hchild, Option.getD_some, ih hfound, setIn_of_lookup hchild]

/-- Something stands above every place where something stands. -/
theorem exists_at?_dropLast {entry found : Entry} {place : Place}
    (h : entry.at? place = some found) : ∃ above, entry.at? place.dropLast = some above := by
  induction place generalizing entry with
  | nil => exact ⟨entry, rfl⟩
  | cons name place ih =>
    obtain ⟨entries, isListable, child, rfl, hchild, hfound⟩ := exists_of_at?_cons h
    cases place with
    | nil => exact ⟨_, rfl⟩
    | cons next place =>
      obtain ⟨above, habove⟩ := ih hfound
      rw [List.dropLast_cons_cons, at?_folder_cons, hchild]
      exact ⟨above, habove⟩

theorem at?_put {entry found : Entry} {place : Place} (h : entry.at? place = some found)
    (new : Entry) : (entry.put new place).at? place = some new := by
  induction place generalizing entry with
  | nil => rfl
  | cons name place ih =>
    obtain ⟨entries, isListable, child, rfl, hchild, hfound⟩ := exists_of_at?_cons h
    rw [put, at?_folder_cons, lookup_setIn, if_pos rfl, hchild, Option.getD_some,
      Option.bind_some, ih hfound]

/-- A file that is put in the place of another one changes no other file. -/
theorem file?_put_of_ne {entry : Entry} {place other : Place} {content : Bytes}
    (h : entry.file? place = some content) (hne : other ≠ place) (new : Bytes) :
    (entry.put (.file new) place).file? other = entry.file? other := by
  induction place generalizing entry other with
  | nil =>
    -- a file is the whole disk, and there is nothing below it
    have hentry := file?_eq_some_iff.1 h
    cases hentry
    obtain ⟨name, place, rfl⟩ := List.exists_cons_of_ne_nil hne
    rfl
  | cons name place ih =>
    obtain ⟨entries, isListable, child, rfl, hchild, hfound⟩ := exists_of_at?_cons (file?_eq_some_iff.1 h)
    rw [put, hchild, Option.getD_some]
    cases other with
    | nil => rfl
    | cons n other =>
      rw [file?_folder_cons, file?_folder_cons, lookup_setIn]
      split
      · next hn =>
        rw [hn] at hne
        rw [hn, hchild, Option.bind_some, Option.bind_some]
        exact ih (file?_eq_some_iff.2 hfound) fun heq => hne (congrArg (name :: ·) heq)
      · rfl

end Entry

/-! ## Texts and bytes -/

theorem hasSurrogate_of_undamaged {found : List Decoded} {place : Nat} {t : Text}
    (h : undamaged place found = .ok t) : t.hasSurrogate = false := by
  induction found generalizing place t with
  | nil =>
    cases h
    rfl
  | cons d found ih =>
    cases d with
    | damaged => cases h
    | character c =>
      rw [undamaged] at h
      split at h
      · next rest hrest =>
        cases h
        have hclean : rest.hasSurrogate = false := ih hrest
        rw [Text.hasSurrogate, List.any_cons, CodePoint.isSurrogate, Bool.false_or]
        exact hclean
      · cases h

/-- What is read from bytes has bytes. -/
theorem hasSurrogate_of_decode {b : Bytes} {t : Text} (h : b.decode = .ok t) :
    t.hasSurrogate = false :=
  hasSurrogate_of_undamaged h

theorem encodeFaultFrom?_eq_none {t : Text} (h : t.hasSurrogate = false)
    (allowed : CodePoint → Bool) (place : Nat) : t.encodeFaultFrom? allowed place = none := by
  induction t generalizing place with
  | nil => rfl
  | cons c t ih =>
    rw [Text.hasSurrogate, List.any_cons, Bool.or_eq_false_iff] at h
    rw [Text.encodeFaultFrom?, h.1, Bool.false_and, if_neg Bool.false_ne_true]
    exact ih h.2 (place + 1)

theorem encodeFault?_eq_none {t : Text} (h : t.hasSurrogate = false) : t.encodeFault? = none :=
  encodeFaultFrom?_eq_none h _ 0

/-! ## Places that can be looked at -/

/-- Neither the path of a place nor a name in it is too long. -/
def Place.IsShort (place : Place) : Prop :=
  place.toText.isLongPath = false ∧ ∀ name ∈ place, name.isLongName = false

namespace Disk

theorem meetsLongName_of_short {entry : Entry} {place : Place}
    (h : ∀ name ∈ place, name.isLongName = false) : meetsLongName entry place = false := by
  induction place generalizing entry with
  | nil => rfl
  | cons name place ih =>
    obtain ⟨hname, hplace⟩ := List.forall_mem_cons.1 h
    cases entry with
    | file => rfl
    | special => rfl
    | folder entries =>
      rw [meetsLongName, hname, Bool.false_or]
      split
      · rfl
      · exact ih hplace

theorem short_of_meetsLongName {entry found : Entry} {place : Place}
    (h : entry.at? place = some found) (hmeets : meetsLongName entry place = false) :
    ∀ name ∈ place, name.isLongName = false := by
  induction place generalizing entry with
  | nil => exact fun _ hname => absurd hname List.not_mem_nil
  | cons name place ih =>
    obtain ⟨entries, isListable, child, rfl, hchild, hfound⟩ := Entry.exists_of_at?_cons h
    rw [meetsLongName, hchild, Bool.or_eq_false_iff] at hmeets
    exact List.forall_mem_cons.2 ⟨hmeets.1, ih hfound hmeets.2⟩

theorem look_of_isShort (disk : Disk) {place : Place} (h : place.IsShort) :
    disk.look place = .ok (disk.at? place) := by
  rw [look, h.1, meetsLongName_of_short h.2]
  rfl

/-- A place where something was found can be looked at on every disk. -/
theorem isShort_of_look {disk : Disk} {place : Place} {found : Entry}
    (h : disk.look place = .ok (some found)) : place.IsShort ∧ disk.at? place = some found := by
  rw [look] at h
  split at h
  · cases h
  · next hlong =>
    rw [Bool.or_eq_true, not_or, Bool.not_eq_true, Bool.not_eq_true] at hlong
    have hfound := Except.ok.inj h
    exact ⟨⟨hlong.1, short_of_meetsLongName hfound hlong.2⟩, hfound⟩

/-- No folder is made where something stands, though the disk may refuse the path. -/
theorem makeFolder_of_at? {disk : Disk} {place : Place} {found : Entry}
    (h : disk.at? place = some found) : (disk.makeFolder place).2 = disk := by
  rw [makeFolder]
  split
  · rfl
  · exact Entry.withFolder_of_at? h

end Disk

/-! ## Writing to a file that is there -/

namespace Store

variable {disk : Disk} {place : Place} {content : Option Bytes} {path expected t tag : Text}

/-- Why a file that was read before is not written, if it is not: what it holds by now is
another text, no text, or nothing at all. -/
def refusal? (content : Option Bytes) (path expected : Text) : Option StoreError :=
  match content.map Bytes.decode with
  | none => some (.conflict path)
  | some (.error fault) => some (.undecodable fault)
  | some (.ok current) => if current = expected then none else some (.conflict path)

/-- A file is written only if it holds what was read. -/
theorem refusal?_eq_none_iff :
    refusal? content path expected = none ↔ ∃ b, content = some b ∧ b.decode = .ok expected := by
  unfold refusal?
  cases content with
  | none => simp
  | some b =>
    simp only [Option.map_some, Option.some_inj, exists_eq_left']
    cases b.decode with
    | error fault => simp
    | ok current =>
      simp only [ite_eq_left_iff, reduceCtorEq, imp_false, not_not, Except.ok.injEq]

/-- A text that is not the one that was read is a conflict, and so is a page that is gone. -/
theorem refusal?_eq_conflict
    (h : content = none ∨ ∃ b t, content = some b ∧ b.decode = .ok t ∧ t ≠ expected) :
    refusal? content path expected = some (.conflict path) := by
  rcases h with rfl | ⟨b, t, rfl, hdecode, hne⟩
  · rfl
  · simp only [refusal?, Option.map_some, hdecode, hne, if_false]

theorem refusal?_eq_undecodable {b : Bytes} {fault : DecodeFault} (h : b.decode = .error fault) :
    refusal? (some b) path expected = some (.undecodable fault) := by
  simp only [refusal?, Option.map_some, h]

theorem checkUnchanged_eq (hshort : place.IsShort) (hexpected : expected.hasSurrogate = false) :
    checkUnchanged disk place path expected =
      match refusal? (disk.file? place) path expected with
      | none => .ok ()
      | some e => .error e := by
  rw [checkUnchanged, textAt, Disk.look_of_isShort disk hshort, Entry.file?, refusal?]
  cases disk.at? place with
  | none => rfl
  | some found =>
    cases found with
    | folder => rfl
    | special => rfl
    | file b =>
      simp only [Except.mapError, bind, Except.bind, Option.map_some,
        encodeFault?_eq_none hexpected]
      cases b.decode with
      | error fault => rfl
      | ok current => by_cases h : current = expected <;> simp [h, pure, Except.pure]

/-- What becomes of a disk when a text is written to a file that was read before. -/
inductive Rewrites (disk : Disk) (place : Place) (path expected t : Text) :
    Except StoreError Unit × Disk → Prop where
  /-- the file does not hold what was read -/
  | refused {e : StoreError} (refusal : refusal? (disk.file? place) path expected = some e) :
    Rewrites disk place path expected t (.error e, disk)
  /-- the disk takes no file of the name under which the text is written first -/
  | failed {fault : DiskFault} (unchanged : refusal? (disk.file? place) path expected = none) :
    Rewrites disk place path expected t (.error (.disk fault), disk)
  | written (unchanged : refusal? (disk.file? place) path expected = none) :
    Rewrites disk place path expected t (.ok (), disk.put (.file t.bytes) place)

/-- The folders that lead to a file are there, so no step of writing it leaves a trace but the
last one. -/
theorem writeAt_of_file? {old : Bytes} (hfile : disk.file? place = some old)
    (ht : t.hasSurrogate = false) (tag : Text) :
    (∃ fault, writeAt disk tag place t = (.error (.disk fault), disk)) ∨
      writeAt disk tag place t = (.ok (), disk.put (.file t.bytes) place) := by
  have hat := Entry.file?_eq_some_iff.1 hfile
  obtain ⟨above, habove⟩ := Entry.exists_at?_dropLast hat
  rw [writeAt]
  cases hmake : disk.makeFolder place.dropLast with
  | mk fault disk' =>
    obtain rfl : disk' = disk :=
      (congrArg Prod.snd hmake).symm.trans (Disk.makeFolder_of_at? habove)
    cases fault with
    | some fault => exact .inl ⟨fault, rfl⟩
    | none =>
      simp only [putText, encodeFault?_eq_none ht, hat]
      split
      · exact .inl ⟨_, rfl⟩
      · exact .inr rfl

theorem rewrites_writeText {store : Store} (hplace : store.place path = .ok place)
    (hshort : place.IsShort) (hexpected : expected.hasSurrogate = false)
    (ht : t.hasSurrogate = false) (disk : Disk) (tag : Text) :
    Rewrites disk place path expected t (store.writeText disk tag path t (some expected)) := by
  rw [writeText, hplace]
  simp only [Option.map_some, checkUnchanged_eq hshort hexpected]
  cases hrefusal : refusal? (disk.file? place) path expected with
  | some e => exact .refused hrefusal
  | none =>
    obtain ⟨old, hfile, -⟩ := refusal?_eq_none_iff.1 hrefusal
    rcases writeAt_of_file? hfile ht tag with ⟨fault, hwrite⟩ | hwrite
    · rw [hwrite]
      exact .failed hrefusal
    · rw [hwrite]
      exact .written hrefusal

end Store

/-! ## The two steps of a batch -/

theorem eq_ok_of_mapError {ε ε' α : Type} {f : ε → ε'} {x : Except ε α} {a : α}
    (h : x.mapError f = .ok a) : x = .ok a := by
  cases x with
  | error e => cases h
  | ok b => exact congrArg Except.ok (Except.ok.inj h)

theorem hasSurrogate_of_applyDrafts {bounds : Bounds} {source : Text} {drafts : List EditDraft}
    {outcome : DraftOutcome} (h : applyDrafts bounds source drafts = .ok outcome) :
    outcome.source.hasSurrogate = false := by
  obtain ⟨fields, -, h⟩ := Markup.exists_of_bind_eq_ok h
  dsimp only at h
  split at h
  · cases h
  · obtain ⟨edited, hedited, houtcome⟩ := Markup.exists_of_bind_eq_ok (eq_ok_of_mapError h)
    rw [← Except.ok.inj houtcome]
    exact hasSurrogate_of_decode (applyTo_eq_ok hedited).1

namespace Store

theorem exists_of_readText {store : Store} {disk : Disk} {path t : Text}
    (h : store.readText disk path = .ok (some t)) :
    ∃ place b, store.place path = .ok place ∧ place.IsShort ∧ disk.file? place = some b ∧
      b.decode = .ok t := by
  obtain ⟨place, hplace, h⟩ := Markup.exists_of_bind_eq_ok h
  obtain ⟨found, hfound, h⟩ := Markup.exists_of_bind_eq_ok h
  split at h
  · next b =>
    obtain ⟨hshort, hat⟩ := Disk.isShort_of_look (eq_ok_of_mapError hfound)
    split at h
    · next current hdecode =>
      cases h
      exact ⟨place, b, hplace, hshort, Entry.file?_eq_some_iff.2 hat, hdecode⟩
    · cases h
  · cases h

end Store

/-- What a batch that was worked out knows: where its page is, what the page held when it was
read, and what becomes of it. -/
structure PreparedEdits.Found (p : PreparedEdits) (disk : Disk) (place : Place)
    (drafts : List EditDraft) : Prop where
  place_eq : p.site.store.place p.storePath = .ok place
  short : place.IsShort
  read : ∃ b, disk.file? place = some b ∧ b.decode = .ok p.source
  outcome_eq : applyDrafts p.site.bounds p.source drafts = .ok p.outcome

namespace Site

variable {site : Site} {disk : Disk} {name : Option Text} {isDryRun : Bool}
  {batch : Except BatchError (List EditDraft)} {p : PreparedEdits}

theorem readPage_eq_ok {page : PagePath} {source : Text}
    (h : site.readPage disk page = .ok source) :
    ∃ path, site.storePath page = .ok path ∧
      site.store.readText disk path = .ok (some source) := by
  obtain ⟨path, hpath, h⟩ := Markup.exists_of_bind_eq_ok h
  obtain ⟨found, hfound, h⟩ := Markup.exists_of_bind_eq_ok h
  cases found with
  | none => cases h
  | some t =>
    cases h
    exact ⟨path, hpath, eq_ok_of_mapError hfound⟩

theorem exists_of_prepare (h : site.prepare disk name batch isDryRun = .ok p) :
    p.site = site ∧ p.isDryRun = isDryRun ∧ pagePath name = .ok p.page ∧
      site.storePath p.page = .ok p.storePath ∧
      ∃ place drafts, batch = .ok drafts ∧ p.Found disk place drafts := by
  obtain ⟨page, hpage, h⟩ := Markup.exists_of_bind_eq_ok h
  split at h
  · cases h
  · obtain ⟨path, hpath, h⟩ := Markup.exists_of_bind_eq_ok h
    obtain ⟨source, hsource, h⟩ := Markup.exists_of_bind_eq_ok h
    obtain ⟨drafts, hdrafts, h⟩ := Markup.exists_of_bind_eq_ok h
    obtain ⟨outcome, houtcome, h⟩ := Markup.exists_of_bind_eq_ok h
    cases h
    obtain ⟨path', hpath', hread⟩ := readPage_eq_ok hsource
    obtain rfl := Except.ok.inj (hpath.symm.trans hpath')
    obtain ⟨place, b, hplace, hshort, hfile, hdecode⟩ := Store.exists_of_readText hread
    exact ⟨rfl, rfl, hpage, hpath, place, drafts, eq_ok_of_mapError hdrafts, hplace, hshort,
      ⟨b, hfile, hdecode⟩, eq_ok_of_mapError houtcome⟩

/-- What is worked out does not depend on whether the batch is only tried. -/
theorem prepare_eq_map (site : Site) (disk : Disk) (name : Option Text)
    (batch : Except BatchError (List EditDraft)) (isDryRun : Bool) :
    site.prepare disk name batch isDryRun =
      (site.prepare disk name batch false).map fun p => { p with isDryRun := isDryRun } := by
  unfold prepare
  cases pagePath name with
  | error e => rfl
  | ok page =>
    simp only [bind, Except.bind]
    split
    · rfl
    · cases site.storePath page with
      | error e => rfl
      | ok path =>
        cases site.readPage disk page with
        | error e => rfl
        | ok source =>
          cases batch.mapError SiteError.batch with
          | error e => rfl
          | ok drafts =>
            dsimp only
            cases (applyDrafts site.bounds source drafts).mapError (SiteError.draft page.path) <;>
              rfl

end Site

/-- What becomes of a disk when a batch that was worked out is written to its page. -/
inductive PreparedEdits.Commits (p : PreparedEdits) (disk : Disk) (place : Place) :
    Except SiteError Log.AuditRecord × Disk → Prop where
  /-- the batch was only tried, or none of its edits was carried out -/
  | kept (idle : p.writes = false) : Commits p disk place (.ok p.record, disk)
  | refused {e : StoreError} (writes : p.writes = true)
    (refusal : Store.refusal? (disk.file? place) p.storePath p.source = some e) :
    Commits p disk place (.error (.store e), disk)
  | failed {fault : DiskFault} (writes : p.writes = true)
    (unchanged : Store.refusal? (disk.file? place) p.storePath p.source = none) :
    Commits p disk place (.error (.store (.disk fault)), disk)
  | written (writes : p.writes = true)
    (unchanged : Store.refusal? (disk.file? place) p.storePath p.source = none) :
    Commits p disk place (.ok p.record, disk.put (.file p.outcome.source.bytes) place)

/-- Whatever happened to the disk since the page was read. -/
theorem PreparedEdits.Found.commits {p : PreparedEdits} {before : Disk} {place : Place}
    {drafts : List EditDraft} (found : p.Found before place drafts) (disk : Disk) (tag : Text) :
    p.Commits disk place (p.commit disk tag) := by
  rw [commit]
  split
  · next hwrites =>
    obtain ⟨b, -, hdecode⟩ := found.read
    have hrewrites := Store.rewrites_writeText found.place_eq found.short
      (hasSurrogate_of_decode hdecode) (hasSurrogate_of_applyDrafts found.outcome_eq) disk tag
    generalize p.site.store.writeText disk tag p.storePath p.outcome.source (some p.source) =
      result at hrewrites
    cases hrewrites with
    | refused refusal => exact .refused hwrites refusal
    | failed unchanged => exact .failed hwrites unchanged
    | written unchanged => exact .written hwrites unchanged
  · next hwrites => exact .kept (eq_false_of_ne_true hwrites)

/-! ## All or nothing -/

/-- Carries out a batch of edits of a page that is read on one disk, and written on what has
become of that disk by then. -/
def Site.apply (site : Site) (before disk : Disk) (tag : Text) (name : Option Text)
    (batch : Except BatchError (List EditDraft)) (isDryRun : Bool) :
    Except SiteError DraftOutcome × Disk :=
  match site.prepare before name batch isDryRun with
  | .error e => (.error e, disk)
  | .ok p =>
    match p.commit disk tag with
    | (.error e, disk) => (.error e, disk)
    | (.ok _, disk) => (.ok p.outcome, disk)

/-- A disk differs from another one in what a single file holds. -/
structure Disk.Rewritten (disk disk' : Disk) (place : Place) (t : Text) : Prop where
  holds : disk'.file? place = some t.bytes
  reads : t.bytes.decode = .ok t
  others : ∀ other, other ≠ place → disk'.file? other = disk.file? other

/-- A text names the page of a site at a place. -/
def Site.HasPage (site : Site) (name : Option Text) (place : Place) : Prop :=
  ∃ page path, Site.pagePath name = .ok page ∧ site.storePath page = .ok path ∧
    site.store.place path = .ok place

theorem Site.HasPage.unique {site : Site} {name : Option Text} {place other : Place}
    (h : site.HasPage name place) (h' : site.HasPage name other) : other = place := by
  obtain ⟨page, path, hpage, hpath, hplace⟩ := h
  obtain ⟨page', path', hpage', hpath', hplace'⟩ := h'
  obtain rfl := Except.ok.inj (hpage.symm.trans hpage')
  obtain rfl := Except.ok.inj (hpath.symm.trans hpath')
  exact Except.ok.inj (hplace'.symm.trans hplace)

/-- A batch that was worked out was read at the place of its page. -/
theorem Site.HasPage.exists_found {site : Site} {disk : Disk} {name : Option Text} {place : Place}
    {batch : Except BatchError (List EditDraft)} {isDryRun : Bool} {p : PreparedEdits}
    (hasPage : site.HasPage name place) (h : site.prepare disk name batch isDryRun = .ok p) :
    p.site = site ∧ p.isDryRun = isDryRun ∧
      ∃ drafts, batch = .ok drafts ∧ p.Found disk place drafts := by
  obtain ⟨hsite, hdry, hpage, hpath, other, drafts, hbatch, found⟩ := exists_of_prepare h
  have hother : site.HasPage name other :=
    ⟨p.page, p.storePath, hpage, hpath, hsite ▸ found.place_eq⟩
  rw [hasPage.unique hother] at found
  exact ⟨hsite, hdry, drafts, hbatch, found⟩

theorem Disk.rewritten_put {disk : Disk} {place : Place} {old : Bytes} {t : Text}
    (hfile : disk.file? place = some old) (ht : t.hasSurrogate = false) :
    disk.Rewritten (disk.put (.file t.bytes) place) place t :=
  ⟨Entry.file?_eq_some_iff.2 (Entry.at?_put (Entry.file?_eq_some_iff.1 hfile) _), decode_bytes ht,
    fun _ hne => Entry.file?_put_of_ne hfile hne _⟩

theorem PreparedEdits.writes_iff {p : PreparedEdits} :
    p.writes = true ↔ p.isDryRun = false ∧ p.outcome.applied ≠ [] := by
  rw [writes, Bool.and_eq_true, Bool.not_eq_true', Bool.not_eq_true', List.isEmpty_eq_false_iff]

namespace Site

variable {site : Site} {before disk disk' : Disk} {tag : Text} {name : Option Text}
  {batch : Except BatchError (List EditDraft)} {isDryRun : Bool}

theorem apply_error {e : SiteError}
    (h : site.apply before disk tag name batch isDryRun = (.error e, disk')) : disk' = disk := by
  unfold apply at h
  split at h
  · exact (congrArg Prod.snd h).symm
  · next p hprepare =>
    obtain ⟨-, -, -, -, place, drafts, -, found⟩ := exists_of_prepare hprepare
    have hcommits := found.commits disk tag
    generalize p.commit disk tag = result at h hcommits
    -- only a batch that was carried out changes the disk
    cases hcommits with
    | kept | written => cases congrArg Prod.fst h
    | refused | failed => exact (congrArg Prod.snd h).symm

theorem apply_ok {outcome : DraftOutcome}
    (h : site.apply before disk tag name batch isDryRun = (.ok outcome, disk')) :
    (isDryRun = true ∨ outcome.applied = [] → disk' = disk) ∧
      (isDryRun = false ∧ outcome.applied ≠ [] →
        ∃ place, site.HasPage name place ∧ disk.Rewritten disk' place outcome.source) := by
  unfold apply at h
  split at h
  · cases congrArg Prod.fst h
  · next p hprepare =>
    obtain ⟨rfl, rfl, hpage, hpath, place, drafts, -, found⟩ := exists_of_prepare hprepare
    have hcommits := found.commits disk tag
    generalize p.commit disk tag = result at h hcommits
    cases hcommits with
    | refused | failed => cases congrArg Prod.fst h
    | kept idle =>
      -- nothing was to be written
      cases h
      refine ⟨fun _ => rfl, fun hwrites => ?_⟩
      rw [PreparedEdits.writes_iff.2 hwrites] at idle
      cases idle
    | written writes unchanged =>
      cases h
      obtain ⟨hdry, happlied⟩ := PreparedEdits.writes_iff.1 writes
      obtain ⟨old, hfile, -⟩ := Store.refusal?_eq_none_iff.1 unchanged
      refine ⟨fun hidle => ?_, fun _ => ⟨place, ⟨p.page, p.storePath, hpage, hpath,
        found.place_eq⟩, Disk.rewritten_put hfile (hasSurrogate_of_applyDrafts found.outcome_eq)⟩⟩
      rcases hidle with htried | hnone
      · cases htried.symm.trans hdry
      · exact absurd hnone happlied

/-- A batch that is only tried comes to what it comes to if it is carried out, unless the disk
takes no file beside the page. -/
theorem apply_true_eq (site : Site) (disk : Disk) (tag : Text) (name : Option Text)
    (batch : Except BatchError (List EditDraft)) :
    (site.apply disk disk tag name batch true).1 = (site.apply disk disk tag name batch false).1 ∨
      ∃ outcome fault, (site.apply disk disk tag name batch true).1 = .ok outcome ∧
        (site.apply disk disk tag name batch false).1 = .error (.store (.disk fault)) := by
  unfold apply
  rw [prepare_eq_map site disk name batch true]
  cases hprepare : site.prepare disk name batch false with
  | error e => exact .inl rfl
  | ok p =>
    obtain ⟨-, -, -, -, place, drafts, -, found⟩ := exists_of_prepare hprepare
    obtain ⟨b, hfile, hdecode⟩ := found.read
    have hcommits := found.commits disk tag
    simp only [Except.map]
    generalize p.commit disk tag = result at hcommits
    cases hcommits with
    | kept | written => exact .inl rfl
    | failed => exact .inr ⟨_, _, rfl, rfl⟩
    | refused writes refusal =>
      -- nobody has written the page since it was read
      rw [Store.refusal?_eq_none_iff.2 ⟨b, hfile, hdecode⟩] at refusal
      cases refusal

/-- Whatever the page, the batch and the disk are, a batch either leaves the disk as it is, or it
was carried out, and then the page holds what came out of it and every other file is as it was.
Trying a batch gives what carrying it out gives. -/
theorem apply_all_or_nothing (site : Site) (before disk : Disk) (tag : Text) (name : Option Text)
    (batch : Except BatchError (List EditDraft)) (isDryRun : Bool) :
    (∀ e disk', site.apply before disk tag name batch isDryRun = (.error e, disk') →
      disk' = disk) ∧
    (∀ outcome disk', site.apply before disk tag name batch isDryRun = (.ok outcome, disk') →
      (isDryRun = true ∨ outcome.applied = [] → disk' = disk) ∧
      (isDryRun = false ∧ outcome.applied ≠ [] →
        ∃ place, site.HasPage name place ∧ disk.Rewritten disk' place outcome.source)) ∧
    ((site.apply disk disk tag name batch true).1 = (site.apply disk disk tag name batch false).1 ∨
      ∃ outcome fault, (site.apply disk disk tag name batch true).1 = .ok outcome ∧
        (site.apply disk disk tag name batch false).1 = .error (.store (.disk fault))) :=
  ⟨fun _ _ h => apply_error h, fun _ _ h => apply_ok h, apply_true_eq site disk tag name batch⟩

/-- A page beside another one. -/
theorem apply_all_or_nothing_of_paragraph : ∃ (site : Site) (disk disk' : Disk)
    (outcome : DraftOutcome) (place : Place),
    disk = .folder [(text "a.astro", .file (text "<p>x</p>").bytes),
      (text "b.astro", .file (text "<p>x</p>").bytes)] ∧
    site.apply disk disk (text "1") (some (text "a.astro"))
      (.ok [.ofEdit ⟨text "text:3", text "x", text "y"⟩]) false = (.ok outcome, disk') ∧
    outcome.source = text "<p>y</p>" ∧ disk.Rewritten disk' place outcome.source := by
  let site : Site :=
    ⟨⟨[]⟩, some (text "."), some (text "/admin"), ⟨.whole 2000, .whole 200, rfl, rfl⟩⟩
  let disk : Disk := .folder [(text "a.astro", .file (text "<p>x</p>").bytes),
    (text "b.astro", .file (text "<p>x</p>").bytes)]
  let batch : List EditDraft := [.ofEdit ⟨text "text:3", text "x", text "y"⟩]
  have hrun : (site.apply disk disk (text "1") (some (text "a.astro")) (.ok batch)
      false).1.toOption.map (fun o => (o.source, o.applied)) =
      some (text "<p>y</p>", [text "text:3"]) := by
    decide +kernel
  have hall := apply_all_or_nothing site disk disk (text "1") (some (text "a.astro")) (.ok batch)
    false
  cases happly : site.apply disk disk (text "1") (some (text "a.astro")) (.ok batch) false with
  | mk result disk' =>
    rw [happly] at hrun
    obtain ⟨outcome, houtcome, hfound⟩ := Option.map_eq_some_iff.1 hrun
    obtain rfl := Markup.eq_ok_of_toOption houtcome
    obtain ⟨hsource, happlied⟩ := Prod.mk.inj hfound
    obtain ⟨place, -, hrewritten⟩ := (hall.2.1 outcome disk' happly).2
      ⟨rfl, happlied ▸ List.cons_ne_nil _ _⟩
    exact ⟨site, disk, disk', outcome, place, rfl, happly, hsource, hrewritten⟩

end Site

end VisibleText
