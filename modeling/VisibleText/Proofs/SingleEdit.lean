import VisibleText.Proofs.SiteRevision
import VisibleText.Proofs.Unchanged

/-!
# A single edit of a page

An edit of a field that names the value of the field puts what it writes into the place of that
value, and leaves the rest of the page (`applyEdits_single`). Fields with one identifier start at
one place, so it does not matter which of them the edit finds. What is left is read as the document
of the page before with another value: always after an edit of an attribute, and after an edit of a
text just if it keeps the fences of the page.
-/

set_option autoImplicit false

namespace VisibleText

open VisibleText.Document (Revision)

section Batch

variable {reach : Nat} {fields : List Field}

/-- A batch of one edit that takes some text of the page and writes another one. -/
theorem applyTo_single {front old back written : Text} {e : Edit}
    (hsource : (front ++ old ++ back).hasSurrogate = false)
    (hwritten : written.hasSurrogate = false)
    (hresolve : e.resolve (front ++ old ++ back).bytes reach fields 0 =
      .ok ⟨⟨front.width, old.width⟩, written.bytes, e, 0⟩) :
    applyTo (front ++ old ++ back).bytes reach fields [e] =
      .ok ⟨front ++ written ++ back, [e.id], []⟩ := by
  have hsplice : (front ++ old ++ back).bytes.splice ⟨front.width, old.width⟩ written.bytes =
      (front ++ written ++ back).bytes := by
    have htake := Text.take_bytes_append front (old ++ back)
    have hdrop := Text.drop_bytes_append (front ++ old) back
    rw [← List.append_assoc] at htake
    rw [Text.width_append] at hdrop
    simp only [Bytes.splice, ByteRange.stop, htake, hdrop]
    rw [Text.bytes_append, Text.bytes_append]
  have hclean : (front ++ written ++ back).hasSurrogate = false := by
    simp only [Text.hasSurrogate, List.any_append, Bool.or_eq_false_iff] at hsource hwritten ⊢
    exact ⟨⟨hsource.1.1, hwritten⟩, hsource.2⟩
  -- nothing can overlap, so the one splice is carried out
  have hall : resolveAll (front ++ old ++ back).bytes reach fields [e] =
      [(e, .ok ⟨⟨front.width, old.width⟩, written.bytes, e, 0⟩)] := by
    simp only [resolveAll, List.zipIdx_cons, List.zipIdx_nil, List.map_cons, List.map_nil,
      hresolve]
  rw [applyTo, hall]
  simp only [resolved, unresolved, fromTheEnd, List.filterMap_cons, List.filterMap_nil,
    List.mergeSort_singleton, keepApart, Option.any_none, Bool.false_eq_true, if_false, spliceAll,
    List.foldl_cons, List.foldl_nil, hsplice, decode_bytes hclean, List.map_cons, List.map_nil,
    List.append_nil]

end Batch

namespace Field

/-- Fields with one identifier start at one place and are of one kind. -/
theorem eq_of_id_eq {g : Ground} {s s' : Site} {f f' : Field} (hf : s.field? g = some f)
    (hf' : s'.field? g = some f') (hid : f'.id = f.id) :
    f'.range.start = f.range.start ∧ f'.kind = f.kind := by
  obtain ⟨m, -, rfl⟩ := Site.field?_eq_some hf
  obtain ⟨n, -, rfl⟩ := Site.field?_eq_some hf'
  refine ⟨by rw [Site.fieldAt_range, Site.fieldAt_range, start_eq_of_id_eq hid], ?_⟩
  cases s with
  | text | empty =>
    cases s' with
    | text | empty => rfl
    | quoted => exact absurd hid.symm textId_ne_attributeId
  | quoted =>
    cases s' with
    | text | empty => exact absurd hid textId_ne_attributeId
    | quoted => rfl

end Field

/-- An edit that names the value of a field puts what it writes there into the place of the
value. -/
theorem applyEdits_single (reach : Reach) {source : Text} {d : Document} {s : Field.Site}
    {f : Field} (hsource : source.hasSurrogate = false) (hparse : Document.parse source = .ok d)
    (hs : s ∈ Field.sitesOf source) (hf : s.field? ⟨source.bytes, reach.openTag⟩ = some f)
    (value_ne : f.value ≠ []) {value : Text} (hvalue : value.hasSurrogate = false)
    {front back : Text} (hsplit : source = front ++ f.value ++ back)
    (hfront : front.width = f.range.start) :
    applyEdits reach source [⟨f.id, f.value, value⟩] =
      .ok ⟨front ++ (Edit.written source.bytes f ⟨f.id, f.value, value⟩) ++ back, [f.id], []⟩ := by
  have hfields := Field.ofPage_eq_sites reach.openTag hsource hparse
  have hmem : f ∈ (Field.sitesOf source).filterMap
      (Field.Site.field? ⟨source.bytes, reach.openTag⟩) := List.mem_filterMap.2 ⟨s, hs, hf⟩
  have hholds := (Field.standsIn_of_ofPage hfields f hmem).toHolds
  rw [applyEdits, hfields]
  generalize hfound : (Field.sitesOf source).filterMap
    (Field.Site.field? ⟨source.bytes, reach.openTag⟩) = fields at hmem
  -- the first field with the identifier of this one
  obtain ⟨f', hfind⟩ : ∃ f', fields.find? (fun g => g.id = f.id) = some f' :=
    Option.isSome_iff_exists.1 (List.find?_isSome.2 ⟨f, hmem, by simp⟩)
  have hid : f'.id = f.id := by simpa using List.find?_some hfind
  obtain ⟨s', -, hf'⟩ := List.mem_filterMap.1 (hfound ▸ List.mem_of_find?_eq_some hfind)
  obtain ⟨hstart, hkind⟩ := Field.eq_of_id_eq hf hf' hid
  have hwritten : Edit.written source.bytes f' ⟨f.id, f.value, value⟩ =
      Edit.written source.bytes f ⟨f.id, f.value, value⟩ := by
    rw [Edit.written, Edit.written, hkind, hstart]
  have hinsertion : Edit.isInsertion ⟨f.id, f.value, value⟩ = false := by
    simpa [Edit.isInsertion] using value_ne
  have hresolve : Edit.resolve source.bytes reach.search fields 0 ⟨f.id, f.value, value⟩ =
      .ok ⟨⟨front.width, f.value.width⟩,
        (Edit.written source.bytes f ⟨f.id, f.value, value⟩).bytes, ⟨f.id, f.value, value⟩, 0⟩ := by
    have hrange : Edit.range source.bytes reach.search f' ⟨f.id, f.value, value⟩ =
        .ok ⟨front.width, f.value.width⟩ := by
      rw [Edit.range, if_neg (by rw [hinsertion]; simp)]
      simp only [hstart, hholds.matchesAt, if_true, hfront]
    rw [Edit.resolve, hfind]
    simp only [hholds.encodable, hvalue, Bool.or_self, Bool.false_eq_true, if_false, hrange,
      Except.map, hwritten]
  have hclean := Edit.hasSurrogate_written (e := ⟨f.id, f.value, value⟩) source.bytes f hvalue
  rw [hsplit] at hsource hresolve hclean ⊢
  exact applyTo_single hsource hclean hresolve

/-! ## Editing an attribute

An edit of an attribute cannot break out of the quotes of the attribute, whatever it writes: the
page that it leaves is read as the document of the page before, with another value for this
attribute and everything behind the value moved (`parse_of_attribute_edit`). What was the quote in
the new value is its entity then.
-/

/-- Where a code point is written as something without it, it is gone. -/
theorem Text.not_mem_substitute {c : CodePoint} {written : Text} (h : c ∉ written) (t : Text) :
    c ∉ t.substitute c written := by
  intro hmem
  obtain ⟨d, -, hd⟩ := List.mem_flatMap.1 hmem
  split at hd
  · exact h hd
  · next hne => exact hne (List.mem_singleton.1 hd).symm

theorem Markup.Quote.mark_not_mem_entity (quote : Markup.Quote) : quote.mark ∉ quote.entity := by
  cases quote <;> decide

namespace Field

/-- An edit of an attribute that is found in its own place is carried out, and leaves a page that
is read as the revised document. -/
theorem parse_of_attribute_edit (reach : Reach) {source : Text} {d : Document}
    (hsource : source.hasSurrogate = false) (hparse : Document.parse source = .ok d) :
    ofPage reach.openTag source =
        .ok ((sitesOf source).filterMap (Site.field? ⟨source.bytes, reach.openTag⟩)) ∧
      ∀ s ∈ sitesOf source, ∀ f, s.field? ⟨source.bytes, reach.openTag⟩ = some f →
        f.kind = .attribute → f.range.start = s.ownRange.start →
          ∀ value : Text, value.hasSurrogate = false →
            ∃ group opening position q r source', s = .quoted group opening position q ∧
              r = .ofQuoted q (value.substitute q.quote.mark q.quote.entity) ∧
              (∃ x ∈ d.nodes, x.Bears r) ∧
              applyEdits reach source [⟨f.id, f.value, value⟩] = .ok ⟨source', [f.id], []⟩ ∧
              Document.parse source' = .ok (d.revise r) := by
  refine ⟨ofPage_eq_sites reach.openTag hsource hparse, ?_⟩
  intro s hs f hf hkind hstart value hvalue
  have hstands := standsIn_of_mem_sitesOf hs
  obtain ⟨group, opening, position, q, rfl⟩ := Site.exists_quoted hf hkind
  obtain ⟨hopens, hq, heditable⟩ := hstands
  have hq_stands := (hopens.attribute_standsIn hq).1
  have value_ne : q.value ≠ [] := value_ne_of_isEditable heditable
  have hf_value : f.value = q.value := by
    obtain ⟨start, -, rfl⟩ := Site.field?_eq_some hf
    rfl
  -- what is written holds the entity for the quote
  have hwritten : Edit.written source.bytes f ⟨f.id, f.value, value⟩ =
      value.substitute q.quote.mark q.quote.entity := by
    simp only [Edit.written, hkind, hstart, Site.ownRange]
    exact escapeQuote_eq hq_stands value
  have hrevises : Site.Revises (.ofQuoted q (value.substitute q.quote.mark q.quote.entity))
      (.quoted group opening position q) :=
    .quoted rfl (Text.not_mem_substitute q.quote.mark_not_mem_entity value)
  have hkind_ne : FieldKind.attribute ≠ .text := FieldKind.noConfusion
  obtain ⟨hbears, source', ⟨front, back, hsplit, rfl, hfront⟩, hparse'⟩ :=
    exists_parse_of_revises hparse hs hrevises (fun h => absurd h hkind_ne)
      ⟨value_ne, Nat.le_add_right _ _⟩ (fun h => absurd h hkind_ne)
  refine ⟨group, opening, position, q, _, _, rfl, rfl, hbears, ?_,
    hparse'.2 fun h => absurd h hkind_ne⟩
  rw [Nat.zero_add] at hfront
  have hsplit : source = front ++ f.value ++ back := hf_value.symm ▸ hsplit
  have happly := applyEdits_single reach hsource hparse hs hf (hf_value ▸ value_ne) hvalue hsplit
    (hfront.trans hstart.symm)
  rw [hwritten] at happly
  exact happly

/-- A new value with both quotes, a tag, a brace and a line feed between single quotes. -/
theorem parse_of_attribute_edit_of_quotes : ∃ (source value source' : Text) (d : Document)
    (s : Site) (f : Field) (r : Revision),
    source = text "<p title='ab'>x</p>" ∧ value = text "\"'><b>\x7b\n" ∧
      source' = text "<p title='\"&#39;><b>\x7b\n'>x</p>" ∧
      s ∈ sitesOf source ∧ s.field? ⟨source.bytes, 2000⟩ = some f ∧
      f.range.start = s.ownRange.start ∧ r.start = 10 ∧ (∃ x ∈ d.nodes, x.Bears r) ∧
      applyEdits .default source [⟨f.id, f.value, value⟩] = .ok ⟨source', [f.id], []⟩ ∧
      Document.parse source' = .ok (d.revise r) := by
  have hfields : (ofPage 2000 (text "<p title='ab'>x</p>")).toOption =
      some [ofAttribute 10 (text "p") (text "title") (text "ab") [],
        ofText 14 (text "p text") (text "x") []] := by
    decide +kernel
  have hsites : ((sitesOf (text "<p title='ab'>x</p>")).map fun s =>
      (s.ownRange.start, s.field? ⟨(text "<p title='ab'>x</p>").bytes, 2000⟩)) =
      [(10, some (ofAttribute 10 (text "p") (text "title") (text "ab") [])),
        (14, some (ofText 14 (text "p text") (text "x") []))] := by
    decide +kernel
  have hrun : (applyEdits .default (text "<p title='ab'>x</p>")
      [⟨text "attr:10:title", text "ab", text "\"'><b>\x7b\n"⟩]).toOption =
      some ⟨text "<p title='\"&#39;><b>\x7b\n'>x</p>", [text "attr:10:title"], []⟩ := by
    decide +kernel
  obtain ⟨d, hparse, hsource, -⟩ := ofPage_eq_ok (Markup.eq_ok_of_toOption hfields)
  obtain ⟨s, hs, heq⟩ := List.mem_map.1 (hsites ▸ List.mem_cons_self)
  obtain ⟨hown, hf⟩ := Prod.mk.inj heq
  obtain ⟨group, opening, position, q, r, source', rfl, hr, hbears, happly, hparse'⟩ :=
    (parse_of_attribute_edit .default hsource hparse).2 s hs _ hf rfl hown.symm
      (text "\"'><b>\x7b\n") (by decide)
  have heq : source' = text "<p title='\"&#39;><b>\x7b\n'>x</p>" :=
    congrArg Outcome.source (Except.ok.inj (happly.symm.trans (Markup.eq_ok_of_toOption hrun)))
  exact ⟨_, _, source', d, _, _, r, rfl, rfl, heq, hs, hf, hown.symm, hr ▸ hown, hbears, happly,
    hparse'⟩

end Field

end VisibleText

namespace VisibleText.Field

/-! ## Editing a text

A text is written into the page as it is. As long as it is plain, the page is read as the document
of the page before, with another value for this text and everything behind it moved, just if its
fences are kept (`parse_of_text_edit_iff`): at the start of a page a text can open frontmatter,
and behind frontmatter it can take the closing fence into its line.
-/

open VisibleText.Document (Revision)

/-- An edit that gives a text a plain value is carried out, and leaves a page that is read as the
revised document just if its fences are kept. The text must not stand right behind another one. -/
theorem parse_of_text_edit_iff (reach : Reach) {source : Text} {d : Document}
    (hsource : source.hasSurrogate = false) (hparse : Document.parse source = .ok d) :
    ∃ fields, ofPage reach.openTag source = .ok fields ∧
      ∀ f ∈ fields, f.kind = .text → f.value ≠ [] →
        (∀ value position, .text value position ∈ d.nodes →
          position + value.width ≠ f.range.start) →
        ∀ value : Text, value.hasSurrogate = false → value.isBlank = false →
          CodePoint.char '<' ∉ value → CodePoint.char '{' ∉ value →
            ∃ r source', r = .ofText f.range.start f.value value ∧ (∃ x ∈ d.nodes, x.Bears r) ∧
              applyEdits reach source [⟨f.id, f.value, value⟩] = .ok ⟨source', [f.id], []⟩ ∧
              (Document.parse source' = .ok (d.revise r) ↔ KeepsFences r d source') := by
  refine ⟨_, ofPage_eq_sites reach.openTag hsource hparse, ?_⟩
  intro f hf hkind value_ne hapart value hvalue hblank hbracket hbrace
  obtain ⟨s, hs, hfound⟩ := List.mem_filterMap.1 hf
  obtain ⟨label, group, rfl⟩ : ∃ label group, s = .text label f.value group f.range.start := by
    obtain ⟨start, hstart, rfl⟩ := Site.field?_eq_some hfound
    cases s with
    | text label value group position =>
      cases hstart
      exact ⟨label, group, rfl⟩
    | quoted => cases hkind
    | empty => exact absurd rfl value_ne
  have hnew : value ≠ [] := by
    rintro rfl
    cases hblank
  -- the page with the new value is the one that the revision of the site leads to
  obtain ⟨hbears, source', ⟨front, back, hsplit, rfl, hfront⟩, hiff⟩ :=
    exists_parse_of_revises (r := .ofText f.range.start f.value value) hparse hs (.text rfl)
      (fun _ => ⟨hnew, hbracket, hbrace⟩) ⟨value_ne, Nat.le_refl _⟩ (fun _ => hapart)
  refine ⟨_, _, rfl, hbears, ?_, hiff.trans ⟨fun h => h rfl, fun h _ => h⟩⟩
  rw [Nat.zero_add] at hfront
  have happly := applyEdits_single reach hsource hparse hs hfound value_ne hvalue hsplit hfront
  -- a text is written as it is
  have hwritten : Edit.written source.bytes f ⟨f.id, f.value, value⟩ = value := by
    rw [Edit.written, hkind]
  rw [hwritten] at happly
  exact happly

/-- Where a node ends, if it is a text. -/
def textStop? : Document.Node → Option Nat
  | .text value position => some (position + value.width)
  | _ => none

/-- A text behind frontmatter, of which the new value starts on a new line. -/
theorem parse_of_text_edit_behind_frontmatter : ∃ (source value source' : Text) (d : Document)
    (fields : List Field) (f : Field) (r : Revision),
    source = text "---\n---\nHi<b>x</b>" ∧ value = text "\n> \x7d\n---\n" ∧
      source' = text "---\n---\n> \x7d\n---\n<b>x</b>" ∧
      ofPage 2000 source = .ok fields ∧ f ∈ fields ∧ r = .ofText 7 f.value value ∧
      applyEdits .default source [⟨f.id, f.value, value⟩] = .ok ⟨source', [f.id], []⟩ ∧
      KeepsFences r d source' ∧ Document.parse source' = .ok (d.revise r) := by
  have hrun : (ofPage 2000 (text "---\n---\nHi<b>x</b>")).toOption =
      some [ofText 7 (text "text") (text "\nHi") [], ofText 13 (text "b text") (text "x") []] := by
    decide +kernel
  have happlied : (applyEdits .default (text "---\n---\nHi<b>x</b>")
      [⟨text "text:7", text "\nHi", text "\n> \x7d\n---\n"⟩]).toOption =
      some ⟨text "---\n---\n> \x7d\n---\n<b>x</b>", [text "text:7"], []⟩ := by
    decide +kernel
  have hfields := Markup.eq_ok_of_toOption hrun
  obtain ⟨d, hparse, hsource, -⟩ := ofPage_eq_ok hfields
  have hends : ((Document.parse (text "---\n---\nHi<b>x</b>")).map fun d =>
      d.nodes.filterMap textStop?).toOption = some [10, 14] := by
    decide +kernel
  have hapart : ∀ value position, .text value position ∈ d.nodes → position + value.width ≠ 7 := by
    intro value position hmem hend
    rw [hparse] at hends
    have hmem : 7 ∈ [10, 14] := by
      rw [← Option.some.inj hends]
      exact List.mem_filterMap.2 ⟨_, hmem, congrArg some hend⟩
    exact absurd hmem (by decide)
  obtain ⟨fields, hfields', hall⟩ := parse_of_text_edit_iff .default hsource hparse
  obtain rfl := Except.ok.inj (hfields.symm.trans hfields')
  obtain ⟨r, source', hr, -, happly, hiff⟩ := hall _ List.mem_cons_self rfl (by decide) hapart
    (text "\n> \x7d\n---\n") (by decide) (by decide) (by decide) (by decide)
  have heq : source' = text "---\n---\n> \x7d\n---\n<b>x</b>" :=
    congrArg Outcome.source (Except.ok.inj (happly.symm.trans (Markup.eq_ok_of_toOption happlied)))
  have hkeeps : KeepsFences r d source' := by
    rw [hr]
    exact ⟨fun hzero => absurd hzero (by decide), fun _ _ _ _ => rfl⟩
  exact ⟨_, _, source', d, _, _, r, rfl, rfl, heq, hfields, List.mem_cons_self, hr, happly, hkeeps,
    hiff.2 hkeeps⟩

/-- Not every text without markup can be written anywhere: at the start of a page it may be an
opening fence. -/
theorem not_forall_parse_of_text_edit : ¬ ∀ (reach : Reach) (source : Text) (d : Document)
    (fields : List Field) (f : Field) (value : Text),
    Document.parse source = .ok d → ofPage reach.openTag source = .ok fields → f ∈ fields →
      f.kind = .text → f.value ≠ [] → value.hasSurrogate = false → value.isBlank = false →
        CodePoint.char '<' ∉ value → CodePoint.char '{' ∉ value →
          ∃ source', applyEdits reach source [⟨f.id, f.value, value⟩] =
              .ok ⟨source', [f.id], []⟩ ∧
            Document.parse source' = .ok (d.revise (.ofText f.range.start f.value value)) := by
  intro hall
  have hrun : (ofPage 2000 (text "a")).toOption =
      some [ofText 0 (text "text") (text "a") []] := by
    decide +kernel
  have happlied : (applyEdits .default (text "a")
      [⟨text "text:0", text "a", text "---\n"⟩]).toOption =
      some ⟨text "---\n", [text "text:0"], []⟩ := by
    decide +kernel
  have hfails : (Document.parse (text "---\n")).toOption.isNone = true := by
    decide +kernel
  have hfields := Markup.eq_ok_of_toOption hrun
  obtain ⟨d, hparse, -, -⟩ := ofPage_eq_ok hfields
  obtain ⟨source', happly, hparse'⟩ := hall .default _ d _ _ (text "---\n") hparse hfields
    List.mem_cons_self rfl (by decide) (by decide) (by decide) (by decide) (by decide)
  have heq : source' = text "---\n" :=
    congrArg Outcome.source (Except.ok.inj (happly.symm.trans (Markup.eq_ok_of_toOption happlied)))
  rw [heq] at hparse'
  rw [hparse'] at hfails
  cases hfails

end VisibleText.Field
