import VisibleText.Proofs.AttributeSearch

/-!
# Fields in their own places

A field should start where the bytes of its site do. For text this is so by how text is found;
for the value of an attribute and for an empty element the place is searched for anew, by a search
that knows less than the reader of the page.

The field of an attribute starts where the value was read just if the attribute is in sight
(`attribute_start_iff`), and the field of an empty element starts where its opening tag was left
just if the opening tag is steady up to its end (`empty_start_iff`). What a tag is made of may
keep its attributes out of sight, and a value without quotes may be unsteady; then the field
starts elsewhere (`not_forall_attribute_start`, `not_forall_empty_start`).
-/

set_option autoImplicit false

namespace VisibleText.Field

open VisibleText.Document (QuotedAttribute partsPosition quotedAttributesAt tagAt)
open VisibleText.Markup (OpenTag TagPart)

/-! ## Sites and their fields -/

section Single

variable {g : Ground} {s : Site} {f : Field}

theorem Site.start?_eq_some (h : s.field? g = some f) : s.start? g = some f.range.start := by
  obtain ⟨start, hstart, rfl⟩ := Site.field?_eq_some h
  rw [Site.fieldAt_range]
  exact hstart

/-- The field of a site has the length of the site. -/
theorem Site.length_eq (h : s.field? g = some f) : f.range.length = s.ownRange.length := by
  obtain ⟨start, -, rfl⟩ := Site.field?_eq_some h
  rw [Site.fieldAt_range, Site.ownRange_length]

theorem Site.exists_quoted (h : s.field? g = some f) (hkind : f.kind = .attribute) :
    ∃ group opening position q, s = .quoted group opening position q := by
  obtain ⟨start, -, rfl⟩ := Site.field?_eq_some h
  cases s with
  | text | empty => cases hkind
  | quoted group opening position q => exact ⟨group, opening, position, q, rfl⟩

/-- A value that may be edited holds more than blanks. -/
theorem value_ne_of_isEditable {t : Document.Tag} {a : Document.Attribute}
    (h : isEditable t a = true) : a.value ≠ [] := by
  intro hnil
  simp only [isEditable, Bool.and_eq_true, decide_eq_true_eq, leastAttributeLength] at h
  have htrim := h.2
  rw [hnil] at htrim
  cases htrim

/-- Only empty elements have empty fields: text is not empty, and neither is a value that may be
edited. -/
theorem Site.exists_empty {page : Text} (hs : s.StandsIn page) (h : s.field? g = some f)
    (hlength : f.range.length = 0) : ∃ group opening position, s = .empty group opening position := by
  rw [Site.length_eq h] at hlength
  cases s with
  | text label value group position =>
    have hwidth := Text.width_pos hs.1
    rw [Site.ownRange] at hlength
    simp only at hlength
    omega
  | quoted group opening position q =>
    have hne : q.value ≠ [] := value_ne_of_isEditable hs.2.2
    have hwidth := Text.width_pos hne
    rw [Site.ownRange] at hlength
    simp only at hlength
    omega
  | empty group opening position => exact ⟨group, opening, position, rfl⟩

end Single

/-! ## Attributes -/

section Steady

variable {page : Text} {window : Int} {opening : OpenTag} {position : Nat} {q : QuotedAttribute}

theorem isSteady_assignment (hq : q.Proper) :
    Text.IsSteady (q.name ++ q.blankBefore ++ .char '=' :: q.blankAfter) := by
  have hname : q.name.IsSteady := Text.isSteady_of_all hq.name (by decide)
  have hequals : Text.IsSteady [.char '='] := rfl
  have hafter := hequals.append (Markup.isSteady_blanks hq.blankAfter)
  exact (hname.append (Markup.isSteady_blanks hq.blankBefore)).append hafter

/-- A steady tag is searched up to the value of every attribute, and further. -/
theorem width_lt_length_openTag {lead rest before : Text} (hsteady : lead.IsSteady)
    (hpage : page = before ++ (lead ++ rest)) (rest_ne : rest ≠ [])
    (hwindow : lead.width < window.toNat) :
    lead.width < (page.bytes.openTag window before.width).length := by
  have hrest := Text.width_pos rest_ne
  have hdrop : page.bytes.drop before.width = lead.bytes ++ rest.bytes := by
    rw [hpage, Text.drop_bytes_append, Text.bytes_append]
  unfold Bytes.openTag
  split
  · next stop hstop =>
    obtain ⟨seen, behind, hseen, -, rfl, hrun⟩ := Bytes.openTagEnd?_eq_some_iff.1 hstop
    have hlength : (page.bytes.slice ⟨before.width, before.width + (seen.length + 1) -
        before.width⟩).length = seen.length + 1 := by
      simp only [Nat.add_sub_cancel_left, Bytes.slice, hseen, List.length_take,
        List.length_append, List.length_cons]
      omega
    rw [hlength]
    by_contra hshort
    -- the scan would have ended within the steady part
    have hbytes : lead.bytes ++ rest.bytes = seen ++ 0x3E :: behind := by rw [← hdrop, hseen]
    have hprefix : seen ++ [0x3E] <+: lead.bytes := by
      refine List.prefix_of_prefix_length_le ?_ ⟨rest.bytes, hbytes⟩ ?_
      · exact ⟨behind, by simp⟩
      · rw [List.length_append, List.length_singleton, Text.length_bytes]
        omega
    obtain ⟨more, hmore⟩ := hprefix
    have hlead := Text.run_bytes_of_isSteady hsteady
    rw [← hmore, List.append_assoc, List.singleton_append, TagScan.run_end hrun] at hlead
    cases hlead
  · simp only [Bytes.slice, hdrop, List.length_take, List.length_append, Text.length_bytes]
    omega

/-- What stands in a tag before the opening quote of an attribute is steady if all parts of the
tag are. -/
theorem exists_steady_before_value (hopens : OpensAt page opening position)
    (hq : q ∈ quotedAttributesAt (partsPosition position opening) opening.parts)
    (hsteady : ∀ part ∈ opening.parts, part.IsSteady) :
    ∃ before lead rest : Text, page = before ++ (lead ++ rest) ∧ rest ≠ [] ∧
      before.width = position ∧ lead.IsSteady ∧ q.valueStart = position + (lead.width + 1) := by
  obtain ⟨hproper, before, after, rfl, rfl⟩ := hopens
  obtain ⟨earlier, later, hparts, hposition⟩ := Document.exists_of_mem_quotedAttributesAt hq
  have hassignment := isSteady_assignment
    (QuotedAttribute.proper_of_part (hproper.parts q.part (by simp [hparts])))
  have hbracket : Text.IsSteady [.char '<'] := rfl
  have hname : opening.name.IsSteady := Text.isSteady_of_all hproper.name (by decide)
  have hearlier : Text.IsSteady (Markup.partsSource earlier) :=
    Text.isSteady_flatMap fun part' hpart' =>
      part'.isSteady_source (hproper.parts part' (by simp [hparts, hpart']))
        (hsteady part' (by simp [hparts, hpart']))
  refine ⟨before, _, q.quote.mark :: (q.value ++ [q.quote.mark] ++ Markup.partsSource later ++
    opening.ending ++ after), ?_, List.cons_ne_nil _ _, rfl,
    ((hbracket.append hname).append hearlier).append hassignment, ?_⟩
  · rw [OpenTag.source, hparts, Markup.partsSource, List.flatMap_append, List.flatMap_cons,
      q.source_part]
    simp [QuotedAttribute.source, QuotedAttribute.head, Markup.partsSource]
  · have hbracket_width : (CodePoint.char '<').width = 1 := rfl
    rw [QuotedAttribute.valueStart, hposition, partsPosition, q.width_head]
    simp only [Text.width_append, Text.width_cons, Text.width_nil, hbracket_width]
    omega

/-- A steady tag is searched up to the value of each of its attributes that starts within the
window. -/
theorem valueStart_le_of_isSteady (hopens : OpensAt page opening position)
    (hq : q ∈ quotedAttributesAt (partsPosition position opening) opening.parts)
    (hsteady : ∀ part ∈ opening.parts, part.IsSteady)
    (hwindow : q.valueStart ≤ position + window.toNat) :
    q.valueStart ≤ position + (page.bytes.openTag window position).length := by
  obtain ⟨before, lead, rest, hpage, rest_ne, rfl, hlead, hvalue⟩ :=
    exists_steady_before_value hopens hq hsteady
  have hlt : lead.width < window.toNat := by omega
  have key := width_lt_length_openTag hlead hpage rest_ne hlt
  omega

end Steady

/-- The fields of a page are those of its sites, and the field of an attribute starts where its
value was read, behind the opening quote, just if the attribute is in sight. The search sees as
far as the window if all parts of the tag are steady. -/
theorem attribute_start_iff (window : Int) {source : Text} {d : Document}
    (hsource : source.hasSurrogate = false) (hparse : Document.parse source = .ok d) :
    ofPage window source =
        .ok ((sitesOf source).filterMap (Site.field? ⟨source.bytes, window⟩)) ∧
      ∀ s ∈ sitesOf source, ∀ f, s.field? ⟨source.bytes, window⟩ = some f →
        f.kind = .attribute →
          ∃ group opening position q, s = .quoted group opening position q ∧
            q.StandsIn source ∧
            (f.range.start = q.valueStart ↔ InSight ⟨source.bytes, window⟩ position q) ∧
            ((∀ part ∈ opening.parts, part.IsSteady) →
              q.valueStart ≤ position + window.toNat →
                q.valueStart ≤ position + (source.bytes.openTag window position).length) := by
  refine ⟨ofPage_eq_sites window hsource hparse, fun s hs f hf hkind => ?_⟩
  have hstands := standsIn_of_mem_sitesOf hs
  obtain ⟨group, opening, position, q, rfl⟩ := Site.exists_quoted hf hkind
  obtain ⟨hopens, hq, heditable⟩ := hstands
  obtain ⟨hq_stands, hposition⟩ := hopens.attribute_standsIn hq
  obtain ⟨name_ne, hname⟩ := isNameByte_of_isEditable heditable
  exact ⟨group, opening, position, q, rfl, hq_stands,
    start_eq_valueStart_iff name_ne hname hq_stands hposition (Site.start?_eq_some hf),
    valueStart_le_of_isSteady hopens hq⟩

/-- An attribute behind another one that reads like it in its value. -/
theorem attribute_start_iff_of_image : ∃ (source : Text) (fields : List Field),
    source = text "<img title=\"see alt='ab'\" alt=\"ab\">" ∧
      ofPage 2000 source = .ok fields ∧ fields.map (fun f => f.range.start) = [12, 31] ∧
      ∀ s ∈ sitesOf source, ∀ f, s.field? ⟨source.bytes, 2000⟩ = some f →
        f.kind = .attribute →
          ∃ group opening position q, s = .quoted group opening position q ∧
            q.StandsIn source ∧
            (f.range.start = q.valueStart ↔ InSight ⟨source.bytes, 2000⟩ position q) ∧
            ((∀ part ∈ opening.parts, part.IsSteady) → q.valueStart ≤ position + 2000 →
              q.valueStart ≤ position + (source.bytes.openTag 2000 position).length) := by
  have hrun : ((ofPage 2000 (text "<img title=\"see alt='ab'\" alt=\"ab\">")).map
      fun fields => fields.map fun f => f.range.start).toOption = some [12, 31] := by
    decide +kernel
  obtain ⟨fields, hfields, hstarts⟩ := Markup.exists_of_map_eq_ok (Markup.eq_ok_of_toOption hrun)
  obtain ⟨d, hparse, hsource, -⟩ := ofPage_eq_ok hfields
  exact ⟨_, fields, rfl, hfields, hstarts, (attribute_start_iff 2000 hsource hparse).2⟩

/-- The field of an attribute need not start where its value was read: without a blank before
the attribute, the search takes what reads like it in the value of another one. -/
theorem not_forall_attribute_start : ¬ ∀ (window : Int) (source : Text) (s : Site) (f : Field),
    source.hasSurrogate = false → s ∈ sitesOf source →
      s.field? ⟨source.bytes, window⟩ = some f → f.kind = .attribute →
        f.range.start = s.ownRange.start := by
  intro hall
  have hsites : ((sitesOf (text "<img title=\"see alt='ab'\"alt=\"ab\">")).map fun s =>
      (s.ownRange.start, (s.field?
        ⟨(text "<img title=\"see alt='ab'\"alt=\"ab\">").bytes, 2000⟩).map fun f =>
          (f.range.start, f.kind))) =
      [(12, some (12, .attribute)), (30, some (21, .attribute))] := by
    decide +kernel
  have hsite : (30, some (21, FieldKind.attribute)) ∈
      [(12, some (12, .attribute)), (30, some (21, .attribute))] := .tail _ (.head _)
  obtain ⟨s, hs, heq⟩ := List.mem_map.1 (hsites ▸ hsite)
  obtain ⟨hown, hfield⟩ := Prod.mk.inj heq
  obtain ⟨f, hf, hfound⟩ := Option.map_eq_some_iff.1 hfield
  obtain ⟨hstart, hkind⟩ := Prod.mk.inj hfound
  have key := hall 2000 _ s f (by decide) hs hf hkind
  rw [hstart, hown] at key
  exact absurd key (by decide)

/-! ## Empty elements -/

/-- The fields of a page are those of its sites, and an empty field starts where the opening tag
of its element was left just if the tag is steady up to there; it is if its values without quotes
and its code are. -/
theorem empty_start_iff (window : Int) {source : Text} {d : Document}
    (hsource : source.hasSurrogate = false) (hparse : Document.parse source = .ok d) :
    ofPage window source =
        .ok ((sitesOf source).filterMap (Site.field? ⟨source.bytes, window⟩)) ∧
      ∀ s ∈ sitesOf source, ∀ f, s.field? ⟨source.bytes, window⟩ = some f →
        f.range.length = 0 →
          ∃ group opening position, s = .empty group opening position ∧
            OpensAt source opening position ∧
            (f.range.start = position + opening.source.width ↔ opening.unended.IsSteady) ∧
            ((∀ part ∈ opening.parts, part.IsSteady) → opening.unended.IsSteady) := by
  refine ⟨ofPage_eq_sites window hsource hparse, fun s hs f hf hlength => ?_⟩
  have hstands := standsIn_of_mem_sitesOf hs
  obtain ⟨group, opening, position, rfl⟩ := Site.exists_empty hstands hf hlength
  obtain ⟨hopens, hopen⟩ := hstands
  refine ⟨group, opening, position, rfl, hopens, ?_, OpenTag.unended_isSteady hopens.1⟩
  obtain ⟨-, before, after, hpage, rfl⟩ := hopens
  exact stop_eq_iff_isSteady hpage hopen (Site.start?_eq_some hf)

/-- Empty elements behind an attribute and behind a value with a bracket between quotes. -/
theorem empty_start_iff_of_headings : ∃ (source : Text) (fields : List Field),
    source = text "<h1 id=a></h1><p class='a>b'></p>" ∧
      ofPage 2000 source = .ok fields ∧ fields.map Field.range = [⟨9, 0⟩, ⟨29, 0⟩] ∧
      ∀ s ∈ sitesOf source, ∀ f, s.field? ⟨source.bytes, 2000⟩ = some f →
        f.range.length = 0 →
          ∃ group opening position, s = .empty group opening position ∧
            OpensAt source opening position ∧
            (f.range.start = position + opening.source.width ↔ opening.unended.IsSteady) ∧
            ((∀ part ∈ opening.parts, part.IsSteady) → opening.unended.IsSteady) := by
  have hrun : ((ofPage 2000 (text "<h1 id=a></h1><p class='a>b'></p>")).map
      fun fields => fields.map Field.range).toOption = some [⟨9, 0⟩, ⟨29, 0⟩] := by
    decide +kernel
  obtain ⟨fields, hfields, hranges⟩ := Markup.exists_of_map_eq_ok (Markup.eq_ok_of_toOption hrun)
  obtain ⟨d, hparse, hsource, -⟩ := ofPage_eq_ok hfields
  exact ⟨_, fields, rfl, hfields, hranges, (empty_start_iff 2000 hsource hparse).2⟩

/-- An empty field need not start where the opening tag was left: a bracket between backticks
ends the tag for the scan. -/
theorem not_forall_empty_start : ¬ ∀ (window : Int) (source : Text) (s : Site) (f : Field),
    source.hasSurrogate = false → s ∈ sitesOf source →
      s.field? ⟨source.bytes, window⟩ = some f → f.range.length = 0 →
        f.range.start = s.ownRange.start := by
  intro hall
  have hsites : ((sitesOf (text "<p class=`a>b`></p>")).map fun s =>
      (s.ownRange.start, (s.field? ⟨(text "<p class=`a>b`></p>").bytes, 2000⟩).map
        Field.range)) = [(15, some ⟨12, 0⟩)] := by
    decide +kernel
  obtain ⟨s, hs, heq⟩ := List.mem_map.1 (hsites ▸ List.mem_singleton.2 rfl)
  obtain ⟨hown, hfield⟩ := Prod.mk.inj heq
  obtain ⟨f, hf, hrange⟩ := Option.map_eq_some_iff.1 hfield
  have key := hall 2000 _ s f (by decide) hs hf (by rw [hrange])
  rw [hrange, hown] at key
  exact absurd key (by decide)

end VisibleText.Field
