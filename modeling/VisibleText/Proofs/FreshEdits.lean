import VisibleText.Proofs.Reordering

/-!
# Edits that know their fields

An edit is fresh if its old value is the value of the field that it names. What becomes of a batch
of fresh edits depends on the ranges of their fields only: all of them are applied just if the
fields start at different bytes and none overlaps another one (`fresh_edits_applied_iff`).

An identifier need not tell a field from all others of its page, and an edit is carried out for the
first field of its identifier. That field starts where the one starts that is meant, and if the one
that is meant is empty, so is the first one (`first_of_id`): an empty field starts behind the start
of its tag, so no text that was read before the tag starts there.
-/

set_option autoImplicit false

namespace VisibleText

namespace Field

open VisibleText.Document (nodesAt tagAt)
open VisibleText.Markup (OpenTag nodesSource)

/-! ## Sites in the order in which they are read -/

/-- Where a site was read: where its text starts, or its tag. -/
def Site.position : Site → Nat
  | .text _ _ _ position => position
  | .quoted _ _ position _ => position
  | .empty _ _ position => position

/-- Places that go up from one place to another one. -/
structure Ascend (low : Nat) (places : List Nat) (high : Nat) : Prop where
  pairwise : places.Pairwise (· ≤ ·)
  low_le : ∀ n ∈ places, low ≤ n
  le_high : ∀ n ∈ places, n ≤ high

namespace Ascend

variable {low middle high : Nat} {before after : List Nat}

theorem nil : Ascend low [] high := ⟨.nil, fun _ hn => (nomatch hn), fun _ hn => nomatch hn⟩

theorem of_forall_eq (hlow : low ≤ middle) (hhigh : middle ≤ high)
    (h : ∀ n ∈ before, n = middle) : Ascend low before high := by
  refine ⟨List.pairwise_of_forall_mem_list fun m hm n hn => ?_, fun n hn => ?_, fun n hn => ?_⟩
  · rw [h m hm, h n hn]
  · rw [h n hn]
    exact hlow
  · rw [h n hn]
    exact hhigh

theorem mono {low' high' : Nat} (h : Ascend low before high) (hlow : low' ≤ low)
    (hhigh : high ≤ high') : Ascend low' before high' :=
  ⟨h.pairwise, fun n hn => Nat.le_trans hlow (h.low_le n hn),
    fun n hn => Nat.le_trans (h.le_high n hn) hhigh⟩

theorem append (hbefore : Ascend low before middle) (hafter : Ascend middle after high)
    (hlow : low ≤ middle) (hhigh : middle ≤ high) : Ascend low (before ++ after) high := by
  refine ⟨List.pairwise_append.2 ⟨hbefore.pairwise, hafter.pairwise, fun m hm n hn => ?_⟩,
    fun n hn => ?_, fun n hn => ?_⟩
  · exact Nat.le_trans (hbefore.le_high m hm) (hafter.low_le n hn)
  · rcases List.mem_append.1 hn with hn | hn
    · exact hbefore.low_le n hn
    · exact Nat.le_trans hlow (hafter.low_le n hn)
  · rcases List.mem_append.1 hn with hn | hn
    · exact Nat.le_trans (hbefore.le_high n hn) hhigh
    · exact hafter.le_high n hn

end Ascend

theorem position_of_mem_textSites {p : Place} {value : Text} {position : Nat} {s : Site}
    (hs : s ∈ textSites p value position) : s.position = position := by
  unfold textSites at hs
  split at hs
  · cases hs
  · rw [List.mem_singleton.1 hs]
    rfl

theorem position_of_mem_attributeSites {inside : Place} {opening : OpenTag} {position : Nat}
    {s : Site} (hs : s ∈ attributeSites inside opening position) : s.position = position := by
  unfold attributeSites at hs
  split at hs
  · cases hs
  · obtain ⟨q, -, rfl⟩ := List.mem_map.1 hs
    rfl

/-- The sites of a tag: those of its attributes and its empty site were read with the tag, and it
has no empty site if anything stands in it. -/
theorem tag_ascend (inside : Place) (opening : OpenTag) (position : Nat)
    {children : List Markup.Node} {inner : List Site} (closing : Option Text)
    (hnone : children = [] → inner = [])
    (hinner : Ascend (position + opening.source.width) (inner.map Site.position)
      (position + opening.source.width + (nodesSource children).width)) :
    Ascend position
      ((attributeSites inside opening position ++ inner ++ emptySites inside opening position
        (nodesAt (position + opening.source.width) children)).map Site.position)
      (position + (Markup.Node.tag opening children closing).source.width) := by
  have hwidth : (Markup.Node.tag opening children closing).source.width =
      opening.source.width + (nodesSource children).width +
        (Markup.closingSource closing).width := by
    rw [Markup.Node.source, Text.width_append, Text.width_append]
  have hown : ∀ n ∈ (attributeSites inside opening position).map Site.position, n = position := by
    intro n hn
    obtain ⟨s, hs, rfl⟩ := List.mem_map.1 hn
    exact position_of_mem_attributeSites hs
  rw [hwidth, List.map_append, List.map_append]
  rcases emptySites_eq_nil_or inside opening position
    (nodesAt (position + opening.source.width) children) with hempty | ⟨hsite, hnil, -⟩
  · rw [hempty, List.map_nil, List.append_nil]
    exact (Ascend.of_forall_eq (Nat.le_refl _) (Nat.le_refl _) hown).append
      (hinner.mono (Nat.le_add_right _ _) (by omega)) (Nat.le_refl _) (Nat.le_add_right _ _)
  · rw [hsite, hnone (nodesAt_eq_nil hnil), List.map_nil, List.append_nil]
    refine Ascend.of_forall_eq (Nat.le_refl _) (Nat.le_add_right _ _) fun n hn => ?_
    rcases List.mem_append.1 hn with hn | hn
    · exact hown n hn
    · exact List.mem_singleton.1 hn

mutual

theorem sitesIn_ascend (p : Place) (counts : LandmarkCounts) (position : Nat)
    (node : Markup.Node) :
    Ascend position ((sitesIn p counts position node).1.map Site.position)
      (position + node.source.width) := by
  match node with
  | .text value =>
    refine .of_forall_eq (Nat.le_refl _) (Nat.le_add_right _ _) fun n hn => ?_
    obtain ⟨s, hs, rfl⟩ := List.mem_map.1 hn
    exact position_of_mem_textSites hs
  | .comment _ => exact .nil
  | .doctype _ => exact .nil
  | .frontmatter _ => exact .nil
  | .expression pieces =>
    -- everything in an expression is left out
    rw [sitesIn, sitesInPieces_eq_nil rfl]
    exact .nil
  | .fragment children closing =>
    have hwidth : 2 + (nodesSource children).width ≤
        (Markup.Node.fragment children closing).source.width := by
      have hopen : (CodePoint.char '<').width = 1 := rfl
      have hclose : (CodePoint.char '>').width = 1 := rfl
      rw [Markup.Node.source]
      simp only [Text.width_append, Text.width_cons, hopen, hclose]
      omega
    rw [sitesIn]
    exact (sitesAmong_ascend _ counts (position + 2) children).mono (Nat.le_add_right _ _)
      (by omega)
  | .tag opening children closing =>
    have hinner := sitesAmong_ascend
      (p.inside counts (tagAt position opening)
        (nodesAt (position + opening.source.width) children))
      (enterTag counts p.group (tagAt position opening).kind (tagAt position opening).name).2
      (position + opening.source.width) children
    rw [sitesIn]
    refine tag_ascend _ opening position closing (fun hnil => ?_) hinner
    rw [hnil]
    rfl

theorem sitesAmong_ascend (p : Place) (counts : LandmarkCounts) (position : Nat)
    (nodes : List Markup.Node) :
    Ascend position ((sitesAmong p counts position nodes).1.map Site.position)
      (position + (nodesSource nodes).width) := by
  match nodes with
  | [] => exact .nil
  | node :: nodes =>
    have hothers := sitesAmong_ascend p (sitesIn p counts position node).2
      (position + node.source.width) nodes
    rw [Nat.add_assoc] at hothers
    rw [sitesAmong, nodesSource, Text.width_append, List.map_append]
    exact (sitesIn_ascend p counts position node).append hothers (by omega) (by omega)

end

/-- The sites of a page come in the order in which they are read. -/
theorem sitesOf_ascend (page : Text) :
    (sitesOf page).Pairwise fun s t => s.position ≤ t.position := by
  unfold sitesOf
  split
  · exact List.pairwise_map.1 (sitesAmong_ascend _ [] 0 _).pairwise
  · exact .nil

/-! ## The first field of an identifier -/

section First

variable {page : Text} {window : Int} {s t : Site} {f g : Field} {fields : List Field}

theorem position_lt_of_openTagEnd? {b : Bytes} {start stop : Nat}
    (h : b.openTagEnd? window start = some stop) : start < stop := by
  obtain ⟨seen, -, -, -, rfl, -⟩ := Bytes.openTagEnd?_eq_some_iff.1 h
  omega

/-- If a field is empty, a field of its identifier that is found for an earlier site is empty. -/
theorem length_eq_zero_of_id_eq (hs : s.StandsIn page) (hle : t.position ≤ s.position)
    (hf : s.field? ⟨page.bytes, window⟩ = some f) (hg : t.field? ⟨page.bytes, window⟩ = some g)
    (hid : g.id = f.id) (hempty : f.range.length = 0) : g.range.length = 0 := by
  obtain ⟨group, opening, position, rfl⟩ := Site.exists_empty hs hf hempty
  obtain ⟨start, hstart, rfl⟩ := Site.field?_eq_some hf
  obtain ⟨start', hstart', rfl⟩ := Site.field?_eq_some hg
  obtain rfl := start_eq_of_id_eq hid
  have hlt := position_lt_of_openTagEnd? hstart
  cases t with
  | text label value group' position' =>
    -- the text was read before the tag, and the empty field starts behind its start
    cases hstart'
    exact absurd hle (Nat.not_le_of_lt hlt)
  | quoted group' opening' position' q => exact absurd hid.symm textId_ne_attributeId
  | empty group' opening' position' => rfl

/-- The first field of the identifier of a field starts where the field does, and is empty if the
field is. -/
theorem first_of_id (hfields : ofPage window page = .ok fields) (hf : f ∈ fields) :
    ∃ g, fields.find? (fun g => g.id = f.id) = some g ∧ g.range.start = f.range.start ∧
      (f.range.length = 0 → g.range.length = 0) := by
  obtain rfl := eq_sites_of_ofPage hfields
  have horder : ((sitesOf page).filterMap (Site.field? ⟨page.bytes, window⟩)).Pairwise
      fun g f => g.id = f.id → f.range.length = 0 → g.range.length = 0 := by
    refine List.pairwise_filterMap.2 ((sitesOf_ascend page).imp_of_mem ?_)
    intro t s _ hs hle g hg f hf
    exact length_eq_zero_of_id_eq (standsIn_of_mem_sitesOf hs) hle hf hg
  cases hfirst : ((sitesOf page).filterMap (Site.field? ⟨page.bytes, window⟩)).find?
      (fun g => g.id = f.id) with
  | none => exact absurd (List.find?_eq_none.1 hfirst f hf) (by simp)
  | some g =>
    have hg := List.mem_of_find?_eq_some hfirst
    have hfound := List.find?_some hfirst
    have hid : g.id = f.id := of_decide_eq_true hfound
    refine ⟨g, rfl, ?_, ?_⟩
    · obtain ⟨s, -, hs⟩ := List.mem_filterMap.1 hf
      obtain ⟨t, -, ht⟩ := List.mem_filterMap.1 hg
      obtain ⟨m, -, rfl⟩ := Site.field?_eq_some hs
      obtain ⟨n, -, rfl⟩ := Site.field?_eq_some ht
      rw [Site.fieldAt_range, Site.fieldAt_range]
      exact start_eq_of_id_eq hid
    · -- the field itself comes first, or it comes behind the first one
      obtain ⟨-, front, back, heq, hfront⟩ := List.find?_eq_some_iff_append.1 hfirst
      rw [heq] at hf horder
      rcases List.mem_append.1 hf with hf | hf
      · exact absurd (hfront f hf) (by simp)
      · rcases List.mem_cons.1 hf with rfl | hf
        · exact fun hempty => hempty
        · exact (List.pairwise_cons.1 (List.pairwise_append.1 horder).2.1).1 f hf hid

end First

/-! ## Fresh edits -/

/-- The edit that gives a field another value. -/
def changedTo (f : Field) (value : Text) : Edit := ⟨f.id, f.value, value⟩

/-- A fresh edit lands on the range of its field. -/
theorem lands_changedTo {page : Text} {window : Int} {fields : List Field} {f : Field}
    (reach : Nat) (hfields : ofPage window page = .ok fields) (hf : f ∈ fields) {value : Text}
    (hvalue : value.hasSurrogate = false) :
    (f.changedTo value).Lands page.bytes reach fields f.range := by
  have holds := (standsIn_of_ofPage hfields f hf).toHolds
  obtain ⟨g, hfirst, hstart, hempty⟩ := first_of_id hfields hf
  refine ⟨holds.encodable, hvalue, g, hfirst, ?_⟩
  have hlength := holds.length_eq
  by_cases hnil : f.value = []
  · rw [hnil, Text.width_nil] at hlength
    have hrange : f.range = ⟨g.range.start, 0⟩ := by rw [hstart, ← hlength]
    rw [hrange]
    exact .insertion hnil (hempty hlength)
  · have hrange : f.range = ⟨g.range.start, (f.changedTo value).oldValue.width⟩ := by
      rw [hstart]
      show f.range = ⟨f.range.start, f.value.width⟩
      rw [← hlength]
    have hmatches : page.bytes.matchesAt g.range.start (f.changedTo value).oldValue = true :=
      hstart ▸ holds.matchesAt
    rw [hrange]
    exact .inPlace hnil hmatches

end Field

/-! ## Batches of which every edit lands -/

/-- Two ranges overlap if each of them starts before the other one ends. So an empty range overlaps
those that it lies within, and no range overlaps one that it only touches. -/
def ByteRange.Overlaps (r s : ByteRange) : Prop := r.start < s.stop ∧ s.start < r.stop

/-- Two ranges start at different bytes and do not overlap. -/
def ByteRange.KeepApart (r s : ByteRange) : Prop := r.start ≠ s.start ∧ ¬ r.Overlaps s

theorem ByteRange.KeepApart.symm {r s : ByteRange} (h : r.KeepApart s) : s.KeepApart r :=
  ⟨Ne.symm h.1, fun hover => h.2 ⟨hover.2, hover.1⟩⟩

/-- Ranges that keep apart stand one before the other. -/
theorem Replacement.before_iff {r s : Replacement} :
    s.Before r ↔ s.range.start ≤ r.range.start ∧ r.range.KeepApart s.range := by
  have hr := r.start_le_stop
  have hs := s.start_le_stop
  simp only [Replacement.Before, ByteRange.KeepApart, ByteRange.Overlaps]
  omega

section Batch

variable {b : Bytes} {reach : Nat} {fields : List Field} {batch : List Edit}

theorem keepApart_others_eq_nil_iff {rs : List Replacement} :
    (keepApart none (fromTheEnd rs)).2 = [] ↔ rs.Pairwise fun r s => r.range.KeepApart s.range := by
  constructor
  · intro hnone
    have hperm := keepApart_perm none (fromTheEnd rs)
    rw [hnone, List.append_nil] at hperm
    have hkept := (keepApart_pairwise none (fromTheEnd rs)).imp fun h =>
      (Replacement.before_iff.1 h).2
    exact hkept.perm (hperm.trans (fromTheEnd_perm rs)) fun h => h.symm
  · intro hapart
    have hkeep := hapart.perm (fromTheEnd_perm rs).symm fun h => h.symm
    have hbefore : (fromTheEnd rs).Pairwise fun r s => s.Before r :=
      ((fromTheEnd_pairwise_start rs).and hkeep).imp Replacement.before_iff.2
    rw [keepApart_eq_self hbefore fun _ _ => rfl]

/-- If every edit of a batch lands, all of them are applied just if their ranges keep apart. -/
theorem all_applied_iff {outcome : Outcome} (h : applyTo b reach fields batch = .ok outcome)
    (hlands : unresolved (resolveAll b reach fields batch) = []) :
    (outcome.applied =
        (resolved (resolveAll b reach fields batch)).map (fun r => r.edit.id) ∧
      outcome.dropped = []) ↔
    (resolved (resolveAll b reach fields batch)).Pairwise fun r s =>
      r.range.KeepApart s.range := by
  rw [dropped_of_applyTo h, hlands, List.nil_append, List.map_eq_nil_iff, overlapping,
    keepApart_others_eq_nil_iff]
  refine and_iff_right_of_imp fun hapart => ?_
  have hothers := keepApart_others_eq_nil_iff.2 hapart
  have hperm := keepApart_perm none (fromTheEnd (resolved (resolveAll b reach fields batch)))
  rw [hothers, List.append_nil] at hperm
  rw [(applyTo_eq_ok h).2, carriedOut, List.reverse_reverse,
    mergeSort_order_eq_of_perm (hperm.trans (fromTheEnd_perm _)).symm
      (resolved_pairwise_order b reach fields batch)]

/-- What the edits of a batch come to if each of them is known to land on a range. -/
theorem map_range_resolved {changes : List (ByteRange × Edit)}
    (hlands : ∀ c ∈ changes, c.2.Lands b reach fields c.1) :
    unresolved (resolveAll b reach fields (changes.map Prod.snd)) = [] ∧
      (resolved (resolveAll b reach fields (changes.map Prod.snd))).map
        (fun r => (r.range, r.edit)) = changes := by
  have hbody : ∀ c ∈ changes, (c.2.body? b reach fields).map (fun x => (x.1, x.2.2)) =
      some c := by
    intro c hc
    obtain ⟨r, hr, hrange⟩ := (Edit.lands_iff 0).1 (hlands c hc)
    rw [Edit.body?, hr]
    exact congrArg some (Prod.ext hrange (resolve_eq_ok hr).1)
  constructor
  · rw [unresolved_eq_filterMap, List.filterMap_eq_nil_iff]
    rintro ⟨e, order⟩ hx
    obtain ⟨c, hc, rfl⟩ := List.mem_map.1 (List.fst_mem_of_mem_zipIdx hx)
    obtain ⟨r, hr, -⟩ := (Edit.lands_iff order).1 (hlands c hc)
    rw [Edit.reason?, hr]
    rfl
  · have hpairs (rs : List Replacement) : rs.map (fun r => (r.range, r.edit)) =
        (rs.map Replacement.body).map fun x => (x.1, x.2.2) := by
      rw [List.map_map]
      rfl
    rw [hpairs, map_body_resolved, List.map_filterMap, List.filterMap_map]
    exact (List.filterMap_congr hbody).trans List.filterMap_some

end Batch

/-- Fresh edits of fields of a page, each with any new value and in any order, are all applied, and
none is dropped, just if the fields start at different bytes and do not overlap. -/
theorem fresh_edits_applied_iff {reach : Reach} {source : Text} {fields : List Field}
    {changes : List (Field × Text)} {outcome : Outcome}
    (hfields : Field.ofPage reach.openTag source = .ok fields)
    (hchanges : ∀ c ∈ changes, c.1 ∈ fields ∧ c.2.hasSurrogate = false)
    (h : applyEdits reach source (changes.map fun c => c.1.changedTo c.2) = .ok outcome) :
    (outcome.applied = changes.map (fun c => c.1.id) ∧ outcome.dropped = []) ↔
      changes.Pairwise fun c d =>
        c.1.range.start ≠ d.1.range.start ∧ ¬ c.1.range.Overlaps d.1.range := by
  obtain ⟨fields', hfields', h⟩ := exists_fields_of_applyEdits h
  obtain rfl := Except.ok.inj (hfields.symm.trans hfields')
  have hbatch : (changes.map fun c => c.1.changedTo c.2) =
      (changes.map fun c => (c.1.range, c.1.changedTo c.2)).map Prod.snd := by
    rw [List.map_map]
    rfl
  rw [hbatch] at h
  have hlands : ∀ x ∈ changes.map fun c => (c.1.range, c.1.changedTo c.2),
      x.2.Lands source.bytes reach.search fields x.1 := by
    intro x hx
    obtain ⟨c, hc, rfl⟩ := List.mem_map.1 hx
    obtain ⟨hmem, hvalue⟩ := hchanges c hc
    exact Field.lands_changedTo reach.search hfields hmem hvalue
  obtain ⟨hunresolved, hresolved⟩ := map_range_resolved hlands
  have hall := all_applied_iff h hunresolved
  generalize hrs : resolved (resolveAll source.bytes reach.search fields
    ((changes.map fun c => (c.1.range, c.1.changedTo c.2)).map Prod.snd)) = rs at hresolved hall
  have hids : rs.map (fun r => r.edit.id) = changes.map fun c => c.1.id := by
    have key := congrArg (List.map fun x => x.2.id) hresolved
    rwa [List.map_map, List.map_map] at key
  have hranges : rs.map Replacement.range = changes.map fun c => c.1.range := by
    have key := congrArg (List.map Prod.fst) hresolved
    rwa [List.map_map, List.map_map] at key
  rw [hids] at hall
  rw [hall, ← List.pairwise_map (f := Replacement.range) (R := ByteRange.KeepApart), hranges,
    List.pairwise_map]
  rfl

/-- A page with an empty field and a field of text that share an identifier, and a third field. -/
def clashingPage : Text := text "<p x=a'></p><b y=c'>T</b><p></p>"

def clashingFields : List Field :=
  [Field.ofText 20 (text "p text") [] [], Field.ofText 20 (text "b text") (text "T") [],
    Field.ofText 28 (text "p text") [] []]

/-- The last field, and the field of text before it, each with a new value. -/
def clashingChanges : List (Field × Text) :=
  [(Field.ofText 28 (text "p text") [] [], text "u"),
    (Field.ofText 20 (text "b text") (text "T") [], text "S")]

theorem exists_run_of_clash : ∃ outcome,
    applyEdits .default clashingPage (clashingChanges.map fun c => c.1.changedTo c.2) =
      .ok outcome ∧
    outcome.source = text "<p x=a'></p><b y=c'>S</b><p>u</p>" := by
  have hfields : (Field.ofPage Reach.default.openTag clashingPage).toOption =
      some clashingFields := by
    decide +kernel
  have hresolved : resolved (resolveAll clashingPage.bytes Reach.default.search clashingFields
      (clashingChanges.map fun c => c.1.changedTo c.2)) =
        [⟨⟨28, 0⟩, (text "u").bytes, ⟨text "text:28", [], text "u"⟩, 0⟩,
          ⟨⟨20, 1⟩, (text "S").bytes, ⟨text "text:20", text "T", text "S"⟩, 1⟩] := by
    decide +kernel
  have hkept : keepApart none (fromTheEnd (resolved (resolveAll clashingPage.bytes
      Reach.default.search clashingFields (clashingChanges.map fun c => c.1.changedTo c.2)))) =
        ([⟨⟨28, 0⟩, (text "u").bytes, ⟨text "text:28", [], text "u"⟩, 0⟩,
          ⟨⟨20, 1⟩, (text "S").bytes, ⟨text "text:20", text "T", text "S"⟩, 1⟩], []) := by
    rw [hresolved, fromTheEnd_eq_of_precedes (List.Perm.refl _) (by decide +kernel)
      (by decide +kernel)]
    decide +kernel
  have hdecode : ((spliceAll clashingPage.bytes
      [⟨⟨28, 0⟩, (text "u").bytes, ⟨text "text:28", [], text "u"⟩, 0⟩,
        ⟨⟨20, 1⟩, (text "S").bytes, ⟨text "text:20", text "T", text "S"⟩, 1⟩]).decode).toOption =
      some (text "<p x=a'></p><b y=c'>S</b><p>u</p>") := by
    decide +kernel
  rw [applyEdits, Markup.eq_ok_of_toOption hfields]
  exact ⟨_, applyTo_eq_ok_of_kept hkept (Markup.eq_ok_of_toOption hdecode), rfl⟩

/-- The text is changed, though the empty field is the first one of its identifier. -/
theorem fresh_edits_applied_iff_of_clash : ∃ (fields : List Field) (outcome : Outcome),
    Field.ofPage Reach.default.openTag clashingPage = .ok fields ∧
      fields.map (fun f => (f.id, f.value)) =
        [(text "text:20", []), (text "text:20", text "T"), (text "text:28", [])] ∧
      (∀ c ∈ clashingChanges, c.1 ∈ fields ∧ c.2.hasSurrogate = false) ∧
      applyEdits .default clashingPage (clashingChanges.map fun c => c.1.changedTo c.2) =
        .ok outcome ∧
      outcome.source = text "<p x=a'></p><b y=c'>S</b><p>u</p>" ∧
      outcome.applied = [text "text:28", text "text:20"] ∧ outcome.dropped = [] := by
  have hrun : (Field.ofPage Reach.default.openTag clashingPage).toOption =
      some clashingFields := by
    decide +kernel
  have hfields := Markup.eq_ok_of_toOption hrun
  have hchanges : ∀ c ∈ clashingChanges, c.1 ∈ clashingFields ∧ c.2.hasSurrogate = false := by
    decide +kernel
  have hapart : clashingChanges.Pairwise fun c d => c.1.range.start ≠ d.1.range.start ∧
      ¬ (c.1.range.start < d.1.range.stop ∧ d.1.range.start < c.1.range.stop) := by
    decide +kernel
  obtain ⟨outcome, happly, hsource⟩ := exists_run_of_clash
  obtain ⟨happlied, hdropped⟩ := (fresh_edits_applied_iff hfields hchanges happly).2 hapart
  have hids : clashingFields.map (fun f => (f.id, f.value)) =
      [(text "text:20", []), (text "text:20", text "T"), (text "text:28", [])] := by
    decide +kernel
  have hchanged : clashingChanges.map (fun c => c.1.id) = [text "text:28", text "text:20"] := by
    decide +kernel
  exact ⟨_, outcome, hfields, hids, hchanges, happly, hsource, happlied.trans hchanged, hdropped⟩

end VisibleText
