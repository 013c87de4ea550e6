import VisibleText.Proofs.Overlap
import VisibleText.Proofs.PageWrite
import VisibleText.Proofs.Reasons
import VisibleText.Proofs.Unchanged

/-!
# What a batch reports

The report of a batch shows identifiers and edits, which need not tell two members of the batch
apart. So what became of a batch is said by places (`Verdicts`), and an outcome tells the verdicts
in its own words (`DraftOutcome.Tells`).

Every place of a batch has one verdict, and it is the right one (`Verdicts.Account`): an edit that
lands nowhere is dropped for the reason that it lands nowhere, and one that does land is dropped if
and only if it gets in the way of an edit that was applied and that goes before it
(`account_of_applyDrafts`).
-/

set_option autoImplicit false

namespace VisibleText

/-- What became of the edits of a batch, by their places in it. -/
structure Verdicts where
  applied : List Nat
  dropped : List (Nat × DropReason)

/-! ## Verdicts of a batch -/

/-- Why an edit takes no bytes, if it takes none. -/
def Edit.reason? (b : Bytes) (reach : Nat) (fields : List Field) (order : Nat) (e : Edit) :
    Option DropReason :=
  match e.resolve b reach fields order with
  | .ok _ => none
  | .error reason => some reason

section Batch

variable (b : Bytes) (reach : Nat) (fields : List Field) (batch : List Edit)

/-- The places of the edits that take no bytes, with the reasons. -/
def unresolvedPlaces : List (Nat × DropReason) :=
  batch.zipIdx.filterMap fun x => (x.1.reason? b reach fields x.2).map (Prod.mk x.2)

/-- The replacements that a batch comes to, in the order of the batch. -/
def carriedOutInOrder : List Replacement :=
  (carriedOut b reach fields batch).reverse.mergeSort fun r s => r.order ≤ s.order

/-- The replacements of a batch that get in the way of others. -/
def overlapping : List Replacement :=
  (keepApart none (fromTheEnd (resolved (resolveAll b reach fields batch)))).2

/-- What becomes of the edits of a batch. -/
def verdicts : Verdicts where
  applied := (carriedOutInOrder b reach fields batch).map Replacement.order
  dropped := unresolvedPlaces b reach fields batch ++
    (overlapping b reach fields batch).map fun r => (r.order, .overlap)

/-- The edit at a place of a batch lands on a range. -/
def LandsAt (i : Nat) (range : ByteRange) : Prop :=
  ∃ e, batch[i]? = some e ∧ e.Lands b reach fields range

end Batch

/-- Verdicts account for a batch: every place of the batch has exactly one of them, and it is the
right one. -/
structure Verdicts.Account (b : Bytes) (reach : Nat) (fields : List Field) (batch : List Edit)
    (v : Verdicts) : Prop where
  once : (v.applied ++ v.dropped.map Prod.fst).Perm (List.range batch.length)
  applied_in_order : v.applied.Pairwise (· < ·)
  unresolved_iff : ∀ i reason, reason ≠ .overlap → ((i, reason) ∈ v.dropped ↔
    ∃ e, batch[i]? = some e ∧ e.Drops b reach fields reason)
  /-- an edit that lands is dropped if an applied edit that goes before it starts where it starts
  or before it ends -/
  overlap_iff : ∀ i, (i, .overlap) ∈ v.dropped ↔
    ∃ range, LandsAt b reach fields batch i range ∧ ∃ j ∈ v.applied, ∃ other,
      LandsAt b reach fields batch j other ∧
      (range.start < other.start ∨ range.start = other.start ∧ j < i) ∧
      (other.start = range.start ∨ other.start < range.stop)
  /-- what lands nowhere is listed in the order of the batch, and the overlaps behind it from the
  highest start to the lowest -/
  listed : ∃ early late, v.dropped = early ++ late ∧
    (∀ x ∈ early, x.2 ≠ .overlap) ∧ early.Pairwise (fun x y => x.1 < y.1) ∧
    (∀ x ∈ late, x.2 = .overlap) ∧ late.Pairwise fun x y => ∀ range other,
      LandsAt b reach fields batch x.1 range → LandsAt b reach fields batch y.1 other →
        other.start < range.start ∨ other.start = range.start ∧ x.1 < y.1

section Account

variable {b : Bytes} {reach : Nat} {fields : List Field} {batch : List Edit} {r s : Replacement}

/-! ## Replacements and their places -/

theorem mem_resolved_iff : r ∈ resolved (resolveAll b reach fields batch) ↔
    batch[r.order]? = some r.edit ∧ r.edit.resolve b reach fields r.order = .ok r := by
  rw [resolved_eq, List.mem_filterMap]
  constructor
  · rintro ⟨x, hx, hr⟩
    obtain ⟨⟨e, order⟩, hzip, rfl⟩ := List.mem_map.1 hx
    have hok := Markup.eq_ok_of_toOption hr
    obtain ⟨rfl, rfl, -⟩ := resolve_eq_ok hok
    exact ⟨List.mem_zipIdx_iff_getElem?.1 hzip, hok⟩
  · rintro ⟨hedit, hok⟩
    refine ⟨(r.edit, .ok r), List.mem_map.2 ⟨(r.edit, r.order), ?_, ?_⟩, rfl⟩
    · exact List.mem_zipIdx_iff_getElem?.2 hedit
    · rw [← hok]

/-- The place of an edit tells its replacement. -/
theorem eq_of_order_eq (hr : r ∈ resolved (resolveAll b reach fields batch))
    (hs : s ∈ resolved (resolveAll b reach fields batch)) (h : r.order = s.order) : r = s := by
  obtain ⟨hedit, hr⟩ := mem_resolved_iff.1 hr
  obtain ⟨hedit', hs⟩ := mem_resolved_iff.1 hs
  rw [← h] at hedit' hs
  rw [← Option.some.inj (hedit.symm.trans hedit')] at hs
  exact Except.ok.inj (hr.symm.trans hs)

theorem landsAt_iff {i : Nat} {range : ByteRange} : LandsAt b reach fields batch i range ↔
    ∃ r ∈ resolved (resolveAll b reach fields batch), r.order = i ∧ r.range = range := by
  constructor
  · rintro ⟨e, he, lands⟩
    obtain ⟨r, hr, hrange⟩ := (Edit.lands_iff i).1 lands
    obtain ⟨rfl, rfl, -⟩ := resolve_eq_ok hr
    exact ⟨r, mem_resolved_iff.2 ⟨he, hr⟩, rfl, hrange⟩
  · rintro ⟨r, hr, rfl, rfl⟩
    obtain ⟨hedit, hok⟩ := mem_resolved_iff.1 hr
    exact ⟨r.edit, hedit, (Edit.lands_iff r.order).2 ⟨r, hok, rfl⟩⟩

theorem LandsAt.range_eq {range : ByteRange} (h : LandsAt b reach fields batch r.order range)
    (hr : r ∈ resolved (resolveAll b reach fields batch)) : range = r.range := by
  obtain ⟨s, hs, horder, rfl⟩ := landsAt_iff.1 h
  rw [eq_of_order_eq hs hr horder]

theorem carriedOutInOrder_perm : (carriedOutInOrder b reach fields batch).Perm
    (keepApart none (fromTheEnd (resolved (resolveAll b reach fields batch)))).1 := by
  rw [carriedOutInOrder, carriedOut, List.reverse_reverse]
  exact List.mergeSort_perm _ _

theorem mem_resolved_of_mem_carriedOutInOrder (h : r ∈ carriedOutInOrder b reach fields batch) :
    r ∈ resolved (resolveAll b reach fields batch) :=
  (fromTheEnd_perm _).mem_iff.1
    ((keepApart_sublist none _).subset (carriedOutInOrder_perm.mem_iff.1 h))

theorem mem_resolved_of_mem_overlapping (h : r ∈ overlapping b reach fields batch) :
    r ∈ resolved (resolveAll b reach fields batch) :=
  (fromTheEnd_perm _).mem_iff.1 ((keepApart_others_sublist none _).subset h)

theorem mem_overlapping_iff : r ∈ overlapping b reach fields batch ↔
    r ∈ resolved (resolveAll b reach fields batch) ∧
      ∃ s ∈ carriedOutInOrder b reach fields batch,
        s.Precedes r ∧ r.reaches s.range.start = true := by
  have hprecedes := fromTheEnd_pairwise_precedes (resolved_pairwise_order b reach fields batch)
  rw [overlapping, mem_others_iff hprecedes, (fromTheEnd_perm _).mem_iff]
  simp only [carriedOutInOrder_perm.mem_iff]

theorem carriedOutInOrder_pairwise :
    (carriedOutInOrder b reach fields batch).Pairwise fun r s => r.order < s.order :=
  mergeSort_pairwise_order (carriedOut_orders b reach fields batch)

/-! ## Edits that land nowhere -/

theorem reason?_eq_some_iff {e : Edit} {order : Nat} {reason : DropReason} :
    e.reason? b reach fields order = some reason ↔ e.Drops b reach fields reason := by
  rw [Edit.drops_iff order, Edit.reason?]
  cases e.resolve b reach fields order with
  | ok r => exact iff_of_false (Option.some_ne_none _).symm fun h => nomatch h
  | error found => rw [Option.some_inj, Except.error.injEq]

theorem ne_overlap_of_drops {e : Edit} {reason : DropReason}
    (h : e.Drops b reach fields reason) : reason ≠ .overlap := by
  rintro rfl
  cases h with
  | misses _ _ _ misses => cases misses

theorem mem_unresolvedPlaces_iff {i : Nat} {reason : DropReason} :
    (i, reason) ∈ unresolvedPlaces b reach fields batch ↔
      ∃ e, batch[i]? = some e ∧ e.Drops b reach fields reason := by
  rw [unresolvedPlaces, List.mem_filterMap]
  constructor
  · rintro ⟨⟨e, order⟩, hzip, hreason⟩
    obtain ⟨found, hfound, heq⟩ := Option.map_eq_some_iff.1 hreason
    cases heq
    exact ⟨e, List.mem_zipIdx_iff_getElem?.1 hzip, reason?_eq_some_iff.1 hfound⟩
  · rintro ⟨e, he, drops⟩
    refine ⟨(e, i), List.mem_zipIdx_iff_getElem?.2 he, ?_⟩
    rw [reason?_eq_some_iff.2 drops]
    rfl

theorem unresolvedPlaces_pairwise (b : Bytes) (reach : Nat) (fields : List Field)
    (batch : List Edit) :
    (unresolvedPlaces b reach fields batch).Pairwise fun x y => x.1 < y.1 := by
  refine (pairwise_snd_zipIdx batch).filterMap _ fun x y hxy p hp q hq => ?_
  obtain ⟨_, -, rfl⟩ := Option.map_eq_some_iff.1 hp
  obtain ⟨_, -, rfl⟩ := Option.map_eq_some_iff.1 hq
  exact hxy

/-! ## The account -/

/-- What one of two functions picks out of a list and what the other one does is the list, if
either picks what the other one leaves. -/
theorem filterMap_append_perm {α β : Type} {l : List α} {f g : α → Option β} {key : α → β}
    (h : ∀ a ∈ l, f a = some (key a) ∧ g a = none ∨ f a = none ∧ g a = some (key a)) :
    (l.filterMap f ++ l.filterMap g).Perm (l.map key) := by
  induction l with
  | nil => exact .nil
  | cons a l ih =>
    have ih := ih fun c hc => h c (.tail _ hc)
    rcases h a (.head _) with ⟨hf, hg⟩ | ⟨hf, hg⟩
    · rw [List.filterMap_cons_some hf, List.filterMap_cons_none hg]
      exact ih.cons (key a)
    · rw [List.filterMap_cons_none hf, List.filterMap_cons_some hg]
      exact List.perm_middle.trans (ih.cons (key a))

/-- Every edit takes bytes or does not. -/
theorem resolved_append_unresolvedPlaces_perm :
    ((resolved (resolveAll b reach fields batch)).map Replacement.order ++
      (unresolvedPlaces b reach fields batch).map Prod.fst).Perm (List.range batch.length) := by
  rw [List.range_eq_range', ← List.zipIdx_map_snd, resolved_eq, resolveAll, List.filterMap_map,
    unresolvedPlaces, List.map_filterMap, List.map_filterMap]
  refine filterMap_append_perm fun x _ => ?_
  simp only [Function.comp_apply, Edit.reason?]
  cases hx : x.1.resolve b reach fields x.2 with
  | error reason => exact .inr ⟨rfl, rfl⟩
  | ok r => exact .inl ⟨congrArg some (resolve_eq_ok hx).2.1, rfl⟩

theorem verdicts_once (b : Bytes) (reach : Nat) (fields : List Field) (batch : List Edit) :
    ((verdicts b reach fields batch).applied ++
      (verdicts b reach fields batch).dropped.map Prod.fst).Perm (List.range batch.length) := by
  have hlanded : ((carriedOutInOrder b reach fields batch).map Replacement.order ++
      (overlapping b reach fields batch).map Replacement.order).Perm
        ((resolved (resolveAll b reach fields batch)).map Replacement.order) := by
    rw [← List.map_append]
    have hapart := keepApart_perm none (fromTheEnd (resolved (resolveAll b reach fields batch)))
    exact ((carriedOutInOrder_perm.append_right _).trans
      (hapart.trans (fromTheEnd_perm _))).map _
  have hplaces : ((overlapping b reach fields batch).map fun r =>
      (r.order, DropReason.overlap)).map Prod.fst =
        (overlapping b reach fields batch).map Replacement.order := by
    rw [List.map_map]
    rfl
  rw [verdicts, List.map_append, hplaces]
  calc (carriedOutInOrder b reach fields batch).map Replacement.order ++
        ((unresolvedPlaces b reach fields batch).map Prod.fst ++
          (overlapping b reach fields batch).map Replacement.order)
    _ |>.Perm ((carriedOutInOrder b reach fields batch).map Replacement.order ++
        ((overlapping b reach fields batch).map Replacement.order ++
          (unresolvedPlaces b reach fields batch).map Prod.fst)) :=
      List.perm_append_comm.append_left _
    _ |>.Perm ((resolved (resolveAll b reach fields batch)).map Replacement.order ++
        (unresolvedPlaces b reach fields batch).map Prod.fst) := by
      rw [← List.append_assoc]
      exact hlanded.append_right _
    _ |>.Perm (List.range batch.length) := resolved_append_unresolvedPlaces_perm

theorem mem_dropped_iff {i : Nat} {reason : DropReason} :
    (i, reason) ∈ (verdicts b reach fields batch).dropped ↔
      (i, reason) ∈ unresolvedPlaces b reach fields batch ∨
        reason = .overlap ∧ ∃ r ∈ overlapping b reach fields batch, r.order = i := by
  rw [verdicts, List.mem_append, List.mem_map]
  refine or_congr_right ?_
  constructor
  · rintro ⟨r, hr, heq⟩
    cases heq
    exact ⟨rfl, r, hr, rfl⟩
  · rintro ⟨rfl, r, hr, rfl⟩
    exact ⟨r, hr, rfl⟩

theorem overlap_mem_dropped_iff {i : Nat} :
    (i, .overlap) ∈ (verdicts b reach fields batch).dropped ↔
      ∃ r ∈ overlapping b reach fields batch, r.order = i := by
  rw [mem_dropped_iff]
  constructor
  · rintro (h | ⟨-, h⟩)
    · obtain ⟨e, -, drops⟩ := mem_unresolvedPlaces_iff.1 h
      exact absurd rfl (ne_overlap_of_drops drops)
    · exact h
  · intro h
    exact .inr ⟨rfl, h⟩

/-- The verdicts of a batch account for it. -/
theorem account_verdicts (b : Bytes) (reach : Nat) (fields : List Field) (batch : List Edit) :
    (verdicts b reach fields batch).Account b reach fields batch where
  once := verdicts_once b reach fields batch
  applied_in_order := List.pairwise_map.2 carriedOutInOrder_pairwise
  unresolved_iff := by
    intro i reason hreason
    rw [mem_dropped_iff, mem_unresolvedPlaces_iff]
    exact or_iff_left fun h => hreason h.1
  overlap_iff := by
    intro i
    rw [overlap_mem_dropped_iff]
    constructor
    · rintro ⟨r, hr, rfl⟩
      obtain ⟨hresolved, s, hs, hprecedes, hreaches⟩ := mem_overlapping_iff.1 hr
      have hs' := mem_resolved_of_mem_carriedOutInOrder hs
      exact ⟨r.range, landsAt_iff.2 ⟨r, hresolved, rfl, rfl⟩, s.order,
        List.mem_map_of_mem hs, s.range, landsAt_iff.2 ⟨s, hs', rfl, rfl⟩, hprecedes,
        Replacement.reaches_iff.1 hreaches⟩
    · rintro ⟨range, hrange, j, hj, other, hother, hprecedes, hreaches⟩
      obtain ⟨r, hr, rfl, rfl⟩ := landsAt_iff.1 hrange
      obtain ⟨s, hs, rfl⟩ := List.mem_map.1 hj
      obtain rfl := hother.range_eq (mem_resolved_of_mem_carriedOutInOrder hs)
      exact ⟨r, mem_overlapping_iff.2 ⟨hr, s, hs, hprecedes, Replacement.reaches_iff.2 hreaches⟩,
        rfl⟩
  listed := by
    refine ⟨_, _, rfl, ?_, unresolvedPlaces_pairwise b reach fields batch, ?_, ?_⟩
    · rintro ⟨i, reason⟩ h
      obtain ⟨e, -, drops⟩ := mem_unresolvedPlaces_iff.1 h
      exact ne_overlap_of_drops drops
    · intro x hx
      obtain ⟨r, -, rfl⟩ := List.mem_map.1 hx
      rfl
    · have hprecedes := (fromTheEnd_pairwise_precedes
        (resolved_pairwise_order b reach fields batch)).sublist (keepApart_others_sublist none _)
      refine List.pairwise_map.2 (hprecedes.imp_of_mem fun {r s} hr hs hrs => ?_)
      intro range other hrange hother
      obtain rfl := hrange.range_eq (mem_resolved_of_mem_overlapping hr)
      obtain rfl := hother.range_eq (mem_resolved_of_mem_overlapping hs)
      exact hrs

end Account

/-! ## The report -/

/-- An outcome tells verdicts: it names the applied drafts and shows the dropped ones. -/
structure DraftOutcome.Tells (outcome : DraftOutcome) (drafts : List EditDraft) (v : Verdicts) :
    Prop where
  applied : outcome.applied.map some = v.applied.map fun i => drafts[i]?.map EditDraft.id
  dropped : outcome.dropped.map (fun x => (some x.draft, x.reason)) =
    v.dropped.map fun x => (drafts[x.1]?, x.2)

section Report

variable {b : Bytes} {reach : Nat} {fields : List Field} {drafts : List EditDraft}

/-- A draft that does not break off its batch and takes bytes is the draft of an edit. -/
theorem EditDraft.ofEdit_toEdit {d : EditDraft} {search : Bound} {order : Nat} {r : Replacement}
    (hfault : d.fault? b search fields = none)
    (h : d.toEdit.resolve b reach fields order = .ok r) : EditDraft.ofEdit d.toEdit = d := by
  obtain ⟨-, -, hold, hnew, f, hf, -⟩ := resolve_eq_ok h
  obtain ⟨id, oldValue, newValue⟩ := d
  have hf : fields.find? (fun f => f.id = id) = some f := hf
  rw [EditDraft.fault?, hf] at hfault
  cases oldValue with
  | string old =>
    have hold : old.hasSurrogate = false := hold
    simp only [hold, Bool.false_eq_true, if_false] at hfault
    cases newValue with
    | string new => rfl
    | _ => cases hfault
  | _ => cases hfault

theorem unresolved_eq_filterMap (b : Bytes) (reach : Nat) (fields : List Field)
    (batch : List Edit) : unresolved (resolveAll b reach fields batch) =
      batch.zipIdx.filterMap fun x =>
        (x.1.reason? b reach fields x.2).map (DroppedEdit.mk x.1) := by
  rw [unresolved, resolveAll, List.filterMap_map]
  refine List.filterMap_congr fun x _ => ?_
  simp only [Function.comp_apply, Edit.reason?]
  cases x.1.resolve b reach fields x.2 <;> rfl

theorem unresolvedDrafts_eq_filterMap (b : Bytes) (reach : Nat) (fields : List Field)
    (drafts : List EditDraft) :
    unresolvedDrafts drafts (resolveAll b reach fields (drafts.map EditDraft.toEdit)) =
      drafts.zipIdx.filterMap fun x =>
        (x.1.toEdit.reason? b reach fields x.2).map (DroppedDraft.mk x.1) := by
  have hzip : drafts.zip (resolveAll b reach fields (drafts.map EditDraft.toEdit)) =
      drafts.zipIdx.map fun x =>
        (x.1, x.1.toEdit, x.1.toEdit.resolve b reach fields x.2) := by
    calc drafts.zip (resolveAll b reach fields (drafts.map EditDraft.toEdit))
      _ = (drafts.zipIdx.map Prod.fst).zip (drafts.zipIdx.map fun x =>
          (x.1.toEdit, x.1.toEdit.resolve b reach fields x.2)) := by
        rw [List.zipIdx_map_fst, resolveAll, List.zipIdx_map, List.map_map]
        rfl
      _ = _ := List.zip_map'
  rw [unresolvedDrafts, hzip, List.filterMap_map]
  refine List.filterMap_congr fun x _ => ?_
  simp only [Function.comp_apply, Edit.reason?]
  cases x.1.toEdit.resolve b reach fields x.2 <;> rfl

theorem applyTo_eq_ok_of_kept {batch : List Edit} {kept others : List Replacement} {page : Text}
    (hkept : keepApart none (fromTheEnd (resolved (resolveAll b reach fields batch))) =
      (kept, others)) (hdecode : (spliceAll b kept).decode = .ok page) :
    applyTo b reach fields batch = .ok ⟨page,
      (kept.mergeSort fun r s => r.order ≤ s.order).map fun r => r.edit.id,
      unresolved (resolveAll b reach fields batch) ++ others.map fun r => ⟨r.edit, .overlap⟩⟩ := by
  rw [applyTo]
  simp only [hkept, hdecode]

theorem dropped_of_applyTo {batch : List Edit} {outcome : Outcome}
    (h : applyTo b reach fields batch = .ok outcome) :
    outcome.dropped = unresolved (resolveAll b reach fields batch) ++
      (overlapping b reach fields batch).map fun r => ⟨r.edit, .overlap⟩ := by
  unfold applyTo at h
  simp only at h
  split at h
  · cases h
  · cases h
    rfl

/-- As many drafts take no bytes as edits do. -/
theorem length_unresolvedDrafts (b : Bytes) (reach : Nat) (fields : List Field)
    (drafts : List EditDraft) :
    (unresolvedDrafts drafts (resolveAll b reach fields (drafts.map EditDraft.toEdit))).length =
      (unresolved (resolveAll b reach fields (drafts.map EditDraft.toEdit))).length := by
  rw [unresolvedDrafts_eq_filterMap, unresolved_eq_filterMap, List.zipIdx_map,
    List.filterMap_map, List.length_filterMap_eq_countP, List.length_filterMap_eq_countP]
  refine List.countP_congr fun x _ => ?_
  simp only [Function.comp_apply, Prod.map_fst, Prod.map_snd, id_eq, Option.isSome_map]

theorem applyDraftsTo_eq_ok {edited : Outcome}
    (h : applyTo b reach fields (drafts.map EditDraft.toEdit) = .ok edited) :
    applyDraftsTo b reach fields drafts = .ok ⟨edited.source, edited.applied,
      unresolvedDrafts drafts (resolveAll b reach fields (drafts.map EditDraft.toEdit)) ++
        (overlapping b reach fields (drafts.map EditDraft.toEdit)).map fun r =>
          ⟨.ofEdit r.edit, .overlap⟩⟩ := by
  rw [applyDraftsTo, h]
  show Except.ok _ = Except.ok _
  rw [dropped_of_applyTo h, length_unresolvedDrafts, List.drop_left, List.map_map]
  rfl

theorem exists_of_applyDraftsTo {outcome : DraftOutcome}
    (h : applyDraftsTo b reach fields drafts = .ok outcome) :
    ∃ edited, applyTo b reach fields (drafts.map EditDraft.toEdit) = .ok edited ∧
      outcome = ⟨edited.source, edited.applied,
        unresolvedDrafts drafts (resolveAll b reach fields (drafts.map EditDraft.toEdit)) ++
          (overlapping b reach fields (drafts.map EditDraft.toEdit)).map fun r =>
            ⟨.ofEdit r.edit, .overlap⟩⟩ := by
  obtain ⟨edited, hedited, -⟩ := Markup.exists_of_bind_eq_ok h
  exact ⟨edited, hedited, Except.ok.inj (h.symm.trans (applyDraftsTo_eq_ok hedited))⟩

theorem exists_of_applyDrafts {bounds : Bounds} {source : Text} {outcome : DraftOutcome}
    (h : applyDrafts bounds source drafts = .ok outcome) :
    ∃ fields, Field.ofPageWithin bounds.openTag source = .ok fields ∧
      (∀ d ∈ drafts, d.fault? source.bytes bounds.search fields = none) ∧
      applyDraftsTo source.bytes (bounds.reach source.bytes.length).search fields drafts =
        .ok outcome := by
  obtain ⟨fields, hfields, h⟩ := Markup.exists_of_bind_eq_ok h
  refine ⟨fields, hfields, ?_⟩
  dsimp only at h
  split at h
  · cases h
  · next hnone => exact ⟨List.findSome?_eq_none_iff.1 hnone, eq_ok_of_mapError h⟩

theorem applyDrafts_eq_ok {bounds : Bounds} {source : Text} {outcome : DraftOutcome}
    (hfields : Field.ofPageWithin bounds.openTag source = .ok fields)
    (hfault : ∀ d ∈ drafts, d.fault? source.bytes bounds.search fields = none)
    (hrun : applyDraftsTo source.bytes (bounds.reach source.bytes.length).search fields drafts =
      .ok outcome) : applyDrafts bounds source drafts = .ok outcome := by
  have hnone := List.findSome?_eq_none_iff.2 hfault
  unfold applyDrafts
  rw [hfields]
  dsimp only [bind, Except.bind]
  rw [hnone, hrun]
  rfl

theorem exists_draft_of_getElem? {i : Nat} {e : Edit}
    (h : (drafts.map EditDraft.toEdit)[i]? = some e) :
    ∃ d ∈ drafts, drafts[i]? = some d ∧ d.toEdit = e := by
  rw [List.getElem?_map] at h
  obtain ⟨d, hd, rfl⟩ := Option.map_eq_some_iff.1 h
  exact ⟨d, List.mem_of_getElem? hd, hd, rfl⟩

/-- The outcome of a run tells the verdicts of its batch. -/
theorem tells_verdicts {search : Bound} {outcome : DraftOutcome}
    (hfault : ∀ d ∈ drafts, d.fault? b search fields = none)
    (h : applyDraftsTo b reach fields drafts = .ok outcome) :
    outcome.Tells drafts (verdicts b reach fields (drafts.map EditDraft.toEdit)) := by
  obtain ⟨edited, hedited, rfl⟩ := exists_of_applyDraftsTo h
  constructor
  · rw [(applyTo_eq_ok hedited).2, verdicts, List.map_map, List.map_map]
    refine List.map_congr_left fun r hr => ?_
    obtain ⟨hedit, -⟩ := mem_resolved_iff.1 (mem_resolved_of_mem_carriedOutInOrder hr)
    obtain ⟨d, -, hd, heq⟩ := exists_draft_of_getElem? hedit
    rw [Function.comp_apply, Function.comp_apply, hd, ← heq]
    rfl
  · rw [verdicts, List.map_append, List.map_append]
    congr 1
    · rw [unresolvedDrafts_eq_filterMap, unresolvedPlaces, List.zipIdx_map, List.filterMap_map,
        List.map_filterMap, List.map_filterMap]
      refine List.filterMap_congr fun x hx => ?_
      have hplace := List.mem_zipIdx_iff_getElem?.1 hx
      simp only [Function.comp_apply, Prod.map_fst, Prod.map_snd, id_eq, Option.map_map]
      congr 1
      funext reason
      rw [Function.comp_apply, Function.comp_apply, hplace]
    · rw [List.map_map, List.map_map]
      refine List.map_congr_left fun r hr => ?_
      obtain ⟨hedit, hok⟩ := mem_resolved_iff.1 (mem_resolved_of_mem_overlapping hr)
      obtain ⟨d, hmem, hd, heq⟩ := exists_draft_of_getElem? hedit
      -- its values are texts, or the batch would have broken off
      rw [← heq] at hok
      have hdraft := EditDraft.ofEdit_toEdit (hfault d hmem) hok
      rw [Function.comp_apply, Function.comp_apply, hd, ← heq, hdraft]

end Report

/-- A run that returns accounts for every draft of its batch exactly once, and for the right
reason: as applied, as landing nowhere, or as getting in the way of an applied one. -/
theorem account_of_applyDrafts {bounds : Bounds} {source : Text} {drafts : List EditDraft}
    {outcome : DraftOutcome} (h : applyDrafts bounds source drafts = .ok outcome) :
    ∃ fields, Field.ofPageWithin bounds.openTag source = .ok fields ∧
      ∃ v : Verdicts, outcome.Tells drafts v ∧
        v.Account source.bytes (bounds.reach source.bytes.length).search fields
          (drafts.map EditDraft.toEdit) := by
  obtain ⟨fields, hfields, hfault, hrun⟩ := exists_of_applyDrafts h
  exact ⟨fields, hfields, _, tells_verdicts hfault hrun, account_verdicts _ _ _ _⟩

/-! ### A crowded page -/

/-- A page with two fields, the first of which holds text. -/
def crowdedPage : Text := text "<p>ab</p><p></p>"

def crowdedFields : List Field :=
  [Field.ofText 3 (text "p text") (text "ab") [], Field.ofText 12 (text "p text") [] []]

/-- Seven edits of three identifiers, of which two can be applied. -/
def crowd : List EditDraft :=
  List.map EditDraft.ofEdit [⟨text "text:99", text "ab", text "x"⟩,
    ⟨text "text:3", text "ab", text "x"⟩, ⟨text "text:3", text "zz", text "x"⟩,
    ⟨text "text:3", text "b", text "y"⟩, ⟨text "text:12", [], text "z"⟩,
    ⟨text "text:3", [], text "x"⟩, ⟨text "text:12", [], [.surrogate 0]⟩]

/-- Bounds within which all of the page is seen from every field. -/
def crowdedBounds : Bounds where
  openTag := .whole 64
  search := .whole 16

theorem keepApart_crowd : keepApart none (fromTheEnd (resolved
    (resolveAll crowdedPage.bytes 16 crowdedFields (crowd.map EditDraft.toEdit)))) =
      ([⟨⟨12, 0⟩, (text "z").bytes, ⟨text "text:12", [], text "z"⟩, 4⟩,
        ⟨⟨4, 1⟩, (text "y").bytes, ⟨text "text:3", text "b", text "y"⟩, 3⟩],
      [⟨⟨3, 2⟩, (text "x").bytes, ⟨text "text:3", text "ab", text "x"⟩, 1⟩]) := by
  have hresolved : resolved
      (resolveAll crowdedPage.bytes 16 crowdedFields (crowd.map EditDraft.toEdit)) =
        [⟨⟨3, 2⟩, (text "x").bytes, ⟨text "text:3", text "ab", text "x"⟩, 1⟩,
          ⟨⟨4, 1⟩, (text "y").bytes, ⟨text "text:3", text "b", text "y"⟩, 3⟩,
          ⟨⟨12, 0⟩, (text "z").bytes, ⟨text "text:12", [], text "z"⟩, 4⟩] := by
    decide +kernel
  rw [hresolved, fromTheEnd_eq_of_precedes (List.reverse_perm _) (by decide +kernel)
    (by decide +kernel)]
  decide +kernel

theorem exists_run_of_crowd : ∃ outcome,
    applyDrafts crowdedBounds crowdedPage crowd = .ok outcome ∧
    outcome.source = text "<p>ay</p><p>z</p>" ∧
    outcome.applied = [text "text:3", text "text:12"] ∧
    outcome.dropped.map (fun x => (x.draft.id, x.reason)) =
      [(text "text:99", .unknownField), (text "text:3", .notFound),
        (text "text:3", .fieldNotEmpty), (text "text:12", .invalidText),
        (text "text:3", .overlap)] := by
  have hfields : (Field.ofPageWithin crowdedBounds.openTag crowdedPage).toOption =
      some crowdedFields := by
    decide +kernel
  have hfault : (crowd.all fun d =>
      (d.fault? crowdedPage.bytes crowdedBounds.search crowdedFields).isNone) = true := by
    decide +kernel
  have hdecode : ((spliceAll crowdedPage.bytes
      [⟨⟨12, 0⟩, (text "z").bytes, ⟨text "text:12", [], text "z"⟩, 4⟩,
        ⟨⟨4, 1⟩, (text "y").bytes, ⟨text "text:3", text "b", text "y"⟩, 3⟩]).decode).toOption =
      some (text "<p>ay</p><p>z</p>") := by
    decide +kernel
  have hunresolved : (unresolvedDrafts crowd (resolveAll crowdedPage.bytes 16 crowdedFields
      (crowd.map EditDraft.toEdit))).map (fun x => (x.draft.id, x.reason)) =
        [(text "text:99", .unknownField), (text "text:3", .notFound),
          (text "text:3", .fieldNotEmpty), (text "text:12", .invalidText)] := by
    decide +kernel
  have hoverlapping := congrArg Prod.snd keepApart_crowd
  have hrun := applyTo_eq_ok_of_kept keepApart_crowd (Markup.eq_ok_of_toOption hdecode)
  refine ⟨_, applyDrafts_eq_ok (Markup.eq_ok_of_toOption hfields)
    (fun d hd => Option.isNone_iff_eq_none.1 (List.all_eq_true.1 hfault d hd))
    (applyDraftsTo_eq_ok hrun), rfl, ?_, ?_⟩
  · have horder : ([⟨⟨4, 1⟩, (text "y").bytes, ⟨text "text:3", text "b", text "y"⟩, 3⟩,
        ⟨⟨12, 0⟩, (text "z").bytes, ⟨text "text:12", [], text "z"⟩, 4⟩] :
          List Replacement).Pairwise fun r s => r.order < s.order := by
      decide +kernel
    exact congrArg (List.map _) (mergeSort_order_eq horder)
  · refine (List.map_append ..).trans (congrArg₂ (· ++ ·) hunresolved ?_)
    rw [List.map_map, overlapping]
    exact congrArg (List.map _) hoverlapping

/-- Every kind of verdict at once. -/
theorem account_of_applyDrafts_of_crowd : ∃ (outcome : DraftOutcome) (fields : List Field)
    (v : Verdicts), applyDrafts crowdedBounds crowdedPage crowd = .ok outcome ∧
      outcome.source = text "<p>ay</p><p>z</p>" ∧
      outcome.applied = [text "text:3", text "text:12"] ∧
      outcome.dropped.map (fun x => (x.draft.id, x.reason)) =
        [(text "text:99", .unknownField), (text "text:3", .notFound),
          (text "text:3", .fieldNotEmpty), (text "text:12", .invalidText),
          (text "text:3", .overlap)] ∧
      Field.ofPageWithin crowdedBounds.openTag crowdedPage = .ok fields ∧
      outcome.Tells crowd v ∧
      v.Account crowdedPage.bytes 16 fields (crowd.map EditDraft.toEdit) := by
  obtain ⟨outcome, happly, hsource, happlied, hdropped⟩ := exists_run_of_crowd
  obtain ⟨fields, hfields, v, htells, haccount⟩ := account_of_applyDrafts happly
  exact ⟨outcome, fields, v, happly, hsource, happlied, hdropped, hfields, htells, haccount⟩

end VisibleText
