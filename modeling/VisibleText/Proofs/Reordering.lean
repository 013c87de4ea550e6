import VisibleText.Proofs.Withdrawal

/-!
# Batches in another order

The order in which drafts are handed in decides what goes first only where two of them start
together. If the edits of a batch that land start at different bytes, every order of the batch comes
to the same page, applies the same drafts and drops the same ones for the same reasons
(`applyDrafts_of_perm`).

What an edit comes to does not depend on its place in the batch, apart from the place that is noted
in its replacement (`map_body_resolved`). Replacements that start at different bytes can be sorted
in one way only (`map_body_fromTheEnd_of_perm`), and what is kept of them is decided by their ranges
(`map_body_keepApart`).
-/

set_option autoImplicit false

namespace VisibleText

/-! ## Edits without their places -/

/-- What an edit comes to, wherever it stands in its batch. -/
def Edit.body? (b : Bytes) (reach : Nat) (fields : List Field) (e : Edit) :
    Option (ByteRange × Bytes × Edit) :=
  (e.resolve b reach fields 0).toOption.map Replacement.body

section Edits

variable {b : Bytes} {reach : Nat} {fields : List Field} {batch : List Edit} {e : Edit}

theorem Edit.map_body_resolve (order : Nat) :
    (e.resolve b reach fields order).toOption.map Replacement.body = e.body? b reach fields := by
  rw [Edit.body?]
  cases h : e.resolve b reach fields order with
  | ok r =>
    rw [Edit.resolve_of_order h 0]
    rfl
  | error reason =>
    rw [(Edit.drops_iff 0).1 ((Edit.drops_iff order).2 h)]

theorem Edit.reason?_of_order (order : Nat) :
    e.reason? b reach fields order = e.reason? b reach fields 0 := by
  refine Option.ext fun reason => ?_
  rw [reason?_eq_some_iff, reason?_eq_some_iff]

theorem filterMap_zipIdx {α β : Type} {l : List α} {f : α × Nat → Option β} {g : α → Option β}
    (h : ∀ a i, f (a, i) = g a) : l.zipIdx.filterMap f = l.filterMap g := by
  conv_rhs => rw [← List.zipIdx_map_fst 0 l, List.filterMap_map]
  exact List.filterMap_congr fun x _ => h x.1 x.2

theorem map_body_resolved (b : Bytes) (reach : Nat) (fields : List Field) (batch : List Edit) :
    (resolved (resolveAll b reach fields batch)).map Replacement.body =
      batch.filterMap (Edit.body? b reach fields) := by
  rw [resolved_eq, resolveAll, List.filterMap_map, List.map_filterMap]
  exact filterMap_zipIdx fun e order => Edit.map_body_resolve order

theorem unresolvedDrafts_perm {drafts drafts' : List EditDraft} (h : drafts.Perm drafts') :
    (unresolvedDrafts drafts
        (resolveAll b reach fields (drafts.map EditDraft.toEdit))).Perm
      (unresolvedDrafts drafts'
        (resolveAll b reach fields (drafts'.map EditDraft.toEdit))) := by
  have hplaces (l : List EditDraft) :
      unresolvedDrafts l (resolveAll b reach fields (l.map EditDraft.toEdit)) =
        l.filterMap fun d => (d.toEdit.reason? b reach fields 0).map (DroppedDraft.mk d) := by
    rw [unresolvedDrafts_eq_filterMap]
    refine filterMap_zipIdx fun d order => ?_
    rw [Edit.reason?_of_order order]
  rw [hplaces, hplaces]
  exact h.filterMap _

end Edits

/-! ## Replacements that start at different bytes -/

section Replacements

variable {rs ss : List Replacement}

/-- Replacements that start at different bytes come in one order from the end of the page. -/
theorem map_body_fromTheEnd_of_perm (h : (rs.map Replacement.body).Perm (ss.map Replacement.body))
    (hstarts : rs.Pairwise fun r s => r.range.start ≠ s.range.start) :
    (fromTheEnd rs).map Replacement.body = (fromTheEnd ss).map Replacement.body := by
  have hsorted : (fromTheEnd rs).Pairwise fun r s => s.range.start < r.range.start := by
    have hne := hstarts.perm (fromTheEnd_perm rs).symm fun hrs => Ne.symm hrs
    refine ((fromTheEnd_pairwise_start rs).and hne).imp fun {r s} hrs => ?_
    exact Nat.lt_of_le_of_ne hrs.1 (Ne.symm hrs.2)
  rw [map_body_fromTheEnd_eq ss]
  refine (mergeSort_eq_of_perm (by simp only [decide_eq_true_eq]; omega)
    (by simp only [Bool.or_eq_true, decide_eq_true_eq]; omega)
    (((fromTheEnd_perm rs).map Replacement.body).trans h) ?_).symm
  refine List.pairwise_map.2 (hsorted.imp fun {r s} hrs => ?_)
  exact decide_eq_false (Nat.not_le_of_lt hrs)

/-- What is kept and what is left out is decided by the ranges. -/
theorem map_body_keepApart (h : rs.map Replacement.body = ss.map Replacement.body)
    (bound : Option Nat) :
    (keepApart bound rs).1.map Replacement.body = (keepApart bound ss).1.map Replacement.body ∧
      (keepApart bound rs).2.map Replacement.body =
        (keepApart bound ss).2.map Replacement.body := by
  induction rs generalizing ss bound with
  | nil =>
    obtain rfl := List.map_eq_nil_iff.1 h.symm
    exact ⟨rfl, rfl⟩
  | cons r rs ih =>
    obtain ⟨s, ss, rfl, hs, hss⟩ := List.map_eq_cons_iff.1 h.symm
    have hrange : s.range = r.range := congrArg Prod.fst hs
    have hreaches : bound.any s.reaches = bound.any r.reaches := by
      refine congrArg bound.any (funext fun n => ?_)
      rw [Replacement.reaches, Replacement.reaches, hrange]
    rw [keepApart, keepApart, hreaches, hrange]
    split
    · obtain ⟨hkept, hothers⟩ := ih hss.symm bound
      exact ⟨hkept, congrArg₂ List.cons hs.symm hothers⟩
    · obtain ⟨hkept, hothers⟩ := ih hss.symm (some r.range.start)
      exact ⟨congrArg₂ List.cons hs.symm hkept, hothers⟩

end Replacements

/-! ## Batches -/

/-- The edits of a batch that land start at different bytes. -/
def StartApart (b : Bytes) (reach : Nat) (fields : List Field) (batch : List Edit) : Prop :=
  ∀ i j range other, LandsAt b reach fields batch i range → LandsAt b reach fields batch j other →
    range.start = other.start → i = j

section Batch

variable {b : Bytes} {reach : Nat} {fields : List Field} {batch batch' : List Edit}

theorem StartApart.pairwise (h : StartApart b reach fields batch) :
    (resolved (resolveAll b reach fields batch)).Pairwise fun r s =>
      r.range.start ≠ s.range.start := by
  refine (resolved_pairwise_order b reach fields batch).imp_of_mem fun {r s} hr hs hlt hstart => ?_
  have horder := h r.order s.order r.range s.range (landsAt_iff.2 ⟨r, hr, rfl, rfl⟩)
    (landsAt_iff.2 ⟨s, hs, rfl, rfl⟩) hstart
  exact Nat.ne_of_lt hlt horder

/-- In another order the same replacements are kept and left out. -/
theorem map_body_keepApart_of_perm (hperm : batch.Perm batch')
    (hapart : StartApart b reach fields batch) :
    (keepApart none (fromTheEnd (resolved (resolveAll b reach fields batch)))).1.map
        Replacement.body =
      (keepApart none (fromTheEnd (resolved (resolveAll b reach fields batch')))).1.map
        Replacement.body ∧
    (overlapping b reach fields batch).map Replacement.body =
      (overlapping b reach fields batch').map Replacement.body := by
  refine map_body_keepApart (map_body_fromTheEnd_of_perm ?_ hapart.pairwise) none
  rw [map_body_resolved, map_body_resolved]
  exact hperm.filterMap _

theorem applied_perm_of_map_body {kept kept' : List Replacement}
    (h : kept.map Replacement.body = kept'.map Replacement.body) :
    ((kept'.mergeSort fun r s => r.order ≤ s.order).map fun r => r.edit.id).Perm
      ((kept.mergeSort fun r s => r.order ≤ s.order).map fun r => r.edit.id) := by
  refine ((List.mergeSort_perm kept' _).map _).trans ?_
  rw [← map_id_eq_of_map_body h]
  exact ((List.mergeSort_perm kept _).map _).symm

/-- In another order a batch comes to the same page and applies the same edits. -/
theorem exists_applyTo_of_perm {outcome : Outcome}
    (h : applyTo b reach fields batch = .ok outcome) (hperm : batch.Perm batch')
    (hapart : StartApart b reach fields batch) :
    ∃ outcome', applyTo b reach fields batch' = .ok outcome' ∧
      outcome'.source = outcome.source ∧ outcome'.applied.Perm outcome.applied := by
  obtain ⟨hdecode, happlied⟩ := applyTo_eq_ok h
  have hkept := (map_body_keepApart_of_perm hperm hapart).1
  rw [carriedOut, List.reverse_reverse] at hdecode happlied
  rw [spliceAll_eq_of_map_body b hkept] at hdecode
  refine ⟨_, applyTo_eq_ok_of_kept rfl hdecode, rfl, ?_⟩
  rw [happlied]
  exact applied_perm_of_map_body hkept

end Batch

/-- If the edits of a batch that land start at different bytes, the order of the batch does not
matter: in every other order it comes to the same page, applies the same drafts, and drops the same
ones for the same reasons. -/
theorem applyDrafts_of_perm {bounds : Bounds} {source : Text} {drafts drafts' : List EditDraft}
    {outcome : DraftOutcome} {fields : List Field}
    (h : applyDrafts bounds source drafts = .ok outcome)
    (hfields : Field.ofPageWithin bounds.openTag source = .ok fields)
    (hapart : StartApart source.bytes (bounds.reach source.bytes.length).search fields
      (drafts.map EditDraft.toEdit)) (hperm : drafts.Perm drafts') :
    ∃ outcome', applyDrafts bounds source drafts' = .ok outcome' ∧
      outcome'.source = outcome.source ∧ outcome'.applied.Perm outcome.applied ∧
      outcome'.dropped.Perm outcome.dropped := by
  obtain ⟨fields', hfields', hfault, hrun⟩ := exists_of_applyDrafts h
  obtain rfl := Except.ok.inj (hfields.symm.trans hfields')
  obtain ⟨edited, hedited, rfl⟩ := exists_of_applyDraftsTo hrun
  have hedits := hperm.map EditDraft.toEdit
  obtain ⟨edited', hedited', hsource, happlied⟩ := exists_applyTo_of_perm hedited hedits hapart
  refine ⟨_, applyDrafts_eq_ok hfields (fun d hd => hfault d (hperm.mem_iff.2 hd))
    (applyDraftsTo_eq_ok hedited'), hsource, happlied, ?_⟩
  -- what overlaps is shown by the edits of the replacements, and these are the same
  have hshown (rs : List Replacement) :
      (rs.map fun r => (⟨.ofEdit r.edit, .overlap⟩ : DroppedDraft)) =
        (rs.map Replacement.body).map fun x => ⟨.ofEdit x.2.2, .overlap⟩ := by
    rw [List.map_map]
    rfl
  have hoverlapping := (map_body_keepApart_of_perm hedits hapart).2
  simp only [hshown, hoverlapping]
  exact (unresolvedDrafts_perm hperm.symm).append_right _

theorem startApart_crowd :
    StartApart crowdedPage.bytes 16 crowdedFields (crowd.map EditDraft.toEdit) := by
  have hresolved : (resolved (resolveAll crowdedPage.bytes 16 crowdedFields
      (crowd.map EditDraft.toEdit))).map (fun r => (r.range.start, r.order)) =
        [(3, 1), (4, 3), (12, 4)] := by
    decide +kernel
  have hpairs : ∀ x ∈ [(3, 1), (4, 3), (12, 4)], ∀ y ∈ [(3, 1), (4, 3), (12, 4)],
      x.1 = y.1 → x.2 = y.2 := by
    decide
  intro i j range other hi hj hstart
  obtain ⟨r, hr, rfl, rfl⟩ := landsAt_iff.1 hi
  obtain ⟨s, hs, rfl, rfl⟩ := landsAt_iff.1 hj
  exact hpairs _ (hresolved ▸ List.mem_map_of_mem hr) _ (hresolved ▸ List.mem_map_of_mem hs) hstart

/-- The crowd from its last draft to its first. -/
theorem applyDrafts_of_perm_of_crowd : ∃ (fields : List Field) (outcome outcome' : DraftOutcome),
    Field.ofPageWithin crowdedBounds.openTag crowdedPage = .ok fields ∧
      StartApart crowdedPage.bytes 16 fields (crowd.map EditDraft.toEdit) ∧
      applyDrafts crowdedBounds crowdedPage crowd = .ok outcome ∧
      outcome.source = text "<p>ay</p><p>z</p>" ∧ outcome.dropped.length = 5 ∧
      applyDrafts crowdedBounds crowdedPage crowd.reverse = .ok outcome' ∧
      outcome'.source = outcome.source ∧ outcome'.applied.Perm outcome.applied ∧
      outcome'.dropped.Perm outcome.dropped := by
  have hrun : (Field.ofPageWithin crowdedBounds.openTag crowdedPage).toOption =
      some crowdedFields := by
    decide +kernel
  have hfields := Markup.eq_ok_of_toOption hrun
  obtain ⟨outcome, happly, hsource, -, hdropped⟩ := exists_run_of_crowd
  have hlength := congrArg List.length hdropped
  rw [List.length_map] at hlength
  obtain ⟨outcome', happly', hsame⟩ := applyDrafts_of_perm happly hfields startApart_crowd
    (List.reverse_perm crowd).symm
  exact ⟨crowdedFields, outcome, outcome', hfields, startApart_crowd, happly, hsource, hlength,
    happly', hsame⟩

end VisibleText
