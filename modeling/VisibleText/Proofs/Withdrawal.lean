import Mathlib.Data.List.Sort
import VisibleText.Proofs.Unchanged
import VisibleText.Proofs.Verdicts

/-!
# Batches without what they drop

What a batch drops has no say in what it does: without the dropped drafts it comes to the same
page, applies the same drafts, and drops nothing (`applyDrafts_remaining`).

Taking drafts out moves the others to earlier places, and places decide which replacement goes
first where two start together. But what was carried out stands apart, so no two of the remaining
replacements start together, and all that they write is the same at any place
(`resolveAll_map_edit`): up to their places the replacements are those that were kept before, in
the same order from the end of the page (`map_body_fromTheEnd`).
-/

set_option autoImplicit false

namespace VisibleText

/-! ## Replacements at other places of a batch -/

/-- A replacement without the place of its edit. -/
def Replacement.body (r : Replacement) : ByteRange × Bytes × Edit := (r.range, r.written, r.edit)

/-- Replacements with the places that their edits have if they are a batch of their own. -/
def renumbered (rs : List Replacement) : List Replacement :=
  rs.zipIdx.map fun x => { x.1 with order := x.2 }

section Renumbered

variable {rs ss : List Replacement}

theorem map_body_renumbered (rs : List Replacement) :
    (renumbered rs).map Replacement.body = rs.map Replacement.body := by
  conv_rhs => rw [← List.zipIdx_map_fst 0 rs]
  rw [renumbered, List.map_map, List.map_map]
  rfl

theorem renumbered_pairwise (rs : List Replacement) :
    (renumbered rs).Pairwise fun r s => r.order < s.order :=
  List.pairwise_map.2 (pairwise_snd_zipIdx rs)

/-- Sorting by start does not look at the places in the batch. -/
theorem map_body_fromTheEnd_eq (rs : List Replacement) : (fromTheEnd rs).map Replacement.body =
    (rs.map Replacement.body).mergeSort fun x y => y.1.start ≤ x.1.start :=
  List.map_mergeSort fun _ _ _ _ => rfl

theorem map_body_fromTheEnd (h : rs.map Replacement.body = ss.map Replacement.body) :
    (fromTheEnd rs).map Replacement.body = (fromTheEnd ss).map Replacement.body := by
  rw [map_body_fromTheEnd_eq, map_body_fromTheEnd_eq, h]

theorem spliceAll_eq_of_map_body (b : Bytes)
    (h : rs.map Replacement.body = ss.map Replacement.body) : spliceAll b rs = spliceAll b ss := by
  have hfold (qs : List Replacement) : spliceAll b qs =
      (qs.map Replacement.body).foldl (fun b x => b.splice x.1 x.2.1) b := by
    rw [List.foldl_map]
    rfl
  rw [hfold, hfold, h]

theorem pairwise_before_of_map_body (h : rs.map Replacement.body = ss.map Replacement.body)
    (hss : ss.Pairwise fun r s => s.Before r) : rs.Pairwise fun r s => s.Before r := by
  have hbody (qs : List Replacement) : qs.Pairwise (fun r s => s.Before r) ↔
      (qs.map Replacement.body).Pairwise fun x y =>
        y.1.start < x.1.start ∧ y.1.stop ≤ x.1.start := by
    rw [List.pairwise_map]
    exact Iff.rfl
  rwa [hbody, h, ← hbody]

theorem map_id_eq_of_map_body (h : rs.map Replacement.body = ss.map Replacement.body) :
    rs.map (fun r => r.edit.id) = ss.map fun r => r.edit.id := by
  have hid (qs : List Replacement) : qs.map (fun r => r.edit.id) =
      (qs.map Replacement.body).map fun x => x.2.2.id := by
    rw [List.map_map]
    rfl
  rw [hid, hid, h]

end Renumbered

section Batch

variable {b : Bytes} {reach : Nat} {fields : List Field} {batch : List Edit}

/-- Edits that take bytes at their places in one batch take the same bytes at their places in
another one. -/
theorem resolveAll_map_edit {rs : List Replacement}
    (h : ∀ r ∈ rs, r.edit.resolve b reach fields r.order = .ok r) :
    resolveAll b reach fields (rs.map Replacement.edit) =
      (renumbered rs).map fun r => (r.edit, .ok r) := by
  rw [resolveAll, List.zipIdx_map, List.map_map, renumbered, List.map_map]
  refine List.map_congr_left fun x hx => ?_
  have hok := Edit.resolve_of_order (h x.1 (List.fst_mem_of_mem_zipIdx hx)) x.2
  simp only [Function.comp_apply, Prod.map_fst, Prod.map_snd, id_eq]
  rw [hok]

/-- What was carried out is carried out again if its edits are a batch of their own. -/
theorem applyTo_carriedOutInOrder {outcome : Outcome}
    (h : applyTo b reach fields batch = .ok outcome) :
    applyTo b reach fields ((carriedOutInOrder b reach fields batch).map Replacement.edit) =
      .ok ⟨outcome.source, outcome.applied, []⟩ := by
  obtain ⟨hdecode, happlied⟩ := applyTo_eq_ok h
  have hapart := List.pairwise_reverse.2 (carriedOut_pairwise b reach fields batch)
  rw [← carriedOutInOrder] at happlied
  generalize hkept : (carriedOut b reach fields batch).reverse = kept at hdecode hapart
  generalize hrs : carriedOutInOrder b reach fields batch = rs at happlied ⊢
  have hfound : resolveAll b reach fields (rs.map Replacement.edit) =
      (renumbered rs).map fun r => (r.edit, .ok r) := by
    refine resolveAll_map_edit fun r hr => ?_
    rw [← hrs] at hr
    exact (mem_resolved_iff.1 (mem_resolved_of_mem_carriedOutInOrder hr)).2
  have hresolved : resolved ((renumbered rs).map fun r => (r.edit, .ok r)) = renumbered rs := by
    rw [resolved_eq, List.filterMap_map]
    exact List.filterMap_some
  have hunresolved : unresolved ((renumbered rs).map fun r => (r.edit, .ok r)) = [] := by
    rw [unresolved, List.filterMap_map]
    exact List.filterMap_eq_nil_iff.2 fun r _ => rfl
  -- from the end of the page the replacements come in the order in which they came before
  have hbody : (fromTheEnd (renumbered rs)).map Replacement.body = kept.map Replacement.body := by
    have hperm : kept.Perm rs := by
      rw [← hrs, ← hkept, carriedOutInOrder]
      exact (List.mergeSort_perm _ _).symm
    rw [← fromTheEnd_eq_of_perm hperm hapart]
    exact map_body_fromTheEnd (map_body_renumbered rs)
  have horder : ((fromTheEnd (renumbered rs)).mergeSort fun r s => r.order ≤ s.order) =
      renumbered rs :=
    mergeSort_order_eq_of_perm (fromTheEnd_perm _).symm (renumbered_pairwise rs)
  have hkept : keepApart none (fromTheEnd (resolved (resolveAll b reach fields
      (rs.map Replacement.edit)))) = (fromTheEnd (renumbered rs), []) := by
    rw [hfound, hresolved]
    exact keepApart_eq_self (pairwise_before_of_map_body hbody hapart) fun r _ => rfl
  rw [← spliceAll_eq_of_map_body b hbody] at hdecode
  rw [applyTo_eq_ok_of_kept hkept hdecode, horder, hfound, hunresolved, happlied,
    map_id_eq_of_map_body (map_body_renumbered rs)]
  rfl

end Batch

/-! ## What remains of a batch -/

/-- The drafts of a batch that verdicts do not drop, in the order of the batch. -/
def Verdicts.remaining (v : Verdicts) (drafts : List EditDraft) : List EditDraft :=
  (drafts.zipIdx.filter fun x => x.2 ∉ v.dropped.map Prod.fst).map Prod.fst

theorem Verdicts.Account.mem_applied_iff {b : Bytes} {reach : Nat} {fields : List Field}
    {batch : List Edit} {v : Verdicts} (h : v.Account b reach fields batch) (i : Nat) :
    i ∈ v.applied ↔ i < batch.length ∧ i ∉ v.dropped.map Prod.fst := by
  have hmem := h.once.mem_iff (a := i)
  have hnodup := h.once.nodup_iff.2 List.nodup_range
  rw [List.mem_append, List.mem_range] at hmem
  constructor
  · intro hi
    exact ⟨hmem.1 (.inl hi), fun hdropped => (List.nodup_append.1 hnodup).2.2 i hi i hdropped rfl⟩
  · rintro ⟨hlt, hdropped⟩
    exact (hmem.2 hlt).resolve_right hdropped

section Remaining

variable {b : Bytes} {reach : Nat} {fields : List Field} {drafts : List EditDraft}

/-- The drafts that remain stand at the places of the applied edits. -/
theorem Verdicts.Account.remaining_places {v : Verdicts}
    (account : v.Account b reach fields (drafts.map EditDraft.toEdit)) :
    (drafts.zipIdx.filter fun x => x.2 ∉ v.dropped.map Prod.fst).map Prod.snd = v.applied := by
  have hsorted : ((drafts.zipIdx.filter fun x => x.2 ∉ v.dropped.map Prod.fst).map
      Prod.snd).Pairwise (· < ·) :=
    List.pairwise_map.2 ((pairwise_snd_zipIdx drafts).sublist List.filter_sublist)
  -- both lists go up, so it is enough that they have the same members
  refine hsorted.eq_of_mem_iff account.applied_in_order fun i => ?_
  rw [account.mem_applied_iff, List.mem_map, List.length_map]
  constructor
  · rintro ⟨⟨d, order⟩, hx, rfl⟩
    obtain ⟨hzip, hdropped⟩ := List.mem_filter.1 hx
    have hplace := List.mem_zipIdx_iff_getElem?.1 hzip
    exact ⟨(List.getElem?_eq_some_iff.1 hplace).1, of_decide_eq_true hdropped⟩
  · rintro ⟨hlt, hdropped⟩
    refine ⟨(drafts[i], i), List.mem_filter.2 ⟨?_, decide_eq_true hdropped⟩, rfl⟩
    exact List.mem_zipIdx_iff_getElem?.2 (List.getElem?_eq_getElem hlt)

/-- The drafts that remain are those of the edits that were carried out. -/
theorem map_toEdit_remaining (b : Bytes) (reach : Nat) (fields : List Field)
    (drafts : List EditDraft) :
    ((verdicts b reach fields (drafts.map EditDraft.toEdit)).remaining drafts).map
      EditDraft.toEdit =
        (carriedOutInOrder b reach fields (drafts.map EditDraft.toEdit)).map
          Replacement.edit := by
  have hplaces :=
    (account_verdicts b reach fields (drafts.map EditDraft.toEdit)).remaining_places
  rw [Verdicts.remaining]
  generalize hleft : (drafts.zipIdx.filter fun x => x.2 ∉
    (verdicts b reach fields (drafts.map EditDraft.toEdit)).dropped.map Prod.fst) = left
    at hplaces ⊢
  refine List.map_injective_iff.2 (fun d e => Option.some.inj) ?_
  calc ((left.map Prod.fst).map EditDraft.toEdit).map some
    _ = (left.map Prod.snd).map fun i => (drafts.map EditDraft.toEdit)[i]? := by
      rw [List.map_map, List.map_map, List.map_map]
      refine List.map_congr_left fun x hx => ?_
      rw [← hleft] at hx
      have hplace := List.mem_zipIdx_iff_getElem?.1 (List.mem_filter.1 hx).1
      rw [Function.comp_apply, Function.comp_apply, Function.comp_apply, List.getElem?_map,
        hplace]
      rfl
    _ = ((carriedOutInOrder b reach fields (drafts.map EditDraft.toEdit)).map
        Replacement.edit).map some := by
      rw [hplaces, verdicts, List.map_map, List.map_map]
      refine List.map_congr_left fun r hr => ?_
      exact (mem_resolved_iff.1 (mem_resolved_of_mem_carriedOutInOrder hr)).1

theorem mem_of_mem_remaining {v : Verdicts} {d : EditDraft} (h : d ∈ v.remaining drafts) :
    d ∈ drafts := by
  obtain ⟨x, hx, rfl⟩ := List.mem_map.1 h
  exact List.fst_mem_of_mem_zipIdx (List.mem_filter.1 hx).1

/-- If all edits of a batch take bytes, none of its drafts is dropped for taking none. -/
theorem unresolvedDrafts_eq_nil
    (h : unresolved (resolveAll b reach fields (drafts.map EditDraft.toEdit)) = []) :
    unresolvedDrafts drafts (resolveAll b reach fields (drafts.map EditDraft.toEdit)) = [] := by
  have hlength := length_unresolvedDrafts b reach fields drafts
  rw [h] at hlength
  exact List.length_eq_zero_iff.1 hlength

end Remaining

/-- Without what it drops a batch does the same: a run of the drafts that remain comes to the same
page, applies the same drafts in the same order, and drops nothing. -/
theorem applyDrafts_remaining {bounds : Bounds} {source : Text} {drafts : List EditDraft}
    {outcome : DraftOutcome} (h : applyDrafts bounds source drafts = .ok outcome) :
    ∃ fields, Field.ofPageWithin bounds.openTag source = .ok fields ∧
      ∃ v : Verdicts, outcome.Tells drafts v ∧
        v.Account source.bytes (bounds.reach source.bytes.length).search fields
          (drafts.map EditDraft.toEdit) ∧
        applyDrafts bounds source (v.remaining drafts) =
          .ok ⟨outcome.source, outcome.applied, []⟩ := by
  obtain ⟨fields, hfields, hfault, hrun⟩ := exists_of_applyDrafts h
  refine ⟨fields, hfields, _, tells_verdicts hfault hrun, account_verdicts _ _ _ _, ?_⟩
  refine applyDrafts_eq_ok hfields (fun d hd => hfault d (mem_of_mem_remaining hd)) ?_
  obtain ⟨edited, hedited, rfl⟩ := exists_of_applyDraftsTo hrun
  have hagain := applyTo_carriedOutInOrder hedited
  rw [← map_toEdit_remaining] at hagain
  -- the run of the edits drops nothing, so the run of the drafts does not either
  obtain ⟨hunresolved, hoverlapping⟩ := List.append_eq_nil_iff.1 (dropped_of_applyTo hagain).symm
  rw [applyDraftsTo_eq_ok hagain, unresolvedDrafts_eq_nil hunresolved,
    List.map_eq_nil_iff.1 hoverlapping]
  rfl

/-- Of the crowd two drafts remain, and both are applied again. -/
theorem applyDrafts_remaining_of_crowd : ∃ (outcome : DraftOutcome) (v : Verdicts),
    applyDrafts crowdedBounds crowdedPage crowd = .ok outcome ∧ outcome.Tells crowd v ∧
      outcome.source = text "<p>ay</p><p>z</p>" ∧
      outcome.applied = [text "text:3", text "text:12"] ∧ outcome.dropped.length = 5 ∧
      applyDrafts crowdedBounds crowdedPage (v.remaining crowd) =
        .ok ⟨outcome.source, outcome.applied, []⟩ := by
  obtain ⟨outcome, happly, hsource, happlied, hdropped⟩ := exists_run_of_crowd
  obtain ⟨fields, -, v, htells, -, hagain⟩ := applyDrafts_remaining happly
  have hlength := congrArg List.length hdropped
  rw [List.length_map] at hlength
  exact ⟨outcome, v, happly, htells, hsource, happlied, hlength, hagain⟩

end VisibleText
