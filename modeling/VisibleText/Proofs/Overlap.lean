import VisibleText.Proofs.Application

/-!
# Replacements that get in each other's way

Replacements are looked at from the highest start to the lowest, and at one place in the order
of the batch (`Replacement.Precedes`): sorting by start keeps the order of what starts at one
place (`fromTheEnd_pairwise_precedes`).

Only the start of the last replacement that was kept is remembered. That is enough to know all
that were kept: a replacement is left out exactly if it gets in the way of one that was kept
before it (`mem_others_iff`), since the starts only go down. What is not kept is left out, so none
is lost (`keepApart_perm`).
-/

set_option autoImplicit false

namespace VisibleText

namespace Replacement

/-- A replacement is looked at before another one: it starts later, or at the same place and its
edit comes first in the batch. -/
def Precedes (r s : Replacement) : Prop :=
  s.range.start < r.range.start ∨ s.range.start = r.range.start ∧ r.order < s.order

instance (r s : Replacement) : Decidable (r.Precedes s) :=
  inferInstanceAs (Decidable (_ ∨ _ ∧ _))

variable {r s : Replacement}

theorem Precedes.start_le (h : r.Precedes s) : s.range.start ≤ r.range.start := by
  rcases h with h | ⟨h, -⟩
  · exact Nat.le_of_lt h
  · exact Nat.le_of_eq h

theorem Precedes.asymm (h : r.Precedes s) : ¬ s.Precedes r := by
  intro h'
  have hle := h.start_le
  have hle' := h'.start_le
  rcases h with h | ⟨-, h⟩
  · omega
  · rcases h' with h' | ⟨-, h'⟩ <;> omega

theorem not_precedes_self (r : Replacement) : ¬ r.Precedes r :=
  fun h => h.asymm h

theorem reaches_iff {bound : Nat} :
    r.reaches bound = true ↔ bound = r.range.start ∨ bound < r.range.stop := by
  simp only [reaches, Bool.or_eq_true, decide_eq_true_eq]
  omega

/-- What gets in the way of a place gets in the way of every place before it, down to its own
start. -/
theorem reaches_of_le {bound lower : Nat} (h : r.reaches bound = true) (hle : lower ≤ bound)
    (hstart : r.range.start ≤ lower) : r.reaches lower = true := by
  rw [reaches_iff] at h ⊢
  omega

end Replacement

/-- Sorting by start keeps the order of the batch where replacements start at one place. -/
theorem fromTheEnd_pairwise_precedes {rs : List Replacement}
    (h : rs.Pairwise fun r s => r.order < s.order) :
    (fromTheEnd rs).Pairwise Replacement.Precedes := by
  have hstable := mergeSort_pairwise_stable
    (by simp only [decide_eq_true_eq]; omega : ∀ a b c : Replacement,
      decide (b.range.start ≤ a.range.start) = true →
        decide (c.range.start ≤ b.range.start) = true →
          decide (c.range.start ≤ a.range.start) = true)
    (by simp only [Bool.or_eq_true, decide_eq_true_eq]; omega) h
  refine hstable.imp fun {r s} hrs => ?_
  rcases Nat.lt_or_eq_of_le (of_decide_eq_true hrs.1) with hlt | hstart
  · exact .inl hlt
  · exact .inr ⟨hstart, hrs.2 (decide_eq_true (Nat.le_of_eq hstart.symm))⟩

/-- There is one list in the order in which replacements are looked at. -/
theorem fromTheEnd_eq_of_precedes {rs sorted : List Replacement} (hperm : sorted.Perm rs)
    (horder : rs.Pairwise fun r s => r.order < s.order)
    (hsorted : sorted.Pairwise Replacement.Precedes) : fromTheEnd rs = sorted := by
  exact ((fromTheEnd_perm rs).trans hperm.symm).eq_of_pairwise
    (fun r s _ _ hrs hsr => absurd hsr hrs.asymm) (fromTheEnd_pairwise_precedes horder) hsorted

/-! ## What is left out -/

/-- Every replacement is kept or left out, and none is both. -/
theorem keepApart_perm (bound : Option Nat) (rs : List Replacement) :
    ((keepApart bound rs).1 ++ (keepApart bound rs).2).Perm rs := by
  induction rs generalizing bound with
  | nil => exact .nil
  | cons r rs ih =>
    unfold keepApart
    split
    · exact List.perm_middle.trans ((ih bound).cons r)
    · exact (ih (some r.range.start)).cons r

theorem keepApart_others_sublist (bound : Option Nat) (rs : List Replacement) :
    (keepApart bound rs).2.Sublist rs := by
  induction rs generalizing bound with
  | nil => exact .slnil
  | cons r rs ih =>
    unfold keepApart
    split
    · exact (ih bound).cons_cons r
    · exact (ih (some r.range.start)).cons r

/-- What is left out gets in the way of the bound, or of something that was kept before it. -/
theorem mem_others_iff_of_bound {rs : List Replacement} {bound : Option Nat} {r : Replacement}
    (hrs : rs.Pairwise Replacement.Precedes)
    (hbound : ∀ n, bound = some n → ∀ s ∈ rs, s.range.start ≤ n) :
    r ∈ (keepApart bound rs).2 ↔ r ∈ rs ∧ (bound.any r.reaches = true ∨
      ∃ s ∈ (keepApart bound rs).1, s.Precedes r ∧ r.reaches s.range.start = true) := by
  induction rs generalizing bound with
  | nil => simp [keepApart]
  | cons q rs ih =>
    obtain ⟨hq, hrs⟩ := List.pairwise_cons.1 hrs
    unfold keepApart
    split
    · next hreaches =>
      have ih := ih hrs fun n hn s hs => hbound n hn s (.tail _ hs)
      simp only [List.mem_cons, ih]
      constructor
      · rintro (rfl | ⟨hr, hway⟩)
        · exact ⟨.inl rfl, .inl hreaches⟩
        · exact ⟨.inr hr, hway⟩
      · rintro ⟨rfl | hr, hway⟩
        · exact .inl rfl
        · exact .inr ⟨hr, hway⟩
    · next hkept =>
      have hbelow : ∀ n, some q.range.start = some n → ∀ s ∈ rs, s.range.start ≤ n := by
        rintro n ⟨⟩ s hs
        exact (hq s hs).start_le
      have ih := ih hrs hbelow
      simp only [List.mem_cons, ih, Option.any_some]
      constructor
      · rintro ⟨hr, hreaches | ⟨s, hs, hway⟩⟩
        · exact ⟨.inr hr, .inr ⟨q, .inl rfl, hq r hr, hreaches⟩⟩
        · exact ⟨.inr hr, .inr ⟨s, .inr hs, hway⟩⟩
      · rintro ⟨rfl | hr, hway⟩
        · -- what is kept got in the way of nothing that was kept before it
          exfalso
          rcases hway with hreaches | ⟨s, rfl | hs, hprecedes, -⟩
          · exact hkept hreaches
          · exact s.not_precedes_self hprecedes
          · exact (hq s ((keepApart_sublist _ rs).subset hs)).asymm hprecedes
        · refine ⟨hr, ?_⟩
          rcases hway with hreaches | ⟨s, rfl | hs, hway⟩
          · -- the bound goes down to the start of what is kept
            obtain ⟨n, rfl, hreaches⟩ := (Option.any_eq_true _ _).1 hreaches
            exact .inl (Replacement.reaches_of_le hreaches (hbound n rfl q (.head _))
              (hq r hr).start_le)
          · exact .inl hway.2
          · exact .inr ⟨s, hs, hway⟩

/-- Of replacements in the order in which they are looked at, those are left out that get in the
way of one that was kept before them. -/
theorem mem_others_iff {rs : List Replacement} {r : Replacement}
    (hrs : rs.Pairwise Replacement.Precedes) :
    r ∈ (keepApart none rs).2 ↔ r ∈ rs ∧
      ∃ s ∈ (keepApart none rs).1, s.Precedes r ∧ r.reaches s.range.start = true := by
  have hbound : ∀ n, (none : Option Nat) = some n → ∀ s ∈ rs, s.range.start ≤ n :=
    fun n hn => by cases hn
  rw [mem_others_iff_of_bound hrs hbound]
  simp only [Option.any_none, Bool.false_eq_true, false_or]

end VisibleText
