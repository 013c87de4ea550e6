import VisibleText.Proofs.Confinement

/-!
# Texts and their pieces

A text that is cut at a separator is what its pieces are when they are joined again, and pieces
without the separator are what their joined text is cut into. What follows a separator is seen in
the pieces as well (`cons_isInfix_iff`).
-/

set_option autoImplicit false

namespace VisibleText.Text

variable {separator : CodePoint}

@[simp] theorem join_singleton (separator t : Text) : join separator [t] = t := by simp [join]

theorem join_cons_cons (separator t u : Text) (ts : List Text) :
    join separator (t :: u :: ts) = t ++ separator ++ join separator (u :: ts) := by
  simp [join]

theorem join_splitOn (separator : CodePoint) (t : Text) :
    join [separator] (t.splitOn separator) = t := by
  induction t with
  | nil => rfl
  | cons c t ih =>
    obtain ⟨piece, pieces, hpieces⟩ := List.exists_cons_of_ne_nil (splitOn_ne_nil separator t)
    by_cases hc : c = separator
    · rw [hc, splitOn_cons_self, hpieces, join_cons_cons, ← hpieces, ih]
      rfl
    · obtain ⟨piece', pieces', hpieces', hsplit⟩ := splitOn_cons_of_ne hc t
      obtain ⟨rfl, rfl⟩ := List.cons.inj (hpieces.symm.trans hpieces')
      rw [hpieces] at ih
      rw [hsplit]
      cases pieces with
      | nil => rw [join_singleton] at ih ⊢; rw [ih]
      | cons next pieces =>
        rw [join_cons_cons] at ih ⊢
        rw [List.cons_append, List.cons_append, ih]

theorem splitOn_of_not_mem {t : Text} (h : separator ∉ t) : t.splitOn separator = [t] := by
  induction t with
  | nil => rfl
  | cons c t ih =>
    rw [List.mem_cons, not_or] at h
    rw [splitOn, if_neg (Ne.symm h.1), ih h.2]

theorem splitOn_join {ts : List Text} (ts_ne : ts ≠ []) (h : ∀ t ∈ ts, separator ∉ t) :
    (join [separator] ts).splitOn separator = ts := by
  induction ts with
  | nil => exact absurd rfl ts_ne
  | cons t ts ih =>
    obtain ⟨ht, hts⟩ := List.forall_mem_cons.1 h
    cases ts with
    | nil => rw [join_singleton, splitOn_of_not_mem ht]
    | cons u ts =>
      rw [join_cons_cons, List.append_assoc, List.singleton_append, splitOn_append_cons,
        splitOn_of_not_mem ht, ih (List.cons_ne_nil u ts) hts]
      rfl

/-- A text starts with a mark without separators just if its first piece does. -/
theorem isPrefix_iff_of_splitOn {mark t piece : Text} {pieces : List Text}
    (hmark : separator ∉ mark) (h : t.splitOn separator = piece :: pieces) :
    mark <+: t ↔ mark <+: piece := by
  constructor
  · rintro ⟨rest, rfl⟩
    induction mark generalizing piece with
    | nil => exact List.nil_prefix
    | cons m mark ih =>
      rw [List.mem_cons, not_or] at hmark
      obtain ⟨first, more, hsplit, hcons⟩ :=
        splitOn_cons_of_ne (Ne.symm hmark.1) (mark ++ rest)
      rw [List.cons_append, hcons] at h
      obtain ⟨rfl, rfl⟩ := List.cons.inj h
      exact List.cons_prefix_cons.2 ⟨rfl, ih hmark.2 hsplit⟩
  · exact fun hprefix => hprefix.trans ((isInfix_of_mem_splitOn t).1 piece pieces h)

/-- A mark stands behind a separator just if a piece other than the first one starts with it. -/
theorem cons_isInfix_iff {mark t : Text} (hmark : separator ∉ mark) :
    separator :: mark <:+: t ↔ ∃ piece ∈ (t.splitOn separator).tail, mark <+: piece := by
  induction t with
  | nil => simp [splitOn]
  | cons c t ih =>
    rw [List.infix_cons_iff, ih, List.cons_prefix_cons]
    by_cases hc : c = separator
    · subst hc
      obtain ⟨piece, pieces, hpieces⟩ := List.exists_cons_of_ne_nil (splitOn_ne_nil c t)
      rw [splitOn_cons_self, List.tail_cons, hpieces, List.tail_cons,
        isPrefix_iff_of_splitOn hmark hpieces]
      simp
    · obtain ⟨piece, pieces, hpieces, hsplit⟩ := splitOn_cons_of_ne hc t
      rw [hpieces, hsplit]
      simp [Ne.symm hc]

/-- A text is cut at the first occurrence of a mark. -/
theorem length_le_of_cutAt? {mark t front rest front' rest' : Text}
    (h : cutAt? mark t = some (front, rest)) (h' : t = front' ++ mark ++ rest') :
    front.length ≤ front'.length := by
  induction t generalizing front front' with
  | nil =>
    have hfront := (cutAt?_eq_append h).symm
    simp only [List.append_eq_nil_iff] at hfront
    rw [hfront.1.1]
    exact Nat.zero_le _
  | cons c t ih =>
    rw [cutAt?] at h
    split at h
    · cases h
      exact Nat.zero_le _
    · next hnone =>
      split at h
      · next found behind hfound =>
        cases h
        cases front' with
        | nil =>
          rw [h', List.nil_append, after?, List.isPrefixOf?_eq_some_iff_append_eq.2 rfl] at hnone
          cases hnone
        | cons d front' =>
          rw [List.cons_append, List.cons_append, List.cons.injEq] at h'
          exact Nat.succ_le_succ (ih hfound h'.2)
      · cases h

end VisibleText.Text
