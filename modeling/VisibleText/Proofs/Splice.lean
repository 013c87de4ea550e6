import VisibleText.Proofs.Resolution

/-!
# Splices from the end of a page

Replacements that are kept apart are spliced into the page one after the other, from its end
to its start, and every splice moves what lies behind it. What comes out is said here without
an order of steps: the bytes of the page with every range replaced (`rebuilt`), because a
splice leaves the bytes before it where they were (`spliceAll_eq_rebuilt`).

If the bytes that come out are text, then every range ended between two characters: a
replacement that ends within a character leaves bytes behind that continue nothing
(`boundary_of_undamaged_rebuilt`).
-/

set_option autoImplicit false

namespace VisibleText

/-! ## Replacements that are kept apart -/

/-- A replacement starts before another one, and ends before or where that one starts. -/
def Replacement.Before (r s : Replacement) : Prop :=
  r.range.start < s.range.start ∧ r.range.stop ≤ s.range.start

theorem Replacement.start_le_stop (r : Replacement) : r.range.start ≤ r.range.stop :=
  Nat.le_add_right _ _

theorem before_of_not_reaches {r s : Replacement} (h : s.reaches r.range.start = false) :
    s.Before r := by
  have hs := s.start_le_stop
  simp only [Replacement.reaches, Bool.or_eq_false_iff, decide_eq_false_iff_not] at h
  exact ⟨by omega, by omega⟩

theorem keepApart_sublist (bound : Option Nat) (rs : List Replacement) :
    (keepApart bound rs).1.Sublist rs := by
  induction rs generalizing bound with
  | nil => exact .slnil
  | cons r rs ih =>
    unfold keepApart
    split
    · exact (ih bound).cons r
    · exact (ih (some r.range.start)).cons_cons r

/-- Nothing that is kept takes bytes at or behind the bound. -/
theorem not_reaches_of_mem_keepApart {rs : List Replacement} {s : Replacement} {bound : Nat}
    (h : s ∈ (keepApart (some bound) rs).1) : s.reaches bound = false := by
  induction rs generalizing bound with
  | nil => cases h
  | cons r rs ih =>
    unfold keepApart at h
    split at h
    · exact ih h
    · next hr =>
      rcases List.mem_cons.1 h with rfl | h
      · exact Bool.eq_false_iff.2 hr
      · -- the bound only goes down, to the start of what was kept last
        obtain ⟨hstart, hstop⟩ := before_of_not_reaches (ih h)
        have hle := r.start_le_stop
        simp only [Option.any_some, Replacement.reaches, Bool.or_eq_true, decide_eq_true_eq,
          not_or, Nat.not_lt] at hr
        simp only [Replacement.reaches, Bool.or_eq_false_iff, decide_eq_false_iff_not]
        exact ⟨by omega, by omega⟩

theorem keepApart_pairwise (bound : Option Nat) (rs : List Replacement) :
    (keepApart bound rs).1.Pairwise fun r s => s.Before r := by
  induction rs generalizing bound with
  | nil => exact .nil
  | cons r rs ih =>
    unfold keepApart
    split
    · exact ih bound
    · refine List.pairwise_cons.2 ⟨fun s hs => ?_, ih _⟩
      exact before_of_not_reaches (not_reaches_of_mem_keepApart hs)

/-! ## The bytes with all ranges replaced -/

/-- The bytes from a place on with the ranges of replacements replaced, each by what is
written there; the replacements are given from the first to the last. -/
def rebuilt (b : Bytes) (place : Nat) : List Replacement → Bytes
  | [] => b.drop place
  | r :: rs =>
    b.slice ⟨place, r.range.start - place⟩ ++ r.written ++ rebuilt b r.range.stop rs

theorem slice_take {b : Bytes} {n : Nat} {range : ByteRange} (h : range.stop ≤ n) :
    Bytes.slice (b.take n) range = b.slice range := by
  rw [ByteRange.stop] at h
  rw [Bytes.slice, Bytes.slice, List.drop_take, List.take_take, Nat.min_eq_left (by omega)]

/-- The last replacement leaves what comes before it as it is. -/
theorem rebuilt_concat {b : Bytes} {place : Nat} {rs : List Replacement} {r : Replacement}
    (hplace : ∀ s ∈ rs, place ≤ s.range.start) (hrs : rs.Pairwise Replacement.Before)
    (hr : ∀ s ∈ rs, s.Before r) :
    rebuilt b place (rs ++ [r]) =
      rebuilt (b.take r.range.start) place rs ++ r.written ++ b.drop r.range.stop := by
  induction rs generalizing place with
  | nil => rw [List.nil_append, rebuilt, rebuilt, rebuilt, List.drop_take, Bytes.slice]
  | cons s rs ih =>
    obtain ⟨hs, hrs⟩ := List.pairwise_cons.1 hrs
    have hstart := (hr s (.head _)).1
    have hsplace := hplace s (.head _)
    have hslice : Bytes.slice (b.take r.range.start) ⟨place, s.range.start - place⟩ =
        b.slice ⟨place, s.range.start - place⟩ := by
      refine slice_take ?_
      show place + (s.range.start - place) ≤ r.range.start
      omega
    rw [List.cons_append, rebuilt, rebuilt, hslice,
      ih (fun q hq => (hs q hq).2) hrs fun q hq => hr q (.tail _ hq)]
    simp only [List.append_assoc]

/-- Splices from the end on leave each other's bytes alone, and what follows them. -/
theorem spliceAll_append {b : Bytes} {kept : List Replacement} (behind : Bytes)
    (hkept : kept.Pairwise fun r s => s.Before r) (hstop : ∀ r ∈ kept, r.range.stop ≤ b.length) :
    spliceAll (b ++ behind) kept = rebuilt b 0 kept.reverse ++ behind := by
  induction kept generalizing b behind with
  | nil => rfl
  | cons r kept ih =>
    obtain ⟨hr, hkept⟩ := List.pairwise_cons.1 hkept
    have hlength := hstop r (.head _)
    have hle := r.start_le_stop
    have hsplice : (b ++ behind).splice r.range r.written =
        b.take r.range.start ++ (r.written ++ b.drop r.range.stop ++ behind) := by
      rw [Bytes.splice, List.take_append_of_le_length (by omega),
        List.drop_append_of_le_length hlength]
      simp only [List.append_assoc]
    have htake : (b.take r.range.start).length = r.range.start := by
      rw [List.length_take]
      omega
    -- what the first splice changes lies behind all that the others take
    show spliceAll ((b ++ behind).splice r.range r.written) kept = _
    rw [hsplice, ih _ hkept fun s hs => by rw [htake]; exact (hr s hs).2, List.reverse_cons,
      rebuilt_concat (fun s _ => Nat.zero_le _) (List.pairwise_reverse.2 hkept)
        fun s hs => hr s (List.mem_reverse.1 hs)]
    simp only [List.append_assoc]

theorem spliceAll_eq_rebuilt {b : Bytes} {kept : List Replacement}
    (hkept : kept.Pairwise fun r s => s.Before r) (hstop : ∀ r ∈ kept, r.range.stop ≤ b.length) :
    spliceAll b kept = rebuilt b 0 kept.reverse := by
  have key := spliceAll_append [] hkept hstop
  rwa [List.append_nil, List.append_nil] at key

/-! ## What comes out is text -/

/-- A replacement starts at a boundary of a page, ends within the page, and writes text. -/
structure Replacement.WritesText (page : Text) (r : Replacement) : Prop where
  boundary : page.IsBoundary r.range.start
  stop_le : r.range.stop ≤ page.width
  exists_written : ∃ w : Text, w.hasSurrogate = false ∧ r.written = w.bytes

section Text

variable {page : Text} {place n : Nat} {rs : List Replacement}

theorem exists_of_undamaged_append {t text : Text} {b : Bytes} (ht : t.hasSurrogate = false)
    (h : undamaged n (decodeFrom none (t.bytes ++ b)) = .ok text) :
    ∃ rest, undamaged (n + t.width) (decodeFrom none b) = .ok rest ∧ text = t ++ rest := by
  rw [undamaged_bytes_append ht] at h
  obtain ⟨rest, hrest, rfl⟩ := Markup.exists_of_map_eq_ok h
  exact ⟨rest, hrest, rfl⟩

/-- From a place within a character on, what comes out starts within the character. -/
theorem rebuilt_of_drop {b rest : Bytes} {x : UInt8} (hdrop : b.drop place = x :: rest)
    (hrs : ∀ r ∈ rs, place < r.range.start) : ∃ rest', rebuilt b place rs = x :: rest' := by
  cases rs with
  | nil => exact ⟨rest, hdrop⟩
  | cons r rs =>
    obtain ⟨k, hk⟩ := Nat.exists_eq_add_of_lt (hrs r (.head _))
    have hlength : r.range.start - place = k + 1 := by omega
    rw [rebuilt, Bytes.slice, hdrop, hlength, List.take_succ_cons]
    exact ⟨_, rfl⟩

/-- From a place within a character on, what comes out is no text: the rest of the character
continues nothing. -/
theorem undamaged_rebuilt_within {x : UInt8} {b : Bytes} (hdrop : page.bytes.drop place = x :: b)
    (hx : isContinuation x = true) (hstart : ∀ r ∈ rs, place ≤ r.range.start)
    (hboundary : ∀ r ∈ rs, page.IsBoundary r.range.start) (n : Nat) :
    undamaged n (decodeFrom none (rebuilt page.bytes place rs)) = .error ⟨n, [x], .start⟩ := by
  have hbehind : ∀ r ∈ rs, place < r.range.start := by
    intro r hr
    refine Nat.lt_of_le_of_ne (hstart r hr) fun heq => ?_
    rw [heq] at hdrop
    rw [Text.not_continuation_of_drop (hboundary r hr) hdrop] at hx
    cases hx
  obtain ⟨rest, hrest⟩ := rebuilt_of_drop hdrop hbehind
  rw [hrest, undamaged_continuation hx]

/-- If the page with its ranges replaced reads as text from a boundary on, then all ranges end
at boundaries, and the text has these bytes. -/
theorem boundary_of_undamaged_rebuilt {text : Text} (hpage : page.hasSurrogate = false)
    (hplace : page.IsBoundary place) (hstart : ∀ r ∈ rs, place ≤ r.range.start)
    (hrs : rs.Pairwise Replacement.Before) (hwrites : ∀ r ∈ rs, r.WritesText page)
    (h : undamaged n (decodeFrom none (rebuilt page.bytes place rs)) = .ok text) :
    (∀ r ∈ rs, page.IsBoundary r.range.stop) ∧ text.hasSurrogate = false ∧
      text.bytes = rebuilt page.bytes place rs := by
  induction rs generalizing place n text with
  | nil =>
    obtain ⟨u, v, rfl, rfl⟩ := hplace
    have hv := Text.hasSurrogate_of_subset (List.subset_append_right u v) hpage
    rw [rebuilt, Text.drop_bytes_append, ← List.append_nil v.bytes] at h
    obtain ⟨rest, hrest, rfl⟩ := exists_of_undamaged_append hv h
    cases hrest
    rw [rebuilt, Text.drop_bytes_append, List.append_nil]
    exact ⟨fun r hr => (nomatch hr), hv, rfl⟩
  | cons r rs ih =>
    obtain ⟨hr, hrs⟩ := List.pairwise_cons.1 hrs
    obtain ⟨hboundary, hstop, w, hw, hwritten⟩ := hwrites r (.head _)
    have hwrites' := fun s hs => hwrites s (.tail r hs)
    obtain ⟨s, hsub, hslice⟩ := Text.exists_slice_eq hplace hboundary (hstart r (.head _))
    have hs := Text.hasSurrogate_of_subset hsub hpage
    -- the bytes before the range and those that are written are text, so reading goes on
    rw [rebuilt, hslice, hwritten, List.append_assoc] at h
    obtain ⟨behind, hbehind, rfl⟩ := exists_of_undamaged_append hs h
    obtain ⟨rest, hread, rfl⟩ := exists_of_undamaged_append hw hbehind
    rcases Text.isBoundary_or_continuation hstop with hend | ⟨x, b, hdrop, hx⟩
    · obtain ⟨hall, hrest, hbytes⟩ := ih hend (fun s hs => (hr s hs).2) hrs hwrites' hread
      refine ⟨fun s hs => ?_, ?_, ?_⟩
      · rcases List.mem_cons.1 hs with rfl | hs
        · exact hend
        · exact hall s hs
      · rw [Text.hasSurrogate_append, Text.hasSurrogate_append, hs, hw, hrest]
        rfl
      · rw [Text.bytes_append, Text.bytes_append, hbytes, rebuilt, hslice, hwritten,
          List.append_assoc]
    · rw [undamaged_rebuilt_within hdrop hx (fun s hs => (hr s hs).2)
        fun s hs => (hwrites' s hs).boundary] at hread
      cases hread

end Text

end VisibleText
