import VisibleText.Proofs.FieldPlace

/-!
# The bytes that an edit takes

An edit of a field takes bytes in one of three ways (`Edit.Takes`): an insertion takes none,
at an empty field; otherwise the edit takes the bytes at its field if they read as its old
value, and else the first bytes near the field that are its old value.

Reading at the field is lossy, so what reads as the old value need not be its bytes: a
character that is cut off at the end reads as U+FFFD. Such bytes end within a character, and
this is the only way to take other bytes than those of the old value (`Replacement.Fits`).
-/

set_option autoImplicit false

namespace VisibleText

/-! ## Searching in bytes -/

namespace Bytes

/-- A needle stands in some bytes where it is found, and nowhere before. -/
theorem find?_spec {needle b : Bytes} {n : Nat} (h : find? needle b = some n) :
    needle <+: b.drop n ∧ ∀ m < n, ¬ needle <+: b.drop m := by
  induction b generalizing n with
  | nil =>
    unfold find? at h
    split at h
    · next hempty =>
      cases h
      rw [List.isEmpty_iff.1 hempty]
      exact ⟨List.nil_prefix, fun m hm => absurd hm (Nat.not_lt_zero m)⟩
    · cases h
  | cons x b ih =>
    unfold find? at h
    split at h
    · next hprefix =>
      cases h
      exact ⟨List.isPrefixOf_iff_prefix.1 hprefix, fun m hm => absurd hm (Nat.not_lt_zero m)⟩
    · next hprefix =>
      obtain ⟨n, hn, rfl⟩ := Option.map_eq_some_iff.1 h
      obtain ⟨stands, first⟩ := ih hn
      refine ⟨stands, fun m hm => ?_⟩
      cases m with
      | zero => exact fun h => hprefix (List.isPrefixOf_iff_prefix.2 h)
      | succ m => exact first m (Nat.lt_of_succ_lt_succ hm)

/-- A place is the first one near a given place at which a needle stands: the needle starts
at most `reach` bytes before the given place, and at most as many behind it. -/
structure FirstNear (b : Bytes) (reach start : Nat) (needle : Bytes) (found : Nat) : Prop where
  low : start - reach ≤ found
  high : found ≤ start + reach
  stands : needle <+: b.drop found
  first : ∀ m, start - reach ≤ m → m < found → ¬ needle <+: b.drop m

theorem firstNear_of_findNear? {b needle : Bytes} {reach start found : Nat}
    (needle_ne : needle ≠ []) (h : b.findNear? reach start needle = some found) :
    b.FirstNear reach start needle found := by
  simp only [findNear?] at h
  split at h
  · cases h
  · obtain ⟨n, hn, rfl⟩ := Option.map_eq_some_iff.1 h
    obtain ⟨stands, first⟩ := find?_spec hn
    have hpos := List.length_pos_iff.2 needle_ne
    simp only [slice, List.drop_take, List.drop_drop, List.prefix_take_iff] at stands first
    obtain ⟨stands, hlength⟩ := stands
    -- an earlier occurrence would end within the bytes that are searched as well
    refine ⟨Nat.le_add_right _ _, by omega, stands, fun m hlow hm hstands => ?_⟩
    refine first (m - (start - reach)) (by omega) ⟨?_, by omega⟩
    rwa [Nat.add_sub_cancel' hlow]

theorem slice_of_prefix_drop {b needle : Bytes} {place : Nat} (h : needle <+: b.drop place) :
    b.slice ⟨place, needle.length⟩ = needle := by
  rw [slice]
  exact (List.prefix_iff_eq_take.1 h).symm

end Bytes

/-! ## Ways of taking bytes -/

/-- The bytes that an edit of a field takes. -/
inductive Edit.Takes (b : Bytes) (reach : Nat) (f : Field) (e : Edit) : ByteRange → Prop
  /-- no bytes, at an empty field -/
  | insertion (old_eq : e.oldValue = []) (empty : f.range.length = 0) :
      Takes b reach f e ⟨f.range.start, 0⟩
  /-- bytes from the start of the field on that read as the old value -/
  | inPlace (old_ne : e.oldValue ≠ [])
      (reads : b.matchesAt f.range.start e.oldValue = true) :
      Takes b reach f e ⟨f.range.start, e.oldValue.width⟩
  /-- the first bytes near the field that are the old value, where those at the field do not
  read as it -/
  | moved {start : Nat} (old_ne : e.oldValue ≠ [])
      (misses : b.matchesAt f.range.start e.oldValue = false)
      (near : b.FirstNear reach f.range.start e.oldValue.bytes start) :
      Takes b reach f e ⟨start, e.oldValue.width⟩

theorem Text.bytes_ne_nil {t : Text} (h : t ≠ []) : t.bytes ≠ [] := by
  have hwidth := Text.width_pos h
  rw [← Text.length_bytes] at hwidth
  exact List.ne_nil_of_length_pos hwidth

theorem takes_of_range {b : Bytes} {reach : Nat} {f : Field} {e : Edit} {range : ByteRange}
    (h : e.range b reach f = .ok range) : e.Takes b reach f range := by
  unfold Edit.range Edit.isInsertion at h
  split at h
  · next hinsertion =>
    split at h
    · next hempty =>
      cases h
      exact .insertion (List.isEmpty_iff.1 hinsertion) hempty
    · cases h
  · next hinsertion =>
    have old_ne : e.oldValue ≠ [] := fun hnil => hinsertion (List.isEmpty_iff.2 hnil)
    simp only at h
    split at h
    · next hreads =>
      cases h
      exact .inPlace old_ne hreads
    · next hmisses =>
      split at h
      · next start hfound =>
        cases h
        exact .moved old_ne (Bool.eq_false_iff.2 hmisses)
          (Bytes.firstNear_of_findNear? (Text.bytes_ne_nil old_ne) hfound)
      · cases h

/-! ## The bytes of the old value -/

/-- A range of a page that holds some text if it ends at a boundary of the page. -/
structure Holding (page old : Text) (range : ByteRange) : Prop where
  length_eq : range.length = old.width
  boundary : page.IsBoundary range.start
  stop_le : range.stop ≤ page.width
  slice_eq : page.IsBoundary range.stop → page.bytes.slice range = old.bytes

section Page

variable {page old : Text} {start : Nat}

theorem Text.IsBoundary.le_width (h : page.IsBoundary start) : start ≤ page.width := by
  obtain ⟨u, v, rfl, rfl⟩ := h
  rw [Text.width_append]
  exact Nat.le_add_right _ _

theorem holding_nil (h : page.IsBoundary start) : Holding page [] ⟨start, 0⟩ :=
  ⟨rfl, h, h.le_width, fun _ => List.take_zero⟩

/-- What reads as a text at a boundary does not reach beyond the end of the page. -/
theorem stop_le_of_matchesAt (hpage : page.hasSurrogate = false) (h : page.IsBoundary start)
    (reads : page.bytes.matchesAt start old = true) : start + old.width ≤ page.width := by
  obtain ⟨u, v, rfl, rfl⟩ := h
  rw [Text.width_append]
  by_cases hle : old.width ≤ v.width
  · omega
  · -- all bytes behind the boundary are read, so the text is what follows it
    have hall : v.bytes.length ≤ old.width := by
      rw [Text.length_bytes]
      omega
    rw [Bytes.matchesAt, Bytes.slice, Text.drop_bytes_append, List.take_of_length_le hall,
      beq_iff_eq,
      decodeLossy_bytes (Text.hasSurrogate_of_subset (List.subset_append_right u v) hpage)]
      at reads
    rw [reads] at hle
    exact absurd (Nat.le_refl _) hle

/-- What reads as a text between two boundaries is the text. -/
theorem holding_of_matchesAt (hpage : page.hasSurrogate = false) (h : page.IsBoundary start)
    (reads : page.bytes.matchesAt start old = true) : Holding page old ⟨start, old.width⟩ := by
  refine ⟨rfl, h, stop_le_of_matchesAt hpage h reads, fun hstop => ?_⟩
  obtain ⟨s, hs, hslice⟩ := Text.exists_slice_eq h hstop (Nat.le_add_right _ _)
  rw [ByteRange.stop, Nat.add_sub_cancel_left] at hslice
  rw [Bytes.matchesAt, hslice, beq_iff_eq,
    decodeLossy_bytes (Text.hasSurrogate_of_subset hs hpage)] at reads
  rw [hslice, reads]

/-- Where the bytes of a text stand in a page, the text starts at a boundary. -/
theorem holding_of_prefix (old_ne : old ≠ []) (h : old.bytes <+: page.bytes.drop start) :
    Holding page old ⟨start, old.width⟩ := by
  have hslice := Bytes.slice_of_prefix_drop h
  rw [Text.length_bytes] at hslice
  obtain ⟨behind, hbehind⟩ := h
  refine ⟨rfl, ?_, ?_, fun _ => hslice⟩
  · -- the bytes of a text start with one that continues no code point
    obtain ⟨c, rest, rfl⟩ := List.exists_cons_of_ne_nil old_ne
    obtain ⟨lead, others, hc, hlead, -, -⟩ := c.bytes_eq_cons
    rw [Text.bytes_cons, hc] at hbehind
    exact Text.isBoundary_of_drop hbehind.symm hlead
  · have hlength := congrArg List.length hbehind
    have hpos := Text.width_pos old_ne
    rw [List.length_append, List.length_drop, Text.length_bytes, Text.length_bytes] at hlength
    show start + old.width ≤ page.width
    omega

theorem Edit.Takes.holding {reach : Nat} {f : Field} {e : Edit} {range : ByteRange}
    (h : e.Takes page.bytes reach f range) (hpage : page.hasSurrogate = false)
    (hf : page.IsBoundary f.range.start) : Holding page e.oldValue range := by
  cases h with
  | insertion old_eq empty =>
    rw [old_eq]
    exact holding_nil hf
  | inPlace old_ne reads => exact holding_of_matchesAt hpage hf reads
  | moved old_ne misses near => exact holding_of_prefix old_ne near.stands

end Page

/-! ## What is written -/

theorem Text.hasSurrogate_substitute {t written : Text} (c : CodePoint)
    (ht : t.hasSurrogate = false) (hwritten : written.hasSurrogate = false) :
    (t.substitute c written).hasSurrogate = false := by
  rw [Text.hasSurrogate, List.any_eq_false] at ht hwritten ⊢
  intro d hd
  obtain ⟨x, hx, hd⟩ := List.mem_flatMap.1 hd
  split at hd
  · exact hwritten d hd
  · rw [List.mem_singleton.1 hd]
    exact ht x hx

theorem hasSurrogate_of_quoteEntity? {quote : UInt8} {c : CodePoint} {entity : Text}
    (h : quoteEntity? quote = some (c, entity)) : entity.hasSurrogate = false := by
  unfold quoteEntity? at h
  split at h
  · cases h
    decide
  split at h
  · cases h
    decide
  · cases h

theorem Edit.hasSurrogate_written {e : Edit} (b : Bytes) (f : Field)
    (h : e.newValue.hasSurrogate = false) : (e.written b f).hasSurrogate = false := by
  unfold Edit.written
  split
  · exact h
  · unfold escapeQuote
    split
    · exact h
    · next quote entity hquote =>
      refine Text.hasSurrogate_substitute quote h ?_
      cases hstart : f.range.start with
      | zero =>
        rw [hstart] at hquote
        cases hquote
      | succ n =>
        rw [hstart] at hquote
        obtain ⟨x, -, hx⟩ := Option.bind_eq_some_iff.1 hquote
        exact hasSurrogate_of_quoteEntity? hx

/-! ## Batches -/

/-- A replacement is what one edit of a batch comes to: the edit takes bytes of the field that
it names, and writes its new value there. -/
structure Replacement.Resolves (b : Bytes) (reach : Nat) (fields : List Field)
    (batch : List Edit) (r : Replacement) : Prop where
  edit_eq : batch[r.order]? = some r.edit
  old_encodable : r.edit.oldValue.hasSurrogate = false
  new_encodable : r.edit.newValue.hasSurrogate = false
  exists_field : ∃ f, fields.find? (fun f => f.id = r.edit.id) = some f ∧
    r.edit.Takes b reach f r.range ∧ r.written = (r.edit.written b f).bytes

section Batch

variable {b : Bytes} {reach : Nat} {fields : List Field} {batch : List Edit} {r : Replacement}

theorem resolve_eq_ok {order : Nat} {e : Edit} (h : e.resolve b reach fields order = .ok r) :
    r.edit = e ∧ r.order = order ∧ e.oldValue.hasSurrogate = false ∧
      e.newValue.hasSurrogate = false ∧ ∃ f, fields.find? (fun f => f.id = e.id) = some f ∧
        e.Takes b reach f r.range ∧ r.written = (e.written b f).bytes := by
  unfold Edit.resolve at h
  split at h
  · cases h
  · next f hf =>
    split at h
    · cases h
    · next hencodable =>
      simp only [Bool.or_eq_true, not_or, Bool.not_eq_true] at hencodable
      cases hrange : e.range b reach f with
      | error reason =>
        rw [hrange] at h
        cases h
      | ok range =>
        rw [hrange] at h
        cases h
        exact ⟨rfl, rfl, hencodable.1, hencodable.2, f, hf, takes_of_range hrange, rfl⟩

theorem resolved_eq (found : List (Edit × Except DropReason Replacement)) :
    resolved found = found.filterMap fun x => x.2.toOption := by
  refine congrArg (List.filterMap · found) (funext fun x => ?_)
  obtain ⟨e, result⟩ := x
  cases result <;> rfl

theorem resolves_of_mem_resolved (h : r ∈ resolved (resolveAll b reach fields batch)) :
    r.Resolves b reach fields batch := by
  rw [resolved_eq] at h
  obtain ⟨x, hx, hr⟩ := List.mem_filterMap.1 h
  obtain ⟨⟨e, order⟩, hzip, rfl⟩ := List.mem_map.1 hx
  obtain ⟨hedit, horder, hold, hnew, hfield⟩ := resolve_eq_ok (Markup.eq_ok_of_toOption hr)
  rw [← hedit] at hold hnew hfield
  refine ⟨?_, hold, hnew, hfield⟩
  rw [hedit, horder]
  exact List.mem_zipIdx_iff_getElem?.1 hzip

theorem pairwise_snd_zipIdx {α : Type} (l : List α) :
    l.zipIdx.Pairwise fun x y => x.2 < y.2 := by
  rw [← List.pairwise_map, List.zipIdx_map_snd]
  exact List.pairwise_lt_range'

/-- The replacements of a batch stand in the order of their edits. -/
theorem resolved_pairwise_order (b : Bytes) (reach : Nat) (fields : List Field)
    (batch : List Edit) :
    (resolved (resolveAll b reach fields batch)).Pairwise fun r s => r.order < s.order := by
  have hfound : (resolveAll b reach fields batch).Pairwise fun x y =>
      ∀ r s, x.2 = .ok r → y.2 = .ok s → r.order < s.order := by
    refine List.pairwise_map.2 ((pairwise_snd_zipIdx batch).imp fun {x y} hlt r s hr hs => ?_)
    rw [(resolve_eq_ok hr).2.1, (resolve_eq_ok hs).2.1]
    exact hlt
  rw [resolved_eq]
  exact hfound.filterMap _ fun x y hxy r hr s hs =>
    hxy r s (Markup.eq_ok_of_toOption hr) (Markup.eq_ok_of_toOption hs)

end Batch

end VisibleText
