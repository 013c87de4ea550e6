import VisibleText.Edit.Resolve
import VisibleText.Proofs.CutCharacter

/-!
# Texts that are found where they do not stand

Whether a text stands at some place of a page is decided by reading as many bytes there as the text
has. If its bytes stand there, this finds them. But damaged bytes read as U+FFFD, and a text may
hold U+FFFD itself, so a text is also found where its bytes do not stand (`FalseMatch`), and this in
two ways. The bytes that are read may end within a character of four bytes, after three of them:
U+FFFD has as many. Or the first one lies within a character. Then each byte up to the end of that
character reads as U+FFFD, which has three, so the text has more bytes than the page has from there
on, and all of these are read.

There is no other way (`Bytes.matchesFrom_iff`): whatever is found and holds no U+FFFD stands where
it is found.
-/

set_option autoImplicit false

namespace VisibleText

/-! ## Reading from within a character -/

/-- Bytes that continue a character are damage where a character should start. -/
theorem decodeFrom_continuations {front : Bytes} (h : ∀ x ∈ front, isContinuation x = true)
    (b : Bytes) : decodeFrom none (front ++ b) =
      (front.map fun x => .damaged [x] .start) ++ decodeFrom none b := by
  induction front with
  | nil => rfl
  | cons x front ih =>
    obtain ⟨hx, hfront⟩ := List.forall_mem_cons.1 h
    rw [List.cons_append, decodeFrom_cons, readByte, readLead_continuation hx, ih hfront]
    rfl

theorem Bytes.decodeLossy_continuations {front : Bytes} (h : ∀ x ∈ front, isContinuation x = true)
    (b : Bytes) : decodeLossy (front ++ b) =
      List.replicate front.length .replacement ++ b.decodeLossy := by
  rw [decodeLossy, decodeFrom_continuations h, List.map_append, List.map_map, decodeLossy,
    ← List.map_const']
  rfl

namespace Text

/-- Behind a place within a character stand the bytes that continue it, and then what follows. -/
theorem exists_drop_within {front back : Text} {c : CodePoint} {n : Nat} (low : front.width < n)
    (high : n < front.width + c.width) :
    ∃ rest : Bytes, (bytes (front ++ c :: back)).drop n = rest ++ back.bytes ∧
      rest.length = front.width + c.width - n ∧ ∀ x ∈ rest, isContinuation x = true := by
  obtain ⟨lead, others, hc, -, hothers, -⟩ := c.bytes_eq_cons
  have hwidth : c.width = others.length + 1 := by rw [← c.length_bytes, hc, List.length_cons]
  obtain ⟨k, rfl⟩ := Nat.exists_eq_add_of_lt low
  have hk : k ≤ others.length := by omega
  refine ⟨others.drop k, ?_, ?_, fun x hx => hothers x (List.mem_of_mem_drop hx)⟩
  · rw [Nat.add_assoc, ← List.drop_drop, drop_bytes_append, bytes_cons, hc, List.cons_append,
      List.drop_succ_cons, List.drop_append_of_le_length hk]
  · rw [List.length_drop]
    omega

theorem hasSurrogate_behind {front back : Text} {c : CodePoint}
    (h : hasSurrogate (front ++ c :: back) = false) : back.hasSurrogate = false := by
  apply hasSurrogate_of_subset _ h
  exact List.subset_append_of_subset_right front (List.subset_cons_self c back)

/-- The first bytes of a text read as a text with no fewer bytes: of a character that is cut no more
than three are among them, and U+FFFD has three. -/
theorem le_width_decodeLossy_slice {t : Text} (ht : t.hasSurrogate = false) {m : Nat}
    (hm : m ≤ t.width) : m ≤ (t.bytes.slice ⟨0, m⟩).decodeLossy.width := by
  have hstop : ByteRange.stop ⟨0, m⟩ = m := Nat.zero_add m
  have hends : t.IsBoundary (ByteRange.stop ⟨0, m⟩) ∨ ∃ read c, ByteRange.Cuts t ⟨0, m⟩ read c :=
    ByteRange.isBoundary_or_cuts (isBoundary_zero t) (hstop.symm ▸ hm)
  rcases hends with hboundary | ⟨read, c, hcuts⟩
  · rw [hstop] at hboundary
    obtain ⟨u, v, rfl, rfl⟩ := hboundary
    have hslice : (bytes (u ++ v)).slice ⟨0, u.width⟩ = u.bytes := take_bytes_append u v
    have hread : ((bytes (u ++ v)).slice ⟨0, u.width⟩).decodeLossy = u := by
      rw [hslice, decodeLossy_bytes (hasSurrogate_of_subset (List.subset_append_left u v) ht)]
    exact Nat.le_of_eq (congrArg width hread.symm)
  · have hhigh := hcuts.high
    have hc := c.width_le_four
    have hreplacement : width [CodePoint.replacement] = 3 := rfl
    rw [hcuts.decodeLossy_slice ht, width_append, hreplacement]
    simp only at hhigh
    omega

theorem width_replicate_replacement (n : Nat) :
    width (List.replicate n .replacement) = 3 * n := by
  induction n with
  | zero => rfl
  | succ n ih =>
    have hreplacement : CodePoint.replacement.width = 3 := rfl
    rw [List.replicate_succ, width_cons, ih, hreplacement, Nat.mul_succ, Nat.add_comm]

end Text

/-! ## False matches -/

/-- A text reads like the bytes at some place of a page, but they are not its bytes. -/
inductive FalseMatch (page : Text) (n : Nat) (t : Text) : Prop where
  /-- the range of the text ends within a character, for which U+FFFD stands -/
  | endsWithin {read : Text} {c : CodePoint} (cuts : ByteRange.Cuts page ⟨n, t.width⟩ read c)
      (text_eq : t = read ++ [.replacement])
  /-- the place is within a character, and U+FFFD stands for each of its bytes from there on; the
  rest of the page follows -/
  | startsWithin {front back : Text} {c : CodePoint} (page_eq : page = front ++ c :: back)
      (low : front.width < n) (high : n < front.width + c.width)
      (text_eq : t = List.replicate (front.width + c.width - n) .replacement ++ back)

section Place

variable {page t : Text} {n : Nat}

namespace FalseMatch

/-- Only a text that holds U+FFFD matches falsely. -/
theorem replacement_mem (h : FalseMatch page n t) : .replacement ∈ t := by
  cases h with
  | endsWithin cuts text_eq =>
    rw [text_eq]
    exact List.mem_append_right _ (.head _)
  | startsWithin page_eq low high text_eq =>
    rw [text_eq]
    exact List.mem_append_left _ (List.mem_replicate.2 ⟨Nat.sub_ne_zero_of_lt high, rfl⟩)

/-- Where a text matches falsely, it does not stand. -/
theorem not_prefix (h : FalseMatch page n t) (hpage : page.hasSurrogate = false)
    (ht : t.hasSurrogate = false) : ¬ t.bytes <+: page.bytes.drop n := by
  intro hbytes
  cases h with
  | endsWithin cuts text_eq =>
    have hslice := Bytes.slice_of_prefix_drop hbytes
    rw [Text.length_bytes] at hslice
    exact cuts.slice_ne hpage ht hslice
  | @startsWithin front back c page_eq low high text_eq =>
    -- the page ends before a text of this width could
    have hle := hbytes.length_le
    rw [Text.length_bytes, List.length_drop, Text.length_bytes, text_eq, page_eq, Text.width_append,
      Text.width_append, Text.width_cons, Text.width_replicate_replacement] at hle
    omega

theorem matchesAt (h : FalseMatch page n t) (hpage : page.hasSurrogate = false) :
    page.bytes.matchesAt n t = true := by
  cases h with
  | endsWithin cuts text_eq =>
    rw [Bytes.matchesAt, cuts.decodeLossy_slice hpage, beq_iff_eq]
    exact text_eq.symm
  | @startsWithin front back c page_eq low high text_eq =>
    obtain ⟨rest, hdrop, hlength, hrest⟩ := Text.exists_drop_within low high
    have hback := Text.hasSurrogate_behind (page_eq ▸ hpage)
    have hall : (rest ++ back.bytes).length ≤ t.width := by
      rw [List.length_append, Text.length_bytes, hlength, text_eq, Text.width_append,
        Text.width_replicate_replacement]
      omega
    rw [Bytes.matchesAt, Bytes.slice, page_eq, hdrop, List.take_of_length_le hall,
      Bytes.decodeLossy_continuations hrest, decodeLossy_bytes hback, hlength, beq_iff_eq]
    exact text_eq.symm

end FalseMatch

/-- What is found at a boundary stands there, or the range ends within a character. -/
theorem prefix_or_falseMatch_of_isBoundary (hpage : page.hasSurrogate = false)
    (hboundary : page.IsBoundary n) (h : page.bytes.matchesAt n t = true) :
    t.bytes <+: page.bytes.drop n ∨ FalseMatch page n t := by
  have holding := holding_of_matchesAt hpage hboundary h
  rcases ByteRange.isBoundary_or_cuts holding.boundary holding.stop_le with hstop | ⟨read, c, hcuts⟩
  · left
    rw [← holding.slice_eq hstop]
    exact List.take_prefix _ _
  · exact .inr (.endsWithin hcuts (hcuts.eq_of_matchesAt hpage h).1)

/-- What is found within a character is U+FFFD for each byte of it, and the rest of the page. -/
theorem falseMatch_of_within {front back : Text} {c : CodePoint}
    (hpage : page.hasSurrogate = false) (page_eq : page = front ++ c :: back)
    (low : front.width < n) (high : n < front.width + c.width) (ht : t ≠ [])
    (h : page.bytes.matchesAt n t = true) : FalseMatch page n t := by
  obtain ⟨rest, hdrop, hlength, hrest⟩ :
      ∃ rest : Bytes, (Text.bytes (front ++ c :: back)).drop n = rest ++ back.bytes ∧
        rest.length = front.width + c.width - n ∧ ∀ x ∈ rest, isContinuation x = true :=
    Text.exists_drop_within low high
  have hback := Text.hasSurrogate_behind (page_eq ▸ hpage)
  have hfirst : ∀ x ∈ rest.take t.width, isContinuation x = true :=
    fun x hx => hrest x (List.mem_of_mem_take hx)
  rw [Bytes.matchesAt, Bytes.slice, page_eq, hdrop, List.take_append,
    Bytes.decodeLossy_continuations hfirst, List.length_take, beq_iff_eq] at h
  dsimp only at h
  have hpos := Text.width_pos ht
  by_cases hrange : t.width - rest.length ≤ back.width
  · -- reading gives more bytes than were read, so they are more than those of the text
    have hread : t.width - rest.length ≤
        Text.width (Bytes.decodeLossy (back.bytes.take (t.width - rest.length))) :=
      Text.le_width_decodeLossy_slice hback hrange
    have hwidth := congrArg Text.width h
    rw [Text.width_append, Text.width_replicate_replacement] at hwidth
    omega
  · have hall : back.bytes.length ≤ t.width - rest.length := by
      rw [Text.length_bytes]
      omega
    have hmin : min t.width rest.length = front.width + c.width - n := by omega
    rw [List.take_of_length_le hall, decodeLossy_bytes hback, hmin] at h
    exact .startsWithin page_eq low high h.symm

/-- The bytes at a place read as a text just if they are its bytes, or if it matches falsely. -/
theorem Bytes.matchesAt_iff (hpage : page.hasSurrogate = false) (ht : t.hasSurrogate = false) :
    page.bytes.matchesAt n t = true ↔ t.bytes <+: page.bytes.drop n ∨ FalseMatch page n t := by
  constructor
  · intro h
    by_cases hnil : t = []
    · rw [hnil]
      exact .inl List.nil_prefix
    by_cases hboundary : page.IsBoundary n
    · exact prefix_or_falseMatch_of_isBoundary hpage hboundary h
    · have hn : n ≤ page.width := by
        -- behind the end of the page no byte is left to read
        by_contra hbehind
        have hdrop : page.bytes.drop n = [] := by
          rw [List.drop_eq_nil_iff, Text.length_bytes]
          omega
        rw [Bytes.matchesAt, Bytes.slice, hdrop, List.take_nil, beq_iff_eq] at h
        exact hnil h.symm
      obtain ⟨front, c, back, page_eq, low, high⟩ := Text.exists_within hn hboundary
      exact .inr (falseMatch_of_within hpage page_eq low high hnil h)
  · rintro (hbytes | hfalse)
    · have hslice := Bytes.slice_of_prefix_drop hbytes
      rw [Text.length_bytes] at hslice
      rw [Bytes.matchesAt, hslice, decodeLossy_bytes ht, beq_self_eq_true]
    · exact hfalse.matchesAt hpage

end Place

/-- Whatever a page and a text without surrogates are, and from wherever the text is looked for: it
is found just if the place is not negative and the bytes of the text stand there, or if it matches
falsely, and then they do not stand there. A text that holds no U+FFFD never matches falsely. -/
theorem Bytes.matchesFrom_iff {page t : Text} (hpage : page.hasSurrogate = false)
    (ht : t.hasSurrogate = false) (start : Int) :
    (page.bytes.matchesFrom start t = true ↔
      ∃ n : Nat, start = n ∧ (t.bytes <+: page.bytes.drop n ∨ FalseMatch page n t)) ∧
    (∀ n, FalseMatch page n t → ¬ t.bytes <+: page.bytes.drop n) ∧
    (.replacement ∉ t → (page.bytes.matchesFrom start t = true ↔
      ∃ n : Nat, start = n ∧ t.bytes <+: page.bytes.drop n)) := by
  have hfrom : page.bytes.matchesFrom start t = true ↔
      ∃ n : Nat, start = n ∧ (t.bytes <+: page.bytes.drop n ∨ FalseMatch page n t) := by
    rw [matchesFrom, Bool.and_eq_true, decide_eq_true_eq]
    constructor
    · rintro ⟨hstart, hmatches⟩
      exact ⟨start.toNat, (Int.toNat_of_nonneg hstart).symm, (matchesAt_iff hpage ht).1 hmatches⟩
    · rintro ⟨n, rfl, hn⟩
      exact ⟨Int.natCast_nonneg n, (matchesAt_iff hpage ht).2 hn⟩
  refine ⟨hfrom, ?_, ?_⟩
  · intro n h
    exact h.not_prefix hpage ht
  · intro hreplacement
    rw [hfrom]
    have hnone (n : Nat) : ¬ FalseMatch page n t := fun h => hreplacement h.replacement_mem
    simp only [hnone, or_false]

/-- U+FFFD is found at a symbol of four bytes, of which it stands for three, and at the second byte
of an accented letter. -/
theorem Bytes.matchesFrom_iff_of_symbol :
    (FalseMatch (text "🎉") 0 [.replacement] ∧
      (text "🎉").bytes.matchesFrom 0 [.replacement] = true ∧
      ¬ Text.bytes [.replacement] <+: (text "🎉").bytes.drop 0) ∧
    (text "é").bytes.matchesFrom 1 [.replacement] = true ∧
    (text "é").bytes.matchesFrom 1 (text "©") = false := by
  have hcuts : ByteRange.Cuts (text "🎉") ⟨0, 3⟩ [] (.char '🎉') :=
    ⟨⟨[], [], rfl, rfl⟩, by decide, by decide⟩
  have hsymbol : FalseMatch (text "🎉") 0 [.replacement] := .endsWithin hcuts rfl
  have hsplit : text "é" = [] ++ .char 'é' :: [] := rfl
  have hletter : FalseMatch (text "é") 1 [.replacement] :=
    .startsWithin hsplit (by decide) (by decide) rfl
  have hreplacement : Text.hasSurrogate [.replacement] = false := rfl
  have hpage : (text "🎉").hasSurrogate = false := rfl
  have hpage' : (text "é").hasSurrogate = false := rfl
  have hsign : (text "©").hasSurrogate = false := rfl
  obtain ⟨hfound, hnot, -⟩ := matchesFrom_iff hpage hreplacement 0
  obtain ⟨hfound', -, -⟩ := matchesFrom_iff hpage' hreplacement 1
  obtain ⟨-, -, hstands⟩ := matchesFrom_iff hpage' hsign 1
  refine ⟨⟨hsymbol, hfound.2 ⟨0, rfl, .inr hsymbol⟩, hnot 0 hsymbol⟩,
    hfound'.2 ⟨1, rfl, .inr hletter⟩, ?_⟩
  rw [Bool.eq_false_iff, ne_eq, hstands (by decide)]
  rintro ⟨n, hn, hbytes⟩
  obtain rfl : n = 1 := (Int.natCast_inj.1 hn).symm
  revert hbytes
  decide

/-- Not every text that is found stands where it is found. -/
theorem Bytes.not_forall_matchesFrom_iff : ¬ ∀ (page t : Text) (start : Int),
    page.hasSurrogate = false → t.hasSurrogate = false →
      (page.bytes.matchesFrom start t = true ↔
        0 ≤ start ∧ t.bytes <+: page.bytes.drop start.toNat) := by
  intro hall
  have hfound : (text "🎉").bytes.matchesFrom 0 [.replacement] = true := by decide +kernel
  have hbytes := ((hall (text "🎉") [.replacement] 0 rfl rfl).1 hfound).2
  revert hbytes
  decide +kernel

end VisibleText
