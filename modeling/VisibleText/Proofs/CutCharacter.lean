import VisibleText.Proofs.Application
import VisibleText.Proofs.FieldSite

/-!
# Characters that are cut

Carrying out a batch fails in one way only: what comes out of the splices is not UTF-8. It is
UTF-8 if every range that is replaced ends between two characters (`exists_bytes_eq_rebuilt`).

The bytes near a field that are the old value of an edit end so. The bytes at the field only read
as the old value, and a character of which the last bytes are missing reads as U+FFFD, which has
three bytes. So a range ends within a character only if the old value ends in U+FFFD, and the
character has four bytes, of which the range takes three (`isBoundary_stop_iff`).

Hence a batch is carried out unless one of its edits cuts a character (`exists_outcome_iff`). One
such edit, and none of the batch is carried out (`not_forall_exists_outcome`).
-/

set_option autoImplicit false

namespace VisibleText

/-! ## Reading what is cut short -/

theorem decodeFrom_cons (u : Option Unfinished) (x : UInt8) (b : Bytes) :
    decodeFrom u (x :: b) = (readByte u x).1 ++ decodeFrom (readByte u x).2 b := by
  cases u <;> rfl

theorem readByte_snd_ne_none {u : Option Unfinished} {x : UInt8} (h : (readByte u x).1 = []) :
    (readByte u x).2 ≠ none := by
  cases u with
  | none =>
    simp only [readByte, readLead] at h ⊢
    grind
  | some u =>
    simp only [readByte] at h ⊢
    grind

/-- Whatever has been started is found. -/
theorem decodeFrom_ne_nil {u : Option Unfinished} {b : Bytes} (h : u ≠ none ∨ b ≠ []) :
    decodeFrom u b ≠ [] := by
  induction b generalizing u with
  | nil =>
    cases u with
    | none => exact absurd h (by simp)
    | some u => exact List.cons_ne_nil _ _
  | cons x b ih =>
    intro hnone
    rw [decodeFrom_cons] at hnone
    obtain ⟨hfound, hrest⟩ := List.append_eq_nil_iff.1 hnone
    exact ih (.inl (readByte_snd_ne_none hfound)) hrest

/-- Bytes that are read as one thing are read as one damaged stretch without the last of them. -/
theorem exists_damaged_of_decodeFrom_append {u : Option Unfinished} {b behind : Bytes}
    {found : Decoded} (hstarted : u ≠ none ∨ b ≠ []) (hbehind : behind ≠ [])
    (h : decodeFrom u (b ++ behind) = [found]) :
    ∃ run, decodeFrom u b = [.damaged run .cutShort] := by
  induction b generalizing u with
  | nil =>
    cases u with
    | none => exact absurd hstarted (by simp)
    | some u => exact ⟨u.run, rfl⟩
  | cons x b ih =>
    have hrest : decodeFrom (readByte u x).2 (b ++ behind) ≠ [] :=
      decodeFrom_ne_nil (.inr (by simp [hbehind]))
    rw [List.cons_append, decodeFrom_cons] at h
    -- the one thing is found behind this byte, so here nothing is found yet
    rcases List.append_eq_singleton_iff.1 h with ⟨hnone, hfound⟩ | ⟨-, hnil⟩
    · obtain ⟨run, hrun⟩ := ih (.inl (readByte_snd_ne_none hnone)) hfound
      exact ⟨run, by rw [decodeFrom_cons, hnone, hrun, List.nil_append]⟩
    · exact absurd hnil hrest

/-- A character of which the last bytes are missing is damaged. -/
theorem decodeFrom_take_bytes (c : Char) {n : Nat} (hpos : 0 < n)
    (hn : n < (CodePoint.char c).width) :
    ∃ run, decodeFrom none ((CodePoint.char c).bytes.take n) = [.damaged run .cutShort] := by
  have hlength := (CodePoint.char c).length_bytes
  have hchar := decodeFrom_char_append c []
  rw [List.append_nil, ← List.take_append_drop n (CodePoint.char c).bytes] at hchar
  refine exists_damaged_of_decodeFrom_append (.inr ?_) ?_ hchar
  · exact List.ne_nil_of_length_pos (by rw [List.length_take]; omega)
  · exact List.ne_nil_of_length_pos (by rw [List.length_drop]; omega)

/-! ## Ranges that end within a character -/

theorem CodePoint.width_le_four (c : CodePoint) : c.width ≤ 4 := by
  unfold width
  grind

/-- A range takes some code points of a page, and of the next one some bytes but not all. -/
structure ByteRange.Cuts (page : Text) (range : ByteRange) (read : Text) (c : CodePoint) :
    Prop where
  exists_around : ∃ front back : Text, page = front ++ read ++ c :: back ∧
    front.width = range.start
  low : read.width < range.length
  high : range.length < read.width + c.width

/-- A place in a text that is no boundary lies within a code point. -/
theorem Text.exists_within {t : Text} {n : Nat} (hn : n ≤ t.width) (h : ¬ t.IsBoundary n) :
    ∃ (front : Text) (c : CodePoint) (back : Text), t = front ++ c :: back ∧ front.width < n ∧
      n < front.width + c.width := by
  induction t generalizing n with
  | nil =>
    obtain rfl : n = 0 := by simpa using hn
    exact absurd (Text.isBoundary_zero []) h
  | cons c t ih =>
    have hpos : 0 < n := Nat.pos_of_ne_zero fun hzero => h (hzero ▸ Text.isBoundary_zero _)
    by_cases hlt : n < c.width
    · exact ⟨[], c, t, rfl, hpos, by simpa using hlt⟩
    · obtain ⟨m, rfl⟩ := Nat.exists_eq_add_of_le (Nat.le_of_not_lt hlt)
      rw [Text.width_cons, Nat.add_le_add_iff_left] at hn
      obtain ⟨front, d, back, rfl, hlow, hhigh⟩ := ih hn fun hm => h hm.cons
      exact ⟨c :: front, d, back, rfl, by rw [Text.width_cons]; omega,
        by rw [Text.width_cons]; omega⟩

section Range

variable {page read : Text} {range : ByteRange} {c : CodePoint}

theorem Text.IsBoundary.append {front rest : Text} {n : Nat} (h : rest.IsBoundary n) :
    Text.IsBoundary (front ++ rest) (front.width + n) := by
  obtain ⟨u, v, rfl, rfl⟩ := h
  exact ⟨front ++ u, v, by simp, by simp⟩

theorem ByteRange.isBoundary_or_cuts (hstart : page.IsBoundary range.start)
    (hstop : range.stop ≤ page.width) :
    page.IsBoundary range.stop ∨ ∃ read c, range.Cuts page read c := by
  obtain ⟨front, rest, rfl, hfront⟩ := hstart
  by_cases hend : rest.IsBoundary range.length
  · rw [ByteRange.stop, ← hfront]
    exact .inl hend.append
  · rw [ByteRange.stop, ← hfront, Text.width_append, Nat.add_le_add_iff_left] at hstop
    obtain ⟨read, c, back, rfl, hlow, hhigh⟩ := Text.exists_within hstop hend
    exact .inr ⟨read, c, ⟨front, back, by simp, hfront⟩, hlow, hhigh⟩

namespace ByteRange.Cuts

theorem slice_eq (h : range.Cuts page read c) :
    page.bytes.slice range = read.bytes ++ c.bytes.take (range.length - read.width) := by
  obtain ⟨front, back, rfl, hfront⟩ := h.exists_around
  have hlow := h.low
  have hhigh := h.high
  rw [Bytes.slice, ← hfront, List.append_assoc, Text.drop_bytes_append, Text.bytes_append,
    List.take_append, Text.length_bytes, List.take_of_length_le (by rw [Text.length_bytes]; omega),
    Text.bytes_cons, List.take_append_of_le_length (by rw [c.length_bytes]; omega)]

/-- The range ends at a byte that continues the code point. -/
theorem not_isBoundary (h : range.Cuts page read c) : ¬ page.IsBoundary range.stop := by
  intro hstop
  obtain ⟨front, back, rfl, hfront⟩ := h.exists_around
  obtain ⟨n, hn⟩ := Nat.exists_eq_add_of_lt h.low
  have hhigh := h.high
  obtain ⟨lead, others, hc, -, hothers, -⟩ := c.bytes_eq_cons
  have hwidth : c.width = others.length + 1 := by rw [← c.length_bytes, hc, List.length_cons]
  have hlt : n < others.length := by omega
  have hplace : range.stop = Text.width (front ++ read) + (n + 1) := by
    rw [Text.width_append, ByteRange.stop, hfront, hn]
    omega
  have hdrop : (front ++ read ++ c :: back).bytes.drop range.stop =
      others[n] :: (others.drop (n + 1) ++ Text.bytes back) := by
    rw [hplace, ← List.drop_drop, Text.drop_bytes_append, Text.bytes_cons, hc, List.cons_append,
      List.drop_succ_cons, List.drop_append_of_le_length (Nat.le_of_lt hlt),
      List.drop_eq_getElem_cons hlt, List.cons_append]
  have hcont := Text.not_continuation_of_drop hstop hdrop
  rw [hothers _ (List.getElem_mem hlt)] at hcont
  cases hcont

/-- The bytes of the range read as the code points before the one that is cut, and as one damaged
stretch. -/
theorem exists_decodeFrom_slice (h : range.Cuts page read c) (hpage : page.hasSurrogate = false) :
    ∃ (s : List Char) (run : Bytes), read = s.map CodePoint.char ∧
      decodeFrom none (page.bytes.slice range) =
        s.map Decoded.character ++ [.damaged run .cutShort] := by
  obtain ⟨front, back, hpage', -⟩ := h.exists_around
  have hlow := h.low
  have hhigh := h.high
  have hread := Text.hasSurrogate_of_subset (s := read) (by rw [hpage']; simp) hpage
  obtain ⟨s, rfl⟩ := Text.exists_chars hread
  have hc : c.isSurrogate = false := by
    rw [Text.hasSurrogate, List.any_eq_false] at hpage
    exact Bool.eq_false_iff.2 (hpage c (by rw [hpage']; simp))
  cases c with
  | surrogate n => cases hc
  | char c =>
    obtain ⟨run, hrun⟩ := decodeFrom_take_bytes c (Nat.sub_pos_of_lt hlow) (by omega)
    exact ⟨s, run, rfl, by rw [h.slice_eq, decodeFrom_chars_append, hrun]⟩

/-- The bytes of the range are those of no text. -/
theorem slice_ne (h : range.Cuts page read c) (hpage : page.hasSurrogate = false) {t : Text}
    (ht : t.hasSurrogate = false) : page.bytes.slice range ≠ t.bytes := by
  intro heq
  obtain ⟨s, run, -, hslice⟩ := h.exists_decodeFrom_slice hpage
  obtain ⟨s', rfl⟩ := Text.exists_chars ht
  have hchars := decodeFrom_chars_append s' []
  rw [List.append_nil, ← heq, hslice, decodeFrom, List.append_nil] at hchars
  have hmem : Decoded.damaged run .cutShort ∈ s'.map Decoded.character := by
    rw [← hchars]
    simp
  obtain ⟨d, -, hd⟩ := List.mem_map.1 hmem
  cases hd

theorem decodeLossy_slice (h : range.Cuts page read c) (hpage : page.hasSurrogate = false) :
    (page.bytes.slice range).decodeLossy = read ++ [.replacement] := by
  obtain ⟨s, run, rfl, hslice⟩ := h.exists_decodeFrom_slice hpage
  rw [Bytes.decodeLossy, hslice, List.map_append, List.map_map]
  rfl

/-- What reads as a text of its own width and ends within a code point ends in U+FFFD, which
stands for three bytes of four. -/
theorem eq_of_matchesAt {old : Text} {start : Nat} (hpage : page.hasSurrogate = false)
    (h : ByteRange.Cuts page ⟨start, old.width⟩ read c)
    (reads : page.bytes.matchesAt start old = true) :
    old = read ++ [.replacement] ∧ c.width = 4 := by
  rw [Bytes.matchesAt, h.decodeLossy_slice hpage, beq_iff_eq] at reads
  have hhigh := h.high
  have hreplacement : Text.width [CodePoint.replacement] = 3 := rfl
  -- the range has the width of `read` and U+FFFD, so it takes three bytes of the character
  simp only [← reads, Text.width_append, hreplacement] at hhigh
  have hle := c.width_le_four
  exact ⟨reads.symm, by omega⟩

end ByteRange.Cuts

end Range

/-! ## Edits that cut a character -/

/-- A replacement cuts a character of a page: the old value of its edit ends in U+FFFD, and where
that stands the page has a character of four bytes, of which the replacement takes three. -/
def Replacement.CutsCharacter (page : Text) (r : Replacement) : Prop :=
  ∃ read c, r.range.Cuts page read c ∧ c.width = 4 ∧
    r.edit.oldValue = read ++ [.replacement]

section Batch

variable {source : Text} {reach : Nat} {fields : List Field} {batch : List Edit}

/-- A range that is replaced ends at a boundary unless it cuts a character. -/
theorem isBoundary_stop_iff (hsource : source.hasSurrogate = false)
    (hfields : ∀ f ∈ fields, source.IsBoundary f.range.start) {r : Replacement}
    (h : r ∈ carriedOut source.bytes reach fields batch) :
    source.IsBoundary r.range.stop ↔ ¬ r.CutsCharacter source := by
  constructor
  · rintro hstop ⟨read, c, hcuts, -⟩
    exact hcuts.not_isBoundary hstop
  · intro hnone
    have holding := holding_of_mem_carriedOut hsource hfields h
    have resolves := resolves_of_mem_carriedOut h
    obtain ⟨f, -, takes, -⟩ := resolves.exists_field
    rcases ByteRange.isBoundary_or_cuts holding.boundary holding.stop_le with hstop | hcuts
    · exact hstop
    · obtain ⟨read, c, hcuts⟩ := hcuts
      refine absurd ⟨read, c, hcuts, ?_⟩ hnone
      generalize r.range = range at takes hcuts
      cases takes with
      | insertion old_eq empty => exact absurd hcuts.low (Nat.not_lt_zero _)
      | inPlace old_ne reads => exact (hcuts.eq_of_matchesAt hsource reads).symm
      | moved old_ne misses near =>
        -- here the bytes are the old value themselves, so they are text
        have hslice := Bytes.slice_of_prefix_drop near.stands
        rw [Text.length_bytes] at hslice
        exact absurd hslice (hcuts.slice_ne hsource resolves.old_encodable)

/-- A page with its ranges replaced is text, if all ranges end at boundaries. -/
theorem exists_bytes_eq_rebuilt {place : Nat} {rs : List Replacement}
    (hsource : source.hasSurrogate = false) (hplace : source.IsBoundary place)
    (hstart : ∀ r ∈ rs, place ≤ r.range.start) (hrs : rs.Pairwise Replacement.Before)
    (hwrites : ∀ r ∈ rs, r.WritesText source) (hstop : ∀ r ∈ rs, source.IsBoundary r.range.stop) :
    ∃ t : Text, t.hasSurrogate = false ∧ rebuilt source.bytes place rs = t.bytes := by
  induction rs generalizing place with
  | nil =>
    obtain ⟨u, v, rfl, rfl⟩ := hplace
    exact ⟨v, Text.hasSurrogate_of_subset (List.subset_append_right u v) hsource,
      Text.drop_bytes_append u v⟩
  | cons r rs ih =>
    obtain ⟨hr, hrs⟩ := List.pairwise_cons.1 hrs
    obtain ⟨hboundary, -, w, hw, hwritten⟩ := hwrites r (.head _)
    obtain ⟨s, hsub, hslice⟩ := Text.exists_slice_eq hplace hboundary (hstart r (.head _))
    have hs := Text.hasSurrogate_of_subset hsub hsource
    -- behind the range the page goes on at a boundary again
    obtain ⟨t, ht, hrest⟩ := ih (hstop r (.head _)) (fun s hs => (hr s hs).2) hrs
      (fun s hs => hwrites s (.tail _ hs)) fun s hs => hstop s (.tail _ hs)
    refine ⟨s ++ w ++ t, ?_, ?_⟩
    · simp only [Text.hasSurrogate_append, hs, hw, ht, Bool.or_self]
    · rw [rebuilt, hslice, hwritten, hrest, Text.bytes_append, Text.bytes_append]

/-- If no replacement cuts a character, what the splices leave is text. -/
theorem exists_outcome_of_not_cuts (hsource : source.hasSurrogate = false)
    (hfields : ∀ f ∈ fields, source.IsBoundary f.range.start)
    (h : ∀ r ∈ carriedOut source.bytes reach fields batch, ¬ r.CutsCharacter source) :
    ∃ outcome, applyTo source.bytes reach fields batch = .ok outcome := by
  obtain ⟨t, ht, hbytes⟩ := exists_bytes_eq_rebuilt hsource (Text.isBoundary_zero source)
    (fun r _ => Nat.zero_le _) (carriedOut_pairwise source.bytes reach fields batch)
    (fun r hr => writesText_of_mem_carriedOut hsource hfields hr)
    fun r hr => (isBoundary_stop_iff hsource hfields hr).2 (h r hr)
  -- so the bytes that are decoded at the end are those of a text
  have hdecode := decode_bytes ht
  rw [← hbytes, ← spliceAll_carriedOut hsource hfields, carriedOut, List.reverse_reverse] at hdecode
  exact ⟨_, by simp only [applyTo, hdecode]; rfl⟩

theorem applyTo_eq_ok_or_error (b : Bytes) (reach : Nat) (fields : List Field)
    (batch : List Edit) : (∃ outcome, applyTo b reach fields batch = .ok outcome) ∨
      ∃ fault, applyTo b reach fields batch = .error (.undecodable fault) := by
  simp only [applyTo]
  split
  · next fault _ => exact .inr ⟨fault, rfl⟩
  · exact .inl ⟨_, rfl⟩

theorem exists_outcome_iff_not_cuts (hsource : source.hasSurrogate = false)
    (hfields : ∀ f ∈ fields, source.IsBoundary f.range.start) :
    (∃ outcome, applyTo source.bytes reach fields batch = .ok outcome) ↔
      ∀ r ∈ carriedOut source.bytes reach fields batch, ¬ r.CutsCharacter source := by
  refine ⟨?_, exists_outcome_of_not_cuts hsource hfields⟩
  rintro ⟨outcome, h⟩ r hr
  exact (isBoundary_stop_iff hsource hfields hr).1 ((rebuilt_of_applyTo hsource hfields h).1 r hr)

/-- Only an old value that ends in U+FFFD can cut a character. -/
theorem not_cutsCharacter_of_getLast? {b : Bytes} {r : Replacement} {page : Text}
    (hends : ∀ e ∈ batch, e.oldValue.getLast? ≠ some .replacement)
    (h : r ∈ carriedOut b reach fields batch) : ¬ r.CutsCharacter page := by
  rintro ⟨read, c, -, -, hold⟩
  refine hends r.edit (List.mem_of_getElem? (resolves_of_mem_carriedOut h).edit_eq) ?_
  rw [hold, List.getLast?_concat]

end Batch

/-- A batch of edits of a page that can be read is carried out unless one of its edits cuts a
character, and none does whose old value does not end in U+FFFD. If one does, the whole batch fails
because what comes out is not UTF-8. -/
theorem exists_outcome_iff (reach : Reach) {source : Text} {d : Document}
    (hsource : source.hasSurrogate = false) (hparse : Document.parse source = .ok d)
    (batch : List Edit) :
    ∃ fields, Field.ofPage reach.openTag source = .ok fields ∧
      ((∃ outcome, applyEdits reach source batch = .ok outcome) ↔
        ∀ r ∈ carriedOut source.bytes reach.search fields batch, ¬ r.CutsCharacter source) ∧
      ((∃ fault, applyEdits reach source batch = .error (.undecodable fault)) ↔
        ∃ r ∈ carriedOut source.bytes reach.search fields batch, r.CutsCharacter source) ∧
      ((∀ e ∈ batch, e.oldValue.getLast? ≠ some .replacement) →
        ∃ outcome, applyEdits reach source batch = .ok outcome) := by
  obtain ⟨fields, hfields⟩ : ∃ fields, Field.ofPage reach.openTag source = .ok fields :=
    ⟨_, Field.ofPage_eq_sites reach.openTag hsource hparse⟩
  have hstarts := fun f hf => (Field.standsIn_of_ofPage hfields f hf).boundary
  have happly : applyEdits reach source batch = applyTo source.bytes reach.search fields batch := by
    rw [applyEdits, hfields]
    rfl
  have hiff : (∃ outcome, applyTo source.bytes reach.search fields batch = .ok outcome) ↔
      ∀ r ∈ carriedOut source.bytes reach.search fields batch, ¬ r.CutsCharacter source :=
    exists_outcome_iff_not_cuts hsource hstarts
  refine ⟨fields, hfields, ?_, ?_, ?_⟩
  · rw [happly]
    exact hiff
  · rw [happly]
    constructor
    · rintro ⟨fault, hfault⟩
      by_contra hnone
      obtain ⟨outcome, houtcome⟩ := hiff.2 fun r hr hcuts => hnone ⟨r, hr, hcuts⟩
      rw [hfault] at houtcome
      cases houtcome
    · rintro ⟨r, hr, hcuts⟩
      refine (applyTo_eq_ok_or_error source.bytes reach.search fields batch).resolve_left ?_
      exact fun houtcome => hiff.1 houtcome r hr hcuts
  · intro hends
    rw [happly]
    exact hiff.2 fun r hr => not_cutsCharacter_of_getLast? hends hr

/-- One edit that takes three of the four bytes of a symbol, and one that takes the symbol. -/
theorem exists_outcome_iff_of_symbol : ∃ (source : Text) (d : Document) (fields : List Field),
    source = text "<p>🎉</p>" ∧ Document.parse source = .ok d ∧
      Field.ofPage 2000 source = .ok fields ∧
      (∃ r ∈ carriedOut source.bytes 200 fields [⟨text "text:3", [.replacement], text "x"⟩],
        r.CutsCharacter source) ∧
      (∃ fault, applyEdits .default source [⟨text "text:3", [.replacement], text "x"⟩] =
        .error (.undecodable fault)) ∧
      ∃ outcome, applyEdits .default source [⟨text "text:3", text "🎉", [.replacement]⟩] =
        .ok outcome := by
  have hrun : (Field.ofPage 2000 (text "<p>🎉</p>")).toOption =
      some [Field.ofText 3 (text "p text") (text "🎉") []] := by
    decide +kernel
  have hfields := Markup.eq_ok_of_toOption hrun
  obtain ⟨d, hparse, hsource, -⟩ := Field.ofPage_eq_ok hfields
  have hcarried : carriedOut (text "<p>🎉</p>").bytes 200
      [Field.ofText 3 (text "p text") (text "🎉") []]
      [⟨text "text:3", [.replacement], text "x"⟩] =
        [⟨⟨3, 3⟩, (text "x").bytes, ⟨text "text:3", [.replacement], text "x"⟩, 0⟩] := by
    decide +kernel
  have hcuts : ∃ r ∈ carriedOut (text "<p>🎉</p>").bytes 200
      [Field.ofText 3 (text "p text") (text "🎉") []]
      [⟨text "text:3", [.replacement], text "x"⟩], r.CutsCharacter (text "<p>🎉</p>") := by
    rw [hcarried]
    exact ⟨_, .head _, [], .char '🎉', ⟨⟨text "<p>", text "</p>", rfl, rfl⟩, by decide, by decide⟩,
      rfl, rfl⟩
  obtain ⟨fields, hfields', -, hfault, -⟩ := exists_outcome_iff .default hsource hparse
    [⟨text "text:3", [.replacement], text "x"⟩]
  obtain rfl := Except.ok.inj (hfields.symm.trans hfields')
  obtain ⟨-, -, -, -, houtcome⟩ := exists_outcome_iff .default hsource hparse
    [⟨text "text:3", text "🎉", [.replacement]⟩]
  exact ⟨_, d, _, rfl, hparse, hfields, hcuts, hfault.2 hcuts, houtcome (by decide)⟩

/-- Not every batch is carried out: an edit with U+FFFD as its old value, where the page has a
character of four bytes, makes it fail. -/
theorem not_forall_exists_outcome : ¬ ∀ (reach : Reach) (source : Text) (d : Document),
    source.hasSurrogate = false → Document.parse source = .ok d →
      ∀ batch, ∃ outcome, applyEdits reach source batch = .ok outcome := by
  intro hall
  have hids : ((Field.ofPage 2000 (text "<p>🎉</p>")).map fun fields =>
      fields.map Field.id).toOption = some [text "text:3"] := by
    decide +kernel
  obtain ⟨fields, hfields, -⟩ := Markup.exists_of_map_eq_ok (Markup.eq_ok_of_toOption hids)
  obtain ⟨d, hparse, hsource, -⟩ := Field.ofPage_eq_ok hfields
  obtain ⟨outcome, houtcome⟩ := hall .default _ d hsource hparse
    [⟨text "text:3", [.replacement], text "x"⟩]
  have hrun : (applyEdits .default (text "<p>🎉</p>")
      [⟨text "text:3", [.replacement], text "x"⟩]).toOption = none := by
    decide +kernel
  rw [houtcome] at hrun
  cases hrun

end VisibleText
