import VisibleText.Bytes.Utf8

/-!
# UTF-8 reads back what it writes

The bytes of a text without surrogates read back as that text, whatever follows them
(`undamaged_bytes_append`), so they also do with damaged stretches replaced
(`decodeLossy_bytes`) and as bytes that must be UTF-8 (`decode_bytes`).

UTF-8 synchronises itself: the first byte of a code point never continues one, and all
its other bytes do. So a place in the bytes of a text either is a boundary between two
code points, or holds a byte that continues one (`isBoundary_or_continuation`).
-/

set_option autoImplicit false

namespace VisibleText

/-! ## Single bytes -/

/-- Whether a byte continues a code point instead of starting one. -/
def isContinuation (x : UInt8) : Bool := 0x80 ≤ x && x < 0xC0

theorem isContinuation_iff {x : UInt8} :
    isContinuation x = true ↔ 0x80 ≤ x.toNat ∧ x.toNat < 0xC0 := by
  simp [isContinuation, UInt8.le_iff_toNat_le, UInt8.lt_iff_toNat_lt]

theorem toNat_byte {n : Nat} (h : n < 256) : (UInt8.ofNat n).toNat = n := by
  simp [Nat.mod_eq_of_lt h]

/-- No character starts with a byte that continues one. -/
theorem readLead_continuation {x : UInt8} (h : isContinuation x = true) :
    readLead x = ([.damaged [x] .start], none) := by
  rw [isContinuation_iff] at h
  have h₁ : ¬ x < 0x80 := by simp [UInt8.lt_iff_toNat_lt]; omega
  have h₂ : x < 0xC2 := by simp [UInt8.lt_iff_toNat_lt]; omega
  rw [readLead, if_neg h₁, if_pos h₂]

theorem readLead_one {n : Nat} (h : n < 0x80) :
    readLead (UInt8.ofNat n) = ([.character (Char.ofNat n)], none) := by
  have hn : (UInt8.ofNat n).toNat = n := toNat_byte (by omega)
  have h₁ : UInt8.ofNat n < 0x80 := by simp only [UInt8.lt_iff_toNat_lt, hn]; exact h
  rw [readLead, if_pos h₁, hn]

theorem readLead_two {q : Nat} (h₁ : 2 ≤ q) (h₂ : q < 32) :
    readLead (UInt8.ofNat (0xC0 + q)) =
      ([], some ⟨[UInt8.ofNat (0xC0 + q)], q, 0, 0x80, 0xBF⟩) := by
  have hn : (UInt8.ofNat (0xC0 + q)).toNat = 0xC0 + q := toNat_byte (by omega)
  simp only [readLead, UInt8.lt_iff_toNat_lt, hn, UInt8.reduceToNat]
  rw [if_neg (by omega), if_neg (by omega), if_pos (by omega), Nat.add_sub_cancel_left]

theorem readLead_three {q : Nat} (h : q < 16) :
    readLead (UInt8.ofNat (0xE0 + q)) =
      ([], some ⟨[UInt8.ofNat (0xE0 + q)], q, 1, if q = 0 then 0xA0 else 0x80,
        if q = 13 then 0x9F else 0xBF⟩) := by
  have hn : (UInt8.ofNat (0xE0 + q)).toNat = 0xE0 + q := toNat_byte (by omega)
  have h₁ : 0xE0 + q = 0xE0 ↔ q = 0 := by omega
  have h₂ : 0xE0 + q = 0xED ↔ q = 13 := by omega
  simp only [readLead, UInt8.lt_iff_toNat_lt, ← UInt8.toNat_inj, hn, UInt8.reduceToNat, h₁, h₂]
  rw [if_neg (by omega), if_neg (by omega), if_neg (by omega), if_pos (by omega),
    Nat.add_sub_cancel_left]

theorem readLead_four {q : Nat} (h : q < 5) :
    readLead (UInt8.ofNat (0xF0 + q)) =
      ([], some ⟨[UInt8.ofNat (0xF0 + q)], q, 2, if q = 0 then 0x90 else 0x80,
        if q = 4 then 0x8F else 0xBF⟩) := by
  have hn : (UInt8.ofNat (0xF0 + q)).toNat = 0xF0 + q := toNat_byte (by omega)
  have h₁ : 0xF0 + q = 0xF0 ↔ q = 0 := by omega
  have h₂ : 0xF0 + q = 0xF4 ↔ q = 4 := by omega
  simp only [readLead, UInt8.lt_iff_toNat_lt, ← UInt8.toNat_inj, hn, UInt8.reduceToNat, h₁, h₂]
  rw [if_neg (by omega), if_neg (by omega), if_neg (by omega), if_neg (by omega),
    if_pos (by omega), Nat.add_sub_cancel_left]

/-- A byte that may come next in an unfinished character, with six bits of its number. -/
theorem readByte_continuation {u : Unfinished} {r : Nat} (hr : r < 64)
    (hlow : u.low.toNat ≤ 0x80 + r) (hhigh : 0x80 + r ≤ u.high.toNat) :
    readByte (some u) (UInt8.ofNat (0x80 + r)) =
      match u.left with
      | 0 => ([.character (Char.ofNat (u.value * 64 + r))], none)
      | left + 1 =>
        ([], some ⟨u.run ++ [UInt8.ofNat (0x80 + r)], u.value * 64 + r, left, 0x80, 0xBF⟩) := by
  have hn : (UInt8.ofNat (0x80 + r)).toNat = 0x80 + r := toNat_byte (by omega)
  have hbyte : (u.low ≤ UInt8.ofNat (0x80 + r) && UInt8.ofNat (0x80 + r) ≤ u.high) = true := by
    simp only [UInt8.le_iff_toNat_le, hn, hlow, hhigh, decide_true, Bool.and_self]
  cases hleft : u.left with
  | zero => rw [readByte, if_pos hbyte, hn, Nat.add_sub_cancel_left, hleft]
  | succ left => rw [readByte, if_pos hbyte, hn, Nat.add_sub_cancel_left, hleft]

/-! ## The bytes of a code point -/

theorem CodePoint.val_lt (c : CodePoint) : c.val < 0x110000 := by
  cases c with
  | char c =>
    have h : c.toNat.isValidChar := c.valid
    simp only [Nat.isValidChar] at h
    simp only [val]
    omega
  | surrogate s =>
    have h := s.isLt
    simp only [val]
    omega

theorem isContinuation_ofNat {n : Nat} (h : n < 256) :
    isContinuation (UInt8.ofNat n) = true ↔ 0x80 ≤ n ∧ n < 0xC0 := by
  rw [isContinuation_iff, toNat_byte h]

/-- The first byte of a code point continues none, and all others do; an ASCII byte has no
others behind it. -/
theorem CodePoint.bytes_eq_cons (c : CodePoint) :
    ∃ lead others, c.bytes = lead :: others ∧ isContinuation lead = false ∧
      (∀ x ∈ others, isContinuation x = true) ∧ (lead.toNat < 0x80 → others = []) := by
  have hc := c.val_lt
  have next (n : Nat) : isContinuation (UInt8.ofNat (0x80 + n % 64)) = true :=
    (isContinuation_ofNat (by omega)).2 (by omega)
  have first {n : Nat} (h : n < 256) (h' : n < 0x80 ∨ 0xC0 ≤ n) :
      isContinuation (UInt8.ofNat n) = false := by
    rw [Bool.eq_false_iff, ne_eq, isContinuation_ofNat h]
    omega
  unfold bytes
  by_cases h₁ : c.val < 0x80
  · rw [if_pos h₁]
    exact ⟨_, [], rfl, first (by omega) (.inl h₁), by simp, fun _ => rfl⟩
  · by_cases h₂ : c.val < 0x800
    · rw [if_neg h₁, if_pos h₂]
      refine ⟨_, _, rfl, first (by omega) (.inr (by omega)),
        by simp only [List.forall_mem_cons, next, true_and]; simp, fun h => ?_⟩
      rw [toNat_byte (by omega)] at h
      omega
    · by_cases h₃ : c.val < 0x10000
      · rw [if_neg h₁, if_neg h₂, if_pos h₃]
        refine ⟨_, _, rfl, first (by omega) (.inr (by omega)),
        by simp only [List.forall_mem_cons, next, true_and]; simp, fun h => ?_⟩
        rw [toNat_byte (by omega)] at h
        omega
      · rw [if_neg h₁, if_neg h₂, if_neg h₃]
        refine ⟨_, _, rfl, first (by omega) (.inr (by omega)),
        by simp only [List.forall_mem_cons, next, true_and]; simp, fun h => ?_⟩
        rw [toNat_byte (by omega)] at h
        omega

/-- A character reads back from its bytes, whatever follows them. -/
theorem decodeFrom_char_append (c : Char) (b : Bytes) :
    decodeFrom none ((CodePoint.char c).bytes ++ b) = .character c :: decodeFrom none b := by
  have hv : c.toNat.isValidChar := c.valid
  have hc : Char.ofNat c.toNat = c := Char.ofNat_toNat c
  simp only [Nat.isValidChar] at hv
  obtain ⟨n, hn⟩ : ∃ n, (CodePoint.char c).val = n := ⟨_, rfl⟩
  have hn' : c.toNat = n := hn
  simp only [CodePoint.bytes, hn]
  rw [hn'] at hv hc
  by_cases h₁ : n < 0x80
  · simp only [h₁, if_true, List.cons_append, List.nil_append, decodeFrom, readByte,
      readLead_one, hc]
  · by_cases h₂ : n < 0x800
    · simp only [h₁, h₂, if_true, if_false, List.cons_append, List.nil_append, decodeFrom]
      rw [show readByte none _ = _ from readLead_two (by omega) (by omega)]
      simp only
      rw [readByte_continuation (Nat.mod_lt _ (by omega)) (by simp) (by simp; omega)]
      have e : n / 64 * 64 + n % 64 = n := by omega
      simp [e, hc]
    · by_cases h₃ : n < 0x10000
      · simp only [h₁, h₂, h₃, if_true, if_false, List.cons_append, List.nil_append, decodeFrom]
        rw [show readByte none _ = _ from readLead_three (by omega)]
        simp only
        rw [readByte_continuation (Nat.mod_lt _ (by omega))
          (by dsimp only; split <;> simp; omega)
          (by dsimp only; split <;> simp <;> omega)]
        simp only
        rw [readByte_continuation (Nat.mod_lt _ (by omega)) (by simp) (by simp; omega)]
        have e : (n / 4096 * 64 + n / 64 % 64) * 64 + n % 64 = n := by omega
        simp [e, hc]
      · simp only [h₁, h₂, h₃, if_false, List.cons_append, List.nil_append, decodeFrom]
        rw [show readByte none _ = _ from readLead_four (by omega)]
        simp only
        rw [readByte_continuation (Nat.mod_lt _ (by omega))
          (by dsimp only; split <;> simp; omega)
          (by dsimp only; split <;> simp <;> omega)]
        simp only
        rw [readByte_continuation (Nat.mod_lt _ (by omega)) (by simp) (by simp; omega)]
        simp only
        rw [readByte_continuation (Nat.mod_lt _ (by omega)) (by simp) (by simp; omega)]
        have e : ((n / 262144 * 64 + n / 4096 % 64) * 64 + n / 64 % 64) * 64 + n % 64 = n := by
          omega
        simp [e, hc]

/-! ## The bytes of a text -/

namespace Text

theorem exists_chars {t : Text} (h : t.hasSurrogate = false) :
    ∃ s : List Char, t = s.map CodePoint.char := by
  induction t with
  | nil => exact ⟨[], rfl⟩
  | cons c t ih =>
    simp only [hasSurrogate, List.any_cons, Bool.or_eq_false_iff] at h
    obtain ⟨s, rfl⟩ := ih h.2
    cases c with
    | char c => exact ⟨c :: s, rfl⟩
    | surrogate _ => simp [CodePoint.isSurrogate] at h

theorem hasSurrogate_append (s t : Text) :
    hasSurrogate (s ++ t) = (hasSurrogate s || hasSurrogate t) := by
  simp [hasSurrogate]

/-- A text that is written with the code points of another one needs no surrogates that the
other one does not have. -/
theorem hasSurrogate_of_subset {s t : Text} (hst : s ⊆ t) (h : t.hasSurrogate = false) :
    s.hasSurrogate = false := by
  simp only [hasSurrogate, List.any_eq_false] at h ⊢
  exact fun c hc => h c (hst hc)

end Text

theorem decodeFrom_chars_append (s : List Char) (b : Bytes) :
    decodeFrom none (Text.bytes (s.map CodePoint.char) ++ b) =
      s.map Decoded.character ++ decodeFrom none b := by
  induction s with
  | nil => rfl
  | cons c s ih =>
    simp only [List.map_cons, Text.bytes_cons, List.append_assoc, decodeFrom_char_append, ih,
      List.cons_append]

theorem undamaged_chars_append (s : List Char) (place : Nat) (ds : List Decoded) :
    undamaged place (s.map Decoded.character ++ ds) =
      (undamaged (place + Text.width (s.map CodePoint.char)) ds).map
        (s.map CodePoint.char ++ ·) := by
  induction s generalizing place with
  | nil => cases h : undamaged place ds <;> simp [h, Except.map]
  | cons c s ih =>
    simp only [List.map_cons, List.cons_append, undamaged, ih, Text.width_cons, Nat.add_assoc]
    cases undamaged (place + ((CodePoint.char c).width + Text.width (s.map CodePoint.char))) ds with
    | ok t => rfl
    | error fault => rfl

/-- Reading goes through the bytes of a text and on to what follows them. -/
theorem undamaged_bytes_append {t : Text} (h : t.hasSurrogate = false) (place : Nat) (b : Bytes) :
    undamaged place (decodeFrom none (t.bytes ++ b)) =
      (undamaged (place + t.width) (decodeFrom none b)).map (t ++ ·) := by
  obtain ⟨s, rfl⟩ := Text.exists_chars h
  rw [decodeFrom_chars_append, undamaged_chars_append]

/-- Reading stops at a byte that continues nothing. -/
theorem undamaged_continuation {x : UInt8} (h : isContinuation x = true) (place : Nat) (b : Bytes) :
    undamaged place (decodeFrom none (x :: b)) = .error ⟨place, [x], .start⟩ := by
  simp only [decodeFrom, readByte, readLead_continuation h, List.cons_append, undamaged]

theorem decode_bytes {t : Text} (h : t.hasSurrogate = false) : t.bytes.decode = .ok t := by
  have key := undamaged_bytes_append h 0 []
  rw [List.append_nil] at key
  rw [Bytes.decode, key]
  simp [decodeFrom, undamaged, Except.map]

theorem decodeLossy_bytes {t : Text} (h : t.hasSurrogate = false) : t.bytes.decodeLossy = t := by
  obtain ⟨s, rfl⟩ := Text.exists_chars h
  have key := decodeFrom_chars_append s []
  rw [List.append_nil] at key
  rw [Bytes.decodeLossy, key]
  simp [decodeFrom]

/-! ## Boundaries -/

namespace Text

/-- Whether a place in the bytes of a text lies between two of its code points, or at an
end. -/
def IsBoundary (t : Text) (n : Nat) : Prop := ∃ u v : Text, t = u ++ v ∧ u.width = n

theorem isBoundary_zero (t : Text) : t.IsBoundary 0 := ⟨[], t, rfl, rfl⟩

theorem drop_bytes_append (u v : Text) : (bytes (u ++ v)).drop u.width = v.bytes := by
  rw [bytes_append, ← length_bytes u, List.drop_left]

theorem take_bytes_append (u v : Text) : (bytes (u ++ v)).take u.width = u.bytes := by
  rw [bytes_append, ← length_bytes u, List.take_left]

/-- The bytes of a text within another one. -/
theorem slice_bytes_append (u s v : Text) :
    (bytes (u ++ s ++ v)).slice ⟨u.width, s.width⟩ = s.bytes := by
  rw [List.append_assoc, Bytes.slice, drop_bytes_append, take_bytes_append]

theorem IsBoundary.cons {c : CodePoint} {t : Text} {n : Nat} (h : t.IsBoundary n) :
    IsBoundary (c :: t) (c.width + n) := by
  obtain ⟨u, v, rfl, rfl⟩ := h
  exact ⟨c :: u, v, rfl, by simp⟩

/-- A place that is no boundary holds a byte that continues a code point. -/
theorem isBoundary_or_continuation {t : Text} {n : Nat} (h : n ≤ t.width) :
    t.IsBoundary n ∨ ∃ x b, t.bytes.drop n = x :: b ∧ isContinuation x = true := by
  induction t generalizing n with
  | nil =>
    obtain rfl : n = 0 := by simpa using h
    exact .inl (isBoundary_zero [])
  | cons c t ih =>
    obtain ⟨lead, others, hc, -, hothers, -⟩ := c.bytes_eq_cons
    have hw : c.width = others.length + 1 := by rw [← c.length_bytes, hc, List.length_cons]
    rw [width_cons] at h
    rw [bytes_cons, hc]
    by_cases hn : n = 0
    · exact .inl (hn ▸ isBoundary_zero _)
    · by_cases hlt : n < c.width
      · -- the place lies inside the first code point
        have hlen : n - 1 < others.length := by omega
        refine .inr ⟨others[n - 1], others.drop n ++ bytes t, ?_, hothers _ (List.getElem_mem _)⟩
        obtain ⟨m, rfl⟩ : ∃ m, n = m + 1 := ⟨n - 1, by omega⟩
        rw [List.cons_append, List.drop_succ_cons,
          List.drop_append_of_le_length (by omega), List.drop_eq_getElem_cons (by omega)]
        rfl
      · obtain ⟨m, rfl⟩ : ∃ m, n = c.width + m := ⟨n - c.width, by omega⟩
        have hdrop : (lead :: others ++ bytes t).drop (c.width + m) = (bytes t).drop m := by
          rw [← hc, ← c.length_bytes, List.drop_append]
          simp
        rw [hdrop]
        have hm : m ≤ width t := by omega
        rcases ih hm with hb | hb
        · exact .inl hb.cons
        · exact .inr hb

/-- A place that holds the first byte of a code point is a boundary. -/
theorem isBoundary_of_drop {t : Text} {n : Nat} {x : UInt8} {b : Bytes}
    (h : t.bytes.drop n = x :: b) (hx : isContinuation x = false) : t.IsBoundary n := by
  have hn : n ≤ t.width := by
    rw [← length_bytes]
    have := congrArg List.length h
    rw [List.length_drop, List.length_cons] at this
    omega
  rcases isBoundary_or_continuation hn with hb | ⟨y, b', hy, hc⟩
  · exact hb
  · rw [h, List.cons.injEq] at hy
    rw [hy.1, hc] at hx
    contradiction

/-- No byte behind a boundary continues a code point. -/
theorem not_continuation_of_drop {t : Text} {n : Nat} {x : UInt8} {b : Bytes}
    (h : t.IsBoundary n) (hdrop : t.bytes.drop n = x :: b) : isContinuation x = false := by
  obtain ⟨u, v, rfl, rfl⟩ := h
  rw [drop_bytes_append] at hdrop
  cases v with
  | nil => cases hdrop
  | cons c v =>
    obtain ⟨lead, others, hc, hlead, -, -⟩ := c.bytes_eq_cons
    rw [bytes_cons, hc] at hdrop
    obtain ⟨rfl, -⟩ := List.cons.inj hdrop
    exact hlead

/-- The place behind an ASCII byte is a boundary. -/
theorem isBoundary_succ_of_ascii {t : Text} {n : Nat} {x : UInt8} {b : Bytes}
    (h : t.bytes.drop n = x :: b) (hx : x.toNat < 0x80) : t.IsBoundary (n + 1) := by
  have hcont : isContinuation x = false := by
    rw [Bool.eq_false_iff, ne_eq, isContinuation_iff]
    omega
  obtain ⟨u, v, rfl, rfl⟩ := isBoundary_of_drop h hcont
  rw [drop_bytes_append] at h
  cases v with
  | nil => simp at h
  | cons c v =>
    obtain ⟨lead, others, hc, -, -, hascii⟩ := c.bytes_eq_cons
    rw [bytes_cons, hc, List.cons_append, List.cons.injEq] at h
    have hw : c.width = 1 := by rw [← c.length_bytes, hc, hascii (h.1 ▸ hx), List.length_singleton]
    exact ⟨u ++ [c], v, by simp, by simp [hw]⟩

/-- The bytes between two boundaries are those of a part of the text. -/
theorem exists_slice_eq {t : Text} {m n : Nat} (hm : t.IsBoundary m) (hn : t.IsBoundary n)
    (hmn : m ≤ n) : ∃ s : Text, s ⊆ t ∧ t.bytes.slice ⟨m, n - m⟩ = s.bytes := by
  obtain ⟨u, v, rfl, rfl⟩ := hm
  obtain ⟨u', v', huv, rfl⟩ := hn
  rcases List.append_eq_append_iff.1 huv with ⟨s, rfl, rfl⟩ | ⟨s, rfl, rfl⟩
  · rw [width_append, Nat.add_sub_cancel_left, ← List.append_assoc]
    exact ⟨s, fun c hc => by simp [hc], slice_bytes_append u s v'⟩
  · -- the second boundary is not before the first, so nothing lies between them
    have hnone : u'.width - (u' ++ s).width = 0 := Nat.sub_eq_zero_of_le (by simp)
    rw [hnone]
    exact ⟨[], List.nil_subset _, List.take_zero⟩

end Text

end VisibleText
