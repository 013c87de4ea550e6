import Mathlib.Order.Interval.Set.Defs
import Mathlib.Order.Monotone.Basic
import VisibleText.Proofs.CharacterScan
import VisibleText.Proofs.FieldPlace

/-!
# The places of a text, with and without a table

The table of a text is built in one pass over the widths of its code points, so each entry is the
width of everything before its code point (`Text.getElem_starts`). Hence an index of places answers
like a count that starts anew for every question (`PlaceIndex.byteOffset_ofText`).

Without a table the place of a code point is its index. A text is as wide as it is long just if all
of it is ASCII (`Text.width_eq_length_iff`), so no other text can do without.

Widths are read off ranges of numbers. They are the sizes that UTF-8 has for characters
(`CodePoint.width_eq_utf8Size`), because a text without surrogates is written in the bytes in which
strings are held (`Text.bytes_text`).

The places of a text are the boundaries of its code points (`exists_byteOffset_iff`). So the nodes
of a document stand at places, and from a place the scan of an opening tag comes to a place.
-/

set_option autoImplicit false

namespace VisibleText

/-! ## Widths and UTF-8 -/

namespace CodePoint

/-- The number of bytes that UTF-8 has for a character. A surrogate counts as three. -/
def utf8Size : CodePoint → Nat
  | char c => c.utf8Size
  | surrogate _ => 3

/-- A character is written in the bytes in which strings hold it. -/
theorem bytes_char (c : Char) : (char c).bytes = String.utf8EncodeChar c := by
  obtain ⟨n, hn⟩ : ∃ n, c.val.toNat = n := ⟨_, rfl⟩
  have hval : (char c).val = n := hn
  have hlt : n < 0x110000 := hval ▸ (char c).val_lt
  have one : n ≤ 127 ↔ n < 0x80 := Nat.lt_succ_iff.symm
  have two : n ≤ 2047 ↔ n < 0x800 := Nat.lt_succ_iff.symm
  have three : n ≤ 65535 ↔ n < 0x10000 := Nat.lt_succ_iff.symm
  simp only [bytes, String.utf8EncodeChar, hval, hn, one, two, three]
  -- in each range the mask that strings put on the first byte takes nothing away
  by_cases h₁ : n < 0x80
  · rw [if_pos h₁, if_pos h₁]
  · by_cases h₂ : n < 0x800
    · have hlead : n / 64 % 32 = n / 64 := Nat.mod_eq_of_lt (by omega)
      simp only [h₁, h₂, if_true, if_false, hlead, Nat.add_comm]
    · by_cases h₃ : n < 0x10000
      · have hlead : n / 4096 % 16 = n / 4096 := Nat.mod_eq_of_lt (by omega)
        simp only [h₁, h₂, h₃, if_true, if_false, hlead, Nat.add_comm]
      · have hlead : n / 262144 % 8 = n / 262144 := Nat.mod_eq_of_lt (by omega)
        simp only [h₁, h₂, h₃, if_false, hlead, Nat.add_comm]

theorem width_eq_utf8Size (c : CodePoint) : c.width = c.utf8Size := by
  cases c with
  | char c => rw [← length_bytes, bytes_char, String.length_utf8EncodeChar, utf8Size]
  | surrogate s => rw [width_surrogate, utf8Size]

theorem width_eq_one_iff (c : CodePoint) : c.width = 1 ↔ c.val < 0x80 := by
  unfold width
  split
  · next h => exact iff_of_true rfl h
  · next h =>
    apply iff_of_false _ h
    repeat' split
    all_goals decide

end CodePoint

namespace Text

/-- The number of bytes that UTF-8 has for a text, with three for each surrogate. -/
def utf8Size (t : Text) : Nat := (t.map CodePoint.utf8Size).foldr (· + ·) 0

theorem width_eq_utf8Size (t : Text) : t.width = t.utf8Size := by
  have hwidth : CodePoint.width = CodePoint.utf8Size := funext CodePoint.width_eq_utf8Size
  rw [width, utf8Size, hwidth]

/-- A string holds no surrogates. -/
theorem hasSurrogate_text (s : String) : (text s).hasSurrogate = false := by
  simp [hasSurrogate, text, CodePoint.isSurrogate]

/-- The text of a string is written in the bytes of the string. -/
theorem bytes_text (s : String) : (text s).bytes = s.toUTF8.data.toList := by
  have hchar : CodePoint.bytes ∘ CodePoint.char = String.utf8EncodeChar :=
    funext CodePoint.bytes_char
  have hstring : s.toUTF8 = s.toList.utf8Encode := by
    rw [String.toUTF8_eq_toByteArray, ← String.toByteArray_ofList, String.ofList_toList]
  rw [hstring, List.utf8Encode, List.data_toByteArray, List.toList_toArray, bytes, text,
    List.flatMap_map]
  exact congrArg (s.toList.flatMap ·) hchar

/-- A text is that of a string, and it is encoded in so many bytes, which are those of the
string. -/
def EncodedIn (t : Text) (n : Nat) : Prop :=
  ∃ s : String, t = text s ∧ t.encode? = some s.toUTF8.data.toList ∧ n = s.utf8ByteSize

/-- A text without surrogates can be encoded, in as many bytes as it is wide. -/
theorem encodedIn_width {t : Text} (h : t.hasSurrogate = false) : t.EncodedIn t.width := by
  obtain ⟨cs, rfl⟩ := exists_chars h
  have htext : cs.map CodePoint.char = text (String.ofList cs) := by
    rw [text, String.toList_ofList]
  rw [htext]
  refine ⟨String.ofList cs, rfl, ?_, ?_⟩
  · rw [encode?, hasSurrogate_text, if_neg Bool.false_ne_true, bytes_text]
  · -- a string keeps its bytes, and its size is their number
    rw [← length_bytes, bytes_text]
    rfl

/-! ## Widths of what stands before a code point -/

theorem isAscii_cons {c : CodePoint} {t : Text} :
    isAscii (c :: t) = true ↔ c.val < 0x80 ∧ t.isAscii = true := by
  rw [isAscii, List.all_cons, Bool.and_eq_true, decide_eq_true_eq]
  rfl

theorem isAscii_take {t : Text} (h : t.isAscii = true) (n : Nat) : isAscii (t.take n) = true := by
  rw [isAscii, List.all_eq_true] at h ⊢
  intro c hc
  exact h c (List.mem_of_mem_take hc)

theorem length_le_width (t : Text) : t.length ≤ t.width := by
  induction t with
  | nil => exact Nat.le_refl 0
  | cons c t ih =>
    have hc := c.width_pos
    rw [List.length_cons, width_cons]
    omega

/-- A text is as wide as it is long just if all of it is ASCII. -/
theorem width_eq_length_iff (t : Text) : t.width = t.length ↔ t.isAscii = true := by
  induction t with
  | nil => exact iff_of_true rfl rfl
  | cons c t ih =>
    -- no code point is narrower than one byte, so none of them can make up for a wider one
    have hc := c.width_pos
    have ht := length_le_width t
    rw [isAscii_cons, ← ih, ← c.width_eq_one_iff, width_cons, List.length_cons]
    omega

/-- Each code point has more before it than the ones before it have. -/
theorem strictMonoOn_width_take (t : Text) :
    StrictMonoOn (fun n => width (t.take n)) (Set.Iic t.length) := by
  intro m _ n hn hmn
  have hn : n ≤ t.length := hn
  have hsplit := List.take_append_drop m (t.take n)
  rw [List.take_take, Nat.min_eq_left (Nat.le_of_lt hmn)] at hsplit
  -- what the later code point has before it in addition holds at least the earlier one
  have hbetween : (t.take n).drop m ≠ [] := by
    rw [ne_eq, List.drop_eq_nil_iff, List.length_take_of_le hn]
    omega
  have hpos := width_pos hbetween
  show width (t.take m) < width (t.take n)
  rw [← hsplit, width_append]
  omega

/-- An entry of the table is the width of everything before its code point. -/
theorem getElem_starts (t : Text) {n : Nat} (h : n < t.starts.length) :
    t.starts[n] = width (t.take n) := by
  calc t.starts[n] = ((t.map CodePoint.width).take n).foldl (· + ·) 0 := List.getElem_scanl h
    _ = ((t.take n).map CodePoint.width).sum := by rw [← List.map_take, List.sum_eq_foldl]
    _ = width (t.take n) := List.sum_eq_foldr

/-! ## Places that are counted anew -/

section Count

variable {t : Text}

theorem byteOffset_eq_error_iff {index : Int} {e : IndexError} :
    t.byteOffset index = .error e ↔ (index < 0 ∨ t.length < index) ∧ e = ⟨index, t.length⟩ := by
  unfold byteOffset
  split
  · next h =>
    refine iff_of_false (by rintro ⟨⟩) ?_
    rintro ⟨hrefused, -⟩
    omega
  · next h =>
    have hrefused : index < 0 ∨ (t.length : Int) < index := by omega
    rw [Except.error.injEq, eq_comm, and_iff_right hrefused]

theorem byteOffset_eq_ok_iff {index : Int} {place : Nat} : t.byteOffset index = .ok place ↔
    (0 ≤ index ∧ index ≤ t.length) ∧ place = width (t.take index.toNat) := by
  unfold byteOffset
  split
  · next h => rw [Except.ok.injEq, eq_comm, and_iff_right h]
  · next h => exact iff_of_false (by rintro ⟨⟩) (fun hgiven => h hgiven.1)

theorem byteOffset_length (t : Text) : t.byteOffset t.length = .ok t.width := by
  have key := byteOffset_append t []
  rwa [List.append_nil] at key

theorem byteOffset_lt_iff {i j : Int} {a b : Nat} (hi : t.byteOffset i = .ok a)
    (hj : t.byteOffset j = .ok b) : i < j ↔ a < b := by
  obtain ⟨hi, rfl⟩ := byteOffset_eq_ok_iff.1 hi
  obtain ⟨hj, rfl⟩ := byteOffset_eq_ok_iff.1 hj
  have hi' : i.toNat ∈ Set.Iic t.length := show i.toNat ≤ t.length by omega
  have hj' : j.toNat ∈ Set.Iic t.length := show j.toNat ≤ t.length by omega
  rw [(strictMonoOn_width_take t).lt_iff_lt hi' hj']
  omega

end Count

end Text

/-! ## An index of places -/

namespace PlaceIndex

/-- An index of places is exact for a text. -/
structure IsExact (p : PlaceIndex) (t : Text) : Prop where
  /-- it refuses just the indexes that the text does not have -/
  refuses : ∀ index e, p.byteOffset index = .error e ↔
    (index < 0 ∨ t.length < index) ∧ e = ⟨index, t.length⟩
  /-- any other index has its place behind the bytes of everything before it -/
  gives : ∀ index place, p.byteOffset index = .ok place ↔
    (0 ≤ index ∧ index ≤ t.length) ∧ place = Text.utf8Size (t.take index.toNat)
  increasing : ∀ i j a b, p.byteOffset i = .ok a → p.byteOffset j = .ok b → (i < j ↔ a < b)
  /-- where everything before a place can be encoded, so in any text without surrogates, its bytes
  are as many as the place says -/
  encoded : ∀ index place, p.byteOffset index = .ok place →
    Text.hasSurrogate (t.take index.toNat) = false → Text.EncodedIn (t.take index.toNat) place
  size : p.size = .ok t.utf8Size
  size_encoded : ∀ n, p.size = .ok n → t.hasSurrogate = false → t.EncodedIn n

section Index

variable {p : PlaceIndex} {t : Text}

/-- An index that answers like counting anew is exact. -/
theorem isExact_of_byteOffset_eq (hlength : p.length = t.length)
    (h : p.byteOffset = t.byteOffset) : p.IsExact t := by
  have hsize : p.size = .ok t.width := by
    rw [PlaceIndex.size, h, hlength, Text.byteOffset_length]
  constructor
  case refuses =>
    intro index e
    rw [h]
    exact Text.byteOffset_eq_error_iff
  case gives =>
    intro index place
    rw [h, ← Text.width_eq_utf8Size]
    exact Text.byteOffset_eq_ok_iff
  case increasing =>
    intro i j a b hi hj
    rw [h] at hi hj
    exact Text.byteOffset_lt_iff hi hj
  case encoded =>
    intro index place hplace hencodable
    rw [h] at hplace
    obtain ⟨-, rfl⟩ := Text.byteOffset_eq_ok_iff.1 hplace
    exact Text.encodedIn_width hencodable
  case size => rw [hsize, Text.width_eq_utf8Size]
  case size_encoded =>
    intro n hn hencodable
    rw [hsize, Except.ok.injEq] at hn
    exact hn ▸ Text.encodedIn_width hencodable

/-- An index for as many code points as a text has refuses what the text does not have, so only the
places that it gives matter. -/
theorem byteOffset_eq_of_places (hlength : p.length = t.length)
    (h : ∀ n ≤ t.length, p.byteOffset n = .ok (Text.width (t.take n))) :
    p.byteOffset = t.byteOffset := by
  funext index
  by_cases hindex : 0 ≤ index ∧ index ≤ t.length
  · obtain ⟨n, rfl⟩ := Int.eq_ofNat_of_zero_le hindex.1
    rw [h n (by omega), Text.byteOffset, if_pos hindex, Int.toNat_natCast]
  · have hrefused : index < 0 ∨ (p.length : Int) < index := by omega
    rw [PlaceIndex.byteOffset, dif_pos hrefused, Text.byteOffset, if_neg hindex, hlength]

/-- An index that is not refused is looked up, or is its own place. -/
theorem byteOffset_of_le {n : Nat} (h : n ≤ p.length) : p.byteOffset n =
    match p.table? with
    | none => .ok n
    | some table => .ok (table.get ⟨n, Nat.lt_succ_of_le h⟩) := by
  have hgiven : ¬((n : Int) < 0 ∨ (p.length : Int) < n) := by omega
  rw [PlaceIndex.byteOffset, dif_neg hgiven]
  rfl

/-- In a table, the entry of a code point is its place. -/
theorem byteOffset_tabulated (t : Text) : (tabulated t).byteOffset = t.byteOffset := by
  apply byteOffset_eq_of_places rfl
  intro n hn
  -- the table has one entry more than the text has code points, so the end has one as well
  have hentry : n < t.starts.length := by
    rw [Text.length_starts]
    exact Nat.lt_succ_of_le hn
  calc (tabulated t).byteOffset n = .ok t.starts[n] := byteOffset_of_le (p := tabulated t) hn
    _ = .ok (Text.width (t.take n)) := congrArg Except.ok (Text.getElem_starts t hentry)

/-- Without a table, every index is its own place. -/
theorem byteOffset_ofLength {n length : Nat} (h : n ≤ length) :
    (ofLength length).byteOffset n = .ok n :=
  byteOffset_of_le (p := ofLength length) h

theorem byteOffset_ofLength_of_isAscii (h : t.isAscii = true) :
    (ofLength t.length).byteOffset = t.byteOffset := by
  apply byteOffset_eq_of_places rfl
  intro n hn
  rw [byteOffset_ofLength hn, (Text.width_eq_length_iff _).2 (Text.isAscii_take h n),
    List.length_take_of_le hn]

/-- With a table or without one, the places of a text are those found by counting anew. -/
theorem byteOffset_ofText (t : Text) : (ofText t).byteOffset = t.byteOffset := by
  unfold ofText
  split
  · next h => exact byteOffset_ofLength_of_isAscii h
  · exact byteOffset_tabulated t

theorem length_ofText (t : Text) : (ofText t).length = t.length := by
  unfold ofText
  split
  · rfl
  · rfl

/-- The place of its end shows that a text does not need a table. -/
theorem isAscii_of_isExact (h : (ofLength t.length).IsExact t) : t.isAscii = true := by
  have hend : (ofLength t.length).byteOffset t.length = .ok t.utf8Size := h.size
  rw [byteOffset_ofLength (Nat.le_refl _), Except.ok.injEq, ← Text.width_eq_utf8Size] at hend
  exact (Text.width_eq_length_iff t).1 hend.symm

/-- The places of a text are the boundaries of its code points. -/
theorem exists_byteOffset_iff {place : Nat} :
    (∃ index, (ofText t).byteOffset index = .ok place) ↔ t.IsBoundary place := by
  rw [byteOffset_ofText]
  constructor
  · rintro ⟨index, h⟩
    obtain ⟨-, rfl⟩ := Text.byteOffset_eq_ok_iff.1 h
    exact ⟨t.take index.toNat, t.drop index.toNat, (List.take_append_drop _ _).symm, rfl⟩
  · rintro ⟨before, behind, rfl, rfl⟩
    exact ⟨before.length, Text.byteOffset_append before behind⟩

/-- Every node in the document of a page stands at a place of the page. -/
theorem exists_byteOffset_eq_position {page : Text} {d : Document}
    (hparse : Document.parse page = .ok d) :
    ∀ x ∈ d.nodes, ∃ index, (ofText page).byteOffset index = .ok x.position := by
  intro x hx
  apply exists_byteOffset_iff.2
  exact Field.isBoundary_position_of_parse hparse x hx

/-- From a place of a page, the scan of an opening tag comes to a later one. -/
theorem exists_byteOffset_eq_openTagEnd {page : Text} {window index : Int} {start stop : Nat}
    (hstart : (ofText page).byteOffset index = .ok start)
    (h : page.bytes.openTagEnd? window start = some stop) :
    ∃ next > index, (ofText page).byteOffset next = .ok stop := by
  obtain ⟨before, behind, rfl, rfl⟩ := exists_byteOffset_iff.1 ⟨index, hstart⟩
  obtain ⟨hlt, -, hboundary, -⟩ := Text.bounds_of_openTagEnd? h
  obtain ⟨next, hnext⟩ := exists_byteOffset_iff.2 hboundary
  refine ⟨next, ?_, hnext⟩
  rw [byteOffset_ofText] at hstart hnext
  exact (Text.byteOffset_lt_iff hstart hnext).2 hlt

/-- Whatever the text is, its index is exact. The one with a table is exact as well, so both give
the same answers, and the one without a table is exact just for the texts that are all ASCII. -/
theorem exact_with_or_without_table (t : Text) :
    (ofText t).IsExact t ∧ (tabulated t).IsExact t ∧
      (ofText t).byteOffset = (tabulated t).byteOffset ∧
      ((ofLength t.length).IsExact t ↔ t.isAscii = true) := by
  refine ⟨?_, ?_, ?_, ?_⟩
  · exact isExact_of_byteOffset_eq (length_ofText t) (byteOffset_ofText t)
  · exact isExact_of_byteOffset_eq rfl (byteOffset_tabulated t)
  · rw [byteOffset_ofText, byteOffset_tabulated]
  · constructor
    · exact isAscii_of_isExact
    · intro h
      exact isExact_of_byteOffset_eq rfl (byteOffset_ofLength_of_isAscii h)

/-- The first and the last code points of each width, and a surrogate between them: what stands
before the surrogate is encoded in 6 bytes. An ASCII text can do without a table, this one cannot. -/
theorem exact_with_or_without_table_of_widths : ∃ t : Text,
    t = text "\x7f\u0080\u0800" ++ [.surrogate 0] ++ text "\uffff𐀀" ∧
      (ofText t).byteOffset 3 = .ok 6 ∧ Text.EncodedIn (t.take 3) 6 ∧
      (ofText t).byteOffset 4 = .ok 9 ∧ (ofText t).size = .ok 16 ∧
      (ofText t).byteOffset 7 = .error ⟨7, 6⟩ ∧ (ofText t).byteOffset (-1) = .error ⟨-1, 6⟩ ∧
      ¬(ofLength t.length).IsExact t ∧ (ofLength 3).IsExact (text "a\x7f!") := by
  obtain ⟨hexact, -, -, hshort⟩ := exact_with_or_without_table
    (text "\x7f\u0080\u0800" ++ [.surrogate 0] ++ text "\uffff𐀀")
  obtain ⟨-, -, -, hascii⟩ := exact_with_or_without_table (text "a\x7f!")
  have hplace := (hexact.gives 3 6).2 ⟨by decide, by decide⟩
  refine ⟨_, rfl, hplace, hexact.encoded 3 6 hplace (by decide),
    (hexact.gives 4 9).2 ⟨by decide, by decide⟩, hexact.size,
    (hexact.refuses 7 _).2 ⟨by decide, rfl⟩, (hexact.refuses (-1) _).2 ⟨by decide, rfl⟩, ?_,
    hascii.2 (by decide)⟩
  rw [hshort]
  decide

end Index

end PlaceIndex

end VisibleText
