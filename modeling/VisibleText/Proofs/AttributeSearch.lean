import VisibleText.Proofs.FieldSite
import VisibleText.Proofs.TagScan

/-!
# Where the value of an attribute is found

The search for the value of an attribute looks for bytes that could start the value: the name,
an equals sign with ASCII blanks around it, and a quote (`StartsValue`). It takes every such
bytes behind an ASCII blank in the opening tag, whatever they belong to, as one match cannot hide
the start of another one (`mem_occurrencesFrom`), and takes nothing else
(`exists_of_mem_occurrencesFrom`).

Bytes that could start a value are told by where they start as well as by where they end, even if
the blanks in them are any blanks (`eq_of_valueHead_eq`). So the search finds the value of an
attribute where it was read just if the attribute is in sight: a blank that the search knows
stands before it, only such blanks stand around its equals sign, and its value starts in the part
of the tag that is searched (`start_eq_valueStart_iff`).
-/

set_option autoImplicit false

namespace VisibleText

namespace Bytes

/-! ## Starts of values -/

/-- What stands before a quoted value: the name, an equals sign between other bytes, and a
quote. -/
def valueHead (name before after : Bytes) (quote : UInt8) : Bytes :=
  name ++ before ++ 0x3D :: after ++ [quote]

/-- Bytes that the search takes for the start of a quoted value. -/
def StartsValue (name head : Bytes) : Prop :=
  ∃ before after quote, head = valueHead name before after quote ∧
    before.all isAsciiBlank = true ∧ after.all isAsciiBlank = true ∧
    (quote = 0x22 ∨ quote = 0x27)

theorem dropWhile_blanks {blanks rest : Bytes} {x : UInt8} (h : blanks.all isAsciiBlank = true)
    (hx : isAsciiBlank x = false) :
    (blanks ++ x :: rest).dropWhile isAsciiBlank = x :: rest := by
  rw [List.dropWhile_append_of_pos (by simpa using h),
    List.dropWhile_cons_of_neg (by simp [hx])]

theorem isAsciiBlank_quote {quote : UInt8} (h : quote = 0x22 ∨ quote = 0x27) :
    isAsciiBlank quote = false := by
  rcases h with rfl | rfl <;> rfl

/-- A quoted value starts in some bytes where they start like one. -/
theorem quotedStart?_eq_some_iff {name b : Bytes} {size : Nat} :
    quotedStart? name b = some size ↔
      ∃ head rest, b = head ++ rest ∧ StartsValue name head ∧ size = head.length := by
  constructor
  · intro h
    simp only [quotedStart?, Option.bind_eq_bind, Option.bind_eq_some_iff] at h
    obtain ⟨behind, hprefix, h⟩ := h
    have hb := List.append_eq_of_isPrefixOf?_eq_some hprefix
    split at h
    · next assigned hequals =>
      have hbehind := List.takeWhile_append_dropWhile (p := isAsciiBlank) (l := behind)
      split at h
      · next quote rest hquote =>
        have hassigned := List.takeWhile_append_dropWhile (p := isAsciiBlank) (l := assigned)
        rw [hquote] at hassigned
        rw [hequals, ← hassigned] at hbehind
        split at h
        · next hmark =>
          cases h
          rw [Bool.or_eq_true, decide_eq_true_eq, decide_eq_true_eq] at hmark
          have hsplit : b = valueHead name (behind.takeWhile isAsciiBlank)
              (assigned.takeWhile isAsciiBlank) quote ++ rest :=
            hb.symm.trans ((congrArg (name ++ ·) hbehind.symm).trans (by simp [valueHead]))
          refine ⟨_, rest, hsplit, ⟨_, _, quote, rfl, List.all_takeWhile, List.all_takeWhile,
            hmark⟩, ?_⟩
          rw [hsplit, List.length_append, Nat.add_sub_cancel]
        · cases h
      · cases h
    · cases h
  · rintro ⟨head, rest, rfl, ⟨before, after, quote, rfl, hbefore, hafter, hmark⟩, rfl⟩
    have hprefix : name.isPrefixOf? (valueHead name before after quote ++ rest) =
        some (before ++ 0x3D :: (after ++ quote :: rest)) := by
      rw [List.isPrefixOf?_eq_some_iff_append_eq]
      simp [valueHead]
    have hquote : (quote = 0x22 || quote = 0x27) = true := by simpa using hmark
    simp only [quotedStart?, hprefix, Option.bind_eq_bind, Option.bind_some,
      dropWhile_blanks hbefore (show isAsciiBlank 0x3D = false from rfl),
      dropWhile_blanks hafter (isAsciiBlank_quote hmark), hquote, if_true,
      List.length_append, Nat.add_sub_cancel]

/-- Whether a byte can stand in the name of an attribute that is searched for: visible ASCII
without the signs around a value. -/
def isNameByte (x : UInt8) : Bool := 0x21 ≤ x && x < 0x7F && x ≠ 0x3D && x ≠ 0x22 && x ≠ 0x27

theorem isNameByte_of_blank {x : UInt8} (h : isAsciiBlank x = true) : isNameByte x = false := by
  rw [Bool.eq_false_iff]
  intro hx
  simp only [isAsciiBlank, isNameByte, Bool.or_eq_true, Bool.and_eq_true, beq_iff_eq,
    decide_eq_true_eq, UInt8.le_iff_toNat_le, UInt8.lt_iff_toNat_lt, ← UInt8.toNat_inj,
    UInt8.reduceToNat] at h hx
  omega

/-- No byte of a name stands behind a blank in the start of a value: the only name is in front of
all blanks. -/
theorem StartsValue.not_name_behind_blank {name head u v : Bytes} {x y : UInt8}
    (h : StartsValue name head) (hname : name.all isNameByte = true)
    (hhead : head = u ++ x :: y :: v) (hx : isAsciiBlank x = true) : isNameByte y = false := by
  obtain ⟨before, after, quote, rfl, hbefore, hafter, hmark⟩ := h
  have htail : ∀ z ∈ before ++ 0x3D :: after ++ [quote], isNameByte z = false := by
    intro z hz
    rw [List.all_eq_true] at hbefore hafter
    simp only [List.mem_append, List.mem_cons, List.not_mem_nil, or_false] at hz
    rcases hz with (hz | rfl | hz) | rfl
    · exact isNameByte_of_blank (hbefore z hz)
    · rfl
    · exact isNameByte_of_blank (hafter z hz)
    · rcases hmark with rfl | rfl <;> rfl
  have hsplit : name ++ (before ++ 0x3D :: after ++ [quote]) = u ++ x :: y :: v := by
    rw [← hhead]
    simp [valueHead]
  rcases List.append_eq_append_iff.1 hsplit with ⟨more, -, hmore⟩ | ⟨more, hname', hmore⟩
  · exact htail y (hmore ▸ by simp)
  · -- the blank is no part of the name, so the name ends before it
    cases more with
    | nil => exact htail y (hmore ▸ by simp)
    | cons z more =>
      obtain ⟨rfl, -⟩ := List.cons.inj hmore
      have hz := List.all_eq_true.1 hname x (by simp [hname'])
      rw [isNameByte_of_blank hx] at hz
      cases hz

/-! ## Occurrences -/

/-- The place behind some bytes is behind a blank; what stands before the bytes is given. -/
def BehindBlank (behindBlank : Bool) (seen : Bytes) : Prop :=
  (behindBlank :: seen.map isAsciiBlank).getLast? = some true

theorem behindBlank_cons {behindBlank : Bool} {x : UInt8} {seen : Bytes} :
    BehindBlank behindBlank (x :: seen) ↔ BehindBlank (isAsciiBlank x) seen := by
  rw [BehindBlank, BehindBlank, List.map_cons, List.getLast?_cons_cons]

theorem behindBlank_concat {behindBlank : Bool} {seen : Bytes} {x : UInt8} :
    BehindBlank behindBlank (seen ++ [x]) ↔ isAsciiBlank x = true := by
  rw [BehindBlank, List.map_append, ← List.cons_append, List.map_singleton, List.getLast?_concat,
    Option.some.injEq]

theorem StartsValue.exists_eq_cons {name head : Bytes} (h : StartsValue name head)
    (name_ne : name ≠ []) : ∃ x tail, head = x :: tail ∧ x ∈ name := by
  obtain ⟨before, after, quote, rfl, -⟩ := h
  obtain ⟨x, name, rfl⟩ := List.exists_cons_of_ne_nil name_ne
  exact ⟨x, _, rfl, .head _⟩

/-- A place with an occurrence that is behind some bytes is not passed over: no occurrence that
starts in these bytes reaches behind them. -/
theorem size_le_of_behindBlank {name seen head rest : Bytes} {behindBlank : Bool} {x : UInt8}
    {size : Nat} (name_ne : name ≠ []) (hname : name.all isNameByte = true)
    (hhead : StartsValue name head) (hbehind : BehindBlank behindBlank (x :: seen))
    (hsize : quotedStart? name (x :: (seen ++ head ++ rest)) = some size) :
    size - 1 ≤ seen.length := by
  obtain ⟨head', rest', hsplit, hhead', rfl⟩ := quotedStart?_eq_some_iff.1 hsize
  obtain ⟨y, tail, rfl, hy⟩ := hhead.exists_eq_cons name_ne
  by_contra hlong
  have hprefix : x :: seen ++ [y] <+: head' := by
    refine List.prefix_of_prefix_length_le ?_ (hsplit ▸ List.prefix_append _ _) ?_
    · exact ⟨tail ++ rest, by simp⟩
    · simp only [List.length_append, List.length_cons, List.length_nil]
      omega
  obtain ⟨v, hv⟩ := hprefix
  -- the byte before the name is a blank
  obtain ⟨u, z, hu⟩ : ∃ u z, x :: seen = u ++ [z] :=
    ⟨_, _, (List.dropLast_append_getLast (List.cons_ne_nil x seen)).symm⟩
  have hz : isAsciiBlank z = true := behindBlank_concat.1 (hu ▸ hbehind)
  have hnot := hhead'.not_name_behind_blank hname (u := u) (v := v) (y := y)
    (by rw [← hv, hu]; simp) hz
  rw [List.all_eq_true.1 hname y hy] at hnot
  cases hnot

theorem mem_occurrencesFrom {name head rest seen : Bytes} {place passed : Nat}
    {behindBlank : Bool} (name_ne : name ≠ []) (hname : name.all isNameByte = true)
    (hhead : StartsValue name head) (hbehind : BehindBlank behindBlank seen)
    (hpassed : passed ≤ seen.length) :
    ⟨place + seen.length, place + seen.length + head.length⟩ ∈
      occurrencesFrom name place passed behindBlank (seen ++ head ++ rest) := by
  induction seen generalizing place passed behindBlank with
  | nil =>
    obtain rfl : behindBlank = true := by simpa [BehindBlank] using hbehind
    obtain rfl := Nat.le_zero.1 hpassed
    have hsize : quotedStart? name (head ++ rest) = some head.length :=
      quotedStart?_eq_some_iff.2 ⟨head, rest, rfl, hhead, rfl⟩
    obtain ⟨y, tail, rfl, -⟩ := hhead.exists_eq_cons name_ne
    simp only [List.nil_append, List.cons_append] at hsize ⊢
    simp only [occurrencesFrom, if_true, hsize]
    exact .head _
  | cons x seen ih =>
    have hlength : place + (x :: seen).length = place + 1 + seen.length := by
      rw [List.length_cons]
      omega
    have hbehind' := behindBlank_cons.1 hbehind
    rw [hlength, List.cons_append, List.cons_append]
    cases passed with
    | succ passed => exact ih hbehind' (Nat.le_of_succ_le_succ hpassed)
    | zero =>
      simp only [occurrencesFrom]
      split
      · next size hfound =>
        refine .tail _ (ih hbehind' ?_)
        split at hfound
        · exact size_le_of_behindBlank name_ne hname hhead hbehind hfound
        · cases hfound
      · exact ih hbehind' (Nat.zero_le _)

theorem exists_of_mem_occurrencesFrom {name b : Bytes} {place passed : Nat} {behindBlank : Bool}
    {o : Occurrence} (h : o ∈ occurrencesFrom name place passed behindBlank b) :
    ∃ seen head rest, b = seen ++ head ++ rest ∧ StartsValue name head ∧
      BehindBlank behindBlank seen ∧
      o = ⟨place + seen.length, place + seen.length + head.length⟩ := by
  induction b generalizing place passed behindBlank with
  | nil => cases h
  | cons x b ih =>
    -- behind the first byte, every place is one further on
    have later {passed : Nat}
        (h : o ∈ occurrencesFrom name (place + 1) passed (isAsciiBlank x) b) :
        ∃ seen head rest, x :: b = seen ++ head ++ rest ∧ StartsValue name head ∧
          BehindBlank behindBlank seen ∧
          o = ⟨place + seen.length, place + seen.length + head.length⟩ := by
      obtain ⟨seen, head, rest, rfl, hhead, hbehind, rfl⟩ := ih h
      refine ⟨x :: seen, head, rest, rfl, hhead, behindBlank_cons.2 hbehind, ?_⟩
      simp only [List.length_cons, Occurrence.mk.injEq]
      omega
    cases passed with
    | succ passed => exact later h
    | zero =>
      simp only [occurrencesFrom] at h
      split at h
      · next size hfound =>
        rcases List.mem_cons.1 h with rfl | h
        · split at hfound
          · next hbehind =>
            obtain ⟨head, rest, hsplit, hhead, rfl⟩ := quotedStart?_eq_some_iff.1 hfound
            exact ⟨[], head, rest, hsplit, hhead, by rw [hbehind]; rfl, rfl⟩
          · cases hfound
        · exact later h
      · exact later h

/-! ## Starts of values are told by their ends -/

/-- Whether a byte can be part of a blank: it is at most a space, or beyond ASCII. -/
def isBlankByte (x : UInt8) : Bool := x ≤ 0x20 || 0x80 ≤ x

theorem isBlankByte_of_blank {x : UInt8} (h : isAsciiBlank x = true) : isBlankByte x = true := by
  simp only [isAsciiBlank, isBlankByte, Bool.or_eq_true, Bool.and_eq_true, beq_iff_eq,
    decide_eq_true_eq, UInt8.le_iff_toNat_le, ← UInt8.toNat_inj, UInt8.reduceToNat] at h ⊢
  omega

theorem isBlankByte_of_name {x : UInt8} (h : isNameByte x = true) : isBlankByte x = false := by
  rw [Bool.eq_false_iff]
  intro hx
  simp only [isNameByte, isBlankByte, Bool.or_eq_true, Bool.and_eq_true,
    decide_eq_true_eq, UInt8.le_iff_toNat_le, UInt8.lt_iff_toNat_lt, UInt8.reduceToNat] at h hx
  omega

/-- A list has only one last element without a property. -/
theorem eq_of_append_cons_eq {p : UInt8 → Bool} {u u' v v' : Bytes} {x x' : UInt8}
    (hx : p x = false) (hx' : p x' = false) (hv : v.all p = true) (hv' : v'.all p = true)
    (h : u ++ x :: v = u' ++ x' :: v') : u = u' ∧ x = x' ∧ v = v' := by
  have hnot {w : Bytes} {y : UInt8} (hw : w.all p = true) (hy : p y = false) : y ∉ w := by
    intro hmem
    rw [List.all_eq_true.1 hw y hmem] at hy
    cases hy
  rcases List.append_eq_append_iff.1 h with ⟨more, hu, hmore⟩ | ⟨more, hu, hmore⟩
  · cases more with
    | nil =>
      obtain ⟨rfl, rfl⟩ := List.cons.inj hmore
      exact ⟨by rw [hu, List.append_nil], rfl, rfl⟩
    | cons y more =>
      obtain ⟨rfl, hv_eq⟩ := List.cons.inj hmore
      exact absurd (by simp [hv_eq]) (hnot hv hx')
  · cases more with
    | nil =>
      obtain ⟨rfl, rfl⟩ := List.cons.inj hmore
      exact ⟨by rw [hu, List.append_nil], rfl, rfl⟩
    | cons y more =>
      obtain ⟨rfl, hv_eq⟩ := List.cons.inj hmore
      exact absurd (by simp [hv_eq]) (hnot hv' hx)

/-- Starts of values of one name that end at one place are the same, whatever blanks are in
them. -/
theorem eq_of_valueHead_eq {name u u' before before' after after' : Bytes} {quote quote' : UInt8}
    (name_ne : name ≠ []) (hname : name.all isNameByte = true)
    (hbefore : before.all isBlankByte = true) (hbefore' : before'.all isBlankByte = true)
    (hafter : after.all isBlankByte = true) (hafter' : after'.all isBlankByte = true)
    (h : u ++ valueHead name before after quote = u' ++ valueHead name before' after' quote') :
    u = u' ∧ before = before' ∧ after = after' := by
  have hends : u ++ name ++ before ++ 0x3D :: after ++ [quote] =
      u' ++ name ++ before' ++ 0x3D :: after' ++ [quote'] := by
    simpa [valueHead] using h
  obtain ⟨hequals, -⟩ := List.append_inj' hends rfl
  obtain ⟨hbefore_eq, -, hafter_eq⟩ :=
    eq_of_append_cons_eq (p := isBlankByte) rfl rfl hafter hafter' hequals
  -- the name ends with the last byte that is no part of a blank
  obtain ⟨first, last, rfl⟩ : ∃ first last, name = first ++ [last] :=
    ⟨_, _, (List.dropLast_append_getLast name_ne).symm⟩
  have hlast : isBlankByte last = false :=
    isBlankByte_of_name (List.all_eq_true.1 hname last (by simp))
  have hnames : u ++ first ++ last :: before = u' ++ first ++ last :: before' := by
    simpa using hbefore_eq
  obtain ⟨hfirst, -, hblank⟩ := eq_of_append_cons_eq hlast hlast hbefore hbefore' hnames
  exact ⟨List.append_cancel_right hfirst, hblank, hafter_eq⟩

end Bytes

/-! ## Quoted attributes in bytes -/

theorem CodePoint.isBlankByte_of_mem_bytes {c : CodePoint} (hc : c.isBlank = true) {x : UInt8}
    (hx : x ∈ c.bytes) : Bytes.isBlankByte x = true := by
  simp only [Bytes.isBlankByte, Bool.or_eq_true, decide_eq_true_eq, UInt8.le_iff_toNat_le,
    UInt8.reduceToNat]
  by_cases hascii : c.val < 0x80
  · -- the blanks of ASCII are not above the space
    rw [c.bytes_of_ascii hascii, List.mem_singleton] at hx
    rw [hx, toNat_byte (by omega)]
    simp only [isBlank, Bool.or_eq_true, Bool.and_eq_true, decide_eq_true_eq, beq_iff_eq] at hc
    omega
  · exact .inr (le_of_mem_bytes (by omega) hx)

theorem Text.all_isBlankByte {t : Text} (h : t.isBlank = true) :
    t.bytes.all Bytes.isBlankByte = true := by
  rw [List.all_eq_true]
  intro x hx
  obtain ⟨c, hc, hx⟩ := List.mem_flatMap.1 hx
  exact CodePoint.isBlankByte_of_mem_bytes (List.all_eq_true.1 h c hc) hx

/-- The byte of a quote. -/
def Markup.Quote.byte : Markup.Quote → UInt8
  | double => 0x22
  | single => 0x27

theorem Markup.Quote.bytes_mark (quote : Markup.Quote) : quote.mark.bytes = [quote.byte] := by
  cases quote <;> rfl

theorem Markup.Quote.byte_eq (quote : Markup.Quote) : quote.byte = 0x22 ∨ quote.byte = 0x27 := by
  cases quote
  · exact .inl rfl
  · exact .inr rfl

theorem Document.QuotedAttribute.bytes_head (q : Document.QuotedAttribute) :
    q.head.bytes =
      Bytes.valueHead q.name.bytes q.blankBefore.bytes q.blankAfter.bytes q.quote.byte := by
  have hequals : (CodePoint.char '=').bytes = [0x3D] := rfl
  simp [head, Bytes.valueHead, q.quote.bytes_mark, hequals]

/-- A proper quoted attribute stands in a page at its position. -/
structure Document.QuotedAttribute.StandsIn (page : Text) (q : Document.QuotedAttribute) :
    Prop extends q.Proper where
  exists_around : ∃ front back : Text, page = front ++ q.source ++ back ∧
    front.width = q.position

namespace Field

open VisibleText.Document (QuotedAttribute partsPosition quotedAttributesAt tagAt)
open VisibleText.Markup (OpenTag)

/-- A quoted attribute of an opening tag stands in the page, behind the start of the tag. -/
theorem OpensAt.attribute_standsIn {page : Text} {opening : OpenTag} {position : Nat}
    {q : QuotedAttribute} (h : OpensAt page opening position)
    (hq : q ∈ quotedAttributesAt (partsPosition position opening) opening.parts) :
    q.StandsIn page ∧ position < q.position := by
  obtain ⟨hproper, before, after, rfl, rfl⟩ := h
  obtain ⟨earlier, later, hparts, hposition⟩ := Document.exists_of_mem_quotedAttributesAt hq
  have hpart : q.part ∈ opening.parts := by simp [hparts]
  refine ⟨⟨QuotedAttribute.proper_of_part (hproper.parts q.part hpart), ?_⟩, ?_⟩
  · refine ⟨before ++ .char '<' :: opening.name ++ Markup.partsSource earlier,
      Markup.partsSource later ++ opening.ending ++ after, ?_, ?_⟩
    · rw [OpenTag.source, hparts, ← q.source_part]
      simp [Markup.partsSource]
    · have hbracket : (CodePoint.char '<').width = 1 := rfl
      rw [hposition, partsPosition]
      simp only [Text.width_append, Text.width_cons, hbracket]
      omega
  · rw [hposition, partsPosition]
    omega

/-- The names of attributes that may be edited have bytes of names only. -/
theorem isNameByte_of_isEditable {t : Document.Tag} {a : Document.Attribute}
    (h : isEditable t a = true) :
    a.name.bytes ≠ [] ∧ a.name.bytes.all Bytes.isNameByte = true := by
  have hall : ∀ name ∈ editableAttributes ++ editableProperties,
      name.bytes ≠ [] ∧ name.bytes.all Bytes.isNameByte = true := by
    decide
  refine hall a.name (List.mem_append.2 ?_)
  simp only [isEditable, Bool.and_eq_true] at h
  have hname := h.1.2
  cases hkind : t.kind with
  | element =>
    rw [hkind] at hname
    exact .inl (List.contains_iff_mem.1 hname)
  | component =>
    rw [hkind] at hname
    exact .inr (List.contains_iff_mem.1 hname)

/-! ## Attributes in sight -/

/-- The search for the value of an attribute in the tag at `start` can see the attribute: a blank
of ASCII stands before it, only such blanks stand around its equals sign, and its value starts in
the part of the tag that is searched. -/
structure InSight (g : Ground) (start : Nat) (q : QuotedAttribute) : Prop where
  behindBlank : ∃ x, g.bytes[q.position - 1]? = some x ∧ Bytes.isAsciiBlank x = true
  blankBefore : q.blankBefore.bytes.all Bytes.isAsciiBlank = true
  blankAfter : q.blankAfter.bytes.all Bytes.isAsciiBlank = true
  searched : q.valueStart ≤ start + (g.bytes.openTag g.window start).length

theorem openTag_prefix (b : Bytes) (window : Int) (start : Nat) :
    b.openTag window start <+: b.drop start := by
  unfold Bytes.openTag
  split <;> exact List.take_prefix _ _

/-- An occurrence is a start of a value behind a blank, among the bytes that are searched. -/
theorem exists_eq_of_occurrence {b name : Bytes} {window : Int} {start : Nat} {o : Bytes.Occurrence}
    (ho : o ∈ Bytes.occurrencesFrom name start 0 false (b.openTag window start)) :
    ∃ before x head rest, b = before ++ [x] ++ head ++ rest ∧ Bytes.isAsciiBlank x = true ∧
      Bytes.StartsValue name head ∧ o.name = (before ++ [x]).length ∧
      o.value = o.name + head.length ∧ o.value ≤ start + (b.openTag window start).length := by
  obtain ⟨seen, head, rest, hsearched, hhead, hbehind, rfl⟩ := Bytes.exists_of_mem_occurrencesFrom ho
  obtain ⟨tail, htail⟩ := openTag_prefix b window start
  obtain ⟨s, x, rfl, hx⟩ : ∃ s x, seen = s ++ [x] ∧ Bytes.isAsciiBlank x = true := by
    rcases List.eq_nil_or_concat seen with rfl | ⟨s, x, rfl⟩
    · cases hbehind
    · exact ⟨s, x, List.concat_eq_append, Bytes.behindBlank_concat.1
        (List.concat_eq_append ▸ hbehind)⟩
  -- the search found something, so it did not start behind the end
  have hstart : (b.take start).length = start := by
    have hlength := congrArg List.length htail
    rw [hsearched, List.length_drop] at hlength
    rw [List.length_take]
    simp only [List.length_append, List.length_cons] at hlength
    omega
  refine ⟨b.take start ++ s, x, head, rest ++ tail, ?_, hx, hhead, ?_, rfl, ?_⟩
  · conv_lhs => rw [← List.take_append_drop start b, ← htail, hsearched]
    simp only [List.append_assoc]
  · simp only [List.length_append, hstart, Nat.add_assoc]
  · rw [hsearched]
    simp only [List.length_append]
    omega

section Sight

variable {page : Text} {window : Int} {start : Nat} {q : QuotedAttribute}

/-- The bytes of a page around the start of a value. -/
theorem exists_bytes_eq (hq : q.StandsIn page) :
    ∃ front back : Bytes, page.bytes = front ++ q.head.bytes ++ back ∧
      front.length = q.position := by
  obtain ⟨front, back, rfl, hfront⟩ := hq.exists_around
  refine ⟨front.bytes, (q.value ++ [q.quote.mark] ++ back).bytes, ?_, ?_⟩
  · simp [QuotedAttribute.source]
  · rw [Text.length_bytes, hfront]

/-- An attribute in sight stands among the bytes that are searched, behind a blank. -/
theorem InSight.exists_eq_append (h : InSight ⟨page.bytes, window⟩ start q)
    (hq : q.StandsIn page) (hstart : start < q.position) :
    ∃ seen rest, page.bytes.openTag window start = seen ++ q.head.bytes ++ rest ∧
      Bytes.BehindBlank false seen ∧ start + seen.length = q.position := by
  obtain ⟨front, back, hpage, hfront⟩ := exists_bytes_eq hq
  have hprefix := openTag_prefix page.bytes window start
  have hdrop : page.bytes.drop start = front.drop start ++ q.head.bytes ++ back := by
    rw [hpage, List.append_assoc, List.drop_append_of_le_length (by omega), List.append_assoc]
  have hlength : (front.drop start).length = q.position - start := by
    rw [List.length_drop, hfront]
  have hsearched := h.searched
  have hown : front.drop start ++ q.head.bytes <+: page.bytes.openTag window start := by
    refine List.prefix_of_prefix_length_le (hdrop ▸ List.prefix_append _ _) hprefix ?_
    rw [List.length_append, hlength, Text.length_bytes]
    rw [QuotedAttribute.valueStart] at hsearched
    simp only at hsearched
    omega
  obtain ⟨rest, hrest⟩ := hown
  refine ⟨front.drop start, rest, hrest.symm, ?_, by omega⟩
  -- the last byte before the name is the blank
  obtain ⟨x, hx, hblank⟩ := h.behindBlank
  have hlast : (front.drop start).getLast? = some x := by
    rw [List.getLast?_drop, if_neg (by omega), List.getLast?_eq_getElem?, hfront, ← hx, hpage,
      List.append_assoc, List.getElem?_append_left (by omega)]
  obtain ⟨seen, hseen⟩ := List.getLast?_eq_some_iff.1 hlast
  rw [hseen]
  exact Bytes.behindBlank_concat.2 hblank

theorem startsValue_head (hbefore : q.blankBefore.bytes.all Bytes.isAsciiBlank = true)
    (hafter : q.blankAfter.bytes.all Bytes.isAsciiBlank = true) :
    Bytes.StartsValue q.name.bytes q.head.bytes :=
  ⟨_, _, _, q.bytes_head, hbefore, hafter, q.quote.byte_eq⟩

variable (name_ne : q.name.bytes ≠ []) (hname : q.name.bytes.all Bytes.isNameByte = true)

include name_ne hname

/-- An occurrence with the value of an attribute is the attribute, and the attribute is in
sight. -/
theorem inSight_of_occurrence (hq : q.StandsIn page) {o : Bytes.Occurrence}
    (ho : o ∈ Bytes.occurrencesFrom q.name.bytes start 0 false (page.bytes.openTag window start))
    (hvalue : o.value = q.valueStart) :
    InSight ⟨page.bytes, window⟩ start q ∧ o.name = q.position := by
  obtain ⟨seen, x, head, rest, hpage', hx, ⟨before, after, quote, rfl, hbefore, hafter, -⟩,
    hname_eq, hvalue_eq, hsearched⟩ := exists_eq_of_occurrence ho
  obtain ⟨front, back, hpage, hfront⟩ := exists_bytes_eq hq
  have hlength : (seen ++ [x] ++ Bytes.valueHead q.name.bytes before after quote).length =
      (front ++ q.head.bytes).length := by
    rw [List.length_append, ← hname_eq, ← hvalue_eq, hvalue, QuotedAttribute.valueStart,
      List.length_append, hfront, Text.length_bytes]
  -- the occurrence and the attribute divide the bytes before the value, which end at one place
  have hends := (List.append_inj (hpage'.symm.trans hpage) hlength).1
  rw [q.bytes_head] at hends
  obtain ⟨rfl, hbefore_eq, hafter_eq⟩ :=
    Bytes.eq_of_valueHead_eq name_ne hname
      (List.all_eq_true.2 fun y hy =>
        Bytes.isBlankByte_of_blank (List.all_eq_true.1 hbefore y hy))
      (Text.all_isBlankByte hq.blankBefore)
      (List.all_eq_true.2 fun y hy =>
        Bytes.isBlankByte_of_blank (List.all_eq_true.1 hafter y hy))
      (Text.all_isBlankByte hq.blankAfter) hends
  refine ⟨⟨⟨x, ?_, hx⟩, hbefore_eq ▸ hbefore, hafter_eq ▸ hafter, hvalue ▸ hsearched⟩,
    hname_eq.trans hfront⟩
  rw [← hfront, List.length_append, List.length_singleton, Nat.add_sub_cancel, hpage,
    List.append_assoc, List.append_assoc, List.getElem?_append_right (Nat.le_refl _), Nat.sub_self]
  rfl

/-- An attribute in sight is among what the search finds. -/
theorem InSight.mem_occurrencesFrom (h : InSight ⟨page.bytes, window⟩ start q)
    (hq : q.StandsIn page) (hstart : start < q.position) :
    ⟨q.position, q.valueStart⟩ ∈
      Bytes.occurrencesFrom q.name.bytes start 0 false (page.bytes.openTag window start) := by
  obtain ⟨seen, rest, hsearched, hbehind, hposition⟩ := h.exists_eq_append hq hstart
  rw [QuotedAttribute.valueStart, ← hposition, ← Text.length_bytes, hsearched]
  exact Bytes.mem_occurrencesFrom name_ne hname (startsValue_head h.blankBefore h.blankAfter)
    hbehind (Nat.zero_le _)

/-- The search finds the value of an attribute in sight where it was read. -/
theorem InSight.valueStart?_eq (h : InSight ⟨page.bytes, window⟩ start q)
    (hq : q.StandsIn page) (hstart : start < q.position) :
    page.bytes.valueStart? window start q.name.bytes q.position = some q.valueStart := by
  obtain ⟨seen, rest, hsearched, -, hposition⟩ := h.exists_eq_append hq hstart
  have hmem := h.mem_occurrencesFrom name_ne hname hq hstart
  -- whatever starts at the name of the attribute ends where its own value starts
  have hvalue : ∀ o ∈ Bytes.occurrencesFrom q.name.bytes start 0 false
      (page.bytes.openTag window start), o.name = q.position → o.value = q.valueStart := by
    intro o ho hname_eq
    obtain ⟨seen', head, rest', hsearched', hhead, -, rfl⟩ :=
      Bytes.exists_of_mem_occurrencesFrom ho
    simp only at hname_eq ⊢
    rw [hsearched, List.append_assoc, List.append_assoc] at hsearched'
    obtain ⟨-, hrest⟩ := List.append_inj hsearched' (by omega)
    have hown : Bytes.quotedStart? q.name.bytes (q.head.bytes ++ rest) =
        some q.head.bytes.length :=
      Bytes.quotedStart?_eq_some_iff.2
        ⟨_, rest, rfl, startsValue_head h.blankBefore h.blankAfter, rfl⟩
    have hother : Bytes.quotedStart? q.name.bytes (q.head.bytes ++ rest) = some head.length :=
      Bytes.quotedStart?_eq_some_iff.2 ⟨head, rest', hrest, hhead, rfl⟩
    rw [QuotedAttribute.valueStart, ← Text.length_bytes, hname_eq,
      Option.some.inj (hown.symm.trans hother)]
  unfold Bytes.valueStart?
  cases hfind : (Bytes.occurrencesFrom q.name.bytes start 0 false
      (page.bytes.openTag window start)).find? fun o => o.name = q.position with
  | none =>
    have hnone := List.find?_eq_none.1 hfind _ hmem
    simp at hnone
  | some o =>
    have hname_eq : o.name = q.position := by simpa using List.find?_some hfind
    have hvalue_eq := hvalue o (List.mem_of_find?_eq_some hfind) hname_eq
    simp only [hfind, Option.some_or, Option.map_some, hvalue_eq]

/-- The search finds the value of an attribute where it was read just if the attribute is in
sight. -/
theorem start_eq_valueStart_iff (hq : q.StandsIn page) (hstart : start < q.position) {place : Nat}
    (h : page.bytes.valueStart? window start q.name.bytes q.position = some place) :
    place = q.valueStart ↔ InSight ⟨page.bytes, window⟩ start q := by
  constructor
  · rintro rfl
    obtain ⟨o, hmem, hvalue⟩ := exists_occurrence_of_valueStart? h
    exact (inSight_of_occurrence name_ne hname hq hmem hvalue).1
  · intro hsight
    rw [hsight.valueStart?_eq name_ne hname hq hstart] at h
    exact (Option.some.inj h).symm

end Sight

end Field

end VisibleText
