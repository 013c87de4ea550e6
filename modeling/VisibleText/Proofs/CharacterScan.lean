import Mathlib.Data.Nat.Find
import Mathlib.Order.Bounds.Basic
import VisibleText.Proofs.TagScan
import VisibleText.Text.Position

/-!
# The scan of an opening tag in characters

The end of an opening tag is looked for in the bytes of a page, and only so many of them: the
window may end inside a character. What the scan finds is said here on the characters alone. What
encloses a character of a tag is read off the characters before it (`enclosing`), without ever
stopping, and a tag closes at a `>` that nothing encloses (`ClosesAt`).

A step of the scan over the number of a character is a step over the character, but for the `>`
with which it ends (`pass_scan`). So it goes on for just as long as no tag closes
(`run_scan_eq_some_iff`), and ends behind the first character in its window where one does
(`openTagEnd_iff_isLeast`).
-/

set_option autoImplicit false

namespace VisibleText

/-- What encloses a character of an opening tag: an open quote, and so many braces. -/
structure Enclosure where
  quote : Option CodePoint
  braces : Nat
deriving DecidableEq

namespace Enclosure

/-- Nothing is open. -/
def free : Enclosure := ⟨none, 0⟩

/-- What encloses the character behind another one. Within quotes only the same quote matters,
and a closing brace that closes nothing is passed over. -/
def past (e : Enclosure) (c : CodePoint) : Enclosure :=
  match e.quote with
  | some quote => if c = quote then ⟨none, e.braces⟩ else e
  | none =>
    if c = .char '"' ∨ c = .char '\'' then ⟨some c, e.braces⟩
    else if c = .char '{' then ⟨none, e.braces + 1⟩
    else if c = .char '}' then ⟨none, e.braces - 1⟩
    else e

/-- What encloses the character behind some text. -/
def pastAll (e : Enclosure) (t : Text) : Enclosure := t.foldl past e

/-- What the scan remembers of an enclosure: the number of the quote and the braces. -/
def scan (e : Enclosure) : TagScan := ⟨e.quote.map CodePoint.val, e.braces⟩

variable {e : Enclosure}

theorem scan_eq_start_iff : e.scan = .start ↔ e = free := by
  obtain ⟨quote, braces⟩ := e
  cases quote <;> simp [scan, free, TagScan.start]

end Enclosure

theorem CodePoint.val_eq_toNat_iff {c : CodePoint} {d : Char} : c.val = d.toNat ↔ c = .char d :=
  CodePoint.val_injective.eq_iff (b := .char d)

namespace Enclosure

variable {e : Enclosure}

/-- The scan passes the number of a character as an enclosure passes the character, and ends with
a `>` that nothing encloses. -/
theorem pass_scan (e : Enclosure) (c : CodePoint) :
    e.scan.pass c.val =
      if c = .char '>' ∧ e = free then none else some (e.past c).scan := by
  by_cases hend : c = .char '>' ∧ e = free
  · rw [if_pos hend]
    exact TagScan.pass_eq_none_iff.2
      ⟨CodePoint.val_eq_toNat_iff.2 hend.1, scan_eq_start_iff.2 hend.2⟩
  · rw [if_neg hend]
    obtain ⟨quote, braces⟩ := e
    cases quote with
    | some quote =>
      simp only [TagScan.pass, scan, past, Option.map_some, CodePoint.val_injective.eq_iff]
      split <;> rfl
    | none =>
      have hlast : ¬(c = .char '>' ∧ braces = 0) := by simpa [free] using hend
      have hscan : scan ⟨none, braces⟩ = ⟨none, braces⟩ := rfl
      rw [hscan]
      simp only [TagScan.pass, past, CodePoint.val_eq_toNat_iff, Bool.or_eq_true, Bool.and_eq_true,
        decide_eq_true_eq, hlast, if_false]
      repeat' split
      all_goals rfl

/-- The scan goes on over some text for as long as no `>` stands in it that nothing encloses. -/
theorem run_scan_eq_some_iff {t : Text} {s : TagScan} :
    e.scan.run (t.map CodePoint.val) = some s ↔
      s = (e.pastAll t).scan ∧
        ∀ front back : Text, t = front ++ .char '>' :: back → e.pastAll front ≠ free := by
  induction t generalizing e with
  | nil =>
    simp only [List.map_nil, TagScan.run, Option.some.injEq, pastAll, List.foldl_nil,
      List.nil_eq_append_iff, reduceCtorEq, and_false, false_implies, implies_true, and_true]
    exact eq_comm
  | cons c t ih =>
    rw [List.map_cons, TagScan.run, pass_scan]
    by_cases hend : c = .char '>' ∧ e = free
    · rw [if_pos hend]
      refine iff_of_false (fun h => ?_) fun h => ?_
      · cases h
      · exact h.2 [] t (by rw [hend.1]; rfl) hend.2
    · rw [if_neg hend, Option.bind_some, ih]
      refine and_congr_right fun _ => ⟨fun h front back heq => ?_, fun h front back heq => ?_⟩
      · cases front with
        | nil =>
          cases heq
          exact fun hfree => hend ⟨rfl, hfree⟩
        | cons d front =>
          cases heq
          exact h front back rfl
      · exact h (c :: front) back (by rw [heq]; rfl)

end Enclosure

/-- What encloses the character behind some text of a tag, if nothing encloses its start. -/
def enclosing (t : Text) : Enclosure := Enclosure.free.pastAll t

/-- The scan has nothing open behind a text, and has not ended in it, just if nothing is open
there and no `>` in it is outside quotes and braces. -/
theorem run_start_iff {t : Text} :
    TagScan.start.run (t.map CodePoint.val) = some .start ↔
      enclosing t = .free ∧
        ∀ front back : Text, t = front ++ .char '>' :: back → enclosing front ≠ .free := by
  rw [← Enclosure.scan_eq_start_iff.2 rfl, Enclosure.run_scan_eq_some_iff]
  refine and_congr_left fun _ => ?_
  rw [Enclosure.scan_eq_start_iff.2 rfl, eq_comm, Enclosure.scan_eq_start_iff]
  rfl

namespace Text

variable {u v : Text}

/-! ## Where a tag closes -/

/-- A tag that starts at the character `start` closes at the character `stop`: that is a `>`
that nothing encloses. -/
structure ClosesAt (t : Text) (start stop : Nat) : Prop where
  start_le : start ≤ stop
  mark : t[stop]? = some (.char '>')
  unenclosed : enclosing ((t.drop start).take (stop - start)) = .free

/-- The characters that start before a byte and at which a tag closes. -/
def closings (t : Text) (start : Nat) (limit : Int) : Set Nat :=
  {stop | t.ClosesAt start stop ∧ (width (t.take stop) : Int) < limit}

theorem closesAt_iff {stop : Nat} :
    ClosesAt (u ++ v) u.length stop ↔
      ∃ front back : Text, v = front ++ .char '>' :: back ∧ stop = u.length + front.length ∧
        enclosing front = .free := by
  constructor
  · rintro ⟨start_le, mark, unenclosed⟩
    obtain ⟨n, rfl⟩ := Nat.exists_eq_add_of_le start_le
    rw [List.getElem?_append_right start_le, Nat.add_sub_cancel_left] at mark
    rw [List.drop_left, Nat.add_sub_cancel_left] at unenclosed
    obtain ⟨hn, hget⟩ := List.getElem?_eq_some_iff.1 mark
    refine ⟨v.take n, v.drop (n + 1), ?_, ?_, unenclosed⟩
    · rw [← hget, ← List.drop_eq_getElem_cons hn, List.take_append_drop]
    · rw [List.length_take, Nat.min_eq_left (Nat.le_of_lt hn)]
  · rintro ⟨front, back, rfl, rfl, hfree⟩
    exact ⟨Nat.le_add_right _ _, by simp, by simpa using hfree⟩

/-- Nothing encloses the character behind a text of a tag, and the tag has not closed before. -/
def IsOpen (front : Text) : Prop :=
  enclosing front = .free ∧
    ∀ front' back' : Text, front = front' ++ .char '>' :: back' → enclosing front' ≠ .free

/-- The first character at which a tag closes is the `>` behind an open text. -/
theorem isLeast_closings_iff {limit : Int} {stop : Nat} :
    IsLeast (closings (u ++ v) u.length limit) stop ↔
      ∃ front back : Text, v = front ++ .char '>' :: back ∧ stop = u.length + front.length ∧
        ((u.width + front.width : Nat) : Int) < limit ∧ front.IsOpen := by
  have htake (front back : Text) :
      width ((u ++ (front ++ back)).take (u.length + front.length)) = u.width + front.width := by
    rw [← List.append_assoc, ← List.length_append, List.take_left, width_append]
  constructor
  · rintro ⟨⟨hcloses, hlimit⟩, hleast⟩
    obtain ⟨front, back, rfl, rfl, hfree⟩ := closesAt_iff.1 hcloses
    rw [htake] at hlimit
    refine ⟨front, back, rfl, rfl, hlimit, hfree, ?_⟩
    rintro front' back' rfl hfree'
    -- the tag would have closed before
    have hle : u.length + (front' ++ .char '>' :: back').length ≤ u.length + front'.length := by
      rw [List.append_assoc, List.cons_append] at hleast
      refine hleast ⟨closesAt_iff.2 ⟨front', _, rfl, rfl, hfree'⟩, ?_⟩
      rw [htake]
      rw [width_append] at hlimit
      omega
    rw [List.length_append, List.length_cons] at hle
    omega
  · rintro ⟨front, back, rfl, rfl, hlimit, hfree, hopen⟩
    refine ⟨⟨closesAt_iff.2 ⟨front, back, rfl, rfl, hfree⟩, by rwa [htake]⟩, ?_⟩
    rintro stop' ⟨hcloses, -⟩
    obtain ⟨front', back', heq, rfl, hfree'⟩ := closesAt_iff.1 hcloses
    rcases List.append_eq_append_iff.1 heq with ⟨more, rfl, -⟩ | ⟨more, rfl, hmore⟩
    · rw [List.length_append]
      omega
    · cases more with
      | nil => simp
      | cons c more =>
        cases hmore
        exact absurd hfree' (hopen front' more rfl)

/-! ## What the scan of bytes finds -/

/-- Only a `>` starts with the byte of a `>`. -/
theorem exists_of_bytes_eq_cons {t : Text} {behind : Bytes} (h : t.bytes = 0x3E :: behind) :
    ∃ back, t = .char '>' :: back := by
  cases t with
  | nil => cases h
  | cons c t =>
    rw [bytes_cons] at h
    by_cases hascii : c.val < 0x80
    · rw [c.bytes_of_ascii hascii] at h
      have hval : c.val = 0x3E := by
        have := congrArg UInt8.toNat (List.cons.inj h).1
        rwa [toNat_byte (by omega)] at this
      obtain rfl : c = .char '>' := CodePoint.val_eq_toNat_iff.1 hval
      exact ⟨t, rfl⟩
    · obtain ⟨lead, others, hc, -⟩ := c.bytes_eq_cons
      rw [hc] at h
      obtain rfl : lead = 0x3E := (List.cons.inj h).1
      have := c.le_of_mem_bytes (Nat.le_of_not_lt hascii) (hc ▸ List.mem_cons_self)
      exact absurd this (by decide)

/-- The scan ends behind the `>` that follows an open text, if that is in its window. -/
theorem openTagEnd?_bytes_eq_some_iff {window : Int} {stop : Nat} :
    (u ++ v).bytes.openTagEnd? window u.width = some stop ↔
      ∃ front back : Text, v = front ++ .char '>' :: back ∧ (front.width : Int) < window ∧
        stop = u.width + (front.width + 1) ∧ front.IsOpen := by
  rw [Bytes.openTagEnd?_eq_some_iff, drop_bytes_append]
  constructor
  · rintro ⟨seen, behind, hbytes, hwindow, rfl, hrun⟩
    have hdrop : v.bytes.drop seen.length = 0x3E :: behind := by rw [hbytes, List.drop_left]
    obtain ⟨front, rest, rfl, hwidth⟩ := isBoundary_of_drop hdrop (by decide)
    have hseen : front.bytes = seen := by
      rw [← take_bytes_append front rest, hwidth, hbytes, List.take_left]
    rw [← hwidth, drop_bytes_append] at hdrop
    obtain ⟨back, rfl⟩ := exists_of_bytes_eq_cons hdrop
    rw [← hseen, TagScan.run_bytes TagScan.start_isAscii] at hrun
    exact ⟨front, back, rfl, by omega, by rw [hwidth], run_start_iff.1 hrun⟩
  · rintro ⟨front, back, rfl, hwindow, rfl, hopen⟩
    refine ⟨front.bytes, back.bytes, ?_, ?_, ?_, ?_⟩
    · rw [bytes_append, bytes_cons]
      rfl
    · rw [length_bytes]
      omega
    · rw [length_bytes]
    · rw [TagScan.run_bytes TagScan.start_isAscii]
      exact run_start_iff.2 hopen

theorem byteOffset_behind (u front back : Text) :
    (u ++ (front ++ .char '>' :: back)).byteOffset (u.length + front.length + 1 : Nat) =
      .ok (u.width + (front.width + 1)) := by
  have key := byteOffset_append (u ++ (front ++ [.char '>'])) back
  simp only [width_append, width_cons, width_nil, List.append_assoc, List.length_append,
    List.length_cons, List.length_nil, List.cons_append, List.nil_append, ← Nat.add_assoc] at key ⊢
  exact key

/-- The `>` behind a text stands before the end of a page, so that only the window matters. -/
theorem lt_limit_iff {window : Int} {front back : Text} :
    ((u.width + front.width : Nat) : Int) <
        min (u.width + window) (u ++ (front ++ .char '>' :: back)).bytes.length ↔
      (front.width : Int) < window := by
  have hmark : (CodePoint.char '>').width = 1 := rfl
  rw [length_bytes, width_append, width_append, width_cons, hmark]
  omega

theorem openTagEnd?_bytes_iff_isLeast {window : Int} {stop : Nat} :
    (u ++ v).bytes.openTagEnd? window u.width = some stop ↔
      ∃ index, IsLeast ((u ++ v).closings u.length
          (min (u.width + window) (u ++ v).bytes.length)) index ∧
        (u ++ v).byteOffset (index + 1 : Nat) = .ok stop := by
  rw [openTagEnd?_bytes_eq_some_iff]
  constructor
  · rintro ⟨front, back, rfl, hwindow, rfl, hopen⟩
    exact ⟨u.length + front.length,
      isLeast_closings_iff.2 ⟨front, back, rfl, rfl, lt_limit_iff.2 hwindow, hopen⟩,
      byteOffset_behind u front back⟩
  · rintro ⟨index, hleast, hoffset⟩
    obtain ⟨front, back, rfl, rfl, hlimit, hopen⟩ := isLeast_closings_iff.1 hleast
    rw [byteOffset_behind] at hoffset
    cases hoffset
    exact ⟨front, back, rfl, lt_limit_iff.1 hlimit, rfl, hopen⟩

/-- Where a tag closes before some byte, the scan ends. -/
theorem exists_openTagEnd?_of_mem_closings {window : Int} {index : Nat}
    (h : index ∈ (u ++ v).closings u.length
      (min (u.width + window) (u ++ v).bytes.length)) :
    ∃ stop, (u ++ v).bytes.openTagEnd? window u.width = some stop := by
  classical
  obtain ⟨first, hfirst⟩ : ∃ first, IsLeast ((u ++ v).closings u.length
      (min (u.width + window) (u ++ v).bytes.length)) first :=
    ⟨Nat.find ⟨index, h⟩, Nat.find_spec ⟨index, h⟩, fun _ hmem => Nat.find_min' ⟨index, h⟩ hmem⟩
  obtain ⟨front, back, rfl, rfl, -⟩ := isLeast_closings_iff.1 hfirst
  exact ⟨_, openTagEnd?_bytes_iff_isLeast.2 ⟨_, hfirst, byteOffset_behind u front back⟩⟩

/-- A tag ends in its window, behind the byte of a `>`, at a boundary of two characters. -/
theorem bounds_of_openTagEnd? {window : Int} {stop : Nat}
    (h : (u ++ v).bytes.openTagEnd? window u.width = some stop) :
    u.width < stop ∧ (stop : Int) ≤ min (u.width + window) (u ++ v).bytes.length ∧
      (u ++ v).IsBoundary stop ∧ (u ++ v).bytes[stop - 1]? = some 0x3E := by
  obtain ⟨front, back, rfl, hwindow, rfl, -⟩ := openTagEnd?_bytes_eq_some_iff.1 h
  have hlimit : ((u.width + front.width : Nat) : Int) <
      min (u.width + window) (u ++ (front ++ .char '>' :: back)).bytes.length :=
    lt_limit_iff.2 hwindow
  refine ⟨by omega, by omega, ⟨u ++ (front ++ [.char '>']), back, by simp, ?_⟩, ?_⟩
  · rw [width_append, width_append]
    rfl
  · have hbytes : (u ++ (front ++ .char '>' :: back)).bytes =
        (u ++ front).bytes ++ 0x3E :: back.bytes := by
      simp only [bytes_append, bytes_cons, List.append_assoc]
      rfl
    have hplace : u.width + (front.width + 1) - 1 = (u ++ front).bytes.length := by
      rw [length_bytes, width_append]
      omega
    rw [hbytes, hplace, List.getElem?_append_right (Nat.le_refl _), Nat.sub_self]
    rfl

/-- The scan of bytes is the scan of characters: from the byte of a character on, it ends behind
the first character that starts before the end of the window and at which the tag closes, and
finds no end just if there is none. So it ends in its window, at a boundary, behind a `>`. -/
theorem openTagEnd_iff_isLeast {t : Text} {b : Bytes} {start place : Nat}
    (hbytes : t.encode? = some b) (hstart : t.byteOffset start = .ok place) (window : Int) :
    (∀ stop, b.openTagEnd? window place = some stop ↔
      ∃ index, IsLeast (t.closings start (min (place + window) b.length)) index ∧
        t.byteOffset (index + 1 : Nat) = .ok stop) ∧
    (b.openTagEnd? window place = none ↔
      t.closings start (min (place + window) b.length) = ∅) ∧
    ∀ stop, b.openTagEnd? window place = some stop →
      place < stop ∧ (stop : Int) ≤ min (place + window) b.length ∧ t.IsBoundary stop ∧
        b[stop - 1]? = some 0x3E := by
  obtain ⟨u, v, rfl, rfl, rfl⟩ := exists_append_of_byteOffset hstart
  obtain rfl : (u ++ v).bytes = b := by
    unfold encode? at hbytes
    split at hbytes
    · cases hbytes
    · exact Option.some.inj hbytes
  refine ⟨fun stop => openTagEnd?_bytes_iff_isLeast, ⟨fun hnone => ?_, fun hempty => ?_⟩,
    fun stop => bounds_of_openTagEnd?⟩
  · refine Set.eq_empty_iff_forall_notMem.2 fun index hmem => ?_
    obtain ⟨stop, hstop⟩ := exists_openTagEnd?_of_mem_closings hmem
    cases hnone.symm.trans hstop
  · refine Option.eq_none_iff_forall_ne_some.2 fun stop hstop => ?_
    obtain ⟨index, hleast, -⟩ := openTagEnd?_bytes_iff_isLeast.1 hstop
    rw [hempty] at hleast
    exact hleast.1

/-- A tag behind other characters, with a `>` between quotes, one between braces, and a closing
brace too many; a window that ends in a character of it. -/
theorem openTagEnd_iff_isLeast_of_image : ∃ t b,
    t = text "é<img alt='ü>' x=\x7ba > b\x7d\x7d ö>…" ∧ t.encode? = some b ∧
      t.byteOffset 1 = .ok 2 ∧ b.openTagEnd? 40 2 = some 31 ∧ b.openTagEnd? 27 2 = none ∧
      (∀ stop, b.openTagEnd? 40 2 = some stop ↔
        ∃ index, IsLeast (t.closings 1 (min (2 + 40) b.length)) index ∧
          t.byteOffset (index + 1 : Nat) = .ok stop) ∧
      (b.openTagEnd? 27 2 = none ↔ t.closings 1 (min (2 + 27) b.length) = ∅) := by
  obtain ⟨b, hb⟩ : ∃ b, (text "é<img alt='ü>' x=\x7ba > b\x7d\x7d ö>…").encode? = some b :=
    ⟨_, rfl⟩
  have hplace : (text "é<img alt='ü>' x=\x7ba > b\x7d\x7d ö>…").byteOffset 1 = .ok 2 := by
    decide
  refine ⟨_, b, rfl, hb, hplace, ?_, ?_, (openTagEnd_iff_isLeast hb hplace 40).1,
    (openTagEnd_iff_isLeast hb hplace 27).2.1⟩
  · cases hb
    decide +kernel
  · cases hb
    decide +kernel

end Text

end VisibleText
