import VisibleText.Field.OpenTag
import VisibleText.Proofs.OpeningTag
import VisibleText.Proofs.Utf8

/-!
# What the scan of an opening tag sees

The end of an opening tag is found by a scan that knows quotes and braces and nothing else. It
ends with the first `>` that it meets with nothing open (`length?_eq_some_iff`), and as all signs
that it knows are ASCII, it goes through the bytes of a text as through its code points
(`run_bytes`).

So the scan ends an opening tag where the reader does just if the tag is steady up to its last
sign: the scan passes over it and has nothing open behind it (`stop_eq_iff_isSteady`). Blanks,
names and values between quotes are steady whatever they hold; values between backticks, values
without quotes and code need not be (`unended_isSteady`).
-/

set_option autoImplicit false

namespace VisibleText

/-! ## Runs of the scan -/

namespace TagScan

/-- Passes numbers one after the other; `none` says that the tag ends with one of them. -/
def run (s : TagScan) : List Nat → Option TagScan
  | [] => some s
  | n :: ns => (s.pass n).bind fun s' => s'.run ns

variable {s : TagScan}

theorem run_append (s : TagScan) (ns ms : List Nat) :
    s.run (ns ++ ms) = (s.run ns).bind fun s' => s'.run ms := by
  induction ns generalizing s with
  | nil => rfl
  | cons n ns ih =>
    rw [List.cons_append, run, run]
    cases s.pass n with
    | none => rfl
    | some s' => exact ih s'

/-- A tag ends with a `>` that is met with nothing open, and with nothing else. -/
theorem pass_eq_none_iff {n : Nat} : s.pass n = none ↔ n = '>'.toNat ∧ s = start := by
  obtain ⟨quote, braces⟩ := s
  cases quote with
  | some quote => simp [pass, start]
  | none =>
    constructor
    · intro h
      unfold pass at h
      simp only at h
      split at h
      · cases h
      split at h
      · cases h
      split at h
      · cases h
      split at h
      · next hend =>
        simp only [Bool.and_eq_true, decide_eq_true_eq] at hend
        exact ⟨hend.1, by rw [hend.2]; rfl⟩
      · cases h
    · rintro ⟨rfl, hs⟩
      rw [hs]
      rfl

/-- A tag takes the numbers up to the first `>` that is met with nothing open. -/
theorem length?_eq_some_iff {ns : List Nat} {size : Nat} :
    s.length? ns = some size ↔
      ∃ seen behind, ns = seen ++ '>'.toNat :: behind ∧ size = seen.length + 1 ∧
        s.run seen = some start := by
  constructor
  · intro h
    induction ns generalizing s size with
    | nil => cases h
    | cons n ns ih =>
      rw [length?] at h
      cases hpass : s.pass n with
      | none =>
        rw [hpass] at h
        cases h
        obtain ⟨rfl, rfl⟩ := pass_eq_none_iff.1 hpass
        exact ⟨[], ns, rfl, rfl, rfl⟩
      | some s' =>
        rw [hpass] at h
        obtain ⟨size', hsize, rfl⟩ := Option.map_eq_some_iff.1 h
        obtain ⟨seen, behind, rfl, rfl, hrun⟩ := ih hsize
        exact ⟨n :: seen, behind, rfl, rfl, by rw [run, hpass]; exact hrun⟩
  · rintro ⟨seen, behind, rfl, rfl, hrun⟩
    induction seen generalizing s with
    | nil =>
      cases hrun
      rfl
    | cons n seen ih =>
      rw [run] at hrun
      obtain ⟨s', hpass, hrun⟩ := Option.bind_eq_some_iff.1 hrun
      rw [List.cons_append, length?, hpass]
      exact Option.map_eq_some_iff.2 ⟨_, ih hrun, rfl⟩

/-- The scan does not go on behind a `>` that it meets with nothing open. -/
theorem run_end {seen behind : Bytes} (h : start.run (seen.map UInt8.toNat) = some start) :
    start.run ((seen ++ 0x3E :: behind).map UInt8.toNat) = none := by
  rw [List.map_append, run_append, h, Option.bind_some]
  rfl

/-! ## Bytes and code points -/

/-- The quote that is open, if one is, is ASCII. -/
def IsAscii (s : TagScan) : Prop := ∀ quote, s.quote = some quote → quote < 0x80

theorem start_isAscii : start.IsAscii := by
  intro quote h
  cases h

/-- A number beyond ASCII is no sign that the scan knows. -/
theorem pass_of_ge {n : Nat} (hs : s.IsAscii) (hn : 0x80 ≤ n) : s.pass n = some s := by
  obtain ⟨quote, braces⟩ := s
  cases quote with
  | some quote =>
    have hquote : quote < 0x80 := hs quote rfl
    have hne : n ≠ quote := by omega
    simp [pass, hne]
  | none =>
    have hsign {d : Char} (hd : d.toNat < 0x80) : n ≠ d.toNat := by omega
    have h₁ : n ≠ '"'.toNat := hsign (by decide)
    have h₂ : n ≠ '\''.toNat := hsign (by decide)
    have h₃ : n ≠ '{'.toNat := hsign (by decide)
    have h₄ : n ≠ '}'.toNat := hsign (by decide)
    have h₅ : n ≠ '>'.toNat := hsign (by decide)
    simp only [pass, h₁, h₂, h₃, h₄, h₅]
    rfl

theorem IsAscii.of_pass {s' : TagScan} {n : Nat} (hs : s.IsAscii) (h : s.pass n = some s') :
    s'.IsAscii := by
  obtain ⟨quote, braces⟩ := s
  intro quote' hquote'
  cases quote with
  | some quote =>
    simp only [pass, Option.some.injEq] at h
    split at h
    · cases h
      cases hquote'
    · cases h
      exact hs quote' hquote'
  | none =>
    unfold pass at h
    simp only at h
    split at h
    · next hmark =>
      cases h
      cases hquote'
      simp only [Bool.or_eq_true, decide_eq_true_eq] at hmark
      rcases hmark with rfl | rfl <;> decide
    split at h
    · cases h
      cases hquote'
    split at h
    · cases h
      cases hquote'
    split at h
    · cases h
    · cases h
      cases hquote'

end TagScan

theorem CodePoint.bytes_of_ascii {c : CodePoint} (h : c.val < 0x80) :
    c.bytes = [UInt8.ofNat c.val] := by
  rw [bytes]
  exact if_pos h

/-- All bytes of a code point beyond ASCII are beyond ASCII. -/
theorem CodePoint.le_of_mem_bytes {c : CodePoint} {x : UInt8} (h : 0x80 ≤ c.val)
    (hx : x ∈ c.bytes) : 0x80 ≤ x.toNat := by
  have hc := c.val_lt
  have high {n : Nat} (hn : n < 0x80) : 0x80 ≤ (UInt8.ofNat (0x80 + n)).toNat := by
    rw [toNat_byte (by omega)]
    omega
  unfold bytes at hx
  simp only at hx
  split at hx
  · omega
  split at hx
  · simp only [List.mem_cons, List.not_mem_nil, or_false] at hx
    rcases hx with rfl | rfl
    · rw [toNat_byte (by omega)]
      omega
    · exact high (by omega)
  split at hx
  · simp only [List.mem_cons, List.not_mem_nil, or_false] at hx
    rcases hx with rfl | rfl | rfl
    · rw [toNat_byte (by omega)]
      omega
    · exact high (by omega)
    · exact high (by omega)
  · simp only [List.mem_cons, List.not_mem_nil, or_false] at hx
    rcases hx with rfl | rfl | rfl | rfl
    · rw [toNat_byte (by omega)]
      omega
    · exact high (by omega)
    · exact high (by omega)
    · exact high (by omega)

namespace TagScan

variable {s : TagScan}

theorem run_of_ge {ns : List Nat} (hs : s.IsAscii) (hns : ∀ n ∈ ns, 0x80 ≤ n) :
    s.run ns = some s := by
  induction ns with
  | nil => rfl
  | cons n ns ih =>
    rw [run, pass_of_ge hs (hns n (.head _)), Option.bind_some]
    exact ih fun m hm => hns m (.tail _ hm)

theorem run_bytes_codePoint (hs : s.IsAscii) (c : CodePoint) :
    s.run (c.bytes.map UInt8.toNat) = s.pass c.val := by
  by_cases h : c.val < 0x80
  · rw [c.bytes_of_ascii h, List.map_singleton, toNat_byte (by omega), run]
    cases s.pass c.val <;> rfl
  · have h' : 0x80 ≤ c.val := by omega
    rw [pass_of_ge hs h']
    refine run_of_ge hs fun n hn => ?_
    obtain ⟨x, hx, rfl⟩ := List.mem_map.1 hn
    exact CodePoint.le_of_mem_bytes h' hx

/-- The scan goes through the bytes of a text as through its code points. -/
theorem run_bytes (hs : s.IsAscii) (t : Text) :
    s.run (t.bytes.map UInt8.toNat) = s.run (t.map CodePoint.val) := by
  induction t generalizing s with
  | nil => rfl
  | cons c t ih =>
    rw [Text.bytes_cons, List.map_append, run_append, run_bytes_codePoint hs, List.map_cons, run]
    cases hpass : s.pass c.val with
    | none => rfl
    | some s' => exact ih (hs.of_pass hpass)

end TagScan

/-! ## The end of an opening tag in bytes -/

/-- A tag ends with the first `>` that the scan meets with nothing open, if that is one of the
first `window` bytes. -/
theorem Bytes.openTagEnd?_eq_some_iff {b : Bytes} {window : Int} {start stop : Nat} :
    b.openTagEnd? window start = some stop ↔
      ∃ seen behind, b.drop start = seen ++ 0x3E :: behind ∧ seen.length < window.toNat ∧
        stop = start + (seen.length + 1) ∧
        TagScan.start.run (seen.map UInt8.toNat) = some TagScan.start := by
  unfold openTagEnd?
  constructor
  · intro h
    obtain ⟨size, hsize, rfl⟩ := Option.map_eq_some_iff.1 h
    obtain ⟨ns, ms, hsplit, rfl, hrun⟩ := TagScan.length?_eq_some_iff.1 hsize
    obtain ⟨seen, rest, htake, rfl, hrest⟩ := List.map_eq_append_iff.1 hsplit
    obtain ⟨x, behind, rfl, hx, -⟩ := List.map_eq_cons_iff.1 hrest
    obtain rfl : x = 0x3E := UInt8.toNat_inj.1 hx
    have hlength := congrArg List.length htake
    rw [List.length_take, List.length_append, List.length_cons] at hlength
    refine ⟨seen, behind ++ (b.drop start).drop window.toNat, ?_, by omega, by simp, hrun⟩
    rw [← List.cons_append, ← List.append_assoc, ← htake, List.take_append_drop]
  · rintro ⟨seen, behind, hdrop, hwindow, rfl, hrun⟩
    refine Option.map_eq_some_iff.2 ⟨seen.length + 1, ?_, rfl⟩
    refine TagScan.length?_eq_some_iff.2
      ⟨seen.map UInt8.toNat, (behind.take (window.toNat - (seen.length + 1))).map UInt8.toNat,
        ?_, by simp, hrun⟩
    obtain ⟨more, hmore⟩ := Nat.exists_eq_add_of_lt hwindow
    have hmore' : window.toNat - seen.length = more + 1 := by omega
    have hmore'' : window.toNat - (seen.length + 1) = more := by omega
    rw [hdrop, List.take_append, List.take_of_length_le (by omega), hmore', List.take_succ_cons,
      hmore'', List.map_append, List.map_cons]
    rfl

/-! ## Steady texts -/

/-- The scan of an opening tag passes over a text and has nothing open behind it. -/
def Text.IsSteady (t : Text) : Prop :=
  TagScan.start.run (t.map CodePoint.val) = some TagScan.start

namespace Text

variable {s t : Text}

theorem isSteady_nil : IsSteady [] := rfl

theorem IsSteady.append (hs : IsSteady s) (ht : IsSteady t) : IsSteady (s ++ t) := by
  unfold IsSteady at hs ht ⊢
  rw [List.map_append, TagScan.run_append, hs, Option.bind_some, ht]

theorem isSteady_flatMap {α : Type} {f : α → Text} {as : List α}
    (h : ∀ a ∈ as, IsSteady (f a)) : IsSteady (as.flatMap f) := by
  induction as with
  | nil => exact isSteady_nil
  | cons a as ih =>
    rw [List.flatMap_cons]
    exact (h a (.head _)).append (ih fun b hb => h b (.tail _ hb))

theorem run_bytes_of_isSteady (h : IsSteady t) :
    TagScan.start.run (t.bytes.map UInt8.toNat) = some TagScan.start := by
  rw [TagScan.run_bytes TagScan.start_isAscii]
  exact h

end Text

theorem CodePoint.val_injective : Function.Injective CodePoint.val := by
  intro c d h
  cases c with
  | char c =>
    cases d with
    | char d => exact congrArg char (Char.toNat_inj.1 h)
    | surrogate d =>
      -- no character has the number of a surrogate
      have hc : c.toNat.isValidChar := c.valid
      have hd := d.isLt
      simp only [val] at h
      simp only [Nat.isValidChar] at hc
      omega
  | surrogate c =>
    cases d with
    | char d =>
      have hd : d.toNat.isValidChar := d.valid
      have hc := c.isLt
      simp only [val] at h
      simp only [Nat.isValidChar] at hd
      omega
    | surrogate d =>
      simp only [val] at h
      exact congrArg surrogate (Fin.ext (by omega))

/-- The signs that the scan of an opening tag knows. -/
def scanSigns : List Char := ['"', '\'', '{', '}', '>']

theorem CodePoint.val_ne_of_isAmong {c : CodePoint} {cs : List Char} {d : Char}
    (h : c.isAmong cs = false) (hd : d ∈ cs) : c.val ≠ d.toNat := by
  intro hval
  obtain rfl : c = .char d := CodePoint.val_injective hval
  rw [isAmong, List.contains_eq_mem, decide_eq_false_iff_not] at h
  exact h hd

theorem TagScan.pass_start_of_not_sign {c : CodePoint} (h : c.isAmong scanSigns = false) :
    start.pass c.val = some start := by
  have hne {d : Char} (hd : d ∈ scanSigns) : c.val ≠ d.toNat := c.val_ne_of_isAmong h hd
  have h₁ : c.val ≠ '"'.toNat := hne (by decide)
  have h₂ : c.val ≠ '\''.toNat := hne (by decide)
  have h₃ : c.val ≠ '{'.toNat := hne (by decide)
  have h₄ : c.val ≠ '}'.toNat := hne (by decide)
  have h₅ : c.val ≠ '>'.toNat := hne (by decide)
  simp only [pass, start, h₁, h₂, h₃, h₄, h₅]
  rfl

namespace Text

/-- A text without signs that the scan knows is steady. -/
theorem isSteady_of_no_sign {t : Text} (h : ∀ c ∈ t, c.isAmong scanSigns = false) :
    IsSteady t := by
  induction t with
  | nil => exact isSteady_nil
  | cons c t ih =>
    have htail := ih fun d hd => h d (.tail _ hd)
    unfold IsSteady at htail ⊢
    rw [List.map_cons, TagScan.run, TagScan.pass_start_of_not_sign (h c (.head _)),
      Option.bind_some]
    exact htail

/-- A text is steady if its code points have something in common that no sign has. -/
theorem isSteady_of_all {p : CodePoint → Bool} {t : Text} (h : t.all p = true)
    (hp : scanSigns.any (fun d => p (.char d)) = false) : IsSteady t := by
  refine isSteady_of_no_sign fun c hc => ?_
  rw [Bool.eq_false_iff]
  intro hsign
  cases c with
  | surrogate s => cases hsign
  | char d =>
    rw [CodePoint.isAmong, List.contains_eq_mem, decide_eq_true_eq] at hsign
    exact List.any_eq_false.1 hp d hsign (List.all_eq_true.1 h _ hc)

end Text

theorem TagScan.run_quoted {quote braces : Nat} {ns : List Nat} (h : quote ∉ ns) :
    run ⟨some quote, braces⟩ (ns ++ [quote]) = some ⟨none, braces⟩ := by
  induction ns with
  | nil => simp [run, pass]
  | cons n ns ih =>
    rw [List.mem_cons, not_or] at h
    have hpass : pass ⟨some quote, braces⟩ n = some ⟨some quote, braces⟩ := by
      simp [pass, Ne.symm h.1]
    rw [List.cons_append, run, hpass, Option.bind_some]
    exact ih h.2

namespace Markup

/-! ## Steady parts of a tag -/

/-- A value between quotes is steady, whatever else it holds. -/
theorem isSteady_quoted {quote : Quote} {value : Text} (h : quote.mark ∉ value) :
    Text.IsSteady (quote.mark :: value ++ [quote.mark]) := by
  have hval : quote.mark.val ∉ value.map CodePoint.val := by
    intro hmem
    obtain ⟨c, hc, hval⟩ := List.mem_map.1 hmem
    rw [CodePoint.val_injective hval] at hc
    exact h hc
  have hopen : TagScan.start.pass quote.mark.val = some ⟨some quote.mark.val, 0⟩ := by
    cases quote <;> rfl
  unfold Text.IsSteady
  rw [List.cons_append, List.map_cons, List.map_append, TagScan.run, hopen, Option.bind_some]
  exact TagScan.run_quoted hval

theorem isSteady_blanks {blanks : Text} (h : blanks.isBlank = true) : blanks.IsSteady :=
  Text.isSteady_of_all h (by decide)

/-- What has to be steady in a value for the value to be: all that does not stand between
quotes. -/
def Literal.IsSteady : Literal → Prop
  | .template value => Text.IsSteady (.char '`' :: value ++ [.char '`'])
  | .code value => (braced value).IsSteady
  | .bare value => value.IsSteady
  | _ => True

/-- What has to be steady in a part of a tag for the part to be. -/
def TagPart.IsSteady : TagPart → Prop
  | .named _ (some assignment) => assignment.literal.IsSteady
  | .code value => (braced value).IsSteady
  | _ => True

theorem Literal.isSteady_source (literal : Literal) (hproper : literal.Proper)
    (hsteady : literal.IsSteady) : literal.source.IsSteady := by
  cases literal with
  | missing => exact Text.isSteady_nil
  | quoted quote value => exact isSteady_quoted hproper
  | template value => exact hsteady
  | code value => exact hsteady
  | bare value => exact hsteady

theorem TagPart.isSteady_source (part : TagPart) (hproper : part.Proper)
    (hsteady : part.IsSteady) : part.source.IsSteady := by
  cases part with
  | blank blanks => exact isSteady_blanks hproper
  | slash => rfl
  | code value => exact hsteady
  | named name assignment =>
    obtain ⟨hname, hassignment⟩ := hproper
    have hname' : name.IsSteady := Text.isSteady_of_all hname (by decide)
    cases assignment with
    | none => exact hname'
    | some a =>
      obtain ⟨hbefore, hafter, hliteral⟩ := hassignment a rfl
      have hequals : Text.IsSteady [.char '='] := rfl
      rw [TagPart.source, Assignment.source]
      have hblanks := (isSteady_blanks hbefore).append
        (hequals.append (isSteady_blanks hafter))
      have key := hname'.append (hblanks.append (a.literal.isSteady_source hliteral hsteady))
      simpa using key

/-- An opening tag without its last signs. -/
def OpenTag.unended (t : OpenTag) : Text := .char '<' :: t.name ++ partsSource t.parts

/-- An opening tag is steady up to its end if its values without quotes are. -/
theorem OpenTag.unended_isSteady {t : OpenTag} (hproper : t.Proper)
    (hsteady : ∀ part ∈ t.parts, part.IsSteady) : t.unended.IsSteady := by
  have hbracket : Text.IsSteady [.char '<'] := rfl
  have hname : t.name.IsSteady := Text.isSteady_of_all hproper.name (by decide)
  have hparts : Text.IsSteady (partsSource t.parts) :=
    Text.isSteady_flatMap fun part hpart =>
      part.isSteady_source (hproper.parts part hpart) (hsteady part hpart)
  exact (hbracket.append hname).append hparts

theorem OpenTag.source_eq {t : OpenTag} (h : t.selfClosing = false) :
    t.source = t.unended ++ [.char '>'] := by
  rw [source, ending, h]
  rfl

end Markup

section Ends

variable {page before after : Text} {opening : Markup.OpenTag} {window : Int} {stop : Nat}

/-- The scan ends an opening tag where the reader did just if the tag is steady up to there. -/
theorem stop_eq_iff_isSteady (hpage : page = before ++ opening.source ++ after)
    (hopen : opening.selfClosing = false)
    (h : page.bytes.openTagEnd? window before.width = some stop) :
    stop = before.width + opening.source.width ↔ opening.unended.IsSteady := by
  obtain ⟨seen, behind, hdrop, -, rfl, hrun⟩ := Bytes.openTagEnd?_eq_some_iff.1 h
  have hwidth : opening.source.width = opening.unended.bytes.length + 1 := by
    rw [opening.source_eq hopen, Text.width_append, Text.length_bytes]
    rfl
  have hbytes : opening.unended.bytes ++ 0x3E :: after.bytes = seen ++ 0x3E :: behind := by
    rw [← hdrop, hpage, List.append_assoc, Text.drop_bytes_append, opening.source_eq hopen,
      Text.bytes_append, Text.bytes_append, List.append_assoc]
    rfl
  constructor
  · intro hstop
    have hlength : opening.unended.bytes.length = seen.length := by omega
    have hseen := (List.append_inj hbytes hlength).1
    rw [← hseen, TagScan.run_bytes TagScan.start_isAscii] at hrun
    exact hrun
  · intro hsteady
    have hunended := Text.run_bytes_of_isSteady hsteady
    -- neither of the two can go on behind a `>` that is met with nothing open
    rcases List.append_eq_append_iff.1 hbytes with ⟨more, hseen, hmore⟩ | ⟨more, hunseen, hmore⟩
    · cases more with
      | nil =>
        rw [hseen, List.append_nil]
        omega
      | cons x more =>
        obtain ⟨rfl, -⟩ := List.cons.inj hmore
        rw [hseen, TagScan.run_end hunended] at hrun
        cases hrun
    · cases more with
      | nil =>
        rw [List.append_nil] at hunseen
        rw [hwidth, hunseen]
      | cons x more =>
        obtain ⟨rfl, -⟩ := List.cons.inj hmore
        rw [hunseen, TagScan.run_end hrun] at hunended
        cases hunended

end Ends

end VisibleText
