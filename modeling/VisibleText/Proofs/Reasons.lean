import VisibleText.Proofs.Resolution

/-!
# Why an edit takes no bytes

What an edit comes to is a matter between the edit and the page; the rest of its batch has no say
in it, and neither has its place there (`Edit.resolve_of_order`). Either it lands on a range of
the page (`Edit.Lands`), or it is dropped for a reason (`Edit.Drops`). The reasons are tried one
after the other: whether the page has the field at all, whether both values can be encoded, and
only then what stands at the field and near it (`Edit.Misses`).

Both are said here without a search, and proved to be what resolving the edit comes to
(`Edit.lands_iff`, `Edit.drops_iff`).
-/

set_option autoImplicit false

namespace VisibleText

/-! ## What is not found -/

namespace Bytes

variable {b needle : Bytes} {reach start : Nat}

theorem not_prefix_of_find?_eq_none (h : find? needle b = none) (n : Nat) :
    ¬ needle <+: b.drop n := by
  induction b generalizing n with
  | nil =>
    unfold find? at h
    split at h
    · cases h
    · next hne =>
      rw [List.drop_nil, List.prefix_nil]
      rintro rfl
      exact hne rfl
  | cons x b ih =>
    unfold find? at h
    split at h
    · cases h
    · next hprefix =>
      cases n with
      | zero => exact fun hstands => hprefix (List.isPrefixOf_iff_prefix.2 hstands)
      | succ n => exact ih (Option.map_eq_none_iff.1 h) n

/-- Some bytes stand near a place: they start at most `reach` bytes before it, and at most as many
behind it. -/
def StandsNear (b : Bytes) (reach start : Nat) (needle : Bytes) : Prop :=
  ∃ place, start - reach ≤ place ∧ place ≤ start + reach ∧ needle <+: b.drop place

theorem FirstNear.standsNear {found : Nat} (h : b.FirstNear reach start needle found) :
    b.StandsNear reach start needle :=
  ⟨found, h.low, h.high, h.stands⟩

theorem FirstNear.unique {m n : Nat} (hm : b.FirstNear reach start needle m)
    (hn : b.FirstNear reach start needle n) : m = n := by
  rcases Nat.lt_trichotomy m n with hlt | heq | hlt
  · exact absurd hm.stands (hn.first m hm.low hlt)
  · exact heq
  · exact absurd hn.stands (hm.first n hn.low hlt)

theorem findNear?_eq_none_iff (needle_ne : needle ≠ []) :
    b.findNear? reach start needle = none ↔ ¬ b.StandsNear reach start needle := by
  constructor
  · rintro h ⟨place, hlow, hhigh, hstands⟩
    have hpos := List.length_pos_iff.2 needle_ne
    have hlength := hstands.length_le
    rw [List.length_drop] at hlength
    simp only [findNear?] at h
    split at h
    · omega
    · -- the place lies within the bytes that are searched, and so does what stands there
      refine not_prefix_of_find?_eq_none (Option.map_eq_none_iff.1 h) (place - (start - reach)) ?_
      simp only [slice, List.drop_take, List.drop_drop, List.prefix_take_iff]
      refine ⟨?_, by omega⟩
      rwa [Nat.add_sub_cancel' hlow]
  · intro habsent
    cases hfound : b.findNear? reach start needle with
    | none => rfl
    | some found => exact absurd (firstNear_of_findNear? needle_ne hfound).standsNear habsent

theorem findNear?_eq_some_iff {found : Nat} (needle_ne : needle ≠ []) :
    b.findNear? reach start needle = some found ↔ b.FirstNear reach start needle found := by
  refine ⟨firstNear_of_findNear? needle_ne, fun near => ?_⟩
  cases h : b.findNear? reach start needle with
  | none => exact absurd near.standsNear ((findNear?_eq_none_iff needle_ne).1 h)
  | some other => rw [(firstNear_of_findNear? needle_ne h).unique near]

end Bytes

namespace Edit

/-! ## One field -/

/-- Why an edit takes no bytes of the field that it names. -/
inductive Misses (b : Bytes) (reach : Nat) (f : Field) (e : Edit) : DropReason → Prop
  /-- text is to be put into a field that has some -/
  | fieldNotEmpty (old_eq : e.oldValue = []) (length_ne : f.range.length ≠ 0) :
      Misses b reach f e .fieldNotEmpty
  /-- the bytes at the field do not read as the old value, which does not stand near it either -/
  | notFound (old_ne : e.oldValue ≠ [])
      (misses : b.matchesAt f.range.start e.oldValue = false)
      (absent : ¬ b.StandsNear reach f.range.start e.oldValue.bytes) :
      Misses b reach f e .notFound

section OneField

variable {b : Bytes} {reach : Nat} {f : Field} {e : Edit}

theorem range_of_insertion (h : e.oldValue = []) : e.range b reach f =
    if f.range.length = 0 then .ok ⟨f.range.start, 0⟩ else .error .fieldNotEmpty := by
  rw [Edit.range, Edit.isInsertion, h]
  rfl

theorem range_of_ne (h : e.oldValue ≠ []) : e.range b reach f =
    if b.matchesAt f.range.start e.oldValue then .ok ⟨f.range.start, e.oldValue.width⟩
    else match b.findNear? reach f.range.start e.oldValue.bytes with
      | some start => .ok ⟨start, e.oldValue.width⟩
      | none => .error .notFound := by
  have hinsertion : e.isInsertion = false := by
    rwa [Edit.isInsertion, List.isEmpty_eq_false_iff]
  rw [Edit.range, hinsertion]
  rfl

theorem range_eq_ok_iff {range : ByteRange} :
    e.range b reach f = .ok range ↔ e.Takes b reach f range := by
  refine ⟨takes_of_range, fun takes => ?_⟩
  cases takes with
  | insertion old_eq empty => rw [range_of_insertion old_eq, if_pos empty]
  | inPlace old_ne reads => rw [range_of_ne old_ne, if_pos reads]
  | moved old_ne misses near =>
    have hfound := (Bytes.findNear?_eq_some_iff (Text.bytes_ne_nil old_ne)).2 near
    rw [range_of_ne old_ne, misses, if_neg Bool.false_ne_true, hfound]

theorem range_eq_error_iff {reason : DropReason} :
    e.range b reach f = .error reason ↔ e.Misses b reach f reason := by
  constructor
  · intro h
    by_cases old_eq : e.oldValue = []
    · rw [range_of_insertion old_eq] at h
      split at h
      · cases h
      · next length_ne =>
        cases h
        exact .fieldNotEmpty old_eq length_ne
    · rw [range_of_ne old_eq] at h
      split at h
      · cases h
      · next misses =>
        split at h
        · cases h
        · next habsent =>
          cases h
          exact .notFound old_eq (Bool.eq_false_iff.2 misses)
            ((Bytes.findNear?_eq_none_iff (Text.bytes_ne_nil old_eq)).1 habsent)
  · intro misses
    cases misses with
    | fieldNotEmpty old_eq length_ne => rw [range_of_insertion old_eq, if_neg length_ne]
    | notFound old_ne misses absent =>
      have hnone := (Bytes.findNear?_eq_none_iff (Text.bytes_ne_nil old_ne)).2 absent
      rw [range_of_ne old_ne, misses, if_neg Bool.false_ne_true, hnone]

end OneField

/-! ## All fields of a page -/

/-- An edit lands on a range of a page: its values can be encoded, and it takes that range for the
first field of its identifier. -/
structure Lands (b : Bytes) (reach : Nat) (fields : List Field) (e : Edit) (range : ByteRange) :
    Prop where
  old_encodable : e.oldValue.hasSurrogate = false
  new_encodable : e.newValue.hasSurrogate = false
  exists_field : ∃ f, fields.find? (fun f => f.id = e.id) = some f ∧ e.Takes b reach f range

/-- Why an edit lands nowhere. Each reason holds only where those above it do not. -/
inductive Drops (b : Bytes) (reach : Nat) (fields : List Field) (e : Edit) : DropReason → Prop
  /-- the page has no field of its identifier -/
  | unknownField (unknown : ∀ f ∈ fields, f.id ≠ e.id) : Drops b reach fields e .unknownField
  /-- a value cannot be encoded -/
  | invalidText {f : Field} (field_eq : fields.find? (fun f => f.id = e.id) = some f)
      (unencodable : e.oldValue.hasSurrogate = true ∨ e.newValue.hasSurrogate = true) :
      Drops b reach fields e .invalidText
  /-- there is nothing to be taken at the first field of its identifier -/
  | misses {f : Field} {reason : DropReason}
      (field_eq : fields.find? (fun f => f.id = e.id) = some f)
      (old_encodable : e.oldValue.hasSurrogate = false)
      (new_encodable : e.newValue.hasSurrogate = false) (misses : e.Misses b reach f reason) :
      Drops b reach fields e reason

section AllFields

variable {b : Bytes} {reach : Nat} {fields : List Field} {e : Edit} {order : Nat}

theorem find?_id_eq_none_iff :
    fields.find? (fun f => f.id = e.id) = none ↔ ∀ f ∈ fields, f.id ≠ e.id := by
  simp only [List.find?_eq_none, decide_eq_true_eq, ne_eq]

theorem resolve_of_none (h : fields.find? (fun f => f.id = e.id) = none) :
    e.resolve b reach fields order = .error .unknownField := by
  rw [Edit.resolve, h]

theorem resolve_of_some {f : Field} (h : fields.find? (fun f => f.id = e.id) = some f) :
    e.resolve b reach fields order =
      if e.oldValue.hasSurrogate || e.newValue.hasSurrogate then .error .invalidText
      else (e.range b reach f).map fun range => ⟨range, (e.written b f).bytes, e, order⟩ := by
  rw [Edit.resolve, h]

theorem lands_iff {range : ByteRange} (order : Nat) : e.Lands b reach fields range ↔
    ∃ r, e.resolve b reach fields order = .ok r ∧ r.range = range := by
  constructor
  · rintro ⟨hold, hnew, f, hf, takes⟩
    refine ⟨⟨range, (e.written b f).bytes, e, order⟩, ?_, rfl⟩
    rw [resolve_of_some hf, hold, hnew, range_eq_ok_iff.2 takes]
    rfl
  · rintro ⟨r, hr, rfl⟩
    obtain ⟨-, -, hold, hnew, f, hf, takes, -⟩ := resolve_eq_ok hr
    exact ⟨hold, hnew, f, hf, takes⟩

theorem drops_iff {reason : DropReason} (order : Nat) :
    e.Drops b reach fields reason ↔ e.resolve b reach fields order = .error reason := by
  constructor
  · intro drops
    cases drops with
    | unknownField unknown => exact resolve_of_none (find?_id_eq_none_iff.2 unknown)
    | invalidText field_eq unencodable =>
      rw [resolve_of_some field_eq, if_pos (Bool.or_eq_true_iff.2 unencodable)]
    | misses field_eq hold hnew misses =>
      rw [resolve_of_some field_eq, hold, hnew, range_eq_error_iff.2 misses]
      rfl
  · intro h
    cases hf : fields.find? (fun f => f.id = e.id) with
    | none =>
      rw [resolve_of_none hf] at h
      cases h
      exact .unknownField (find?_id_eq_none_iff.1 hf)
    | some f =>
      rw [resolve_of_some hf] at h
      split at h
      · next hunencodable =>
        cases h
        exact .invalidText hf (Bool.or_eq_true_iff.1 hunencodable)
      · next hencodable =>
        rw [Bool.or_eq_true_iff, not_or, Bool.not_eq_true, Bool.not_eq_true] at hencodable
        cases hrange : e.range b reach f with
        | ok range =>
          rw [hrange] at h
          cases h
        | error found =>
          rw [hrange] at h
          cases h
          exact .misses hf hencodable.1 hencodable.2 (range_eq_error_iff.1 hrange)

/-- What an edit comes to does not depend on its place in a batch. -/
theorem resolve_of_order {r : Replacement} (h : e.resolve b reach fields order = .ok r)
    (other : Nat) : e.resolve b reach fields other = .ok { r with order := other } := by
  cases hf : fields.find? (fun f => f.id = e.id) with
  | none =>
    rw [resolve_of_none hf] at h
    cases h
  | some f =>
    rw [resolve_of_some hf] at h ⊢
    split at h
    · cases h
    · next hencodable =>
      obtain ⟨range, hrange, rfl⟩ := Markup.exists_of_map_eq_ok h
      rw [if_neg hencodable, hrange]
      rfl

end AllFields

end Edit

end VisibleText
