import VisibleText.Proofs.DistinctKeys

/-!
# Objects laid over others

When an object is laid over another one, every path of keys decides for itself. Where both objects
hold an object at a path, what comes out there is the upper one of these laid over the lower one.
Where the upper object lacks a key of the path, and both had objects down to there, the lower one
decides. Everywhere else the upper one does (`Json.Members.merge_at_paths`).

All of this follows from one equation for a single key (`Json.Members.find?_merge`), and the order
of the keys from another one (`Json.Members.keys_merge`). Laying an object over something for the
second time changes nothing, because a value that has taken the place of another one is not changed
when it is laid over itself (`Json.layOver_self`).

The keys of the upper object have to be distinct for that, as they are in whatever is read from a
file.
-/

set_option autoImplicit false

namespace VisibleText.Json

/-! ## One key of an object that was laid over another one -/

theorem layOver_object (lower upper : Members) :
    layOver (object lower) (object upper) = object (lower.merge upper) := rfl

/-- A value takes the whole place of another one if one of the two is no object. -/
theorem layOver_of_not_objects {below value : Json}
    (h : (∀ lower, below ≠ object lower) ∨ ∀ upper, value ≠ object upper) :
    layOver below value = value := by
  cases value with
  | null | bool | int | float | string | array => rfl
  | object upper =>
    have hbelow := h.resolve_right fun hvalue => hvalue upper rfl
    cases below with
    | object lower => exact absurd rfl (hbelow lower)
    | null | bool | int | float | string | array => rfl

namespace Members

variable {lower upper : Members} {key k : Text} {value : Json}

/-- What becomes of a key of an object when a value is laid over it. -/
def laid (lower : Members) (key : Text) (value : Json) : Json :=
  match lower.find? key with
  | some below => layOver below value
  | none => value

theorem merge_cons (lower : Members) (key : Text) (value : Json) (upper : Members) :
    lower.merge ((key, value) :: upper) = (lower.set key (lower.laid key value)).merge upper := rfl

theorem laid_of_find? {below : Json} (h : lower.find? key = some below) :
    lower.laid key value = layOver below value := by
  rw [laid, h]

theorem laid_of_find?_eq_none (h : lower.find? key = none) : lower.laid key value = value := by
  rw [laid, h]

theorem laid_set_of_ne {other : Json} (h : k ≠ key) :
    laid (lower.set key other) k value = lower.laid k value := by
  rw [laid, find?_set, if_neg h, laid]

/-- Every key of the upper object is laid over what the lower one has there, and the other keys stay
as they are. -/
theorem find?_merge (h : upper.keys.Nodup) : (lower.merge upper).find? k =
    ((upper.find? k).map (lower.laid k)).or (lower.find? k) := by
  induction upper generalizing lower with
  | nil => rfl
  | cons member upper ih =>
    obtain ⟨key, value⟩ := member
    rw [keys_cons, List.nodup_cons] at h
    rw [merge_cons, ih h.2, find?_cons, find?_set]
    by_cases hkey : k = key
    · -- the key does not come up again, so its member is not touched any more
      rw [hkey, find?_eq_none_iff.2 h.1, if_pos rfl, if_pos rfl]
      rfl
    · rw [if_neg hkey, if_neg hkey]
      cases find? upper k with
      | none => rfl
      | some other => rw [Option.map_some, Option.map_some, laid_set_of_ne hkey]

/-- No key of the lower object is lost. -/
theorem exists_find?_merge {below : Json} (h : upper.keys.Nodup)
    (hbelow : lower.find? key = some below) :
    ∃ value, (lower.merge upper).find? key = some value := by
  rw [find?_merge h]
  cases upper.find? key with
  | none => exact ⟨below, hbelow⟩
  | some value => exact ⟨lower.laid key value, rfl⟩

/-- The keys of the lower object come first, and new ones follow in the order of the upper one. -/
theorem keys_merge (h : upper.keys.Nodup) : (lower.merge upper).keys =
    lower.keys ++ upper.keys.filter fun key => decide (key ∉ lower.keys) := by
  induction upper generalizing lower with
  | nil => exact (List.append_nil _).symm
  | cons member upper ih =>
    obtain ⟨key, value⟩ := member
    rw [keys_cons, List.nodup_cons] at h
    rw [merge_cons, ih h.2, keys_set, keys_cons, List.filter_cons]
    by_cases hkey : key ∈ lower.keys
    · rw [if_pos hkey, if_neg (by simpa using hkey)]
    · rw [if_neg hkey, if_pos (by simpa using hkey), List.append_assoc, List.singleton_append]
      -- none of the keys that follow is the one that was put behind the others
      have hfilter : (keys upper).filter (fun k => decide (k ∉ lower.keys ++ [key])) =
          (keys upper).filter fun k => decide (k ∉ lower.keys) := by
        apply List.filter_congr
        intro k hk
        have hne : k ≠ key := fun heq => h.1 (heq ▸ hk)
        simp [hne]
      rw [hfilter]

/-! ## Laying an object over nothing, and over itself -/

theorem merge_of_disjoint (h : upper.keys.Nodup) (hnew : ∀ key ∈ upper.keys, key ∉ lower.keys) :
    lower.merge upper = lower ++ upper := by
  induction upper generalizing lower with
  | nil => exact (List.append_nil lower).symm
  | cons member upper ih =>
    obtain ⟨key, value⟩ := member
    rw [keys_cons, List.nodup_cons] at h
    rw [keys_cons, List.forall_mem_cons] at hnew
    rw [merge_cons, laid_of_find?_eq_none (find?_eq_none_iff.2 hnew.1), set_of_not_mem hnew.1,
      ih h.2, List.append_assoc, List.singleton_append]
    intro k hk hmem
    rw [keys, List.map_append, List.mem_append] at hmem
    rcases hmem with hmem | hmem
    · exact hnew.2 k hk hmem
    · obtain rfl : k = key := List.mem_singleton.1 hmem
      exact h.1 hk

/-- Nothing changes if every member of the upper object changes nothing in its place. -/
theorem merge_eq_self (h : ∀ member ∈ upper, ∃ below,
    lower.find? member.1 = some below ∧ layOver below member.2 = below) :
    lower.merge upper = lower := by
  induction upper with
  | nil => rfl
  | cons member upper ih =>
    obtain ⟨⟨below, hfind, hlaid⟩, hrest⟩ := List.forall_mem_cons.1 h
    rw [merge_cons, laid_of_find? hfind, hlaid, set_of_find? hfind]
    exact ih hrest

end Members

/-- A value that is laid over itself stays as it is. -/
theorem layOver_self {value : Json} (h : HasDistinctKeys value) : layOver value value = value := by
  induction h with
  | other not_object => exact layOver_of_not_objects (.inr not_object)
  | object nodup _ ih =>
    rw [layOver_object, Members.merge_eq_self]
    intro member hmem
    exact ⟨member.2, Members.find?_of_mem nodup hmem, ih member hmem⟩

/-- What was laid over a value changes nothing when it is laid over the outcome. -/
theorem layOver_layOver {value : Json} (h : HasDistinctKeys value) (below : Json) :
    layOver (layOver below value) value = layOver below value := by
  induction h generalizing below with
  | other not_object =>
    rw [layOver_of_not_objects (.inr not_object), layOver_of_not_objects (.inr not_object)]
  | @object upper nodup values ih =>
    by_cases hbelow : ∃ lower, below = object lower
    · obtain ⟨lower, rfl⟩ := hbelow
      rw [layOver_object, layOver_object, Members.merge_eq_self]
      intro member hmem
      refine ⟨Members.laid lower member.1 member.2, ?_, ?_⟩
      · rw [Members.find?_merge nodup, Members.find?_of_mem nodup hmem]
        rfl
      · cases hfind : Members.find? lower member.1 with
        | some below => rw [Members.laid_of_find? hfind, ih member hmem]
        | none =>
          rw [Members.laid_of_find?_eq_none hfind]
          exact layOver_self (values member hmem)
    · rw [not_exists] at hbelow
      rw [layOver_of_not_objects (.inl hbelow), layOver_self (.object nodup values)]

/-! ## Paths of keys -/

theorem follow?_append (value : Json) (path path' : List Text) :
    value.follow? (path ++ path') = (value.follow? path).bind fun inner => inner.follow? path' := by
  induction path generalizing value with
  | nil => rfl
  | cons key path ih =>
    rw [List.cons_append, follow?, follow?]
    cases value.member? key with
    | none => rfl
    | some inner => exact ih inner

/-- Only through objects a path leads to an object. -/
theorem exists_object_of_follow? {value : Json} {path : List Text} {members : Members}
    (h : value.follow? path = some (object members)) : ∃ outer, value = object outer := by
  cases path with
  | nil => exact ⟨members, Option.some.inj h⟩
  | cons key path =>
    by_contra hnone
    rw [follow?_cons_of_not_object fun outer heq => hnone ⟨outer, heq⟩] at h
    cases h

namespace Members

variable {lower upper lower' upper' : Members} {key : Text} {path : List Text} {value : Json}

/-- At a path both of two objects hold an object. Then they do so at every path that leads there. -/
structure Meet (lower upper : Members) (path : List Text) (lower' upper' : Members) : Prop where
  lower_eq : (object lower).follow? path = some (object lower')
  upper_eq : (object upper).follow? path = some (object upper')

/-- The upper one of two objects lacks a key of a path, and the lower one has objects as far as the
upper one has: they meet right above the first key that is lacking. -/
structure Lacks (lower upper : Members) (path : List Text) : Prop where
  exists_meet : ∃ (above : List Text) (key : Text) (rest : List Text) (lower' upper' : Members),
    path = above ++ key :: rest ∧ Meet lower upper above lower' upper' ∧ upper'.find? key = none

/-- Two objects that meet below a key have objects there. -/
theorem Meet.cons_iff : Meet lower upper (key :: path) lower' upper' ↔
    ∃ inner inner', lower.find? key = some (object inner) ∧
      upper.find? key = some (object inner') ∧ Meet inner inner' path lower' upper' := by
  constructor
  · intro h
    have hlower := h.lower_eq
    have hupper := h.upper_eq
    rw [follow?_cons, Option.bind_eq_some_iff] at hlower hupper
    obtain ⟨below, hbelow, hlower⟩ := hlower
    obtain ⟨value, hvalue, hupper⟩ := hupper
    obtain ⟨inner, rfl⟩ := exists_object_of_follow? hlower
    obtain ⟨inner', rfl⟩ := exists_object_of_follow? hupper
    exact ⟨inner, inner', hbelow, hvalue, hlower, hupper⟩
  · rintro ⟨inner, inner', hlower, hupper, h⟩
    constructor
    · rw [follow?_cons, hlower, Option.bind_some, h.lower_eq]
    · rw [follow?_cons, hupper, Option.bind_some, h.upper_eq]

/-- A key is lacking at once, or below an object that both have. -/
theorem lacks_cons_iff : Lacks lower upper (key :: path) ↔ upper.find? key = none ∨
    ∃ inner inner', lower.find? key = some (object inner) ∧
      upper.find? key = some (object inner') ∧ Lacks inner inner' path := by
  constructor
  · rintro ⟨above, first, rest, lower', upper', hpath, hmeet, hnone⟩
    cases above with
    | nil =>
      obtain ⟨rfl, rfl⟩ := List.cons.inj hpath
      cases hmeet.upper_eq
      exact .inl hnone
    | cons k above =>
      obtain ⟨rfl, rfl⟩ := List.cons.inj hpath
      obtain ⟨inner, inner', hlower, hupper, hmeet⟩ := Meet.cons_iff.1 hmeet
      exact .inr ⟨inner, inner', hlower, hupper, above, first, rest, lower', upper', rfl, hmeet,
        hnone⟩
  · rintro (hnone | ⟨inner, inner', hlower, hupper, h⟩)
    · exact ⟨[], key, path, lower, upper, rfl, ⟨rfl, rfl⟩, hnone⟩
    · obtain ⟨above, first, rest, lower', upper', rfl, hmeet, hnone⟩ := h.exists_meet
      exact ⟨key :: above, first, rest, lower', upper', rfl,
        Meet.cons_iff.2 ⟨inner, inner', hlower, hupper, hmeet⟩, hnone⟩

/-- Where two objects meet, the upper one of what they hold is laid over the lower one. -/
theorem Meet.follow?_merge (h : Meet lower upper path lower' upper')
    (hupper : HasDistinctKeys (object upper)) :
    (object (lower.merge upper)).follow? path = some (object (lower'.merge upper')) := by
  induction path generalizing lower upper with
  | nil =>
    cases h.lower_eq
    cases h.upper_eq
    rfl
  | cons key path ih =>
    obtain ⟨inner, inner', hinner, hinner', hmeet⟩ := Meet.cons_iff.1 h
    rw [follow?_cons, find?_merge hupper.nodup_keys, hinner', Option.map_some, Option.some_or,
      Option.bind_some, laid_of_find? hinner, layOver_object]
    exact ih hmeet (hupper.of_find? hinner')

/-- What the upper object lacks is left as the lower one has it. -/
theorem Lacks.follow?_merge (h : Lacks lower upper path)
    (hupper : HasDistinctKeys (object upper)) :
    (object (lower.merge upper)).follow? path = (object lower).follow? path := by
  obtain ⟨above, key, rest, lower', upper', rfl, hmeet, hnone⟩ := h.exists_meet
  have hupper' := (hupper.of_follow? hmeet.upper_eq).nodup_keys
  rw [follow?_append, follow?_append, hmeet.follow?_merge hupper, hmeet.lower_eq, Option.bind_some,
    Option.bind_some, follow?_cons, follow?_cons, find?_merge hupper', hnone]
  rfl

/-- Everywhere else the upper object has the say. -/
theorem follow?_merge_of_not (hupper : HasDistinctKeys (object upper))
    (hmeet : ∀ lower' upper', ¬ Meet lower upper path lower' upper')
    (hlacks : ¬ Lacks lower upper path) :
    (object (lower.merge upper)).follow? path = (object upper).follow? path := by
  induction path generalizing lower upper with
  | nil => exact absurd ⟨rfl, rfl⟩ (hmeet lower upper)
  | cons key path ih =>
    cases hvalue : upper.find? key with
    | none => exact absurd (lacks_cons_iff.2 (.inl hvalue)) hlacks
    | some value =>
      rw [follow?_cons, follow?_cons, find?_merge hupper.nodup_keys, hvalue, Option.map_some,
        Option.some_or, Option.bind_some, Option.bind_some]
      cases hbelow : lower.find? key with
      | none => rw [laid_of_find?_eq_none hbelow]
      | some below =>
        rw [laid_of_find? hbelow]
        by_cases hobjects : (∃ inner, below = object inner) ∧ ∃ inner', value = object inner'
        · obtain ⟨⟨inner, rfl⟩, inner', rfl⟩ := hobjects
          rw [layOver_object]
          -- a path that meets or lacks something further down would do so from here
          apply ih (hupper.of_find? hvalue)
          · intro lower' upper' h
            exact hmeet lower' upper' (Meet.cons_iff.2 ⟨inner, inner', hbelow, hvalue, h⟩)
          · intro h
            exact hlacks (lacks_cons_iff.2 (.inr ⟨inner, inner', hbelow, hvalue, h⟩))
        · rw [not_and_or, not_exists, not_exists] at hobjects
          rw [layOver_of_not_objects hobjects]

/-- What comes out at a path when an object is laid over another one: the outcome of the same for
what both hold there, with the keys of the lower one first, if both hold an object; what the lower
one holds, if the upper one lacks a key and both have objects down to there; and what the upper one
holds otherwise. An object without members changes nothing when it is laid over another one and
gives way to any that is laid over it, and the upper object changes nothing when it is laid over the
outcome. -/
theorem merge_at_paths {upper : Members} (hupper : HasDistinctKeys (object upper))
    (lower : Members) :
    (∀ path lower' upper', Meet lower upper path lower' upper' →
      (object (lower.merge upper)).follow? path = some (object (lower'.merge upper')) ∧
      (lower'.merge upper').keys =
        lower'.keys ++ upper'.keys.filter fun key => decide (key ∉ lower'.keys)) ∧
    (∀ path, Lacks lower upper path →
      (object (lower.merge upper)).follow? path = (object lower).follow? path) ∧
    (∀ path, (∀ lower' upper', ¬ Meet lower upper path lower' upper') →
      ¬ Lacks lower upper path →
        (object (lower.merge upper)).follow? path = (object upper).follow? path) ∧
    lower.merge [] = lower ∧ merge [] upper = upper ∧
    (lower.merge upper).merge upper = lower.merge upper := by
  refine ⟨?_, ?_, ?_, rfl, ?_, ?_⟩
  · intro path lower' upper' h
    exact ⟨h.follow?_merge hupper, keys_merge (hupper.of_follow? h.upper_eq).nodup_keys⟩
  · intro path h
    exact h.follow?_merge hupper
  · intro path hmeet hlacks
    exact follow?_merge_of_not hupper hmeet hlacks
  · exact merge_of_disjoint hupper.nodup_keys fun _ _ => List.not_mem_nil
  · have hlaid := layOver_layOver hupper (object lower)
    rw [layOver_object, layOver_object] at hlaid
    exact object.inj hlaid

/-- Objects that both have an object under one key; under another key only the lower one has an
object, and the upper one has nothing but null. -/
theorem merge_at_paths_of_clash :
    let lower : Members := [(text "a", .record [("x", .ofNat 1), ("y", .ofNat 2)]),
      (text "c", .record [("z", .ofNat 3)])]
    let upper : Members := [(text "c", .null), (text "b", .record []),
      (text "a", .record [("y", .record []), ("w", .ofNat 4)])]
    HasDistinctKeys (.object upper) ∧
      (lower.merge upper).keys = [text "a", text "c", text "b"] ∧
      (object (lower.merge upper)).follow? [text "a", text "x"] = some (.ofNat 1) ∧
      (object (lower.merge upper)).follow? [text "c", text "z"] = none ∧
      (lower.merge upper).merge upper = lower.merge upper := by
  intro lower upper
  have hupper : HasDistinctKeys (.object upper) := by
    apply HasDistinctKeys.object (by decide)
    refine List.forall_mem_cons.2 ⟨.other fun _ => nofun, List.forall_mem_cons.2
      ⟨hasDistinctKeys_nil, List.forall_mem_singleton.2 (.object (by decide) ?_)⟩⟩
    exact List.forall_mem_cons.2 ⟨hasDistinctKeys_nil,
      List.forall_mem_singleton.2 (.other fun _ => nofun)⟩
  obtain ⟨hmeets, hlacks, hothers, -, -, hagain⟩ := merge_at_paths hupper lower
  refine ⟨hupper, (hmeets [] lower upper ⟨rfl, rfl⟩).2, ?_, ?_, hagain⟩
  · -- both have an object under the first key, and there the upper one lacks the second one
    exact hlacks _ ⟨[text "a"], text "x", [], _, _, rfl, ⟨rfl, rfl⟩, rfl⟩
  · apply hothers
    · intro lower' upper' hmeet
      obtain ⟨inner, inner', -, hnull, -⟩ := Meet.cons_iff.1 hmeet
      cases hnull
    · intro h
      rcases lacks_cons_iff.1 h with hnone | ⟨inner, inner', -, hnull, -⟩
      · cases hnone
      · cases hnull

end Members

end VisibleText.Json
