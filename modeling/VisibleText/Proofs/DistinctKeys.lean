import Mathlib.Data.List.Nodup
import VisibleText.Proofs.SettingsLayers

/-!
# Objects with distinct keys

No object that is read from a text has two members of one key, however deep it stands in other ones
(`Json.hasDistinctKeys_of_read`), because every member that is read is set among those before it.

Members are a list, and only where its keys are distinct every member of it is found by its key
(`Json.Members.find?_of_mem`).
-/

set_option autoImplicit false

namespace VisibleText.Json

/-! ## Keys -/

namespace Members

variable {members : Members} {key k : Text} {value : Json}

/-- The keys of an object, in their order. -/
def keys (members : Members) : List Text := members.map Prod.fst

theorem keys_cons (key : Text) (value : Json) (members : Members) :
    keys ((key, value) :: members) = key :: members.keys := rfl

theorem find?_eq_none_iff : members.find? key = none ↔ key ∉ members.keys := by
  induction members with
  | nil => exact iff_of_true rfl List.not_mem_nil
  | cons member members ih =>
    obtain ⟨k, value⟩ := member
    rw [find?_cons, keys_cons, List.mem_cons, not_or]
    by_cases h : key = k
    · rw [if_pos h]
      exact iff_of_false (Option.some_ne_none _) fun hnot => hnot.1 h
    · rw [if_neg h, ih, and_iff_right h]

theorem mem_of_find? (h : members.find? key = some value) : (key, value) ∈ members := by
  obtain ⟨before, after, rfl, -⟩ := List.lookup_eq_some_iff.1 h
  exact List.mem_append_right before (.head after)

theorem mem_keys_of_mem (h : (key, value) ∈ members) : key ∈ members.keys :=
  List.mem_map_of_mem h

/-- Where keys are distinct, every member is found. -/
theorem find?_of_mem (h : members.keys.Nodup) (hmem : (key, value) ∈ members) :
    members.find? key = some value := by
  induction members with
  | nil => cases hmem
  | cons member members ih =>
    obtain ⟨k, other⟩ := member
    rw [keys_cons, List.nodup_cons] at h
    rw [find?_cons]
    rcases List.mem_cons.1 hmem with heq | hmem
    · cases heq
      rw [if_pos rfl]
    · have hne : key ≠ k := fun heq => h.1 (heq ▸ mem_keys_of_mem hmem)
      rw [if_neg hne, ih h.2 hmem]

/-- A new key comes last, and one that was there keeps its place. -/
theorem keys_set : (members.set key value).keys =
    if key ∈ members.keys then members.keys else members.keys ++ [key] := by
  induction members with
  | nil => rfl
  | cons member members ih =>
    obtain ⟨k, other⟩ := member
    rw [set]
    by_cases h : k = key
    · rw [if_pos h, keys_cons, keys_cons, h, if_pos (.head _)]
    · rw [if_neg h, keys_cons, ih, keys_cons]
      have hmem : key ∈ k :: keys members ↔ key ∈ keys members := by
        rw [List.mem_cons, or_iff_right (Ne.symm h)]
      simp only [hmem]
      split <;> rfl

theorem nodup_keys_set (h : members.keys.Nodup) : (members.set key value).keys.Nodup := by
  rw [keys_set]
  split
  · exact h
  · next hkey => exact List.nodup_append_comm.1 (List.nodup_cons.2 ⟨hkey, h⟩)

/-- Setting a member to what it is changes nothing. -/
theorem set_of_find? (h : members.find? key = some value) : members.set key value = members := by
  induction members with
  | nil => cases h
  | cons member members ih =>
    obtain ⟨k, other⟩ := member
    rw [find?_cons] at h
    rw [set]
    by_cases hkey : key = k
    · rw [if_pos hkey, Option.some.injEq] at h
      rw [if_pos hkey.symm, hkey, h]
    · rw [if_neg hkey] at h
      rw [if_neg (Ne.symm hkey), ih h]

theorem set_of_not_mem (h : key ∉ members.keys) :
    members.set key value = members ++ [(key, value)] := by
  induction members with
  | nil => rfl
  | cons member members ih =>
    obtain ⟨k, other⟩ := member
    rw [keys_cons, List.mem_cons, not_or] at h
    rw [set, if_neg (Ne.symm h.1), ih h.2, List.cons_append]

theorem mem_set {member : Text × Json} (h : member ∈ members.set key value) :
    member = (key, value) ∨ member ∈ members := by
  induction members with
  | nil => exact .inl (List.mem_singleton.1 h)
  | cons first members ih =>
    obtain ⟨k, other⟩ := first
    rw [set] at h
    split at h
    · exact (List.mem_cons.1 h).imp_right (.tail _)
    · rcases List.mem_cons.1 h with rfl | h
      · exact .inr (.head _)
      · exact (ih h).imp_right (.tail _)

end Members

/-- No object in a value has two members of one key. Arrays are not looked into, because they are
laid over other values as a whole. -/
inductive HasDistinctKeys : Json → Prop where
  | object {members : Members} (nodup : members.keys.Nodup)
      (values : ∀ member ∈ members, HasDistinctKeys member.2) : HasDistinctKeys (object members)
  | other {value : Json} (not_object : ∀ members, value ≠ object members) : HasDistinctKeys value

theorem hasDistinctKeys_nil : HasDistinctKeys (.object []) := .object List.nodup_nil nofun

theorem HasDistinctKeys.nodup_keys {members : Members} (h : HasDistinctKeys (.object members)) :
    members.keys.Nodup := by
  cases h with
  | object nodup => exact nodup
  | other not_object => exact absurd rfl (not_object members)

theorem HasDistinctKeys.of_mem {members : Members} (h : HasDistinctKeys (.object members))
    {member : Text × Json} (hmem : member ∈ members) : HasDistinctKeys member.2 := by
  cases h with
  | object _ values => exact values member hmem
  | other not_object => exact absurd rfl (not_object members)

theorem HasDistinctKeys.of_find? {members : Members} (h : HasDistinctKeys (.object members))
    {key : Text} {value : Json} (hfind : members.find? key = some value) :
    HasDistinctKeys value :=
  h.of_mem (Members.mem_of_find? hfind)

theorem HasDistinctKeys.set {members : Members} (h : HasDistinctKeys (.object members))
    {key : Text} {value : Json} (hvalue : HasDistinctKeys value) :
    HasDistinctKeys (.object (members.set key value)) := by
  apply HasDistinctKeys.object (Members.nodup_keys_set h.nodup_keys)
  intro member hmem
  rcases Members.mem_set hmem with rfl | hmem
  · exact hvalue
  · exact h.of_mem hmem

theorem HasDistinctKeys.of_follow? {value found : Json} {path : List Text}
    (h : HasDistinctKeys value) (hfollow : value.follow? path = some found) :
    HasDistinctKeys found := by
  induction path generalizing value with
  | nil =>
    cases hfollow
    exact h
  | cons key path ih =>
    rw [follow?] at hfollow
    split at hfollow
    · cases hfollow
    · next inner hinner =>
      cases value with
      | object members => exact ih (h.of_find? hinner) hfollow
      | null | bool | int | float | string | array => cases hinner

/-! ## What is read from a text -/

/-- A number is read as an integer or as one with a point. -/
theorem hasDistinctKeys_of_readNumber {left : Text} {taken : Taken Json}
    (h : readNumber left = .ok taken) : HasDistinctKeys taken.value := by
  rw [readNumber.eq_def] at h
  dsimp only at h
  split at h
  · cases h
  · split at h
    · split at h
      · cases h
      · cases h
        exact .other fun _ => nofun
    · cases h
      exact .other fun _ => nofun

theorem hasDistinctKeys_of_readScalar {left : Text} {taken : Taken Json}
    (h : readScalar left = .ok taken) : HasDistinctKeys taken.value := by
  rw [readScalar] at h
  split at h
  · next value rest hword =>
    cases h
    obtain ⟨⟨word, written⟩, hmem, hafter⟩ := List.exists_of_findSome?_eq_some hword
    obtain ⟨rest', -, heq⟩ := Option.map_eq_some_iff.1 hafter
    cases heq
    have hwords : ∀ entry ∈ words, ∀ members, entry.2 ≠ .object members := by
      simp [words]
    exact .other (hwords _ hmem)
  · exact hasDistinctKeys_of_readNumber h

/-- The values and the members that are read within so many steps have distinct keys, the members if
those before them have. -/
theorem hasDistinctKeys_of_reads (steps : Nat) :
    (∀ (room : Nat) (left : Text) (taken : Taken Json), readValue steps room left = .ok taken →
      HasDistinctKeys taken.value) ∧
    ∀ (room : Nat) (members : Members) (left : Text) (taken : Taken Members),
      HasDistinctKeys (.object members) → readMembers steps room members left = .ok taken →
        HasDistinctKeys (.object taken.value) := by
  induction steps with
  | zero =>
    constructor
    · intro room left taken h
      cases h
    · intro room members left taken hmembers h
      cases h
  | succ steps ih =>
    obtain ⟨ihvalue, ihmembers⟩ := ih
    constructor
    · intro room left taken h
      rw [readValue.eq_def] at h
      dsimp only at h
      split at h
      · obtain ⟨t, -, rfl⟩ := Markup.exists_of_map_eq_ok h
        exact .other fun _ => nofun
      · split at h
        · cases h
        · split at h
          · cases h
            exact .other fun _ => nofun
          · obtain ⟨items, -, rfl⟩ := Markup.exists_of_map_eq_ok h
            exact .other fun _ => nofun
      · split at h
        · cases h
        · split at h
          · cases h
            exact hasDistinctKeys_nil
          · obtain ⟨taken', hmembers, rfl⟩ := Markup.exists_of_map_eq_ok h
            exact ihmembers _ _ _ _ hasDistinctKeys_nil hmembers
      · exact hasDistinctKeys_of_readScalar h
    · intro room members left taken hmembers h
      rw [readMembers.eq_def] at h
      dsimp only at h
      split at h
      · obtain ⟨⟨key, rest⟩, -, h⟩ := Markup.exists_of_bind_eq_ok h
        simp only at h
        split at h
        · obtain ⟨⟨value, rest'⟩, hvalue, h⟩ := Markup.exists_of_bind_eq_ok h
          -- with the member that was just read the keys are still distinct
          have hset : HasDistinctKeys (.object (members.set key value)) :=
            hmembers.set (ihvalue _ _ _ hvalue)
          simp only at h
          split at h
          · cases h
            exact hset
          · exact ihmembers _ _ _ _ hset h
          · cases h
        · cases h
      · cases h

/-- Whatever is read from a text, no object in it has two members of one key. -/
theorem hasDistinctKeys_of_read {t : Text} {value : Json} (h : read t = .ok value) :
    HasDistinctKeys value := by
  rw [read] at h
  split at h
  · cases h
  · obtain ⟨⟨found, rest⟩, hvalue, h⟩ := Markup.exists_of_bind_eq_ok h
    simp only at h
    split at h
    · cases h
      exact (hasDistinctKeys_of_reads _).1 _ _ _ hvalue
    · cases h

end VisibleText.Json
