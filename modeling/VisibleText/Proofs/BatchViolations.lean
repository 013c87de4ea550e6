import Mathlib.Data.List.Perm.Subperm
import VisibleText.Edit.Draft
import VisibleText.Proofs.StaticPages
import VisibleText.Proofs.Unchanged

/-!
# What is wrong with a batch

A batch of edits from outside is taken just if it says everything that its edits need
(`EditSaid`); then each edit is what its object says. Otherwise everything is reported that is wrong
with it. What that may be is said here without the schemas (`EditViolates`, `BatchViolates`): which
keyword is violated, where, and by what. Each of these is reported once, the reports are in the
order of the places, and those of one place are in the order of the keywords
(`parseBatch_reports_each`).

A keyword may be violated more than once at one place: every key that is required and missing is a
violation of its own (`not_forall_keyword_reported_once`).
-/

set_option autoImplicit false

namespace VisibleText

/-! ## Violations -/

/-- The keywords of the schemas. One that requires several keys counts for each of them. -/
inductive Keyword where
  | kind (asked : JsonKind)
  | minLength
  | minItems
  | required (key : Text)
  | anyOf
deriving DecidableEq

namespace Keyword

/-- What a keyword is called in a schema. -/
def name : Keyword → String
  | kind _ => "type"
  | minLength => "minLength"
  | minItems => "minItems"
  | required _ => "required"
  | anyOf => "anyOf"

/-- The wording for a value that violates a keyword. -/
def message : Keyword → Json → Text
  | kind asked, part => part.shown ++ text " is not of type " ++ quoted (text asked.name)
  | minLength, part => part.shown ++ text " should be non-empty"
  | minItems, part => part.shown ++ text " should be non-empty"
  | required key, _ => quoted key ++ text " is a required property"
  | anyOf, part => part.shown ++ text " is not valid under any of the given schemas"

/-- The place of a keyword in the schema that it belongs to. -/
def rank : Keyword → Nat
  | kind _ => 0
  | minLength => 1
  | minItems => 1
  | required key => if key = EditDraft.oldKey then 3 else 2
  | anyOf => 4

end Keyword

/-- A keyword that is violated, with the path of the value that violates it. -/
structure Complaint where
  path : List Text
  keyword : Keyword
  part : Json

namespace Complaint

/-- A complaint about a part of a value, seen from the value. -/
def under (step : Text) (c : Complaint) : Complaint := { c with path := step :: c.path }

/-- What is reported: the wording, behind the path with dots between its parts if there is one. -/
def line (c : Complaint) : Text :=
  if c.path = [] then c.keyword.message c.part
  else Text.join (text ".") c.path ++ text ": " ++ c.keyword.message c.part

/-- Complaints are ordered by their paths, and at one place by their keywords. -/
def Precedes (c d : Complaint) : Prop :=
  c.path < d.path ∨ c.path = d.path ∧ c.keyword.rank < d.keyword.rank

/-- The violation that a complaint is about. -/
def violation (c : Complaint) : Violation := ⟨c.path, c.keyword.message c.part⟩

end Complaint

/-- The keys of an edit whose values are strings. -/
def editKeys : List Text :=
  [EditDraft.idKey, EditDraft.oldKey, EditDraft.newKey, EditDraft.olderNewKey]

/-- What may be wrong with an edit. Of something that is no object only that is said. -/
inductive EditViolates (item : Json) : Complaint → Prop where
  | notAnObject (h : ∀ members, item ≠ .object members) :
    EditViolates item ⟨[], .kind .object, item⟩
  | notAString {key : Text} {value : Json} (hkey : key ∈ editKeys)
    (hvalue : item.member? key = some value) (h : ∀ t, value ≠ .string t) :
    EditViolates item ⟨[key], .kind .string, value⟩
  | emptyId (h : item.member? EditDraft.idKey = some (.string [])) :
    EditViolates item ⟨[EditDraft.idKey], .minLength, .string []⟩
  | missing {members : Json.Members} {key : Text} (h : item = .object members)
    (hkey : key = EditDraft.idKey ∨ key = EditDraft.oldKey) (hnone : item.member? key = none) :
    EditViolates item ⟨[], .required key, item⟩
  | noNewValue {members : Json.Members} (h : item = .object members)
    (hnew : item.member? EditDraft.newKey = none)
    (holder : item.member? EditDraft.olderNewKey = none) :
    EditViolates item ⟨[], .anyOf, item⟩

/-- What may be wrong with an object that should hold edits. -/
inductive BatchViolates (batch : Json) : Complaint → Prop where
  | notAnObject (h : ∀ members, batch ≠ .object members) :
    BatchViolates batch ⟨[], .kind .object, batch⟩
  | noEdits {members : Json.Members} (h : batch = .object members)
    (hnone : batch.member? editsKey = none) :
    BatchViolates batch ⟨[], .required editsKey, batch⟩
  | notAList {edits : Json} (hedits : batch.member? editsKey = some edits)
    (h : ∀ items, edits ≠ .array items) :
    BatchViolates batch ⟨[editsKey], .kind .array, edits⟩
  | emptyList (hedits : batch.member? editsKey = some (.array [])) :
    BatchViolates batch ⟨[editsKey], .minItems, .array []⟩
  | edit {items : List Json} {i : Nat} {item : Json} {c : Complaint}
    (hedits : batch.member? editsKey = some (.array items)) (hitem : items[i]? = some item)
    (h : EditViolates item c) :
    BatchViolates batch ((c.under (Text.ofNat i)).under editsKey)

/-! ## Going through an edit -/

/-- What is wrong with the value of a key that an edit has. -/
def valueComplaints (members : Json.Members) (key : Text) : List Complaint :=
  match members.find? key with
  | none => []
  | some (.string t) =>
    if key = EditDraft.idKey ∧ t = [] then [⟨[key], .minLength, .string t⟩] else []
  | some value => [⟨[key], .kind .string, value⟩]

/-- The keys that an edit needs and does not have. -/
def missingKeys (members : Json.Members) : List Text :=
  [EditDraft.idKey, EditDraft.oldKey].filter fun key => (members.find? key).isNone

/-- What is wrong with an edit that has no new value under any of its keys. -/
def newValueComplaints (members : Json.Members) : List Complaint :=
  if (members.find? EditDraft.newKey).isNone ∧ (members.find? EditDraft.olderNewKey).isNone then
    [⟨[], .anyOf, .object members⟩]
  else []

/-- What is wrong with an edit, in the order of the schema. -/
def editComplaints : Json → List Complaint
  | .object members =>
    editKeys.flatMap (valueComplaints members) ++
      ((missingKeys members).map fun key => ⟨[], .required key, .object members⟩) ++
        newValueComplaints members
  | item => [⟨[], .kind .object, item⟩]

theorem mem_valueComplaints_iff {members : Json.Members} {key : Text} {c : Complaint} :
    c ∈ valueComplaints members key ↔
      (∃ value, members.find? key = some value ∧ (∀ t, value ≠ .string t) ∧
        c = ⟨[key], .kind .string, value⟩) ∨
      key = EditDraft.idKey ∧ members.find? key = some (.string []) ∧
        c = ⟨[key], .minLength, .string []⟩ := by
  unfold valueComplaints
  split
  · next hnone => simp [hnone]
  · next t hfound =>
    simp only [hfound, Option.some.injEq, exists_eq_left', Json.string.injEq, ne_eq]
    split
    · next h =>
      obtain ⟨rfl, rfl⟩ := h
      simp
    · next h =>
      simp only [List.not_mem_nil, false_iff]
      rintro (⟨hstring, -⟩ | ⟨hkey, ht, -⟩)
      · exact hstring t rfl
      · exact h ⟨hkey, ht⟩
  · next value hstring hfound =>
    have hne : ∀ t, value ≠ .string t := fun t heq => hstring t heq
    simp [hfound, hne]

theorem mem_missingKeys_iff {members : Json.Members} {key : Text} :
    key ∈ missingKeys members ↔
      (key = EditDraft.idKey ∨ key = EditDraft.oldKey) ∧ members.find? key = none := by
  simp [missingKeys]

theorem mem_newValueComplaints_iff {members : Json.Members} {c : Complaint} :
    c ∈ newValueComplaints members ↔
      members.find? EditDraft.newKey = none ∧ members.find? EditDraft.olderNewKey = none ∧
        c = ⟨[], .anyOf, .object members⟩ := by
  rw [newValueComplaints]
  split
  · next h =>
    simp only [Option.isNone_iff_eq_none] at h
    simp [h.1, h.2]
  · next h =>
    simp only [List.not_mem_nil, false_iff]
    rintro ⟨hnew, holder, -⟩
    exact h (by simp [hnew, holder])

/-- Going through an edit finds all that may be wrong with it, and nothing else. -/
theorem mem_editComplaints_iff {item : Json} {c : Complaint} :
    c ∈ editComplaints item ↔ EditViolates item c := by
  constructor
  · intro hmem
    cases item with
    | object members =>
      rw [editComplaints, List.mem_append, List.mem_append, List.mem_flatMap, List.mem_map] at hmem
      rcases hmem with (⟨key, hkey, hvalue⟩ | ⟨key, hmissing, rfl⟩) | hneither
      · rcases mem_valueComplaints_iff.1 hvalue with ⟨value, hfound, hstring, rfl⟩ | ⟨rfl, hid, rfl⟩
        · exact .notAString hkey hfound hstring
        · exact .emptyId hid
      · obtain ⟨hkey, hnone⟩ := mem_missingKeys_iff.1 hmissing
        exact .missing rfl hkey hnone
      · obtain ⟨hnew, holder, rfl⟩ := mem_newValueComplaints_iff.1 hneither
        exact .noNewValue rfl hnew holder
    | null | bool | int | float | string | array =>
      obtain rfl := List.mem_singleton.1 hmem
      refine .notAnObject fun members heq => ?_
      cases heq
  · intro h
    cases h with
    | notAnObject h =>
      cases item with
      | object members => exact absurd rfl (h members)
      | null | bool | int | float | string | array => exact .head _
    | notAString hkey hvalue hstring =>
      cases item with
      | object members =>
        refine List.mem_append_left _ (List.mem_append_left _ (List.mem_flatMap.2 ⟨_, hkey, ?_⟩))
        exact mem_valueComplaints_iff.2 (.inl ⟨_, hvalue, hstring, rfl⟩)
      | null | bool | int | float | string | array => cases hvalue
    | emptyId hid =>
      cases item with
      | object members =>
        refine List.mem_append_left _ (List.mem_append_left _
          (List.mem_flatMap.2 ⟨EditDraft.idKey, .head _, ?_⟩))
        exact mem_valueComplaints_iff.2 (.inr ⟨rfl, hid, rfl⟩)
      | null | bool | int | float | string | array => cases hid
    | missing h hkey hnone =>
      subst h
      refine List.mem_append_left _ (List.mem_append_right _ (List.mem_map.2 ⟨_, ?_, rfl⟩))
      exact mem_missingKeys_iff.2 ⟨hkey, hnone⟩
    | noNewValue h hnew holder =>
      subst h
      exact List.mem_append_right _ (mem_newValueComplaints_iff.2 ⟨hnew, holder, rfl⟩)

/-- Complaints about one place come in the order of the keywords. -/
def InOrder (cs : List Complaint) : Prop :=
  cs.Pairwise fun c d => c.path = d.path → c.keyword.rank < d.keyword.rank

theorem path_of_mem_valueComplaints {members : Json.Members} {key : Text} {c : Complaint}
    (h : c ∈ valueComplaints members key) : c.path = [key] := by
  rcases mem_valueComplaints_iff.1 h with ⟨_, -, -, rfl⟩ | ⟨rfl, -, rfl⟩ <;> rfl

theorem inOrder_editComplaints (item : Json) : InOrder (editComplaints item) := by
  cases item with
  | object members =>
    have hvalues : InOrder (editKeys.flatMap (valueComplaints members)) := by
      rw [InOrder, List.pairwise_flatMap]
      refine ⟨fun key _ => ?_, ?_⟩
      · unfold valueComplaints
        split
        · exact .nil
        · split
          · exact List.pairwise_singleton _ _
          · exact .nil
        · exact List.pairwise_singleton _ _
      · have hkeys : editKeys.Nodup := by decide
        refine hkeys.imp fun {k k'} hne c hc d hd heq => ?_
        rw [path_of_mem_valueComplaints hc, path_of_mem_valueComplaints hd] at heq
        exact absurd (List.cons.inj heq).1 hne
    have hmissing : InOrder ((missingKeys members).map fun key =>
        ⟨[], .required key, .object members⟩) := by
      rw [InOrder, List.pairwise_map]
      have hranks : [EditDraft.idKey, EditDraft.oldKey].Pairwise fun k k' =>
          (Keyword.required k).rank < (Keyword.required k').rank := by decide
      refine List.Pairwise.imp ?_ (List.Pairwise.filter _ hranks)
      intro _ _ hlt _
      exact hlt
    have hneither : InOrder (newValueComplaints members) := by
      rw [newValueComplaints]
      split
      · exact List.pairwise_singleton _ _
      · exact .nil
    -- the values stand below the edit, so only what is missing shares a place with what comes last
    refine List.pairwise_append.2 ⟨List.pairwise_append.2 ⟨hvalues, hmissing, ?_⟩, hneither, ?_⟩
    · intro c hc d hd heq
      obtain ⟨key, -, hc⟩ := List.mem_flatMap.1 hc
      obtain ⟨_, -, rfl⟩ := List.mem_map.1 hd
      rw [path_of_mem_valueComplaints hc] at heq
      cases heq
    · intro c hc d hd heq
      obtain ⟨-, -, rfl⟩ := mem_newValueComplaints_iff.1 hd
      rcases List.mem_append.1 hc with hc | hc
      · obtain ⟨key, -, hc⟩ := List.mem_flatMap.1 hc
        rw [path_of_mem_valueComplaints hc] at heq
        cases heq
      · obtain ⟨key, -, rfl⟩ := List.mem_map.1 hc
        simp only [Keyword.rank]
        split <;> omega
  | null | bool | int | float | string | array => exact List.pairwise_singleton _ _

/-! ## Going through a batch -/

/-- What is wrong with the value that should be the list of edits. -/
def listComplaints : Json → List Complaint
  | .array items =>
    (if items = [] then [⟨[], .minItems, .array []⟩] else []) ++
      items.zipIdx.flatMap fun (item, i) => (editComplaints item).map (.under (Text.ofNat i))
  | value => [⟨[], .kind .array, value⟩]

/-- What is wrong with an object that should hold edits, in the order of the schema. -/
def batchComplaints : Json → List Complaint
  | .object members =>
    match Json.Members.find? members editsKey with
    | none => [⟨[], .required editsKey, .object members⟩]
    | some edits => (listComplaints edits).map (.under editsKey)
  | value => [⟨[], .kind .object, value⟩]

theorem mem_batchComplaints_of_violates {batch : Json} {c : Complaint}
    (h : BatchViolates batch c) : c ∈ batchComplaints batch := by
  have hlist {edits : Json} {d : Complaint} (hedits : batch.member? editsKey = some edits)
      (hd : d ∈ listComplaints edits) : d.under editsKey ∈ batchComplaints batch := by
    cases batch with
    | object members =>
      have hfound : Json.Members.find? members editsKey = some edits := hedits
      rw [batchComplaints, hfound]
      exact List.mem_map_of_mem hd
    | null | bool | int | float | string | array => cases hedits
  cases h with
  | notAnObject h =>
    cases batch with
    | object members => exact absurd rfl (h members)
    | null | bool | int | float | string | array => exact .head _
  | noEdits h hnone =>
    subst h
    have hfound : Json.Members.find? _ editsKey = none := hnone
    rw [batchComplaints, hfound]
    exact .head _
  | @notAList edits hedits h =>
    refine hlist (d := ⟨[], .kind .array, edits⟩) hedits ?_
    cases edits with
    | array items => exact absurd rfl (h items)
    | null | bool | int | float | string | object => exact .head _
  | emptyList hedits => exact hlist (d := ⟨[], .minItems, .array []⟩) hedits (.head _)
  | @edit items i item d hedits hitem h =>
    refine hlist hedits (List.mem_append_right _ (List.mem_flatMap.2 ⟨(item, i), ?_, ?_⟩))
    · exact List.mk_mem_zipIdx_iff_getElem?.2 hitem
    · exact List.mem_map_of_mem (mem_editComplaints_iff.2 h)

theorem violates_of_mem_batchComplaints {batch : Json} {c : Complaint}
    (h : c ∈ batchComplaints batch) : BatchViolates batch c := by
  cases batch with
  | null | bool | int | float | string | array =>
    obtain rfl := List.mem_singleton.1 h
    refine .notAnObject fun members heq => ?_
    cases heq
  | object members =>
    rw [batchComplaints] at h
    split at h
    · next hnone =>
      obtain rfl := List.mem_singleton.1 h
      exact .noEdits rfl hnone
    · next edits hedits =>
      obtain ⟨d, hd, rfl⟩ := List.mem_map.1 h
      cases edits with
      | null | bool | int | float | string | object =>
        obtain rfl := List.mem_singleton.1 hd
        refine .notAList hedits fun items heq => ?_
        cases heq
      | array items =>
        rw [listComplaints, List.mem_append, List.mem_flatMap] at hd
        rcases hd with hd | ⟨⟨item, i⟩, hitem, hd⟩
        · split at hd
          · next hnil =>
            obtain rfl := List.mem_singleton.1 hd
            subst hnil
            exact .emptyList hedits
          · cases hd
        · obtain ⟨e, he, rfl⟩ := List.mem_map.1 hd
          exact .edit hedits (List.mk_mem_zipIdx_iff_getElem?.1 hitem)
            (mem_editComplaints_iff.1 he)

/-- Going through a batch finds all that may be wrong with it, and nothing else. -/
theorem mem_batchComplaints_iff {batch : Json} {c : Complaint} :
    c ∈ batchComplaints batch ↔ BatchViolates batch c :=
  ⟨violates_of_mem_batchComplaints, mem_batchComplaints_of_violates⟩

theorem InOrder.map_under {cs : List Complaint} (h : InOrder cs) (step : Text) :
    InOrder (cs.map (.under step)) := by
  rw [InOrder, List.pairwise_map]
  exact h.imp fun hlt heq => hlt (List.cons.inj heq).2

theorem inOrder_listComplaints (edits : Json) : InOrder (listComplaints edits) := by
  cases edits with
  | null | bool | int | float | string | object => exact List.pairwise_singleton _ _
  | array items =>
    have hitems : InOrder (items.zipIdx.flatMap fun x =>
        (editComplaints x.1).map (.under (Text.ofNat x.2))) := by
      rw [InOrder, List.pairwise_flatMap]
      refine ⟨fun x _ => (inOrder_editComplaints x.1).map_under _, ?_⟩
      -- complaints about two items differ in the first step of their paths
      refine (pairwise_snd_zipIdx items).imp fun {x y} hlt c hc d hd heq => ?_
      obtain ⟨c, -, rfl⟩ := List.mem_map.1 hc
      obtain ⟨d, -, rfl⟩ := List.mem_map.1 hd
      exact absurd (Text.ofNat_inj (List.cons.inj heq).1) (Nat.ne_of_lt hlt)
    rw [listComplaints]
    split
    · next hnil =>
      subst hnil
      exact List.pairwise_singleton _ _
    · exact hitems

theorem inOrder_batchComplaints (batch : Json) : InOrder (batchComplaints batch) := by
  cases batch with
  | null | bool | int | float | string | array => exact List.pairwise_singleton _ _
  | object members =>
    rw [batchComplaints]
    split
    · exact List.pairwise_singleton _ _
    · exact (inOrder_listComplaints _).map_under _

/-! ## The schemas -/

/-- What the schema asks of the value of a key of an edit. -/
def keyRules (key : Text) : Schema :=
  if key = EditDraft.idKey then [.kind .string, .minLength 1] else [.kind .string]

theorem rulesViolations_keyRules {members : Json.Members} {key : Text} {value : Json}
    (h : members.find? key = some value) :
    (Schema.rulesViolations (keyRules key) value).map (.under key) =
      (valueComplaints members key).map Complaint.violation := by
  rw [valueComplaints, h, keyRules]
  cases value with
  | string t =>
    cases t <;> split <;> simp_all [Schema.rulesViolations, Schema.ruleViolations,
      Schema.flatViolations, JsonKind.holds, Schema.here, Schema.shortMessage, Violation.under,
      Complaint.violation, Keyword.message]
  | null | bool | int | float | array | object =>
    split <;> rfl

theorem membersViolations_map_keyRules (members : Json.Members) (keys : List Text) :
    Schema.membersViolations (keys.map fun key => (key, keyRules key)) members =
      (keys.flatMap (valueComplaints members)).map Complaint.violation := by
  induction keys with
  | nil => rfl
  | cons key keys ih =>
    rw [List.map_cons, Schema.membersViolations, ih, List.flatMap_cons, List.map_append]
    congr 1
    split
    · next hnone => rw [valueComplaints, hnone]; rfl
    · next hfound => exact rulesViolations_keyRules hfound

theorem ruleViolations_required (members : Json.Members) (keys : List Text) :
    Schema.ruleViolations (.required keys) (.object members) =
      ((keys.filter fun key => (members.find? key).isNone).map fun key =>
        (⟨[], .required key, .object members⟩ : Complaint)).map Complaint.violation := by
  rw [List.map_map, List.map_eq_flatMap]
  rfl

/-- Of the two keys of the new value one is enough. -/
theorem ruleViolations_anyOf_newValue (members : Json.Members) :
    Schema.ruleViolations
        (.anyOf [[.required [EditDraft.newKey]], [.required [EditDraft.olderNewKey]]])
        (.object members) =
      (newValueComplaints members).map Complaint.violation := by
  have hkept (key : Text) : (Schema.rulesViolations [.required [key]] (.object members)).isEmpty =
      (members.find? key).isSome := by
    rw [Schema.rulesViolations, Schema.rulesViolations, ruleViolations_required, List.append_nil,
      List.isEmpty_map, List.isEmpty_map]
    cases h : members.find? key <;> simp [h]
  rw [Schema.ruleViolations, Schema.someKept, Schema.someKept, Schema.someKept, hkept, hkept,
    newValueComplaints]
  cases members.find? EditDraft.newKey <;> cases members.find? EditDraft.olderNewKey <;> rfl

/-- The schema of edits finds what is wrong with an edit, in this order. -/
theorem rulesViolations_editSchema (item : Json) :
    Schema.rulesViolations editSchema item = (editComplaints item).map Complaint.violation := by
  cases item with
  | null | bool | int | float | string | array => rfl
  | object members =>
    have hkeys : editSchema = [.kind .object,
        .members (editKeys.map fun key => (key, keyRules key)),
        .required [EditDraft.idKey, EditDraft.oldKey],
        .anyOf [[.required [EditDraft.newKey]], [.required [EditDraft.olderNewKey]]]] := rfl
    calc Schema.rulesViolations editSchema (.object members)
      _ = [] ++ (Schema.membersViolations (editKeys.map fun key => (key, keyRules key)) members ++
            (Schema.ruleViolations (.required [EditDraft.idKey, EditDraft.oldKey])
              (.object members) ++
            (Schema.ruleViolations
              (.anyOf [[.required [EditDraft.newKey]], [.required [EditDraft.olderNewKey]]])
              (.object members) ++ []))) := by rw [hkeys]; rfl
      _ = (editComplaints (.object members)).map Complaint.violation := by
        rw [membersViolations_map_keyRules, ruleViolations_required,
          ruleViolations_anyOf_newValue, editComplaints, List.map_append, List.map_append,
          List.append_nil, List.nil_append, List.append_assoc]
        rfl

theorem rulesViolations_listRules (edits : Json) :
    Schema.rulesViolations [.kind .array, .minItems 1, .items editSchema] edits =
      (listComplaints edits).map Complaint.violation := by
  cases edits with
  | null | bool | int | float | string | object => rfl
  | array items =>
    have hitems : Schema.ruleViolations (.items editSchema) (.array items) =
        (items.zipIdx.flatMap fun (item, i) =>
          (editComplaints item).map (.under (Text.ofNat i))).map Complaint.violation := by
      rw [Schema.ruleViolations, List.map_flatMap]
      refine List.flatMap_congr fun (item, i) _ => ?_
      simp only [rulesViolations_editSchema, List.map_map]
      rfl
    have hcount : Schema.ruleViolations (.minItems 1) (.array items) =
        (if items = [] then [(⟨[], .minItems, .array []⟩ : Complaint)] else []).map
          Complaint.violation := by
      cases items <;> rfl
    rw [Schema.rulesViolations, Schema.rulesViolations, hcount, Schema.rulesViolations, hitems,
      Schema.rulesViolations, List.append_nil, listComplaints, List.map_append]
    rfl

/-- The schema of batches finds what is wrong with a batch, in this order. -/
theorem violations_batchSchema (batch : Json) :
    batchSchema.violations batch = (batchComplaints batch).map Complaint.violation := by
  cases batch with
  | null | bool | int | float | string | array => rfl
  | object members =>
    have hmembers : Schema.membersViolations
          [(editsKey, [.kind .array, .minItems 1, .items editSchema])] members =
        match Json.Members.find? members editsKey with
        | none => []
        | some edits => ((listComplaints edits).map (.under editsKey)).map Complaint.violation := by
      rw [Schema.membersViolations, Schema.membersViolations, List.append_nil]
      cases Json.Members.find? members editsKey with
      | none => rfl
      | some edits =>
        simp only [rulesViolations_listRules, List.map_map]
        rfl
    calc batchSchema.violations (.object members)
      _ = [] ++ (Schema.membersViolations
            [(editsKey, [.kind .array, .minItems 1, .items editSchema])] members ++
            (Schema.ruleViolations (.required [editsKey]) (.object members) ++ [])) := rfl
      _ = (batchComplaints (.object members)).map Complaint.violation := by
        rw [hmembers, ruleViolations_required, batchComplaints]
        cases h : Json.Members.find? members editsKey <;> simp [h]

/-! ## Reporting -/

/-- The complaints of a batch in the order in which they are reported. -/
def sortedComplaints (batch : Json) : List Complaint :=
  (batchComplaints batch).mergeSort fun c d => c.violation.atMost d.violation

theorem mem_sortedComplaints_iff {batch : Json} {c : Complaint} :
    c ∈ sortedComplaints batch ↔ BatchViolates batch c := by
  rw [sortedComplaints, List.mem_mergeSort, mem_batchComplaints_iff]

theorem sortedComplaints_pairwise (batch : Json) :
    (sortedComplaints batch).Pairwise Complaint.Precedes := by
  have htrans (c d e : Complaint) (hcd : c.violation.atMost d.violation = true)
      (hde : d.violation.atMost e.violation = true) : c.violation.atMost e.violation = true := by
    simp only [Violation.atMost, Bool.not_eq_true', decide_eq_false_iff_not] at *
    exact not_lt_trans hcd hde
  have htotal (c d : Complaint) :
      (c.violation.atMost d.violation || d.violation.atMost c.violation) = true := by
    simp only [Violation.atMost, Bool.or_eq_true, Bool.not_eq_true', decide_eq_false_iff_not]
    exact List.le_total _ _
  refine (mergeSort_pairwise_stable htrans htotal (inOrder_batchComplaints batch)).imp ?_
  rintro c d ⟨hle, hrank⟩
  simp only [Violation.atMost, Bool.not_eq_true', decide_eq_false_iff_not] at hle hrank
  by_cases hlt : c.path < d.path
  · exact .inl hlt
  · have heq : c.path = d.path := List.le_antisymm hle hlt
    exact .inr ⟨heq, hrank hlt heq⟩

/-- The path of what is wrong is empty, or it starts with the key of the edits. -/
theorem violationLine_violation {batch : Json} {c : Complaint} (h : BatchViolates batch c) :
    violationLine c.violation = c.line := by
  have hline (d : Complaint) :
      violationLine (d.under editsKey).violation = (d.under editsKey).line := by
    have hlocation : (d.under editsKey).violation.location ≠ [] := by
      show (List.intersperse (text ".") (editsKey :: d.path)).flatten ≠ []
      cases d.path <;> exact List.append_ne_nil_of_left_ne_nil (by decide) _
    rw [violationLine, if_neg (by simpa using hlocation)]
    exact (if_neg (List.cons_ne_nil _ _)).symm
  cases h with
  | notAnObject | noEdits => rfl
  | @notAList edits => exact hline ⟨[], .kind .array, edits⟩
  | emptyList => exact hline ⟨[], .minItems, .array []⟩
  | edit => exact hline _

theorem batchViolations_eq (batch : Json) :
    batchViolations batch = (sortedComplaints batch).map Complaint.line := by
  have hsort : ((batchComplaints batch).map Complaint.violation).mergeSort Violation.atMost =
      (sortedComplaints batch).map Complaint.violation :=
    (List.map_mergeSort (f := Complaint.violation) (s := Violation.atMost)
      fun _ _ _ _ => rfl).symm
  rw [batchViolations, violations_batchSchema, hsort, List.map_map]
  refine List.map_congr_left fun c hc => ?_
  exact violationLine_violation (mem_sortedComplaints_iff.1 hc)

theorem batchViolations_eq_nil_iff {batch : Json} :
    batchViolations batch = [] ↔ batchComplaints batch = [] := by
  rw [batchViolations_eq, List.map_eq_nil_iff]
  simp only [List.eq_nil_iff_forall_not_mem, mem_sortedComplaints_iff, mem_batchComplaints_iff]

/-! ## Taking a batch -/

/-- An object says an edit: what it is of, what was there and what is to be there. Older editors
call this just the value. -/
structure EditSaid (item : Json) (e : Edit) : Prop where
  id : item.member? EditDraft.idKey = some (.string e.id)
  id_ne_nil : e.id ≠ []
  oldValue : item.member? EditDraft.oldKey = some (.string e.oldValue)
  newValue : item.member? EditDraft.newKey = some (.string e.newValue) ∨
    item.member? EditDraft.newKey = none ∧
      item.member? EditDraft.olderNewKey = some (.string e.newValue)
  olderNewValue : ∀ value, item.member? EditDraft.olderNewKey = some value → ∃ t, value = .string t

theorem editComplaints_eq_nil_of_said {item : Json} {e : Edit} (h : EditSaid item e) :
    editComplaints item = [] := by
  rw [List.eq_nil_iff_forall_not_mem]
  intro c hc
  cases mem_editComplaints_iff.1 hc with
  | notAnObject hkind =>
    cases item with
    | object members => exact hkind members rfl
    | null | bool | int | float | string | array => cases h.id
  | @notAString key value hkey hvalue hstring =>
    simp only [editKeys, List.mem_cons, List.not_mem_nil, or_false] at hkey
    rcases hkey with rfl | rfl | rfl | rfl
    · exact hstring e.id (Option.some.inj (hvalue.symm.trans h.id))
    · exact hstring e.oldValue (Option.some.inj (hvalue.symm.trans h.oldValue))
    · rcases h.newValue with hnew | ⟨hnone, -⟩
      · exact hstring e.newValue (Option.some.inj (hvalue.symm.trans hnew))
      · cases hvalue.symm.trans hnone
    · obtain ⟨t, rfl⟩ := h.olderNewValue _ hvalue
      exact hstring t rfl
  | emptyId hid => exact h.id_ne_nil (Json.string.inj (Option.some.inj (h.id.symm.trans hid)))
  | missing _ hkey hnone =>
    rcases hkey with rfl | rfl
    · cases hnone.symm.trans h.id
    · cases hnone.symm.trans h.oldValue
  | noNewValue _ hnew holder =>
    rcases h.newValue with hsome | ⟨-, hsome⟩
    · cases hnew.symm.trans hsome
    · cases holder.symm.trans hsome

/-- An object with which nothing is wrong says the edit that its draft is. -/
theorem exists_draft_of_editComplaints {item : Json} (h : editComplaints item = []) :
    ∃ d, EditDraft.ofJson item = .ok d ∧ EditSaid item d.toEdit := by
  have hgood (c : Complaint) : ¬ EditViolates item c := fun hc =>
    absurd (mem_editComplaints_iff.2 hc) (by simp [h])
  cases item with
  | null | bool | int | float | string | array => exact absurd (.notAnObject nofun) (hgood _)
  | object members =>
    have hstring {key : Text} (hkey : key ∈ editKeys) {value : Json}
        (hvalue : Json.Members.find? members key = some value) : ∃ t, value = .string t := by
      by_contra hne
      exact hgood _ (.notAString hkey hvalue fun t ht => hne ⟨t, ht⟩)
    have hthere {key : Text} (hkey : key = EditDraft.idKey ∨ key = EditDraft.oldKey) :
        ∃ t, Json.Members.find? members key = some (.string t) := by
      cases hvalue : Json.Members.find? members key with
      | none => exact absurd (.missing rfl hkey hvalue) (hgood _)
      | some value =>
        have hmem : key ∈ editKeys := by rcases hkey with rfl | rfl <;> decide
        obtain ⟨t, rfl⟩ := hstring hmem hvalue
        exact ⟨t, rfl⟩
    obtain ⟨id, hid⟩ := hthere (.inl rfl)
    obtain ⟨oldValue, hold⟩ := hthere (.inr rfl)
    have hne : id ≠ [] := by
      rintro rfl
      exact hgood _ (.emptyId hid)
    have holder (value : Json)
        (hvalue : Json.Members.find? members EditDraft.olderNewKey = some value) :
        ∃ t, value = .string t := hstring (by decide) hvalue
    cases hnew : Json.Members.find? members EditDraft.newKey with
    | some value =>
      obtain ⟨newValue, rfl⟩ := hstring (by decide) hnew
      refine ⟨⟨id, .string oldValue, .string newValue⟩, ?_, hid, hne, hold, .inl hnew, holder⟩
      simp only [EditDraft.ofJson, EditDraft.need, hnew, hid, hold]
      rfl
    | none =>
      cases hvalue : Json.Members.find? members EditDraft.olderNewKey with
      | none => exact absurd (.noNewValue rfl hnew hvalue) (hgood _)
      | some value =>
        obtain ⟨newValue, rfl⟩ := holder value hvalue
        refine ⟨⟨id, .string oldValue, .string newValue⟩, ?_, hid, hne, hold,
          .inr ⟨hnew, hvalue⟩, holder⟩
        simp only [EditDraft.ofJson, EditDraft.need, hnew, hvalue, hid, hold]
        rfl

/-- What an object says is one edit. -/
theorem EditSaid.rightUnique : Relator.RightUnique EditSaid := by
  rintro item ⟨id, oldValue, newValue⟩ ⟨id', oldValue', newValue'⟩ h h'
  have hid : id = id' := Json.string.inj (Option.some.inj (h.id.symm.trans h'.id))
  have hold : oldValue = oldValue' :=
    Json.string.inj (Option.some.inj (h.oldValue.symm.trans h'.oldValue))
  have hnew : newValue = newValue' := by
    rcases h.newValue with hnew | ⟨hnone, hvalue⟩ <;>
      rcases h'.newValue with hnew' | ⟨hnone', hvalue'⟩
    · exact Json.string.inj (Option.some.inj (hnew.symm.trans hnew'))
    · cases hnew.symm.trans hnone'
    · cases hnone.symm.trans hnew'
    · exact Json.string.inj (Option.some.inj (hvalue.symm.trans hvalue'))
  rw [hid, hold, hnew]

/-- Objects with which nothing is wrong say the edits that their drafts are. -/
theorem exists_drafts_of_editComplaints {items : List Json}
    (h : ∀ item ∈ items, editComplaints item = []) :
    ∃ drafts, items.mapM EditDraft.ofJson = .ok drafts ∧
      List.Forall₂ EditSaid items (drafts.map EditDraft.toEdit) := by
  induction items with
  | nil => exact ⟨[], rfl, .nil⟩
  | cons item items ih =>
    obtain ⟨d, hd, hsaid⟩ := exists_draft_of_editComplaints (h item (.head _))
    obtain ⟨drafts, hdrafts, hrest⟩ := ih fun other hother => h other (.tail _ hother)
    refine ⟨d :: drafts, ?_, .cons hsaid hrest⟩
    rw [List.mapM_cons, hd, hdrafts]
    rfl

theorem batchComplaints_eq_nil_iff {batch : Json} :
    batchComplaints batch = [] ↔ ∃ items, batch.member? editsKey = some (.array items) ∧
      items ≠ [] ∧ ∀ item ∈ items, editComplaints item = [] := by
  have hmem : batchComplaints batch = [] ↔ ∀ c, ¬ BatchViolates batch c := by
    simp only [List.eq_nil_iff_forall_not_mem, mem_batchComplaints_iff]
  rw [hmem]
  constructor
  · intro hgood
    cases batch with
    | null | bool | int | float | string | array => exact absurd (.notAnObject nofun) (hgood _)
    | object members =>
      cases hedits : Json.Members.find? members editsKey with
      | none => exact absurd (.noEdits rfl hedits) (hgood _)
      | some edits =>
        cases edits with
        | null | bool | int | float | string | object =>
          exact absurd (.notAList hedits nofun) (hgood _)
        | array items =>
          refine ⟨items, hedits, ?_, fun item hitem => ?_⟩
          · rintro rfl
            exact hgood _ (.emptyList hedits)
          · obtain ⟨i, hi⟩ := List.mem_iff_getElem?.1 hitem
            rw [List.eq_nil_iff_forall_not_mem]
            intro c hc
            exact hgood _ (.edit hedits hi (mem_editComplaints_iff.1 hc))
  · rintro ⟨items, hedits, hne, hitems⟩ c hc
    cases hc with
    | notAnObject h =>
      cases batch with
      | object members => exact h members rfl
      | null | bool | int | float | string | array => cases hedits
    | noEdits _ hnone => cases hnone.symm.trans hedits
    | notAList hother h => exact h items (Option.some.inj (hother.symm.trans hedits))
    | emptyList hempty =>
      exact hne (Json.array.inj (Option.some.inj (hedits.symm.trans hempty)))
    | edit hother hitem h =>
      obtain rfl := Json.array.inj (Option.some.inj (hother.symm.trans hedits))
      have hmem := mem_editComplaints_iff.2 h
      rw [hitems _ (List.mem_of_getElem? hitem)] at hmem
      cases hmem

/-- The list of edits of a batch is the batch itself or a member of it. -/
theorem member?_wrapBatch {value : Json} {items : List Json} :
    (wrapBatch value).member? editsKey = some (.array items) ↔
      value = .array items ∨ value.member? editsKey = some (.array items) := by
  cases value with
  | array edits =>
    have hfound : (wrapBatch (.array edits)).member? editsKey = some (.array edits) := rfl
    rw [hfound, Option.some.injEq]
    exact ⟨.inl, fun h => h.resolve_right nofun⟩
  | null | bool | int | float | string | object =>
    exact ⟨.inr, fun h => h.resolve_left nofun⟩

/-- A batch with which nothing is wrong is taken. -/
theorem exists_edits_of_batchComplaints {value : Json}
    (h : batchComplaints (wrapBatch value) = []) :
    ∃ items edits, parseBatch value = .ok edits ∧
      (value = .array items ∨ value.member? editsKey = some (.array items)) ∧ items ≠ [] ∧
        List.Forall₂ EditSaid items edits := by
  obtain ⟨items, hedits, hne, hitems⟩ := batchComplaints_eq_nil_iff.1 h
  obtain ⟨drafts, hdrafts, hsaid⟩ := exists_drafts_of_editComplaints hitems
  refine ⟨items, drafts.map EditDraft.toEdit, ?_, member?_wrapBatch.1 hedits, hne, hsaid⟩
  have hnil : batchViolations (wrapBatch value) = [] := batchViolations_eq_nil_iff.2 h
  have hlist : batchItems (wrapBatch value) = items := by rw [batchItems, hedits]
  simp only [parseBatch, hnil, hlist, hdrafts]
  rfl

theorem parseBatch_of_batchComplaints {value : Json} (h : batchComplaints (wrapBatch value) ≠ []) :
    parseBatch value =
      .error (.violations ((sortedComplaints (wrapBatch value)).map Complaint.line)) := by
  have hne : batchViolations (wrapBatch value) ≠ [] := fun hnil =>
    h (batchViolations_eq_nil_iff.1 hnil)
  rw [← batchViolations_eq]
  simp only [parseBatch]

theorem parseBatch_eq_ok_iff {value : Json} {edits : List Edit} :
    parseBatch value = .ok edits ↔ ∃ items,
      (value = .array items ∨ value.member? editsKey = some (.array items)) ∧ items ≠ [] ∧
        List.Forall₂ EditSaid items edits := by
  constructor
  · intro hok
    by_cases h : batchComplaints (wrapBatch value) = []
    · obtain ⟨items, edits', hok', hrest⟩ := exists_edits_of_batchComplaints h
      obtain rfl : edits = edits' := Except.ok.inj (hok.symm.trans hok')
      exact ⟨items, hrest⟩
    · cases hok.symm.trans (parseBatch_of_batchComplaints h)
  · rintro ⟨items, hitems, hne, hsaid⟩
    have hgood : batchComplaints (wrapBatch value) = [] := by
      have hboth : List.Forall₂ (fun item e => editComplaints item = [] ∧ EditSaid item e)
          items edits := hsaid.imp fun _ _ he => ⟨editComplaints_eq_nil_of_said he, he⟩
      exact batchComplaints_eq_nil_iff.2
        ⟨items, member?_wrapBatch.2 hitems, hne, (List.forall₂_and_left _ _ |>.1 hboth).1⟩
    obtain ⟨items', edits', hok', hitems', -, hsaid'⟩ := exists_edits_of_batchComplaints hgood
    have hsame : items = items' := Json.array.inj (Option.some.inj
      ((member?_wrapBatch.2 hitems).symm.trans (member?_wrapBatch.2 hitems')))
    subst hsame
    rw [hok', EditSaid.rightUnique.forall₂ hsaid hsaid']

/-- A batch is taken just if it is a list of objects that say edits, or an object with such a list,
and not empty; then its edits are what the objects say, one after the other. Otherwise everything is
reported that is wrong with it and nothing else: each keyword once at each place, but the one for
what is required once for each key that is missing. The reports are ordered by the parts of the
places, those of one place by the keywords, and each starts with its place, unless that is the batch
as a whole. -/
theorem parseBatch_reports_each (value : Json) :
    (∀ edits, parseBatch value = .ok edits ↔ ∃ items,
      (value = .array items ∨ value.member? editsKey = some (.array items)) ∧ items ≠ [] ∧
        List.Forall₂ EditSaid items edits) ∧
    ((∀ edits, parseBatch value ≠ .ok edits) → ∃ cs : List Complaint, cs ≠ [] ∧
      parseBatch value = .error (.violations (cs.map Complaint.line)) ∧
      (∀ c, c ∈ cs ↔ BatchViolates (wrapBatch value) c) ∧
      (cs.map fun c => (c.path, c.keyword)).Nodup ∧ cs.Pairwise Complaint.Precedes) := by
  refine ⟨fun edits => parseBatch_eq_ok_iff, fun hrefused => ?_⟩
  have hbad : batchComplaints (wrapBatch value) ≠ [] := by
    intro hgood
    obtain ⟨-, edits, hok, -⟩ := exists_edits_of_batchComplaints hgood
    exact hrefused edits hok
  have hsorted := sortedComplaints_pairwise (wrapBatch value)
  refine ⟨sortedComplaints (wrapBatch value), ?_, parseBatch_of_batchComplaints hbad,
    fun c => mem_sortedComplaints_iff, ?_, hsorted⟩
  · rwa [ne_eq, sortedComplaints, ← List.length_eq_zero_iff, List.length_mergeSort,
      List.length_eq_zero_iff]
  · rw [List.Nodup, List.pairwise_map]
    refine hsorted.imp fun {c d} hprecedes heq => ?_
    obtain ⟨hpath, hkeyword⟩ := Prod.mk.inj heq
    rcases hprecedes with hlt | ⟨-, hlt⟩
    · rw [hpath] at hlt
      exact List.lt_irrefl _ hlt
    · rw [hkeyword] at hlt
      exact Nat.lt_irrefl _ hlt

/-- Two things are wrong with the first of these edits, one with the second. -/
theorem parseBatch_reports_each_of_two_edits :
    let first : Json := .object [(EditDraft.idKey, .string []), (EditDraft.oldKey, .string []),
      (EditDraft.newKey, .null)]
    let value : Json := .array [first, .null]
    (∀ edits, parseBatch value ≠ .ok edits) ∧ ∃ cs : List Complaint,
      parseBatch value = .error (.violations (cs.map Complaint.line)) ∧
      ⟨[editsKey, text "0", EditDraft.idKey], .minLength, .string []⟩ ∈ cs ∧
      ⟨[editsKey, text "0", EditDraft.newKey], .kind .string, .null⟩ ∈ cs ∧
      ⟨[editsKey, text "1"], .kind .object, .null⟩ ∈ cs ∧ cs.Pairwise Complaint.Precedes := by
  intro first value
  have hedits : (wrapBatch value).member? editsKey = some (.array [first, .null]) := rfl
  have hid : EditViolates first ⟨[EditDraft.idKey], .minLength, .string []⟩ := .emptyId rfl
  have hnew : EditViolates first ⟨[EditDraft.newKey], .kind .string, .null⟩ :=
    .notAString (by decide) rfl nofun
  have hkind : EditViolates .null ⟨[], .kind .object, .null⟩ := .notAnObject nofun
  have hrefused (edits : List Edit) : parseBatch value ≠ .ok edits := by
    intro hok
    obtain ⟨items, hitems, -, hsaid⟩ := ((parseBatch_reports_each value).1 edits).1 hok
    have hsame : [first, .null] = items := Json.array.inj (hitems.resolve_right nofun)
    subst hsame
    cases hsaid with
    | cons h _ => exact h.id_ne_nil (Json.string.inj (Option.some.inj h.id)).symm
  obtain ⟨cs, -, herror, hmem, -, hsorted⟩ := (parseBatch_reports_each value).2 hrefused
  exact ⟨hrefused, cs, herror, (hmem _).2 (.edit hedits (i := 0) rfl hid),
    (hmem _).2 (.edit hedits (i := 0) rfl hnew), (hmem _).2 (.edit hedits (i := 1) rfl hkind),
    hsorted⟩

/-- The keyword for what is required is violated at one place twice by an edit without an identifier
and without an old value, and reported twice. -/
theorem not_forall_keyword_reported_once :
    ¬ ∀ (value : Json) (list : List Text), parseBatch value = .error (.violations list) →
      ∃ places : List (List Text × String), places.Nodup ∧
        (∀ p, p ∈ places ↔ ∃ c, BatchViolates (wrapBatch value) c ∧
          (c.path, c.keyword.name) = p) ∧
        list.length = places.length := by
  intro h
  let value : Json := .array [.object []]
  have hfound : batchComplaints (wrapBatch value) =
      [⟨[editsKey, text "0"], .required EditDraft.idKey, .object []⟩,
        ⟨[editsKey, text "0"], .required EditDraft.oldKey, .object []⟩,
        ⟨[editsKey, text "0"], .anyOf, .object []⟩] := rfl
  have hbad : batchComplaints (wrapBatch value) ≠ [] := by
    rw [hfound]
    exact List.cons_ne_nil _ _
  obtain ⟨places, hnodup, hplaces, hlength⟩ := h value _ (parseBatch_of_batchComplaints hbad)
  rw [List.length_map, sortedComplaints, List.length_mergeSort, hfound] at hlength
  -- of the three things that are wrong two are of one keyword
  have hsub : places ⊆ [([editsKey, text "0"], "required"), ([editsKey, text "0"], "anyOf")] := by
    intro p hp
    obtain ⟨c, hc, rfl⟩ := (hplaces p).1 hp
    rw [← mem_batchComplaints_iff, hfound] at hc
    simp only [List.mem_cons, List.not_mem_nil, or_false] at hc
    rcases hc with rfl | rfl | rfl <;> simp [Keyword.name]
  have htwo : places.length ≤ 2 := (hnodup.subperm hsub).length_le
  rw [← hlength] at htwo
  exact absurd htwo (by decide)

end VisibleText
