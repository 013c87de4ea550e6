import VisibleText.Proofs.Splice

/-!
# What a batch of edits does to a page

When a batch is carried out, one range of the page is replaced for every edit that was
applied (`carriedOut`). The ranges do not touch each other's bytes, each holds exactly the old
value of its edit, and everything outside them stays (`splices_of_applyEdits`).

Which bytes these are depends on the field that the edit names, but the length of the field is
never looked at, and neither is what the bytes near it belong to. So a range lies inside its
field only as long as the old value is no longer than the field and stands where the field
does (`belongsTo_of_applyEdits`, `not_forall_inside`).
-/

set_option autoImplicit false

namespace VisibleText

/-- Sorting keeps the order of what it might put in either order. -/
theorem mergeSort_pairwise_stable {α : Type} {le : α → α → Bool} {R : α → α → Prop}
    (trans : ∀ a b c, le a b = true → le b c = true → le a c = true)
    (total : ∀ a b, (le a b || le b a) = true) {l : List α} (h : l.Pairwise R) :
    (l.mergeSort le).Pairwise fun a b => le a b = true ∧ (le b a = true → R a b) := by
  refine (List.pairwise_mergeSort trans total l).and ?_
  induction l with
  | nil =>
    rw [List.mergeSort_nil]
    exact .nil
  | cons a l ih =>
    obtain ⟨ha, hl⟩ := List.pairwise_cons.1 h
    obtain ⟨before, behind, heq, hrest, hbefore⟩ := List.mergeSort_cons trans total a l
    have ih := ih hl
    rw [hrest, List.pairwise_append] at ih
    obtain ⟨hfront, hback, hacross⟩ := ih
    -- what is put behind the first one comes behind it in the list
    have hafter : ∀ b ∈ behind, R a b := fun b hb =>
      ha b ((List.mergeSort_perm l le).mem_iff.1 (hrest ▸ List.mem_append_right before hb))
    rw [heq, List.pairwise_append, List.pairwise_cons]
    refine ⟨hfront, ⟨fun b hb _ => hafter b hb, hback⟩, fun b hb c hc => ?_⟩
    rcases List.mem_cons.1 hc with rfl | hc
    · intro hle
      have hnot := hbefore b hb
      rw [hle] at hnot
      cases hnot
    · exact hacross b hb c hc

/-- The replacements that a batch comes to, from the first one in the page to the last. -/
def carriedOut (b : Bytes) (reach : Nat) (fields : List Field) (batch : List Edit) :
    List Replacement :=
  (keepApart none (fromTheEnd (resolved (resolveAll b reach fields batch)))).1.reverse

section CarriedOut

variable {b : Bytes} {reach : Nat} {fields : List Field} {batch : List Edit}

theorem carriedOut_pairwise (b : Bytes) (reach : Nat) (fields : List Field)
    (batch : List Edit) : (carriedOut b reach fields batch).Pairwise Replacement.Before :=
  List.pairwise_reverse.2 (keepApart_pairwise none _)

theorem fromTheEnd_perm (rs : List Replacement) : (fromTheEnd rs).Perm rs :=
  List.mergeSort_perm rs _

theorem fromTheEnd_pairwise_start (rs : List Replacement) :
    (fromTheEnd rs).Pairwise fun r s => s.range.start ≤ r.range.start := by
  have hle : (fromTheEnd rs).Pairwise fun r s => decide (s.range.start ≤ r.range.start) = true :=
    List.pairwise_mergeSort (by simp only [decide_eq_true_eq]; omega)
      (by simp only [Bool.or_eq_true, decide_eq_true_eq]; omega) rs
  exact hle.imp of_decide_eq_true

theorem resolves_of_mem_carriedOut {r : Replacement} (h : r ∈ carriedOut b reach fields batch) :
    r.Resolves b reach fields batch := by
  have hkept := (keepApart_sublist none _).subset (List.mem_reverse.1 h)
  exact resolves_of_mem_resolved ((fromTheEnd_perm _).mem_iff.1 hkept)

theorem mergeSort_pairwise_order {rs : List Replacement}
    (h : rs.Pairwise fun r s => r.order ≠ s.order) :
    (rs.mergeSort fun r s => r.order ≤ s.order).Pairwise fun r s => r.order < s.order := by
  have hle : (rs.mergeSort fun r s => r.order ≤ s.order).Pairwise fun r s =>
      decide (r.order ≤ s.order) = true :=
    List.pairwise_mergeSort (by simp only [decide_eq_true_eq]; omega)
      (by simp only [Bool.or_eq_true, decide_eq_true_eq]; omega) rs
  have hne := h.perm (List.mergeSort_perm rs fun r s => r.order ≤ s.order).symm
    fun hrs => Ne.symm hrs
  refine (hle.and hne).imp fun {r s} hrs => ?_
  exact Nat.lt_of_le_of_ne (of_decide_eq_true hrs.1) hrs.2

/-- No two replacements come from one edit. -/
theorem carriedOut_orders (b : Bytes) (reach : Nat) (fields : List Field) (batch : List Edit) :
    (carriedOut b reach fields batch).reverse.Pairwise fun r s => r.order ≠ s.order := by
  have hne : (resolved (resolveAll b reach fields batch)).Pairwise
      fun r s => r.order ≠ s.order :=
    (resolved_pairwise_order b reach fields batch).imp Nat.ne_of_lt
  have hsorted := hne.perm (fromTheEnd_perm _).symm fun hrs => Ne.symm hrs
  rw [carriedOut, List.reverse_reverse]
  exact hsorted.sublist (keepApart_sublist none _)

end CarriedOut

/-! ## Runs -/

theorem exists_fields_of_applyEdits {reach : Reach} {source : Text} {batch : List Edit}
    {outcome : Outcome} (h : applyEdits reach source batch = .ok outcome) :
    ∃ fields, Field.ofPage reach.openTag source = .ok fields ∧
      applyTo source.bytes reach.search fields batch = .ok outcome :=
  Markup.exists_of_bind_eq_ok h

theorem applyTo_eq_ok {b : Bytes} {reach : Nat} {fields : List Field} {batch : List Edit}
    {outcome : Outcome} (h : applyTo b reach fields batch = .ok outcome) :
    (spliceAll b (carriedOut b reach fields batch).reverse).decode = .ok outcome.source ∧
      outcome.applied = ((carriedOut b reach fields batch).reverse.mergeSort
        fun r s => r.order ≤ s.order).map fun r => r.edit.id := by
  unfold applyTo at h
  simp only at h
  rw [carriedOut, List.reverse_reverse]
  split at h
  · cases h
  · next text htext =>
    cases h
    exact ⟨htext, rfl⟩

section Run

variable {source : Text} {reach : Nat} {fields : List Field} {batch : List Edit}

theorem holding_of_mem_carriedOut (hsource : source.hasSurrogate = false)
    (hfields : ∀ f ∈ fields, source.IsBoundary f.range.start) {r : Replacement}
    (h : r ∈ carriedOut source.bytes reach fields batch) :
    Holding source r.edit.oldValue r.range := by
  obtain ⟨f, hf, takes, -⟩ := (resolves_of_mem_carriedOut h).exists_field
  exact takes.holding hsource (hfields f (List.mem_of_find?_eq_some hf))

theorem writesText_of_mem_carriedOut (hsource : source.hasSurrogate = false)
    (hfields : ∀ f ∈ fields, source.IsBoundary f.range.start) {r : Replacement}
    (h : r ∈ carriedOut source.bytes reach fields batch) : r.WritesText source := by
  have holding := holding_of_mem_carriedOut hsource hfields h
  have resolves := resolves_of_mem_carriedOut h
  obtain ⟨f, -, -, written⟩ := resolves.exists_field
  exact ⟨holding.boundary, holding.stop_le, _,
    Edit.hasSurrogate_written source.bytes f resolves.new_encodable, written⟩

/-- What the splices leave is the page with all ranges replaced. -/
theorem spliceAll_carriedOut (hsource : source.hasSurrogate = false)
    (hfields : ∀ f ∈ fields, source.IsBoundary f.range.start) :
    spliceAll source.bytes (carriedOut source.bytes reach fields batch).reverse =
      rebuilt source.bytes 0 (carriedOut source.bytes reach fields batch) := by
  have hapart := carriedOut_pairwise source.bytes reach fields batch
  -- ranges end within the page whatever was read there, so the splices are in order
  have hstop : ∀ r ∈ (carriedOut source.bytes reach fields batch).reverse,
      r.range.stop ≤ source.bytes.length := by
    intro r hr
    rw [Text.length_bytes]
    exact (holding_of_mem_carriedOut hsource hfields (List.mem_reverse.1 hr)).stop_le
  rw [spliceAll_eq_rebuilt (List.pairwise_reverse.2 hapart) hstop, List.reverse_reverse]

/-- What comes out of a run is the page with all ranges replaced, and as it is text, all
ranges end at boundaries of the page. -/
theorem rebuilt_of_applyTo (hsource : source.hasSurrogate = false)
    (hfields : ∀ f ∈ fields, source.IsBoundary f.range.start) {outcome : Outcome}
    (h : applyTo source.bytes reach fields batch = .ok outcome) :
    (∀ r ∈ carriedOut source.bytes reach fields batch, source.IsBoundary r.range.stop) ∧
      outcome.source.hasSurrogate = false ∧
      outcome.source.bytes =
        rebuilt source.bytes 0 (carriedOut source.bytes reach fields batch) := by
  have hdecode := (applyTo_eq_ok h).1
  rw [spliceAll_carriedOut hsource hfields] at hdecode
  exact boundary_of_undamaged_rebuilt hsource (Text.isBoundary_zero source)
    (fun r _ => Nat.zero_le _) (carriedOut_pairwise source.bytes reach fields batch)
    (fun r hr => writesText_of_mem_carriedOut hsource hfields hr) hdecode

end Run

/-! ## The outcome is a splice of the page -/

/-- A replacement carries out the edit of a batch at its place in the batch: it takes exactly
the bytes of the old value, and writes what the edit writes into the field that it names. -/
structure Replacement.CarriesOut (b : Bytes) (fields : List Field) (batch : List Edit)
    (r : Replacement) : Prop where
  edit_eq : batch[r.order]? = some r.edit
  length_eq : r.range.length = r.edit.oldValue.bytes.length
  stop_le : r.range.stop ≤ b.length
  slice_eq : b.slice r.range = r.edit.oldValue.bytes
  exists_field : ∃ f, fields.find? (fun f => f.id = r.edit.id) = some f ∧
    r.written = (r.edit.written b f).bytes

/-- An outcome is a page with one range replaced for every edit that was applied. -/
structure Outcome.Splices (source : Text) (fields : List Field) (batch : List Edit)
    (rs : List Replacement) (outcome : Outcome) : Prop where
  /-- the starts increase, and no range reaches into the next one -/
  apart : rs.Pairwise Replacement.Before
  carriesOut : ∀ r ∈ rs, r.CarriesOut source.bytes fields batch
  /-- put in the order of the batch, the replacements are those of the applied edits -/
  applied : ∃ inOrder : List Replacement, inOrder.Perm rs ∧
    inOrder.Pairwise (fun r s => r.order < s.order) ∧
    outcome.applied = inOrder.map fun r => r.edit.id
  encodable : outcome.source.hasSurrogate = false
  bytes_eq : outcome.source.bytes = rebuilt source.bytes 0 rs
  unchanged : outcome.applied = [] → outcome.source = source

theorem eq_of_bytes_eq {s t : Text} (hs : s.hasSurrogate = false) (ht : t.hasSurrogate = false)
    (h : s.bytes = t.bytes) : s = t := by
  rw [← decodeLossy_bytes hs, h, decodeLossy_bytes ht]

/-- Whatever a batch holds, a run that returns replaces one range of the page for every edit
that it applied, and leaves everything else as it is. -/
theorem splices_of_applyEdits {reach : Reach} {source : Text} {batch : List Edit}
    {outcome : Outcome} (h : applyEdits reach source batch = .ok outcome) :
    ∃ fields, Field.ofPage reach.openTag source = .ok fields ∧
      outcome.Splices source fields batch
        (carriedOut source.bytes reach.search fields batch) := by
  obtain ⟨fields, hfields, h⟩ := exists_fields_of_applyEdits h
  obtain ⟨-, -, hsource, -⟩ := Field.ofPage_eq_ok hfields
  have hstarts := fun f hf => (Field.standsIn_of_ofPage hfields f hf).boundary
  obtain ⟨hends, hsurrogate, hbytes⟩ := rebuilt_of_applyTo hsource hstarts h
  have happlied := (applyTo_eq_ok h).2
  refine ⟨fields, hfields, carriedOut_pairwise _ _ _ _, fun r hr => ?_,
    ⟨_, ?_, mergeSort_pairwise_order (carriedOut_orders _ _ _ _), happlied⟩,
    hsurrogate, hbytes, fun hnone => ?_⟩
  · have holding := holding_of_mem_carriedOut hsource hstarts hr
    have resolves := resolves_of_mem_carriedOut hr
    obtain ⟨f, hf, -, written⟩ := resolves.exists_field
    exact ⟨resolves.edit_eq, by rw [holding.length_eq, Text.length_bytes],
      by rw [Text.length_bytes]; exact holding.stop_le, holding.slice_eq (hends r hr), f, hf,
      written⟩
  · exact (List.mergeSort_perm _ _).trans (List.reverse_perm _)
  · -- as many edits were applied as there are ranges
    have hempty : carriedOut source.bytes reach.search fields batch = [] := by
      rw [happlied, List.map_eq_nil_iff] at hnone
      have hperm := List.mergeSort_perm
        (carriedOut source.bytes reach.search fields batch).reverse
        fun r s => r.order ≤ s.order
      rw [hnone] at hperm
      exact List.reverse_eq_nil_iff.1 hperm.nil_eq.symm
    rw [hempty, rebuilt, List.drop_zero] at hbytes
    exact eq_of_bytes_eq hsurrogate hsource hbytes

/-- The value of an attribute, with a quote to be escaped and beside an unknown field. -/
theorem splices_of_applyEdits_attribute : ∃ (source : Text) (batch : List Edit)
    (outcome : Outcome) (fields : List Field),
    source = text "<p title='äb'>x</p>" ∧ applyEdits .default source batch = .ok outcome ∧
      outcome.source = text "<p title='a&#39;b'>x</p>" ∧
      outcome.applied = [text "attr:10:title"] ∧
      outcome.Splices source fields batch (carriedOut source.bytes 200 fields batch) := by
  have hrun : (applyEdits .default (text "<p title='äb'>x</p>")
      [⟨text "text:99", [], text "y"⟩, ⟨text "attr:10:title", text "äb", text "a'b"⟩]).toOption =
      some ⟨text "<p title='a&#39;b'>x</p>", [text "attr:10:title"],
        [⟨⟨text "text:99", [], text "y"⟩, .unknownField⟩]⟩ := by
    decide +kernel
  have happly := Markup.eq_ok_of_toOption hrun
  obtain ⟨fields, -, hsplices⟩ := splices_of_applyEdits happly
  exact ⟨_, _, _, fields, rfl, happly, rfl, rfl, hsplices⟩

/-! ## The ranges and their fields -/

/-- A range lies inside another one. -/
def ByteRange.Inside (r s : ByteRange) : Prop := s.start ≤ r.start ∧ r.stop ≤ s.stop

/-- How the range of a replacement lies to a field: it is inside the field, unless the old
value is longer than the field or is not what the bytes at the field read as. -/
structure Replacement.BelongsTo (b : Bytes) (reach : Nat) (f : Field) (r : Replacement) :
    Prop where
  takes : r.edit.Takes b reach f r.range
  slice_eq : b.slice r.range = r.edit.oldValue.bytes
  inside : r.range.Inside f.range ∨ f.range.length < r.edit.oldValue.width ∨
    b.matchesAt f.range.start r.edit.oldValue = false
  /-- an edit that knows what its field holds replaces the field -/
  fresh : r.edit.oldValue = f.value → r.range = f.range

section Fields

variable {b : Bytes} {reach : Nat} {f : Field} {e : Edit} {range : ByteRange}

theorem Edit.Takes.inside (h : e.Takes b reach f range) :
    range.Inside f.range ∨ f.range.length < e.oldValue.width ∨
      b.matchesAt f.range.start e.oldValue = false := by
  cases h with
  | insertion old_eq empty => exact .inl ⟨Nat.le_refl _, Nat.le_add_right _ _⟩
  | inPlace old_ne reads =>
    by_cases hlong : f.range.length < e.oldValue.width
    · exact .inr (.inl hlong)
    · exact .inl ⟨Nat.le_refl _, Nat.add_le_add_left (Nat.le_of_not_lt hlong) _⟩
  | moved old_ne misses near => exact .inr (.inr misses)

theorem Edit.Takes.eq_range (h : e.Takes b reach f range) (hf : f.Holds b)
    (fresh : e.oldValue = f.value) : range = f.range := by
  have hlength := hf.length_eq
  rw [← fresh] at hlength
  cases h with
  | insertion old_eq empty => rw [← empty]
  | inPlace old_ne reads => rw [← hlength]
  | moved old_ne misses near =>
    rw [fresh, hf.matchesAt] at misses
    cases misses

end Fields

/-- Every range that a run replaces belongs to the field that its edit names, and everything
outside the ranges stays. -/
theorem belongsTo_of_applyEdits {reach : Reach} {source : Text} {batch : List Edit}
    {outcome : Outcome} (h : applyEdits reach source batch = .ok outcome) :
    ∃ fields, Field.ofPage reach.openTag source = .ok fields ∧
      outcome.source.bytes =
        rebuilt source.bytes 0 (carriedOut source.bytes reach.search fields batch) ∧
      ∀ r ∈ carriedOut source.bytes reach.search fields batch,
        ∃ f ∈ fields, f.id = r.edit.id ∧ r.BelongsTo source.bytes reach.search f := by
  obtain ⟨fields, hfields, h⟩ := exists_fields_of_applyEdits h
  obtain ⟨-, -, hsource, -⟩ := Field.ofPage_eq_ok hfields
  have hstands := Field.standsIn_of_ofPage hfields
  have hstarts := fun f hf => (hstands f hf).boundary
  obtain ⟨hends, -, hbytes⟩ := rebuilt_of_applyTo hsource hstarts h
  refine ⟨fields, hfields, hbytes, fun r hr => ?_⟩
  have holding := holding_of_mem_carriedOut hsource hstarts hr
  obtain ⟨f, hf, takes, -⟩ := (resolves_of_mem_carriedOut hr).exists_field
  have hmem := List.mem_of_find?_eq_some hf
  have hid := List.find?_some hf
  exact ⟨f, hmem, of_decide_eq_true hid, takes, holding.slice_eq (hends r hr), takes.inside,
    takes.eq_range (hstands f hmem).toHolds⟩

/-- An edit whose old value stands elsewhere near its field. -/
theorem belongsTo_of_applyEdits_moved : ∃ (source : Text) (batch : List Edit)
    (outcome : Outcome) (fields : List Field),
    source = text "<p>a</p><p>b</p>" ∧ applyEdits .default source batch = .ok outcome ∧
      outcome.source = text "<p>a</p><p>c</p>" ∧
      ∀ r ∈ carriedOut source.bytes 200 fields batch,
        ∃ f ∈ fields, f.id = r.edit.id ∧ r.BelongsTo source.bytes 200 f := by
  have hrun : (applyEdits .default (text "<p>a</p><p>b</p>")
      [⟨text "text:3", text "b", text "c"⟩]).toOption =
      some ⟨text "<p>a</p><p>c</p>", [text "text:3"], []⟩ := by
    decide +kernel
  have happly := Markup.eq_ok_of_toOption hrun
  obtain ⟨fields, -, -, hbelongs⟩ := belongsTo_of_applyEdits happly
  exact ⟨_, _, _, fields, rfl, happly, rfl, hbelongs⟩

/-- A range need not lie inside any field: the bytes near a field that are the old value may
be part of a tag, as those of a class are. -/
theorem not_forall_inside : ¬ ∀ (reach : Reach) (source : Text) (batch : List Edit)
    (fields : List Field) (outcome : Outcome),
    Field.ofPage reach.openTag source = .ok fields →
      applyEdits reach source batch = .ok outcome →
        ∀ r ∈ carriedOut source.bytes reach.search fields batch,
          ∃ f ∈ fields, r.range.Inside f.range := by
  intro hall
  have hfields : (Field.ofPage 2000 (text "<p class='ab'>x</p>")).toOption =
      some [Field.ofText 14 (text "p text") (text "x") []] := by
    decide +kernel
  have hrun : (applyEdits .default (text "<p class='ab'>x</p>")
      [⟨text "text:14", text "ab", text "cd"⟩]).toOption =
      some ⟨text "<p class='cd'>x</p>", [text "text:14"], []⟩ := by
    decide +kernel
  have hranges : (carriedOut (text "<p class='ab'>x</p>").bytes 200
      [Field.ofText 14 (text "p text") (text "x") []]
      [⟨text "text:14", text "ab", text "cd"⟩]).map Replacement.range = [⟨10, 2⟩] := by
    decide +kernel
  obtain ⟨r, hr, hrange⟩ := List.mem_map.1 (hranges ▸ List.mem_singleton.2 rfl)
  obtain ⟨f, hf, hinside⟩ := hall .default _ _ _ _ (Markup.eq_ok_of_toOption hfields)
    (Markup.eq_ok_of_toOption hrun) r hr
  obtain rfl := List.mem_singleton.1 hf
  rw [hrange] at hinside
  exact absurd hinside.1 (by decide)

/-- An old value that is longer than its field may reach into the tag behind the field. -/
example : (applyEdits .default (text "<p>x</p>")
      [⟨text "text:3", text "x</p>", text "y"⟩]).toOption =
    some ⟨text "<p>y", [text "text:3"], []⟩ := by
  decide +kernel

end VisibleText
