import VisibleText.Proofs.TagLocality

/-!
# The bound on the steps never ends the reading

Four readers repeat a step, and are given a number of steps to bound them. Each step takes a code
point at least, so as many steps as there are code points left are enough, and any more change
nothing (`steps_suffice`): see `readContent_steps`, `readParts_steps`, `readCode_steps` and
`readString_steps`.

With the bound that they are given, the readers therefore satisfy the equations of an unbounded
repetition: what a step leaves is read in the same way (`readContent_of_item`,
`readParts_of_part`, `readCode_eq`, `readString_eq`). The steps of content and of opening tags are
readers already; those of strings and of code are `readStringStep` and `readCodeStep`.
-/

set_option autoImplicit false

namespace VisibleText.Markup

theorem bind_congr_of_ok {ε α β : Type} {x : Except ε α} {f g : α → Except ε β}
    (h : ∀ a, x = .ok a → f a = g a) : x >>= f = x >>= g := by
  cases x with
  | error e => rfl
  | ok a => exact h a rfl

/-- A reader that is given a number of steps, and is in some state, comes to the same with any
numbers of steps that are no less than what is left, if every step takes something. -/
theorem steps_suffice {σ β : Type} (read : Nat → σ → Text → β)
    (empty : ∀ steps state, read steps state [] = read 0 state [])
    (step : ∀ steps more state left,
      (∀ state' rest, rest.length < left.length → read steps state' rest = read more state' rest) →
        read (steps + 1) state left = read (more + 1) state left) :
    ∀ (steps more : Nat) (state : σ) (left : Text), left.length ≤ steps → left.length ≤ more →
      read steps state left = read more state left := by
  intro steps
  induction steps with
  | zero =>
    intro more state left hsteps _
    obtain rfl := List.length_eq_zero_iff.1 (Nat.le_zero.1 hsteps)
    exact (empty more state).symm
  | succ steps ih =>
    intro more state left hsteps hmore
    cases more with
    | zero =>
      obtain rfl := List.length_eq_zero_iff.1 (Nat.le_zero.1 hmore)
      exact empty (steps + 1) state
    | succ more =>
      refine step steps more state left fun state' rest hrest => ?_
      exact ih more state' rest (by omega) (by omega)

variable {inner : Readers}

/-! ## Strings -/

theorem length_lt_of_readStringStep (hinner : inner.Faithful) {quote : CodePoint}
    {start left rest taken : Text}
    (h : readStringStep inner quote start left = .ok ⟨(taken, some ()), rest⟩) :
    rest.length < left.length := by
  obtain ⟨hleft, htaken⟩ := readStringStep_append hinner h
  have hpos := List.length_pos_iff.2 (htaken (Option.some_ne_none _))
  simp only at hleft hpos
  rw [hleft, List.length_append]
  omega

theorem readString_steps (hinner : inner.Faithful) (quote : CodePoint) (start : Text) :
    ∀ (steps : Nat) (left : Text), left.length ≤ steps → ∀ more : Nat, left.length ≤ more →
      readString inner quote start steps left = readString inner quote start more left := by
  intro steps left hsteps more hmore
  refine steps_suffice (fun steps (_ : Unit) => readString inner quote start steps) ?_ ?_
    steps more () left hsteps hmore
  · intro steps _
    cases steps <;> rfl
  · intro steps more _ left hshorter
    rw [readString_succ, readString_succ]
    refine bind_congr_of_ok ?_
    rintro ⟨⟨taken, _ | _⟩, rest⟩ hstep
    · rfl
    · exact congrArg (prepend taken) (hshorter () rest (length_lt_of_readStringStep hinner hstep))

/-- Behind a step, a string is read on as it is read from there. -/
theorem readString_eq (hinner : inner.Faithful) (quote : CodePoint) (start left : Text) :
    readString inner quote start left.length left =
      readStringStep inner quote start left >>=
        behindStep fun _ rest => readString inner quote start rest.length rest := by
  rw [readString_steps hinner quote start _ left (Nat.le_refl _) (left.length + 1) (Nat.le_succ _),
    readString_succ]
  refine bind_congr_of_ok ?_
  rintro ⟨⟨taken, _ | _⟩, rest⟩ hstep
  · rfl
  · have hlength := length_lt_of_readStringStep hinner hstep
    simp only [behindStep]
    rw [readString_steps hinner quote start left.length rest (by omega) rest.length
      (Nat.le_refl _)]

/-! ## Code -/

/-- A step leaves an end of what it finds, and takes something. -/
theorem readCodeStep_suffix (hinner : inner.Faithful) {start : Text} {depth : Nat}
    {before left : Text} {step : Taken (List Piece × Option (Nat × Text))}
    (h : readCodeStep inner start depth before left = .ok step) :
    step.left <:+ left ∧ step.left.length < left.length := by
  obtain ⟨taken, taken_ne, hleft⟩ : ∃ taken, taken ≠ [] ∧ left = taken ++ step.left := by
    rcases readCodeStep_cases hinner h with ⟨seen, rest, depth', seen_ne, hleft, rfl⟩ |
      ⟨rest, hleft, rfl⟩ | ⟨node, rest, opens, -, hnode, rfl⟩
    · exact ⟨seen, seen_ne, hleft⟩
    · exact ⟨[.char '}'], List.cons_ne_nil _ _, hleft⟩
    · obtain ⟨body, rfl⟩ := eq_cons_of_opensTag opens
      have hread := hinner.tag hnode
      exact ⟨node.source, hread.source_ne, hread.eq_append⟩
  have hpos := List.length_pos_iff.2 taken_ne
  refine ⟨hleft ▸ List.suffix_append _ _, ?_⟩
  rw [hleft, List.length_append]
  omega

theorem readCode_steps (hinner : inner.Faithful) (start : Text) :
    ∀ (steps depth : Nat) (before left : Text), left.length ≤ steps →
      ∀ more : Nat, left.length ≤ more →
        readCode inner start steps depth before left =
          readCode inner start more depth before left := by
  intro steps depth before left hsteps more hmore
  -- the state is the open braces with the code since the last tag
  refine steps_suffice (fun steps (state : Nat × Text) =>
    readCode inner start steps state.1 state.2) ?_ ?_ steps more (depth, before) left hsteps hmore
  · intro steps _
    cases steps <;> rfl
  · intro steps more _ left hshorter
    rw [readCode_succ, readCode_succ]
    refine bind_congr_of_ok ?_
    rintro ⟨⟨pieces, _ | state⟩, rest⟩ hstep
    · rfl
    · exact congrArg (prepend pieces) (hshorter state rest (readCodeStep_suffix hinner hstep).2)

/-- Behind a step, code is read on as it is read from there. -/
theorem readCode_eq (hinner : inner.Faithful) (start : Text) (depth : Nat) (before left : Text) :
    readCode inner start left.length depth before left =
      readCodeStep inner start depth before left >>=
        behindStep fun state rest => readCode inner start rest.length state.1 state.2 rest := by
  rw [readCode_steps hinner start _ depth before left (Nat.le_refl _) (left.length + 1)
    (Nat.le_succ _), readCode_succ]
  refine bind_congr_of_ok ?_
  rintro ⟨⟨pieces, _ | ⟨depth, before⟩⟩, rest⟩ hstep
  · rfl
  · have hlength : rest.length < left.length := (readCodeStep_suffix hinner hstep).2
    simp only [behindStep]
    rw [readCode_steps hinner start left.length depth before rest (by omega) rest.length
      (Nat.le_refl _)]

theorem readCode_suffix (hinner : inner.Faithful) (start : Text) :
    ∀ (steps depth : Nat) (before left : Text) (taken : Taken (List Piece)),
      readCode inner start steps depth before left = .ok taken →
        taken.left <:+ left ∧ taken.left.length < left.length := by
  intro steps
  induction steps with
  | zero =>
    intro depth before left taken h
    cases h
  | succ steps ih =>
    intro depth before left taken h
    rw [readCode_succ] at h
    obtain ⟨⟨⟨pieces, state⟩, rest⟩, hstep, h⟩ := exists_of_bind_eq_ok h
    obtain ⟨hsuffix, hlength⟩ := readCodeStep_suffix hinner hstep
    cases state with
    | none =>
      cases h
      exact ⟨hsuffix, hlength⟩
    | some state =>
      obtain ⟨value, hread, -⟩ := exists_of_prepend_eq_ok h
      obtain ⟨hsuffix', hlength'⟩ := ih _ _ _ _ hread
      exact ⟨hsuffix'.trans hsuffix, Nat.lt_trans hlength' hlength⟩

/-! ## Opening tags -/

theorem length_lt_of_readPart (hinner : inner.Faithful) {tag left : Text}
    {taken : Taken TagPart} (h : readPart inner tag left = .ok taken) :
    taken.left.length < left.length := by
  have hpart := List.length_pos_iff.2 (source_ne_of_readPart h)
  rw [readPart_eq_append hinner h, List.length_append]
  omega

theorem readParts_steps (hinner : inner.Faithful) (tag : Text) :
    ∀ (steps : Nat) (left : Text), left.length ≤ steps → ∀ more : Nat, left.length ≤ more →
      readParts inner tag steps left = readParts inner tag more left := by
  intro steps left hsteps more hmore
  refine steps_suffice (fun steps (_ : Unit) => readParts inner tag steps) ?_ ?_
    steps more () left hsteps hmore
  · intro steps _
    cases steps <;> rfl
  · intro steps more _ left hshorter
    unfold readParts
    split
    · rfl
    · rfl
    · refine bind_congr_of_ok ?_
      rintro ⟨part, rest⟩ hpart
      have hrest := hshorter () rest (length_lt_of_readPart hinner hpart)
      simp only at hrest ⊢
      rw [hrest]

theorem readParts_succ {tag left rest : Text} {part : TagPart} {steps : Nat}
    (hslash : (text "/>").isPrefixOf left = false)
    (hpart : readPart inner tag left = .ok ⟨part, rest⟩) :
    readParts inner tag (steps + 1) left =
      (readParts inner tag steps rest).map fun taken =>
        ⟨(taken.value.1, part :: taken.value.2), taken.left⟩ := by
  rw [readParts, hpart]
  · change (readParts inner tag steps rest >>= _) = _
    cases readParts inner tag steps rest <;> rfl
  · rintro rest rfl
    cases hpart
  · rintro rest rfl
    cases hslash

/-- Behind a part, an opening tag is read on as it is read from there. -/
theorem readParts_of_part (hinner : inner.Faithful) {tag left rest : Text} {part : TagPart}
    (hslash : (text "/>").isPrefixOf left = false)
    (hpart : readPart inner tag left = .ok ⟨part, rest⟩) :
    readParts inner tag left.length left =
      (readParts inner tag rest.length rest).map fun taken =>
        ⟨(taken.value.1, part :: taken.value.2), taken.left⟩ := by
  have hlength : rest.length < left.length := length_lt_of_readPart hinner hpart
  obtain ⟨steps, hsteps⟩ := Nat.exists_eq_add_one.2 (Nat.lt_of_le_of_lt (Nat.zero_le _) hlength)
  rw [hsteps, readParts_succ hslash hpart,
    readParts_steps hinner tag steps rest (by omega) rest.length (Nat.le_refl _)]

/-! ## Content -/

section Levels

variable {levels : Nat}

theorem length_lt_of_readItem {opened : List Text} {left rest : Text} {node : Node}
    (left_ne : left ≠ []) (h : readItem (readers levels) opened left = .ok ⟨.node node, rest⟩) :
    rest.length < left.length :=
  Reads.length_lt (readItem_read (readers_faithful levels) left_ne h)

theorem readContent_steps (opened : List Text) :
    ∀ (steps : Nat) (left : Text), left.length ≤ steps → ∀ more : Nat, left.length ≤ more →
      readContent (readers levels) opened steps left =
        readContent (readers levels) opened more left := by
  intro steps left hsteps more hmore
  refine steps_suffice (fun steps (_ : Unit) => readContent (readers levels) opened steps) ?_ ?_
    steps more () left hsteps hmore
  · intro steps _
    cases steps <;> rfl
  · intro steps more _ left hshorter
    unfold readContent
    split
    · rfl
    · next hempty =>
      refine bind_congr_of_ok ?_
      rintro ⟨item, rest⟩ hitem
      cases item with
      | closing => rfl
      | closingOuter => rfl
      | node node =>
        have hrest := hshorter () rest (length_lt_of_readItem (by simpa using hempty) hitem)
        simp only at hrest ⊢
        rw [hrest]

/-- Behind a node, content is read on as it is read from there. -/
theorem readContent_of_item {opened : List Text} {left rest : Text} {node : Node}
    (left_ne : left ≠ []) (hitem : readItem (readers levels) opened left = .ok ⟨.node node, rest⟩) :
    readContent (readers levels) opened left.length left =
      (readContent (readers levels) opened rest.length rest).map fun taken =>
        ⟨⟨node :: taken.value.nodes, taken.value.closing⟩, taken.left⟩ := by
  have hlength := length_lt_of_readItem left_ne hitem
  obtain ⟨steps, hsteps⟩ := Nat.exists_eq_add_one.2 (Nat.lt_of_le_of_lt (Nat.zero_le _) hlength)
  rw [hsteps, readContent, if_neg (by simpa using left_ne), hitem]
  change (readContent (readers levels) opened steps rest >>= _) = _
  rw [readContent_steps opened steps rest (by omega) rest.length (Nat.le_refl _)]
  cases readContent (readers levels) opened rest.length rest <;> rfl

end Levels

end VisibleText.Markup
