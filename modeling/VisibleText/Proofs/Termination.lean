import VisibleText.Document.Layout
import VisibleText.Proofs.Failures
import VisibleText.Text.Position

/-!
# Reading a page comes to an end

Every call of a reader reads within the page and behind its caller, or at the same place in a tag
or an expression, so there is no unending chain of calls; and what comes back has taken something
(`Reaches.placed`, `makes_wellFounded`, `Call.Placed.advances`). A page is therefore read, or it
has a fault at a place in it, or its tags and expressions are nested more deeply than the readers
may go down (`readPageWithin_cases`), which takes a page that is longer than that. The fault lies
where the construct starts that it names (`Document.fault_names_its_place`).
-/

set_option autoImplicit false

namespace VisibleText

/-! ## Tables of letters -/

theorem mem_of_spanning {α : Type} {run : α → Run} {table : Array α} {n : Nat} {entry : α}
    {rounds low high : Nat} (h : spanningEntry? run table n rounds low high = some entry) :
    entry ∈ table := by
  induction rounds generalizing low high with
  | zero => cases h
  | succ rounds ih =>
    unfold spanningEntry? at h
    dsimp only at h
    split at h
    · split at h
      · cases h
      · next hmiddle =>
        split at h
        · exact ih h
        split at h
        · exact ih h
        · exact Option.some.inj h ▸ Array.mem_of_getElem? hmiddle
    · cases h

/-- A table without gaps holds no more than what its runs span. -/
theorem RunTable.any_of_holds {pairs : Array (Nat × Nat)} {n : Nat}
    (h : (RunTable.ofPairs pairs).holds n = true) :
    (pairs.toList.any fun p => Nat.ble p.1 n && Nat.ble n p.2) = true := by
  unfold holds at h
  split at h
  · cases h
  · next r hr =>
    obtain ⟨p, hp, rfl⟩ := List.mem_map.1 (List.mem_toArray.1 (mem_of_spanning hr))
    simp only [Run.holds, Bool.and_eq_true, decide_eq_true_eq] at h
    exact List.any_eq_true.2 ⟨p, hp, by simpa using h.1⟩

/-- No blank beyond ASCII is in a run of letters. -/
theorem letterTable_holds_of_blank (n : Nat) (hn : n ∈ [0x85, 0xA0, 0x1680, 0x2000, 0x2001, 0x2002,
      0x2003, 0x2004, 0x2005, 0x2006, 0x2007, 0x2008, 0x2009, 0x200A, 0x2028, 0x2029, 0x202F,
      0x205F, 0x3000]) : letterTable.holds n = false := by
  rw [Bool.eq_false_iff]
  intro h
  -- the runs are gone through one by one, which is less to compute than the search
  have hany := RunTable.any_of_holds h
  clear h
  revert hany
  revert n
  decide +kernel

end VisibleText

namespace VisibleText.Markup

/-- Reads a page with readers that may go down a number of levels of nesting. -/
def readPageWithin (levels : Nat) (page : Text) : Except Failure (List Node) := do
  let ⟨front, rest⟩ ← readFrontmatter page
  let ⟨content, _⟩ ← readContent (readers levels) [] rest.length rest
  return front ++ content.nodes

/-! ## Names of tags -/

theorem isBlank_eq_false_of_isLetter {c : CodePoint} (h : c.isLetter = true) :
    c.isBlank = false := by
  rw [Bool.eq_false_iff]
  intro hblank
  simp only [CodePoint.isBlank, Bool.or_eq_true, Bool.and_eq_true, decide_eq_true_eq,
    beq_iff_eq] at hblank
  simp only [CodePoint.isLetter] at h
  split at h
  · simp only [Bool.or_eq_true, Bool.and_eq_true, decide_eq_true_eq] at h
    omega
  · rw [letterTable_holds_of_blank c.val] at h
    · cases h
    · simp only [List.mem_cons, List.not_mem_nil, or_false]
      omega

theorem isTagNamePart_of_isLetter {c : CodePoint} (h : c.isLetter = true) :
    isTagNamePart c = true := by
  have hamong : c.isAmong ['/', '>', '{', '}', '"', '\'', '=', '<'] = false := by
    rw [Bool.eq_false_iff]
    intro hamong
    cases c with
    | surrogate s => cases hamong
    | char d =>
      simp only [CodePoint.isAmong, List.contains_eq_mem, List.mem_cons, List.not_mem_nil,
        or_false, decide_eq_true_eq] at hamong
      rcases hamong with rfl | rfl | rfl | rfl | rfl | rfl | rfl | rfl <;>
        exact absurd h (by decide)
  simp [isTagNamePart, isBlank_eq_false_of_isLetter h, hamong]

/-- A tag that opens is a fragment, or it has a name. -/
theorem named_of_opensTag {left : Text} (h : opensTag left = true) :
    (text "<>").isPrefixOf left = true ∨ (left.drop 1).takeWhile isTagNamePart ≠ [] := by
  obtain ⟨body, rfl⟩ := eq_cons_of_opensTag h
  cases body with
  | nil => cases h
  | cons c body =>
    have hletter : (c == .char '>' || c.isLetter) = true := h
    simp only [Bool.or_eq_true, beq_iff_eq] at hletter
    rcases hletter with rfl | hletter
    · exact .inl rfl
    · refine .inr ?_
      rw [List.drop_succ_cons, List.drop_zero,
        List.takeWhile_cons_of_pos (isTagNamePart_of_isLetter hletter)]
      exact List.cons_ne_nil _ _

/-! ## Calls come to an end -/

/-- Any more steps than there are code points left change nothing about what a call comes to. -/
def Call.StepsSuffice : Call → Prop
  | .content levels opened left => ∀ more, left.length ≤ more →
    (readContent (readers levels) opened more left).map Taken.left =
      (Call.content levels opened left).outcome
  | .parts levels start left => ∀ more, left.length ≤ more →
    (readParts (readers levels) start more left).map Taken.left =
      (Call.parts levels start left).outcome
  | .code levels start depth before left => ∀ more, left.length ≤ more →
    (readCode (readers levels) start more depth before left).map Taken.left =
      (Call.code levels start depth before left).outcome
  | .string levels quote start left => ∀ more, left.length ≤ more →
    (readString (readers levels) quote start more left).map Taken.left =
      (Call.string levels quote start left).outcome
  | .tag .. | .expression .. => True

theorem Call.stepsSuffice (c : Call) : c.StepsSuffice := by
  have hfaithful := readers_faithful
  cases c with
  | content levels opened left =>
    intro more hmore
    rw [readContent_steps opened more left hmore left.length (Nat.le_refl _)]
    rfl
  | parts levels start left =>
    intro more hmore
    rw [readParts_steps (hfaithful levels) start more left hmore left.length (Nat.le_refl _)]
    rfl
  | code levels start depth before left =>
    intro more hmore
    rw [readCode_steps (hfaithful levels) start more depth before left hmore left.length
      (Nat.le_refl _)]
    rfl
  | string levels quote start left =>
    intro more hmore
    rw [readString_steps (hfaithful levels) quote start more left hmore left.length
      (Nat.le_refl _)]
    rfl
  | tag | expression => trivial

/-- There is no unending chain of calls. -/
theorem makes_wellFounded :
    WellFounded fun c' c : Call => ∃ frames frames', Makes frames c frames' c' := by
  refine Subrelation.wf (r := InvImage (· < ·) Call.size) ?_ (InvImage.wf Call.size Nat.lt_wfRel.wf)
  rintro c' c ⟨frames, frames', makes⟩
  exact makes.descends.2.1

/-- A call that fails found a fault where the construct starts that the fault names, or it may not
go down as many levels as there are code points left. -/
theorem Call.Placed.failure {page : Text} {e : Failure} (c : Call) :
    c.Placed page → c.Begins → c.outcome = .error e →
      (∃ cause place, e = .fault cause place ∧ place <:+ page ∧ cause.Names page place) ∨
      (e = .tooDeep ∧ c.levels < c.left.length) := by
  -- by induction on the calls that a call makes, down to the one where the failure starts
  induction c using makes_wellFounded.induction with
  | h c ih =>
    intro placed begins fails
    cases placed.failureOrigin begins [] fails with
    | fault inPage names => exact .inl ⟨_, _, rfl, inPage, names⟩
    | tooDeep levels_eq left_ne =>
      have hpos := List.length_pos_iff.2 left_ne
      exact .inr ⟨rfl, by omega⟩
    | @call frames' c' _ makes fails' =>
      refine (ih c' ⟨[], frames', makes⟩ (makes.placed placed) (makes.begins placed begins)
        fails').imp_right ?_
      -- a level is spent only where something is taken
      rintro ⟨rfl, hlevels⟩
      have hdescends := makes.descends.2.2
      exact ⟨rfl, by omega⟩

/-! ## Pages -/

variable {levels : Nat} {page : Text}

theorem Reaches.placed {frames : List Frame} {c : Call} (h : Reaches levels page frames c) :
    c.Placed page := by
  induction h with
  | start read => exact ⟨_, (readFrontmatter_reads read).eq_append.symm⟩
  | call caller makes ih => exact makes.placed ih

/-- If a call fails, the page cannot be read. -/
theorem Reaches.fails {frames : List Frame} {c : Call} {e : Failure}
    (h : Reaches levels page frames c) (fails : c.outcome = .error e) :
    readPageWithin levels page = .error e := by
  induction h with
  | start read =>
    rw [readPageWithin, read]
    simp only [Bind.bind, Except.bind, map_eq_error_iff.1 fails]
  | call caller makes ih => exact ih (makes.fails fails)

theorem readFrontmatter_eq_error {e : Failure} (h : readFrontmatter page = .error e) :
    ∃ place, e = .fault .unterminatedFence place ∧ place <:+ page ∧ text "---" <+: place := by
  unfold readFrontmatter at h
  cases hspan : page.span CodePoint.isBlank with
  | mk blanks rest =>
    rw [hspan] at h
    simp only at h
    split at h
    · cases h
    · next hfence =>
      split at h
      · obtain ⟨behind, hbehind, -⟩ := Option.bind_eq_some_iff.1 hfence
        exact ⟨rest, (Except.error.inj h).symm, suffix_of_span hspan, behind,
          (Text.eq_append_of_after? hbehind).symm⟩
      · cases h

/-- A page that is not read has a fault where the construct starts that the fault names, or it is
longer than the levels of nesting that its readers may go down. -/
theorem failure_of_readPageWithin {e : Failure} (h : readPageWithin levels page = .error e) :
    (∃ cause place, e = .fault cause place ∧ place <:+ page ∧ cause.Names page place) ∨
    (e = .tooDeep ∧ levels < page.length) := by
  rcases eq_error_of_bind_eq_error h with hfront | ⟨⟨front, rest⟩, hfront, h⟩
  · obtain ⟨place, rfl, inPage, names⟩ := readFrontmatter_eq_error hfront
    exact .inl ⟨_, place, rfl, inPage, names⟩
  · have placed := (Reaches.start hfront : Reaches levels page [] _).placed
    refine (placed.failure _ trivial (map_eq_error_iff.2 (map_eq_error_iff.1 h))).imp_right ?_
    rintro ⟨rfl, hlevels⟩
    exact ⟨rfl, Nat.lt_of_lt_of_le hlevels placed.left_suffix.length_le⟩

/-- A page is read, or it has a fault, or it is longer than the levels of nesting that its readers
may go down. -/
theorem readPageWithin_cases (levels : Nat) (page : Text) :
    (∃ nodes, readPageWithin levels page = .ok nodes) ∨
    (∃ cause place, readPageWithin levels page = .error (.fault cause place) ∧ place <:+ page) ∨
    (readPageWithin levels page = .error .tooDeep ∧ levels < page.length) := by
  cases hpage : readPageWithin levels page with
  | ok nodes => exact .inl ⟨nodes, rfl⟩
  | error e =>
    rcases failure_of_readPageWithin hpage with ⟨cause, place, rfl, inPage, -⟩ | ⟨rfl, hlevels⟩
    · exact .inr (.inl ⟨cause, place, rfl, inPage⟩)
    · exact .inr (.inr ⟨rfl, hlevels⟩)

theorem locate_fault {page before place : Text} (hpage : page = before ++ place) (cause : Fault) :
    (Failure.fault cause place).locate page =
      .fault cause before.width (before.count (.char '\n') + 1) := by
  have hpassed : page.take (page.length - place.length) = before := by
    rw [hpage, List.length_append, Nat.add_sub_cancel, List.take_left]
  simp only [Failure.locate, hpassed]

end VisibleText.Markup

namespace VisibleText

open VisibleText.Markup

/-- Reads the document of a page with readers that may go down a number of levels of nesting. -/
def Document.parseWithin (levels : Nat) (page : Text) : Except ParseError Document :=
  ((readPageWithin levels page).mapError (Failure.locate page)).map Document.ofMarkup

/-- Reading a page comes to an end. No chain of calls is unending, and no repetition is cut short
by the bound on its steps; every call reads in the page, and what comes back has advanced; a tag is
read only where it has a name or is a fragment. So there is a document, or a fault at a place in the
page, or nesting that is too deep for the levels that the readers may go down, of which a page never
needs more than it has code points. -/
theorem reading_comes_to_an_end (levels : Nat) (page : Text) :
    (WellFounded fun c' c : Markup.Call => ∃ frames frames', Makes frames c frames' c') ∧
    (∀ frames c, Reaches levels page frames c →
      c.Placed page ∧ c.StepsSuffice ∧ ∀ rest, c.outcome = .ok rest → c.Advances rest) ∧
    (∀ frames levels' opened left, Reaches levels page frames (.tag levels' opened left) →
      (text "<>").isPrefixOf left = true ∨ (left.drop 1).takeWhile isTagNamePart ≠ []) ∧
    ((∃ d, Document.parseWithin levels page = .ok d) ∨
      (∃ cause before left, page = before ++ left ∧ Document.parseWithin levels page =
        .error (.fault cause before.width (before.count (.char '\n') + 1))) ∨
      (Document.parseWithin levels page = .error .tooDeep ∧ levels < page.length)) ∧
    Document.parse page = Document.parseWithin nestingLimit page := by
  refine ⟨makes_wellFounded, ?_, ?_, ?_, rfl⟩
  · intro frames c reached
    exact ⟨reached.placed, c.stepsSuffice, fun rest => reached.placed.advances⟩
  · intro frames levels' opened left reached
    exact named_of_opensTag reached.placed.2
  · rcases readPageWithin_cases levels page with ⟨nodes, hpage⟩ |
      ⟨cause, place, hpage, before, hplace⟩ | ⟨hpage, hlevels⟩
    · refine .inl ⟨Document.ofMarkup nodes, ?_⟩
      rw [Document.parseWithin, hpage]
      rfl
    · refine .inr (.inl ⟨cause, before, place, hplace.symm, ?_⟩)
      rw [Document.parseWithin, hpage, ← locate_fault hplace.symm]
      rfl
    · refine .inr (.inr ⟨?_, hlevels⟩)
      rw [Document.parseWithin, hpage]
      rfl

/-- In `<p a>x` the reader of the parts of the tag starts behind the name and leaves the text. -/
theorem reading_advances_behind_parts :
    let parts := Markup.Call.parts 0 (text "<p a>x") (text " a>x")
    Reaches 1 (text "<p a>x") [] parts ∧ parts.outcome = .ok (text "x") ∧
      parts.Placed (text "<p a>x") ∧ parts.Advances (text "x") := by
  intro parts
  have hfront : readFrontmatter (text "<p a>x") = .ok ⟨[], text "<p a>x"⟩ := rfl
  have hpage : Reaches 1 (text "<p a>x") [] (.content 1 [] (text "<p a>x")) := .start hfront
  have hparts : Reaches 1 (text "<p a>x") [] parts :=
    (hpage.call (.tagInContent rfl)).call (.attributes rfl)
  have hreturns : parts.outcome = .ok (text "x") := rfl
  obtain ⟨placed, -, advances⟩ := (reading_comes_to_an_end 1 (text "<p a>x")).2.1 _ _ hparts
  exact ⟨hparts, hreturns, placed, advances _ hreturns⟩

end VisibleText

namespace VisibleText.Document

/-! ## Faults lie where their message says

A fault that is found on a page is reported with a byte and a line. Both belong to one character
of the page, at which the construct starts that the fault names (`fault_names_its_place`): the
readers carry what is left of the page instead of an index, so the character is the one behind all
that is not left.
-/

open VisibleText.Markup (Failure Fault failure_of_readPageWithin locate_fault nestingLimit
  readPageWithin)

/-- A fault is reported at the byte and in the line of a character of the page, at which the
construct starts that the fault names. -/
theorem fault_names_its_place {page : Text} {cause : Fault} {offset line : Nat}
    (h : Document.parse page = .error (.fault cause offset line)) :
    ∃ index : Nat, index ≤ page.length ∧ page.byteOffset index = .ok offset ∧
      line = 1 + List.count (.char '\n') (page.take index) ∧
        cause.Names page (page.drop index) := by
  have hwithin : Document.parseWithin nestingLimit page = .error (.fault cause offset line) := h
  unfold Document.parseWithin at hwithin
  cases hread : readPageWithin nestingLimit page with
  | ok nodes =>
    rw [hread] at hwithin
    cases hwithin
  | error failure =>
    rw [hread] at hwithin
    have hlocate : failure.locate page = .fault cause offset line :=
      Except.error.inj hwithin
    rcases failure_of_readPageWithin hread with
      ⟨cause', place, rfl, ⟨before, rfl⟩, names⟩ | ⟨rfl, -⟩
    · rw [locate_fault rfl] at hlocate
      cases hlocate
      refine ⟨before.length, ?_, Text.byteOffset_append before place, ?_, ?_⟩
      · rw [List.length_append]
        exact Nat.le_add_right _ _
      · rw [List.take_left, Nat.add_comm]
      · rwa [List.drop_left]
    · cases hlocate

/-- A string that is not terminated, in code within a template literal, behind characters of two
bytes and in the second line. -/
theorem fault_names_its_place_of_string : ∃ page : Text, page = text "é\n\x7b`ö$\x7b'a`\x7d" ∧
    Document.parse page = .error (.fault .unterminatedString 9 2) ∧
    ∃ index : Nat, index ≤ page.length ∧ page.byteOffset index = .ok 9 ∧
      2 = 1 + List.count (.char '\n') (page.take index) ∧
        Fault.Names page .unterminatedString (page.drop index) := by
  have hparse : Document.parse (text "é\n\x7b`ö$\x7b'a`\x7d") =
      .error (.fault .unterminatedString 9 2) := rfl
  exact ⟨_, rfl, hparse, fault_names_its_place hparse⟩

end VisibleText.Document
