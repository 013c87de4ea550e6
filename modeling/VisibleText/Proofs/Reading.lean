import Mathlib.Data.List.TakeDrop
import VisibleText.Markup.Reader

/-!
# Reading loses nothing

What a reader read and what it left make up what it found: every reader splits the text that
it is given into the source of its result and the rest. For a page this says that its nodes,
written out one after the other, are the page (`nodesSource_of_readPage`).

Strings and code are read step by step. What a step can do is said once, for every later statement
about them (`readStringStep_append`, `readCodeStep_cases`); a reading is its first step, with what
is read behind it.

`Reads` records which reader read a node and which texts it found and left, for the node and
for everything in it, so that later statements about the nodes of a page need no second look
at the readers.
-/

set_option autoImplicit false

namespace VisibleText.Markup

open VisibleText.Text (after? cutAt? eq_append_of_after? cutAt?_eq_append)

/-! ## Readings that do not fail -/

theorem exists_of_bind_eq_ok {ε α β : Type} {x : Except ε α} {f : α → Except ε β} {b : β}
    (h : x >>= f = .ok b) : ∃ a, x = .ok a ∧ f a = .ok b := by
  cases x with
  | error e => cases h
  | ok a => exact ⟨a, rfl, h⟩

theorem exists_of_map_eq_ok {ε α β : Type} {x : Except ε α} {f : α → β} {b : β}
    (h : x.map f = .ok b) : ∃ a, x = .ok a ∧ f a = b := by
  cases x with
  | error e => cases h
  | ok a => exact ⟨a, rfl, Except.ok.inj h⟩

theorem eq_ok_of_toOption {ε α : Type} {x : Except ε α} {a : α} (h : x.toOption = some a) :
    x = .ok a := by
  cases x with
  | error e => cases h
  | ok a' => exact congrArg Except.ok (Option.some.inj h)

theorem exists_of_prepend_eq_ok {α : Type} {front : List α}
    {reading : Except Failure (Taken (List α))} {taken : Taken (List α)}
    (h : prepend front reading = .ok taken) :
    ∃ value, reading = .ok ⟨value, taken.left⟩ ∧ taken.value = front ++ value := by
  cases reading with
  | error e => cases h
  | ok read =>
    cases h
    exact ⟨read.value, rfl, rfl⟩

theorem prepend_nil {α : Type} (reading : Except Failure (Taken (List α))) :
    prepend [] reading = reading := by
  cases reading <;> rfl

theorem span_append (p : CodePoint → Bool) (t : Text) : (t.span p).1 ++ (t.span p).2 = t := by
  rw [List.span_eq_takeWhile_dropWhile, List.takeWhile_append_dropWhile]

theorem eq_append_of_isPrefixOf {s t : Text} (h : s.isPrefixOf t = true) :
    t = s ++ t.drop s.length := by
  obtain ⟨rest, rfl⟩ := List.isPrefixOf_iff_prefix.1 h
  rw [List.drop_left]

theorem readPast_eq_append {mark start left : Text} {fault : Fault} {taken : Taken Text}
    (h : readPast mark fault start left = .ok taken) :
    left = taken.value ++ mark ++ taken.left := by
  unfold readPast at h
  split at h
  · next before rest hcut =>
    cases h
    exact cutAt?_eq_append hcut
  · cases h

/-! ## What was read -/

/-- Whether a node holds no other nodes. -/
def Node.isPlain : Node → Bool
  | .text _ | .comment _ | .doctype _ | .frontmatter _ => true
  | _ => false

mutual

/-- A reader found the first text, read a node, and left the second text; the readers of the
nodes in it found and left what lies in between. -/
inductive Reads : Text → Node → Text → Prop
  | plain {levels : Nat} {opened : List Text} {left rest : Text} {node : Node}
      (call : readItem (readers levels) opened left = .ok ⟨.node node, rest⟩)
      (plain : node.isPlain = true) (left_eq : left = node.source ++ rest)
      (source_ne : node.source ≠ []) : Reads left node rest
  | front {page rest : Text} (before after : List Node) {node : Node}
      (call : readFrontmatter page = .ok ⟨before ++ node :: after, rest⟩)
      (plain : node.isPlain = true) (source_ne : node.source ≠ []) :
      Reads (node.source ++ (nodesSource after ++ rest)) node (nodesSource after ++ rest)
  | raw {name left raw closing rest : Text}
      (call : rawContent? name left = some (raw, closing, rest)) (raw_ne : raw ≠ []) :
      Reads (raw ++ (closingSource (some closing) ++ rest)) (.text raw)
        (closingSource (some closing) ++ rest)
  | expression {levels : Nat} {code rest : Text} {pieces : List Piece}
      (call : (readers levels).expression (.char '{' :: code) = .ok ⟨pieces, rest⟩)
      (inside : ReadsPieces code pieces (.char '}' :: rest)) :
      Reads (.char '{' :: code) (.expression pieces) rest
  | fragment {levels : Nat} {opened : List Text} {body rest : Text} {children : List Node}
      {closing : Option Text}
      (call : readTag (readers levels) opened (.char '<' :: .char '>' :: body) =
        .ok ⟨.fragment children closing, rest⟩)
      (inside : ReadsAll body children (closingSource closing ++ rest)) :
      Reads (.char '<' :: .char '>' :: body) (.fragment children closing) rest
  | tag {levels : Nat} {opened : List Text} {opening : OpenTag} {body rest : Text}
      {children : List Node} {closing : Option Text}
      (call : readTag (readers levels) opened (opening.source ++ body) =
        .ok ⟨.tag opening children closing, rest⟩)
      (inside : ReadsAll body children (closingSource closing ++ rest)) :
      Reads (opening.source ++ body) (.tag opening children closing) rest

/-- Nodes that were read one after the other. -/
inductive ReadsAll : Text → List Node → Text → Prop
  | nil {left : Text} : ReadsAll left [] left
  | cons {left middle rest : Text} {node : Node} {nodes : List Node}
      (head : Reads left node middle) (tail : ReadsAll middle nodes rest) :
      ReadsAll left (node :: nodes) rest

/-- Pieces of an expression that were read one after the other. -/
inductive ReadsPieces : Text → List Piece → Text → Prop
  | nil {left : Text} : ReadsPieces left [] left
  | code {left rest code : Text} {pieces : List Piece} (tail : ReadsPieces left pieces rest) :
      ReadsPieces (code ++ left) (.code code :: pieces) rest
  | markup {left middle rest : Text} {node : Node} {pieces : List Piece}
      (head : Reads left node middle) (tail : ReadsPieces middle pieces rest) :
      ReadsPieces left (.markup node :: pieces) rest

end

mutual

/-- What was read and what was left make up what was found. -/
theorem Reads.eq_append {left rest : Text} {node : Node} :
    Reads left node rest → left = node.source ++ rest
  | .plain _ _ left_eq _ => left_eq
  | .front .. => rfl
  | .raw _ _ => rfl
  | .expression _ inside => by
    rw [inside.eq_append]
    simp [Node.source, braced]
  | .fragment _ inside => by
    rw [inside.eq_append]
    simp [Node.source]
  | .tag _ inside => by
    rw [inside.eq_append]
    simp [Node.source]

theorem ReadsAll.eq_append {left rest : Text} {nodes : List Node} :
    ReadsAll left nodes rest → left = nodesSource nodes ++ rest
  | .nil => rfl
  | .cons head tail => by
    rw [head.eq_append, tail.eq_append]
    simp [nodesSource]

theorem ReadsPieces.eq_append {left rest : Text} {pieces : List Piece} :
    ReadsPieces left pieces rest → left = piecesSource pieces ++ rest
  | .nil => rfl
  | .code tail => by
    rw [tail.eq_append]
    simp [piecesSource, Piece.source]
  | .markup head tail => by
    rw [head.eq_append, tail.eq_append]
    simp [piecesSource, Piece.source]

end

/-- Readers for what is nested that split what they find at an angle bracket or a brace into
what they read and what they left. -/
structure Readers.Faithful (inner : Readers) : Prop where
  tag {opened : List Text} {body : Text} {taken : Taken Node}
    (h : inner.tag opened (.char '<' :: body) = .ok taken) :
    Reads (.char '<' :: body) taken.value taken.left
  expression {code : Text} {taken : Taken (List Piece)}
    (h : inner.expression (.char '{' :: code) = .ok taken) :
    ReadsPieces code taken.value (.char '}' :: taken.left)

variable {inner : Readers}

theorem Readers.Faithful.braced_append (hinner : inner.Faithful) {code : Text}
    {taken : Taken (List Piece)} (h : inner.expression (.char '{' :: code) = .ok taken) :
    .char '{' :: code = braced (piecesSource taken.value) ++ taken.left := by
  rw [(hinner.expression h).eq_append]
  simp [braced]

/-! ## Strings and code -/

/-- What a repetition comes to behind a step: the step ends it, or leaves it in a state from which
it is read on. -/
def behindStep {α σ : Type} (read : σ → Text → Except Failure (Taken (List α)))
    (step : Taken (List α × Option σ)) : Except Failure (Taken (List α)) :=
  match step.value.2 with
  | none => .ok ⟨step.value.1, step.left⟩
  | some state => prepend step.value.1 (read state step.left)

/-- A step of reading a string: what it takes, and whether the string goes on. -/
def readStringStep (inner : Readers) (quote : CodePoint) (start : Text) :
    Text → Except Failure (Taken (Text × Option Unit))
  | [] => .error (.fault .unterminatedString start)
  | c :: rest =>
    if c = .char '\\' then
      match rest with
      | [] => .error (.fault .unterminatedString start)
      | d :: rest => .ok ⟨([c, d], some ()), rest⟩
    else if c = quote then
      .ok ⟨([c], none), rest⟩
    else if quote = .char '`' then
      if c = .char '$' && rest.head? = some (.char '{') then do
        let ⟨pieces, rest⟩ ← inner.expression rest
        return ⟨(c :: braced (piecesSource pieces), some ()), rest⟩
      else
        .ok ⟨([c], some ()), rest⟩
    else if c = .char '\n' then
      .ok ⟨([], none), c :: rest⟩
    else
      .ok ⟨([c], some ()), rest⟩

theorem readString_succ (quote : CodePoint) (start : Text) (steps : Nat) (left : Text) :
    readString inner quote start (steps + 1) left =
      readStringStep inner quote start left >>=
        behindStep fun _ => readString inner quote start steps := by
  cases left with
  | nil => rfl
  | cons c rest =>
    unfold readString readStringStep
    simp only
    split
    · cases rest <;> rfl
    split
    · rfl
    split
    · split
      · cases inner.expression rest <;> rfl
      · rfl
    split <;> rfl

/-- A step splits what is left, and takes something unless it ends the string. -/
theorem readStringStep_append (hinner : inner.Faithful) {quote : CodePoint} {start left : Text}
    {step : Taken (Text × Option Unit)} (h : readStringStep inner quote start left = .ok step) :
    left = step.value.1 ++ step.left ∧ (step.value.2 ≠ none → step.value.1 ≠ []) := by
  cases left with
  | nil => cases h
  | cons c rest =>
    simp only [readStringStep] at h
    split at h
    · cases rest with
      | nil => cases h
      | cons d rest =>
        cases h
        exact ⟨rfl, fun _ => List.cons_ne_nil _ _⟩
    split at h
    · cases h
      exact ⟨rfl, fun _ => List.cons_ne_nil _ _⟩
    split at h
    · split at h
      · -- code in a template literal
        next hcode =>
        obtain ⟨⟨pieces, behind⟩, hpieces, h⟩ := exists_of_bind_eq_ok h
        cases h
        simp only [Bool.and_eq_true, decide_eq_true_eq] at hcode
        obtain ⟨code, rfl⟩ := List.head?_eq_some_iff.1 hcode.2
        exact ⟨congrArg (c :: ·) (hinner.braced_append hpieces), fun _ => List.cons_ne_nil _ _⟩
      · cases h
        exact ⟨rfl, fun _ => List.cons_ne_nil _ _⟩
    split at h
    · cases h
      exact ⟨rfl, fun hgoes => absurd rfl hgoes⟩
    · cases h
      exact ⟨rfl, fun _ => List.cons_ne_nil _ _⟩

theorem readString_eq_append (hinner : inner.Faithful) (quote : CodePoint) (start : Text) :
    ∀ (steps : Nat) (left : Text) (taken : Taken Text),
      readString inner quote start steps left = .ok taken → left = taken.value ++ taken.left := by
  intro steps
  induction steps with
  | zero => intro left taken h; cases h
  | succ steps ih =>
    intro left taken h
    rw [readString_succ] at h
    obtain ⟨⟨⟨front, state⟩, rest⟩, hstep, h⟩ := exists_of_bind_eq_ok h
    rw [(readStringStep_append hinner hstep).1]
    cases state with
    | none =>
      cases h
      rfl
    | some =>
      obtain ⟨value, hread, hvalue⟩ := exists_of_prepend_eq_ok h
      rw [hvalue, List.append_assoc]
      exact congrArg (front ++ ·) (ih rest _ hread)

theorem ReadsPieces.codePiece_append {left rest : Text} {pieces : List Piece} (before : Text)
    (h : ReadsPieces left pieces rest) :
    ReadsPieces (before.reverse ++ left) (codePiece before ++ pieces) rest := by
  cases before with
  | nil => exact h
  | cons c before => exact .code h

theorem eq_cons_of_opensTag {left : Text} (h : opensTag left = true) :
    ∃ body, left = .char '<' :: body := by
  unfold opensTag at h
  split at h
  · exact ⟨_, rfl⟩
  · cases h

/-- A step of reading code: the pieces that it completes, and the open braces and the code since
the last tag, if the code goes on. -/
def readCodeStep (inner : Readers) (start : Text) (depth : Nat) (before : Text) :
    Text → Except Failure (Taken (List Piece × Option (Nat × Text)))
  | [] => .error (.fault .unterminatedExpression start)
  | c :: rest =>
    if c.isAmong ['"', '\'', '`'] then do
      let ⟨string, rest⟩ ← readString inner c (c :: rest) rest.length rest
      return ⟨([], some (depth, string.reverse ++ c :: before)), rest⟩
    else if (text "//").isPrefixOf (c :: rest) then
      let (line, rest) := (c :: rest).span (· ≠ .char '\n')
      .ok ⟨([], some (depth, line.reverse ++ before)), rest⟩
    else if (text "/*").isPrefixOf (c :: rest) then do
      let ⟨comment, rest⟩ ←
        readPast (text "*/") .unterminatedCodeComment (c :: rest) ((c :: rest).drop 2)
      let written := text "/*" ++ comment ++ text "*/"
      return ⟨([], some (depth, written.reverse ++ before)), rest⟩
    else if c = .char '{' then
      .ok ⟨([], some (depth + 1, c :: before)), rest⟩
    else if c = .char '}' then
      if depth ≤ 1 then .ok ⟨(codePiece before, none), rest⟩
      else .ok ⟨([], some (depth - 1, c :: before)), rest⟩
    else if opensTag (c :: rest) && tagMayFollow before then do
      let ⟨node, rest⟩ ← inner.tag [] (c :: rest)
      return ⟨(codePiece before ++ [.markup node], some (depth, [])), rest⟩
    else
      .ok ⟨([], some (depth, c :: before)), rest⟩

theorem readCode_succ (start : Text) (steps depth : Nat) (before left : Text) :
    readCode inner start (steps + 1) depth before left =
      readCodeStep inner start depth before left >>=
        behindStep fun state => readCode inner start steps state.1 state.2 := by
  cases left with
  | nil => rfl
  | cons c rest =>
    unfold readCode readCodeStep
    simp only
    split
    · cases readString inner c (c :: rest) rest.length rest with
      | error e => rfl
      | ok taken => exact (prepend_nil _).symm
    split
    · exact (prepend_nil _).symm
    split
    · cases readPast (text "*/") .unterminatedCodeComment (c :: rest) ((c :: rest).drop 2) with
      | error e => rfl
      | ok taken => exact (prepend_nil _).symm
    split
    · exact (prepend_nil _).symm
    split
    · split
      · rfl
      · exact (prepend_nil _).symm
    split
    · cases inner.tag [] (c :: rest) <;> rfl
    · exact (prepend_nil _).symm

/-- What a step of reading code does: code is passed over, or the expression ends, or a tag is
read. -/
theorem readCodeStep_cases (hinner : inner.Faithful) {start : Text} {depth : Nat}
    {before left : Text} {step : Taken (List Piece × Option (Nat × Text))}
    (h : readCodeStep inner start depth before left = .ok step) :
    (∃ seen rest depth', seen ≠ [] ∧ left = seen ++ rest ∧
      step = ⟨([], some (depth', seen.reverse ++ before)), rest⟩) ∨
    (∃ rest, left = .char '}' :: rest ∧ step = ⟨(codePiece before, none), rest⟩) ∨
    (∃ node rest, opensTag left = true ∧ tagMayFollow before = true ∧
      inner.tag [] left = .ok ⟨node, rest⟩ ∧
        step = ⟨(codePiece before ++ [.markup node], some (depth, [])), rest⟩) := by
  cases left with
  | nil => cases h
  | cons c rest =>
    simp only [readCodeStep] at h
    split at h
    · obtain ⟨⟨string, behind⟩, hstring, h⟩ := exists_of_bind_eq_ok h
      cases h
      have hrest := readString_eq_append hinner c _ _ _ _ hstring
      exact .inl ⟨c :: string, behind, depth, List.cons_ne_nil _ _, congrArg (c :: ·) hrest,
        by rw [List.reverse_cons, List.append_assoc, List.singleton_append]⟩
    split at h
    · -- the line of a comment holds the slash that it starts with
      next hline =>
      cases h
      obtain ⟨body, hbody⟩ : ∃ body, c :: rest = .char '/' :: body :=
        ⟨_, eq_append_of_isPrefixOf hline⟩
      obtain ⟨rfl, -⟩ := List.cons.inj hbody
      refine .inl ⟨_, _, depth, ?_, (span_append (fun c => decide (c ≠ .char '\n')) _).symm, rfl⟩
      rw [List.span_eq_takeWhile_dropWhile, List.takeWhile_cons_of_pos rfl]
      exact List.cons_ne_nil _ _
    split at h
    · next hopen =>
      obtain ⟨⟨comment, behind⟩, hcomment, h⟩ := exists_of_bind_eq_ok h
      cases h
      have hcode := readPast_eq_append hcomment
      refine .inl ⟨text "/*" ++ comment ++ text "*/", behind, depth, List.cons_ne_nil _ _, ?_, rfl⟩
      rw [List.append_assoc, List.append_assoc, ← List.append_assoc comment]
      exact (eq_append_of_isPrefixOf hopen).trans (congrArg (text "/*" ++ ·) hcode)
    split at h
    · cases h
      exact .inl ⟨[c], rest, depth + 1, List.cons_ne_nil _ _, rfl, rfl⟩
    split at h
    · next hclose =>
      split at h
      · cases h
        exact .inr (.inl ⟨rest, by rw [hclose], rfl⟩)
      · cases h
        exact .inl ⟨[c], rest, depth - 1, List.cons_ne_nil _ _, rfl, rfl⟩
    split at h
    · next htag =>
      obtain ⟨⟨node, behind⟩, hnode, h⟩ := exists_of_bind_eq_ok h
      cases h
      obtain ⟨opens, allowed⟩ := Bool.and_eq_true_iff.1 htag
      exact .inr (.inr ⟨node, behind, opens, allowed, hnode, rfl⟩)
    · cases h
      exact .inl ⟨[c], rest, depth, List.cons_ne_nil _ _, rfl, rfl⟩

/-- The code read so far and what is left of it make up the pieces and the closing brace. -/
theorem readCode_reads (hinner : inner.Faithful) (start : Text) :
    ∀ (steps depth : Nat) (before left : Text) (taken : Taken (List Piece)),
      readCode inner start steps depth before left = .ok taken →
        ReadsPieces (before.reverse ++ left) taken.value (.char '}' :: taken.left) := by
  intro steps
  induction steps with
  | zero => intro depth before left taken h; cases h
  | succ steps ih =>
    intro depth before left taken h
    rw [readCode_succ] at h
    obtain ⟨step, hstep, h⟩ := exists_of_bind_eq_ok h
    rcases readCodeStep_cases hinner hstep with ⟨seen, rest, depth', -, rfl, rfl⟩ |
      ⟨rest, rfl, rfl⟩ | ⟨node, rest, opens, -, hnode, rfl⟩
    · -- what was passed over joins the code before it
      have key := ih depth' _ rest taken ((prepend_nil _).symm.trans h)
      rwa [List.reverse_append, List.reverse_reverse, List.append_assoc] at key
    · cases h
      have hend : ReadsPieces (.char '}' :: rest) [] (.char '}' :: rest) := .nil
      have key := hend.codePiece_append before
      rwa [List.append_nil] at key
    · -- the code before a tag is a piece of its own, and reading starts afresh behind it
      obtain ⟨pieces, hread, hpieces⟩ := exists_of_prepend_eq_ok h
      obtain ⟨body, rfl⟩ := eq_cons_of_opensTag opens
      rw [hpieces, List.append_assoc]
      exact ReadsPieces.codePiece_append before
        (.markup (hinner.tag hnode) (by simpa using ih _ _ _ _ hread))

theorem readExpression_reads (hinner : inner.Faithful) {code : Text} {taken : Taken (List Piece)}
    (h : readExpression inner (.char '{' :: code) = .ok taken) :
    ReadsPieces code taken.value (.char '}' :: taken.left) :=
  readCode_reads hinner _ _ _ [] code taken h

/-! ## Opening tags -/

theorem bareValue_append (t : Text) : (bareValue t).1 ++ (bareValue t).2 = t := by
  induction t with
  | nil => rfl
  | cons c t ih =>
    unfold bareValue
    split
    · rfl
    · simpa using ih

theorem readLiteral_eq_append (hinner : inner.Faithful) {name left : Text} {taken : Taken Literal}
    (h : readLiteral inner name left = .ok taken) : left = taken.value.source ++ taken.left := by
  unfold readLiteral at h
  split at h
  · obtain ⟨⟨value, rest⟩, hvalue, h⟩ := exists_of_bind_eq_ok h
    cases h
    simp [Literal.source, Quote.mark, readPast_eq_append hvalue]
  · obtain ⟨⟨value, rest⟩, hvalue, h⟩ := exists_of_bind_eq_ok h
    cases h
    simp [Literal.source, Quote.mark, readPast_eq_append hvalue]
  · obtain ⟨⟨value, rest⟩, hvalue, h⟩ := exists_of_bind_eq_ok h
    cases h
    simp [Literal.source, readPast_eq_append hvalue]
  · obtain ⟨⟨pieces, rest⟩, hpieces, h⟩ := exists_of_bind_eq_ok h
    cases h
    exact hinner.braced_append hpieces
  · have hbare := bareValue_append left
    generalize bareValue left = cut at h hbare
    obtain ⟨value, rest⟩ := cut
    simp only at h hbare
    split at h
    · cases h
      rfl
    · cases h
      exact hbare.symm

theorem readAssignment_eq_append (hinner : inner.Faithful) {tag name left : Text}
    {taken : Taken (Option Assignment)} (h : readAssignment inner tag name left = .ok taken) :
    left = (taken.value.map Assignment.source).getD [] ++ taken.left := by
  unfold readAssignment at h
  have hbefore := span_append CodePoint.isBlank left
  generalize left.span CodePoint.isBlank = cut at h hbefore
  obtain ⟨blankBefore, rest⟩ := cut
  simp only at h hbefore
  split at h
  · next value =>
    have hafter := span_append CodePoint.isBlank value
    generalize List.span CodePoint.isBlank value = cut at h hafter
    obtain ⟨blankAfter, rest⟩ := cut
    simp only at h hafter
    split at h
    · cases h
    · obtain ⟨⟨literal, rest'⟩, hliteral, h⟩ := exists_of_bind_eq_ok h
      cases h
      rw [← hbefore, ← hafter, readLiteral_eq_append hinner hliteral]
      simp [Assignment.source]
  · cases h
    rfl

theorem readPart_eq_append (hinner : inner.Faithful) {tag left : Text} {taken : Taken TagPart}
    (h : readPart inner tag left = .ok taken) : left = taken.value.source ++ taken.left := by
  unfold readPart at h
  split at h
  · cases h
  · cases h
    rfl
  · obtain ⟨⟨pieces, rest⟩, hpieces, h⟩ := exists_of_bind_eq_ok h
    cases h
    exact hinner.braced_append hpieces
  · next c rest _ _ =>
    split at h
    · have hblank := span_append CodePoint.isBlank (c :: rest)
      cases h
      exact hblank.symm
    · have hname := span_append isAttributeNamePart (c :: rest)
      generalize List.span isAttributeNamePart (c :: rest) = cut at h hname
      obtain ⟨name, rest'⟩ := cut
      simp only at h hname
      split at h
      · cases h
      · obtain ⟨⟨assignment, rest''⟩, hassignment, h⟩ := exists_of_bind_eq_ok h
        cases h
        have key := readAssignment_eq_append hinner hassignment
        rw [← hname, key]
        cases assignment with
        | none => rfl
        | some assignment => simp [TagPart.source]

theorem readParts_eq_append (hinner : inner.Faithful) (tag : Text) :
    ∀ (steps : Nat) (left : Text) (taken : Taken (Bool × List TagPart)),
      readParts inner tag steps left = .ok taken →
        left = partsSource taken.value.2 ++
          (if taken.value.1 then text "/>" else text ">") ++ taken.left := by
  intro steps
  induction steps with
  | zero => intro left taken h; cases h
  | succ steps ih =>
    intro left taken h
    unfold readParts at h
    split at h
    · cases h
      rfl
    · cases h
      rfl
    · obtain ⟨⟨part, rest⟩, hpart, h⟩ := exists_of_bind_eq_ok h
      obtain ⟨⟨⟨selfClosing, parts⟩, rest'⟩, hparts, h⟩ := exists_of_bind_eq_ok h
      cases h
      rw [readPart_eq_append hinner hpart, ih rest _ hparts]
      simp [partsSource]

theorem readOpenTag_eq_append (hinner : inner.Faithful) {body : Text} {taken : Taken OpenTag}
    (h : readOpenTag inner (.char '<' :: body) = .ok taken) :
    .char '<' :: body = taken.value.source ++ taken.left := by
  unfold readOpenTag at h
  simp only [List.drop_succ_cons, List.drop_zero] at h
  have hname := span_append isTagNamePart body
  generalize List.span isTagNamePart body = cut at h hname
  obtain ⟨name, rest⟩ := cut
  simp only at h hname
  cases hparts : readParts inner (.char '<' :: body) (List.length (.char '<' :: body)) rest with
  | error e =>
    rw [hparts] at h
    cases h
  | ok read =>
    rw [hparts] at h
    cases h
    have key := readParts_eq_append hinner _ _ _ _ hparts
    rw [← hname, key]
    simp [OpenTag.source, OpenTag.ending]

/-! ## Content -/

theorem afterNameInAnyCase?_suffix {name t behind : Text}
    (h : afterNameInAnyCase? name t = some behind) : behind <:+ t := by
  induction name generalizing t with
  | nil =>
    cases h
    exact List.suffix_rfl
  | cons n name ih =>
    cases t with
    | nil => cases h
    | cons c t =>
      unfold afterNameInAnyCase? at h
      split at h
      · exact (ih h).trans (List.suffix_cons c t)
      · cases h

theorem rawContent?_eq_append {name t raw closing rest : Text}
    (h : rawContent? name t = some (raw, closing, rest)) :
    t = raw ++ (closingSource (some closing) ++ rest) := by
  induction t generalizing raw with
  | nil => cases h
  | cons c t ih =>
    simp only [rawContent?] at h
    split at h
    · next closing' left hclosing =>
      cases h
      simp only [Option.bind_eq_bind, Option.bind_eq_some_iff] at hclosing
      obtain ⟨behind, hopen, blanks, hname, hend⟩ := hclosing
      split at hend
      · next left' hleft =>
        cases hend
        -- what the closing tag holds is what stands before its angle bracket
        have hsuffix : (.char '>' :: rest) <:+ behind := by
          rw [← hleft]
          exact (List.dropWhile_suffix _).trans (afterNameInAnyCase?_suffix hname)
        obtain ⟨inside, rfl⟩ := hsuffix
        have hlength : (inside ++ .char '>' :: rest).length - rest.length - 1 = inside.length := by
          simp only [List.length_append, List.length_cons]
          omega
        rw [eq_append_of_after? hopen, hlength, List.take_left]
        simp [closingSource, text]
      · cases hend
    · split at h
      · next content closing' left hrest =>
        cases h
        rw [ih hrest]
        rfl
      · cases h

theorem textRun_tail_append (t : Text) : (textRun.tail t).1 ++ (textRun.tail t).2 = t := by
  induction t with
  | nil => rfl
  | cons c t ih =>
    unfold textRun.tail
    split
    · rfl
    · simpa using ih

theorem textRun_append (t : Text) : (textRun t).1 ++ (textRun t).2 = t := by
  cases t with
  | nil => rfl
  | cons c t => simpa [textRun] using textRun_tail_append t

theorem textRun_ne_nil {t : Text} (h : t ≠ []) : (textRun t).1 ≠ [] := by
  cases t with
  | nil => contradiction
  | cons c t => simp [textRun]

/-- What an item says about the text that its reader found and the text that it left. -/
def Item.Read (opened : List Text) (left : Text) : Item → (rest : Text) → Prop
  | .node n, rest => Reads left n rest
  | .closing inside, rest =>
    left = closingSource (some inside) ++ rest ∧ opened.head? = some inside.trim
  | .closingOuter, rest => rest = left ∧ opened ≠ []

theorem readClosingTag_read {opened : List Text} {left : Text} {taken : Taken Item}
    (hclose : (text "</").isPrefixOf left = true) (h : readClosingTag opened left = .ok taken) :
    taken.value.Read opened left taken.left := by
  obtain ⟨⟨inside, rest⟩, hinside, h⟩ := exists_of_bind_eq_ok h
  simp only at h
  split at h
  · next hhead =>
    cases h
    refine ⟨?_, hhead⟩
    rw [eq_append_of_isPrefixOf hclose]
    have key := readPast_eq_append hinside
    simp only at key
    rw [show (text "</").length = 2 from rfl, key]
    simp [closingSource, text]
  split at h
  · next hmem =>
    cases h
    refine ⟨rfl, ?_⟩
    rintro rfl
    simp at hmem
  · cases h

section Levels

variable {levels : Nat}

theorem readItem_read (hinner : (readers levels).Faithful) {opened : List Text} {left : Text}
    {taken : Taken Item} (hleft : left ≠ [])
    (h : readItem (readers levels) opened left = .ok taken) :
    taken.value.Read opened left taken.left := by
  have hcall := h
  unfold readItem at h
  -- the cases are those of the reader: comment, doctype, closing tag, tag, expression, text
  split at h
  · next hopen =>
    obtain ⟨⟨value, rest⟩, hvalue, h⟩ := exists_of_bind_eq_ok h
    cases h
    refine Reads.plain hcall rfl ?_ (by simp [Node.source, text])
    have key := readPast_eq_append hvalue
    rw [eq_append_of_isPrefixOf hopen, show (text "<!--").length = 4 from rfl, key]
    simp [Node.source]
  split at h
  · next hopen =>
    obtain ⟨⟨value, rest⟩, hvalue, h⟩ := exists_of_bind_eq_ok h
    cases h
    refine Reads.plain hcall rfl ?_ (by simp [Node.source])
    have key := readPast_eq_append hvalue
    rw [eq_append_of_isPrefixOf hopen, show (text "<!").length = 2 from rfl, key]
    simp [Node.source, text]
  split at h
  · next hclose => exact readClosingTag_read hclose h
  split at h
  · next htag =>
    obtain ⟨⟨node, rest⟩, hnode, h⟩ := exists_of_bind_eq_ok h
    cases h
    obtain ⟨body, rfl⟩ := eq_cons_of_opensTag htag
    exact hinner.tag hnode
  split at h
  · next hbrace =>
    obtain ⟨⟨pieces, rest⟩, hpieces, h⟩ := exists_of_bind_eq_ok h
    cases h
    obtain ⟨code, rfl⟩ := List.head?_eq_some_iff.1 hbrace
    exact Reads.expression hpieces (hinner.expression hpieces)
  · cases h
    exact Reads.plain hcall rfl (textRun_append left).symm (textRun_ne_nil hleft)

theorem Reads.source_ne {left rest : Text} {node : Node} (h : Reads left node rest) :
    node.source ≠ [] := by
  cases h with
  | plain _ _ _ source_ne => exact source_ne
  | front _ _ _ _ source_ne => exact source_ne
  | raw _ raw_ne => exact raw_ne
  | expression => simp [Node.source, braced]
  | fragment => simp [Node.source]
  | tag => simp [Node.source, OpenTag.source]

theorem Reads.length_lt {left rest : Text} {node : Node} (h : Reads left node rest) :
    rest.length < left.length := by
  have hne := List.length_pos_iff.2 h.source_ne
  rw [h.eq_append, List.length_append]
  omega

/-- Content that was read up to a closing tag or to the end of the page. With no tag open it
ends only where the page does. -/
theorem readContent_reads (hinner : (readers levels).Faithful) (opened : List Text) :
    ∀ (steps : Nat) (left : Text) (taken : Taken Content), left.length ≤ steps →
      readContent (readers levels) opened steps left = .ok taken →
        ReadsAll left taken.value.nodes (closingSource taken.value.closing ++ taken.left) ∧
          (opened = [] → taken.value.closing = none ∧ taken.left = []) := by
  intro steps
  induction steps with
  | zero =>
    intro left taken hlength h
    obtain rfl := List.length_eq_zero_iff.1 (Nat.le_zero.1 hlength)
    cases h
    exact ⟨.nil, fun _ => ⟨rfl, rfl⟩⟩
  | succ steps ih =>
    intro left taken hlength h
    unfold readContent at h
    split at h
    · next hempty =>
      cases h
      rw [List.isEmpty_iff.1 hempty]
      exact ⟨.nil, fun _ => ⟨rfl, rfl⟩⟩
    · next hempty =>
      obtain ⟨⟨item, rest⟩, hitem, h⟩ := exists_of_bind_eq_ok h
      have hread := readItem_read hinner (by simpa using hempty) hitem
      cases item with
      | closing inside =>
        cases h
        obtain ⟨hleft, hhead⟩ := hread
        simp only at hleft
        refine ⟨hleft ▸ .nil, ?_⟩
        rintro rfl
        cases hhead
      | closingOuter =>
        cases h
        obtain ⟨hrest, hopened⟩ := hread
        simp only at hrest
        exact ⟨hrest ▸ .nil, fun h => absurd h hopened⟩
      | node node =>
        have hnode : Reads left node rest := hread
        obtain ⟨⟨content, rest'⟩, hcontent, h⟩ := exists_of_bind_eq_ok h
        cases h
        have hshort := hnode.length_lt
        obtain ⟨hall, hend⟩ := ih rest _ (by omega) hcontent
        exact ⟨.cons hnode hall, hend⟩

/-! ## Tags -/

theorem readTag_reads (hinner : (readers levels).Faithful) {opened : List Text} {body : Text}
    {taken : Taken Node} (h : readTag (readers levels) opened (.char '<' :: body) = .ok taken) :
    Reads (.char '<' :: body) taken.value taken.left := by
  have hcall := h
  unfold readTag at h
  split at h
  · next hopen =>
    obtain ⟨⟨content, rest⟩, hcontent, h⟩ := exists_of_bind_eq_ok h
    cases h
    obtain ⟨body, rfl⟩ : ∃ rest, body = .char '>' :: rest := by
      have := eq_append_of_isPrefixOf hopen
      exact ⟨_, (List.cons.inj this).2⟩
    exact Reads.fragment hcall
      (readContent_reads hinner _ _ _ _ (Nat.le_refl _) hcontent).1
  · obtain ⟨⟨opening, rest⟩, hopening, h⟩ := exists_of_bind_eq_ok h
    have hsource := readOpenTag_eq_append hinner hopening
    simp only at hsource h
    rw [hsource] at hcall ⊢
    split at h
    · cases h
      exact Reads.tag hcall .nil
    split at h
    · split at h
      · cases h
      · next raw closing rest' hraw =>
        cases h
        refine Reads.tag hcall ?_
        rw [rawContent?_eq_append hraw]
        split
        · next hempty =>
          rw [List.isEmpty_iff.1 hempty]
          exact .nil
        · next hempty => exact .cons (.raw hraw (by simpa using hempty)) .nil
    · obtain ⟨⟨content, rest'⟩, hcontent, h⟩ := exists_of_bind_eq_ok h
      cases h
      exact Reads.tag hcall (readContent_reads hinner _ _ _ _ (Nat.le_refl _) hcontent).1

end Levels

/-- However many levels of nesting they may go down, the readers are faithful. -/
theorem readers_faithful (levels : Nat) : (readers levels).Faithful := by
  induction levels with
  | zero => exact ⟨fun h => (nomatch h), fun h => (nomatch h)⟩
  | succ levels ih => exact ⟨readTag_reads ih, readExpression_reads ih⟩

/-! ## Pages -/

theorem openingFence?_eq_append {t fence rest : Text} (h : openingFence? t = some (fence, rest)) :
    t = fence ++ rest ∧ fence ≠ [] := by
  simp only [openingFence?, Option.bind_eq_bind, Option.bind_eq_some_iff] at h
  obtain ⟨line, hopen, h⟩ := h
  have hblanks := span_append (fun c => c.isAmong [' ', '\t']) line
  rw [eq_append_of_after? hopen]
  unfold fenceBlanks at h
  generalize List.span (fun c => c.isAmong [' ', '\t']) line = cut at h hblanks
  obtain ⟨blanks, behind⟩ := cut
  simp only at h hblanks
  rw [← hblanks]
  split at h
  · cases h
    simp [text]
  · cases h
    simp [text]
  · cases h
    simp [text]
  · cases h

theorem closingFence?_eq_append {t fence rest : Text} (h : closingFence? t = some (fence, rest)) :
    t = fence ++ rest := by
  simp only [closingFence?, Option.bind_eq_bind, Option.bind_eq_some_iff] at h
  obtain ⟨line, hopen, h⟩ := h
  have hblanks := span_append (fun c => c.isAmong [' ', '\t']) line
  rw [eq_append_of_after? hopen]
  unfold fenceBlanks at h
  generalize List.span (fun c => c.isAmong [' ', '\t']) line = cut at h hblanks
  obtain ⟨blanks, behind⟩ := cut
  simp only at h hblanks
  rw [← hblanks]
  split at h
  · cases h
    simp
  · cases h
    simp
  · split at h
    · cases h
      simp [text]
    · cases h
      simp [text]
    · cases h
  · cases h

theorem throughClosingFence?_eq_append {lineStart : Bool} {t code rest : Text}
    (h : throughClosingFence? lineStart t = some (code, rest)) : t = code ++ rest := by
  induction t generalizing lineStart code with
  | nil =>
    unfold throughClosingFence? at h
    split at h
    · next found hfence =>
      cases h
      split at hfence
      · exact closingFence?_eq_append hfence
      · cases hfence
    · cases h
  | cons c t ih =>
    unfold throughClosingFence? at h
    split at h
    · next found hfence =>
      cases h
      split at hfence
      · exact closingFence?_eq_append hfence
      · cases hfence
    · simp only at h
      split at h
      · next code' left hrest =>
        cases h
        rw [ih hrest]
        rfl
      · cases h

/-- The nodes before the content were read one after the other. -/
theorem readFrontmatter_reads {page : Text} {taken : Taken (List Node)}
    (h : readFrontmatter page = .ok taken) : ReadsAll page taken.value taken.left := by
  have hcall := h
  unfold readFrontmatter at h
  have hblanks := span_append CodePoint.isBlank page
  generalize page.span CodePoint.isBlank = cut at h hblanks
  obtain ⟨blanks, rest⟩ := cut
  simp only at h hblanks
  split at h
  · cases h
    exact .nil
  · next fence code hopen =>
    obtain ⟨hrest, hfence⟩ := openingFence?_eq_append hopen
    split at h
    · cases h
    · next code' left hclose =>
      cases h
      have hcode := throughClosingFence?_eq_append hclose
      have hfence_ne : (Node.frontmatter (fence ++ code')).source ≠ [] := by
        simp [Node.source, hfence]
      have hpage : page = blanks ++ (fence ++ code' ++ left) := by
        rw [← hblanks, hrest, hcode, List.append_assoc]
      rw [hpage]
      cases hempty : blanks.isEmpty with
      | true =>
        rw [hempty] at hcall
        rw [List.isEmpty_iff.1 hempty]
        exact .cons (.front [] [] hcall rfl hfence_ne) .nil
      | false =>
        rw [hempty] at hcall
        have hblanks_ne : (Node.text blanks).source ≠ [] := by
          simpa [Node.source] using hempty
        refine .cons ?_
          (.cons (.front [.text blanks] [] hcall rfl hfence_ne) .nil)
        have hread := Reads.front [] [.frontmatter (fence ++ code')] hcall rfl hblanks_ne
        simpa [nodesSource, Node.source] using hread

theorem ReadsAll.append {left middle rest : Text} {before after : List Node} :
    ReadsAll left before middle → ReadsAll middle after rest →
      ReadsAll left (before ++ after) rest
  | .nil, h => h
  | .cons head tail, h => .cons head (tail.append h)

/-- The nodes of a page were read one after the other, from the start of the page to its
end. -/
theorem readPage_reads {page : Text} {nodes : List Node} (h : readPage page = .ok nodes) :
    ReadsAll page nodes [] := by
  obtain ⟨⟨front, rest⟩, hfront, h⟩ := exists_of_bind_eq_ok h
  obtain ⟨⟨content, rest'⟩, hcontent, h⟩ := exists_of_bind_eq_ok h
  cases h
  obtain ⟨hall, hend⟩ :=
    readContent_reads (readers_faithful nestingLimit) [] _ _ _ (Nat.le_refl _) hcontent
  obtain ⟨hclosing, hrest⟩ := hend rfl
  simp only at hclosing hrest
  rw [hclosing, hrest] at hall
  exact (readFrontmatter_reads hfront).append hall

/-- Reading a page loses nothing: its nodes, written out one after the other, are the page. -/
theorem nodesSource_of_readPage {page : Text} {nodes : List Node}
    (h : readPage page = .ok nodes) : nodesSource nodes = page := by
  have key := (readPage_reads h).eq_append
  rw [key, List.append_nil]

end VisibleText.Markup
