import VisibleText.Proofs.Locality
import VisibleText.Proofs.Steps

/-!
# The calls of the readers

The readers call each other, and every call is given what is left of the page. `Call` names a call
with what it is given, `Call.outcome` is what it comes to, and `Makes` says which calls a call
makes. Reading what a step of a repetition left counts as a call of its own.

The calls that have begun and not come back form a stack. Of these `Makes` keeps the tags that
have been opened and the expressions around the call (`Frame`); the names of the tags down to the
innermost expression are the scope in which a closing tag is looked up (`scope`). `Reaches` holds
of the calls that are made when a page is read.

A call reads in the page (`Call.Placed`), the calls that it makes read behind it or at the same
place in a tag or an expression (`Makes.descends`), and what comes back has advanced
(`Call.Placed.advances`).
-/

set_option autoImplicit false

namespace VisibleText.Markup

/-! ## Calls -/

/-- A call of a reader: how many levels of nesting it may go down, and what it is given. -/
inductive Call where
  | content (levels : Nat) (opened : List Text) (left : Text)
  | tag (levels : Nat) (opened : List Text) (left : Text)
  /-- the parts of an opening tag, which starts at `start` -/
  | parts (levels : Nat) (start left : Text)
  | expression (levels : Nat) (left : Text)
  /-- the code of an expression, which starts at `start` -/
  | code (levels : Nat) (start : Text) (depth : Nat) (before left : Text)
  /-- a string in code, which starts at `start` -/
  | string (levels : Nat) (quote : CodePoint) (start left : Text)

namespace Call

/-- How many levels of nesting a call may go down. -/
def levels : Call → Nat
  | content levels .. | tag levels .. | parts levels .. | expression levels .. | code levels ..
  | string levels .. => levels

/-- What is left of the page where a call reads. -/
def left : Call → Text
  | content _ _ left | tag _ _ left | parts _ _ left | expression _ left | code _ _ _ _ left
  | string _ _ _ left => left

/-- What a call leaves of the page, or why it fails. -/
def outcome : Call → Except Failure Text
  | content levels opened left =>
    (readContent (readers levels) opened left.length left).map Taken.left
  | tag levels opened left => ((readers levels).tag opened left).map Taken.left
  | parts levels start left => (readParts (readers levels) start left.length left).map Taken.left
  | expression levels left => ((readers levels).expression left).map Taken.left
  | code levels start depth before left =>
    (readCode (readers levels) start left.length depth before left).map Taken.left
  | string levels quote start left =>
    (readString (readers levels) quote start left.length left).map Taken.left

end Call

/-- A tag that has been opened and not been closed: the call of its reader, and its name. A
fragment has the empty name. -/
structure ActiveTag where
  levels : Nat
  opened : List Text
  start : Text
  name : Text

/-- What surrounds a call: a tag, or an expression. -/
inductive Frame where
  | tag (tag : ActiveTag)
  | expression

/-- The names of the tags around a call, the innermost first, up to an expression. -/
def scope : List Frame → List Text
  | .tag tag :: frames => tag.name :: scope frames
  | _ => []

/-- A call that is surrounded by `frames` makes a call that is surrounded by other frames. -/
inductive Makes (frames : List Frame) : Call → List Frame → Call → Prop
  /-- behind a node, content is read on -/
  | item {levels : Nat} {opened : List Text} {left rest : Text} {node : Node} (left_ne : left ≠ [])
      (read : readItem (readers levels) opened left = .ok ⟨.node node, rest⟩) :
      Makes frames (.content levels opened left) frames (.content levels opened rest)
  | tagInContent {levels : Nat} {opened : List Text} {left : Text} (opens : opensTag left = true) :
      Makes frames (.content levels opened left) frames (.tag levels opened left)
  | expressionInContent {levels : Nat} {opened : List Text} {code : Text} :
      Makes frames (.content levels opened (.char '{' :: code)) frames
        (.expression levels (.char '{' :: code))
  | fragment {levels : Nat} {opened : List Text} {body : Text} :
      Makes frames (.tag (levels + 1) opened (.char '<' :: .char '>' :: body))
        (.tag ⟨levels + 1, opened, .char '<' :: .char '>' :: body, []⟩ :: frames)
        (.content levels ([] :: opened) body)
  | attributes {levels : Nat} {opened : List Text} {body : Text}
      (named : (text "<>").isPrefixOf (.char '<' :: body) = false) :
      Makes frames (.tag (levels + 1) opened (.char '<' :: body)) frames
        (.parts levels (.char '<' :: body) (body.dropWhile isTagNamePart))
  | children {levels : Nat} {opened : List Text} {body behind : Text} {opening : OpenTag}
      (named : (text "<>").isPrefixOf (.char '<' :: body) = false)
      (read : readOpenTag (readers levels) (.char '<' :: body) = .ok ⟨opening, behind⟩)
      (opens : opening.opensNothing = false) (kind : isRaw opening.name = false) :
      Makes frames (.tag (levels + 1) opened (.char '<' :: body))
        (.tag ⟨levels + 1, opened, .char '<' :: body, opening.name⟩ :: frames)
        (.content levels (opening.name :: opened) behind)
  /-- behind a part, an opening tag is read on -/
  | part {levels : Nat} {start left rest : Text} {part : TagPart}
      (slash : (text "/>").isPrefixOf left = false)
      (read : readPart (readers levels) start left = .ok ⟨part, rest⟩) :
      Makes frames (.parts levels start left) frames (.parts levels start rest)
  /-- code in the place of an attribute -/
  | attributeCode {levels : Nat} {start code : Text} :
      Makes frames (.parts levels start (.char '{' :: code)) frames
        (.expression levels (.char '{' :: code))
  /-- code as the value of an attribute -/
  | valueCode {levels : Nat} {start left name behind blankBefore value blankAfter code : Text}
      (named : left.span isAttributeNamePart = (name, behind)) (name_ne : name ≠ [])
      (before : behind.span CodePoint.isBlank = (blankBefore, .char '=' :: value))
      (after : value.span CodePoint.isBlank = (blankAfter, .char '{' :: code)) :
      Makes frames (.parts levels start left) frames (.expression levels (.char '{' :: code))
  | code {levels : Nat} {code : Text} :
      Makes frames (.expression (levels + 1) (.char '{' :: code)) (.expression :: frames)
        (.code levels (.char '{' :: code) 1 [] code)
  /-- behind a step, code is read on -/
  | codeStep {levels depth depth' : Nat} {start before before' left rest : Text}
      {pieces : List Piece}
      (read : readCodeStep (readers levels) start depth before left =
        .ok ⟨(pieces, some (depth', before')), rest⟩) :
      Makes frames (.code levels start depth before left) frames
        (.code levels start depth' before' rest)
  | tagInCode {levels depth : Nat} {start before left : Text} (opens : opensTag left = true)
      (allowed : tagMayFollow before = true) :
      Makes frames (.code levels start depth before left) frames (.tag levels [] left)
  | string {levels depth : Nat} {start before rest : Text} {quote : CodePoint}
      (quotes : quote.isAmong ['"', '\'', '`'] = true) :
      Makes frames (.code levels start depth before (quote :: rest)) frames
        (.string levels quote (quote :: rest) rest)
  /-- behind a step, a string is read on -/
  | stringStep {levels : Nat} {quote : CodePoint} {start left rest taken : Text}
      (read : readStringStep (readers levels) quote start left =
        .ok ⟨(taken, some ()), rest⟩) :
      Makes frames (.string levels quote start left) frames (.string levels quote start rest)
  /-- code in a template literal -/
  | templateCode {levels : Nat} {start code : Text} :
      Makes frames (.string levels (.char '`') start (.char '$' :: .char '{' :: code)) frames
        (.expression levels (.char '{' :: code))

/-- Reading a page makes a call, surrounded by some frames, when it may go down `levels` levels of
nesting. -/
inductive Reaches (levels : Nat) (page : Text) : List Frame → Call → Prop
  | start {front : List Node} {rest : Text} (read : readFrontmatter page = .ok ⟨front, rest⟩) :
      Reaches levels page [] (.content levels [] rest)
  | call {frames frames' : List Frame} {c c' : Call} (caller : Reaches levels page frames c)
      (makes : Makes frames c frames' c') : Reaches levels page frames' c'

/-! ## Where calls read -/

namespace Call

/-- Where a call reads: at its construct, or behind the start of its construct, in the page. -/
def Placed (page : Text) : Call → Prop
  | content _ _ left => left <:+ page
  | tag _ _ left => left <:+ page ∧ opensTag left = true
  | expression _ left => left <:+ page ∧ left.head? = some (.char '{')
  | parts _ start left | code _ start _ _ left | string _ _ start left =>
    start <:+ page ∧ left <:+ start ∧ left.length < start.length

theorem Placed.left_suffix {page : Text} {c : Call} (h : c.Placed page) : c.left <:+ page := by
  cases c with
  | content => exact h
  | tag | expression => exact h.1
  | parts | code | string => exact h.2.1.trans h.1

/-- A measure of a call that the calls that it makes are below: a tag and an expression start where
the content or the code around them reads. -/
def size : Call → Nat
  | tag _ _ left | expression _ left => 2 * left.length
  | content _ _ left | parts _ _ left | code _ _ _ _ left | string _ _ _ left =>
    2 * left.length + 1

/-- What a call that comes back has read: content may be empty, and a string is read from its
quote on. -/
def Advances (rest : Text) : Call → Prop
  | content _ _ left => rest <:+ left
  | string _ _ start _ => rest <:+ start ∧ rest.length < start.length
  | tag _ _ left | expression _ left | parts _ _ left | code _ _ _ _ left =>
    rest <:+ left ∧ rest.length < left.length

end Call

theorem suffix_of_span {p : CodePoint → Bool} {t before after : Text}
    (h : t.span p = (before, after)) : after <:+ t := by
  rw [List.span_eq_takeWhile_dropWhile, Prod.mk.injEq] at h
  exact h.2 ▸ List.dropWhile_suffix p

theorem readItem_suffix {levels : Nat} {opened : List Text} {left rest : Text} {node : Node}
    (left_ne : left ≠ []) (h : readItem (readers levels) opened left = .ok ⟨.node node, rest⟩) :
    rest <:+ left := by
  have hread : Reads left node rest := readItem_read (readers_faithful levels) left_ne h
  rw [hread.eq_append]
  exact List.suffix_append _ _

theorem Call.size_bounds (c : Call) :
    2 * c.left.length ≤ c.size ∧ c.size ≤ 2 * c.left.length + 1 := by
  cases c <;> simp [Call.size, Call.left]

/-- A call that is made reads behind its caller, or at the same place in a tag or an expression.
A level of nesting is spent only where something is taken. -/
theorem Makes.descends {frames frames' : List Frame} {c c' : Call}
    (makes : Makes frames c frames' c') :
    c'.left <:+ c.left ∧ c'.size < c.size ∧
      c'.left.length + c.levels ≤ c.left.length + c'.levels := by
  -- it is enough that something was taken
  have taking (suffix : c'.left <:+ c.left) (hlength : c'.left.length < c.left.length)
      (hlevels : c.levels ≤ c'.levels + 1) : c'.left <:+ c.left ∧ c'.size < c.size ∧
        c'.left.length + c.levels ≤ c.left.length + c'.levels := by
    have hsize := c.size_bounds
    have hsize' := c'.size_bounds
    exact ⟨suffix, by omega, by omega⟩
  cases makes with
  | tagInContent | expressionInContent | attributeCode | tagInCode =>
    exact ⟨List.suffix_rfl, Nat.lt_succ_self _, Nat.le_refl _⟩
  | item left_ne read =>
    exact taking (readItem_suffix left_ne read) (length_lt_of_readItem left_ne read) (Nat.le_succ _)
  | @fragment _ _ body =>
    exact taking ⟨text "<>", rfl⟩ (Nat.lt_of_succ_lt (Nat.lt_succ_self _)) (Nat.le_refl _)
  | @attributes _ _ body named =>
    have hsuffix := List.dropWhile_suffix (l := body) isTagNamePart
    exact taking (hsuffix.trans (List.suffix_cons _ _)) (Nat.lt_succ_of_le hsuffix.length_le)
      (Nat.le_refl _)
  | @children _ _ body behind opening named read opens kind =>
    have hleft := readOpenTag_eq_append (readers_faithful _) read
    simp only at hleft
    refine taking ⟨opening.source, hleft.symm⟩ ?_ (Nat.le_refl _)
    simp only [Call.left, hleft, List.length_append]
    simp [OpenTag.source]
  | part slash read =>
    have hleft := readPart_eq_append (readers_faithful _) read
    exact taking ⟨_, hleft.symm⟩ (length_lt_of_readPart (readers_faithful _) read) (Nat.le_succ _)
  | @valueCode _ _ left name behind blankBefore value blankAfter code named name_ne before after =>
    have hvalue : .char '{' :: code <:+ value := suffix_of_span after
    have hbehind : .char '=' :: value <:+ behind := suffix_of_span before
    have hleft : behind <:+ left := suffix_of_span named
    refine taking (hvalue.trans ((List.suffix_cons _ _).trans (hbehind.trans hleft))) ?_
      (Nat.le_succ _)
    exact Nat.lt_of_le_of_lt hvalue.length_le (hbehind.trans hleft).length_le
  | code => exact taking (List.suffix_cons _ _) (Nat.lt_succ_self _) (Nat.le_refl _)
  | codeStep read =>
    obtain ⟨hsuffix, hlength⟩ := readCodeStep_suffix (readers_faithful _) read
    exact taking hsuffix hlength (Nat.le_succ _)
  | string => exact taking (List.suffix_cons _ _) (Nat.lt_succ_self _) (Nat.le_succ _)
  | stringStep read =>
    have hleft := (readStringStep_append (readers_faithful _) read).1
    exact taking ⟨_, hleft.symm⟩ (length_lt_of_readStringStep (readers_faithful _) read)
      (Nat.le_succ _)
  | templateCode => exact taking (List.suffix_cons _ _) (Nat.lt_succ_self _) (Nat.le_succ _)

theorem Makes.placed {frames frames' : List Frame} {c c' : Call} {page : Text}
    (makes : Makes frames c frames' c') (h : c.Placed page) : c'.Placed page := by
  have hleft := makes.descends.1
  have hsuffix := hleft.trans h.left_suffix
  cases makes with
  | item => exact hsuffix
  | fragment => exact hsuffix
  | children => exact hsuffix
  | tagInContent opens => exact ⟨hsuffix, opens⟩
  | tagInCode opens => exact ⟨hsuffix, opens⟩
  | expressionInContent => exact ⟨hsuffix, rfl⟩
  | attributeCode => exact ⟨hsuffix, rfl⟩
  | valueCode => exact ⟨hsuffix, rfl⟩
  | templateCode => exact ⟨hsuffix, rfl⟩
  | @attributes _ _ body named =>
    have hbody := List.dropWhile_suffix (l := body) isTagNamePart
    exact ⟨h.1, hbody.trans (List.suffix_cons _ _), Nat.lt_succ_of_le hbody.length_le⟩
  | code => exact ⟨h.1, List.suffix_cons _ _, Nat.lt_succ_self _⟩
  | string => exact ⟨h.left_suffix, List.suffix_cons _ _, Nat.lt_succ_self _⟩
  | part | codeStep | stringStep =>
    exact ⟨h.1, hleft.trans h.2.1, Nat.lt_of_le_of_lt hleft.length_le h.2.2⟩

/-- A call that comes back has read something, unless it reads content, and leaves an end of what
it found. -/
theorem Call.Placed.advances {page rest : Text} {c : Call} (h : c.Placed page)
    (hreturns : c.outcome = .ok rest) : c.Advances rest := by
  cases c with
  | content levels opened left =>
    obtain ⟨taken, hread, rfl⟩ := exists_of_map_eq_ok hreturns
    have hleft := (readContent_reads (readers_faithful levels) opened _ _ _ (Nat.le_refl _)
      hread).1.eq_append
    rw [← List.append_assoc] at hleft
    exact ⟨_, hleft.symm⟩
  | tag levels opened left =>
    obtain ⟨taken, hread, rfl⟩ := exists_of_map_eq_ok hreturns
    obtain ⟨body, rfl⟩ := eq_cons_of_opensTag h.2
    have hreads := (readers_faithful levels).tag hread
    exact ⟨⟨_, hreads.eq_append.symm⟩, hreads.length_lt⟩
  | parts levels start left =>
    obtain ⟨taken, hread, rfl⟩ := exists_of_map_eq_ok hreturns
    have hleft := readParts_eq_append (readers_faithful levels) _ _ _ _ hread
    refine ⟨⟨_, hleft.symm⟩, ?_⟩
    have hend : 0 < (if taken.value.1 then text "/>" else text ">").length := by
      split <;> decide
    rw [hleft, List.length_append, List.length_append]
    omega
  | expression levels left =>
    obtain ⟨taken, hread, rfl⟩ := exists_of_map_eq_ok hreturns
    obtain ⟨code, rfl⟩ := List.head?_eq_some_iff.1 h.2
    have hleft := (readers_faithful levels).braced_append hread
    refine ⟨⟨_, hleft.symm⟩, ?_⟩
    rw [hleft, List.length_append, braced]
    simp only [List.cons_append, List.length_cons]
    omega
  | code levels start depth before left =>
    obtain ⟨taken, hread, rfl⟩ := exists_of_map_eq_ok hreturns
    exact readCode_suffix (readers_faithful levels) _ _ _ _ _ _ hread
  | string levels quote start left =>
    obtain ⟨taken, hread, rfl⟩ := exists_of_map_eq_ok hreturns
    have hleft := readString_eq_append (readers_faithful levels) _ _ _ _ _ hread
    have hsuffix : taken.left <:+ left := ⟨_, hleft.symm⟩
    exact ⟨hsuffix.trans h.2.1, Nat.lt_of_le_of_lt hsuffix.length_le h.2.2⟩

end VisibleText.Markup
