import VisibleText.Document.Layout
import VisibleText.Proofs.Reading

/-!
# Documents cover their pages

Every node of a document has a range of characters of the page: those that its reader
consumed. The ranges of the top nodes follow one another from the start of the page to its
end, and within a tag or a fragment they follow one another from the end of the opening tag
to the start of the closing tag. In an expression there may be code between them.

`Covers` states this for a node and for everything in it, `Tiles` for nodes that follow one
another, and `Within` for nodes with gaps between them. Positions count bytes, so they are
read off the ranges (`offset`); as no range is empty, they ascend (`positions_pairwise`).
-/

set_option autoImplicit false

namespace VisibleText.Document

open VisibleText.Markup (OpenTag Piece Reads ReadsAll ReadsPieces closingSource nodesSource
  piecesSource readPage readPage_reads)

/-! ## Ranges of characters -/

/-- The number of bytes before a character of the page. -/
def offset (page : Text) (index : Nat) : Nat := Text.width (page.take index)

/-- A text stands in the page from the character `start` up to the character `stop`. -/
def Stands (page : Text) (start : Nat) (t : Text) (stop : Nat) : Prop :=
  ∃ before after : Text,
    page = before ++ t ++ after ∧ before.length = start ∧ (before ++ t).length = stop

/-- A reader found the page from the character `start` on, read a node of the markup, and
left the page from the character `stop` on. -/
structure ReadFrom (page : Text) (start : Nat) (node : Markup.Node) (stop : Nat) : Prop where
  start_lt : start < stop
  stop_le : stop ≤ page.length
  reads : Reads (page.drop start) node (page.drop stop)

mutual

/-- The reader of a node consumed the page from the character `start` up to the character
`stop`, and the readers of the nodes in it consumed what the node says. -/
inductive Covers (page : Text) : Nat → Node → Nat → Prop
  | text {start stop : Nat} {value : Text} (read : ReadFrom page start (.text value) stop)
      (stands : Stands page start value stop) (value_ne : value ≠ []) :
      Covers page start (.text value (offset page start)) stop
  | comment {start stop : Nat} {value : Text} (read : ReadFrom page start (.comment value) stop) :
      Covers page start (.comment value (offset page start)) stop
  | doctype {start stop : Nat} {inner : Text} (read : ReadFrom page start (.doctype inner) stop) :
      Covers page start (.doctype inner.trim (offset page start)) stop
  | frontmatter {start stop : Nat} {value : Text}
      (read : ReadFrom page start (.frontmatter value) stop) :
      Covers page start (.frontmatter value (offset page start)) stop
  /-- the nodes stand between the braces -/
  | expression {start stop : Nat} {pieces : List Piece} {children : List Node}
      (read : ReadFrom page start (.expression pieces) stop)
      (inside : Within page (start + 1) children (stop - 1)) :
      Covers page start (.expression children (offset page start)) stop
  /-- the children follow one another between the two tags; a fragment that was closed
  implicitly has no closing tag, so that its children go on to its end -/
  | fragment {start bodyStart bodyStop stop : Nat} {nodes : List Markup.Node}
      {closing : Option Text} {children : List Node}
      (read : ReadFrom page start (.fragment nodes closing) stop)
      (opens : Stands page start (VisibleText.text "<>") bodyStart)
      (inside : Tiles page bodyStart children bodyStop)
      (closes : Stands page bodyStop (closingSource closing) stop) :
      Covers page start (.fragment children (offset page start)) stop
  /-- as for a fragment; the tag says what its opening tag says -/
  | tag {start bodyStart bodyStop stop : Nat} {opening : OpenTag} {nodes : List Markup.Node}
      {closing : Option Text} {children : List Node}
      (read : ReadFrom page start (.tag opening nodes closing) stop)
      (opens : Stands page start opening.source bodyStart)
      (inside : Tiles page bodyStart children bodyStop)
      (closes : Stands page bodyStop (closingSource closing) stop) :
      Covers page start (.tag (tagAt (offset page start) opening) children) stop

/-- The ranges of the nodes follow one another from `start` to `stop`. -/
inductive Tiles (page : Text) : Nat → List Node → Nat → Prop
  | nil {start : Nat} : Tiles page start [] start
  | cons {start middle stop : Nat} {node : Node} {nodes : List Node}
      (head : Covers page start node middle) (tail : Tiles page middle nodes stop) :
      Tiles page start (node :: nodes) stop

/-- The ranges of the nodes lie one behind the other between `start` and `stop`. -/
inductive Within (page : Text) : Nat → List Node → Nat → Prop
  | nil {start stop : Nat} (le : start ≤ stop) : Within page start [] stop
  | cons {start first middle stop : Nat} {node : Node} {nodes : List Node}
      (gap : start ≤ first) (head : Covers page first node middle)
      (tail : Within page middle nodes stop) : Within page start (node :: nodes) stop

end

/-! ## From readings to ranges -/

section Readings

variable {page before left rest : Text}

theorem offset_length (hpage : page = before ++ left) :
    offset page before.length = before.width := by
  rw [offset, hpage, List.take_left]

theorem stands_append {t after : Text} (hpage : page = before ++ (t ++ after)) :
    Stands page before.length t (before ++ t).length :=
  ⟨before, after, by rw [hpage, List.append_assoc], rfl, rfl⟩

theorem readFrom_of_reads {node : Markup.Node} (hread : Reads left node rest)
    (hpage : page = before ++ left) :
    ReadFrom page before.length node (before ++ node.source).length := by
  have hleft := hread.eq_append
  have hpos := List.length_pos_iff.2 hread.source_ne
  have hrest : page.drop (before ++ node.source).length = rest := by
    rw [hpage, hleft, ← List.append_assoc, List.drop_left]
  refine ⟨?_, ?_, ?_⟩
  · rw [List.length_append]
    omega
  · rw [hpage, hleft]
    simp only [List.length_append]
    omega
  · rw [hrest, hpage, List.drop_left]
    exact hread

theorem covers_plain {node : Markup.Node} (hread : Reads left node rest)
    (plain : node.isPlain = true) (hpage : page = before ++ left) :
    Covers page before.length (nodeAt before.width node) (before ++ node.source).length := by
  have hrange := readFrom_of_reads hread hpage
  rw [← offset_length hpage]
  cases node with
  | text value =>
    rw [hread.eq_append] at hpage
    exact .text hrange (stands_append hpage) hread.source_ne
  | comment value => exact .comment hrange
  | doctype inner => exact .doctype hrange
  | frontmatter value => exact .frontmatter hrange
  | expression pieces => cases plain
  | tag opening children closing => cases plain
  | fragment children closing => cases plain

theorem length_before_brace (before : Text) (pieces : List Piece) :
    (before ++ [CodePoint.char '{'] ++ piecesSource pieces).length =
      (before ++ (Markup.Node.expression pieces).source).length - 1 := by
  simp [Markup.Node.source, Markup.braced]

theorem Within.mono {start first stop : Nat} {nodes : List Node}
    (h : Within page first nodes stop) (le : start ≤ first) : Within page start nodes stop := by
  cases h with
  | nil hstop => exact .nil (Nat.le_trans le hstop)
  | cons gap head tail => exact .cons (Nat.le_trans le gap) head tail

end Readings

mutual

/-- What a reader found behind some text of the page is covered by the node that the markup
is there. -/
theorem covers_nodeAt {page before left rest : Text} {node : Markup.Node}
    (hread : Reads left node rest) (hpage : page = before ++ left) :
    Covers page before.length (nodeAt before.width node) (before ++ node.source).length := by
  have hrange := readFrom_of_reads hread hpage
  have hoffset := offset_length hpage
  match hread with
  | .plain call plain left_eq source_ne =>
    exact covers_plain (.plain call plain left_eq source_ne) plain hpage
  | .front earlier later call plain source_ne =>
    exact covers_plain (.front earlier later call plain source_ne) plain hpage
  | .raw call raw_ne => exact covers_plain (.raw call raw_ne) rfl hpage
  | .expression call inside =>
    have key := within_piecesAt inside (hpage.trans (List.append_cons before _ _))
    rw [Text.width_append, ← hoffset, List.length_append] at key
    rw [nodeAt, ← hoffset]
    refine .expression hrange ?_
    rwa [length_before_brace] at key
  | .fragment call inside =>
    -- the children start behind the opening tag, and the closing tag behind them
    have hbody := hpage.trans (List.append_assoc before (VisibleText.text "<>") _).symm
    have key := tiles_nodesAt inside hbody
    rw [Text.width_append, ← hoffset] at key
    rw [inside.eq_append, ← List.append_assoc] at hbody
    have hcloses := stands_append hbody
    rw [nodeAt, ← hoffset]
    refine .fragment hrange (stands_append hpage) key ?_
    simp only [Markup.Node.source]
    simp only [List.append_assoc] at hcloses ⊢
    exact hcloses
  | .tag call inside =>
    have hbody := hpage.trans (List.append_assoc before _ _).symm
    have key := tiles_nodesAt inside hbody
    rw [Text.width_append, ← hoffset] at key
    rw [inside.eq_append, ← List.append_assoc] at hbody
    have hcloses := stands_append hbody
    rw [nodeAt, ← hoffset]
    refine .tag hrange (stands_append hpage) key ?_
    rw [Markup.Node.source]
    rwa [← List.append_assoc, ← List.append_assoc]

theorem tiles_nodesAt {page before left rest : Text} {nodes : List Markup.Node}
    (hread : ReadsAll left nodes rest) (hpage : page = before ++ left) :
    Tiles page before.length (nodesAt before.width nodes)
      (before ++ nodesSource nodes).length := by
  match hread with
  | .nil =>
    rw [nodesSource, List.append_nil]
    exact .nil
  | .cons head tail =>
    rw [nodesSource, ← List.append_assoc]
    refine .cons (covers_nodeAt head hpage) ?_
    rw [head.eq_append, ← List.append_assoc] at hpage
    have key := tiles_nodesAt tail hpage
    rwa [Text.width_append] at key

theorem within_piecesAt {page before left rest : Text} {pieces : List Piece}
    (hread : ReadsPieces left pieces rest) (hpage : page = before ++ left) :
    Within page before.length (piecesAt before.width pieces)
      (before ++ piecesSource pieces).length := by
  match hread with
  | .nil => exact .nil (by simp)
  | .code tail =>
    -- code is no node: it only widens the gap before the next one
    rw [← List.append_assoc] at hpage
    have key := within_piecesAt tail hpage
    rw [piecesSource, Markup.Piece.source, ← List.append_assoc, piecesAt, ← Text.width_append]
    exact key.mono (by simp)
  | .markup head tail =>
    rw [piecesSource, Markup.Piece.source, ← List.append_assoc]
    refine .cons (Nat.le_refl _) (covers_nodeAt head hpage) ?_
    rw [head.eq_append, ← List.append_assoc] at hpage
    have key := within_piecesAt tail hpage
    rwa [Text.width_append] at key

end

/-! ## Positions ascend -/

/-- The numbers ascend, from `low` on and below `high`. -/
def Ascends (low : Nat) (numbers : List Nat) (high : Nat) : Prop :=
  numbers.Pairwise (· < ·) ∧ ∀ n ∈ numbers, low ≤ n ∧ n < high

theorem Ascends.nil {low high : Nat} : Ascends low [] high :=
  ⟨.nil, fun _ hn => nomatch hn⟩

theorem Ascends.mono {low low' high high' : Nat} {numbers : List Nat}
    (h : Ascends low numbers high) (hlow : low' ≤ low) (hhigh : high ≤ high') :
    Ascends low' numbers high' := by
  refine ⟨h.1, fun n hn => ?_⟩
  have := h.2 n hn
  omega

theorem Ascends.cons {low n high : Nat} {numbers : List Nat} (h : Ascends low numbers high)
    (hlow : n < low) (hhigh : n < high) : Ascends n (n :: numbers) high := by
  refine ⟨List.pairwise_cons.2 ⟨fun m hm => ?_, h.1⟩, fun m hm => ?_⟩
  · have := h.2 m hm
    omega
  · rcases List.mem_cons.1 hm with rfl | hm
    · omega
    · have := h.2 m hm
      omega

theorem Ascends.append {low middle high : Nat} {before after : List Nat}
    (hbefore : Ascends low before middle) (hafter : Ascends middle after high)
    (hlow : low ≤ middle) (hhigh : middle ≤ high) : Ascends low (before ++ after) high := by
  refine ⟨List.pairwise_append.2 ⟨hbefore.1, hafter.1, fun m hm n hn => ?_⟩, fun n hn => ?_⟩
  · have := hbefore.2 m hm
    have := hafter.2 n hn
    omega
  · rcases List.mem_append.1 hn with hn | hn
    · have := hbefore.2 n hn
      omega
    · have := hafter.2 n hn
      omega

section Positions

variable {page : Text} {start stop : Nat}

theorem Stands.offset_eq {t : Text} (h : Stands page start t stop) :
    offset page stop = offset page start + t.width := by
  obtain ⟨before, after, rfl, rfl, rfl⟩ := h
  rw [offset, offset, List.take_left, List.append_assoc, List.take_left, Text.width_append]

theorem offset_le (h : start ≤ stop) : offset page start ≤ offset page stop := by
  obtain ⟨more, rfl⟩ := Nat.exists_eq_add_of_le h
  rw [offset, offset, List.take_add, Text.width_append]
  exact Nat.le_add_right _ _

theorem offset_lt (hlt : start < stop) (hle : stop ≤ page.length) :
    offset page start < offset page stop := by
  refine Nat.lt_of_lt_of_le ?_ (offset_le hlt)
  rw [offset, offset, List.take_add_one, List.getElem?_eq_getElem (by omega), Text.width_append]
  have := (page[start]).width_pos
  simp only [Option.toList_some, Text.width_cons, Text.width_nil]
  omega

theorem Covers.start_lt_and_stop_le {node : Node} (h : Covers page start node stop) :
    start < stop ∧ stop ≤ page.length := by
  cases h with
  | text read | comment read | doctype read | frontmatter read
  | expression read | fragment read | tag read => exact ⟨read.start_lt, read.stop_le⟩

theorem Covers.offset_lt {node : Node} (h : Covers page start node stop) :
    offset page start < offset page stop :=
  Document.offset_lt h.start_lt_and_stop_le.1 h.start_lt_and_stop_le.2

theorem Ascends.enclosed {bodyStart bodyStop : Nat} {opening closing : Text}
    {numbers : List Nat} (h : Ascends (offset page bodyStart) numbers (offset page bodyStop))
    (opens : Stands page start opening bodyStart) (opening_pos : 0 < opening.width)
    (closes : Stands page bodyStop closing stop) (hlt : offset page start < offset page stop) :
    Ascends (offset page start) (offset page start :: numbers) (offset page stop) := by
  have hstart := opens.offset_eq
  have hstop := closes.offset_eq
  exact (h.mono (Nat.le_refl _) (by omega)).cons (by omega) hlt

end Positions

theorem Tiles.offset_le {page : Text} {start stop : Nat} {nodes : List Node} :
    Tiles page start nodes stop → offset page start ≤ offset page stop
  | .nil => Nat.le_refl _
  | .cons head tail => Nat.le_trans (Nat.le_of_lt head.offset_lt) tail.offset_le

theorem Within.offset_le {page : Text} {start stop : Nat} {nodes : List Node} :
    Within page start nodes stop → offset page start ≤ offset page stop
  | .nil le => Document.offset_le le
  | .cons gap head tail =>
    Nat.le_trans (Document.offset_le gap)
      (Nat.le_trans (Nat.le_of_lt head.offset_lt) tail.offset_le)

mutual

theorem Covers.ascends {page : Text} {start stop : Nat} {node : Node}
    (h : Covers page start node stop) :
    Ascends (offset page start) (node.walk.map Node.position) (offset page stop) := by
  have hlt := h.offset_lt
  match h with
  | .text .. | .comment .. | .doctype .. | .frontmatter .. =>
    exact Ascends.nil.cons (Nat.lt_succ_self _) hlt
  | .expression read inside =>
    -- the nodes in an expression start behind its opening brace
    have hin := inside.ascends
    have hstart : offset page start < offset page (start + 1) :=
      offset_lt (Nat.lt_succ_self _) (Nat.lt_of_lt_of_le read.start_lt read.stop_le)
    exact (hin.mono (Nat.le_refl _) (offset_le (Nat.sub_le _ 1))).cons hstart hlt
  | .fragment read opens inside closes =>
    exact inside.ascends.enclosed opens (by decide) closes hlt
  | .tag read opens inside closes =>
    exact inside.ascends.enclosed opens (Text.width_pos (List.cons_ne_nil _ _)) closes hlt

theorem Tiles.ascends {page : Text} {start stop : Nat} {nodes : List Node}
    (h : Tiles page start nodes stop) :
    Ascends (offset page start) ((walkAll nodes).map Node.position) (offset page stop) := by
  match h with
  | .nil => exact .nil
  | .cons head tail =>
    rw [walkAll, List.map_append]
    exact head.ascends.append tail.ascends (Nat.le_of_lt head.offset_lt) tail.offset_le

theorem Within.ascends {page : Text} {start stop : Nat} {nodes : List Node}
    (h : Within page start nodes stop) :
    Ascends (offset page start) ((walkAll nodes).map Node.position) (offset page stop) := by
  match h with
  | .nil _ => exact .nil
  | .cons gap head tail =>
    rw [walkAll, List.map_append]
    have key := head.ascends.append tail.ascends (Nat.le_of_lt head.offset_lt) tail.offset_le
    exact key.mono (offset_le gap) (Nat.le_refl _)

end

/-! ## Nodes within nodes -/

mutual

/-- Whatever is in a node with a range has a range of its own. -/
theorem Covers.exists_of_mem_walk {page : Text} {start stop : Nat} {node x : Node}
    (h : Covers page start node stop) (hx : x ∈ node.walk) :
    ∃ start' stop', Covers page start' x stop' := by
  match h with
  | .text read stands value_ne =>
    obtain rfl := List.mem_singleton.1 hx
    exact ⟨_, _, .text read stands value_ne⟩
  | .comment read =>
    obtain rfl := List.mem_singleton.1 hx
    exact ⟨_, _, .comment read⟩
  | .doctype read =>
    obtain rfl := List.mem_singleton.1 hx
    exact ⟨_, _, .doctype read⟩
  | .frontmatter read =>
    obtain rfl := List.mem_singleton.1 hx
    exact ⟨_, _, .frontmatter read⟩
  | .expression read inside =>
    rcases List.mem_cons.1 hx with rfl | hx
    · exact ⟨_, _, .expression read inside⟩
    · exact inside.exists_of_mem_walkAll hx
  | .fragment read opens inside closes =>
    rcases List.mem_cons.1 hx with rfl | hx
    · exact ⟨_, _, .fragment read opens inside closes⟩
    · exact inside.exists_of_mem_walkAll hx
  | .tag read opens inside closes =>
    rcases List.mem_cons.1 hx with rfl | hx
    · exact ⟨_, _, .tag read opens inside closes⟩
    · exact inside.exists_of_mem_walkAll hx

theorem Tiles.exists_of_mem_walkAll {page : Text} {start stop : Nat} {nodes : List Node}
    {x : Node} (h : Tiles page start nodes stop) (hx : x ∈ walkAll nodes) :
    ∃ start' stop', Covers page start' x stop' := by
  match h with
  | .nil => cases hx
  | .cons head tail =>
    rcases List.mem_append.1 hx with hx | hx
    · exact head.exists_of_mem_walk hx
    · exact tail.exists_of_mem_walkAll hx

theorem Within.exists_of_mem_walkAll {page : Text} {start stop : Nat} {nodes : List Node}
    {x : Node} (h : Within page start nodes stop) (hx : x ∈ walkAll nodes) :
    ∃ start' stop', Covers page start' x stop' := by
  match h with
  | .nil _ => cases hx
  | .cons _ head tail =>
    rcases List.mem_append.1 hx with hx | hx
    · exact head.exists_of_mem_walk hx
    · exact tail.exists_of_mem_walkAll hx

end

/-! ## Documents -/

theorem tiles_of_parse {page : Text} {d : Document} (h : Document.parse page = .ok d) :
    Tiles page 0 d.children page.length := by
  unfold Document.parse Markup.nodesOf at h
  cases hread : readPage page with
  | error failure =>
    rw [hread] at h
    cases h
  | ok nodes =>
    rw [hread] at h
    cases h
    have hall := readPage_reads hread
    -- the nodes are read from the start of the page, and nothing is left behind them
    have key := tiles_nodesAt hall (List.nil_append page).symm
    rw [List.nil_append, ← List.append_nil (nodesSource nodes), ← hall.eq_append] at key
    exact key

/-- The nodes of a document lose and repeat nothing of the page. Their ranges follow one
another from its start to its end, the ranges within every tag and fragment follow one
another between its two tags (`Covers`), and the positions of all nodes ascend in the order
of the walk. -/
theorem tiles_and_positions_pairwise {page : Text} {d : Document}
    (h : Document.parse page = .ok d) :
    Tiles page 0 d.children page.length ∧ (d.nodes.map Node.position).Pairwise (· < ·) :=
  ⟨tiles_of_parse h, (tiles_of_parse h).ascends.1⟩

/-- Frontmatter, an element that was closed implicitly, and an expression with markup. -/
theorem tiles_and_positions_pairwise_of_list : ∃ (page : Text) (d : Document),
    page = text "---\n---\n<ul><li>é{a && <b>ö</b>}</ul>" ∧ Document.parse page = .ok d ∧
      d.nodes.map Node.position = [0, 7, 8, 12, 16, 18, 24, 27] ∧
      Tiles page 0 d.children page.length ∧
      (d.nodes.map Node.position).Pairwise (· < ·) := by
  have hrun : ((Document.parse (text "---\n---\n<ul><li>é{a && <b>ö</b>}</ul>")).map
      fun d => d.nodes.map Node.position).toOption = some [0, 7, 8, 12, 16, 18, 24, 27] := by
    decide +kernel
  obtain ⟨d, hparse, hpositions⟩ := Markup.exists_of_map_eq_ok (Markup.eq_ok_of_toOption hrun)
  exact ⟨_, d, rfl, hparse, hpositions, tiles_and_positions_pairwise hparse⟩

end VisibleText.Document
