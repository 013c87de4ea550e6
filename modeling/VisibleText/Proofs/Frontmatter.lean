import VisibleText.Proofs.Rereading

/-!
# Frontmatter behind an alteration

The frontmatter of a page is found again when the text behind it changes, as long as the line of
its closing fence ends as before (`Fenced.with_left`). A page without frontmatter still has none
if it was altered behind its first text (`openingFence?_of_alters`). So the whole page is read
again as it was altered (`ReadsPage.alters`).
-/

set_option autoImplicit false

namespace VisibleText.Markup

open VisibleText.Text (after?)

/-! ## Fences -/

/-- A fence up to the end of its line. -/
def IsFence (fence : Text) : Prop :=
  ∃ blanks : Text, blanks.all (fun c => c.isAmong [' ', '\t']) = true ∧
    fence = text "---" ++ blanks

theorem fenceBlanks_of_all {blanks rest : Text}
    (hblanks : blanks.all (fun c => c.isAmong [' ', '\t']) = true)
    (hrest : ∀ c, rest.head? = some c → c.isAmong [' ', '\t'] = false) :
    fenceBlanks (blanks ++ rest) = (blanks, rest) :=
  span_of_all hblanks hrest

theorem not_mem_of_isFence {fence : Text} (h : IsFence fence) {c : CodePoint}
    (hc : c ≠ .char '-' ∧ c.isAmong [' ', '\t'] = false) : c ∉ fence := by
  obtain ⟨blanks, hblanks, rfl⟩ := h
  rw [List.mem_append, not_or]
  refine ⟨by simp [text, hc.1], fun hmem => ?_⟩
  have hblank := List.all_eq_true.1 hblanks c hmem
  rw [hc.2] at hblank
  cases hblank

/-- An opening fence is a line of its own, or what the page ends with. -/
theorem openingFence?_eq_some_iff {t fence rest : Text} :
    openingFence? t = some (fence, rest) ↔ t = fence ++ rest ∧
      ∃ line ending, IsFence line ∧ fence = line ++ ending ∧
        (ending = text "\n" ∨ ending = text "\r\n" ∨ ending = [] ∧ rest = []) := by
  have hafter (behind : Text) : after? (text "---") (text "---" ++ behind) = some behind :=
    after?_eq_some_iff.2 rfl
  constructor
  · intro h
    refine ⟨(openingFence?_eq_append h).1, ?_⟩
    obtain ⟨behind, -, h⟩ := Option.bind_eq_some_iff.1 h
    generalize hspan : fenceBlanks behind = found at h
    obtain ⟨blanks, rest'⟩ := found
    have hblanks := (of_span_eq hspan).1
    simp only at h
    -- the page ends behind the blanks, or the line does
    split at h
    · cases h
      exact ⟨_, [], ⟨_, hblanks, rfl⟩, (List.append_nil _).symm, .inr (.inr ⟨rfl, rfl⟩)⟩
    · cases h
      exact ⟨_, _, ⟨_, hblanks, rfl⟩, rfl, .inl rfl⟩
    · cases h
      exact ⟨_, _, ⟨_, hblanks, rfl⟩, rfl, .inr (.inl rfl)⟩
    · cases h
  · rintro ⟨rfl, line, ending, ⟨blanks, hblanks, rfl⟩, rfl, hending⟩
    rw [openingFence?, List.append_assoc, List.append_assoc, hafter, Option.bind_eq_bind,
      Option.bind_some]
    rcases hending with rfl | rfl | ⟨rfl, rfl⟩
    · rw [fenceBlanks_of_all hblanks (by rintro c ⟨⟩; rfl)]
      rfl
    · rw [fenceBlanks_of_all hblanks (by rintro c ⟨⟩; rfl)]
      rfl
    · rw [fenceBlanks_of_all hblanks (by rintro c ⟨⟩)]
      simp

/-- A closing fence ends its line; a carriage return belongs to it. -/
theorem closingFence?_eq_some_iff {t fence rest : Text} :
    closingFence? t = some (fence, rest) ↔ t = fence ++ rest ∧
      (∃ line, IsFence line ∧ (fence = line ∨ fence = line ++ text "\r")) ∧
        (rest = [] ∨ rest.head? = some (.char '\n')) := by
  have hafter (behind : Text) : after? (text "---") (text "---" ++ behind) = some behind :=
    after?_eq_some_iff.2 rfl
  constructor
  · intro h
    refine ⟨closingFence?_eq_append h, ?_⟩
    obtain ⟨behind, -, h⟩ := Option.bind_eq_some_iff.1 h
    generalize hspan : fenceBlanks behind = found at h
    obtain ⟨blanks, rest'⟩ := found
    have hblanks := (of_span_eq hspan).1
    simp only at h
    split at h
    · cases h
      exact ⟨⟨_, ⟨_, hblanks, rfl⟩, .inl rfl⟩, .inl rfl⟩
    · cases h
      exact ⟨⟨_, ⟨_, hblanks, rfl⟩, .inl rfl⟩, .inr rfl⟩
    · split at h
      · cases h
        exact ⟨⟨_, ⟨_, hblanks, rfl⟩, .inr rfl⟩, .inl rfl⟩
      · cases h
        exact ⟨⟨_, ⟨_, hblanks, rfl⟩, .inr rfl⟩, .inr rfl⟩
      · cases h
    · cases h
  · rintro ⟨rfl, ⟨_, ⟨blanks, hblanks, rfl⟩, rfl | rfl⟩, hrest⟩
    · rw [closingFence?, List.append_assoc, hafter, Option.bind_eq_bind, Option.bind_some]
      rcases hrest with rfl | hrest
      · rw [fenceBlanks_of_all hblanks (by rintro c ⟨⟩)]
      · obtain ⟨rest, rfl⟩ := List.head?_eq_some_iff.1 hrest
        rw [fenceBlanks_of_all hblanks (by rintro c ⟨⟩; rfl)]
        rfl
    · rw [closingFence?, List.append_assoc, List.append_assoc, hafter, Option.bind_eq_bind,
        Option.bind_some, fenceBlanks_of_all hblanks (by rintro c ⟨⟩; rfl)]
      rcases hrest with rfl | hrest
      · rfl
      · obtain ⟨rest, rfl⟩ := List.head?_eq_some_iff.1 hrest
        rfl

/-! ## Closing fences -/

/-- Whether a closing fence stands somewhere is settled by the end of the line. -/
theorem closingFence?_congr {t t' : Text} (h : Agree (CodePoint.char '\n' = ·) t t')
    (hnone : closingFence? t = none) : closingFence? t' = none := by
  rw [Option.eq_none_iff_forall_ne_some]
  rintro ⟨fence, rest⟩ hsome
  obtain ⟨rfl, ⟨line, hline, hfence⟩, hrest⟩ := closingFence?_eq_some_iff.1 hsome
  -- no line ends within the fence, so the fence stands in the other text too
  have hfeed : CodePoint.char '\n' ∉ fence := by
    have hmem := not_mem_of_isFence hline
      (show CodePoint.char '\n' ≠ .char '-' ∧ _ from ⟨by simp, rfl⟩)
    rcases hfence with rfl | rfl
    · exact hmem
    · rw [List.mem_append, not_or]
      exact ⟨hmem, by simp [text]⟩
  have hstops : ∀ d ∈ fence, ¬ CodePoint.char '\n' = d := fun d hd heq => hfeed (heq ▸ hd)
  rcases hrest with rfl | hrest
  · obtain ⟨c, hmem, rfl⟩ := h.symm.exists_mem
    rw [List.append_nil] at hmem
    exact hfeed hmem
  · obtain ⟨rest, rfl⟩ := List.head?_eq_some_iff.1 hrest
    obtain ⟨behind, rfl⟩ := h.symm.exists_eq_append hstops
    rw [closingFence?_eq_some_iff.2 ⟨rfl, ⟨line, hline, hfence⟩, .inr rfl⟩] at hnone
    cases hnone

/-- A closing fence stands at the start of a line, or behind the first code point. -/
theorem throughClosingFence?_cases {lineStart : Bool} {t code left : Text}
    (h : throughClosingFence? lineStart t = some (code, left)) :
    (lineStart = true ∧ closingFence? t = some (code, left)) ∨
      ((lineStart = true → closingFence? t = none) ∧ ∃ c t' code', t = c :: t' ∧
        code = c :: code' ∧ throughClosingFence? (c = .char '\n') t' = some (code', left)) := by
  unfold throughClosingFence? at h
  split at h
  · next found hfound =>
    cases h
    split at hfound
    · next hstart => exact .inl ⟨hstart, hfound⟩
    · cases hfound
  · next hnone =>
    refine .inr ⟨fun hstart => by rwa [if_pos hstart] at hnone, ?_⟩
    split at h
    · cases h
    · next c t' =>
      split at h
      · next code' left' hcode =>
        cases h
        exact ⟨c, t', code', rfl, rfl, hcode⟩
      · cases h

/-- A closing fence that does not stand at the front stands behind the end of a line. -/
theorem lineFeed_mem_of_throughClosingFence? {t code left : Text}
    (h : throughClosingFence? false t = some (code, left)) : CodePoint.char '\n' ∈ code := by
  induction t generalizing code with
  | nil => cases h
  | cons c t ih =>
    rcases throughClosingFence?_cases h with ⟨hstart, -⟩ | ⟨-, c, t, code, ⟨⟩, rfl, hcode⟩
    · cases hstart
    · by_cases hc : c = .char '\n'
      · exact hc ▸ .head _
      · rw [decide_eq_false hc] at hcode
        exact .tail _ (ih hcode)

theorem lineFeed_of_throughClosingFence? {lineStart : Bool} {t code left : Text}
    (h : throughClosingFence? lineStart t = some (code, left)) :
    left = [] ∨ left.head? = some (.char '\n') := by
  induction t generalizing lineStart code with
  | nil =>
    rcases throughClosingFence?_cases h with ⟨-, hfence⟩ | ⟨-, _, _, _, ⟨⟩, -⟩
    exact (closingFence?_eq_some_iff.1 hfence).2.2
  | cons c t ih =>
    rcases throughClosingFence?_cases h with ⟨-, hfence⟩ | ⟨-, _, _, _, ⟨⟩, -, hcode⟩
    · exact (closingFence?_eq_some_iff.1 hfence).2.2
    · exact ih hcode

/-- The closing fence is found again in front of whatever its line ends with. -/
theorem throughClosingFence?_local {lineStart : Bool} {t code left left' : Text}
    (h : throughClosingFence? lineStart t = some (code, left)) (hhead : left'.head? = left.head?) :
    throughClosingFence? lineStart (code ++ left') = some (code, left') := by
  have hends : left' = [] ∨ left'.head? = some (.char '\n') := by
    rcases lineFeed_of_throughClosingFence? h with rfl | hleft
    · exact .inl (List.head?_eq_none_iff.1 hhead)
    · exact .inr (hhead.trans hleft)
  have here {t code : Text} (hfence : closingFence? t = some (code, left)) :
      throughClosingFence? true (code ++ left') = some (code, left') := by
    have hlocal : closingFence? (code ++ left') = some (code, left') :=
      closingFence?_eq_some_iff.2 ⟨rfl, (closingFence?_eq_some_iff.1 hfence).2.1, hends⟩
    unfold throughClosingFence?
    rw [if_pos rfl, hlocal]
  induction t generalizing lineStart code with
  | nil =>
    rcases throughClosingFence?_cases h with ⟨rfl, hfence⟩ | ⟨-, _, _, _, ⟨⟩, -⟩
    exact here hfence
  | cons c t ih =>
    have happend := throughClosingFence?_eq_append h
    rcases throughClosingFence?_cases h with ⟨rfl, hfence⟩ | ⟨hnone, _, _, code, ⟨⟩, rfl, hcode⟩
    · exact here hfence
    · -- no closing fence stood here, and the line has not changed
      have hnone' : (if lineStart then closingFence? (c :: code ++ left') else none) = none := by
        cases lineStart with
        | false => rfl
        | true =>
          have hfeed : CodePoint.char '\n' ∈ c :: code := by
            by_cases hc : c = .char '\n'
            · exact hc ▸ .head _
            · rw [decide_eq_false hc] at hcode
              exact .tail _ (lineFeed_mem_of_throughClosingFence? hcode)
          rw [if_pos rfl]
          refine closingFence?_congr ?_ (hnone rfl)
          rw [happend]
          exact Agree.of_mem hfeed rfl _ _
      rw [List.cons_append] at hnone' ⊢
      rw [throughClosingFence?, hnone']
      simp only [ih hcode]

/-! ## Frontmatter -/

/-- The nodes that frontmatter is, with the blanks before it. -/
def frontNodes (blanks value : Text) : List Node :=
  (if blanks.isEmpty then [] else [.text blanks]) ++ [.frontmatter value]

/-- A page with frontmatter: blanks, the opening fence, the code with the closing fence, and what
is left. -/
structure Fenced (blanks fence code left : Text) : Prop where
  blank : blanks.all CodePoint.isBlank = true
  opening : ∃ line ending, IsFence line ∧ fence = line ++ ending ∧
    (ending = text "\n" ∨ ending = text "\r\n")
  closing : throughClosingFence? true (code ++ left) = some (code, left)

section Fenced

variable {blanks fence code left : Text}

theorem nodesSource_frontNodes (blanks value : Text) :
    nodesSource (frontNodes blanks value) = blanks ++ value := by
  unfold frontNodes
  split
  · next hempty => simp [nodesSource, Node.source, List.isEmpty_iff.1 hempty]
  · simp [nodesSource, Node.source]

theorem Fenced.source_ne (h : Fenced blanks fence code left) : fence ++ code ≠ [] := by
  obtain ⟨-, ⟨line, ending, ⟨blanks', -, rfl⟩, rfl, -⟩, -⟩ := h
  simp [text]

theorem Fenced.with_left (h : Fenced blanks fence code left) {left' : Text}
    (hhead : left'.head? = left.head?) : Fenced blanks fence code left' :=
  ⟨h.blank, h.opening, throughClosingFence?_local h.closing hhead⟩

theorem Fenced.readFrontmatter (h : Fenced blanks fence code left) :
    readFrontmatter (blanks ++ (fence ++ (code ++ left))) =
      .ok ⟨frontNodes blanks (fence ++ code), left⟩ := by
  obtain ⟨hblanks, ⟨line, ending, hline, hfence, hending⟩, hclosing⟩ := h
  have hopening : openingFence? (fence ++ (code ++ left)) = some (fence, code ++ left) :=
    openingFence?_eq_some_iff.2 ⟨rfl, line, ending, hline, hfence,
      hending.imp_right .inl⟩
  have hspan : List.span CodePoint.isBlank (blanks ++ (fence ++ (code ++ left))) =
      (blanks, fence ++ (code ++ left)) := by
    refine span_of_all hblanks fun c hc => ?_
    obtain ⟨blanks', -, rfl⟩ := hline
    rw [hfence] at hc
    cases hc
    rfl
  have hlast : fence.getLast? = some (.char '\n') := by
    rw [hfence]
    rcases hending with rfl | rfl <;> simp [text]
  rw [Markup.readFrontmatter, hspan]
  simp only [hopening, hlast, decide_true, hclosing]
  rfl

theorem readFrontmatter_of_none {page : Text}
    (hnone : openingFence? (page.dropWhile CodePoint.isBlank) = none) :
    Markup.readFrontmatter page = .ok ⟨[], page⟩ := by
  rw [Markup.readFrontmatter, List.span_eq_takeWhile_dropWhile]
  simp only [hnone]

/-- A page has no frontmatter, or it is fenced. -/
theorem readFrontmatter_cases {page : Text} {taken : Taken (List Node)}
    (h : readFrontmatter page = .ok taken) :
    (openingFence? (page.dropWhile CodePoint.isBlank) = none ∧ taken = ⟨[], page⟩) ∨
      ∃ blanks fence code, Fenced blanks fence code taken.left ∧
        page = blanks ++ (fence ++ (code ++ taken.left)) ∧
          taken.value = frontNodes blanks (fence ++ code) := by
  unfold Markup.readFrontmatter at h
  generalize hspan : page.span CodePoint.isBlank = cut at h
  obtain ⟨blanks, rest⟩ := cut
  have hpage := span_append CodePoint.isBlank page
  rw [hspan] at hpage
  simp only at h hpage
  split at h
  · next hnone =>
    cases h
    rw [List.span_eq_takeWhile_dropWhile] at hspan
    cases hspan
    exact .inl ⟨hnone, rfl⟩
  · next fence code hopen =>
    obtain ⟨hrest, line, ending, hline, hfence, hending⟩ := openingFence?_eq_some_iff.1 hopen
    split at h
    · cases h
    · next code' left hclose =>
      cases h
      have hcode := throughClosingFence?_eq_append hclose
      have hending' : ending = text "\n" ∨ ending = text "\r\n" := by
        rcases hending with hending | hending | ⟨-, rfl⟩
        · exact .inl hending
        · exact .inr hending
        · -- nothing stands behind the opening fence, so no closing fence does
          rcases throughClosingFence?_cases hclose with ⟨-, hclose⟩ | ⟨-, _, _, _, ⟨⟩, -⟩
          cases hclose
      have hlast : fence.getLast? = some (.char '\n') := by
        rw [hfence]
        rcases hending' with rfl | rfl <;> simp [text]
      rw [hlast, decide_eq_true rfl, hcode] at hclose
      rw [hrest, hcode] at hpage
      exact .inr ⟨blanks, fence, code', ⟨(of_span_eq hspan).1, ⟨line, ending, hline, hfence,
        hending'⟩, hclose⟩, hpage.symm, rfl⟩

end Fenced

/-! ## Altered pages -/

open VisibleText.Document (Alters AltersAmong Revision)

/-- No opening fence reaches over a brace or an angle bracket. -/
theorem openingFence?_of_append (run : Text) {rest t : Text} {c : CodePoint}
    (hc : c = .char '{' ∨ c = .char '<')
    (hnone : openingFence? ((run ++ rest).dropWhile CodePoint.isBlank) = none) :
    openingFence? ((run ++ c :: t).dropWhile CodePoint.isBlank) = none := by
  rw [List.dropWhile_append] at hnone ⊢
  split
  · rcases hc with rfl | rfl <;> rfl
  · next hrun =>
    rw [if_neg hrun] at hnone
    generalize run.dropWhile CodePoint.isBlank = run at hnone
    rw [Option.eq_none_iff_forall_ne_some]
    rintro ⟨fence, behind⟩ hsome
    obtain ⟨hsplit, line, ending, hline, hfence, hending⟩ := openingFence?_eq_some_iff.1 hsome
    have hmem : c ∉ fence := by
      have hc' : c ≠ .char '-' ∧ c.isAmong [' ', '\t'] = false := by
        rcases hc with rfl | rfl <;> exact ⟨by simp, rfl⟩
      have hline := not_mem_of_isFence hline hc'
      rw [hfence, List.mem_append, not_or]
      refine ⟨hline, ?_⟩
      rcases hc with rfl | rfl <;> rcases hending with rfl | rfl | ⟨rfl, -⟩ <;> simp [text]
    -- the fence lies before the mark, so the page had it before
    obtain ⟨more, rfl⟩ : ∃ more, run = fence ++ more := by
      rcases List.append_eq_append_iff.1 hsplit with ⟨more, hfence', hmore⟩ | ⟨more, hrun', -⟩
      · cases more with
        | nil => exact ⟨[], by simpa using hfence'.symm⟩
        | cons d more =>
          rw [hfence', ← (List.cons.inj hmore).1] at hmem
          exact absurd (List.mem_append_right _ (.head _)) hmem
      · exact ⟨more, hrun'⟩
    have hending' : ending = text "\n" ∨ ending = text "\r\n" ∨
        ending = [] ∧ more ++ rest = [] := by
      refine hending.imp_right (Or.imp_right ?_)
      rintro ⟨-, rfl⟩
      simp at hsplit
    rw [openingFence?_eq_some_iff.2 ⟨List.append_assoc .., line, ending, hline, hfence, hending'⟩]
      at hnone
    cases hnone

variable {inner : Readers} {opened : List Text}

/-- What is read next is a text, or starts with a brace or an angle bracket. -/
theorem exists_start_of_readItem (hinner : inner.Local) {left rest : Text} {node : Node}
    (h : readItem inner opened left = .ok ⟨.node node, rest⟩) :
    (∃ run, node = .text run) ∨
      ∃ c t, node.source = c :: t ∧ (c = .char '{' ∨ c = .char '<') := by
  rcases readItem_node_cases h with ⟨_, rfl, -⟩ | ⟨_, rfl, -, -⟩ | ⟨-, hnode⟩ | ⟨_, rfl, -, -⟩ |
    ⟨run, rfl, -⟩
  · exact .inr ⟨_, _, rfl, .inr rfl⟩
  · exact .inr ⟨_, _, rfl, .inr rfl⟩
  · obtain ⟨c, t, hsource⟩ := node.exists_source_of_isTag (hinner.isTag hnode)
    exact .inr ⟨_, _, hsource, .inr rfl⟩
  · exact .inr ⟨_, _, rfl, .inl rfl⟩
  · exact .inl ⟨run, rfl⟩

section Levels

variable {levels : Nat}

theorem nodesSource_ne_of_alters {r : Revision} {position : Nat} {nodes nodes' : List Node}
    (h : AltersAmong r position nodes nodes') (hr : Readable r)
    (hnodes : ∀ node ∈ nodes, node.source ≠ []) : nodesSource nodes' ≠ [] := by
  cases h with
  | head first => exact List.append_ne_nil_of_left_ne_nil (source_ne_of_alters hr first) _
  | tail => exact List.append_ne_nil_of_left_ne_nil (hnodes _ (.head _)) _

theorem ReadsAll.source_ne {left rest : Text} {nodes : List Node} (h : ReadsAll left nodes rest) :
    ∀ node ∈ nodes, node.source ≠ [] := by
  induction nodes generalizing left with
  | nil => exact fun _ hnode => absurd hnode List.not_mem_nil
  | cons node nodes ih =>
    cases h with
    | cons head tail => exact List.forall_mem_cons.2 ⟨head.source_ne, ih tail⟩

/-- A page without frontmatter has none either behind an alteration, but for one of the text that
it starts with. -/
theorem openingFence?_of_alters {r : Revision} (hr : Readable r) {position steps : Nat}
    {page left : Text} {content : Content} {nodes' : List Node} (hlength : page.length ≤ steps)
    (hcontent : readContent (readers levels) opened steps page = .ok ⟨content, left⟩)
    (halters : AltersAmong r position content.nodes nodes')
    (hstart : r.kind = .text → position ≠ r.start)
    (hnone : openingFence? (page.dropWhile CodePoint.isBlank) = none) :
    openingFence? ((nodesSource nodes').dropWhile CodePoint.isBlank) = none := by
  have hlocal := readers_local levels
  rcases readContent_cases hlength hcontent with ⟨-, ⟨⟩⟩ | ⟨_, -, rfl⟩ | ⟨-, rfl⟩ |
    ⟨node, rest, content, steps', left_ne, rfl, hnode, hcontent', rfl⟩
  · cases halters
  · cases halters
  · cases halters
  · have hread : Reads page node rest := readItem_read (readers_faithful levels) left_ne hnode
    have hpage := hread.eq_append
    have hshort := hread.length_lt
    cases halters with
    | @head _ _ node' nodes first =>
      obtain ⟨t, hsource⟩ : ∃ t, node'.source = .char '<' :: t := by
        cases first with
        | text revises =>
          exact absurd (congrArg Revision.start revises).symm
            (hstart (congrArg Revision.kind revises))
        | quoted | child | fragment => exact ⟨_, rfl⟩
      rw [nodesSource, hsource]
      exact openingFence?_of_append [] (.inr rfl) hnone
    | @tail _ _ _ nodes' apart others =>
      rw [nodesSource]
      rw [hpage] at hnone
      rcases exists_start_of_readItem hlocal hnode with ⟨run, rfl⟩ | ⟨c, t, hsource, hc⟩
      · -- the text ends where markup starts
        have hends := textEnds_of_alters (by omega) (textEnds_of_readItem hlocal hnode) hcontent'
          others (fun hkind => apart hkind run rfl) []
        rw [List.append_nil] at hends
        rcases hends.head_cases with hnil | ⟨t, ht⟩ | ⟨c, t, ht, -⟩
        · have hnodes := (readContent_reads (readers_faithful levels) opened _ _ _ (by omega)
            hcontent').1.source_ne
          exact absurd hnil (nodesSource_ne_of_alters others hr hnodes)
        · rw [ht]
          exact openingFence?_of_append _ (.inl rfl) hnone
        · rw [ht]
          exact openingFence?_of_append _ (.inr rfl) hnone
      · rw [hsource, List.cons_append] at hnone ⊢
        exact openingFence?_of_append [] hc hnone

/-- An altered page starts as before, unless the text that it starts with was altered. -/
theorem head?_of_alters {r : Revision} {position : Nat} {nodes nodes' : List Node}
    (h : AltersAmong r position nodes nodes') (hnodes : ∀ node ∈ nodes, node.source ≠ [])
    (hstart : r.kind = .text → position = r.start →
      r.new.head? = (nodesSource nodes).head?) (hr : Readable r) :
    (nodesSource nodes').head? = (nodesSource nodes).head? := by
  have hhead {t : Text} (t_ne : t ≠ []) (behind behind' : Text) :
      (t ++ behind').head? = (t ++ behind).head? := by
    rw [List.head?_append_of_ne_nil _ t_ne, List.head?_append_of_ne_nil _ t_ne]
  cases h with
  | head first =>
    cases first with
    | text revises =>
      have hkind := congrArg Revision.kind revises
      rw [← hstart hkind (congrArg Revision.start revises).symm, nodesSource, Node.source,
        List.head?_append_of_ne_nil _ (hr hkind).ne_nil]
    | quoted | child | fragment => rfl
  | tail => exact hhead (hnodes _ (.head _)) _ _

end Levels

theorem frontmatter_not_mem_of_readContent {levels : Nat} :
    ∀ (steps : Nat) (left : Text) (taken : Taken Content), left.length ≤ steps →
      readContent (readers levels) opened steps left = .ok taken →
        ∀ value, .frontmatter value ∉ taken.value.nodes := by
  intro steps
  induction steps using Nat.strongRecOn with
  | ind steps ih =>
    intro left taken hlength h value hmem
    rcases readContent_cases hlength h with ⟨-, rfl⟩ | ⟨_, -, hvalue⟩ | ⟨-, hvalue⟩ |
      ⟨node, rest, content, steps', left_ne, rfl, hnode, hcontent, hvalue⟩
    · cases hmem
    · rw [hvalue] at hmem
      cases hmem
    · rw [hvalue] at hmem
      cases hmem
    · have hread : Reads left node rest := readItem_read (readers_faithful levels) left_ne hnode
      have hshort := hread.length_lt
      rw [hvalue] at hmem
      rcases List.mem_cons.1 hmem with rfl | hmem
      · -- no reader of an item gives frontmatter
        rcases readItem_node_cases hnode with ⟨_, heq, -⟩ | ⟨_, heq, -, -⟩ | ⟨-, htag⟩ |
          ⟨_, heq, -, -⟩ | ⟨_, heq, -⟩
        · cases heq
        · cases heq
        · cases (readers_local levels).isTag htag
        · cases heq
        · cases heq
      · exact ih steps' (Nat.lt_succ_self _) rest ⟨content, taken.left⟩ (by omega) hcontent value
          hmem

theorem nodesSource_append (before after : List Node) :
    nodesSource (before ++ after) = nodesSource before ++ nodesSource after := by
  induction before with
  | nil => rfl
  | cons node before ih =>
    rw [List.cons_append, nodesSource, ih, nodesSource, List.append_assoc]

/-- A page is read as its frontmatter, with the blanks before it, and the nodes behind that. -/
structure ReadsPage (page : Text) (front nodes : List Node) : Prop where
  front : readFrontmatter page = .ok ⟨front, nodesSource nodes⟩
  content : readContent (readers nestingLimit) [] (nodesSource nodes).length (nodesSource nodes) =
    .ok ⟨⟨nodes, none⟩, []⟩

namespace ReadsPage

variable {page : Text} {front nodes : List Node}

theorem reads (h : ReadsPage page front nodes) : ReadsAll (nodesSource nodes) nodes [] :=
  (readContent_reads (readers_faithful nestingLimit) [] _ _ _ (Nat.le_refl _) h.content).1

theorem readPage (h : ReadsPage page front nodes) : readPage page = .ok (front ++ nodes) := by
  rw [Markup.readPage, h.front]
  exact bind_eq_of_eq_ok h.content

/-- Frontmatter is read only at the start of a page. -/
theorem frontmatter_not_mem (h : ReadsPage page front nodes) (value : Text) :
    .frontmatter value ∉ nodes :=
  frontmatter_not_mem_of_readContent _ _ _ (Nat.le_refl _) h.content value

end ReadsPage

theorem exists_readsPage {page : Text} {nodes : List Node} (h : readPage page = .ok nodes) :
    ∃ front content, ReadsPage page front content ∧ nodes = front ++ content := by
  obtain ⟨⟨front, rest⟩, hfront, h⟩ := exists_of_bind_eq_ok h
  obtain ⟨⟨⟨content, closing⟩, left⟩, hcontent, h⟩ := exists_of_bind_eq_ok h
  cases h
  obtain ⟨hreads, hend⟩ := readContent_reads (readers_faithful nestingLimit) [] _ _ _
    (Nat.le_refl _) hcontent
  obtain ⟨rfl, rfl⟩ := hend rfl
  have hrest := hreads.eq_append
  simp only [closingSource, List.append_nil] at hrest hcontent
  rw [hrest] at hfront hcontent
  exact ⟨front, content, ⟨hfront, hcontent⟩, rfl⟩

/-- An altered page is read as it was altered, if it starts with frontmatter just if it did before,
and the line of the closing fence ends as before. -/
theorem ReadsPage.alters {r : Revision} (hr : Readable r) {page : Text}
    {front nodes nodes' : List Node} (h : ReadsPage page front nodes)
    (halters : AltersAmong r (nodesSource front).width nodes nodes')
    (hstart : r.kind = .text → front = [] → r.start = 0 →
      openingFence? ((nodesSource nodes').dropWhile CodePoint.isBlank) = none)
    (hbehind : r.kind = .text → front ≠ [] → r.start = (nodesSource front).width →
      r.new.head? = some (.char '\n')) :
    ReadsPage (nodesSource front ++ nodesSource nodes') front nodes' := by
  have hcontent' := readContent_alters (readers_rereads nestingLimit) hr _ _ _ (Nat.le_refl _)
    h.content _ nodes' halters _ (Nat.le_refl _)
  simp only [closingSource, List.append_nil] at hcontent'
  refine ⟨?_, hcontent'⟩
  rcases readFrontmatter_cases h.front with ⟨hnone, heq⟩ | ⟨blanks, fence, code, hfenced, -, hfront⟩
  · -- there was no frontmatter, and none has come about
    obtain ⟨rfl, rfl⟩ := Taken.mk.inj heq
    refine readFrontmatter_of_none ?_
    by_cases hmoved : r.kind = .text ∧ r.start = 0
    · exact hstart hmoved.1 rfl hmoved.2
    · exact openingFence?_of_alters hr (Nat.le_refl _) h.content halters
        (fun hkind hzero => hmoved ⟨hkind, hzero.symm⟩) hnone
  · -- the frontmatter ends where it did, as the line of its fence does
    simp only at hfront hfenced
    rw [hfront] at halters hbehind ⊢
    have hhead : (nodesSource nodes').head? = (nodesSource nodes).head? := by
      refine head?_of_alters halters h.reads.source_ne (fun hkind heq => ?_) hr
      rw [hbehind hkind (by simp [frontNodes]) heq.symm]
      rcases lineFeed_of_throughClosingFence? hfenced.closing with hnil | hfeed
      · have hcontent := h.content
        rw [hnil, readContent_nil] at hcontent
        cases hcontent
        cases halters
      · exact hfeed.symm
    rw [nodesSource_frontNodes, List.append_assoc, List.append_assoc]
    exact (hfenced.with_left hhead).readFrontmatter

end VisibleText.Markup
