import VisibleText.Site.Content
import VisibleText.Proofs.Pieces
import VisibleText.Proofs.SiteRevision

/-!
# The collections of a page and its frontmatter

The collections that a page reads are looked for between two fences that are found without reading
the page. Where these are the fences of the frontmatter that the page is read with, the collections
are the ones called in the frontmatter (`Page.collections_eq_iff_plain`); and a page without
frontmatter reads none.

The two ways of finding fences agree only on plain ones. Blanks may stand before and behind an
opening fence when a page is read, a closing fence may follow it at once, and a line that starts
with three hyphens need not be a fence (`Page.not_forall_collections_eq`).
-/

set_option autoImplicit false

namespace VisibleText.Page

open VisibleText.Text (after? cutAt?)
open VisibleText.Markup (after?_eq_some_iff)

/-! ## Calls -/

/-- A call that reads a collection, as it is written from its first letter to the quote behind the
name. -/
structure IsCall (call name : Text) : Prop where
  written : ∃ reader blanks blanks' opening closing, reader ∈ readers ∧
    blanks.all CodePoint.isBlank = true ∧ blanks'.all CodePoint.isBlank = true ∧
      opening.isAmong ['\'', '"'] = true ∧ closing.isAmong ['\'', '"'] = true ∧
        call = reader ++ (blanks ++ .char '(' :: (blanks' ++ opening :: (name ++ [closing])))
  name_ne : name ≠ []
  word : name.all CodePoint.isWordPart = true

/-- A reader is found where its name stands. -/
theorem findSome?_readers {t rest : Text} :
    (readers.findSome? fun reader => after? reader t) = some rest ↔
      ∃ reader ∈ readers, t = reader ++ rest := by
  constructor
  · intro h
    obtain ⟨reader, hreader, hafter⟩ := List.exists_of_findSome?_eq_some h
    exact ⟨reader, hreader, (after?_eq_some_iff.1 hafter).symm⟩
  · rintro ⟨reader, hreader, rfl⟩
    rcases List.mem_cons.1 hreader with rfl | hreader
    · simp [readers, text, after?, List.isPrefixOf?]
    · obtain rfl := List.mem_singleton.1 hreader
      simp [readers, text, after?, List.isPrefixOf?]

theorem isAmong_quotes {c : CodePoint} (h : c.isAmong ['\'', '"'] = true) :
    c = .char '\'' ∨ c = .char '"' := by
  cases c with
  | surrogate s => cases h
  | char c => simpa [CodePoint.isAmong] using h

theorem not_isWordPart_of_quote {c : CodePoint} (h : c.isAmong ['\'', '"'] = true) :
    c.isWordPart = false ∧ c.isBlank = false := by
  rcases isAmong_quotes h with rfl | rfl <;> decide

theorem trimStart_append {blanks : Text} (hblanks : blanks.all CodePoint.isBlank = true)
    {c : CodePoint} (hc : c.isBlank = false) (t : Text) :
    Text.trimStart (blanks ++ c :: t) = c :: t := by
  rw [Text.trimStart, List.dropWhile_append_of_pos (List.all_eq_true.1 hblanks),
    List.dropWhile_cons_of_neg (by simp [hc])]

theorem exists_blanks_append (t : Text) :
    ∃ blanks : Text, blanks.all CodePoint.isBlank = true ∧ t = blanks ++ Text.trimStart t :=
  ⟨t.takeWhile CodePoint.isBlank, List.all_takeWhile, List.takeWhile_append_dropWhile.symm⟩

/-- A name between quotes is read up to the quote behind it. -/
theorem exists_of_quoted {opening : CodePoint} {t : Text}
    (name_ne : t.takeWhile CodePoint.isWordPart ≠ [])
    (hclosing : startsWithQuote (t.drop (t.takeWhile CodePoint.isWordPart).length) = true) :
    ∃ name closing rest, name = t.takeWhile CodePoint.isWordPart ∧ name ≠ [] ∧
      name.all CodePoint.isWordPart = true ∧ closing.isAmong ['\'', '"'] = true ∧
        opening :: t = opening :: (name ++ [closing]) ++ rest := by
  have ht : t.takeWhile CodePoint.isWordPart ++ t.drop (t.takeWhile CodePoint.isWordPart).length =
      t := List.prefix_iff_eq_append.1 (List.takeWhile_prefix _)
  have hword : (t.takeWhile CodePoint.isWordPart).all CodePoint.isWordPart = true :=
    List.all_takeWhile
  generalize t.drop (t.takeWhile CodePoint.isWordPart).length = closed at ht hclosing
  cases closed with
  | nil => cases hclosing
  | cons closing rest =>
    refine ⟨_, closing, rest, rfl, name_ne, hword, hclosing, ?_⟩
    rw [List.cons_append, List.append_assoc, List.singleton_append, ht]

theorem exists_call_of_collectionAt? {t name : Text} (h : collectionAt? t = some name) :
    ∃ call rest, IsCall call name ∧ t = call ++ rest := by
  obtain ⟨behind, hfound, hbehind⟩ := Option.bind_eq_some_iff.1 h
  obtain ⟨reader, hreader, rfl⟩ := findSome?_readers.1 hfound
  obtain ⟨inside, hopen, hinside⟩ := Option.bind_eq_some_iff.1 hbehind
  obtain ⟨blanks, hblanks, hcutBehind⟩ := exists_blanks_append behind
  obtain ⟨blanks', hblanks', hcutInside⟩ := exists_blanks_append inside
  have hbracket : Text.trimStart behind = .char '(' :: inside :=
    (after?_eq_some_iff.1 hopen).symm
  rw [hcutBehind, hbracket, hcutInside]
  generalize Text.trimStart inside = quoted at hinside ⊢
  simp only at hinside
  split at hinside
  · next hquotes =>
    simp only [Bool.and_eq_true, Bool.not_eq_true', List.isEmpty_eq_false_iff] at hquotes
    obtain ⟨⟨hopening, name_ne⟩, hclosing⟩ := hquotes
    cases quoted with
    | nil => cases hopening
    | cons opening u =>
      simp only [Nat.add_comm 1, List.drop_succ_cons, List.drop_zero] at hinside name_ne hclosing
      obtain ⟨name', closing, rest, hname, name_ne', hword, hclosing', hquoted⟩ :=
        exists_of_quoted name_ne hclosing
      rw [← hname, Option.some_inj] at hinside
      subst hinside
      refine ⟨_, rest, ⟨⟨reader, blanks, blanks', opening, closing, hreader, hblanks, hblanks',
        hopening, hclosing', rfl⟩, name_ne', hword⟩, ?_⟩
      rw [hquoted]
      simp
  · cases hinside

theorem collectionAt?_of_isCall {call name : Text} (h : IsCall call name) (rest : Text) :
    collectionAt? (call ++ rest) = some name := by
  obtain ⟨⟨reader, blanks, blanks', opening, closing, hreader, hblanks, hblanks', hopening,
    hclosing, rfl⟩, name_ne, hword⟩ := h
  have hname : (name ++ closing :: rest).takeWhile CodePoint.isWordPart = name := by
    rw [List.takeWhile_append_of_pos (List.all_eq_true.1 hword),
      List.takeWhile_cons_of_neg (by simp [(not_isWordPart_of_quote hclosing).1]),
      List.append_nil]
  have hinside : Text.trimStart (blanks' ++ opening :: (name ++ closing :: rest)) =
      opening :: (name ++ closing :: rest) :=
    trimStart_append hblanks' (not_isWordPart_of_quote hopening).2 _
  have hbracket (u : Text) : after? (text "(") (.char '(' :: u) = some u :=
    after?_eq_some_iff.2 rfl
  simp only [List.append_assoc, List.cons_append, List.nil_append]
  rw [collectionAt?, findSome?_readers.2 ⟨reader, hreader, rfl⟩, Option.bind_eq_bind,
    Option.bind_some, trimStart_append hblanks (by decide), hbracket, Option.bind_some, hinside]
  simp [hname, startsWithQuote, hopening, hclosing, name_ne, Nat.add_comm 1]

/-- A collection is read at the start of a text just if a call stands there. -/
theorem collectionAt?_eq_some_iff {t name : Text} :
    collectionAt? t = some name ↔ ∃ call rest, IsCall call name ∧ t = call ++ rest := by
  constructor
  · exact exists_call_of_collectionAt?
  · rintro ⟨call, rest, hcall, rfl⟩
    exact collectionAt?_of_isCall hcall rest

theorem IsCall.ends {call name : Text} (h : IsCall call name) :
    call.head? = some (.char 'g') ∧
      ∃ front closing, call = front ++ [closing] ∧ closing.isAmong ['\'', '"'] = true := by
  obtain ⟨⟨reader, blanks, blanks', opening, closing, hreader, -, -, -, hclosing, rfl⟩, -, -⟩ := h
  refine ⟨?_, reader ++ (blanks ++ .char '(' :: (blanks' ++ opening :: name)), closing, by simp,
    hclosing⟩
  rcases List.mem_cons.1 hreader with rfl | hreader
  · rfl
  · obtain rfl := List.mem_singleton.1 hreader
    rfl

/-- No call reaches into a text without quotes. -/
theorem collectionAt?_append (t : Text) {rest : Text}
    (hrest : ∀ c ∈ rest, c.isAmong ['\'', '"'] = false) :
    collectionAt? (t ++ rest) = collectionAt? t := by
  refine Option.ext fun name => ?_
  rw [collectionAt?_eq_some_iff, collectionAt?_eq_some_iff]
  constructor
  · rintro ⟨call, behind, hcall, hsplit⟩
    obtain ⟨-, front, closing, rfl, hclosing⟩ := hcall.ends
    rcases List.append_eq_append_iff.1 hsplit with ⟨more, hmore, hbehind⟩ | ⟨more, rfl, -⟩
    · -- what reaches into the rest ends in a quote
      rcases List.eq_nil_or_concat more with rfl | ⟨more, last, rfl⟩
      · exact ⟨_, [], hcall, by simpa using hmore.symm⟩
      · rw [List.concat_eq_append] at hmore hbehind
        rw [← List.append_assoc] at hmore
        obtain ⟨-, hlast⟩ := List.append_inj' hmore rfl
        obtain rfl := List.singleton_injective hlast
        have hquote := hrest closing (by simp [hbehind])
        rw [hclosing] at hquote
        cases hquote
    · exact ⟨_, more, hcall, rfl⟩
  · rintro ⟨call, behind, hcall, rfl⟩
    exact ⟨call, behind ++ rest, hcall, List.append_assoc ..⟩

theorem collectionAt?_of_head {c : CodePoint} (hc : c ≠ .char 'g') (t : Text) :
    collectionAt? (c :: t) = none := by
  rw [Option.eq_none_iff_forall_ne_some]
  intro name h
  obtain ⟨call, rest, hcall, hsplit⟩ := collectionAt?_eq_some_iff.1 h
  obtain ⟨u, rfl⟩ := List.head?_eq_some_iff.1 hcall.ends.1
  exact hc (List.cons.inj hsplit).1

/-- Nothing is called in a text without the letter that calls start with. -/
theorem collectionsIn_behind {front : Text} (hfront : CodePoint.char 'g' ∉ front)
    (insideWord : Bool) (t : Text) :
    collectionsIn insideWord (front ++ t) =
      collectionsIn ((front.getLast?.map CodePoint.isWordPart).getD insideWord) t := by
  induction front generalizing insideWord with
  | nil => rfl
  | cons c front ih =>
    rw [List.mem_cons, not_or] at hfront
    have hnone : (if insideWord then none else collectionAt? (c :: (front ++ t))) = none := by
      rw [collectionAt?_of_head (Ne.symm hfront.1), ite_self]
    rw [List.cons_append, collectionsIn, hnone, ih hfront.2]
    cases front with
    | nil => rfl
    | cons d front =>
      rw [List.getLast?_cons_cons]
      have hlast := List.getLast?_eq_some_getLast (List.cons_ne_nil d front)
      rw [hlast]
      rfl

theorem collectionsIn_append (insideWord : Bool) (t : Text) {rest : Text}
    (hletter : CodePoint.char 'g' ∉ rest) (hrest : ∀ c ∈ rest, c.isAmong ['\'', '"'] = false) :
    collectionsIn insideWord (t ++ rest) = collectionsIn insideWord t := by
  induction t generalizing insideWord with
  | nil =>
    have hnil := collectionsIn_behind hletter insideWord []
    rw [List.append_nil] at hnil
    rw [List.nil_append, hnil]
    rfl
  | cons c t ih =>
    have hat : collectionAt? (c :: (t ++ rest)) = collectionAt? (c :: t) :=
      collectionAt?_append (c :: t) hrest
    rw [List.cons_append, collectionsIn, hat, ih, collectionsIn]

/-! ## Lines of frontmatter -/

/-- The names in the calls in a text, each once, in the order of the first calls. -/
def named (t : Text) : List Text := (collectionsIn false t).eraseDups

/-- The lines between the first and the last line of frontmatter. -/
def codeLines (value : Text) : List Text := ((value.splitOn (.char '\n')).drop 1).dropLast

/-- What stands between the fences of frontmatter, without a carriage return at its end. -/
def codeOf (value : Text) : Text := withoutReturn (Text.unlines (codeLines value))

/-- Frontmatter with nothing but three hyphens in the line of its opening fence, with lines between
its fences, and with no line among these, but perhaps the first one, that starts like a fence. -/
structure IsPlain (value : Text) : Prop where
  bare : (value.splitOn (.char '\n')).head? = some fence ∨
    (value.splitOn (.char '\n')).head? = some (fence ++ text "\r")
  code_ne : codeLines value ≠ []
  no_fence : ∀ line ∈ (codeLines value).tail, ¬ fence <+: line

/-- The line of a fence: three hyphens, and blanks or a carriage return behind them. -/
def IsFenceLine (t : Text) : Prop :=
  ∃ line, Markup.IsFence line ∧ (t = line ∨ t = line ++ text "\r")

/-- What stands behind the hyphens of a fence. -/
theorem IsFenceLine.exists_behind {t : Text} (h : IsFenceLine t) :
    ∃ behind, t = fence ++ behind ∧
      ∀ c ∈ behind, c = .char ' ' ∨ c = .char '\t' ∨ c = .char '\r' := by
  obtain ⟨line, ⟨blanks, hblanks, rfl⟩, hline⟩ := h
  have hblank (c : CodePoint) (hc : c ∈ blanks) : c = .char ' ' ∨ c = .char '\t' := by
    have hc := List.all_eq_true.1 hblanks c hc
    cases c with
    | surrogate s => cases hc
    | char c => simpa [CodePoint.isAmong] using hc
  rcases hline with rfl | rfl
  · exact ⟨blanks, rfl, fun c hc => (hblank c hc).imp_right .inl⟩
  · refine ⟨blanks ++ text "\r", by simp [fence], fun c hc => ?_⟩
    rcases List.mem_append.1 hc with hc | hc
    · exact (hblank c hc).imp_right .inl
    · obtain rfl := List.mem_singleton.1 hc
      exact .inr (.inr rfl)

/-- The line of a fence has nothing of a call in it. -/
theorem IsFenceLine.not_mem {t : Text} (h : IsFenceLine t) {c : CodePoint} (hc : c ∈ t) :
    c ≠ .char '\n' ∧ c ≠ .char 'g' ∧ c.isAmong ['\'', '"'] = false ∧ c.isWordPart = false := by
  obtain ⟨behind, rfl, hbehind⟩ := h.exists_behind
  rcases List.mem_append.1 hc with hc | hc
  · obtain rfl : c = .char '-' := by simpa [fence, text] using hc
    decide
  · rcases hbehind c hc with rfl | rfl | rfl <;> decide

/-- Where throughClosingFence stops a line of a fence starts. -/
theorem exists_closing {lineStart : Bool} {t code left : Text}
    (h : Markup.throughClosingFence? lineStart t = some (code, left)) :
    (lineStart = true ∧ IsFenceLine code) ∨
      ∃ body closing, code = body ++ newline ++ closing ∧ IsFenceLine closing := by
  induction t generalizing lineStart code with
  | nil =>
    rcases Markup.throughClosingFence?_cases h with ⟨hstart, hclosing⟩ | ⟨-, _, _, _, ⟨⟩, -⟩
    exact .inl ⟨hstart, (Markup.closingFence?_eq_some_iff.1 hclosing).2.1⟩
  | cons c t ih =>
    rcases Markup.throughClosingFence?_cases h with ⟨hstart, hclosing⟩ |
      ⟨-, _, _, code, ⟨⟩, rfl, hcode⟩
    · exact .inl ⟨hstart, (Markup.closingFence?_eq_some_iff.1 hclosing).2.1⟩
    · rcases ih hcode with ⟨hfeed, hclosing⟩ | ⟨body, closing, rfl, hclosing⟩
      · rw [decide_eq_true_eq] at hfeed
        exact .inr ⟨[], code, by rw [hfeed]; rfl, hclosing⟩
      · exact .inr ⟨c :: body, closing, rfl, hclosing⟩

section Lines

variable {opening closing body left : Text}

theorem IsFenceLine.splitOn_eq (h : IsFenceLine closing) :
    closing.splitOn (.char '\n') = [closing] :=
  Text.splitOn_of_not_mem fun hmem => (h.not_mem hmem).1 rfl

theorem IsFenceLine.splitOn_append (h : IsFenceLine opening) (t : Text) :
    Text.splitOn (.char '\n') (opening ++ newline ++ t) = opening :: t.splitOn (.char '\n') := by
  rw [newline, List.append_assoc, List.singleton_append, Text.splitOn_append_cons, h.splitOn_eq]
  rfl

theorem codeLines_of_closing (hopening : IsFenceLine opening) (hclosing : IsFenceLine closing) :
    codeLines (opening ++ newline ++ closing) = [] := by
  rw [codeLines, hopening.splitOn_append, hclosing.splitOn_eq]
  rfl

theorem codeLines_of_body (hopening : IsFenceLine opening) (hclosing : IsFenceLine closing)
    (body : Text) :
    codeLines (opening ++ newline ++ (body ++ newline ++ closing)) =
      body.splitOn (.char '\n') := by
  rw [codeLines, hopening.splitOn_append, newline, List.append_assoc, List.singleton_append,
    Text.splitOn_append_cons, hclosing.splitOn_eq]
  simp

theorem codeOf_of_body (hopening : IsFenceLine opening) (hclosing : IsFenceLine closing)
    (body : Text) :
    codeOf (opening ++ newline ++ (body ++ newline ++ closing)) = withoutReturn body := by
  rw [codeOf, codeLines_of_body hopening hclosing, Text.unlines, newline, Text.join_splitOn]

/-! ## What is called between the fences -/

theorem named_withoutReturn (t : Text) : named (withoutReturn t) = named t := by
  rw [named, named, withoutReturn]
  split
  · next hlast =>
    obtain ⟨front, rfl⟩ := List.getLast?_eq_some_iff.1 hlast
    rw [List.dropLast_concat, collectionsIn_append false front (by simp) (by simp [CodePoint.isAmong])]
  · rfl

/-- All calls in frontmatter stand between its fences. -/
theorem named_codeOf (hopening : IsFenceLine opening) (hclosing : IsFenceLine closing)
    {code : Text} (hcode : code = closing ∨ ∃ body, code = body ++ newline ++ closing) :
    named (opening ++ newline ++ code) = named (codeOf (opening ++ newline ++ code)) := by
  have hbehind (t : Text) : named (opening ++ newline ++ t) = named t := by
    rw [named, collectionsIn_behind, newline, List.getLast?_concat]
    · rfl
    · rw [newline, List.mem_append, not_or]
      exact ⟨fun hmem => (hopening.not_mem hmem).2.1 rfl, by simp⟩
  rw [hbehind]
  rcases hcode with rfl | ⟨body, rfl⟩
  · have hnil : named code = named [] := by
      rw [named, ← List.nil_append code, collectionsIn_append]
      · rfl
      · exact fun hmem => (hclosing.not_mem hmem).2.1 rfl
      · exact fun c hc => (hclosing.not_mem hc).2.2.1
    rw [hnil, codeOf, codeLines_of_closing hopening hclosing]
    rfl
  · rw [codeOf_of_body hopening hclosing, named_withoutReturn, List.append_assoc, named,
      collectionsIn_append]
    · rfl
    · rw [newline, List.mem_append, not_or]
      exact ⟨by simp, fun hmem => (hclosing.not_mem hmem).2.1 rfl⟩
    · intro c hc
      rcases List.mem_append.1 hc with hc | hc
      · obtain rfl := List.mem_singleton.1 hc
        rfl
      · exact (hclosing.not_mem hc).2.2.1

/-! ## What the fences are taken for -/

theorem fenced?_of_blank {c : CodePoint} (hc : c.isBlank = true) (t : Text) :
    fenced? (c :: t) = none := by
  have hnone : after? fence (c :: t) = none := by
    rw [Option.eq_none_iff_forall_ne_some]
    intro rest hsome
    obtain rfl : CodePoint.char '-' = c := (List.cons.inj (after?_eq_some_iff.1 hsome)).1
    revert hc
    decide
  rw [fenced?, hnone]
  rfl

/-- Only a carriage return may stand behind an opening fence in its line. -/
theorem fenced?_of_fenceLine (hopening : IsFenceLine opening) (rest : Text) :
    fenced? (opening ++ newline ++ rest) =
      if opening = fence ∨ opening = fence ++ text "\r" then
        (cutAt? (newline ++ fence) rest).map fun found => withoutReturn found.1
      else none := by
  obtain ⟨behind, rfl, hbehind⟩ := hopening.exists_behind
  have hafter : after? fence (fence ++ behind ++ newline ++ rest) =
      some (behind ++ newline ++ rest) :=
    after?_eq_some_iff.2 (by simp)
  have hline : afterLineEnd? (behind ++ newline ++ rest) =
      if behind = [] ∨ behind = text "\r" then some rest else none := by
    cases behind with
    | nil => rfl
    | cons c behind =>
      obtain ⟨hc, hmore⟩ := List.forall_mem_cons.1 hbehind
      rcases hc with rfl | rfl | rfl
      · rfl
      · rfl
      · cases behind with
        | nil => rfl
        | cons d behind =>
          rcases (List.forall_mem_cons.1 hmore).1 with rfl | rfl | rfl <;> rfl
  have hbare : (fence ++ behind = fence ∨ fence ++ behind = fence ++ text "\r") ↔
      behind = [] ∨ behind = text "\r" := by
    rw [List.append_right_inj, List.append_right_eq_self]
  rw [fenced?, hafter, Option.bind_eq_bind, Option.bind_some, hline]
  simp only [hbare]
  split
  · rw [Option.bind_some]
    cases cutAt? (newline ++ fence) rest <;> rfl
  · rfl

theorem length_withoutReturn (t : Text) :
    (withoutReturn t).length ≤ t.length ∧ t.length ≤ (withoutReturn t).length + 1 := by
  rw [withoutReturn]
  split
  · rw [List.length_dropLast]
    omega
  · omega

/-- Two occurrences of the start of a fence line do not overlap. -/
theorem isPrefix_of_fence_eq {more rest behind : Text} (more_ne : more ≠ [])
    (h : more ++ (newline ++ fence) ++ behind = newline ++ fence ++ rest) :
    newline ++ fence <+: more := by
  rcases more with _ | ⟨a, _ | ⟨b, _ | ⟨c, _ | ⟨d, more⟩⟩⟩⟩
  · exact absurd rfl more_ne
  all_goals simp [newline, fence, text] at h
  obtain ⟨rfl, rfl, rfl, rfl, -⟩ := h
  exact ⟨more, rfl⟩

/-- Code before the line of a fence is cut off whole, or within itself where it has such a line. -/
theorem cutAt?_fence (body rest : Text) :
    ∃ front behind, cutAt? (newline ++ fence) (body ++ (newline ++ fence) ++ rest) =
        some (front, behind) ∧
      (front = body ∧ ¬ newline ++ fence <:+: body ∨
        ∃ more, body = front ++ more ∧ newline ++ fence <+: more) := by
  have hcontains : Text.contains (body ++ (newline ++ fence) ++ rest) (newline ++ fence) = true :=
    Text.contains_of_isInfix ⟨body, rest, rfl⟩
  obtain ⟨⟨front, behind⟩, hcut⟩ := Option.isSome_iff_exists.1 hcontains
  refine ⟨front, behind, hcut, ?_⟩
  have hsplit := Text.cutAt?_eq_append hcut
  have hfront : front <+: body ++ (newline ++ fence) ++ rest :=
    ⟨newline ++ fence ++ behind, by rw [← List.append_assoc, ← hsplit]⟩
  have hbody : body <+: body ++ (newline ++ fence) ++ rest :=
    ⟨newline ++ fence ++ rest, (List.append_assoc ..).symm⟩
  obtain ⟨more, rfl⟩ :=
    List.prefix_of_prefix_length_le hfront hbody (Text.length_le_of_cutAt? hcut rfl)
  by_cases more_nil : more = []
  · rw [more_nil, List.append_nil] at hcut ⊢
    refine .inl ⟨rfl, ?_⟩
    -- what stands before an earlier occurrence would be shorter
    rintro ⟨before, behind', hinfix⟩
    have hbefore : front ++ (newline ++ fence) ++ rest =
        before ++ (newline ++ fence) ++ (behind' ++ (newline ++ fence) ++ rest) := by
      simp [← hinfix]
    have hlength := Text.length_le_of_cutAt? hcut hbefore
    have hinfixLength := congrArg List.length hinfix
    simp only [List.length_append, newline, List.length_singleton] at hinfixLength
    omega
  · have hover : more ++ (newline ++ fence) ++ rest = newline ++ fence ++ behind := by
      simpa using hsplit
    exact .inr ⟨more, rfl, isPrefix_of_fence_eq more_nil hover⟩

/-- The code between the fences is taken for what stands between them just if nothing in it looks
like a fence. -/
theorem fenced?_eq_withoutReturn_iff (hopening : IsFenceLine opening)
    (hclosing : IsFenceLine closing) (body left : Text) :
    fenced? (opening ++ newline ++ (body ++ newline ++ closing ++ left)) =
        some (withoutReturn body) ↔
      (opening = fence ∨ opening = fence ++ text "\r") ∧ ¬ newline ++ fence <:+: body := by
  obtain ⟨behind, rfl, -⟩ := hclosing.exists_behind
  have hrest : body ++ newline ++ (fence ++ behind) ++ left =
      body ++ (newline ++ fence) ++ (behind ++ left) := by simp
  rw [fenced?_of_fenceLine hopening, hrest]
  split
  · next hbare =>
    obtain ⟨front, rest, hcut, hfound⟩ := cutAt?_fence body (behind ++ left)
    rw [hcut, Option.map_some, Option.some_inj, and_iff_right hbare]
    rcases hfound with ⟨rfl, hnone⟩ | ⟨more, rfl, hmore⟩
    · exact iff_of_true rfl hnone
    · refine iff_of_false (fun heq => ?_)
        (not_not_intro (hmore.isInfix.trans (List.suffix_append front more).isInfix))
      -- more than a carriage return is missing
      have hfour : (newline ++ fence).length = 4 := rfl
      have hlength := hmore.length_le
      have hsame : (withoutReturn front).length = (withoutReturn (front ++ more)).length :=
        congrArg List.length heq
      have hless := length_withoutReturn front
      have hmost := length_withoutReturn (front ++ more)
      have hboth : (front ++ more).length = front.length + more.length := List.length_append
      omega
  · next hbare => exact iff_of_false nofun fun h => hbare h.1

/-- Where a closing fence follows the opening one at once, something else is taken for what stands
between fences. -/
theorem fenced?_of_closing (hopening : IsFenceLine opening) (hclosing : IsFenceLine closing)
    (left : Text) : fenced? (opening ++ newline ++ (closing ++ left)) ≠ some [] := by
  obtain ⟨behind, rfl, -⟩ := hclosing.exists_behind
  rw [fenced?_of_fenceLine hopening]
  split
  · intro h
    obtain ⟨⟨front, rest⟩, hcut, hnil⟩ := Option.map_eq_some_iff.1 h
    have hsplit := Text.cutAt?_eq_append hcut
    have hlength := (length_withoutReturn front).2
    rw [hnil] at hlength
    rcases front with _ | ⟨a, _ | ⟨b, front⟩⟩
    · simp [newline, fence, text] at hsplit
    · simp [newline, fence, text] at hsplit
    · simp at hlength
  · exact (Option.some_ne_none _).symm

/-- What stands between the fences is taken for the code of the frontmatter just if that is
plain. -/
theorem fenced?_eq_codeOf_iff (hopening : IsFenceLine opening) (hclosing : IsFenceLine closing)
    {code : Text} (hcode : code = closing ∨ ∃ body, code = body ++ newline ++ closing)
    (left : Text) :
    fenced? (opening ++ newline ++ (code ++ left)) = some (codeOf (opening ++ newline ++ code)) ↔
      IsPlain (opening ++ newline ++ code) := by
  rcases hcode with rfl | ⟨body, rfl⟩
  · have hlines := codeLines_of_closing hopening hclosing
    have hnil : codeOf (opening ++ newline ++ code) = [] := by
      rw [codeOf, hlines]
      rfl
    rw [hnil]
    exact iff_of_false (fenced?_of_closing hopening hclosing left) fun h => h.code_ne hlines
  · have hlines := codeLines_of_body hopening hclosing body
    have hhead : (Text.splitOn (.char '\n')
        (opening ++ newline ++ (body ++ newline ++ closing))).head? = some opening := by
      rw [hopening.splitOn_append, List.head?_cons]
    have hfence : CodePoint.char '\n' ∉ fence := by simp [fence, text]
    have hinside : ¬ newline ++ fence <:+: body ↔
        ∀ line ∈ (codeLines (opening ++ newline ++ (body ++ newline ++ closing))).tail,
          ¬ fence <+: line := by
      rw [hlines, newline, List.singleton_append, Text.cons_isInfix_iff hfence]
      simp
    rw [codeOf_of_body hopening hclosing, fenced?_eq_withoutReturn_iff hopening hclosing, hinside]
    constructor
    · rintro ⟨hbare, no_fence⟩
      refine ⟨?_, by rw [hlines]; exact Text.splitOn_ne_nil _ _, no_fence⟩
      rwa [hhead, Option.some_inj, Option.some_inj]
    · rintro ⟨hbare, -, no_fence⟩
      rw [hhead, Option.some_inj, Option.some_inj] at hbare
      exact ⟨hbare, no_fence⟩

end Lines

/-! ## Pages -/

/-- Frontmatter is two lines of fences, and what stands between them. -/
theorem exists_lines {blanks front code left : Text}
    (h : Markup.Fenced blanks front code left) :
    ∃ opening closing, IsFenceLine opening ∧ IsFenceLine closing ∧ front = opening ++ newline ∧
      (code = closing ∨ ∃ body, code = body ++ newline ++ closing) := by
  have hclosing : ∃ closing, IsFenceLine closing ∧
      (code = closing ∨ ∃ body, code = body ++ newline ++ closing) := by
    rcases exists_closing h.closing with ⟨-, hclosing⟩ | ⟨body, closing, hcode, hclosing⟩
    · exact ⟨code, hclosing, .inl rfl⟩
    · exact ⟨closing, hclosing, .inr ⟨body, hcode⟩⟩
  obtain ⟨closing, hclosing, hcode⟩ := hclosing
  obtain ⟨line, ending, hline, rfl, rfl | rfl⟩ := h.opening
  · exact ⟨line, closing, ⟨line, hline, .inl rfl⟩, hclosing, rfl, hcode⟩
  · exact ⟨line ++ text "\r", closing, ⟨line, hline, .inr rfl⟩, hclosing,
      by simp [newline, text], hcode⟩

/-- A page without frontmatter has nothing between fences. -/
theorem fenced?_eq_none {source : Text}
    (hnone : Markup.openingFence? (source.dropWhile CodePoint.isBlank) = none) :
    fenced? source = none := by
  rw [Option.eq_none_iff_forall_ne_some]
  intro code hsome
  obtain ⟨behind, hafter, hsome⟩ := Option.bind_eq_some_iff.1 hsome
  obtain ⟨rest, hline, -⟩ := Option.bind_eq_some_iff.1 hsome
  obtain rfl := after?_eq_some_iff.1 hafter
  have hstart : (fence ++ behind).dropWhile CodePoint.isBlank = fence ++ behind :=
    List.dropWhile_cons_of_neg (by decide)
  have hfence : Markup.IsFence fence := ⟨[], rfl, rfl⟩
  have hopening : ∃ opening, Markup.openingFence? (fence ++ behind) = some (opening, rest) := by
    unfold afterLineEnd? at hline
    split at hline
    · cases hline
      exact ⟨fence ++ text "\r\n", Markup.openingFence?_eq_some_iff.2
        ⟨rfl, fence, _, hfence, rfl, .inr (.inl rfl)⟩⟩
    · cases hline
      exact ⟨fence ++ text "\n", Markup.openingFence?_eq_some_iff.2
        ⟨rfl, fence, _, hfence, rfl, .inl rfl⟩⟩
    · cases hline
  obtain ⟨opening, hopening⟩ := hopening
  rw [hstart, hopening] at hnone
  cases hnone

/-- A page without frontmatter reads no collections. Of frontmatter, what stands between its
fences is looked at just if it starts the page and is plain, and then the collections are the ones
called in it. -/
theorem collections_eq_iff_plain {source : Text} {d : Document}
    (hparse : Document.parse source = .ok d) :
    ((∀ value position, .frontmatter value position ∉ d.children) → collections source = []) ∧
      ∀ value position, .frontmatter value position ∈ d.children →
        (fenced? source = some (codeOf value) ↔ position = 0 ∧ IsPlain value) ∧
          (position = 0 ∧ IsPlain value → collections source = named value) := by
  obtain ⟨front, nodes, hpage, rfl⟩ := Field.exists_readsPage_of_parse hparse
  refine ⟨fun hnone => ?_, fun value position hmem => ?_⟩
  · rcases Markup.readFrontmatter_cases hpage.front with ⟨hopening, -⟩ |
      ⟨blanks, fence, code, -, -, hfront⟩
    · rw [collections, fenced?_eq_none hopening]
    · simp only at hfront
      rw [hfront] at hnone
      exact absurd (Field.frontmatter_mem_frontNodes blanks _ nodes) (hnone _ _)
  · obtain ⟨blanks, front', code, hfenced, rfl, rfl, rfl⟩ := Field.of_frontmatter_mem hpage hmem
    obtain ⟨opening, closing, hopening, hclosing, rfl, hcode⟩ := exists_lines hfenced
    have hsource : source = blanks ++ (opening ++ newline ++ (code ++ Markup.nodesSource nodes)) := by
      rw [← Markup.nodesSource_of_readPage hpage.readPage, Markup.nodesSource_append,
        Markup.nodesSource_frontNodes]
      simp
    have hplain := fenced?_eq_codeOf_iff hopening hclosing hcode (Markup.nodesSource nodes)
    have hiff : fenced? source = some (codeOf (opening ++ newline ++ code)) ↔
        blanks.width = 0 ∧ IsPlain (opening ++ newline ++ code) := by
      cases blanks with
      | nil => rw [hsource, List.nil_append, hplain, and_iff_right (Text.width_nil)]
      | cons blank blanks =>
        have hblank : blank.isBlank = true := (List.all_eq_true.1 hfenced.blank) _ (.head _)
        rw [hsource, List.cons_append, fenced?_of_blank hblank]
        exact iff_of_false nofun fun h =>
          absurd h.1 (Nat.pos_iff_ne_zero.1 (Text.width_pos (List.cons_ne_nil _ _)))
    refine ⟨hiff, fun hmeets => ?_⟩
    rw [collections, hiff.2 hmeets, named_codeOf hopening hclosing hcode]
    rfl

/-- The value of frontmatter, and where it starts. -/
def frontmatter? : Document.Node → Option (Text × Nat)
  | .frontmatter value position => some (value, position)
  | _ => none

theorem frontmatter_mem {d : Document} {found : Text × Nat}
    (hmem : found ∈ d.children.filterMap frontmatter?) :
    .frontmatter found.1 found.2 ∈ d.children := by
  obtain ⟨node, hnode, hfound⟩ := List.mem_filterMap.1 hmem
  cases node <;> cases hfound
  exact hnode

/-- A page with plain frontmatter that calls three times, for two collections. -/
theorem collections_eq_iff_plain_of_calls : ∃ (source value : Text) (d : Document),
    source = text
      "---\ngetCollection('a'); getEntry (\"b\"); getEntry('a')\n---\n<p>x</p>" ∧
      value = text "---\ngetCollection('a'); getEntry (\"b\"); getEntry('a')\n---" ∧
        Document.parse source = .ok d ∧ .frontmatter value 0 ∈ d.children ∧ IsPlain value ∧
          collections source = named value ∧ named value = [text "a", text "b"] := by
  have hrun : ((Document.parse (text
      "---\ngetCollection('a'); getEntry (\"b\"); getEntry('a')\n---\n<p>x</p>")).map fun d =>
      d.children.filterMap frontmatter?).toOption =
        some [(text "---\ngetCollection('a'); getEntry (\"b\"); getEntry('a')\n---", 0)] := by
    decide +kernel
  obtain ⟨d, hparse, hfound⟩ := Markup.exists_of_map_eq_ok (Markup.eq_ok_of_toOption hrun)
  have hmem : (text "---\ngetCollection('a'); getEntry (\"b\"); getEntry('a')\n---", 0) ∈
      d.children.filterMap frontmatter? := by
    rw [hfound]
    exact .head _
  have hplain : IsPlain
      (text "---\ngetCollection('a'); getEntry (\"b\"); getEntry('a')\n---") :=
    ⟨.inl (by decide +kernel), by decide +kernel, by decide +kernel⟩
  have hcalls := (collections_eq_iff_plain hparse).2 _ _ (frontmatter_mem hmem)
  exact ⟨_, _, d, rfl, rfl, hparse, frontmatter_mem hmem, hplain, hcalls.2 ⟨rfl, hplain⟩,
    by decide +kernel⟩

/-- Not every page is looked at between its own fences: behind two fences in a row, what is called
in the content is found up to the next line that starts like a fence. -/
theorem not_forall_collections_eq : ¬ ∀ (source : Text) (d : Document),
    Document.parse source = .ok d → ∀ value position, .frontmatter value position ∈ d.children →
      collections source = named value := by
  intro hall
  have hrun : ((Document.parse (text "---\n---\n<p>getCollection('x')</p>\n---\n")).map fun d =>
      d.children.filterMap frontmatter?).toOption = some [(text "---\n---", 0)] := by
    decide +kernel
  obtain ⟨d, hparse, hfound⟩ := Markup.exists_of_map_eq_ok (Markup.eq_ok_of_toOption hrun)
  have hmem : (text "---\n---", 0) ∈ d.children.filterMap frontmatter? := by
    rw [hfound]
    exact .head _
  have hcalls := hall _ d hparse _ _ (frontmatter_mem hmem)
  have hcollections :
      collections (text "---\n---\n<p>getCollection('x')</p>\n---\n") = [text "x"] := by
    decide +kernel
  have hnamed : named (text "---\n---") = [] := by
    decide +kernel
  rw [hcollections, hnamed] at hcalls
  cases hcalls

end VisibleText.Page
