import VisibleText.Console.Literal.Grammar

/-!
# Reading phrases of a grammar

Phrases are read from words that are fetched one by one (`Progress`). What is kept of a
phrase at a place is used the next time that the phrase is read there; so a phrase that may
start with itself is read by growing what was read of it before.

Reading misses a phrase that is not there, and stops at the first fault. If the words make
no value, they are read a second time, and then the choices that look for what is wrong are
tried too (`Grammar.run`).
-/

set_option autoImplicit false

namespace VisibleText.Console.Literal

/-- How a fault at a column is told. The first column has the number one; zero stands for no
column. -/
abbrev Raised := (column : Nat) → LiteralFault → LiteralFault

/-- What was read of a phrase, and the place behind it. -/
structure Kept (Phrase : Type) where
  phrase : Phrase
  read? : Option (List Expression)
  behind : Nat

/-- How far reading has come. -/
structure Progress (Phrase : Type) where
  /-- the words that are still to be fetched -/
  reader : Reader
  /-- the end of the text, or a word that is none, was seen -/
  isOver : Bool
  tokens : Array Token
  /-- what is kept at each place -/
  kept : Array (List (Kept Phrase))
  /-- the place of the next word -/
  place : Nat
  fault? : Option LiteralFault

namespace Progress

variable {Phrase : Type}

/-- The start of a text. -/
def ofText (t : Text) (origin : Origin) : Progress Phrase :=
  ⟨Reader.ofText t origin, false, #[], #[], 0, none⟩

/-- Goes on at a place. -/
def goTo (s : Progress Phrase) (place : Nat) : Progress Phrase := { s with place }

/-- Stops at a fault. -/
def stop (s : Progress Phrase) (fault : LiteralFault) : Progress Phrase :=
  { s with fault? := some fault }

/-- The column of the word at a place. -/
def columnAt (s : Progress Phrase) (place : Nat) : Nat :=
  (s.tokens[place]?.map Token.column).getD 0

/-- The column of the last word that was fetched. -/
def latest (s : Progress Phrase) : Nat := (s.tokens.back?.map Token.column).getD 0

/-- The column that a fault is told by; the first one has the number one. -/
def columnOf (s : Progress Phrase) : Blame → Nat
  | .start place => s.columnAt place + 1
  | .finish place => (s.tokens[place - 1]?.map Token.behind).getD 0
  | .latest => s.latest + 1

/-- The word at the place, which is fetched if need be. -/
def token? (s : Progress Phrase) (raised : Raised) : Option Token × Progress Phrase :=
  match s.tokens[s.place]? with
  | some token => (some token, s)
  | none =>
    match s.reader.next with
    | .ok (token, reader) =>
      (some token,
        { s with
          reader
          isOver := token.word.seesEnd reader.rest
          tokens := s.tokens.push token
          kept := s.kept.push [] })
    | .error (.word fault) => (none, { s with isOver := true }.stop (.word fault))
    | .error (.between fault) =>
      (none, { s with isOver := true }.stop (raised (s.reader.column + 1) (.word fault)))

/-- How many brackets are open behind the last word that was read. -/
def depth (s : Progress Phrase) : Nat := (s.tokens[s.place - 1]?.map Token.depth).getD 0

/-- What is kept of a phrase at the place. -/
def kept? [DecidableEq Phrase] (s : Progress Phrase) (phrase : Phrase) : Option (Kept Phrase) :=
  (s.kept[s.place]?.getD []).find? fun k => k.phrase = phrase

/-- Keeps what was read of a phrase from a place up to another one. -/
def keep (s : Progress Phrase) (place : Nat) (k : Kept Phrase) : Progress Phrase :=
  { s with kept := s.kept.modify place (k :: ·) }

/-- The start again, without what was kept. -/
def again (s : Progress Phrase) : Progress Phrase :=
  { s with kept := s.kept.map fun _ => [], place := 0 }

/-- The fault of the words behind those that were fetched, which counts more than another
one: a word that is none, or a bracket of an earlier line that is never closed. -/
def restFault? (s : Progress Phrase) (raised : Raised) : Option LiteralFault :=
  match s.reader.refusal? with
  | some (.word fault, _) => some (.word fault)
  | some (.between _, b :: _) =>
    if s.tokens.back?.any fun token => b.line < token.line then
      some (raised (s.reader.column + 1) (.word (.neverClosed b.bracket)))
    else none
  | _ => none

end Progress

/-- A text between quotes, with the column that it starts at. -/
structure Piece where
  quoted : Quoted
  column : Nat

/-- Joins texts next to each other, where the last word that was fetched starts at a column:
what they make, and its height. -/
abbrev Join := (latest : Nat) → List Piece → Except LiteralFault (Form × Nat)

/-- How the phrases of a text are read. -/
structure Setting where
  /-- joins texts next to each other -/
  join : Join
  raised : Raised
  /-- whether what is wrong is looked for -/
  findsFaults : Bool
  /-- how many phrases the one that is read stands in -/
  level : Nat

/-- How deep phrases may stand in each other. -/
def mostLevels : Nat := 6000

/-- One level deeper. -/
def Setting.deeper (g : Setting) : Setting := { g with level := g.level + 1 }

/-- The texts next to each other that were read. -/
def Progress.pieces {Phrase : Type} (s : Progress Phrase) (es : List Expression) : List Piece :=
  es.filterMap fun
    | .of span _ (.piece q) => some ⟨q, s.columnAt span.first⟩
    | _ => none

namespace Grammar

variable {Phrase : Type} [DecidableEq Phrase] (grammar : Grammar Phrase)

/-- What reading gives: the expressions that were read, or nothing, and how far it came. -/
abbrev Result (Phrase : Type) := Option (List Expression) × Progress Phrase

/-- Reads a word of a kind. A number too long to be read stops reading; its fault has no
column. -/
def readWord (g : Setting) (kind : WordKind) (s : Progress Phrase) : Result Phrase :=
  match s.token? g.raised with
  | (none, s) => (none, s)
  | (some token, s) =>
    if kind.holds token.word then
      match token.word with
      | .number (.long digits) => (none, s.stop (g.raised 0 (.word (.longInteger digits))))
      | word =>
        (some (word.form?.map (.of ⟨s.place, s.place + 1⟩ 1)).toList, s.goTo (s.place + 1))
    else (none, s)

/-- What a choice that starts at a place makes of what its items have read. -/
def finish (g : Setting) (make : Make) (place : Nat) (parts : List Part) (s : Progress Phrase) :
    Result Phrase :=
  let read := parts.flatMap Part.made
  match make with
  | .same => (some read, s)
  | .nothing => (some [], s)
  | .one f => (some [.above ⟨place, s.place⟩ (f read) read], s)
  | .join =>
    match g.join s.latest (s.pieces read) with
    | .ok (form, height) => (some [.of ⟨place, s.place⟩ height form], s)
    | .error fault => (none, s.stop fault)
  | .judge f =>
    match f s.depth parts with
    | .nothing => (none, s)
    | .refused fault blame => (none, s.stop (g.raised (s.columnOf blame) (.grammar fault)))

/-- How reading a choice ends. -/
inductive Ended where
  | read (parts : List Part)
  /-- no other choice is tried if reading was committed to this one -/
  | missed (isCommitted : Bool)

mutual

/-- Reads a phrase. -/
def readPhrase : (steps : Nat) → Setting → Phrase → Progress Phrase → Result Phrase
  | 0, _, _, s => (none, s.stop .tooDeep)
  | steps + 1, g, phrase, s =>
    match grammar.rule phrase with
    | .word kind => readWord g kind s
    | .choices manner choices =>
      if mostLevels ≤ g.level then (none, s.stop .tooDeep)
      else
        let place := s.place
        match manner with
        | .plain => readChoices steps g.deeper choices place s
        | .quiet => readChoices steps { g.deeper with findsFaults := false } choices place s
        | .kept =>
          match s.token? g.raised with
          | (none, s) => (none, s)
          | (some _, s) =>
            match s.kept? phrase with
            | some k => (k.read?, s.goTo k.behind)
            | none =>
              let (read?, s) := readChoices steps g.deeper choices place s
              if s.fault?.isSome then (none, s)
              else (read?, s.keep place ⟨phrase, read?, s.place⟩)
        | .growing =>
          match s.token? g.raised with
          | (none, s) => (none, s)
          | (some _, s) =>
            match s.kept? phrase with
            | some k => (k.read?, s.goTo k.behind)
            | none => grow steps g.deeper phrase choices place ⟨phrase, none, place⟩ s

/-- Reads a phrase again as long as more is read. -/
def grow : (steps : Nat) → Setting → Phrase → List (Choice Phrase) → (place : Nat) →
    Kept Phrase → Progress Phrase → Result Phrase
  | 0, _, _, _, _, _, s => (none, s.stop .tooDeep)
  | steps + 1, g, phrase, choices, place, best, s =>
    if mostLevels ≤ g.level then (none, s.stop .tooDeep)
    else
      let (read?, s) := readChoices steps g.deeper choices place ((s.keep place best).goTo place)
      if s.fault?.isSome then (none, s)
      else if read?.isSome && best.behind < s.place then
        grow steps g phrase choices place ⟨phrase, read?, s.place⟩ s
      else (best.read?, s.goTo best.behind)

/-- Reads the first of some choices that fits. -/
def readChoices : (steps : Nat) → Setting → List (Choice Phrase) → (place : Nat) →
    Progress Phrase → Result Phrase
  | 0, _, _, _, s => (none, s.stop .tooDeep)
  | _ + 1, _, [], place, s => (none, s.goTo place)
  | steps + 1, g, choice :: choices, place, s =>
    if choice.onlyFaults && !g.findsFaults then readChoices steps g choices place s
    else
      match readItems steps g choice.items [] false s with
      | (.read parts, s) =>
        match finish g choice.make place parts.reverse s with
        | (some es, s) => (some es, s)
        | (none, s) => (none, s.goTo place)
      | (.missed isCommitted, s) =>
        if s.fault?.isSome then (none, s)
        else if isCommitted then (none, s.goTo place)
        else readChoices steps g choices place (s.goTo place)

/-- Reads the items of a choice, behind those that were read already, the last one first. -/
def readItems : (steps : Nat) → Setting → List (Item Phrase) → (before : List Part) →
    (isCommitted : Bool) → Progress Phrase → Ended × Progress Phrase
  | 0, _, _, _, _, s => (.missed true, s.stop .tooDeep)
  | _ + 1, _, [], before, _, s => (.read before, s)
  | steps + 1, g, item :: items, before, isCommitted, s =>
    let place := s.place
    match item with
    | .one p =>
      match readPhrase steps g p s with
      | (some es, s) => readItems steps g items (⟨place, es⟩ :: before) isCommitted s
      | (none, s) => (.missed isCommitted, s)
    | .optional p =>
      match readPhrase steps g p s with
      | (some es, s) => readItems steps g items (⟨place, es⟩ :: before) isCommitted s
      | (none, s) =>
        if s.fault?.isSome then (.missed isCommitted, s)
        else readItems steps g items (⟨place, []⟩ :: before) isCommitted (s.goTo place)
    | .many p =>
      match readMany steps g.deeper p none [] s with
      | (some es, s) => readItems steps g items (⟨place, es⟩ :: before) isCommitted s
      | (none, s) => (.missed isCommitted, s)
    | .some p =>
      match readMany steps g.deeper p none [] s with
      | (some es, t) =>
        if t.place = place then (.missed isCommitted, t)
        else readItems steps g items (⟨place, es⟩ :: before) isCommitted t
      | (none, s) => (.missed isCommitted, s)
    | .listed p =>
      match readPhrase steps g.deeper p s with
      | (none, s) => (.missed isCommitted, s)
      | (some first, s) =>
        match readMany steps g.deeper.deeper p (some grammar.comma) [] s with
        | (some es, s) => readItems steps g items (⟨place, first ++ es⟩ :: before) isCommitted s
        | (none, s) => (.missed isCommitted, s)
    | .ahead p =>
      match readPhrase steps g p s with
      | (some _, s) => readItems steps g items (⟨place, []⟩ :: before) isCommitted (s.goTo place)
      | (none, s) => (.missed isCommitted, s)
    | .notAhead p =>
      match readPhrase steps g p s with
      | (some _, s) => (.missed isCommitted, s)
      | (none, s) =>
        if s.fault?.isSome then (.missed isCommitted, s)
        else readItems steps g items (⟨place, []⟩ :: before) isCommitted (s.goTo place)
    | .commit => readItems steps g items (⟨place, []⟩ :: before) true s

/-- Reads a phrase as often as it is there, each time behind a separator if there is one. -/
def readMany : (steps : Nat) → Setting → Phrase → (separator : Option Phrase) →
    (before : List (List Expression)) → Progress Phrase → Result Phrase
  | 0, _, _, _, _, s => (none, s.stop .tooDeep)
  | steps + 1, g, p, separator, before, s =>
    let place := s.place
    let (isSeparated, s) :=
      match separator with
      | none => (true, s)
      | some separator =>
        let (read?, s) := readPhrase steps g separator s
        (read?.isSome, s)
    if s.fault?.isSome then (none, s)
    else if mostLevels < g.level then (none, s.stop .tooDeep)
    else if !isSeparated then (some before.reverse.flatten, s.goTo place)
    else
      match readPhrase steps g p s with
      | (some es, s) => readMany steps g p separator (es :: before) s
      | (none, s) =>
        if s.fault?.isSome then (none, s) else (some before.reverse.flatten, s.goTo place)

end

/-- How many steps are enough: at each level some choices are tried and some items read, and
what is repeated or grown takes a word each time. -/
def steps (t : Text) : Nat := 40 * mostLevels + 8 * t.length

/-- Reads a phrase at the start of a text: the expressions that it makes, or why it is not
there. A fault that is none of the form counts whatever follows. -/
def run (join : Join) (raised : Raised) (start : Phrase) (t : Text) (origin : Origin) :
    Except LiteralFault (List Expression) :=
  let stopped (s : Progress Phrase) (fault : LiteralFault) : LiteralFault :=
    if s.isOver || !fault.isOfForm then fault else (s.restFault? raised).getD fault
  match grammar.readPhrase (steps t) ⟨join, raised, false, 0⟩ start (.ofText t origin) with
  | (some es, _) => .ok es
  | (none, first) =>
    match first.fault? with
    | some fault => .error (stopped first fault)
    | none =>
      let (_, s) := grammar.readPhrase (steps t) ⟨join, raised, true, 0⟩ start first.again
      match s.fault? with
      | some fault => .error (stopped s fault)
      | none =>
        let told := fun fault => raised (first.columnOf .latest) (.grammar fault)
        match first.tokens.back?.map Token.word with
        | some .indent => .error (told .indented)
        | some .dedent => .error (told .dedented)
        | _ => .error ((s.restFault? raised).getD (told .misplaced))

end Grammar

end VisibleText.Console.Literal
