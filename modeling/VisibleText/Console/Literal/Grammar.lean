import VisibleText.Console.Literal.Expression
import VisibleText.Console.Literal.Word
import VisibleText.Text.Letter

/-!
# Grammars

A grammar says for each phrase how it is read. A phrase is a word, or it has choices that
are tried one after the other; the first one that fits is taken. A choice is a sequence of
items: phrases that are needed, that may be absent or repeated, or that only have to follow
or must not follow. What is read makes expressions, or it shows what is wrong.

Choices that only look for what is wrong are tried only when the words are known to make no
value.
-/

set_option autoImplicit false

namespace VisibleText.Console.Literal

/-- The kinds of words that a grammar tells apart. -/
inductive WordKind where
  | mark (s : String)
  | name
  /-- a name that may have a meaning of its own -/
  | softName
  | number
  | quoted
  | lineEnd
  | finish
deriving DecidableEq

/-- The names that may have a meaning of their own. -/
def softNames : List Text := ["_", "case", "match"].map text

/-- Whether a word is of a kind. The beginnings of names that may have a meaning of their
own count as such names. -/
def WordKind.holds (kind : WordKind) (word : Word) : Bool :=
  match kind, word with
  | mark s, .mark t => s == t
  | name, .name _ => true
  | softName, .name t => softNames.any fun soft => soft.startsWith t
  | number, .number _ => true
  | quoted, .quoted _ => true
  | lineEnd, .lineEnd => true
  | finish, .finish => true
  | _, _ => false

/-- What a word writes, if it writes anything. A name is the same whatever shapes its letters
have. -/
def Word.form? : Word → Option Form
  | .name t => some (.name t.plainLetters)
  | .number n => some (.number n)
  | .quoted q => some (.piece q)
  | _ => none

/-- An item of a choice. -/
inductive Item (Phrase : Type) where
  | one (p : Phrase)
  | optional (p : Phrase)
  /-- any number of times -/
  | many (p : Phrase)
  /-- at least once -/
  | some (p : Phrase)
  /-- at least once, with commas between -/
  | listed (p : Phrase)
  /-- follows, but is not read -/
  | ahead (p : Phrase)
  | notAhead (p : Phrase)
  /-- no other choice is tried from here on -/
  | commit

/-- What an item has read, and the place where it starts. -/
structure Part where
  place : Nat
  made : List Expression

/-- The place of the first word of a part. Brackets around it do not count. -/
def Part.first (part : Part) : Nat := (part.made.head?.map (·.span.first)).getD part.place

/-- By which word a fault is told. -/
inductive Blame where
  /-- by the start of the word at a place -/
  | start (place : Nat)
  /-- by the end of the word before a place -/
  | finish (place : Nat)
  /-- by the start of the last word that was fetched -/
  | latest

/-- What is made of what a choice has read. -/
inductive Outcome where
  /-- nothing is wrong, but the phrase cannot be read either -/
  | nothing
  | refused (fault : GrammarFault) (blame : Blame)

/-- What a choice makes of the expressions that it has read. -/
inductive Make where
  /-- what was read -/
  | same
  | nothing
  /-- one expression -/
  | one (f : List Expression → Form)
  /-- joins texts next to each other -/
  | join
  /-- looks at what is wrong, by what each item has read and how many brackets are open
  behind it -/
  | judge (f : (depth : Nat) → (parts : List Part) → Outcome)

/-- A choice of a phrase. -/
structure Choice (Phrase : Type) where
  items : List (Item Phrase)
  make : Make
  /-- the choice only looks for what is wrong -/
  onlyFaults : Bool

/-- How a phrase is read from its choices. -/
inductive Manner where
  | plain
  /-- what was read at a place is kept for the next time -/
  | kept
  /-- the phrase may start with itself: it is read again as long as more is read -/
  | growing
  /-- what is wrong inside the phrase is not looked for -/
  | quiet
deriving DecidableEq

/-- How a phrase is read. -/
inductive Rule (Phrase : Type) where
  | word (kind : WordKind)
  | choices (manner : Manner) (choices : List (Choice Phrase))

/-- A grammar. -/
structure Grammar (Phrase : Type) where
  rule : Phrase → Rule Phrase
  /-- what stands between the members of lists -/
  comma : Phrase

end VisibleText.Console.Literal
