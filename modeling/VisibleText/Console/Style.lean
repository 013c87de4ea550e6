import VisibleText.Text.Case
import VisibleText.Text.Letter
import VisibleText.Text.Search

/-!
# Styles

A style is written in words: attributes, which may be switched off by a `not` before them,
a color, a background behind an `on`, and a link. Styles of one effect may be written in
many ways; each has one normal form, in which the words stand in a fixed order. What is
no style is its own normal form, in small letters.
-/

set_option autoImplicit false

namespace VisibleText.Console

/-! ## Colors

A color of the console is written by its name, by a number below 256, by its six
hexadecimal digits, or by three numbers for red, green and blue. Every other word is no
color. Three numbers of which one is empty are not even that: they cannot be read.
-/

/-- The names of colors. -/
def colorNames : List Text := ([
    "black red green yellow blue magenta cyan white bright_black bright_red bright_green",
    "bright_yellow bright_blue bright_magenta bright_cyan bright_white grey0 gray0 navy_blue",
    "dark_blue blue3 blue1 dark_green deep_sky_blue4 dodger_blue3 dodger_blue2 green4",
    "spring_green4 turquoise4 deep_sky_blue3 dodger_blue1 green3 spring_green3 dark_cyan",
    "light_sea_green deep_sky_blue2 deep_sky_blue1 spring_green2 cyan3 dark_turquoise",
    "turquoise2 green1 spring_green1 medium_spring_green cyan2 cyan1 dark_red deep_pink4",
    "purple4 purple3 blue_violet orange4 grey37 gray37 medium_purple4 slate_blue3 royal_blue1",
    "chartreuse4 dark_sea_green4 pale_turquoise4 steel_blue steel_blue3 cornflower_blue",
    "chartreuse3 cadet_blue sky_blue3 steel_blue1 pale_green3 sea_green3 aquamarine3",
    "medium_turquoise chartreuse2 sea_green2 sea_green1 aquamarine1 dark_slate_gray2",
    "dark_magenta dark_violet purple light_pink4 plum4 medium_purple3 slate_blue1 yellow4",
    "wheat4 grey53 gray53 light_slate_grey light_slate_gray medium_purple light_slate_blue",
    "dark_olive_green3 dark_sea_green light_sky_blue3 sky_blue2 dark_sea_green3",
    "dark_slate_gray3 sky_blue1 chartreuse1 light_green pale_green1 dark_slate_gray1 red3",
    "medium_violet_red magenta3 dark_orange3 indian_red hot_pink3 medium_orchid3 medium_orchid",
    "medium_purple2 dark_goldenrod light_salmon3 rosy_brown grey63 gray63 medium_purple1 gold3",
    "dark_khaki navajo_white3 grey69 gray69 light_steel_blue3 light_steel_blue yellow3",
    "dark_sea_green2 light_cyan3 light_sky_blue1 green_yellow dark_olive_green2 dark_sea_green1",
    "pale_turquoise1 deep_pink3 magenta2 hot_pink2 orchid medium_orchid1 orange3 light_pink3",
    "pink3 plum3 violet light_goldenrod3 tan misty_rose3 thistle3 plum2 khaki3 light_goldenrod2",
    "light_yellow3 grey84 gray84 light_steel_blue1 yellow2 dark_olive_green1 honeydew2",
    "light_cyan1 red1 deep_pink2 deep_pink1 magenta1 orange_red1 indian_red1 hot_pink",
    "dark_orange salmon1 light_coral pale_violet_red1 orchid2 orchid1 orange1 sandy_brown",
    "light_salmon1 light_pink1 pink1 plum1 gold1 navajo_white1 misty_rose1 thistle1 yellow1",
    "light_goldenrod1 khaki1 wheat1 cornsilk1 grey100 gray100 grey3 gray3 grey7 gray7 grey11",
    "gray11 grey15 gray15 grey19 gray19 grey23 gray23 grey27 gray27 grey30 gray30 grey35 gray35",
    "grey39 gray39 grey42 gray42 grey46 gray46 grey50 gray50 grey54 gray54 grey58 gray58 grey62",
    "gray62 grey66 gray66 grey70 gray70 grey74 gray74 grey78 gray78 grey82 gray82 grey85 gray85",
    "grey89 gray89 grey93 gray93"].flatMap fun names => (text names).splitOn (.char ' '))

/-- The greatest part of a color. -/
def greatestPart : Nat := 255

/-- What stands between an opening and a last parenthesis at the end of a word. -/
def enclosed? (opening : String) (word : Text) : Option Text :=
  match Text.after? (text opening) word with
  | some inner => if inner.getLast? = some (.char ')') then some inner.dropLast else none
  | none => none

/-- Whether a word is a hash with six hexadecimal digits. -/
def isHexColor (word : Text) : Bool :=
  match word with
  | .char '#' :: digits => digits.length == 6 && digits.all fun c => c.hexValue?.isSome
  | _ => false

/-- The number that digits of any script write. -/
def numberOf (digits : Text) : Nat := digits.foldl (fun n c => n * 10 + c.digitValue?.getD 0) 0

/-- Whether a word is a number of a color. -/
def isNumberedColor (word : Text) : Bool :=
  match enclosed? "color(" word with
  | none => false
  | some digits =>
    !digits.isEmpty && decide (digits.length ≤ 3) && digits.all CodePoint.isAsciiDigit &&
      decide (numberOf digits ≤ greatestPart)

/-- The three numbers of a color, if a word has the form of three numbers. -/
def mixedParts? (word : Text) : Option (List Text) :=
  match enclosed? "rgb(" word with
  | none => none
  | some inner =>
    let parts := inner.splitOn (.char ',')
    if parts.length = 3 && parts.all fun part => part.all CodePoint.isDigit then some parts
    else none

/-- A color whose parts cannot be read. -/
inductive ColorFault where
  | emptyPart
deriving DecidableEq

/-- Whether a word in small letters is a color. -/
def isColor (word : Text) : Except ColorFault Bool :=
  if word = text "default" || colorNames.contains word || isHexColor word ||
      isNumberedColor word then .ok true
  else
    match mixedParts? word with
    | none => .ok false
    | some parts =>
      if parts.any List.isEmpty then .error .emptyPart
      else .ok (parts.all fun part => decide (numberOf part ≤ greatestPart))

/-! ## Words of styles -/

/-- The attributes of a style, in the order of the normal form. -/
def attributes : List Text :=
  ["bold", "dim", "italic", "underline", "blink", "blink2", "reverse", "conceal", "strike",
    "underline2", "frame", "encircle", "overline"].map text

/-- Attributes that have a short name as well. -/
def shortNames : List (Text × Text) :=
  [("b", "bold"), ("d", "dim"), ("i", "italic"), ("u", "underline"), ("uu", "underline2"),
    ("r", "reverse"), ("c", "conceal"), ("s", "strike"), ("o", "overline")].map
    fun (short, name) => (text short, text name)

/-- The attribute that a word names. -/
def attribute? (word : Text) : Option Text :=
  if attributes.contains word then some word else shortNames.lookup word

/-- A style. -/
structure Style where
  /-- the attributes that are switched on or off; the first mention of one counts -/
  switches : List (Text × Bool)
  color : Option Text
  background : Option Text
  link : Option Text

namespace Style

/-- The style that changes nothing. -/
def plain : Style := ⟨[], none, none, none⟩

/-- Why words are no style. -/
inductive Fault where
  /-- some word means nothing where it stands -/
  | unknown
  | color (fault : ColorFault)
deriving DecidableEq

/-- The color that a word is. -/
def colorOf (word : Text) : Except Fault Text :=
  let word := Text.small word
  match isColor word with
  | .error fault => .error (.color fault)
  | .ok false => .error .unknown
  | .ok true => .ok word

/-- A style after some more words. -/
def readFrom (s : Style) : List Text → Except Fault Style
  | [] => .ok s
  | [word] =>
    match attribute? (Text.small word) with
    | some name => .ok { s with switches := (name, true) :: s.switches }
    | none => do return { s with color := some (← colorOf word) }
  | word :: next :: words =>
    let small := Text.small word
    if small = text "on" then do
      readFrom { s with background := some (← colorOf next) } words
    else if small = text "not" then
      match attribute? next with
      | some name => readFrom { s with switches := (name, false) :: s.switches } words
      | none => .error .unknown
    else if small = text "link" then readFrom { s with link := some next } words
    else
      match attribute? small with
      | some name => readFrom { s with switches := (name, true) :: s.switches } (next :: words)
      | none => do readFrom { s with color := some (← colorOf word) } (next :: words)

/-- The style that a text writes. -/
def read (t : Text) : Except Fault Style :=
  if Text.trim t = text "none" then .ok plain else readFrom plain (Text.words t)

/-- The words of a style in the normal form. -/
def words (s : Style) : List Text :=
  let switched := attributes.filterMap fun name =>
    (s.switches.lookup name).map fun isOn => if isOn then name else text "not " ++ name
  let background := (s.background.map fun color => text "on " ++ color).toList
  let link := (s.link.map fun target => text "link " ++ target).toList
  switched ++ s.color.toList ++ background ++ link

/-- The normal form of a style. -/
def shown (s : Style) : Text :=
  if s.words.isEmpty then text "none" else Text.join (text " ") s.words

/-- The normal form of a text that may be a style. -/
def normalForm (t : Text) : Except ColorFault Text :=
  match read t with
  | .ok s => .ok s.shown
  | .error .unknown => .ok (Text.small (Text.trim t))
  | .error (.color fault) => .error fault

/-- Checks that a text can be shown as a style; one that is no style changes nothing. -/
def check (t : Text) : Except ColorFault Unit :=
  match read t with
  | .error (.color fault) => .error fault
  | _ => .ok ()

end Style

end VisibleText.Console
