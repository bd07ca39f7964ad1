import ArityFill.Fault
import ArityFill.Text.Case
import ArityFill.Text.Integer
import ArityFill.Text.Segment

/-! # Styles

    A style is written as words: attributes, a color, the word `on` with a color for the background,
    the word `not` with an attribute that is switched off, the word `link` with an address. The
    same style can be written in many ways; `Style.normal` chooses one of them.
-/

namespace ArityFill

/-- A style. -/
structure Style where
  /-- The attributes that are switched on or off; the last entry of an attribute counts. -/
  switches : List (List Char × Bool) := []
  /-- The color. -/
  color : Option (List Char) := none
  /-- The color of the background. -/
  background : Option (List Char) := none
  /-- The address that a link leads to. -/
  link : Option (List Char) := none

namespace Style

/-- The attributes in the order in which a style names them. -/
def attributes : List (List Char) :=
  ["bold", "dim", "italic", "underline", "blink", "blink2", "reverse", "conceal", "strike",
   "underline2", "frame", "encircle", "overline"].map String.toList

/-- The short names of attributes. -/
def shortNames : List (List Char × List Char) :=
  [("b", "bold"), ("d", "dim"), ("i", "italic"), ("u", "underline"), ("r", "reverse"),
   ("c", "conceal"), ("s", "strike"), ("uu", "underline2"), ("o", "overline")].map
    fun (short, name) => (short.toList, name.toList)

/-- The attribute that a word names. -/
def attribute? (word : List Char) : Option (List Char) :=
  if attributes.contains word then some word else shortNames.lookup word

/-! ## Colors -/

/-- The colors that have names. -/
def colorNames : List String :=
  ["aquamarine1", "aquamarine3", "black", "blue", "blue1", "blue3", "blue_violet", "bright_black",
   "bright_blue", "bright_cyan", "bright_green", "bright_magenta", "bright_red", "bright_white",
   "bright_yellow", "cadet_blue", "chartreuse1", "chartreuse2", "chartreuse3", "chartreuse4",
   "cornflower_blue", "cornsilk1", "cyan", "cyan1", "cyan2", "cyan3", "dark_blue", "dark_cyan",
   "dark_goldenrod", "dark_green", "dark_khaki", "dark_magenta", "dark_olive_green1",
   "dark_olive_green2", "dark_olive_green3", "dark_orange", "dark_orange3", "dark_red",
   "dark_sea_green", "dark_sea_green1", "dark_sea_green2", "dark_sea_green3", "dark_sea_green4",
   "dark_slate_gray1", "dark_slate_gray2", "dark_slate_gray3", "dark_turquoise", "dark_violet",
   "deep_pink1", "deep_pink2", "deep_pink3", "deep_pink4", "deep_sky_blue1", "deep_sky_blue2",
   "deep_sky_blue3", "deep_sky_blue4", "dodger_blue1", "dodger_blue2", "dodger_blue3", "gold1",
   "gold3", "gray0", "gray100", "gray11", "gray15", "gray19", "gray23", "gray27", "gray3", "gray30",
   "gray35", "gray37", "gray39", "gray42", "gray46", "gray50", "gray53", "gray54", "gray58",
   "gray62", "gray63", "gray66", "gray69", "gray7", "gray70", "gray74", "gray78", "gray82",
   "gray84", "gray85", "gray89", "gray93", "green", "green1", "green3", "green4", "green_yellow",
   "grey0", "grey100", "grey11", "grey15", "grey19", "grey23", "grey27", "grey3", "grey30",
   "grey35", "grey37", "grey39", "grey42", "grey46", "grey50", "grey53", "grey54", "grey58",
   "grey62", "grey63", "grey66", "grey69", "grey7", "grey70", "grey74", "grey78", "grey82",
   "grey84", "grey85", "grey89", "grey93", "honeydew2", "hot_pink", "hot_pink2", "hot_pink3",
   "indian_red", "indian_red1", "khaki1", "khaki3", "light_coral", "light_cyan1", "light_cyan3",
   "light_goldenrod1", "light_goldenrod2", "light_goldenrod3", "light_green", "light_pink1",
   "light_pink3", "light_pink4", "light_salmon1", "light_salmon3", "light_sea_green",
   "light_sky_blue1", "light_sky_blue3", "light_slate_blue", "light_slate_gray", "light_slate_grey",
   "light_steel_blue", "light_steel_blue1", "light_steel_blue3", "light_yellow3", "magenta",
   "magenta1", "magenta2", "magenta3", "medium_orchid", "medium_orchid1", "medium_orchid3",
   "medium_purple", "medium_purple1", "medium_purple2", "medium_purple3", "medium_purple4",
   "medium_spring_green", "medium_turquoise", "medium_violet_red", "misty_rose1", "misty_rose3",
   "navajo_white1", "navajo_white3", "navy_blue", "orange1", "orange3", "orange4", "orange_red1",
   "orchid", "orchid1", "orchid2", "pale_green1", "pale_green3", "pale_turquoise1",
   "pale_turquoise4", "pale_violet_red1", "pink1", "pink3", "plum1", "plum2", "plum3", "plum4",
   "purple", "purple3", "purple4", "red", "red1", "red3", "rosy_brown", "royal_blue1", "salmon1",
   "sandy_brown", "sea_green1", "sea_green2", "sea_green3", "sky_blue1", "sky_blue2", "sky_blue3",
   "slate_blue1", "slate_blue3", "spring_green1", "spring_green2", "spring_green3", "spring_green4",
   "steel_blue", "steel_blue1", "steel_blue3", "tan", "thistle1", "thistle3", "turquoise2",
   "turquoise4", "violet", "wheat1", "wheat4", "white", "yellow", "yellow1", "yellow2", "yellow3",
   "yellow4"]

/-- The greatest number of a color, and of a component of one. -/
def colorBound : Nat := 255

/-- What stands between an opening and the closing bracket of a word. -/
def inside? (opening : String) (word : List Char) : Option (List Char) :=
  match Text.after? opening.toList word with
  | some rest => if rest.getLast? = some ')' then some rest.dropLast else none
  | none => none

/-- Whether a word is a hash and six hexadecimal digits, in small letters. -/
def isHexColor : List Char → Bool
  | '#' :: digits =>
    digits.length = 6 && digits.all fun c => Text.isAsciiDigit c || ('a' ≤ c && c ≤ 'f')
  | _ => false

/-- Whether a word is a color by its number. -/
def isNumberedColor (word : List Char) : Bool :=
  match inside? "color(" word with
  | some digits =>
    !digits.isEmpty && digits.length ≤ 3 && digits.all Text.isAsciiDigit &&
      Text.digitsValue digits ≤ colorBound
  | none => false

/-- Whether a word is a color by its three components. A component without digits, or with too many
    of them, is a fault. -/
def isMixedColor (word : List Char) : Except Fault Bool :=
  match inside? "rgb(" word with
  | some body =>
    let components := Text.pieces ',' body
    if components.length ≠ 3 || !body.all (fun c => Text.isDigit c || c = ',') then .ok false
    else if components.any fun ds => ds.isEmpty || Text.digitLimit < ds.length then
      .error .malformedColor
    else .ok (components.all fun ds => Text.digitsValue ds ≤ colorBound)
  | none => .ok false

/-- Whether a word in small letters names a color. -/
def isColor (word : List Char) : Except Fault Bool :=
  if word = "default".toList ∨ colorNames.contains (String.ofList word) ∨ isHexColor word ∨
      isNumberedColor word then .ok true
  else isMixedColor word

/-! ## Reading and writing -/

/-- The style that words write on top of another, if they write one. -/
def ofWords? : Style → List (List Char) → Except Fault (Option Style)
  | s, [] => .ok (some s)
  | s, word :: rest =>
    let small := Text.lower word
    if small = "on".toList then
      match rest with
      | [] => .ok none
      | color :: rest =>
        match isColor (Text.lower color) with
        | .ok true => ofWords? { s with background := some (Text.lower color) } rest
        | .ok false => .ok none
        | .error f => .error f
    else if small = "not".toList then
      match rest with
      | [] => .ok none
      | name :: rest =>
        match attribute? name with
        | some a => ofWords? { s with switches := s.switches ++ [(a, false)] } rest
        | none => .ok none
    else if small = "link".toList then
      match rest with
      | [] => .ok none
      | address :: rest => ofWords? { s with link := some address } rest
    else
      match attribute? small with
      | some a => ofWords? { s with switches := s.switches ++ [(a, true)] } rest
      | none =>
        match isColor small with
        | .ok true => ofWords? { s with color := some small } rest
        | .ok false => .ok none
        | .error f => .error f

/-- The words that an attribute adds to a style. -/
def switchWords (s : Style) (a : List Char) : List (List Char) :=
  match s.switches.reverse.lookup a with
  | some true => [a]
  | some false => ["not".toList, a]
  | none => []

/-- The words of a style, in a fixed order. A style that asks for nothing is called `none`. -/
def words (s : Style) : List (List Char) :=
  let all := attributes.flatMap s.switchWords ++ s.color.toList ++
    (s.background.map fun b => ["on".toList, b]).getD [] ++
    (s.link.map fun l => ["link".toList, l]).getD []
  if all.isEmpty then ["none".toList] else all

/-- The chosen way to write what a text writes as a style. A text that writes none is only put in
    small letters. -/
def normal (cs : List Char) : Except Fault (List Char) :=
  if Text.trim Text.isBlank cs = "none".toList then .ok "none".toList
  else
    match ofWords? {} (Text.fields cs) with
    | .ok (some s) => .ok ([' '].intercalate s.words)
    | .ok none => .ok (Text.lower (Text.trim Text.isBlank cs))
    | .error f => .error f

/-- The fault of a text that is taken for a style, if there is one. A text that writes no style has
    none. -/
def fault? (cs : List Char) : Option Fault :=
  match ofWords? {} (Text.fields cs) with
  | .error f => some f
  | .ok _ => none

end Style

end ArityFill
