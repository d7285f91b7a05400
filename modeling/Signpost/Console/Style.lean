import Signpost.Table
import Signpost.Text.Case
import Signpost.Text.Digit
set_option autoImplicit false

/-!
# Styles

A style is written as words: attributes such as `bold`, each of which `not` takes away, a colour, a
background colour after `on`, and an address after `link`.  Two texts that describe the same style
have the same normal form, so a closing tag need not repeat the words of the opening one.  A text
that describes no style is its own name, without regard to case.
-/

namespace Signpost.Console

open Text

/-- The attributes in the order of the normal form, with their short names. -/
def attributeNames : List (Text × Text) :=
  [("bold", "b"), ("dim", "d"), ("italic", "i"), ("underline", "u"), ("blink", "blink"),
   ("blink2", "blink2"), ("reverse", "r"), ("conceal", "c"), ("strike", "s"), ("underline2", "uu"),
   ("frame", "frame"), ("encircle", "encircle"), ("overline", "o")]

/-- The attribute with a name, long or short. -/
def attribute? (word : Text) : Option Text :=
  (attributeNames.find? fun a => a.1 == word || a.2 == word).map Prod.fst

/-- The colours that have a name. -/
def colourNames : List String :=
  ["default", "black", "red", "green", "yellow", "blue", "magenta", "cyan", "white", "bright_black",
   "bright_red", "bright_green", "bright_yellow", "bright_blue", "bright_magenta", "bright_cyan",
   "bright_white", "grey0", "gray0", "navy_blue", "dark_blue", "blue3", "blue1", "dark_green",
   "deep_sky_blue4", "dodger_blue3", "dodger_blue2", "green4", "spring_green4", "turquoise4",
   "deep_sky_blue3", "dodger_blue1", "green3", "spring_green3", "dark_cyan", "light_sea_green",
   "deep_sky_blue2", "deep_sky_blue1", "spring_green2", "cyan3", "dark_turquoise", "turquoise2",
   "green1", "spring_green1", "medium_spring_green", "cyan2", "cyan1", "dark_red", "deep_pink4",
   "purple4", "purple3", "blue_violet", "orange4", "grey37", "gray37", "medium_purple4",
   "slate_blue3", "royal_blue1", "chartreuse4", "dark_sea_green4", "pale_turquoise4", "steel_blue",
   "steel_blue3", "cornflower_blue", "chartreuse3", "cadet_blue", "sky_blue3", "steel_blue1",
   "pale_green3", "sea_green3", "aquamarine3", "medium_turquoise", "chartreuse2", "sea_green2",
   "sea_green1", "aquamarine1", "dark_slate_gray2", "dark_magenta", "dark_violet", "purple",
   "light_pink4", "plum4", "medium_purple3", "slate_blue1", "yellow4", "wheat4", "grey53", "gray53",
   "light_slate_grey", "light_slate_gray", "medium_purple", "light_slate_blue", "dark_olive_green3",
   "dark_sea_green", "light_sky_blue3", "sky_blue2", "dark_sea_green3", "dark_slate_gray3",
   "sky_blue1", "chartreuse1", "light_green", "pale_green1", "dark_slate_gray1", "red3",
   "medium_violet_red", "magenta3", "dark_orange3", "indian_red", "hot_pink3", "medium_orchid3",
   "medium_orchid", "medium_purple2", "dark_goldenrod", "light_salmon3", "rosy_brown", "grey63",
   "gray63", "medium_purple1", "gold3", "dark_khaki", "navajo_white3", "grey69", "gray69",
   "light_steel_blue3", "light_steel_blue", "yellow3", "dark_sea_green2", "light_cyan3",
   "light_sky_blue1", "green_yellow", "dark_olive_green2", "dark_sea_green1", "pale_turquoise1",
   "deep_pink3", "magenta2", "hot_pink2", "orchid", "medium_orchid1", "orange3", "light_pink3",
   "pink3", "plum3", "violet", "light_goldenrod3", "tan", "misty_rose3", "thistle3", "plum2",
   "khaki3", "light_goldenrod2", "light_yellow3", "grey84", "gray84", "light_steel_blue1",
   "yellow2", "dark_olive_green1", "honeydew2", "light_cyan1", "red1", "deep_pink2", "deep_pink1",
   "magenta1", "orange_red1", "indian_red1", "hot_pink", "dark_orange", "salmon1", "light_coral",
   "pale_violet_red1", "orchid2", "orchid1", "orange1", "sandy_brown", "light_salmon1",
   "light_pink1", "pink1", "plum1", "gold1", "navajo_white1", "misty_rose1", "thistle1", "yellow1",
   "light_goldenrod1", "khaki1", "wheat1", "cornsilk1", "grey100", "gray100", "grey3", "gray3",
   "grey7", "gray7", "grey11", "gray11", "grey15", "gray15", "grey19", "gray19", "grey23", "gray23",
   "grey27", "gray27", "grey30", "gray30", "grey35", "gray35", "grey39", "gray39", "grey42",
   "gray42", "grey46", "gray46", "grey50", "gray50", "grey54", "gray54", "grey58", "gray58",
   "grey62", "gray62", "grey66", "gray66", "grey70", "gray70", "grey74", "gray74", "grey78",
   "gray78", "grey82", "gray82", "grey85", "gray85", "grey89", "gray89", "grey93", "gray93"]

/-- Why a text describes no style. -/
inductive StyleFault where
  /-- A word is out of place. -/
  | notStyle
  /-- A part of a colour should be a number and is none. -/
  | notNumber
  deriving DecidableEq, Repr, Inhabited

/-- The inside of a text that starts with a word and an opening bracket and ends with a closing
one. -/
def between? (word t : Text) : Option Text :=
  (afterPrefix? (word ++ ['(']) t).bind fun rest =>
    if rest.getLast? = some ')' then some rest.dropLast else none

/-- The parts of a colour, each a number up to 255. -/
def checkParts (parts : List Text) : Except StyleFault Unit :=
  match parts.mapM (digitsValue? 0 false) with
  | none => .error .notNumber
  | some numbers => if numbers.all (· ≤ 255) then .ok () else .error .notStyle

/-- Checks that a word in lower case is a colour: a name, six hexadecimal digits after `#`, a number
up to 255, or three of them. -/
def checkColour (word : Text) : Except StyleFault Unit :=
  if colourNames.any (·.toList == word) then .ok ()
  else
    match word, between? "color" word, between? "rgb" word with
    | '#' :: digits, _, _ =>
      if digits.length = 6 && digits.all fun c => c.isDigit || ('a' ≤ c && c ≤ 'f') then .ok ()
      else .error .notStyle
    | _, some digits, _ =>
      if 1 ≤ digits.length && digits.length ≤ 3 && digits.all Char.isDigit then checkParts [digits]
      else .error .notStyle
    | _, _, some inside =>
      let parts := splitAtEach (· == ',') inside
      if parts.length = 3 && inside.all fun c => c == ',' || (digitValue? c).isSome then
        checkParts parts
      else .error .notStyle
    | _, _, _ => .error .notStyle

/-- A style. -/
structure Style where
  /-- Which attributes are set, and whether they are given or taken away. -/
  attributes : Table Text Bool := []
  colour : Option Text := none
  background : Option Text := none
  link : Option Text := none
  deriving DecidableEq, Repr, Inhabited

namespace Style

/-- Reads the words of a style. -/
def ofWords (s : Style) : List Text → Except StyleFault Style
  | [] => .ok s
  | word :: rest =>
    let w := lower word
    if w = "on" then
      match rest with
      | [] => .error .notStyle
      | colour :: rest =>
        match checkColour (lower colour) with
        | .error fault => .error fault
        | .ok _ => ofWords { s with background := lower colour } rest
    else if w = "not" then
      match rest with
      | [] => .error .notStyle
      | name :: rest =>
        match attribute? name with
        | none => .error .notStyle
        | some a => ofWords { s with attributes := Table.insert s.attributes a false } rest
    else if w = "link" then
      match rest with
      | [] => .error .notStyle
      | address :: rest => ofWords { s with link := address } rest
    else
      match attribute? w with
      | some a => ofWords { s with attributes := Table.insert s.attributes a true } rest
      | none =>
        match checkColour w with
        | .error fault => .error fault
        | .ok _ => ofWords { s with colour := w } rest

/-- The words of a style, in the order of the normal form. -/
def words (s : Style) : List Text :=
  let named (word : Text) (value : Option Text) : List Text := match value with
    | none => []
    | some v => [word, v]
  attributeNames.flatMap (fun a =>
      match Table.get? s.attributes a.1 with
      | none => []
      | some true => [a.1]
      | some false => named "not" a.1) ++
    s.colour.toList ++ named "on" s.background ++ named "link" s.link

/-- The style without any effect. -/
def plainName : Text := "none"

/-- The normal form of a style. -/
def text (s : Style) : Text := if s.words.isEmpty then plainName else joinWith [' '] s.words

end Style

/-- The words of a text. -/
def styleWords (t : Text) : List Text := (splitAtEach isBlank t).filter fun w => !w.isEmpty

/-- The name of the style that a text describes: its normal form, or the text in lower case if it
describes none. -/
def styleName (t : Text) : Except StyleFault Text :=
  if trim t = Style.plainName then .ok Style.plainName
  else
    match Style.ofWords {} (styleWords t) with
    | .ok s => .ok s.text
    | .error .notStyle => .ok (lower (trim t))
    | .error .notNumber => .error .notNumber

end Signpost.Console
