import Signpost.Console.Emoji
import Signpost.Console.Payload
import Signpost.Console.Style
import Signpost.Text.Margin
import Signpost.Text.Width
set_option autoImplicit false

/-!
# Console markup

Lines printed on the console may carry style tags in brackets.  A tag starts with a lower-case
letter, `#`, `/` or `@`, holds no other opening bracket, and ends at the next closing one; it is not
shown.  Backslashes before a tag stand for half as many, and an odd one keeps the tag as text.  A
closing tag has to match a tag that is open: the one it names, or the last one if it names none.
Names of emoji stand for the emoji, some control characters are never shown, and tabs are shown as
spaces.
-/

namespace Signpost.Console

open Text

/-- A piece of a line with markup. -/
inductive Piece where
  /-- Text to show. -/
  | text (t : Text)
  /-- A style tag, without its brackets. -/
  | tag (t : Text)
  deriving DecidableEq, Repr, Inhabited

/-- A character that may start a tag. -/
def startsTag (c : Char) : Bool :=
  ('a' ≤ c && c ≤ 'z') || c == '#' || c == '/' || c == '@'

/-- The inside of the tag after an opening bracket, and what follows its closing one. -/
def tagBody? : Text → Option (Text × Text)
  | [] => none
  | c :: cs =>
    if c == ']' then some ([], cs)
    else if c == '[' then none
    else (tagBody? cs).map fun (body, rest) => (c :: body, rest)

/-- The tag that a text starts with, and what follows it. -/
def tag? : Text → Option (Text × Text)
  | '[' :: c :: cs =>
    if startsTag c then (tagBody? cs).map fun (body, rest) => (c :: body, rest) else none
  | _ => none

/-- Backslashes before a tag, and the tag: half the backslashes are shown, and the tag too if one is
left over. -/
def escapedTag (backslashes : Nat) (body : Text) : List Piece :=
  (if backslashes / 2 = 0 then [] else [Piece.text (List.replicate (backslashes / 2) '\\')]) ++
    [if backslashes % 2 = 1 then .text ('[' :: (body ++ [']'])) else .tag body]

/-- The pieces of a line; `plain` is the text before, last character first, that belongs to no
tag. -/
def piecesFrom : Nat → (plain : Text) → Text → List Piece
  | 0, plain, t => [.text (plain.reverse ++ t)]
  | _ + 1, plain, [] => [.text plain.reverse]
  | fuel + 1, plain, c :: cs =>
    let backslashes := ((c :: cs).takeWhile (· == '\\')).length
    match tag? ((c :: cs).drop backslashes) with
    | some (body, rest) =>
      .text plain.reverse :: (escapedTag backslashes body ++ piecesFrom fuel [] rest)
    | none =>
      if backslashes = 0 then piecesFrom fuel (c :: plain) cs
      else
        piecesFrom fuel (List.replicate backslashes '\\' ++ plain) ((c :: cs).drop backslashes)

/-- The pieces of a line. -/
def pieces (t : Text) : List Piece := piecesFrom (t.length + 1) [] t

/-- A text without the backslash before each opening bracket that starts no tag. -/
def unescaped : Text → Text
  | '\\' :: '[' :: cs => '[' :: unescaped cs
  | c :: cs => c :: unescaped cs
  | [] => []

/-- What is wrong with the tags of a line. -/
inductive MarkupFault where
  /-- A closing tag matches no open one. -/
  | unmatched
  /-- The data that a tag carries cannot be read. -/
  | payload
  /-- A part of a colour is no number. -/
  | notNumber
  deriving DecidableEq, Repr, Inhabited

/-- A tag that is open: the name of its style, and what follows the equals sign. -/
structure OpenTag where
  style : Text
  payload : Option Text := none
  deriving DecidableEq, Repr, Inhabited

/-- The name of a style in a tag. -/
def tagStyle (t : Text) : Except MarkupFault Text :=
  (styleName t).mapError fun _ => .notNumber

/-- Whether an open tag may be closed: the data for an action has to be readable. -/
def OpenTag.isClosable (tag : OpenTag) : Bool :=
  match tag.style, tag.payload with
  | '@' :: _, some payload => payload.isEmpty || Payload.isReadable payload
  | _, _ => true

/-- Closes the last tag that is open, or the last one with the style that is named; `opened` are the
open tags, innermost first. -/
def close (opened : List OpenTag) (name : Text) : Except MarkupFault (List OpenTag) := do
  let found ← if (trim name).isEmpty then pure opened.head? else do
    let style ← tagStyle (trim name)
    pure (opened.find? (·.style == style))
  match found with
  | none => .error .unmatched
  | some tag => if tag.isClosable then .ok (opened.erase tag) else .error .payload

/-- What pieces show; `opened` are the open tags, innermost first. -/
def visibleFrom (opened : List OpenTag) : List Piece → Except MarkupFault Text
  | [] => .ok []
  | .text t :: rest => (visibleFrom opened rest).map (withEmoji (unescaped t) ++ ·)
  | .tag t :: rest =>
    let (name, payload) := cutAt '=' t
    match name with
    | '/' :: style =>
      match close opened style with
      | .error fault => .error fault
      | .ok opened => visibleFrom opened rest
    | _ =>
      match tagStyle name with
      | .error fault => .error fault
      | .ok style => visibleFrom (⟨style, payload⟩ :: opened) rest

/-- A control character that is never shown: the bell, the backspace, the vertical and form feeds
and the carriage return. -/
def isHidden (c : Char) : Bool := inRanges [(0x07, 0x08), (0x0B, 0x0D)] c.toNat

/-- What a line with markup shows. -/
def visible (t : Text) : Except MarkupFault Text :=
  (visibleFrom [] (pieces t)).map fun shown =>
    alignTabs tabWidth (shown.filter fun c => !isHidden c)

end Signpost.Console
