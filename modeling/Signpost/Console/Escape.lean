import Signpost.Text.Basic
set_option autoImplicit false

/-!
# Terminal escapes

A terminal takes an escape character, an opening bracket, parameters and a letter as an order and
not as text.  Messages and completions are for any reader, so such sequences are taken out of them.
-/

namespace Signpost.Console

/-- The character that starts an escape sequence. -/
def escapeChar : Char := Char.ofNat 0x1B

/-- A parameter of an escape sequence. -/
def isParameterMark (c : Char) : Bool := c == ';' || c == '?' || c.isDigit

/-- What follows an escape sequence, from after its opening bracket on. -/
def afterSequence? (t : Text) : Option Text :=
  match t.dropWhile isParameterMark with
  | c :: rest => if c.isAlpha then some rest else none
  | [] => none

/-- Takes the escape sequences out; `fuel` bounds the length of the text. -/
def withoutEscapesWithin : (fuel : Nat) → Text → Text
  | 0, t => t
  | _ + 1, [] => []
  | fuel + 1, c :: cs =>
    let kept := c :: withoutEscapesWithin fuel cs
    match cs with
    | '[' :: rest =>
      if c = escapeChar then
        match afterSequence? rest with
        | some rest => withoutEscapesWithin fuel rest
        | none => kept
      else kept
    | _ => kept

/-- A text without escape sequences. -/
def withoutEscapes (t : Text) : Text := withoutEscapesWithin t.length t

end Signpost.Console
