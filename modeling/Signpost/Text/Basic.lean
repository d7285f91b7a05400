set_option autoImplicit false

/-!
# Texts

Everything this library reads is a sequence of characters: a module, a line being edited, a name,
a settings value.  Columns and lengths count characters, so a text is the list of its characters
and an offset is a position in that list.  String literals stand for the text they spell.
-/

namespace Signpost

/-- A text: its characters in order. -/
abbrev Text := List Char

instance : Coe String Text := ⟨String.toList⟩

namespace Text

/-- A text as a string, for the world outside this library. -/
def toString (t : Text) : String := String.ofList t

/-- Whether a code point lies in one of the ranges of a table; both ends of a range belong to it. -/
def inRanges (table : List (Nat × Nat)) (n : Nat) : Bool :=
  table.any fun r => r.1 ≤ n && n ≤ r.2

/-- The texts one after the other, with `sep` between neighbours. -/
def joinWith (sep : Text) : List Text → Text
  | [] => []
  | [t] => t
  | t :: ts => t ++ sep ++ joinWith sep ts

/-- Cuts a text at every character that satisfies `p`; always at least one piece. -/
def splitAtEach (p : Char → Bool) : Text → List Text
  | [] => [[]]
  | c :: cs =>
    if p c then [] :: splitAtEach p cs
    else
      match splitAtEach p cs with
      | [] => [[c]]
      | piece :: rest => (c :: piece) :: rest

/-- What precedes the first `c`, and what follows it if there is one. -/
def cutAt (c : Char) : Text → Text × Option Text
  | [] => ([], none)
  | d :: ds =>
    if d = c then ([], some ds)
    else
      let (before, after) := cutAt c ds
      (d :: before, after)

/-- The rest of `t` after `p`, if `t` starts with `p`. -/
def afterPrefix? : (p t : Text) → Option Text
  | [], t => some t
  | _ :: _, [] => none
  | a :: p, b :: t => if a = b then afterPrefix? p t else none

/-- Whether `t` starts with `p`. -/
def startsWith (t p : Text) : Bool := (afterPrefix? p t).isSome

/-- The longest ending of a text all of whose characters satisfy `p`. -/
def takeWhileEnd (p : Char → Bool) (t : Text) : Text :=
  (t.reverse.takeWhile p).reverse

/-- A text without its longest ending of characters that satisfy `p`. -/
def dropWhileEnd (p : Char → Bool) (t : Text) : Text :=
  (t.reverse.dropWhile p).reverse

/-- The part of a text before an offset.  A negative offset counts from the end; an offset out of
range is moved to the nearer end. -/
def before (t : Text) (offset : Int) : Text :=
  if 0 ≤ offset then t.take offset.toNat else t.take (t.length - offset.natAbs)

/-- The decimal form of a natural number. -/
def ofNat (n : Nat) : Text := Nat.toDigits 10 n

/-- The decimal form of an integer, a minus sign first when it is negative. -/
def ofInt (i : Int) : Text :=
  if i < 0 then '-' :: ofNat i.natAbs else ofNat i.natAbs

/-- The greatest number of digits that a decimal number may be written with. -/
def maxDecimalDigits : Nat := 4300

/-- The lower-case form of the letters `A` to `Z`; all else is kept. -/
def lowerAscii (t : Text) : Text := t.map Char.toLower

end Text

end Signpost
