import Signpost.Text.Basic
set_option autoImplicit false

/-!
# Call paths

The text left of the cursor is reduced to the dotted path of the call or namespace that the cursor
stands in.  Finished calls are dropped with their arguments, and a closing parenthesis that closes
nothing drops everything before it.  Parentheses inside strings count like any other.

The scan keeps the text in pieces: one for the outermost level, and one for each parenthesis that
is still open, which starts with that parenthesis.  Closing a parenthesis forgets the innermost
piece.
-/

namespace Signpost.Query

/-- A scanned text: the innermost piece, and the pieces around it, innermost first. -/
structure CallStack where
  current : Text := []
  enclosing : List Text := []
  deriving DecidableEq, Repr, Inhabited

namespace CallStack

/-- One character further. -/
def next (s : CallStack) (c : Char) : CallStack :=
  if c = '(' then ⟨['('], s.current :: s.enclosing⟩
  else if c = ')' then
    match s.enclosing with
    | [] => ⟨[], []⟩
    | piece :: rest => ⟨piece, rest⟩
  else ⟨s.current ++ [c], s.enclosing⟩

/-- The scan of a text. -/
def scan (t : Text) : CallStack := t.foldl next {}

/-- The text that encloses the innermost piece. -/
def outer (s : CallStack) : Text := s.enclosing.reverse.flatten

/-- All that is left of the text. -/
def path (s : CallStack) : Text := s.outer ++ s.current

/-- What is left up to the innermost open parenthesis; all of it if none is open. -/
def callee (s : CallStack) : Text :=
  match s.enclosing with
  | [] => s.path
  | _ :: _ => s.outer ++ ['(']

end CallStack

/-- The path of the call or namespace at the end of a line's beginning.  After a comma the path ends
at the innermost open parenthesis, so that every argument position gives the same call. -/
def callPath (linePrefix : Text) (afterComma : Bool) : Text :=
  let s := CallStack.scan linePrefix
  if afterComma then s.callee else s.path

end Signpost.Query
