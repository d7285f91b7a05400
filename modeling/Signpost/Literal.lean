import Signpost.Text.Basic
set_option autoImplicit false

/-!
# String literals

Reading a default value needs to know one thing about string literals: whether a text ends inside
one.  A literal starts and ends with the same quote, and inside it a backslash takes the next
character with it.  Outside a literal a backslash is a character like any other.
-/

namespace Signpost.Literal

/-- A character that starts a string literal. -/
def isQuote (c : Char) : Bool := c == '"' || c == '\''

/-- Where a text has come to. -/
inductive State where
  /-- Outside every literal. -/
  | outside
  /-- Inside a literal that the given quote started. -/
  | inside (quote : Char)
  /-- Inside a literal, right after a backslash. -/
  | escaped (quote : Char)
  deriving DecidableEq, Repr, Inhabited

/-- One character further. -/
def State.next : State → Char → State
  | .outside, c => if isQuote c then .inside c else .outside
  | .inside q, c => if c = '\\' then .escaped q else if c = q then .outside else .inside q
  | .escaped q, _ => .inside q

/-- Where a text comes to from a state. -/
def State.after (s : State) (t : Text) : State := t.foldl State.next s

/-- Whether a text ends inside a string literal. -/
def endsOpen (t : Text) : Bool := State.after .outside t != .outside

end Signpost.Literal
