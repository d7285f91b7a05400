import Signpost.Table
import Signpost.Text.Utf8
set_option autoImplicit false

/-!
# Values

The data that settings are made of, before anything is known about their meaning.  A map keeps its
entries in order and may have keys that are no texts; as keys, a truth value and the number one or
zero are the same.

`Value.text` is how a value is shown in a message, as long as there is no number in it that is too
long to be shown, and `Value.merge` puts the entries of one map over those of another, map by map.
-/

namespace Signpost

open Text

/-- A key of a map. -/
inductive Key where
  | null
  | bool (b : Bool)
  | int (i : Int)
  | str (t : Text)
  deriving Repr, Inhabited

namespace Key

/-- The number that a key counts as, if it counts as one. -/
def number? : Key → Option Int
  | .bool b => some (if b then 1 else 0)
  | .int i => some i
  | _ => none

/-- Whether two keys stand for the same entry. -/
def same : Key → Key → Bool
  | .null, .null => true
  | .str s, .str t => s == t
  | a, b =>
    match a.number?, b.number? with
    | some i, some j => i == j
    | _, _ => false

instance : BEq Key := ⟨same⟩

/-- The text of a key, if it is one. -/
def text? : Key → Option Text
  | .str t => some t
  | _ => none

end Key

/-- A piece of data. -/
inductive Value where
  | null
  | bool (b : Bool)
  | int (i : Int)
  | str (t : Text)
  | list (items : List Value)
  | map (entries : List (Key × Value))
  deriving Repr, Inhabited

/-- The entries of a map, in order. -/
abbrev Entries := Table Key Value

namespace Value

/-- The key that a value may serve as; lists and maps serve as none. -/
def key? : Value → Option Key
  | .null => some .null
  | .bool b => some (.bool b)
  | .int i => some (.int i)
  | .str t => some (.str t)
  | .list _ => none
  | .map _ => none

/-- The truth values as they are shown. -/
def boolWord (b : Bool) : Text := if b then "True" else "False"

/-- The missing value as it is shown. -/
def nullWord : Text := "None"

end Value

/-- A key as it is shown inside a map. -/
def Key.shown : Key → Text
  | .null => Value.nullWord
  | .bool b => Value.boolWord b
  | .int i => ofInt i
  | .str t => quoted t

namespace Value

mutual

/-- A value as it is shown inside another: texts are quoted. -/
def shown : Value → Text
  | .null => nullWord
  | .bool b => boolWord b
  | .int i => ofInt i
  | .str t => quoted t
  | .list items => '[' :: (joinWith [',', ' '] (shownItems items) ++ [']'])
  | .map entries => '\x7b' :: (joinWith [',', ' '] (shownEntries entries) ++ ['\x7d'])

/-- The items of a list, each as it is shown. -/
def shownItems : List Value → List Text
  | [] => []
  | v :: vs => shown v :: shownItems vs

/-- The entries of a map, each as it is shown. -/
def shownEntries : List (Key × Value) → List Text
  | [] => []
  | (k, v) :: es => (k.shown ++ ':' :: ' ' :: shown v) :: shownEntries es

end

/-- A value as it is shown on its own: a text is itself. -/
def text : Value → Text
  | .str t => t
  | v => shown v

/-- Whether a number can be shown: it may not have too many digits. -/
def isShowableInt (i : Int) : Bool := (ofNat i.natAbs).length ≤ maxDecimalDigits

end Value

/-- Whether a key can be shown. -/
def Key.isShowable : Key → Bool
  | .int i => Value.isShowableInt i
  | _ => true

namespace Value

mutual

/-- Whether a value can be shown: no number in it is too long. -/
def isShowable : Value → Bool
  | .int i => isShowableInt i
  | .list items => areShowable items
  | .map entries => areShowableEntries entries
  | _ => true

/-- Whether all items of a list can be shown. -/
def areShowable : List Value → Bool
  | [] => true
  | v :: vs => isShowable v && areShowable vs

/-- Whether all entries of a map can be shown, keys included. -/
def areShowableEntries : List (Key × Value) → Bool
  | [] => true
  | (k, v) :: es => k.isShowable && isShowable v && areShowableEntries es

end

/-- A value as it is shown on its own, if it can be. -/
def text? (v : Value) : Option Text := if v.isShowable then some v.text else none

mutual

/-- What stands where `below` stood once a value is put over it: two maps are merged, anything else
is replaced. -/
def mergedOver (below : Option Value) : Value → Value
  | .map above =>
    match below with
    | some (.map entries) => .map (merge entries above)
    | _ => .map above
  | v => v

/-- Puts entries over those of `base`, one after the other.  Keys of `base` keep their places. -/
def merge (base : Entries) : List (Key × Value) → Entries
  | [] => base
  | (k, v) :: rest => merge (Table.insert base k (mergedOver (Table.get? base k) v)) rest

end

/-- The entry of a map under a text. -/
def lookup (entries : Entries) (name : Text) : Option Value := Table.get? entries (.str name)

end Value

/-! ## What is no value -/

/-- Why something that was read gives no value. -/
inductive Unread where
  /-- It is not well formed. -/
  | malformed
  /-- Its bytes are no text. -/
  | undecoded (fault : Utf8.Fault)
  /-- It is well formed, but there is no such number, date or character as it writes. -/
  | unrepresentable
  /-- It is not followed here: it has data in it of a kind that no value is, such as a fraction or a
  date, or data inside data for too many levels, or several faults of which one would be met first.
  What becomes of it is left open. -/
  | unfollowed
  deriving DecidableEq, Repr, Inhabited

/-- How many levels of data inside data are followed. -/
def maxLevels : Nat := 64

/-- What is there, or the fault of what is not well formed. -/
def Unread.orMalformed {α : Type} : Option α → Except Unread α
  | some a => .ok a
  | none => .error .malformed

/-- What two parts come to, both of which have to be read, in whatever order. -/
def Unread.both {α β : Type} : Except Unread α → Except Unread β → Except Unread (α × β)
  | .ok a, .ok b => .ok (a, b)
  | .ok _, .error why => .error why
  | .error why, .ok _ => .error why
  | .error why, .error why' => .error (if why = why' then why else .unfollowed)

end Signpost
