import Signpost.Index.Build
import Signpost.Proofs.Definition
import Signpost.Proofs.Table
set_option autoImplicit false

/-!
# The outline of a source

What the index of a source is, said without a pass over its lines: which lines are headers, which
lines lie in the block of which header, which headers are methods of which class, and which
definition each name has in the end.

Definitions that depend on how much of the source has been looked at take a number of lines `m`; the
outline of the whole source takes all lines.  Everything here can be computed.
-/

namespace Signpost.Index

open Text

/-! ## Lines and blocks -/

/-- Line `k` of a source; beyond its end an empty line. -/
def lineAt (ls : List Text) (k : Nat) : Text := ls.getD k []

/-- Line `i` ends the block of line `k`: it comes later, is not blank, and is indented at most as
deep. -/
def Ends (ls : List Text) (k i : Nat) : Prop :=
  k < i ∧ isBlankText (lineAt ls i) = false ∧ indentation (lineAt ls i) ≤ indentation (lineAt ls k)

/-- The block of line `k` does not end before line `m`. -/
def IsOpen (ls : List Text) (k m : Nat) : Prop := ∀ i, i < m → ¬ Ends ls k i

/-- Line `j` lies in the block of line `k`: it comes later, and no line up to it ends the block. -/
def InBlock (ls : List Text) (k j : Nat) : Prop := k < j ∧ ∀ i, i ≤ j → ¬ Ends ls k i

instance (ls : List Text) (k i : Nat) : Decidable (Ends ls k i) :=
  inferInstanceAs (Decidable (_ ∧ _ ∧ _))

instance (ls : List Text) (k m : Nat) : Decidable (IsOpen ls k m) :=
  inferInstanceAs (Decidable (∀ i, i < m → ¬ Ends ls k i))

instance (ls : List Text) (k j : Nat) : Decidable (InBlock ls k j) :=
  inferInstanceAs (Decidable (k < j ∧ ∀ i, i ≤ j → ¬ Ends ls k i))

theorem inBlock_iff {ls : List Text} {k j : Nat} :
    InBlock ls k j ↔ k < j ∧ IsOpen ls k (j + 1) := by
  simp only [InBlock, IsOpen, Nat.lt_succ_iff]

theorem isOpen_succ_iff {ls : List Text} {k m : Nat} :
    IsOpen ls k (m + 1) ↔ IsOpen ls k m ∧ ¬ Ends ls k m := by
  constructor
  · intro h
    exact ⟨fun i hi => h i (Nat.lt_succ_of_lt hi), h m (Nat.lt_succ_self m)⟩
  · rintro ⟨hbefore, hlast⟩ i hi
    rcases Nat.lt_succ_iff_lt_or_eq.mp hi with h | rfl
    · exact hbefore i h
    · exact hlast

/-! ## Headers -/

variable (d : Dialect) (blocked : List Text) (ls : List Text)

/-- Kind and name of the header that starts on line `k`, if one does. -/
def headerAt (k : Nat) : Option (Kind × Text) := Header.start? d (lineAt ls k)

/-- The name in the header on line `k`. -/
def nameAt (k : Nat) : Text := ((headerAt d ls k).map Prod.snd).getD []

/-- The definition that the block of line `k` describes. -/
def definitionAt (k : Nat) : Definition :=
  Definition.ofBlock d blocked ((Block.at? ls k).getD [])

/-- The headers at the left margin, among the first `m` lines. -/
def topLines (m : Nat) : List Nat :=
  (List.range m).filter fun k => (headerAt d ls k).isSome && indentation (lineAt ls k) == 0

/-- Line `j` is the header of a method of the class on line `i`: a function header in the block of
that class, and in the block of no header that stands between the two. -/
def IsMethod (i j : Nat) : Prop :=
  InBlock ls i j ∧ (headerAt d ls j).map Prod.fst = some .func ∧
    ∀ k, k < j → i < k → (headerAt d ls k).isSome = true → ¬ InBlock ls k j

instance (i j : Nat) : Decidable (IsMethod d ls i j) :=
  inferInstanceAs (Decidable (_ ∧ _ ∧ ∀ k, k < j → i < k → _ → ¬ InBlock ls k j))

/-- The headers of the methods of the class on line `i`, among the first `m` lines. -/
def methodLines (m i : Nat) : List Nat := (List.range m).filter fun j => IsMethod d ls i j

/-! ## The index -/

/-- The methods of the class on line `i` by name, among the first `m` lines. -/
def methodsAt (m i : Nat) : Table Text Definition :=
  Table.latest ((methodLines d ls m i).map fun j => (nameAt d ls j, definitionAt d blocked ls j))

/-- The parameters of a class: its own when there are any, else those of its constructor when there
is one whose header could be read, else none. -/
def classParameters (own : Definition) (methods : Table Text Definition) : List Parameter :=
  match own.parameterList with
  | p :: ps => p :: ps
  | [] =>
    match Table.get? methods d.constructorName with
    | some constructor => if constructor.isDegenerate then [] else constructor.parameterList
    | none => []

/-- A class with its methods and parameters; any other definition as it is. -/
def withMethods (own : Definition) (methods : Table Text Definition) : Definition :=
  if own.kind = some .cls then
    { own with children := some methods, parameters := some (classParameters d own methods) }
  else own

/-- The index of a source, line by line: every name of a header at the left margin, in the order in
which the names first appear, with the definition of the last such header of that name. -/
def outline : Index :=
  Table.latest ((topLines d ls ls.length).map fun i =>
    (nameAt d ls i, withMethods d (definitionAt d blocked ls i)
      (methodsAt d blocked ls ls.length i)))

end Signpost.Index
