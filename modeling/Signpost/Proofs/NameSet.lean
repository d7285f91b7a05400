import Mathlib.Data.Char
import Mathlib.Data.List.Lex
import Mathlib.Data.List.Induction
import Signpost.NameSet
set_option autoImplicit false

/-!
# Sets of names are sorted

Code point order is the order of lists of characters, so a set is an increasing list.  Making a set
of an increasing list changes nothing (`ofList_eq_self`), and what has been made a set is increasing
(`pairwise_ofList`); a set made again is therefore the same set.
-/

namespace Signpost

theorem Text.precedes_iff_lt (s t : Text) : Text.precedes s t = true ↔ s < t := by
  induction s generalizing t with
  | nil => cases t <;> simp [precedes]
  | cons a s ih =>
    cases t with
    | nil => simp [precedes]
    | cons b t =>
      have hlt : a.toNat < b.toNat ↔ a < b := Iff.rfl
      simp [precedes, ih, List.cons_lt_cons_iff, hlt]

namespace NameSet

theorem insert_of_forall_lt {name : Text} {s : NameSet} (h : ∀ n ∈ s, n < name) :
    insert name s = s ++ [name] := by
  induction s with
  | nil => rfl
  | cons n s ih =>
    obtain ⟨hn, hs⟩ := List.forall_mem_cons.mp h
    have hnot : ¬ Text.precedes name n = true := by
      rw [Text.precedes_iff_lt]
      exact hn.asymm
    rw [insert, if_neg hn.ne', if_neg hnot, ih hs, List.cons_append]

theorem mem_insert {name n : Text} {s : NameSet} : n ∈ insert name s ↔ n = name ∨ n ∈ s := by
  induction s with
  | nil => simp [insert]
  | cons m s ih =>
    rw [insert]
    split
    · rename_i heq
      simp [heq]
    · split
      · simp
      · simp only [List.mem_cons, ih, or_left_comm]

theorem pairwise_insert {s : NameSet} (h : s.Pairwise (· < ·)) (name : Text) :
    (insert name s).Pairwise (· < ·) := by
  induction s with
  | nil => simp [insert]
  | cons n s ih =>
    obtain ⟨hn, hs⟩ := List.pairwise_cons.mp h
    rw [insert]
    split
    · exact h
    · rename_i hne
      split
      · rename_i hlt
        rw [Text.precedes_iff_lt] at hlt
        refine List.pairwise_cons.mpr ⟨?_, h⟩
        intro m hm
        rcases List.mem_cons.mp hm with rfl | hm
        · exact hlt
        · exact hlt.trans (hn m hm)
      · rename_i hnot
        rw [Text.precedes_iff_lt] at hnot
        refine List.pairwise_cons.mpr ⟨?_, ih hs⟩
        intro m hm
        rcases mem_insert.mp hm with rfl | hm
        · exact lt_of_le_of_ne (not_lt.mp hnot) (Ne.symm hne)
        · exact hn m hm

theorem pairwise_ofList (names : List Text) : (ofList names).Pairwise (· < ·) := by
  induction names using List.reverseRecOn with
  | nil => exact .nil
  | append_singleton names name ih =>
    rw [ofList, List.foldl_append]
    exact pairwise_insert ih name

/-- An increasing list is a set already. -/
theorem ofList_eq_self {s : NameSet} (h : s.Pairwise (· < ·)) : ofList s = s := by
  induction s using List.reverseRecOn with
  | nil => rfl
  | append_singleton s name ih =>
    obtain ⟨hs, _, hlast⟩ := List.pairwise_append.mp h
    have hinit := ih hs
    rw [ofList] at hinit ⊢
    rw [List.foldl_append, hinit]
    exact insert_of_forall_lt fun n hn => hlast n hn name (List.mem_singleton_self name)

end NameSet

end Signpost
