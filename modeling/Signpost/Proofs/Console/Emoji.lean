import Mathlib.Data.List.Infix
import Signpost.Proofs.Header
import Signpost.Console.Emoji
set_option autoImplicit false

/-!
# Texts that name no emoji

A name of an emoji stands between two colons and holds no blank.  A text in which no colon is
followed by another one before the next blank therefore names none, whatever names there are, and
neither does any part of it.
-/

namespace Signpost.Console

open Text

/-- No colon is followed by another one before the next blank. -/
def NamesNothing (t : Text) : Prop :=
  ∀ u ∈ t.tails, u.head? = some ':' → ':' ∉ u.tail.takeWhile fun c => !isBlank c

instance (t : Text) : Decidable (NamesNothing t) :=
  inferInstanceAs (Decidable (∀ u ∈ t.tails, _))

variable {s t : Text} {c : Char}

theorem namesNothing_nil : NamesNothing [] := by simp [NamesNothing]

theorem namesNothing_cons :
    NamesNothing (c :: t) ↔
      (c = ':' → ':' ∉ t.takeWhile fun c => !isBlank c) ∧ NamesNothing t := by
  simp [NamesNothing]

theorem NamesNothing.of_suffix (h : NamesNothing t) (hs : s <:+ t) : NamesNothing s :=
  fun u hu => h u ((List.mem_tails u t).mpr (((List.mem_tails u s).mp hu).trans hs))

theorem NamesNothing.of_append (h : NamesNothing (s ++ t)) : NamesNothing s := by
  induction s with
  | nil => exact namesNothing_nil
  | cons c s ih =>
    rw [List.cons_append, namesNothing_cons] at h
    refine namesNothing_cons.mpr ⟨fun hcolon hmem => h.1 hcolon ?_, ih h.2⟩
    rw [List.takeWhile_append]
    split
    · rename_i hwhole
      rw [(List.takeWhile_prefix _).eq_of_length hwhole] at hmem
      exact List.mem_append_left _ hmem
    · exact hmem

/-- A part of a text that names nothing names nothing. -/
theorem NamesNothing.of_infix (h : NamesNothing t) (hs : s <:+: t) : NamesNothing s := by
  obtain ⟨u, v, rfl⟩ := hs
  exact (h.of_append).of_suffix (List.suffix_append u s)

/-- A text without colons names nothing. -/
theorem namesNothing_of_not_mem (h : ':' ∉ t) : NamesNothing t := by
  intro u hu hhead
  exact absurd (((List.mem_tails u t).mp hu).subset (List.mem_of_head? hhead)) h

/-- No presentation holds a blank. -/
theorem not_isBlank_of_mem_presentations :
    ∀ p ∈ presentations, (p.1.all fun c => !isBlank c) = true := by
  decide

/-- Where a name is closed, a colon comes before the next blank. -/
theorem nameEnd?_eq_none (h : ':' ∉ t.takeWhile fun c => !isBlank c) : nameEnd? t = none := by
  unfold nameEnd?
  rw [List.findSome?_eq_none_iff]
  rintro ⟨word, mark⟩ hmem
  rw [Option.map_eq_none_iff, Option.eq_none_iff_forall_ne_some]
  intro rest hrest
  have hword : ∀ c ∈ word ++ [':'], (!isBlank c) = true := by
    intro c hc
    rcases List.mem_append.mp hc with hc | hc
    · exact List.all_eq_true.mp (not_isBlank_of_mem_presentations _ hmem) c hc
    · rw [List.mem_singleton.mp hc]
      decide
  rw [afterPrefix?_eq_some_iff.mp hrest, List.takeWhile_append_of_pos hword] at h
  simp at h

theorem nameBody?_eq_none (h : ':' ∉ t.takeWhile fun c => !isBlank c) : nameBody? t = none := by
  induction t with
  | nil => rfl
  | cons c t ih =>
    rw [nameBody?, nameEnd?_eq_none h]
    dsimp only
    split
    · rfl
    · rename_i hblank
      rw [List.takeWhile_cons_of_pos (by simpa using hblank)] at h
      rw [ih (fun hmem => h (List.mem_cons_of_mem _ hmem)), Option.map_none]

theorem withEmojiWithin_eq_self (fuel : Nat) (h : NamesNothing t) : withEmojiWithin fuel t = t := by
  induction fuel generalizing t with
  | zero => rfl
  | succ fuel ih =>
    cases t with
    | nil => rfl
    | cons c t =>
      obtain ⟨hc, hrest⟩ := namesNothing_cons.mp h
      have hname : (if c = ':' then nameBody? t else none) = none := by
        split
        · rename_i hcolon
          exact nameBody?_eq_none (hc hcolon)
        · rfl
      rw [withEmojiWithin, hname, ih hrest]

/-- A text that names nothing is shown without emoji. -/
theorem withEmoji_eq_self (h : NamesNothing t) : withEmoji t = t := withEmojiWithin_eq_self _ h

end Signpost.Console
