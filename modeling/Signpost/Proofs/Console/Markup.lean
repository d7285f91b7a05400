import Mathlib.Data.List.Infix
import Signpost.Proofs.Text.Ends
import Signpost.Console.Markup
set_option autoImplicit false

/-!
# Tags and the text around them

The scan for tags cuts a line into pieces of text and tags.  A line in which no tag starts is one
piece (`piecesAfter_of_hasNoTag`); any other loses characters to its tags and to the backslashes
before them (`spelled_piecesAfter_sublist`, `hasNoTag_of_length_le`).

The scan takes a tag, a character or a run of backslashes at a time; proofs about it go by
`scan_induction`, which has one case for each.
-/

namespace Signpost.Console

open Text

variable {s t u w body rest plain : Text} {c : Char}

/-! ## Tags -/

theorem tagBody?_append (hopen : '[' ∉ body) (hclose : ']' ∉ body) (rest : Text) :
    tagBody? (body ++ ']' :: rest) = some (body, rest) := by
  induction body with
  | nil => rfl
  | cons c body ih =>
    obtain ⟨hc, hopen⟩ := List.ne_and_not_mem_of_not_mem_cons hopen
    obtain ⟨hc', hclose⟩ := List.ne_and_not_mem_of_not_mem_cons hclose
    simp [tagBody?, hc.symm, hc'.symm, ih hopen hclose]

theorem eq_of_tagBody? (h : tagBody? t = some (body, rest)) : t = body ++ ']' :: rest := by
  induction t generalizing body with
  | nil => simp [tagBody?] at h
  | cons c t ih =>
    rw [tagBody?] at h
    split at h
    · rename_i hclose
      obtain ⟨rfl, rfl⟩ := Prod.mk.inj (Option.some.inj h)
      rw [eq_of_beq hclose]
      rfl
    · split at h
      · simp at h
      · obtain ⟨⟨before, after⟩, hbody, heq⟩ := Option.map_eq_some_iff.mp h
        obtain ⟨rfl, rfl⟩ := Prod.mk.inj heq
        rw [ih hbody]
        rfl

/-- A tag that is not closed before the next opening bracket is none. -/
theorem tagBody?_append_open (u w : Text) :
    tagBody? (u ++ '[' :: w) = (tagBody? u).map fun (body, rest) => (body, rest ++ '[' :: w) := by
  induction u with
  | nil => rfl
  | cons c u ih =>
    rw [List.cons_append, tagBody?, tagBody?, ih]
    split
    · rfl
    · split
      · rfl
      · rw [Option.map_map, Option.map_map]
        rfl

theorem eq_of_tag? (h : tag? t = some (body, rest)) : t = '[' :: (body ++ ']' :: rest) := by
  unfold tag? at h
  split at h
  · split at h
    · obtain ⟨⟨before, after⟩, hbody, heq⟩ := Option.map_eq_some_iff.mp h
      obtain ⟨rfl, rfl⟩ := Prod.mk.inj heq
      rw [eq_of_tagBody? hbody]
      rfl
    · simp at h
  · simp at h

/-- What starts before an opening bracket does not reach over it. -/
theorem tag?_append_open (hne : u ≠ []) (w : Text) :
    tag? (u ++ '[' :: w) = (tag? u).map fun (body, rest) => (body, rest ++ '[' :: w) := by
  match u with
  | [c] =>
    by_cases hc : c = '['
    · subst hc
      rfl
    · simp [tag?, hc]
  | c :: d :: u =>
    by_cases hc : c = '['
    · subst hc
      simp only [List.cons_append, tag?, tagBody?_append_open]
      split
      · rw [Option.map_map, Option.map_map]
        rfl
      · rfl
    · simp [tag?, hc]

/-- A text that can be the inside of a tag. -/
structure IsTagBody (t : Text) : Prop where
  starts : t.head?.any startsTag = true
  no_open : '[' ∉ t
  no_close : ']' ∉ t

instance (t : Text) : Decidable (IsTagBody t) :=
  decidable_of_iff
    (t.head?.any startsTag = true ∧ '[' ∉ t ∧ ']' ∉ t)
    ⟨fun h => ⟨h.1, h.2.1, h.2.2⟩, fun h => ⟨h.starts, h.no_open, h.no_close⟩⟩

theorem IsTagBody.tag?_eq (h : IsTagBody body) (rest : Text) :
    tag? ('[' :: (body ++ ']' :: rest)) = some (body, rest) := by
  cases body with
  | nil => exact absurd h.starts (by decide)
  | cons c body =>
    have hbody := tagBody?_append (List.not_mem_of_not_mem_cons h.no_open)
      (List.not_mem_of_not_mem_cons h.no_close) rest
    have hstarts : startsTag c = true := h.starts
    simp [tag?, hstarts, hbody]

/-! ## The scan for tags -/

/-- The pieces from `t` on, after plain text that is still open. -/
def piecesAfter (plain t : Text) : List Piece := piecesFrom (t.length + 1) plain t

theorem length_lt_of_tag? (h : tag? w = some (body, rest)) : rest.length < w.length := by
  rw [eq_of_tag? h, List.length_cons, List.length_append, List.length_cons]
  omega

/-- Each step of the scan takes a character, so the length of the text is fuel enough. -/
theorem piecesFrom_congr {fuel fuel' : Nat} (h : t.length < fuel) (h' : t.length < fuel')
    (plain : Text) : piecesFrom fuel plain t = piecesFrom fuel' plain t := by
  induction fuel generalizing fuel' plain t with
  | zero => omega
  | succ fuel ih =>
    cases fuel' with
    | zero => omega
    | succ fuel' =>
      cases t with
      | nil => rfl
      | cons c t =>
        have hdrop (n : Nat) : ((c :: t).drop n).length ≤ t.length + 1 - n := by simp
        rw [piecesFrom, piecesFrom]
        generalize ((c :: t).takeWhile (· == '\\')).length = n
        rw [List.length_cons] at h h'
        cases htag : tag? ((c :: t).drop n) with
        | some found =>
          obtain ⟨body, rest⟩ := found
          have hlt := Nat.lt_of_lt_of_le (length_lt_of_tag? htag) (hdrop n)
          have hrest : piecesFrom fuel [] rest = piecesFrom fuel' [] rest :=
            ih (by omega) (by omega) []
          dsimp only
          rw [hrest]
        | none =>
          dsimp only
          split
          · exact ih (by omega) (by omega) _
          · have hlt := hdrop n
            exact ih (by omega) (by omega) _

theorem piecesFrom_eq_piecesAfter {fuel : Nat} (h : t.length < fuel) (plain : Text) :
    piecesFrom fuel plain t = piecesAfter plain t :=
  piecesFrom_congr h (Nat.lt_succ_self _) plain

theorem takeWhile_backslashes (n : Nat) (hw : w.head? ≠ some '\\') :
    (List.replicate n '\\' ++ w).takeWhile (· == '\\') = List.replicate n '\\' := by
  refine takeWhile_append_stop (fun c hc => by rw [List.eq_of_mem_replicate hc]; rfl) ?_
  intro c hc
  simpa using fun heq : c = '\\' => hw (heq ▸ hc)

theorem piecesAfter_nil (plain : Text) : piecesAfter plain [] = [.text plain.reverse] := rfl

/-- A tag, behind backslashes or not. -/
theorem piecesAfter_tag (plain : Text) (n : Nat) (h : tag? w = some (body, rest)) :
    piecesAfter plain (List.replicate n '\\' ++ w) =
      .text plain.reverse :: (escapedTag n body ++ piecesAfter [] rest) := by
  have hw : w.head? ≠ some '\\' := by simp [eq_of_tag? h]
  have hlength := length_lt_of_tag? h
  obtain ⟨c, t, ht⟩ : ∃ c t, List.replicate n '\\' ++ w = c :: t :=
    List.exists_cons_of_ne_nil (by simp [eq_of_tag? h])
  have hrest : rest.length < t.length + 1 := by
    rw [← List.length_cons, ← ht, List.length_append]
    omega
  rw [piecesAfter, ht, List.length_cons, piecesFrom, ← ht, takeWhile_backslashes n hw,
    List.length_replicate, List.drop_left' (by simp), h]
  dsimp only
  rw [piecesFrom_eq_piecesAfter hrest]

/-- A character that starts no tag. -/
theorem piecesAfter_plain (plain : Text) (hc : c ≠ '\\') (h : tag? (c :: t) = none) :
    piecesAfter plain (c :: t) = piecesAfter (c :: plain) t := by
  have hzero : (c :: t).takeWhile (· == '\\') = [] :=
    List.takeWhile_cons_of_neg (by simpa using hc)
  rw [piecesAfter, List.length_cons, piecesFrom, hzero, List.length_nil, List.drop_zero, h]
  exact piecesFrom_eq_piecesAfter (Nat.lt_succ_self _) _

/-- Backslashes without a tag behind them. -/
theorem piecesAfter_backslashes (plain : Text) {n : Nat} (hn : n ≠ 0) (hw : w.head? ≠ some '\\')
    (h : tag? w = none) :
    piecesAfter plain (List.replicate n '\\' ++ w) =
      piecesAfter (List.replicate n '\\' ++ plain) w := by
  obtain ⟨c, t, ht⟩ : ∃ c t, List.replicate n '\\' ++ w = c :: t :=
    List.exists_cons_of_ne_nil (by simp [hn])
  have hlength : w.length < t.length + 1 := by
    rw [← List.length_cons, ← ht, List.length_append, List.length_replicate]
    omega
  rw [piecesAfter, ht, List.length_cons, piecesFrom, ← ht, takeWhile_backslashes n hw,
    List.length_replicate, List.drop_left' (by simp), h]
  dsimp only
  rw [if_neg hn, piecesFrom_eq_piecesAfter hlength]

/-- Induction along the scan: what holds of the empty text, and of a text if it holds of what the
scan leaves of it, holds of every text. -/
@[elab_as_elim]
theorem scan_induction {motive : Text → Prop} (nil : motive [])
    (tag : ∀ n {w body rest}, tag? w = some (body, rest) → motive rest →
      motive (List.replicate n '\\' ++ w))
    (plain : ∀ {c t}, c ≠ '\\' → tag? (c :: t) = none → motive t → motive (c :: t))
    (backslashes : ∀ {n w}, n ≠ 0 → w.head? ≠ some '\\' → tag? w = none → motive w →
      motive (List.replicate n '\\' ++ w)) (t : Text) : motive t := by
  induction hlength : t.length using Nat.strong_induction_on generalizing t with
  | _ length ih =>
    subst hlength
    obtain ⟨n, w, rfl, hw⟩ : ∃ n w, t = List.replicate n '\\' ++ w ∧ w.head? ≠ some '\\' := by
      refine ⟨(t.takeWhile (· == '\\')).length, t.dropWhile (· == '\\'), ?_, fun hhead => ?_⟩
      · rw [← List.eq_replicate_of_mem (a := '\\') (l := t.takeWhile (· == '\\')),
          List.takeWhile_append_dropWhile]
        exact fun c hc => by simpa using List.mem_takeWhile_imp hc
      · exact absurd (of_head?_dropWhile hhead) (by simp)
    cases htag : tag? w with
    | some found =>
      refine tag n htag (ih _ ?_ _ rfl)
      have := length_lt_of_tag? htag
      rw [List.length_append]
      omega
    | none =>
      by_cases hn : n = 0
      · subst hn
        cases w with
        | nil => exact nil
        | cons c w => exact plain (by simpa using hw) htag (ih _ (by simp) _ rfl)
      · exact backslashes hn hw htag (ih _ (by simp; omega) _ rfl)

/-! ## Texts without tags -/

/-- No tag starts in the text. -/
def HasNoTag (t : Text) : Prop := ∀ u ∈ t.tails, tag? u = none

instance (t : Text) : Decidable (HasNoTag t) :=
  inferInstanceAs (Decidable (∀ u ∈ t.tails, tag? u = none))

theorem hasNoTag_nil : HasNoTag [] := by simp [HasNoTag, tag?]

theorem hasNoTag_cons : HasNoTag (c :: t) ↔ tag? (c :: t) = none ∧ HasNoTag t := by
  simp [HasNoTag]

/-- A tag starts with a bracket, so backslashes before a text make no difference. -/
theorem hasNoTag_backslashes (n : Nat) :
    HasNoTag (List.replicate n '\\' ++ w) ↔ HasNoTag w := by
  induction n with
  | zero => rfl
  | succ n ih =>
    rw [List.replicate_succ, List.cons_append, hasNoTag_cons, ih]
    exact and_iff_right (by simp [tag?])

theorem not_hasNoTag (h : tag? w = some (body, rest)) : ¬ HasNoTag w := by
  intro hnone
  have hself := hnone w ((List.mem_tails w w).mpr List.suffix_rfl)
  exact absurd (h.symm.trans hself) (by simp)

theorem piecesAfter_of_hasNoTag (h : HasNoTag t) (plain : Text) :
    piecesAfter plain t = [.text (plain.reverse ++ t)] := by
  induction t using scan_induction generalizing plain with
  | nil => rw [piecesAfter_nil, List.append_nil]
  | tag n htag _ => exact absurd ((hasNoTag_backslashes n).mp h) (not_hasNoTag htag)
  | plain hc htag ih =>
    rw [piecesAfter_plain plain hc htag, ih (hasNoTag_cons.mp h).2]
    simp
  | backslashes hn hw htag ih =>
    rw [piecesAfter_backslashes plain hn hw htag, ih ((hasNoTag_backslashes _).mp h)]
    simp

/-- Where a tag starts, the pieces before it are those of the text before it, unless that text ends
with a backslash. -/
theorem piecesAfter_append_tag (hs : s.getLast? ≠ some '\\')
    (h : tag? ('[' :: w) = some (body, rest)) (plain : Text) :
    piecesAfter plain (s ++ '[' :: w) =
      piecesAfter plain s ++ .tag body :: piecesAfter [] rest := by
  induction s using scan_induction generalizing plain with
  | nil => exact piecesAfter_tag plain 0 h
  | @tag n u found after htag ih =>
    have hne : u ≠ [] := by simp [eq_of_tag? htag]
    have hafter : after.getLast? ≠ some '\\' := by
      cases after with
      | nil => simp
      | cons d after => simpa [eq_of_tag? htag, List.getLast?_append, List.getLast?_cons] using hs
    have hopen := (tag?_append_open hne w).trans (congrArg (Option.map _) htag)
    rw [List.append_assoc, piecesAfter_tag plain n hopen, piecesAfter_tag plain n htag,
      ih hafter]
    simp
  | @plain d u hd htag ih =>
    have hopen := (tag?_append_open (List.cons_ne_nil d u) w).trans (congrArg (Option.map _) htag)
    have hu : u.getLast? ≠ some '\\' := by
      cases u with
      | nil => simp
      | cons e u => simpa [List.getLast?_cons] using hs
    rw [List.cons_append] at hopen ⊢
    rw [piecesAfter_plain plain hd hopen, piecesAfter_plain plain hd htag, ih hu]
  | @backslashes n u hn hu htag ih =>
    have hne : u ≠ [] := by
      rintro rfl
      exact hs (by simp [List.getLast?_replicate, hn])
    have hopen := (tag?_append_open hne w).trans (congrArg (Option.map _) htag)
    have hhead : (u ++ '[' :: w).head? ≠ some '\\' := by
      rwa [List.head?_append_of_ne_nil _ hne]
    have hlast : u.getLast? ≠ some '\\' := by
      rwa [List.getLast?_append_of_ne_nil _ hne] at hs
    rw [List.append_assoc, piecesAfter_backslashes plain hn hhead hopen,
      piecesAfter_backslashes plain hn hu htag, ih hlast]

/-! ## What the pieces have to show -/

/-- The texts among pieces, one after the other. -/
def spelled (ps : List Piece) : Text :=
  ps.flatMap fun p => match p with | .text t => t | .tag _ => []

@[simp] theorem spelled_nil : spelled [] = [] := rfl

@[simp] theorem spelled_text (t : Text) (ps : List Piece) :
    spelled (.text t :: ps) = t ++ spelled ps := rfl

@[simp] theorem spelled_tag (t : Text) (ps : List Piece) :
    spelled (.tag t :: ps) = spelled ps := rfl

@[simp] theorem spelled_append (ps qs : List Piece) :
    spelled (ps ++ qs) = spelled ps ++ spelled qs := List.flatMap_append

/-- Backslashes go, and the tag if it is none of the text. -/
theorem spelled_escapedTag (n : Nat) (body : Text) :
    spelled (escapedTag n body) = List.replicate (n / 2) '\\' ++
      if n % 2 = 1 then '[' :: (body ++ [']']) else [] := by
  unfold escapedTag
  split <;> split <;> simp_all

theorem prefix_replicate_half (n : Nat) (c : Char) :
    List.replicate (n / 2) c <+: List.replicate n c :=
  ⟨List.replicate (n - n / 2) c, by
    rw [List.replicate_append_replicate, Nat.add_sub_cancel' (Nat.div_le_self n 2)]⟩

theorem spelled_escapedTag_sublist (n : Nat) (body : Text) :
    (spelled (escapedTag n body)).Sublist
      (List.replicate n '\\' ++ '[' :: (body ++ [']'])) := by
  rw [spelled_escapedTag]
  refine List.Sublist.append ?_ ?_
  · exact (prefix_replicate_half n '\\').sublist
  · split
    · exact List.Sublist.refl _
    · exact List.nil_sublist _

theorem length_spelled_escapedTag_lt (n : Nat) (body : Text) :
    (spelled (escapedTag n body)).length < n + body.length + 2 := by
  rw [spelled_escapedTag, List.length_append, List.length_replicate]
  split
  · simp only [List.length_cons, List.length_append, List.length_nil]
    omega
  · simp only [List.length_nil]
    omega

/-- The texts among the pieces leave characters of the line out, and change none. -/
theorem spelled_piecesAfter_sublist (plain t : Text) :
    (spelled (piecesAfter plain t)).Sublist (plain.reverse ++ t) := by
  induction t using scan_induction generalizing plain with
  | nil => simp [piecesAfter_nil]
  | @tag n w body rest htag ih =>
    rw [piecesAfter_tag plain n htag, eq_of_tag? htag, spelled_text, spelled_append]
    refine List.Sublist.append (List.Sublist.refl _) ?_
    have happend := (spelled_escapedTag_sublist n body).append (ih [])
    simpa using happend
  | @plain c t hc htag ih =>
    rw [piecesAfter_plain plain hc htag]
    simpa using ih (c :: plain)
  | @backslashes n w hn hw htag ih =>
    rw [piecesAfter_backslashes plain hn hw htag]
    simpa using ih (List.replicate n '\\' ++ plain)

/-- If the texts among the pieces leave nothing out, there was no tag. -/
theorem hasNoTag_of_length_le (plain : Text)
    (h : plain.length + t.length ≤ (spelled (piecesAfter plain t)).length) : HasNoTag t := by
  induction t using scan_induction generalizing plain with
  | nil => exact hasNoTag_nil
  | @tag n w body rest htag ih =>
    have hrest := (spelled_piecesAfter_sublist [] rest).length_le
    have htaken := length_spelled_escapedTag_lt n body
    rw [piecesAfter_tag plain n htag, eq_of_tag? htag] at h
    simp at h hrest
    omega
  | @plain c t hc htag ih =>
    rw [piecesAfter_plain plain hc htag] at h
    refine hasNoTag_cons.mpr ⟨htag, ih _ (Nat.le_trans ?_ h)⟩
    simp only [List.length_cons]
    omega
  | backslashes hn hw htag ih =>
    rw [piecesAfter_backslashes plain hn hw htag] at h
    refine (hasNoTag_backslashes _).mpr (ih _ (Nat.le_trans ?_ h))
    simp only [List.length_append]
    omega

theorem infix_of_mem_escapedTag {n : Nat} (h : .text u ∈ escapedTag n body) :
    u <:+: List.replicate n '\\' ++ '[' :: (body ++ [']']) := by
  have hcases : u = List.replicate (n / 2) '\\' ∨ u = '[' :: (body ++ [']']) := by
    unfold escapedTag at h
    rcases List.mem_append.mp h with h | h
    · split at h <;> simp_all
    · split at h <;> simp_all
  rcases hcases with rfl | rfl
  · exact ((prefix_replicate_half n '\\').trans (List.prefix_append _ _)).isInfix
  · exact (List.suffix_append _ _).isInfix

/-- Each text among the pieces stands in the line. -/
theorem infix_of_mem_piecesAfter (h : .text u ∈ piecesAfter plain t) :
    u <:+: plain.reverse ++ t := by
  induction t using scan_induction generalizing plain with
  | nil =>
    rw [piecesAfter_nil] at h
    simp only [List.mem_singleton, Piece.text.injEq] at h
    rw [h, List.append_nil]
  | @tag n w body rest htag ih =>
    rw [piecesAfter_tag plain n htag] at h
    have hline : plain.reverse ++ (List.replicate n '\\' ++ w) =
        plain.reverse ++ (List.replicate n '\\' ++ '[' :: (body ++ [']'])) ++ rest := by
      simp [eq_of_tag? htag]
    rw [hline]
    rcases List.mem_cons.mp h with h | h
    · rw [Piece.text.inj h, List.append_assoc]
      exact (List.prefix_append _ _).isInfix
    · rcases List.mem_append.mp h with h | h
      · exact (infix_of_mem_escapedTag h).trans ⟨plain.reverse, rest, rfl⟩
      · exact (ih h).trans (List.suffix_append _ _).isInfix
  | plain hc htag ih =>
    rw [piecesAfter_plain plain hc htag] at h
    simpa using ih h
  | backslashes hn hw htag ih =>
    rw [piecesAfter_backslashes plain hn hw htag] at h
    simpa using ih h

end Signpost.Console
