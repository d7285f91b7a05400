import Mathlib.Data.List.Infix
import Mathlib.Logic.Relation
import Signpost.Proofs.Text.Ends
import Signpost.Query.CallPath
set_option autoImplicit false

/-!
# Call paths by removing finished calls

A call path can also be found without a scan.  A pair of parentheses with no parenthesis between
them is a finished call; such pairs are removed, one after the other and in any order, until there
is none, and then everything up to the last `)` goes.  `callPath` gives the same text.

What carries this is that a finished call leaves the scan where it was: the piece that its opening
parenthesis begins is forgotten at the closing one.  So a removal keeps the scan of the whole text,
and only a text without finished calls has to be looked at.  In such a text every `)` comes before
every `(`.
-/

namespace Signpost.Query

open Text

/-! ## Removing finished calls -/

/-- The second text is the first without one finished call: a pair of parentheses, with what stands
between them, where no further parenthesis stands. -/
inductive RemovesCall : Text → Text → Prop
  | mk (before inside after : Text) (plain : ∀ c ∈ inside, c ≠ '(' ∧ c ≠ ')') :
      RemovesCall (before ++ '(' :: inside ++ ')' :: after) (before ++ after)

/-- A text without finished calls. -/
def IsReduced (t : Text) : Prop := ∀ u, ¬ RemovesCall t u

/-- What follows the last `)`; the text itself if there is none. -/
def afterLastClose (t : Text) : Text := takeWhileEnd (· != ')') t

/-- The text up to its last `(`, which is kept; the text itself if there is none. -/
def throughLastOpen (t : Text) : Text :=
  if t.contains '(' then dropWhileEnd (· != '(') t else t

theorem RemovesCall.length_lt {s t : Text} (h : RemovesCall s t) : t.length < s.length := by
  cases h with
  | mk before inside after _ => simp; omega

/-- After an opening parenthesis, a text with a closing one has a finished call.  Induction is on
the text still to be searched; `inside` is what stands after the latest opening parenthesis. -/
theorem exists_removesCall :
    ∀ (t before inside : Text), (∀ c ∈ inside, c ≠ '(' ∧ c ≠ ')') → ')' ∈ t →
      ∃ u, RemovesCall (before ++ '(' :: inside ++ t) u := by
  intro t
  induction t with
  | nil => intro before inside _ hclose; simp at hclose
  | cons c rest ih =>
    intro before inside plain hclose
    by_cases hc : c = ')'
    · subst hc
      exact ⟨_, .mk before inside rest plain⟩
    · have hrest : ')' ∈ rest := by
        rcases List.mem_cons.mp hclose with h | h
        · exact absurd h.symm hc
        · exact h
      by_cases ho : c = '('
      · subst ho
        obtain ⟨u, hu⟩ := ih (before ++ '(' :: inside) [] (by simp) hrest
        exact ⟨u, by simpa using hu⟩
      · have plain' : ∀ d ∈ inside ++ [c], d ≠ '(' ∧ d ≠ ')' := by
          intro d hd
          rcases List.mem_append.mp hd with h | h
          · exact plain d h
          · rw [List.mem_singleton.mp h]
            exact ⟨ho, hc⟩
        obtain ⟨u, hu⟩ := ih before (inside ++ [c]) plain' hrest
        exact ⟨u, by simpa using hu⟩

/-- Removing comes to an end, in whatever order. -/
theorem acc_removesCall (t : Text) : Acc (fun u s => RemovesCall s u) t := by
  have hwf : WellFounded fun u s : Text => u.length < s.length := (measure List.length).wf
  exact Subrelation.accessible (fun h => RemovesCall.length_lt h) (hwf.apply t)

/-- Every text can be reduced. -/
theorem exists_isReduced (t : Text) :
    ∃ u, Relation.ReflTransGen RemovesCall t u ∧ IsReduced u := by
  induction acc_removesCall t with
  | intro t _ ih =>
    by_cases h : IsReduced t
    · exact ⟨t, .refl, h⟩
    · unfold IsReduced at h
      push Not at h
      obtain ⟨u, hu⟩ := h
      obtain ⟨v, hv, hred⟩ := ih u hu
      exact ⟨v, .head hu hv, hred⟩

/-! ## The scan -/

namespace CallStack

theorem scan_concat (t : Text) (c : Char) : scan (t ++ [c]) = (scan t).next c := by
  unfold scan
  rw [List.foldl_append]
  rfl

theorem next_open (s : CallStack) : s.next '(' = ⟨['('], s.current :: s.enclosing⟩ := rfl

theorem next_plain {s : CallStack} {c : Char} (ho : c ≠ '(') (hc : c ≠ ')') :
    s.next c = ⟨s.current ++ [c], s.enclosing⟩ := by
  simp [next, ho, hc]

/-- A text without parentheses goes to the innermost piece. -/
theorem foldl_plain : ∀ (t : Text) (s : CallStack), (∀ c ∈ t, c ≠ '(' ∧ c ≠ ')') →
    t.foldl next s = ⟨s.current ++ t, s.enclosing⟩ := by
  intro t
  induction t with
  | nil => intro s _; simp
  | cons c rest ih =>
    intro s plain
    have hc := plain c (by simp)
    rw [List.foldl_cons, next_plain hc.1 hc.2, ih _ fun d hd => plain d (by simp [hd])]
    simp

/-- A finished call leaves the scan where it was. -/
theorem foldl_call (s : CallStack) {inside : Text} (plain : ∀ c ∈ inside, c ≠ '(' ∧ c ≠ ')') :
    ('(' :: inside ++ [')']).foldl next s = s := by
  rw [List.cons_append, List.foldl_cons, next_open, List.foldl_append, foldl_plain inside _ plain]
  rfl

end CallStack

open CallStack in
theorem RemovesCall.scan_eq {s t : Text} (h : RemovesCall s t) : scan s = scan t := by
  cases h with
  | mk before inside after plain =>
    have hsplit : before ++ '(' :: inside ++ ')' :: after =
        before ++ ('(' :: inside ++ [')']) ++ after := by simp
    unfold scan
    rw [hsplit, List.foldl_append, List.foldl_append, foldl_call _ plain, ← List.foldl_append]

theorem scan_eq_of_removals {s t : Text} (h : Relation.ReflTransGen RemovesCall s t) :
    CallStack.scan s = CallStack.scan t := by
  induction h with
  | refl => rfl
  | tail _ step ih => exact ih.trans step.scan_eq

namespace CallStack

/-- Without an opening parenthesis nothing is ever open. -/
theorem enclosing_foldl_of_no_open : ∀ (t : Text) (s : CallStack), '(' ∉ t → s.enclosing = [] →
    (t.foldl next s).enclosing = [] := by
  intro t
  induction t with
  | nil => intro s _ hs; exact hs
  | cons c rest ih =>
    intro s ho hs
    simp only [List.mem_cons, not_or] at ho
    rw [List.foldl_cons]
    refine ih _ ho.2 ?_
    by_cases hc : c = ')'
    · subst hc
      simp [next, hs]
    · rw [next_plain (Ne.symm ho.1) hc]
      exact hs

/-- A closing parenthesis where nothing is open forgets the text. -/
theorem scan_close_of_no_open {t : Text} (h : '(' ∉ t) : scan (t ++ [')']) = {} := by
  have hnone : (scan t).enclosing = [] := enclosing_foldl_of_no_open t {} h rfl
  rw [scan_concat]
  simp [next, hnone]

/-- Without a closing parenthesis nothing is forgotten. -/
theorem path_foldl_of_no_close : ∀ (t : Text) (s : CallStack), ')' ∉ t →
    (t.foldl next s).path = s.path ++ t := by
  intro t
  induction t with
  | nil => intro s _; simp
  | cons c rest ih =>
    intro s h
    simp only [List.mem_cons, not_or] at h
    rw [List.foldl_cons, ih _ h.2]
    by_cases ho : c = '('
    · subst ho
      simp [next_open, path, outer]
    · rw [next_plain ho (Ne.symm h.1)]
      simp [path, outer]

theorem path_scan_of_no_close {t : Text} (h : ')' ∉ t) : (scan t).path = t := by
  have := path_foldl_of_no_close t {} h
  simpa [scan, path, outer] using this

/-- What is left of a text ends as the text does, unless that is with a closing parenthesis. -/
theorem getLast?_path_scan {t : Text} (h : t.getLast? ≠ some ')') :
    (scan t).path.getLast? = t.getLast? := by
  cases t using List.reverseRecOn with
  | nil => rfl
  | append_singleton t c =>
    have hc : ')' ∉ [c] := by
      rintro hmem
      rw [← List.mem_singleton.mp hmem] at h
      simp at h
    have hpath : ((scan t).next c).path = (scan t).path ++ [c] := path_foldl_of_no_close [c] _ hc
    rw [scan_concat, hpath, List.getLast?_concat, List.getLast?_concat]

theorem callee_open (s : CallStack) : (s.next '(').callee = s.path ++ ['('] := by
  simp [next_open, callee, path, outer]

/-- An argument's text changes no call that is open. -/
theorem callee_plain {s : CallStack} {c : Char} (ho : c ≠ '(') (hc : c ≠ ')') :
    (s.next c).callee = if s.enclosing = [] then s.path ++ [c] else s.callee := by
  rw [next_plain ho hc]
  cases h : s.enclosing with
  | nil => simp [callee, path, outer, h]
  | cons piece rest => simp [callee, outer, h]

/-- Without closing parentheses, something is open as soon as there is an opening one. -/
theorem enclosing_scan_of_no_close {t : Text} (h : ')' ∉ t) :
    (scan t).enclosing = [] ↔ '(' ∉ t := by
  induction t using List.reverseRecOn with
  | nil => simp [scan]
  | append_singleton t c ih =>
    simp only [List.mem_append, List.mem_singleton, not_or] at h
    rw [scan_concat]
    by_cases ho : c = '('
    · subst ho
      simp [next_open]
    · rw [next_plain ho (Ne.symm h.2)]
      simpa [Ne.symm ho] using ih h.1

/-- Without closing parentheses the open call is what precedes the last opening one. -/
theorem callee_scan_of_no_close {t : Text} (h : ')' ∉ t) :
    (scan t).callee = throughLastOpen t := by
  induction t using List.reverseRecOn with
  | nil => rfl
  | append_singleton t c ih =>
    simp only [List.mem_append, List.mem_singleton, not_or] at h
    rw [scan_concat]
    by_cases ho : c = '('
    · subst ho
      rw [callee_open, path_scan_of_no_close h.1]
      simp [throughLastOpen, dropWhileEnd_concat_of_neg]
    · have hopen := enclosing_scan_of_no_close h.1
      have hdrop : dropWhileEnd (· != '(') (t ++ [c]) = dropWhileEnd (· != '(') t :=
        dropWhileEnd_concat_of_pos (by simp [ho])
      rw [callee_plain ho (Ne.symm h.2), ih h.1, path_scan_of_no_close h.1]
      by_cases hin : '(' ∈ t
      · rw [if_neg fun hnil => hopen.mp hnil hin]
        simp [throughLastOpen, hin, hdrop]
      · rw [if_pos (hopen.mpr hin)]
        simp [throughLastOpen, hin, Ne.symm ho]

end CallStack

/-! ## Reduced texts -/

theorem not_mem_afterLastClose (t : Text) : ')' ∉ afterLastClose t := by
  intro h
  have := of_mem_takeWhileEnd h
  simp at this

/-- In a reduced text no parenthesis is opened before the last `)`. -/
theorem IsReduced.no_open {t : Text} (h : IsReduced t) :
    '(' ∉ dropWhileEnd (· != ')') t := by
  intro hopen
  obtain ⟨before, rest, hsplit⟩ := List.append_of_mem hopen
  have hlast : (dropWhileEnd (· != ')') t).getLast? = some ')' := by
    have hsome : ∃ c, (dropWhileEnd (· != ')') t).getLast? = some c := by
      rw [hsplit]
      exact ⟨_, List.getLast?_eq_some_getLast (by simp)⟩
    obtain ⟨c, hc⟩ := hsome
    have hout := of_getLast?_dropWhileEnd hc
    rw [hc, show c = ')' by simpa using hout]
  have hclose : ')' ∈ rest := by
    rw [hsplit, List.getLast?_append] at hlast
    cases rest with
    | nil => simp at hlast
    | cons d ds =>
      simp only [List.getLast?_cons_cons] at hlast
      exact List.mem_of_getLast? (by simpa using hlast)
  obtain ⟨u, hu⟩ := exists_removesCall (rest ++ afterLastClose t) before [] (by simp)
    (List.mem_append_left _ hclose)
  refine h u ?_
  rw [← dropWhileEnd_append_takeWhileEnd (· != ')') t, hsplit]
  simpa [afterLastClose] using hu

/-- A text is reduced exactly when no parenthesis is opened before its last `)`. -/
theorem isReduced_iff (t : Text) : IsReduced t ↔ '(' ∉ dropWhileEnd (· != ')') t := by
  constructor
  · exact IsReduced.no_open
  · rintro hopen u ⟨before, inside, after, _⟩
    apply hopen
    have hsplit : before ++ '(' :: inside ++ ')' :: after =
        (before ++ '(' :: inside ++ [')']) ++ after := by simp
    have hlast : ∀ c, (before ++ '(' :: inside ++ [')']).getLast? = some c →
        (c != ')') = false := by
      intro c hc
      rw [List.getLast?_concat, Option.some.injEq] at hc
      simp [← hc]
    rw [hsplit, dropWhileEnd_append_left hlast]
    simp

instance (t : Text) : Decidable (IsReduced t) := decidable_of_iff _ (isReduced_iff t).symm

/-- Of a reduced text the scan keeps what follows the last `)`. -/
theorem IsReduced.scan_eq {t : Text} (h : IsReduced t) :
    CallStack.scan t = CallStack.scan (afterLastClose t) := by
  have hsplit := dropWhileEnd_append_takeWhileEnd (· != ')') t
  cases hd : dropWhileEnd (· != ')') t using List.reverseRecOn with
  | nil =>
    rw [hd, List.nil_append] at hsplit
    rw [afterLastClose, hsplit]
  | append_singleton before c =>
    have hc : c = ')' := by
      have hout := of_getLast?_dropWhileEnd (p := (· != ')')) (t := t) (c := c) (by simp [hd])
      simpa using hout
    subst hc
    have hopen := h.no_open
    rw [hd] at hopen hsplit
    have hclosed : CallStack.scan (before ++ [')']) = {} :=
      CallStack.scan_close_of_no_open fun hm => hopen (List.mem_append_left _ hm)
    calc CallStack.scan t
        = (afterLastClose t).foldl CallStack.next (CallStack.scan (before ++ [')'])) := by
          unfold CallStack.scan
          rw [← List.foldl_append, afterLastClose, hsplit]
      _ = CallStack.scan (afterLastClose t) := by rw [hclosed]; rfl

/-- The call path is what any way of removing the finished calls leaves after the last `)`; after a
comma it ends at the last `(` of that, if there is one.  Every way of removing comes to an end. -/
theorem callPath_eq_of_removals (linePrefix : Text) :
    Acc (fun t s => RemovesCall s t) linePrefix ∧
    (∃ t, Relation.ReflTransGen RemovesCall linePrefix t ∧ IsReduced t) ∧
    ∀ t, Relation.ReflTransGen RemovesCall linePrefix t → IsReduced t →
      callPath linePrefix false = afterLastClose t ∧
      callPath linePrefix true = throughLastOpen (afterLastClose t) := by
  refine ⟨acc_removesCall linePrefix, exists_isReduced linePrefix, ?_⟩
  intro t hremovals hreduced
  have hscan : CallStack.scan linePrefix = CallStack.scan (afterLastClose t) :=
    (scan_eq_of_removals hremovals).trans hreduced.scan_eq
  have hclose := not_mem_afterLastClose t
  constructor
  · show (CallStack.scan linePrefix).path = afterLastClose t
    rw [hscan, CallStack.path_scan_of_no_close hclose]
  · show (CallStack.scan linePrefix).callee = throughLastOpen (afterLastClose t)
    rw [hscan, CallStack.callee_scan_of_no_close hclose]

/-- A finished call, then a `)` that closes nothing, then a call that is open. -/
theorem callPath_eq_of_removals_nested :
    let line : Text := "done(1)) + other(a, "
    let left : Text := "done) + other(a, "
    Relation.ReflTransGen RemovesCall line left ∧ IsReduced left ∧
      callPath line false = " + other(a, " ∧ callPath line true = " + other(" := by
  intro line left
  have hremoval : RemovesCall line left := .mk "done" "1" ") + other(a, " (by simp)
  have hreduced : IsReduced left := by decide
  have hpath := (callPath_eq_of_removals line).2.2 left (.single hremoval) hreduced
  exact ⟨.single hremoval, hreduced, hpath.1.trans (by decide), hpath.2.trans (by decide)⟩

/-! ## Arguments -/

/-- A text in which no beginning closes more parentheses than it opens, and all that are opened are
closed. -/
def Balanced (t : Text) : Prop :=
  (∀ p, p <+: t → p.count ')' ≤ p.count '(') ∧ t.count '(' = t.count ')'

instance (t : Text) : Decidable (Balanced t) :=
  decidable_of_iff ((∀ p ∈ t.inits, p.count ')' ≤ p.count '(') ∧ t.count '(' = t.count ')')
    (by simp only [Balanced, List.mem_inits])

namespace CallStack

/-- The second scan is the first, read on over a text of which `depth` parentheses are open: nothing
below the innermost piece has changed, and that piece has only grown. -/
def IsAbove (s : CallStack) (depth : Nat) (s' : CallStack) : Prop :=
  ∃ (pieces : List Text) (more : Text), pieces.length = depth ∧
    s'.current :: s'.enclosing = pieces ++ (s.current ++ more) :: s.enclosing

theorem isAbove_self (s : CallStack) : s.IsAbove 0 s := ⟨[], [], rfl, by simp⟩

theorem IsAbove.next_open {s s' : CallStack} {depth : Nat} (h : s.IsAbove depth s') :
    s.IsAbove (depth + 1) (s'.next '(') := by
  obtain ⟨pieces, more, hlen, hs⟩ := h
  exact ⟨['('] :: pieces, more, by simp [hlen], by simp [CallStack.next_open, hs]⟩

theorem IsAbove.next_close {s s' : CallStack} {depth : Nat} (h : s.IsAbove (depth + 1) s') :
    s.IsAbove depth (s'.next ')') := by
  obtain ⟨pieces, more, hlen, hs⟩ := h
  cases pieces with
  | nil => simp at hlen
  | cons piece pieces =>
    simp only [List.cons_append, List.cons.injEq] at hs
    refine ⟨pieces, more, by simpa using hlen, ?_⟩
    rw [← hs.2]
    cases henc : s'.enclosing with
    | nil =>
      have := hs.2
      rw [henc] at this
      simp at this
    | cons below rest => simp [next, henc]

theorem IsAbove.next_plain {s s' : CallStack} {depth : Nat} {c : Char} (ho : c ≠ '(')
    (hc : c ≠ ')') (h : s.IsAbove depth s') : s.IsAbove depth (s'.next c) := by
  obtain ⟨pieces, more, hlen, hs⟩ := h
  rw [CallStack.next_plain ho hc]
  cases pieces with
  | nil =>
    simp only [List.nil_append, List.cons.injEq] at hs
    exact ⟨[], more ++ [c], hlen, by simp [hs.1, hs.2]⟩
  | cons piece pieces =>
    simp only [List.cons_append, List.cons.injEq] at hs
    exact ⟨(piece ++ [c]) :: pieces, more, by simpa using hlen, by simp [hs.1, hs.2]⟩

/-- Reading on over a text that never closes more than is open above the first scan. -/
theorem IsAbove.foldl : ∀ (t : Text) (s s' : CallStack) (depth : Nat), s.IsAbove depth s' →
    (∀ p, p <+: t → p.count ')' ≤ depth + p.count '(') →
      s.IsAbove (depth + t.count '(' - t.count ')') (t.foldl next s') := by
  intro t
  induction t with
  | nil => intro s s' depth h _; simpa using h
  | cons c rest ih =>
    intro s s' depth h hp
    have hp' : ∀ p, p <+: rest → (c :: p).count ')' ≤ depth + (c :: p).count '(' := by
      intro p hpre
      exact hp (c :: p) (List.cons_prefix_cons.mpr ⟨rfl, hpre⟩)
    have hrest := hp (c :: rest) List.prefix_rfl
    rw [List.foldl_cons]
    by_cases ho : c = '('
    · subst ho
      have hrun := ih s _ (depth + 1) h.next_open (by
        intro p hpre
        have := hp' p hpre
        simp at this
        omega)
      simp at hrest ⊢
      rwa [Nat.add_right_comm, Nat.add_assoc] at hrun
    · by_cases hc : c = ')'
      · subst hc
        obtain ⟨depth, rfl⟩ : ∃ n, depth = n + 1 := by
          have := hp' [] List.nil_prefix
          simp at this
          exact ⟨depth - 1, by omega⟩
        have hrun := ih s _ depth h.next_close (by
          intro p hpre
          have := hp' p hpre
          simp at this
          omega)
        simp at hrest ⊢
        rwa [Nat.add_right_comm, Nat.add_sub_add_right]
      · have hrun := ih s _ depth (h.next_plain ho hc) (by
          intro p hpre
          have := hp' p hpre
          simpa [List.count_cons, ho, hc] using this)
        simpa [List.count_cons, ho, hc] using hrun

/-- Complete arguments leave open what was open, and only add to the innermost piece. -/
theorem foldl_balanced (s : CallStack) {t : Text} (h : Balanced t) :
    ∃ more, t.foldl next s = ⟨s.current ++ more, s.enclosing⟩ := by
  have hrun := IsAbove.foldl t s s 0 (isAbove_self s) (by simpa using h.1)
  rw [h.2, Nat.zero_add, Nat.sub_self] at hrun
  obtain ⟨pieces, more, hlen, hs⟩ := hrun
  rw [List.length_eq_zero_iff.mp hlen] at hs
  simp only [List.nil_append, List.cons.injEq] at hs
  refine ⟨more, ?_⟩
  rw [← hs.1, ← hs.2]

/-- At every argument of a call the open call is the one whose parenthesis was opened. -/
theorem callee_foldl_call (s : CallStack) {args : Text} (h : Balanced args) :
    (('(' :: args).foldl next s).callee = s.path ++ ['('] := by
  obtain ⟨more, hmore⟩ := foldl_balanced (s.next '(') h
  rw [List.foldl_cons, hmore]
  simp [next_open, callee, path, outer]

end CallStack

/-- A text that closes nothing is added to the path before it. -/
theorem callPath_append {t : Text} (ht : ')' ∉ t) (before : Text) :
    callPath (before ++ t) false = (CallStack.scan before).path ++ t := by
  show (CallStack.scan _).path = _
  rw [CallStack.scan, List.foldl_append, CallStack.path_foldl_of_no_close _ _ ht]
  rfl

/-- After a comma among complete arguments the path ends where they began. -/
theorem callPath_call {t args : Text} (ht : ')' ∉ t) (hargs : Balanced args) (before : Text) :
    callPath (before ++ t ++ '(' :: args) true = (CallStack.scan before).path ++ t ++ ['('] := by
  show (CallStack.scan _).callee = _
  rw [CallStack.scan, List.foldl_append, List.foldl_append, CallStack.callee_foldl_call _ hargs,
    CallStack.path_foldl_of_no_close _ _ ht]
  rfl

/-- After complete arguments the path is what it was at the opening parenthesis. -/
theorem callPath_arguments {t args : Text} (hopen : t.getLast? = some '(') (hargs : Balanced args) :
    callPath (t ++ args) true = callPath t false := by
  obtain ⟨before, rfl⟩ := List.getLast?_eq_some_iff.mp hopen
  have hcall := callPath_call (t := []) (by simp) hargs before
  have hparen := callPath_append (t := ['(']) (by simp) before
  rw [List.append_nil, List.append_nil] at hcall
  rw [List.append_assoc, List.singleton_append, hcall, hparen]

end Signpost.Query
