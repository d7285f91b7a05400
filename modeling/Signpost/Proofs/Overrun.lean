import Signpost.Proofs.Query.CallPath
import Signpost.Proofs.Signature
set_option autoImplicit false

/-!
# Headers that run over

The parameters of a header should end where its parentheses do, and whatever else stands on the line
should not be read: an annotation, a body, a comment.  What is read instead goes up to the last
closing parenthesis of the line, or, in a class, to the last one before a colon.

So a header is read well exactly if nothing else on its line could close it; otherwise its
parameters run over, and what stands on the line up to that other parenthesis is taken for
parameters too (`ofBlock_written`).
-/

namespace Signpost

open Text Query

namespace Header

/-- Whether a closing parenthesis can end the parameters of a header, from what follows it. -/
def canClose : Kind → Text → Bool
  | .func => fun _ => true
  | .cls => colonFollows

/-- A block in full: its header with the parameters in parentheses, the rest of the header's line,
and what follows that line. -/
def written (keyword name parameters rest body : Text) : Text :=
  keyword ++ ' ' :: (name ++ '(' :: (parameters ++ ')' :: (rest ++ body)))

/-- The parameters run over the rest of the line as far as `excess`: the last parenthesis that can
end them comes after it. -/
def RunsOver (kind : Kind) (rest body excess : Text) : Prop :=
  ∃ after, rest = excess ++ ')' :: after ∧ canClose kind (after ++ body) = true ∧
    ∀ s t, after = s ++ ')' :: t → canClose kind (t ++ body) = false

/-! ## Blanks at the end -/

section

variable {accepts : Text → Bool} {t u : Text} {c : Char}

/-- A blank at the end of a text is no colon after blanks, nor does it hide one. -/
theorem canClose_concat (kind : Kind) (hc : isBlank c = true) (t : Text) :
    canClose kind (t ++ [c]) = canClose kind t := by
  cases kind with
  | func => rfl
  | cls =>
    show colonFollows (t ++ [c]) = colonFollows t
    unfold colonFollows trimLeft
    rw [List.dropWhile_append]
    split
    · rename_i hall
      rw [List.dropWhile_cons_of_pos hc, List.isEmpty_iff.mp hall]
      rfl
    · rename_i hsome
      rw [List.head?_append_of_ne_nil _ (by simpa using hsome)]

/-- A colon at the front is found at once. -/
theorem colonFollows_append (h : t.head? = some ':') (u : Text) : colonFollows (t ++ u) = true := by
  have hhead : (t ++ u).head? = some ':' := by rw [List.head?_append, h, Option.some_or]
  have hfirst : NoBlankFirst (t ++ u) := by
    intro c hc
    rw [hhead] at hc
    rw [← Option.some.inj hc]
    decide
  rw [colonFollows, hfirst.trimLeft_eq, hhead]
  rfl

theorem beforeLastClose_concat (haccepts : ∀ s, accepts (s ++ [c]) = accepts s)
    (hc : isBlank c = true) (t : Text) :
    beforeLastClose accepts (t ++ [c]) = beforeLastClose accepts t := by
  induction t with
  | nil =>
    have hclose : c ≠ ')' := by
      rintro rfl
      exact absurd hc (by decide)
    simp [beforeLastClose, hclose]
  | cons d t ih => rw [List.cons_append, beforeLastClose, beforeLastClose, ih, haccepts]

/-- What is trimmed off at the end closes nothing. -/
theorem beforeLastClose_trimRight (kind : Kind) (t : Text) :
    beforeLastClose (canClose kind) (trimRight t) = beforeLastClose (canClose kind) t := by
  have hblanks : ∀ s : Text, (∀ c ∈ s, isBlank c = true) → ∀ u,
      beforeLastClose (canClose kind) (u ++ s) = beforeLastClose (canClose kind) u := by
    intro s hs u
    induction s using List.reverseRecOn with
    | nil => rw [List.append_nil]
    | append_singleton s c ih =>
      have hc := hs c (by simp)
      rw [← List.append_assoc, beforeLastClose_concat (canClose_concat kind hc) hc,
        ih fun d hd => hs d (by simp [hd])]
  have hsplit := dropWhileEnd_append_takeWhileEnd isBlank t
  rw [← hblanks _ (fun c hc => of_mem_takeWhileEnd hc) (trimRight t)]
  exact congrArg _ hsplit

/-! ## The last parenthesis of a line -/

/-- A parenthesis that is found further on is the last one. -/
theorem beforeLastClose_append_of_some (ht : '\n' ∉ t) {v : Text}
    (hu : beforeLastClose accepts u = some v) :
    beforeLastClose accepts (t ++ u) = some (t ++ v) := by
  induction t with
  | nil => exact hu
  | cons c t ih =>
    obtain ⟨hc, ht⟩ := not_or.mp (mt List.mem_cons.mpr ht)
    simp [beforeLastClose, Ne.symm hc, ih ht]

/-- An accepted parenthesis is the last one, or else the one that is found after it. -/
theorem beforeLastClose_close (ht : '\n' ∉ t) (hu : accepts u = true) :
    beforeLastClose accepts (t ++ ')' :: u) = some (match beforeLastClose accepts u with
      | none => t
      | some excess => t ++ ')' :: excess) := by
  cases hexcess : beforeLastClose accepts u with
  | none => exact beforeLastClose_append ht hexcess hu
  | some excess =>
    have hlater : beforeLastClose accepts (')' :: u) = some (')' :: excess) := by
      simp [beforeLastClose, hexcess]
    exact beforeLastClose_append_of_some ht hlater

/-- What is found stands before an accepted parenthesis. -/
theorem exists_close_of_beforeLastClose {v : Text} (h : beforeLastClose accepts u = some v) :
    ∃ after, u = v ++ ')' :: after ∧ accepts after = true := by
  induction u generalizing v with
  | nil => simp [beforeLastClose] at h
  | cons c u ih =>
    rw [beforeLastClose] at h
    split at h
    · simp at h
    · split at h
      · rename_i w hw
        obtain ⟨after, rfl, haccepts⟩ := ih hw
        obtain rfl := Option.some.inj h
        exact ⟨after, rfl, haccepts⟩
      · split at h
        · rename_i hfirst
          obtain ⟨rfl, haccepts⟩ := hfirst
          obtain rfl := Option.some.inj h
          exact ⟨u, rfl, haccepts⟩
        · simp at h

/-- Nothing is found on a line exactly if none of its parentheses is accepted. -/
theorem beforeLastClose_eq_none_iff {rest body : Text} (hrest : '\n' ∉ rest)
    (hbody : ∀ c, body.head? = some c → c = '\n') :
    beforeLastClose accepts (rest ++ body) = none ↔
      ∀ s t, rest = s ++ ')' :: t → accepts (t ++ body) = false := by
  induction rest with
  | nil =>
    cases body with
    | nil => simp [beforeLastClose]
    | cons c body => simp [beforeLastClose, hbody c rfl]
  | cons c rest ih =>
    obtain ⟨hc, hrest⟩ := not_or.mp (mt List.mem_cons.mpr hrest)
    rw [List.cons_append, beforeLastClose, if_neg (Ne.symm hc)]
    constructor
    · intro h s t heq
      split at h
      · simp at h
      · rename_i hnone
        cases s with
        | nil =>
          obtain ⟨rfl, rfl⟩ := List.cons.inj heq
          simpa using h
        | cons d s => exact (ih hrest).mp hnone s t (List.cons.inj heq).2
    · intro h
      have hnone := (ih hrest).mpr fun s t heq => h (c :: s) t (by rw [heq, List.cons_append])
      rw [hnone]
      have hfirst : c = ')' → accepts (rest ++ body) = false := by
        rintro rfl
        exact h [] rest rfl
      simpa using hfirst

/-- What is found on the rest of a line is how far the parameters run over. -/
theorem beforeLastClose_eq_some_iff {kind : Kind} {rest body excess : Text} (hrest : '\n' ∉ rest)
    (hbody : ∀ c, body.head? = some c → c = '\n') :
    beforeLastClose (canClose kind) (rest ++ body) = some excess ↔
      RunsOver kind rest body excess := by
  constructor
  · intro h
    induction rest generalizing excess with
    | nil =>
      have hnone : beforeLastClose (canClose kind) ([] ++ body) = none :=
        (beforeLastClose_eq_none_iff hrest hbody).mpr (by simp)
      rw [hnone] at h
      simp at h
    | cons c rest ih =>
      obtain ⟨hc, hline⟩ := not_or.mp (mt List.mem_cons.mpr hrest)
      rw [List.cons_append, beforeLastClose, if_neg (Ne.symm hc)] at h
      split at h
      · rename_i v hv
        obtain ⟨after, heq, hclose, hlast⟩ := ih hline hv
        refine ⟨after, ?_, hclose, hlast⟩
        rw [heq, ← Option.some.inj h, List.cons_append]
      · rename_i hnone
        split at h
        · rename_i hfirst
          obtain ⟨rfl, hclose⟩ := hfirst
          obtain rfl := Option.some.inj h
          exact ⟨rest, rfl, hclose, (beforeLastClose_eq_none_iff hline hbody).mp hnone⟩
        · simp at h
  · rintro ⟨after, rfl, hclose, hlast⟩
    simp only [List.mem_append, List.mem_cons, not_or] at hrest
    have hnone := (beforeLastClose_eq_none_iff hrest.2.2 hbody).mpr hlast
    rw [List.append_assoc, List.cons_append]
    exact beforeLastClose_append hrest.1 hnone hclose

/-- The parameters of a header that has them in parentheses end with the line's last parenthesis
that can end them. -/
theorem parameterText?_open (kind : Kind) (t : Text) :
    parameterText? kind ('(' :: t) = beforeLastClose (canClose kind) t := by
  have hopen : NoBlankFirst ('(' :: t) := noBlankFirst_cons.mpr (by decide)
  cases kind with
  | func =>
    rw [parameterText?, functionParameters?, hopen.trimLeft_eq]
    rfl
  | cls =>
    rw [parameterText?, classParameters?, hopen.trimLeft_eq]
    rfl

end

/-! ## The whole header -/

section

variable {d : Dialect} {kind : Kind} {name t rest body : Text}

/-- Reading a block in full: what it says, and how far its parameters run over. -/
theorem parse?_written (valid : d.Valid) (kind : Kind) (hne : name ≠ [])
    (hname : ∀ c ∈ name, isWordChar c = true) (ht : '\n' ∉ t)
    (hcolon : kind = .cls → rest.head? = some ':') :
    parse? d (trim (written (d.keyword kind) name t rest body)) =
      some ⟨kind, name, match beforeLastClose (canClose kind) (rest ++ body) with
        | none => t
        | some excess => t ++ ')' :: excess⟩ := by
  obtain ⟨hkeyword, hplain⟩ := valid.not_isBlank kind
  have hfirst : NoBlankFirst (written (d.keyword kind) name t rest body) :=
    NoBlankFirst.append (fun c hc => hplain c (List.mem_of_head? hc)) hkeyword _
  have htrim : trim (written (d.keyword kind) name t rest body) =
      d.keyword kind ++ ' ' :: (name ++ '(' :: trimRight (t ++ ')' :: (rest ++ body))) := by
    have hopen := trimRight_append_cons (c := '(') (by decide) (d.keyword kind ++ ' ' :: name)
      (t ++ ')' :: (rest ++ body))
    rw [hfirst.trim_eq]
    simpa [written] using hopen
  have hclose : canClose kind (rest ++ body) = true := by
    cases kind with
    | func => rfl
    | cls => exact colonFollows_append (hcolon rfl) body
  have hparameters : parameterText? kind ('(' :: trimRight (t ++ ')' :: (rest ++ body))) =
      some (match beforeLastClose (canClose kind) (rest ++ body) with
        | none => t
        | some excess => t ++ ')' :: excess) := by
    rw [parameterText?_open, beforeLastClose_trimRight]
    exact beforeLastClose_close ht hclose
  rw [htrim, (begins_opened _ hne hname _).parse?_eq valid, hparameters]
  rfl

end

end Header

namespace Definition

open Header

/-- The parameters of a header are what stands between its parentheses, unless they run over: then
the parenthesis that should have ended them, and what follows it up to the last one, are read with
them.  It makes no difference whether the parentheses of the parameters themselves are balanced. -/
theorem ofBlock_written {d : Dialect} (valid : d.Valid) (kind : Kind) (blocked : List Text)
    {name t rest body : Text} (hne : name ≠ []) (hname : ∀ c ∈ name, isWordChar c = true)
    (ht : '\n' ∉ t) (hrest : '\n' ∉ rest) (hcolon : kind = .cls → rest.head? = some ':')
    (hbody : ∀ c, body.head? = some c → c = '\n') :
    let own := ofBlock d blocked (written (d.keyword kind) name t rest body)
    own.name = some name ∧ own.kind = some kind ∧
      ((¬ ∃ excess, RunsOver kind rest body excess) →
        own.parameters = some (Parameter.parse t blocked)) ∧
      ∀ excess, RunsOver kind rest body excess →
        own.parameters = some (Parameter.parse (t ++ ')' :: excess) blocked) := by
  intro own
  have hparse : parse? d (trim (written (d.keyword kind) name t rest body)) = _ :=
    parse?_written valid kind hne hname ht hcolon
  refine ⟨?_, ?_, ?_, ?_⟩
  · rw [name_ofBlock, hparse]
    rfl
  · rw [kind_ofBlock, hparse]
    rfl
  · intro hnone
    have hexcess : beforeLastClose (canClose kind) (rest ++ body) = none :=
      Option.eq_none_iff_forall_not_mem.mpr fun excess hexcess =>
        hnone ⟨excess, (beforeLastClose_eq_some_iff hrest hbody).mp hexcess⟩
    rw [parameters_ofBlock, hparse, hexcess]
    rfl
  · intro excess hruns
    rw [parameters_ofBlock, hparse, (beforeLastClose_eq_some_iff hrest hbody).mpr hruns]
    rfl

/-- In a class, a parenthesis that is not before a colon does no harm; in a function, an annotation
with parentheses does. -/
theorem ofBlock_written_annotated :
    let cls := ofBlock {} [] (written "class" "K" "x, g(1)" ": # see (y) or z" "\n  pass")
    let func := ofBlock {} ["self"] (written "def" "f" "self, x" " -> g(y): pass" [])
    Dialect.Valid {} ∧
      ((¬ ∃ excess, RunsOver .cls ": # see (y) or z" "\n  pass" excess) ∧
        cls.name = some "K".toList ∧ cls.parameters = some (Parameter.parse "x, g(1)" [])) ∧
      RunsOver .func " -> g(y): pass" [] " -> g(y" ∧ func.name = some "f".toList ∧
        func.parameters = some [⟨"x) -> g(y", none, none⟩] := by
  intro cls func
  have hbody : ∀ c, List.head? ("\n  pass" : Text) = some c → c = '\n' :=
    fun _ h => (Option.some.inj h).symm
  have hnone : ¬ ∃ excess, RunsOver .cls ": # see (y) or z" "\n  pass" excess := by
    rintro ⟨excess, hruns⟩
    have hexcess := (beforeLastClose_eq_some_iff (by decide) hbody).mpr hruns
    exact absurd (hexcess.symm.trans rfl) (Option.some_ne_none excess)
  have hruns : RunsOver .func " -> g(y): pass" [] " -> g(y" :=
    (beforeLastClose_eq_some_iff (by decide) (by simp)).mp rfl
  obtain ⟨hcls, _, hwell, _⟩ := @ofBlock_written {} Dialect.valid_default .cls [] "K" "x, g(1)"
    ": # see (y) or z" "\n  pass" (by decide) (List.all_eq_true.mp (by decide)) (by decide)
    (by decide) (fun _ => rfl) hbody
  obtain ⟨hfunc, _, _, hexcess⟩ := @ofBlock_written {} Dialect.valid_default .func ["self"] "f"
    "self, x" " -> g(y): pass" [] (by decide) (List.all_eq_true.mp (by decide)) (by decide)
    (by decide) (fun h => by simp at h) (by simp)
  refine ⟨Dialect.valid_default, ⟨hnone, hcls, hwell hnone⟩, hruns, hfunc, ?_⟩
  exact (hexcess _ hruns).trans (by decide +kernel)

/-- A call in a body on the header's line is read with parameters that were complete before it. -/
theorem ofBlock_call_on_line :
    let own := ofBlock {} [] (written "def" "f" "a" ": return g(b)" [])
    Dialect.Valid {} ∧ Balanced "a" ∧ own.parameters = some [⟨"a)", some "return g(b", none⟩] ∧
      own.parameters ≠ some (Parameter.parse "a" []) :=
  ⟨Dialect.valid_default, by decide +kernel⟩

end Definition

end Signpost
