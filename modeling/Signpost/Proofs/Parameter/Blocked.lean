import Signpost.Parameter
set_option autoImplicit false

/-!
# Blocked parameters

Reading a list goes from segment to segment.  At any point some parameters are finished, and one may
still be continued.  Which ones these are does not depend on the names that are blocked: a blocked
parameter takes in the segments that continue it as any other does, and is left out only when it is
finished.  So blocking names means reading the whole list and leaving their parameters out
(`parseSegments_eq_filter`).
-/

namespace Signpost.Parameter

open Text

/-! ## One segment -/

/-- The parameter that may still be continued after a segment, if there is one. -/
def next (current : Option Parameter) (s : Segment) : Option Parameter :=
  match current with
  | none => if trim s.body = [] then none else some (ofSegment (trim s.body))
  | some p =>
    if p.continuedBy s.body then some (p.absorb s)
    else if trim s.body = [] then some p
    else some (ofSegment (trim s.body))

/-- What a segment finishes: the parameter before it, when the segment starts a new one. -/
def finishedBy (current : Option Parameter) (s : Segment) : List Parameter :=
  match current with
  | none => []
  | some p => if p.continuedBy s.body ∨ trim s.body = [] then [] else [p]

/-- The parameters that segments finish, one after the other. -/
def finished : Option Parameter → List Segment → List Parameter
  | _, [] => []
  | current, s :: rest => finishedBy current s ++ finished (next current s) rest

variable (blocked : List Text) (current : Option Parameter)

theorem unlessBlocked_eq_filter (p : Parameter) :
    unlessBlocked blocked p = [p].filter (·.name ∉ blocked) := by
  unfold unlessBlocked
  by_cases h : p.name ∈ blocked <;> simp [h]

theorem parseSegments_nil :
    parseSegments blocked current [] =
      (current.map closed).toList.filter (·.name ∉ blocked) := by
  cases current with
  | none => rfl
  | some p => exact unlessBlocked_eq_filter blocked p.closed

/-- Only what a segment finishes is compared with the blocked names. -/
theorem parseSegments_cons (s : Segment) (rest : List Segment) :
    parseSegments blocked current (s :: rest) =
      (finishedBy current s).filter (·.name ∉ blocked) ++
        parseSegments blocked (next current s) rest := by
  cases current with
  | none =>
    rw [parseSegments]
    cases htrim : trim s.body <;> simp [next, finishedBy, htrim]
  | some p =>
    rw [parseSegments]
    cases hcontinued : p.continuedBy s.body with
    | true => simp [next, finishedBy, hcontinued]
    | false =>
      cases htrim : trim s.body <;>
        simp [next, finishedBy, hcontinued, htrim, unlessBlocked_eq_filter]

/-! ## A whole list -/

/-- The reading after some segments: what they finished has been filtered, and the rest is read as
it would be if nothing were blocked so far. -/
theorem parseSegments_append (l m : List Segment) :
    parseSegments blocked current (l ++ m) =
      (finished current l).filter (·.name ∉ blocked) ++
        parseSegments blocked (l.foldl next current) m := by
  induction l generalizing current with
  | nil => rfl
  | cons s l ih =>
    rw [List.cons_append, parseSegments_cons, ih, finished, List.filter_append, List.append_assoc,
      List.foldl_cons]

theorem parseSegments_eq_filter (l : List Segment) :
    parseSegments blocked current l =
      (parseSegments [] current l).filter (·.name ∉ blocked) := by
  have hread : ∀ names : List Text, parseSegments names current l =
      (finished current l ++ ((l.foldl next current).map closed).toList).filter
        (·.name ∉ names) := by
    intro names
    have happend := parseSegments_append names current l []
    rw [List.append_nil, parseSegments_nil, ← List.filter_append] at happend
    exact happend
  rw [hread, hread []]
  simp

/-- Blocking names leaves out the parameters of these names and changes nothing else.  After any
number of segments the same parameters are finished as without blocking, and the same parameter,
with the same segments taken in, waits for more. -/
theorem parse_eq_filter (t : Text) (n : Nat) :
    parse t blocked = (parse t []).filter (·.name ∉ blocked) ∧
      parse t blocked =
        (finished none ((segments t).take n)).filter (·.name ∉ blocked) ++
          parseSegments blocked (((segments t).take n).foldl next none) ((segments t).drop n) := by
  refine ⟨parseSegments_eq_filter blocked none (segments t), ?_⟩
  rw [← parseSegments_append, List.take_append_drop]
  rfl

/-- A blocked default takes in its string, quotes and commas included, and its neighbours stay. -/
example : parse "a, b='x, y',c= 1" ["b"] = [⟨"a", none, none⟩, ⟨"c", none, some "1"⟩] := by
  decide +kernel

end Signpost.Parameter
