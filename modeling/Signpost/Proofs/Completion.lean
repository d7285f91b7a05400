import Signpost.Proofs.Query.CallPath
import Signpost.Proofs.Query.Token
import Signpost.Session
set_option autoImplicit false

/-!
# Completions in a call

Hovering finds a word from the left and reads the path before it off the line; completion reads
both from the right, off what the scan for the call leaves.  Where the line closes no parenthesis the
scan leaves all of it, and the two find the same definition (`completedIn_word`).

In a call, the scan comes back to where it was at the opening parenthesis after every argument that
is complete (`Query.callPath_arguments`).  So all positions of the call offer the same.
-/

namespace Signpost

open Query Text

namespace Session

/-- Where nothing is closed, the whole text is the path. -/
theorem completedIn_of_no_close (index : Index) (names : NameTable) {t : Text} (h : ')' ∉ t)
    {trigger : Option Text} (htrigger : (trigger == some [',']) = false) :
    completedIn index names t t.length trigger =
      resolve index names (splitPath t).2 (splitPath t).1 := by
  have hpath : callPath t false = t := CallStack.path_scan_of_no_close h
  unfold completedIn
  rw [htrigger, before_length, hpath]

section

variable {line : Text} {word : Span} {column : Int}

/-- Completing a word, or a call that begins after it, is about the definition of the word. -/
theorem completedIn_word (hclose : ')' ∉ line) (hword : IsWord line word)
    (hstart : word.start ≤ column) (hstop : column ≤ word.stop) (index : Index)
    (names : NameTable) :
    completedIn index names (line.take word.stop ++ ['('])
        (line.take word.stop ++ ['(']).length (some ['(']) =
      definitionIn index names line column ∧
    completedIn index names (line.take word.stop) (line.take word.stop).length none =
      definitionIn index names line column := by
  have hplain : ')' ∉ line.take word.stop := fun h => hclose (List.mem_of_mem_take h)
  have hcall : ')' ∉ line.take word.stop ++ ['('] := by simpa using hplain
  have hdefinition : definitionIn index names line column =
      resolve index names (word.text line) (contextOf (line.take word.start)) := by
    unfold definitionIn
    rw [hword.wordAt_eq hstart hstop]
  constructor
  · rw [completedIn_of_no_close index names hcall (by decide), hdefinition,
      ← hword.take_append_text,
      splitPath_word hword.before hword.text_ne_nil hword.isWordChar (.inr rfl)]
  · rw [completedIn_of_no_close index names hplain (by decide), hdefinition,
      ← hword.take_append_text,
      splitPath_of_word hword.before hword.text_ne_nil hword.isWordChar]

/-- At the end of a word, and at the parenthesis that begins a call of it, is offered what the
definition has that hovering over the word finds. -/
theorem complete_eq_definitionAt (files : FileTree) (s : Session) (hclose : ')' ∉ line)
    (hword : IsWord line word) (hstart : word.start ≤ column) (hstop : column ≤ word.stop) :
    let offered := (s.definitionAt files line column).map fun (s', definition, notices) =>
      (s', (rules s.settings.hints).items definition, notices)
    s.complete files (line.take word.stop ++ ['(']) (line.take word.stop ++ ['(']).length
        (some ['(']) = offered ∧
      s.complete files (line.take word.stop) (line.take word.stop).length none = offered := by
  have hensured : s.ensuredAt files line column = s.ensured files := by
    unfold ensuredAt
    rw [hword.wordAt_eq hstart hstop]
    rfl
  have hsame := completedIn_word hclose hword hstart hstop
  unfold Session.complete Session.definitionAt completeIn
  rw [hensured]
  unfold Session.ensured
  cases s.store.ensured files with
  | error fault => exact ⟨rfl, rfl⟩
  | ok built =>
    simp only [Except.map]
    rw [(hsame _ _).1, (hsame _ _).2]
    exact ⟨rfl, rfl⟩

/-- A method that is an argument of another call. -/
theorem complete_eq_definitionAt_argument :
    let source : Text := "class A():\n  def f(a, b=1):\n    return a\n"
    let files : FileTree := { top := .dir [("lib.py", .file (Utf8.encode source))] }
    let s : Session := .start {} (.ofText "lib.py")
    let offered := (s.definitionAt files "g(A.f, 1" 4).map fun (s', definition, notices) =>
      (s', (rules s.settings.hints).items definition, notices)
    IsWord "g(A.f, 1" ⟨4, 5⟩ ∧ s.complete files "g(A.f(" 6 (some ['(']) = offered ∧
      s.complete files "g(A.f" 5 none = offered ∧
      offered.toOption.map (·.2.1) = some (["a=", "b="] : List Text) := by
  intro source files s offered
  have hword : IsWord "g(A.f, 1" ⟨4, 5⟩ := by
    refine ⟨by decide, by decide, List.forall_mem_singleton.mpr (by decide), ?_, ?_⟩ <;>
    · intro c hc
      rw [← Option.some.inj hc]
      decide
  have hstart : ((4 : Nat) : Int) ≤ 4 := by decide
  obtain ⟨hcall, hend⟩ := complete_eq_definitionAt files s (by decide) hword hstart (by decide)
  exact ⟨hword, hcall, hend, by decide +kernel⟩

end

/-! ## The arguments of a call -/

/-- Every argument of a call is offered what its opening parenthesis is. -/
theorem complete_arguments (files : FileTree) (s : Session) {t args : Text}
    (hopen : t.getLast? = some '(') (hargs : Balanced args) :
    s.complete files (t ++ args) (t ++ args).length (some [',']) =
      s.complete files t t.length (some ['(']) := by
  have hsame : ∀ index names, completedIn index names (t ++ args) (t ++ args).length (some [',']) =
      completedIn index names t t.length (some ['(']) := by
    intro index names
    have hcomma : (some [','] == some [',']) = true := by decide
    have hparen : (some ['('] == some [',']) = false := by decide
    unfold completedIn
    rw [before_length, before_length, hcomma, hparen, callPath_arguments hopen hargs]
  unfold Session.complete completeIn
  simp only [hsame]

/-- With calls that are complete, and others that are not, before the call. -/
theorem complete_arguments_nested :
    let source : Text := "def g(a, b):\n  return a\n"
    let files : FileTree := { top := .dir [("lib.py", .file (Utf8.encode source))] }
    let s : Session := .start {} (.ofText "lib.py")
    s.complete files "x(1)) + f(g(h(2), (3), " 23 (some [',']) =
        s.complete files "x(1)) + f(g(" 12 (some ['(']) ∧
      (s.complete files "x(1)) + f(g(" 12 (some ['('])).toOption.map (·.2.1) =
        some (["a=", "b="] : List Text) := by
  intro source files s
  have hopen : ("x(1)) + f(g(" : Text).getLast? = some '(' := by decide
  have hargs : Balanced "h(2), (3), " := by decide
  have hsame := complete_arguments files s hopen hargs
  exact ⟨hsame, by decide +kernel⟩

end Session

end Signpost
