import Signpost.Text.Basic
set_option autoImplicit false

/-!
# Dialects

A dialect says which keywords introduce definitions.  Sources differ from each other in nothing
else that matters here.
-/

namespace Signpost

/-- The keywords of a source language. -/
structure Dialect where
  /-- The keyword before a function's name. -/
  functionKeyword : Text := "def"
  /-- The keyword before a class's name. -/
  classKeyword : Text := "class"
  /-- The method whose parameters a class without any adopts. -/
  constructorName : Text := "__init__"
  deriving DecidableEq, Repr, Inhabited

/-- The two sorts of definition. -/
inductive Kind where
  /-- A function or method. -/
  | func
  /-- A class. -/
  | cls
  deriving DecidableEq, Repr, Inhabited

/-- The word that stands for a kind. -/
def Kind.word : Kind → Text
  | .func => "func"
  | .cls => "class"

/-- The keyword that introduces a kind. -/
def Dialect.keyword (d : Dialect) : Kind → Text
  | .func => d.functionKeyword
  | .cls => d.classKeyword

end Signpost
