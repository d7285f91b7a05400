import Signpost.Dialect
import Signpost.Text.Identifier
import Signpost.Settings.Check
set_option autoImplicit false

/-!
# Dialect settings

The keywords of the indexed source, each an identifier.  The keywords of functions and of classes
differ.
-/

namespace Signpost.Settings

open Check

/-- A keyword. -/
def checkKeyword : Value → Check Text := textWith Text.isIdentifier (.identifier .keyword)

/-- Checks the entries of a dialect one by one. -/
def checkDialectFields (entries : Entries) : Check Dialect :=
  (fun functionKeyword classKeyword constructorName _ =>
      { functionKeyword, classKeyword, constructorName }) <$>
    field entries "def_keyword" "def" checkKeyword <*>
    field entries "class_keyword" "class" checkKeyword <*>
    field entries "constructor_name" "__init__" checkKeyword <*>
    noOthers ["def_keyword", "class_keyword", "constructor_name"] entries

/-- Checks the entries of a dialect, and then that its two keywords differ. -/
def checkDialectEntries (entries : Entries) : Check Dialect :=
  (checkDialectFields entries).andThen fun d =>
    if d.functionKeyword = d.classKeyword then
      fault (.broken .distinctKeywords) (.map entries)
    else .valid d

/-- Checks a dialect. -/
def checkDialect : Value → Check Dialect := ofSection "DialectConfig" checkDialectEntries

/-- A dialect as data. -/
def ofDialect (d : Dialect) : Value :=
  .map [(.str "def_keyword", .str d.functionKeyword), (.str "class_keyword", .str d.classKeyword),
    (.str "constructor_name", .str d.constructorName)]

end Signpost.Settings
