import ResourceBrowser.Pattern.Match
import ResourceBrowser.Pattern.Reader
import ResourceBrowser.Pattern.Size

/-!
# Filter patterns

A compiled filter pattern and what it matches. Patterns ignore letter case unless they switch
that off themselves.
-/

namespace ResourceBrowser.Pattern

open Text

/-- Why a text is not a usable pattern. -/
inductive Fault where
  /-- The text does not follow the grammar of patterns. -/
  | malformed
  /-- The parts are nested too deep. -/
  | tooNested
  /-- A property does not exist, or a part would match less than a character. -/
  | meaningless
  /-- The pattern would take too much memory. -/
  | tooLarge
deriving DecidableEq, Repr

/-- The deepest nesting of a pattern. -/
def nestingLimit : Nat := 250

/-- What is said of a text that is not a usable pattern. -/
def Fault.text : Fault → String
  | .malformed => "regex parse error"
  | .tooNested =>
    "regex parse error: exceeded the maximum number of nested parentheses/brackets (" ++
      toString nestingLimit ++ ")"
  | .meaningless => "regex parse error: nothing has this property"
  | .tooLarge => "Compiled regex exceeds size limit of " ++ toString sizeLimit ++ " bytes."

/-- A pattern that is ready to match. -/
structure Regex where
  expr : Expr CodeSet
deriving Repr

/-- The flags in force at the start of a pattern. -/
def initialFlags : Flags := ⟨true, false, false, true, false⟩

namespace Regex

/-- Reads a pattern. -/
def compile (text : String) : Except Fault Regex :=
  match Tree.read? text.toList with
  | none => .error .malformed
  | some tree =>
    if nestingLimit < tree.height then .error .tooNested
    else match tree.meaning? initialFlags with
      | none => .error .meaningless
      | some (e, _) => if e.fits then .ok ⟨e⟩ else .error .tooLarge

/-- True when the pattern matches some part of the text. -/
def isMatch (r : Regex) (text : String) : Bool := r.expr.occursIn text.toList

end Regex

end ResourceBrowser.Pattern
