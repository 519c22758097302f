import ResourceBrowser.Text.Blank
import ResourceBrowser.Text.Case

/-!
# Matches that begin a word

A fuzzy query only matches values in which its characters occur in order, the first of them at
the beginning of a word. Letter case and the blanks of the query do not count.
-/

namespace ResourceBrowser.Fuzzy

open Text

/-- True when a word may begin after `before`. -/
def startsWord : Option Char → Bool
  | none => true
  | some c => c == '-' || c == '_' || c == '.' || c == '/' || c == ' ' || c == ':'

/-- The characters that are still to come after the next one of a text: it is taken for the first
of them if it can be. -/
def crossOff : List Char → Char → List Char
  | [], _ => []
  | d :: wanted, c => if c == d then wanted else d :: wanted

/-- True when `first` begins a word and the characters of `rest` are found one by one after it;
`before` is the character before the text. -/
def anchoredFrom (first : Char) (rest : List Char) (before : Option Char) : List Char → Bool
  | [] => false
  | c :: cs =>
    (c == first && startsWord before && (cs.foldl crossOff rest).isEmpty) ||
      anchoredFrom first rest (some c) cs

/-- The characters of a query that count. -/
def queryChars (query : String) : List Char :=
  (query.toList.filter fun c => !isBlank c).flatMap lowercase

/-- True when the query occurs in the value in order, beginning a word. -/
def isAnchored (query value : String) : Bool :=
  match queryChars query with
  | [] => true
  | first :: rest => anchoredFrom first rest none (value.toList.flatMap lowercase)

end ResourceBrowser.Fuzzy
