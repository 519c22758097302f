import ResourceBrowser.Fuzzy.Score
import ResourceBrowser.Pattern.Regex
import ResourceBrowser.Table.Engine

/-!
# The engine of the program

Patterns and scores that are worked out here, after the documentation of the libraries. Whatever is
known of tables is known for every engine; this one is what the program runs with.
-/

namespace ResourceBrowser.Table

open Pattern

/-- Searches by the patterns and the scores of this project. -/
@[reducible] def nativeEngine : Engine where
  compile text :=
    match Regex.compile text with
    | .ok r => .ok r.isMatch
    | .error e => .error e.text
  score? := Fuzzy.score?

end ResourceBrowser.Table
