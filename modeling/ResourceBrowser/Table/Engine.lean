/-!
# Search engines

Reading and matching patterns and valuing the matches of fuzzy searches are left to libraries. All
that tables rely on is that the answers depend on nothing but the texts.
-/

namespace ResourceBrowser.Table

/-- What searches are made with. -/
class Engine where
  /-- What a pattern matches, letter case ignored, or why a text is not a pattern. -/
  compile : String → Except String (String → Bool)
  /-- How well a value matches a fuzzy search, if it does. -/
  score? (search value : String) : Option Nat

end ResourceBrowser.Table
