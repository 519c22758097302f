import ResourceBrowser.Key.Binding

/-!
# Names of key presses

Key presses as a terminal reports them, by name: a character stands for its key, the other keys
have names such as `Enter`, `PageDown` or `F5`, and modifiers have one letter each.
-/

namespace ResourceBrowser.Key

open Number

/-- The name that a key is reported under. -/
def Code.title : Code → String
  | .char c => .singleton c
  | .function n => "F" ++ toString n
  | .enter => "Enter"
  | .esc => "Esc"
  | .tab => "Tab"
  | code => code.name

/-- The keys that can be named. -/
def Code.named : List Code := [
  .enter, .esc, .tab, .backTab, .backspace, .delete, .insert, .up, .down, .left, .right, .home,
  .last, .pageUp, .pageDown, .null]

/-- The key that is reported under a name. -/
def Code.ofTitle? (title : String) : Option Code :=
  match title.toList with
  | [c] => some (.char c)
  | 'F' :: digits => (readBelow? Binding.functionBound digits).map .function
  | _ => named.find? fun code => code.title == title

/-- Reads a key press: the name of a key, or the text of a binding. -/
def Press.read? (text : String) : Option Press :=
  match Code.ofTitle? text with
  | some code => some { code }
  | none => (Binding.read? text).map fun key => ⟨key.code, key.modifiers⟩

/-- The letters of the modifiers that are held down. -/
def Modifiers.letters (m : Modifiers) : String :=
  (if m.shift then "s" else "") ++ (if m.control then "c" else "") ++
    (if m.alt then "a" else "") ++ (if m.super then "u" else "")

/-- The modifiers with given letters. -/
def Modifiers.ofLetters (letters : String) : Modifiers :=
  let held (c : Char) : Bool := letters.toList.contains c
  { shift := held 's', control := held 'c', alt := held 'a', super := held 'u' }

end ResourceBrowser.Key
