import ResourceBrowser.Json.Value
import ResourceBrowser.Text.Hex

/-!
# Writing JSON

A value as JSON text without blanks. Strings are written with as few escapes as the format allows.
-/

namespace ResourceBrowser.Json

/-- A character as it stands in a string. -/
def quotedChar (c : Char) : List Char :=
  if c == '"' then ['\\', '"']
  else if c == '\\' then ['\\', '\\']
  else if c.toNat < 0x20 then
    '\\' :: 'u' :: '0' :: '0' :: Text.hexPair c.toNat
  else [c]

/-- A string in quotes. A string without a text is written as a replacement character. -/
def quoted (text : Option String) : String :=
  .ofList ('"' :: ((text.map String.toList).getD ['\ufffd']).flatMap quotedChar ++ ['"'])

/-- A number that is not a whole number. -/
def realText (negative : Bool) (d : Number.Decimal) : String :=
  (if negative then "-" else "") ++ toString d.digits ++ "e" ++ toString d.exponent

mutual

/-- The text of a value. -/
def print : Json → String
  | .null => "null"
  | .bool b => if b then "true" else "false"
  | .int n => toString n
  | .real negative d => realText negative d
  | .string text => quoted text
  | .array items => "[" ++ printItems items ++ "]"
  | .object members => "\x7b" ++ printMembers members ++ "\x7d"

/-- The items of an array with commas between them. -/
def printItems : List Json → String
  | [] => ""
  | [item] => item.print
  | item :: items => item.print ++ "," ++ printItems items

/-- The members of an object with commas between them. -/
def printMembers : List (Option String × Json) → String
  | [] => ""
  | [(key, value)] => quoted key ++ ":" ++ value.print
  | (key, value) :: members => quoted key ++ ":" ++ value.print ++ "," ++ printMembers members

end

/-! ## Building values -/

/-- A string. -/
def ofText (text : String) : Json := .string (some text)

/-- An array of strings. -/
def ofTexts (texts : List String) : Json := .array (texts.map ofText)

/-- A whole number. -/
def ofNat (n : Nat) : Json := .int n

/-- A value that may be absent. -/
def ofOption (write : α → Json) : Option α → Json
  | some a => write a
  | none => .null

/-- A record. -/
def ofFields (fields : List (String × Json)) : Json :=
  .object (fields.map fun (key, value) => (some key, value))

/-- A map. -/
def ofKeyList (write : α → Json) (entries : KeyList α) : Json :=
  ofFields (entries.map fun (key, value) => (key, write value))

end ResourceBrowser.Json
