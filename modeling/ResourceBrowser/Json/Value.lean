import ResourceBrowser.KeyList
import ResourceBrowser.Number.Decimal

/-!
# JSON values

A JSON value keeps the members of an object in the order of the text, repeated keys included. The
functions on values read what a program expects of them: text, a number within bounds, a list, a
record with known fields, or a map.
-/

namespace ResourceBrowser

open Number

/-- A JSON value. A string is `none` when its escapes name half of a surrogate pair: such a string
is well formed, but there is no text that it stands for. -/
inductive Json where
  | null
  | bool (value : Bool)
  /-- A whole number, written without a fraction and an exponent. -/
  | int (value : Int)
  /-- Every other number. -/
  | real (negative : Bool) (value : Decimal)
  | string (text : Option String)
  | array (items : List Json)
  | object (members : List (Option String × Json))
deriving Inhabited

namespace Json

/-- The text of a string. -/
def text? : Json → Option String
  | .string text => text
  | _ => none

/-- A whole number from zero up to, but without, `bound`. -/
def natBelow? (bound : Nat) : Json → Option Nat
  | .int n => if 0 ≤ n && n < bound then some n.toNat else none
  | _ => none

/-- The items of an array, each read by `read`. -/
def list? (read : Json → Option α) : Json → Option (List α)
  | .array items => items.mapM read
  | _ => none

/-- The members of an object under their keys. -/
def members? : Json → Option (List (String × Json))
  | .object members => members.mapM fun (key, value) => key.map fun key => (key, value)
  | _ => none

/-- The fields of a record, `none` for those that are absent. A record is an object in which no
field occurs twice, or an array of the fields in order, of which the last ones may be absent.
Members of the object that are not fields do not count. -/
def record? (fields : List String) : Json → Option (List (Option Json))
  | .array items =>
    if items.length ≤ fields.length then
      some (items.map some ++ List.replicate (fields.length - items.length) none)
    else none
  | value => do
    let members ← value.members?
    fields.mapM fun field =>
      match members.filter fun m => m.1 == field with
      | [] => some none
      | [m] => some (some m.2)
      | _ => none

/-- The members of an object in order of keys, each read by `read`; of members with the same key
the last one counts. -/
def map? (read : Json → Option α) (value : Json) : Option (KeyList α) := do
  let members ← value.members?
  let entries ← members.mapM fun (key, value) => (read value).map fun v => (key, v)
  some (.ofPairs entries)

/-- Reads a field that may be absent; one that is there has to be readable. -/
def optional (default : α) (read : Json → Option α) : Option Json → Option α
  | none => some default
  | some value => read value

end Json

end ResourceBrowser
