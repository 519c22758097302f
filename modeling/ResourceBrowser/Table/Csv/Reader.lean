import ResourceBrowser.Table.Csv

/-!
# Reading comma-separated values

The reader takes a text apart into records of fields, character by character. Fields are separated
by commas and records end with a line feed, so that an empty line is a record of one empty field. A
field may stand in quotes, and then holds whatever is between them, each quote being written twice.
The reader is strict: outside of quotes it takes neither a quote nor a carriage return, and after a
field in quotes it takes nothing but a separator.
-/

namespace ResourceBrowser.Table.Csv

/-- Where in a field a reader is. -/
inductive Place where
  /-- At its start. -/
  | start
  /-- In a field without quotes. -/
  | bare
  /-- Between the quotes. -/
  | quoted
  /-- After a quote that ends the field, unless another one follows. -/
  | closed
deriving DecidableEq, Repr

/-- What a reader has read so far. -/
structure Reading where
  place : Place := .start
  /-- The field that is being read. -/
  field : List Char := []
  /-- The fields before it in its record. -/
  fields : List String := []
  /-- The records before that. -/
  records : List (List String) := []
deriving DecidableEq, Repr

namespace Reading

/-- Adds a character to the field. -/
def push (r : Reading) (place : Place) (c : Char) : Reading :=
  { r with place, field := r.field ++ [c] }

/-- Ends the field. -/
def endField (r : Reading) : Reading :=
  { r with place := .start, field := [], fields := r.fields ++ [.ofList r.field] }

/-- Ends the field and the record. -/
def endRecord (r : Reading) : Reading :=
  { records := r.records ++ [r.endField.fields] }

/-- Reads a character; none if it cannot stand here. -/
def step (r : Reading) (c : Char) : Option Reading :=
  match r.place, c with
  | .quoted, '"' => some { r with place := .closed }
  | .quoted, c => some (r.push .quoted c)
  | .closed, '"' => some (r.push .quoted '"')
  | .start, '"' => some { r with place := .quoted }
  | .bare, '"' => none
  | _, ',' => some r.endField
  | _, '\n' => some r.endRecord
  | .closed, _ => none
  | _, '\r' => none
  | _, c => some (r.push .bare c)

/-- The records at the end of the text. The last one may lack its line feed, but no field may lack
its closing quote. -/
def finish (r : Reading) : Option (List (List String)) :=
  match r.place with
  | .quoted => none
  | .start => some (if r.fields = [] then r.records else r.endRecord.records)
  | _ => some r.endRecord.records

end Reading

/-- The records of a text. -/
def read? (text : String) : Option (List (List String)) :=
  (text.toList.foldlM Reading.step {}).bind Reading.finish

end ResourceBrowser.Table.Csv
