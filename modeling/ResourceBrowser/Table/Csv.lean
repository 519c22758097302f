import ResourceBrowser.Table.Live

/-!
# Dumps

The shown part of a table as comma-separated values: one line for the column names and one for
every row. A field that holds a comma, a quote or a line break is written in quotes, with every
quote doubled.
-/

namespace ResourceBrowser.Table

open Text

namespace Csv

/-- True when a field has to be quoted. -/
def isSpecial (c : Char) : Bool := c == ',' || c == '"' || c == '\n' || c == '\r'

/-- The quotes of a text doubled. -/
def doubleQuotes : List Char → List Char
  | [] => []
  | c :: cs => if c = '"' then '"' :: '"' :: doubleQuotes cs else c :: doubleQuotes cs

/-- A field as it is written. -/
def field (text : List Char) : List Char :=
  if text.any isSpecial then '"' :: doubleQuotes text ++ ['"'] else text

/-- A line of fields. -/
def record (fields : List String) : String :=
  .ofList ([','].intercalate (fields.map fun f => field f.toList)) ++ "\n"

end Csv

/-- Why a dump could not be written. -/
inductive DumpFault where
  /-- The name holds the zero character. -/
  | zeroCharacter
  /-- The name leads into a directory that does not exist. -/
  | missingDirectory
  /-- The name is longer than file names may be. -/
  | nameTooLong
deriving DecidableEq, Repr

/-- The text shown for a dump that failed. -/
def DumpFault.message : DumpFault → String
  | .zeroCharacter => "file name contained an unexpected NUL byte"
  | .missingDirectory => "No such file or directory (os error 2)"
  | .nameTooLong => "File name too long (os error 36)"

/-- The bound on the size of a file name. -/
def nameBound : Nat := 256

/-- Follows the directories of a path; the last part is the file. -/
def dumpTarget? : List (List Char) → Except DumpFault (List Char)
  | [] => .error .missingDirectory
  | [file] =>
    if (String.ofList file).utf8ByteSize < nameBound then .ok file else .error .nameTooLong
  | directory :: parts =>
    if directory == [] || directory == ['.'] || directory == ['.', '.'] then dumpTarget? parts
    else .error (if (String.ofList directory).utf8ByteSize < nameBound then .missingDirectory
      else .nameTooLong)

namespace LiveTable

/-- The shown part of the table as comma-separated values. -/
def csv (t : LiveTable) : String :=
  let names := t.plan.header.map (·.name)
  let rows := t.grid.map fun cells => cells.map fun c => trim c.text
  String.join ((names :: rows).map Csv.record)

/-- What the name of a dump starts with: the scope, unless it is the whole cluster, and the kind. -/
def dumpStem (t : LiveTable) : String :=
  let ns := t.data.ns
  if Scope.isAll ns || Scope.isCluster ns then t.kind
  else .ofList (ns.toList.map fun c => if c = '/' then '-' else c) ++ "-" ++ t.kind

/-- The name of a dump, which may lead through directories. The stamp is the time in nanoseconds
since 1970. -/
def dumpName (t : LiveTable) (stamp : Nat) : String :=
  t.dumpStem ++ "-" ++ toString stamp ++ ".csv"

/-- The file of a dump in its directory. -/
def dumpFile (t : LiveTable) (stamp : Nat) : Except DumpFault String :=
  let name := (t.dumpName stamp).toList
  if name.contains '\x00' then .error .zeroCharacter
  else (dumpTarget? (splitAll '/' name)).map .ofList

end LiveTable

end ResourceBrowser.Table
