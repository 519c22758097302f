import ResourceBrowser.Text.Hex

/-!
# Sets of code points

A set of characters is a list of disjoint inclusive ranges of code points in increasing order.
The module holds the set operations and the written form in which the character tables of this
folder are kept: `41-5a 61` stands for the range 41 to 5A and the code point 61, in hexadecimal.
-/

namespace ResourceBrowser.Text

/-- The largest code point. -/
def maxCode : Nat := 0x10FFFF

/-- A set of code points: disjoint inclusive ranges in increasing order. -/
structure CodeSet where
  ranges : List (Nat × Nat)
deriving DecidableEq, Repr, Inhabited

namespace CodeSet

/-- Appends a range that starts no earlier than every range joined so far. -/
def push (joined : List (Nat × Nat)) (span : Nat × Nat) : List (Nat × Nat) :=
  match joined with
  | [] => [span]
  | last :: before =>
    if span.1 ≤ last.2 + 1 then (last.1, max last.2 span.2) :: before
    else span :: last :: before

/-- The set of the given ranges, which are sorted by lower end. -/
def ofSorted (spans : List (Nat × Nat)) : CodeSet :=
  ⟨(spans.foldl push []).reverse⟩

/-- The set of the given ranges, in any order. -/
def ofRanges (spans : List (Nat × Nat)) : CodeSet :=
  ofSorted (spans.mergeSort fun a b => a.1 ≤ b.1)

def empty : CodeSet := ⟨[]⟩

/-- Every code point. -/
def all : CodeSet := ⟨[(0, maxCode)]⟩

def singleton (code : Nat) : CodeSet := ⟨[(code, code)]⟩

/-- The code points from `first` to `last`; empty when `last < first`. -/
def range (first last : Nat) : CodeSet :=
  if first ≤ last then ⟨[(first, last)]⟩ else empty

def isEmpty (s : CodeSet) : Bool := s.ranges.isEmpty

/-- Membership of a code point. -/
def has (s : CodeSet) (code : Nat) : Bool :=
  s.ranges.any fun r => r.1 ≤ code && code ≤ r.2

def contains (s : CodeSet) (c : Char) : Bool := s.has c.toNat

def union (s t : CodeSet) : CodeSet :=
  ofSorted (s.ranges.merge t.ranges fun a b => a.1 ≤ b.1)

/-- The gaps between sorted ranges, from `start` up to the largest code point. -/
def gaps (start : Nat) : List (Nat × Nat) → List (Nat × Nat)
  | [] => if start ≤ maxCode then [(start, maxCode)] else []
  | r :: rest =>
    if start < r.1 then (start, r.1 - 1) :: gaps (r.2 + 1) rest else gaps (r.2 + 1) rest

def complement (s : CodeSet) : CodeSet := ⟨gaps 0 s.ranges⟩

def inter (s t : CodeSet) : CodeSet := (s.complement.union t.complement).complement

def diff (s t : CodeSet) : CodeSet := (s.complement.union t).complement

/-- The code points in exactly one of the two sets. -/
def symmDiff (s t : CodeSet) : CodeSet := (s.union t).diff (s.inter t)

/-- The union of several sets. -/
def unionAll (sets : List CodeSet) : CodeSet :=
  ofRanges (sets.flatMap ranges)

/-- True when every member is below 128. -/
def isAscii (s : CodeSet) : Bool := s.ranges.all fun r => r.2 < 128

end CodeSet

/-! ## Written tables -/

/-- Reads one range, `41-5a` or `61`. -/
def readSpan (s : String) : Nat × Nat :=
  match s.splitOn "-" with
  | first :: last :: _ => (hexNumber first, hexNumber last)
  | _ => (hexNumber s, hexNumber s)

/-- The words of the lines of a table. -/
def words (lines : List String) : List String :=
  lines.flatMap fun line => line.splitOn " "

/-- The set written by the ranges on `lines`, which stand in increasing order. -/
def CodeSet.read (lines : List String) : CodeSet :=
  .ofSorted ((words lines).map readSpan)

/-- Splits a table word such as `4fLu` into its number and its label. -/
def readRun (s : String) : Nat × String :=
  let cs := s.toList
  let isNumeral (c : Char) : Bool := ('0' ≤ c && c ≤ '9') || ('a' ≤ c && c ≤ 'f')
  (hexNumber (.ofList (cs.takeWhile isNumeral)), .ofList (cs.dropWhile isNumeral))

/-- A table of runs: each run holds from its first code point up to the next run. -/
abbrev RunTable := Array (Nat × String)

/-- Reads a table of runs in increasing order. -/
def RunTable.read (lines : List String) : RunTable :=
  ((words lines).map readRun).toArray

/-- Halves the part of the table in which the run of `code` starts; `lo` starts at or before it. -/
def RunTable.search (t : RunTable) (code : Nat) : Nat → Nat → Nat → Nat
  | 0, lo, _ => lo
  | fuel + 1, lo, hi =>
    if hi ≤ lo + 1 then lo
    else
      let mid := (lo + hi) / 2
      if ((t[mid]?.map (·.1)).getD 0) ≤ code then search t code fuel mid hi
      else search t code fuel lo mid

/-- The label of the run that holds `code`. -/
def RunTable.label (t : RunTable) (code : Nat) : String :=
  ((t[t.search code t.size 0 t.size]?).map (·.2)).getD ""

/-- The code points whose label satisfies `p`. -/
def RunTable.codes (t : RunTable) (p : String → Bool) : CodeSet :=
  let ends := (t.toList.drop 1).map (·.1 - 1) ++ [maxCode]
  .ofSorted ((t.toList.zip ends).filterMap fun (run, last) =>
    if p run.2 then some (run.1, last) else none)

end ResourceBrowser.Text
