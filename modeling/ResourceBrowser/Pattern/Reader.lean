import ResourceBrowser.Pattern.Tree
import ResourceBrowser.Text.Blank
import ResourceBrowser.Text.Property

/-!
# Reading patterns

Reads the text of a filter expression into its tree. Every reader takes what is left of the text
and returns what it read with the rest; `none` means that the text is no pattern. In the verbose
mode of a pattern, blanks and `#` comments may stand between its parts.

The readers that call themselves take a bound on the number of calls. Each call consumes a
character, so the length of the text is bound enough.
-/

namespace ResourceBrowser.Pattern

open Text

/-! ## Blanks -/

/-- Drops blanks and comments; `inComment` is set between a `#` and the end of its line. -/
def dropVerbose (inComment : Bool) : List Char → List Char
  | [] => []
  | c :: cs =>
    if inComment then dropVerbose (c != '\n') cs
    else if isBlank c then dropVerbose false cs
    else if c == '#' then dropVerbose true cs
    else c :: cs

/-- Drops what does not count before the next part. -/
def skip (verbose : Bool) (cs : List Char) : List Char :=
  if verbose then dropVerbose false cs else cs

/-- The character after the next one, past blanks and the first `#` in verbose mode. -/
def peekPast (verbose : Bool) (cs : List Char) : Option Char :=
  let rest := cs.drop 1
  if !verbose then rest.head?
  else match rest.dropWhile isBlank with
    | '#' :: more => (more.dropWhile isBlank).head?
    | more => more.head?

/-! ## Characters -/

/-- Characters with a meaning of their own, which a backslash takes away. -/
def isMeta (c : Char) : Bool := "\\.+*?()|[]\x7b\x7d^$#&-~".toList.contains c

/-- Characters that a backslash may precede without changing them. -/
def isEscapable (c : Char) : Bool :=
  c.toNat < 128 && !c.isAlphanum && c != '<' && c != '>'

/-- The character with a code point, if there is one. -/
def charOf? (code : Nat) : Option Char :=
  if code < 0xD800 || (0xDFFF < code && code ≤ maxCode) then some (Char.ofNat code) else none

/-- Reads digits up to a closing brace. -/
def readBraced (verbose : Bool) (digits : List Char) :
    Nat → List Char → Option (List Char × List Char)
  | 0, _ => none
  | fuel + 1, cs =>
    match skip verbose cs with
    | [] => none
    | c :: rest =>
      if c == '\x7d' then some (digits.reverse, skip verbose rest)
      else if isHexDigit c then readBraced verbose (c :: digits) fuel rest
      else none

/-- Reads exactly `count` digits. -/
def readDigits (verbose : Bool) : Nat → List Char → Option (List Char × List Char)
  | 0, cs => some ([], cs)
  | count + 1, cs =>
    match skip verbose cs with
    | [] => none
    | c :: rest =>
      if isHexDigit c then
        (readDigits verbose count rest).map fun (digits, rest) => (c :: digits, rest)
      else none

/-- Reads a character by its number, after `\x`, `\u` or `\U`. -/
def readHex (verbose : Bool) (count : Nat) (cs : List Char) : Option (Literal × List Char) :=
  match skip verbose cs with
  | '\x7b' :: rest => do
    let (digits, rest) ← readBraced verbose [] (rest.length + 1) rest
    if digits.isEmpty then none
    else do
      let c ← charOf? (hexValue digits)
      some (⟨c, false⟩, rest)
  | rest => do
    let (digits, rest) ← readDigits verbose count rest
    let c ← charOf? (hexValue digits)
    some (⟨c, count == 2⟩, skip verbose rest)

/-- Reads the name of a property up to the closing brace. -/
def readName (verbose : Bool) (name : List Char) : Nat → List Char → Option (List Char × List Char)
  | 0, _ => none
  | fuel + 1, cs =>
    match skip verbose cs with
    | [] => none
    | c :: rest =>
      if c == '\x7d' then some (name.reverse, rest) else readName verbose (c :: name) fuel rest

/-- Splits a property name at `!=`, `:` or `=`; the first part says whether it was `!=`. -/
def splitQuery (name : List Char) : Bool × PropertyQuery :=
  match splitFirst ['!', '='] name with
  | some (n, v) => (true, .valued (.ofList n) (.ofList v))
  | none =>
    match splitFirst [':'] name with
    | some (n, v) => (false, .valued (.ofList n) (.ofList v))
    | none =>
      match splitFirst ['='] name with
      | some (n, v) => (false, .valued (.ofList n) (.ofList v))
      | none => (false, .named (.ofList name))

/-- Reads a property after `\p` or `\P`. -/
def readProperty (verbose : Bool) (capital : Bool) (cs : List Char) :
    Option ((Bool × PropertyQuery) × List Char) :=
  match skip verbose cs with
  | [] => none
  | '\x7b' :: rest => do
    let (name, rest) ← readName verbose [] (rest.length + 1) rest
    let (differs, query) := splitQuery name
    some ((capital != differs, query), rest)
  | c :: rest =>
    if c == '\\' then none
    else some ((capital, .named (.ofList [c])), skip verbose rest)

/-! ## Escapes -/

/-- Characters of the names in `\b{start}` and its kin. -/
def isEdgeNameChar (c : Char) : Bool := c.isAlpha || c == '-'

/-- Reads the name of a special word edge up to the closing brace. -/
def readEdgeName (verbose : Bool) (name : List Char) :
    Nat → List Char → Option (List Char × List Char)
  | 0, _ => none
  | fuel + 1, cs =>
    match skip verbose cs with
    | [] => none
    | c :: rest =>
      if c == '\x7d' then some (name.reverse, rest)
      else if isEdgeNameChar c then readEdgeName verbose (c :: name) fuel rest
      else none

/-- The word edge of a name. -/
def edgeNamed (name : List Char) : Option Anchor :=
  if name == "start".toList then some .wordStart
  else if name == "end".toList then some .wordEnd
  else if name == "start-half".toList then some .wordStartHalf
  else if name == "end-half".toList then some .wordEndHalf
  else none

/-- Reads what follows `\b`: a name in braces, or nothing when the braces hold a count. -/
def readEdge (verbose : Bool) (cs : List Char) : Option (Anchor × List Char) :=
  match cs with
  | '\x7b' :: rest =>
    match skip verbose rest with
    | [] => none
    | c :: _ =>
      if isEdgeNameChar c then do
        let (name, rest) ← readEdgeName verbose [] (rest.length + 1) rest
        let kind ← edgeNamed name
        some (kind, rest)
      else some (.wordEdge, cs)
  | _ => some (.wordEdge, cs)

/-- Reads an escape after its backslash. -/
def readEscape (verbose : Bool) : List Char → Option (Tree × List Char)
  | [] => none
  | c :: rest =>
    let literal (code : Nat) : Option (Tree × List Char) :=
      some (.literal ⟨Char.ofNat code, false⟩, rest)
    if c.isDigit then none
    else if c == 'x' then (readHex verbose 2 rest).map fun (l, rest) => (.literal l, rest)
    else if c == 'u' then (readHex verbose 4 rest).map fun (l, rest) => (.literal l, rest)
    else if c == 'U' then (readHex verbose 8 rest).map fun (l, rest) => (.literal l, rest)
    else if c == 'p' || c == 'P' then
      (readProperty verbose (c == 'P') rest).map fun (q, rest) => (.property q.1 q.2, rest)
    else if c == 'd' || c == 'D' then some (.short (c == 'D') .digit, rest)
    else if c == 's' || c == 'S' then some (.short (c == 'S') .space, rest)
    else if c == 'w' || c == 'W' then some (.short (c == 'W') .word, rest)
    else if isMeta c || isEscapable c then some (.literal ⟨c, false⟩, rest)
    else match c with
      | 'a' => literal 0x7
      | 'f' => literal 0xC
      | 't' => literal 0x9
      | 'n' => literal 0xA
      | 'r' => literal 0xD
      | 'v' => literal 0xB
      | 'A' => some (.anchor .textStart, rest)
      | 'z' => some (.anchor .textEnd, rest)
      | 'b' => (readEdge verbose rest).map fun (kind, rest) => (.anchor kind, rest)
      | 'B' => some (.anchor .notWordEdge, rest)
      | '<' => some (.anchor .wordStart, rest)
      | '>' => some (.anchor .wordEnd, rest)
      | _ => none

/-! ## Classes in brackets -/

/-- The classes with a name between colons. -/
def asciiClass (name : String) : Option CodeSet :=
  match name with
  | "alnum" => some (.read ["30-39 41-5a 61-7a"])
  | "alpha" => some (.read ["41-5a 61-7a"])
  | "ascii" => some (.read ["0-7f"])
  | "blank" => some (.read ["9 20"])
  | "cntrl" => some (.read ["0-1f 7f"])
  | "digit" => some (.read ["30-39"])
  | "graph" => some (.read ["21-7e"])
  | "lower" => some (.read ["61-7a"])
  | "print" => some (.read ["20-7e"])
  | "punct" => some (.read ["21-2f 3a-40 5b-60 7b-7e"])
  | "space" => some (.read ["9-d 20"])
  | "upper" => some (.read ["41-5a"])
  | "word" => some (.read ["30-39 41-5a 5f 61-7a"])
  | "xdigit" => some (.read ["30-39 41-46 61-66"])
  | _ => none

/-- Reads a class such as `[:^alpha:]`, after its opening bracket. -/
def readAsciiClass (cs : List Char) : Option (ClassTree × List Char) :=
  match cs with
  | ':' :: rest =>
    let (negated, rest) := match rest with
      | '^' :: more => (true, more)
      | _ => (false, rest)
    match splitFirst [':'] rest with
    | some (name, ']' :: after) =>
      (asciiClass (.ofList name)).map fun set => (.ascii negated set, after)
    | _ => none
  | _ => none

/-- Reads one character or class inside brackets. -/
def readClassItem (verbose : Bool) : List Char → Option (Tree × List Char)
  | [] => none
  | '\\' :: rest => readEscape verbose rest
  | c :: rest => some (.literal ⟨c, false⟩, rest)

/-- What an item means inside brackets; anchors have no meaning there. -/
def classItem? : Tree → Option ClassTree
  | .literal l => some (.literal l)
  | .short negated kind => some (.short negated kind)
  | .property negated query => some (.property negated query)
  | _ => none

/-- Reads an item or a range of characters. -/
def readClassRange (verbose : Bool) (cs : List Char) : Option (ClassTree × List Char) := do
  let (first, rest) ← readClassItem verbose cs
  let rest := skip verbose rest
  match rest with
  | [] => none
  | c :: more =>
    let next := peekPast verbose rest
    if c != '-' || next == some ']' || next == some '-' then do
      let item ← classItem? first
      some (item, rest)
    else do
      let (last, rest) ← readClassItem verbose (skip verbose more)
      match first, last with
      | .literal a, .literal b => if a.char ≤ b.char then some (.range a b, rest) else none
      | _, _ => none

/-- Reads the hyphens at the start of a class, which stand for themselves. -/
def readHyphens (verbose : Bool) : Nat → List Char → List ClassTree × List Char
  | 0, cs => ([], cs)
  | fuel + 1, cs =>
    match skip verbose cs with
    | '-' :: rest =>
      let (items, rest) := readHyphens verbose fuel rest
      (.literal ⟨'-', false⟩ :: items, rest)
    | rest => ([], rest)

/-- Reads what opens a class after its bracket: a negation, hyphens, and a bracket that closes
nothing. -/
def readClassOpening (verbose : Bool) (cs : List Char) : Bool × List ClassTree × List Char :=
  let cs := skip verbose cs
  let (negated, cs) := match cs with
    | '^' :: rest => (true, skip verbose rest)
    | _ => (false, cs)
  let (hyphens, cs) := readHyphens verbose cs.length cs
  match hyphens, cs with
  | [], ']' :: rest => (negated, [.literal ⟨']', false⟩], rest)
  | _, _ => (negated, hyphens, cs)

/-- Joins the items read since the last operator to the part before it. -/
def combineItems (before : Option (SetOp × ClassTree)) (items : List ClassTree) : ClassTree :=
  match before with
  | some (op, left) => .combine op left (.ofItems items.reverse)
  | none => .ofItems items.reverse

/-- Reads the body of a class up to its closing bracket. `items` are the items read since the
last operator, the latest first. -/
def readClassBody (verbose : Bool) :
    Nat → Option (SetOp × ClassTree) → List ClassTree → List Char → Option (ClassTree × List Char)
  | 0, _, _, _ => none
  | fuel + 1, before, items, cs =>
    match skip verbose cs with
    | [] => none
    | '[' :: rest =>
      match readAsciiClass rest with
      | some (item, rest) => readClassBody verbose fuel before (item :: items) rest
      | none =>
        let (negated, opening, rest) := readClassOpening verbose rest
        match readClassBody verbose fuel none opening.reverse rest with
        | some (body, rest) =>
          readClassBody verbose fuel before (.bracket negated body :: items) rest
        | none => none
    | ']' :: rest => some (combineItems before items, rest)
    | '&' :: '&' :: rest =>
      readClassBody verbose fuel (some (.inter, combineItems before items)) [] rest
    | '-' :: '-' :: rest =>
      readClassBody verbose fuel (some (.diff, combineItems before items)) [] rest
    | '~' :: '~' :: rest =>
      readClassBody verbose fuel (some (.symmDiff, combineItems before items)) [] rest
    | rest =>
      match readClassRange verbose rest with
      | some (item, rest) => readClassBody verbose fuel before (item :: items) rest
      | none => none

/-- Reads a class after its opening bracket. -/
def readClass (verbose : Bool) (cs : List Char) : Option (Tree × List Char) :=
  let (negated, opening, rest) := readClassOpening verbose cs
  (readClassBody verbose (cs.length + 1) none opening.reverse rest).map fun (body, rest) =>
    (.bracket negated body, rest)

/-! ## Counts -/

/-- Reads the digits of a decimal number. -/
def readDecimalDigits (verbose : Bool) (digits : List Char) :
    Nat → List Char → List Char × List Char
  | 0, cs => (digits.reverse, cs)
  | fuel + 1, cs =>
    match cs with
    | c :: rest =>
      if c.isDigit then readDecimalDigits verbose (c :: digits) fuel (skip verbose rest)
      else (digits.reverse, cs)
    | [] => (digits.reverse, [])

/-- Reads a decimal number below 2^32, with blanks around it. -/
def readDecimal (verbose : Bool) (cs : List Char) : Option Nat × List Char :=
  let cs := cs.dropWhile isBlank
  let (digits, rest) := readDecimalDigits verbose [] (cs.length + 1) cs
  let n := digits.foldl (fun n c => n * 10 + (c.toNat - '0'.toNat)) 0
  let rest := match rest with
    | c :: _ => if isBlank c then (skip verbose rest).dropWhile isBlank else rest
    | [] => []
  (if digits.isEmpty || UInt32.size ≤ n then none else some n, rest)

/-- Drops the mark of a reluctant repetition; whether a match exists does not depend on it. -/
def dropReluctant : List Char → List Char
  | '?' :: rest => rest
  | rest => rest

/-- Reads a count after its opening brace: the least and the greatest number of repetitions. -/
def readCount (verbose : Bool) (cs : List Char) : Option ((Nat × Option Nat) × List Char) :=
  match skip verbose cs with
  | [] => none
  | cs =>
    let (first, rest) := readDecimal verbose cs
    let finish (min : Nat) (max : Option Nat) (rest : List Char) :
        Option ((Nat × Option Nat) × List Char) :=
      match rest with
      | '\x7d' :: rest =>
        if (max.map fun m => decide (min ≤ m)).getD true then
          some ((min, max), dropReluctant (skip verbose rest))
        else none
      | _ => none
    match first, rest with
    | some n, ',' :: rest =>
      match skip verbose rest with
      | '\x7d' :: _ => finish n none (skip verbose rest)
      | rest =>
        match readDecimal verbose rest with
        | (some m, rest) => finish n (some m) rest
        | (none, _) => none
    | some n, rest => finish n (some n) rest
    | none, _ => none

/-! ## Groups -/

/-- The flag of a letter. -/
def flagOf? (c : Char) : Option Flag :=
  match c with
  | 'i' => some .ignoreCase
  | 'm' => some .multiLine
  | 's' => some .dotAll
  | 'U' => some .swapGreed
  | 'u' => some .unicode
  | 'R' => some .crlf
  | 'x' => some .verbose
  | _ => none

/-- Reads flags up to `:` or `)`, which stays. A flag may stand once, `-` may stand once and
not last. -/
def readFlags (off : Bool) (dangling : Bool) (change : List (Flag × Bool)) :
    List Char → Option (List (Flag × Bool) × List Char)
  | [] => none
  | c :: rest =>
    if c == ':' || c == ')' then if dangling then none else some (change.reverse, c :: rest)
    else if c == '-' then if off then none else readFlags true true change rest
    else match flagOf? c with
      | some flag =>
        if change.any (·.1 = flag) then none else readFlags off false ((flag, !off) :: change) rest
      | none => none

/-- A character of a group name; digits, dots and brackets may not stand first. -/
def isNameChar (first : Bool) (c : Char) : Bool :=
  c == '_' ||
  (if c.toNat < 128 then c.isAlpha else alphabetic.contains c) ||
  (!first && (c == '.' || c == '[' || c == ']' ||
    (if c.toNat < 128 then c.isDigit else numeric.contains c)))

/-- What an opening parenthesis begins. -/
inductive Opening where
  | flags (change : List (Flag × Bool))
  | group (capturing : Bool) (change : List (Flag × Bool)) (name : Option (List Char))

/-- Reads the name of a group up to `>`. -/
def readGroupName (cs : List Char) : Option (Opening × List Char) :=
  match splitFirst ['>'] cs with
  | some (c :: name, rest) =>
    if isNameChar true c && name.all (isNameChar false) then
      some (.group true [] (some (c :: name)), rest)
    else none
  | _ => none

/-- Reads what follows an opening parenthesis. Groups that look around are refused. -/
def readOpening (verbose : Bool) (cs : List Char) : Option (Opening × List Char) :=
  match skip verbose cs with
  | '?' :: '=' :: _ | '?' :: '!' :: _ | '?' :: '<' :: '=' :: _ | '?' :: '<' :: '!' :: _ => none
  | '?' :: 'P' :: '<' :: rest => readGroupName rest
  | '?' :: '<' :: rest => readGroupName rest
  | '?' :: rest => do
    let (change, rest) ← readFlags false false [] rest
    match rest with
    | ')' :: rest => if change.isEmpty then none else some (.flags change, rest)
    | ':' :: rest => some (.group false change none, rest)
    | _ => none
  | rest => some (.group true [] none, rest)

/-- Whether a change of flags sets the verbose mode. -/
def verboseAfter (verbose : Bool) (change : List (Flag × Bool)) : Bool :=
  (change.lookup .verbose).getD verbose

/-! ## Patterns -/

/-- Takes the part that a repetition repeats, which is the latest one. -/
def popRepeated : List Tree → Option (Tree × List Tree)
  | .empty :: _ | .flags _ :: _ | [] => none
  | body :: items => some (body, items)

/-- The tree of the alternatives read so far, the latest first. -/
def closeBody (branches : List Tree) (items : List Tree) : Tree :=
  .ofAlt (.ofSeq items.reverse :: branches).reverse

/-- Reads the body of a group up to its closing parenthesis, which stays, or to the end.
`branches` are the finished alternatives and `items` the parts of the current one, the latest
first; `names` are the group names in use. -/
def readBody : Nat → Bool → List (List Char) → List Tree → List Tree → List Char →
    Option ((Tree × List (List Char)) × List Char)
  | 0, _, _, _, _, _ => none
  | fuel + 1, verbose, names, branches, items, cs =>
    match skip verbose cs with
    | [] => some ((closeBody branches items, names), [])
    | c :: rest =>
      let again (item : Tree) (rest : List Char) :=
        readBody fuel verbose names branches (item :: items) rest
      match c with
      | ')' => some ((closeBody branches items, names), c :: rest)
      | '|' => readBody fuel verbose names (.ofSeq items.reverse :: branches) [] rest
      | '(' =>
        match readOpening verbose rest with
        | some (.flags change, rest) =>
          readBody fuel (verboseAfter verbose change) names branches (.flags change :: items) rest
        | some (.group capturing change name, rest) =>
          if (name.map names.contains).getD false then none
          else
            match readBody fuel (verboseAfter verbose change) (name.toList ++ names) [] [] rest with
            | some ((body, names), ')' :: rest) =>
              readBody fuel verbose names branches (.group capturing change body :: items) rest
            | _ => none
        | none => none
      | '[' =>
        match readClass verbose rest with
        | some (item, rest) => again item rest
        | none => none
      | '?' => do
        let (body, items) ← popRepeated items
        readBody fuel verbose names branches (.repeated 0 (some 1) body :: items)
          (dropReluctant rest)
      | '*' => do
        let (body, items) ← popRepeated items
        readBody fuel verbose names branches (.repeated 0 none body :: items) (dropReluctant rest)
      | '+' => do
        let (body, items) ← popRepeated items
        readBody fuel verbose names branches (.repeated 1 none body :: items) (dropReluctant rest)
      | '\x7b' => do
        let (body, items) ← popRepeated items
        let ((min, max), rest) ← readCount verbose rest
        readBody fuel verbose names branches (.repeated min max body :: items) rest
      | '\\' =>
        match readEscape verbose rest with
        | some (item, rest) => again item rest
        | none => none
      | '.' => again .dot rest
      | '^' => again (.anchor .lineStart) rest
      | '$' => again (.anchor .lineEnd) rest
      | c => again (.literal ⟨c, false⟩) rest

/-- The tree of a pattern; `none` when the text is not one. -/
def Tree.read? (text : List Char) : Option Tree :=
  match readBody (text.length + 1) false [] [] [] text with
  | some ((tree, _), []) => some tree
  | _ => none

end ResourceBrowser.Pattern
