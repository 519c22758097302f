import ResourceBrowser.Text.Blank
import ResourceBrowser.Text.Grapheme
import ResourceBrowser.Text.Latin

/-!
# Scores of fuzzy matches

How well a value matches a query whose characters it holds in order. Every matched character
earns points, more at the beginning of a word and in unbroken stretches, and every gap costs
some. The score of a match is the best over all ways to place the query, found row by row: one
row per query character, one column per character of the value.

Values and queries are compared grapheme by grapheme, each represented by its first character.
-/

namespace ResourceBrowser.Fuzzy

open Text

/-! ## Characters -/

/-- The kinds of characters that word beginnings are told by. -/
inductive Kind where
  | blank
  | sign
  | delimiter
  | lower
  | upper
  | letter
  | number
deriving DecidableEq, Repr

/-- True for the kinds that words consist of. -/
def Kind.isWord : Kind → Bool
  | .blank | .sign | .delimiter => false
  | _ => true

/-- The kind of a character. -/
def kindOf (c : Char) : Kind :=
  if c.toNat < 128 then
    if c.isLower then .lower
    else if c.isUpper then .upper
    else if c.isDigit then .number
    else if c == ' ' || c == '\t' || c == '\n' || c == '\r' || c.toNat == 0xC then .blank
    else if c == '/' || c == ',' || c == ':' || c == ';' || c == '|' then .delimiter
    else .sign
  else if lowercaseSet.contains c then .lower
  else if foldsAway c then .upper
  else if numeric.contains c then .number
  else if alphabetic.contains c then .letter
  else if isBlank c then .blank
  else .sign

/-- How characters compare: letter case never counts, and marks on Latin letters do not count
when `plain` is set. -/
def compareForm (plain : Bool) (c : Char) : Char :=
  if c.toNat < 128 then c.toLower else fold (if plain then plainLetter c else c)

/-- The form of a character of the value while scores are worked out: without `plain`, only
capitals change. -/
def scoredForm (plain : Bool) (c : Char) : Char :=
  if plain || kindOf c = .upper then compareForm plain c else c

/-! ## Points -/

def matchPoints : Nat := 16
def gapStartPenalty : Nat := 3
def gapPenalty : Nat := 1
def boundaryBonus : Nat := 8
def camelBonus : Nat := 5
def streakBonus : Nat := 4

/-- The bonus for a match on a character of kind `here` that follows one of kind `before`. -/
def bonus (before here : Kind) : Nat :=
  if here.isWord && !before.isWord then
    match before with
    | .blank => boundaryBonus + 2
    | .delimiter => boundaryBonus + 1
    | _ => boundaryBonus
  else if (before = .lower && here = .upper) || (before ≠ .number && here = .number) then
    camelBonus
  else match here with
    | .blank => boundaryBonus + 2
    | .sign => boundaryBonus
    | _ => 0

/-- A character of the value: its compared form and the bonus for a match on it. -/
structure Place where
  char : Char
  bonus : Nat
deriving DecidableEq, Repr

/-- The characters of the value with their bonuses; `before` is the kind of the character in
front of them. -/
def places (plain : Bool) (before : Kind) : List Char → List Place
  | [] => []
  | c :: cs => ⟨scoredForm plain c, bonus before (kindOf c)⟩ :: places plain (kindOf c) cs

/-! ## Unbroken matches -/

/-- The score of the rest of a match whose characters follow each other; `first` is the bonus
that the stretch began with. -/
def streakScore (first : Nat) : List Place → Nat
  | [] => 0
  | p :: ps =>
    let first := if boundaryBonus ≤ p.bonus && first < p.bonus then p.bonus else first
    matchPoints + max (max p.bonus first) streakBonus + streakScore first ps

/-- The score of a match on all of the places, one after the other. -/
def unbrokenScore : List Place → Nat
  | [] => 0
  | p :: ps => matchPoints + 2 * p.bonus + streakScore p.bonus ps

/-! ## Matches with gaps -/

/-- The best match that ends on a column: its points, and the bonus that its last unbroken
stretch counts with. `none` stands where the query character does not occur. -/
abbrev Cell := Option (Nat × Nat)

/-- The points of the cell, or none. -/
def cellScore (cell : Cell) : Nat := (cell.map (·.1)).getD 0

/-- The cell of the next query character when it occurs right after a column. `skip` is the
best score of a match that ended before that column, `cell` the match that ends on it; without
either there is nothing to continue. -/
def nextCell (bonus : Nat) (skip : Option Nat) (cell : Cell) : Cell :=
  match skip, cell with
  | none, none => none
  | some skip, none => some (skip + bonus + matchPoints, bonus)
  | skip, some (score, streak) =>
    let streak := max streak streakBonus
    let streak := if boundaryBonus ≤ bonus && streak < bonus then bonus else streak
    let skipped := skip.getD 0 + bonus
    let continued := score + max streak bonus
    if skipped < continued then some (continued + matchPoints, streak)
    else some (skipped + matchPoints, bonus)

/-- The best score of a match that ended before the next column. -/
def nextSkip (skip : Option Nat) (cell : Cell) : Option Nat :=
  match skip, cell with
  | none, none => none
  | _, _ => some (max (cellScore cell - gapStartPenalty) (skip.getD 0 - gapPenalty))

/-- The row of the first query character. -/
def firstRow (query : Char) (value : List Place) : List Cell :=
  value.map fun p =>
    if p.char == query then some (2 * p.bonus + matchPoints, p.bonus) else none

/-- The row of the next query character from the row before it, column by column. `skip` and
`cell` describe the row before it up to the column on the left. -/
def nextRow (query : Char) (skip : Option Nat) (cell : Cell) : List Place → List Cell → List Cell
  | p :: ps, above :: row =>
    (if p.char == query then nextCell p.bonus skip cell else none) ::
      nextRow query (nextSkip skip cell) above ps row
  | _, _ => []

/-- The best score in a row, if any match ends on it. -/
def bestOf (row : List Cell) : Option Nat :=
  row.foldl (fun best cell =>
    match best, cell with
    | some b, some (s, _) => some (max b s)
    | none, some (s, _) => some s
    | best, none => best) none

/-- The best score of a match of the query that begins with `first`. -/
def gappedScore (first : Char) (rest : List Char) (value : List Place) : Option Nat :=
  bestOf (rest.foldl (fun row q => nextRow q none none value row) (firstRow first value))

/-! ## Scores -/

/-- A query word as it is compared: its characters, and whether marks on letters count. -/
structure Needle where
  chars : List Char
  plain : Bool
deriving DecidableEq, Repr

/-- A text grapheme by grapheme, each represented by its first character; a line break of two
characters is a line feed. -/
def graphemeChars (cs : List Char) : List Char :=
  (clusters cs).filterMap fun cluster =>
    match cluster with
    | '\r' :: '\n' :: _ => some '\n'
    | cluster => cluster.head?

/-- The query word of a text. Marks count as soon as the word has one. -/
def Needle.ofChars (cs : List Char) : Needle :=
  if cs.all (·.toNat < 128) then ⟨cs.map Char.toLower, true⟩
  else
    let chars := (graphemeChars cs).map fold
    ⟨chars, chars.all fun c => plainLetter c == c⟩

/-- True for a text of the first 128 characters whose line breaks are single characters. -/
def isSimple : List Char → Bool
  | [] => true
  | '\r' :: '\n' :: _ => false
  | c :: cs => c.toNat < 128 && isSimple cs

/-- The kind of the character in front of position `i`; a blank stands in front of the text. -/
def kindBefore (value : List Char) (i : Nat) : Kind :=
  if i = 0 then .blank else ((value[i - 1]?).map kindOf).getD .blank

/-- The part of the value between two positions, with its bonuses. -/
def placesBetween (plain : Bool) (value : List Char) (start stop : Nat) : List Place :=
  places plain (kindBefore value start) ((value.drop start).take (stop - start))

/-- The score of a match that has to fill the part of the value between two positions. -/
def filledScore (n : Needle) (value : List Char) (start stop : Nat) : Option Nat :=
  if ((value.drop start).take (stop - start)).map (compareForm n.plain) = n.chars then
    some (unbrokenScore (placesBetween n.plain value start stop))
  else none

/-- The position after the first occurrence of each character in order, from position `i` on. -/
def greedyEnd (query : List Char) (i : Nat) : List Char → Option Nat
  | [] => if query.isEmpty then some i else none
  | c :: cs =>
    match query with
    | [] => some i
    | q :: qs => if q == c then greedyEnd qs (i + 1) cs else greedyEnd query (i + 1) cs

/-- The position after the last occurrence of a character. -/
def lastEnd? (q : Char) (forms : List Char) : Option Nat :=
  (forms.reverse.findIdx? (· == q)).map (forms.length - ·)

/-- The best match of a single character. The kind before a character of a text beyond the first
128 characters is that of the match before it. -/
def singleScore (plain simple : Bool) (q : Char) (value : List Char) : Option Nat :=
  let forms := value.map (compareForm plain)
  match forms.findIdx? (· == q) with
  | none => none
  | some start =>
    let step (acc : Nat × Kind) (c : Char) : Nat × Kind :=
      if scoredForm plain c == q then
        (max acc.1 (2 * bonus acc.2 (kindOf c) + matchPoints), kindOf c)
      else if simple then (acc.1, kindOf c) else acc
    some ((value.drop start).foldl step (0, kindBefore value start)).1

/-- The score of one query word in a value; `simple` says that both are plain texts. -/
def wordScore (n : Needle) (simple : Bool) (value : List Char) : Option Nat :=
  match n.chars with
  | [] => some 0
  | first :: rest =>
    if value.length < n.chars.length then none
    else if value.length = n.chars.length then filledScore n value 0 value.length
    else if rest.isEmpty then singleScore n.plain simple first value
    else
      let forms := value.map (compareForm n.plain)
      let last := rest.getLast?.getD first
      match (forms.take (forms.length - rest.length)).findIdx? (· == first) with
      | none => none
      | some start =>
        let stop? :=
          if simple then
            (greedyEnd rest (start + 1) (forms.drop (start + 1))).map fun stop =>
              ((lastEnd? last (forms.drop stop)).map (stop + ·)).getD stop
          else (lastEnd? last (forms.drop (start + 1))).map (start + 1 + ·)
        match stop? with
        | none => none
        | some stop =>
          if stop - start < n.chars.length then none
          else if stop - start = n.chars.length then filledScore n value start stop
          else gappedScore first rest (placesBetween n.plain value start stop)

/-- The words of a query: the parts between blanks that no backslash precedes. -/
def queryWords (escaped : Bool) (word : List Char) : List Char → List (List Char)
  | [] => [word.reverse]
  | c :: cs =>
    if isBlank c && !escaped then word.reverse :: queryWords false [] cs
    else queryWords (c == '\\') (c :: word) cs

/-- Drops the backslash in front of each blank. -/
def unescape : List Char → List Char
  | '\\' :: c :: cs => if isBlank c then c :: unescape cs else '\\' :: unescape (c :: cs)
  | c :: cs => c :: unescape cs
  | [] => []

/-- The score of a query in a value: the sum over its words, each of which has to match. -/
def score? (query value : String) : Option Nat :=
  let needles := ((queryWords false [] query.toList).filter (!·.isEmpty)).map fun word =>
    Needle.ofChars (unescape word)
  let simple := isSimple value.toList
  let chars := if simple then value.toList else graphemeChars value.toList
  needles.foldl (fun total n =>
    match total with
    | none => none
    | some total =>
      if simple && !n.chars.all (·.toNat < 128) then none
      else (wordScore n simple chars).map (total + ·)) (some 0)

end ResourceBrowser.Fuzzy
