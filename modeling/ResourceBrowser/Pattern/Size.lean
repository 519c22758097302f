import ResourceBrowser.Pattern.Expr

/-!
# The size of a pattern

A pattern is refused when its automaton would take too much memory. The automaton works on the
bytes of the UTF-8 encoding, forwards and backwards, and a repetition copies its body, so sizes
multiply. Sizes are in bytes: a state takes 32, an edge of a set 8, a branch 4.
-/

namespace ResourceBrowser.Pattern

open Text

/-- The most memory that an automaton may take. -/
def sizeLimit : Nat := 10 * 1024 * 1024

/-! ## Encodings -/

/-- The bytes of the UTF-8 encoding of a code point. -/
def utf8 (code : Nat) : List Nat :=
  if code < 0x80 then [code]
  else if code < 0x800 then [0xC0 + code / 64, 0x80 + code % 64]
  else if code < 0x10000 then [0xE0 + code / 4096, 0x80 + code / 64 % 64, 0x80 + code % 64]
  else [0xF0 + code / 262144, 0x80 + code / 4096 % 64, 0x80 + code / 64 % 64, 0x80 + code % 64]

/-- Where to cut a range whose ends differ above the low `bits` bits, so that each part varies
in whole blocks. -/
def blockCut? (first last bits : Nat) : Option Nat :=
  let block := 1 <<< bits
  if first / block = last / block then none
  else if first % block ≠ 0 then some ((first / block + 1) * block)
  else if last % block ≠ block - 1 then some (last / block * block)
  else none

/-- The first cut that a range of code points needs before it is a product of byte ranges. -/
def rangeCut? (first last : Nat) : Option Nat :=
  let within (n : Nat) : Option Nat := if first < n && n ≤ last then some n else none
  ((((within 0x80).or (within 0x800)).or (within 0x10000)).or <|
    if last < 0x80 then none
    else ((blockCut? first last 6).or (blockCut? first last 12)).or (blockCut? first last 18))

/-- The byte ranges whose products make up a range of code points. -/
def byteRanges : Nat → Nat → Nat → List (List (Nat × Nat))
  | 0, _, _ => []
  | fuel + 1, first, last =>
    match rangeCut? first last with
    | some cut => byteRanges fuel first (cut - 1) ++ byteRanges fuel cut last
    | none => [(utf8 first).zip (utf8 last)]

/-- The encodings of a set, surrogates left out. -/
def encodings (s : CodeSet) : List (List (Nat × Nat)) :=
  (s.diff (.range 0xD800 0xDFFF)).ranges.flatMap fun r => byteRanges 64 r.1 r.2

/-! ## Sets -/

/-- The parts of sequences after their first byte range, grouped by it. -/
def tailsByHead : List (List (Nat × Nat)) → List ((Nat × Nat) × List (List (Nat × Nat)))
  | [] => []
  | [] :: rest => tailsByHead rest
  | (head :: tail) :: rest =>
    match tailsByHead rest with
    | (next, tails) :: groups =>
      if next = head then (head, tail :: tails) :: groups
      else (head, [tail]) :: (next, tails) :: groups
    | [] => [(head, [tail])]

/-- The states of the automaton of the sequences, each given by the sequences it accepts. -/
def suffixStates : Nat → List (List (Nat × Nat)) → List (List (List (Nat × Nat)))
  | 0, _ => []
  | depth + 1, seqs =>
    if seqs.all (·.isEmpty) then []
    else seqs :: (tailsByHead seqs).flatMap fun group => suffixStates depth group.2

/-- The size of a set read forwards: states with the same continuations are shared. -/
def forwardSize (s : CodeSet) : Nat :=
  let states := (suffixStates 5 (encodings s)).eraseDups
  32 * (1 + states.length) + 8 * states.foldr (fun seqs n => (tailsByHead seqs).length + n) 0

/-- The size of a set read backwards: beginnings are shared. -/
def backwardSize (s : CodeSet) : Nat :=
  let seqs := encodings s
  let heads := (seqs.flatMap fun seq =>
    (List.range seq.length).map fun i => seq.take (i + 1)).eraseDups
  32 * (2 + heads.length) + 4 * seqs.length

/-- The size of the automaton of a set. -/
def setSize (backward : Bool) (s : CodeSet) : Nat :=
  match s.ranges with
  | [] => 32
  | [(a, b)] => if a = b then 32 * (utf8 a).length else
      if s.isAscii then 72 else if backward then backwardSize s else forwardSize s
  | ranges =>
    if s.isAscii then 64 + 8 * ranges.length
    else if backward then backwardSize s else forwardSize s

/-! ## Expressions -/

/-- True when every match of the expression is empty. -/
def Expr.isZeroWidth {α : Type} : Expr α → Bool
  | .empty | .look _ => true
  | .one _ => false
  | .seq a b | .alt a b => a.isZeroWidth && b.isZeroWidth
  | .many _ max a => a.isZeroWidth || max == some 0
  | .capture a => a.isZeroWidth

/-- True when some match of the expression is empty. -/
def Expr.canBeEmpty {α : Type} : Expr α → Bool
  | .empty | .look _ => true
  | .one _ => false
  | .seq a b => a.canBeEmpty && b.canBeEmpty
  | .alt a b => a.canBeEmpty || b.canBeEmpty
  | .many min _ a => min == 0 || a.canBeEmpty
  | .capture a => a.canBeEmpty

/-- The size of a repetition of a body of size `size`. -/
def manySize (size : Nat) (bodyCanBeEmpty : Bool) (min : Nat) (max : Option Nat) : Nat :=
  match min, max with
  | 0, some 0 => 32
  | 1, some 1 => size
  | 0, some 1 => size + 72
  | 0, none => if bodyCanBeEmpty then size + 112 else size + 40
  | n, none => n * size + 40
  | n, some m =>
    if n = m then n * size
    else (if n = 0 then 32 else n * size) + 32 + (m - n) * (size + 40)

/-- The size of the automaton of an expression. Only the forward one remembers groups. -/
def Expr.size (backward : Bool) : Expr CodeSet → Nat
  | .empty | .look _ => 32
  | .one s => setSize backward s
  | .seq a b => a.size backward + b.size backward
  | .alt a b =>
    a.size backward + b.size backward + (match b with | .alt .. => 4 | _ => 72)
  | .many min max a =>
    let most := if a.isZeroWidth then some 1 else none
    let min := if a.isZeroWidth then Nat.min min 1 else min
    let max := if a.isZeroWidth then (max.map (Nat.min · 1)).or most else max
    manySize (a.size backward) a.canBeEmpty min max
  | .capture a => a.size backward + (if backward then 0 else 64)

/-- True when both automata of an expression, with what frames them, stay within the limit. -/
def Expr.fits (e : Expr CodeSet) : Bool :=
  e.size false + 256 ≤ sizeLimit && e.size true + 256 ≤ sizeLimit

end ResourceBrowser.Pattern
