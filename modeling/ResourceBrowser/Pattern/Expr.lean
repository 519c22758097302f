import ResourceBrowser.Pattern.Property
import ResourceBrowser.Text.Case

/-!
# Pattern expressions

What a pattern means once its flags are worked in: sets of characters, tests of the position
between two characters, sequences, alternatives and repetitions. `Tree.meaning?` gives the
expression of a tree. It fails on a property that does not exist, and where a pattern that
switched Unicode off could match part of a character.
-/

namespace ResourceBrowser.Pattern

open Text

/-- A test of the position between two characters. -/
inductive Look where
  | start
  | finish
  | lineStart
  | lineEnd
  /-- Line breaks may be a carriage return, a line feed or both. -/
  | lineStartCRLF
  | lineEndCRLF
  | edge (unicode : Bool)
  | notEdge (unicode : Bool)
  | wordStart (unicode : Bool)
  | wordEnd (unicode : Bool)
  | wordStartHalf (unicode : Bool)
  | wordEndHalf (unicode : Bool)
deriving DecidableEq, Repr

/-- An expression over single-character tests of type `α`. -/
inductive Expr (α : Type) where
  | empty
  | one (test : α)
  | look (kind : Look)
  | seq (first second : Expr α)
  | alt (left right : Expr α)
  | many (min : Nat) (max : Option Nat) (body : Expr α)
  /-- A group whose text is remembered. -/
  | capture (body : Expr α)
deriving Repr

/-- The same expression over other tests. -/
def Expr.map {α β : Type} (f : α → β) : Expr α → Expr β
  | .empty => .empty
  | .one t => .one (f t)
  | .look k => .look k
  | .seq a b => .seq (a.map f) (b.map f)
  | .alt a b => .alt (a.map f) (b.map f)
  | .many min max a => .many min max (a.map f)
  | .capture a => .capture (a.map f)

/-- The flags in force at a place of a pattern. -/
structure Flags where
  ignoreCase : Bool
  multiLine : Bool
  dotAll : Bool
  unicode : Bool
  crlf : Bool
deriving DecidableEq, Repr

namespace Flags

/-- Sets one flag. -/
def set (f : Flags) (flag : Flag) (on : Bool) : Flags :=
  match flag with
  | .ignoreCase => { f with ignoreCase := on }
  | .multiLine => { f with multiLine := on }
  | .dotAll => { f with dotAll := on }
  | .unicode => { f with unicode := on }
  | .crlf => { f with crlf := on }
  | .swapGreed | .verbose => f

def apply (f : Flags) (change : List (Flag × Bool)) : Flags :=
  change.foldl (fun f c => f.set c.1 c.2) f

end Flags

/-! ## Classes -/

/-- The letters A to Z of either case that belong to the set in some case. -/
def foldAscii (s : CodeSet) : CodeSet :=
  let letters := (List.range 26).flatMap fun i =>
    if s.has (0x41 + i) || s.has (0x61 + i) then [(0x41 + i, 0x41 + i), (0x61 + i, 0x61 + i)]
    else []
  s.union (.ofRanges letters)

/-- Closes the set under letter case if the flags ask for it, then negates it. Without Unicode
the members are bytes. -/
def foldAndNegate (f : Flags) (negated : Bool) (s : CodeSet) : CodeSet :=
  let folded := if f.ignoreCase then (if f.unicode then s.foldClosure else foldAscii s) else s
  if negated then
    if f.unicode then folded.complement else folded.complement.inter (.range 0 0xFF)
  else folded

/-- The code of a literal in a class. Without Unicode it must be a byte of a whole character. -/
def classCode? (f : Flags) (l : Literal) : Option Nat :=
  if f.unicode || l.char.toNat < 128 then some l.char.toNat else none

/-- The digits, blanks or word characters. -/
def shortSet (unicode : Bool) : ShortClass → CodeSet
  | .digit => if unicode then categorySet ["Nd"] else .range 0x30 0x39
  | .space => if unicode then whiteSpace else .read ["9-d 20"]
  | .word => if unicode then wordSet else .read ["30-39 41-5a 5f 61-7a"]

/-- The set of a short class; negation takes place before letter case plays a part. -/
def shortMeaning (f : Flags) (negated : Bool) (kind : ShortClass) : CodeSet :=
  let set := shortSet f.unicode kind
  if negated then
    if f.unicode then set.complement else set.complement.inter (.range 0 0xFF)
  else set

/-- The set of a named property, which only exists with Unicode on. -/
def propertyMeaning? (f : Flags) (negated : Bool) (query : PropertyQuery) : Option CodeSet :=
  if f.unicode then query.set?.map (foldAndNegate f negated) else none

/-- Without Unicode, a set must hold whole characters, which are those below 128. -/
def wholeCharacters? (f : Flags) (s : CodeSet) : Option CodeSet :=
  if f.unicode || s.isAscii then some s else none

/-- The set that the tree of a class denotes. -/
def ClassTree.set? (f : Flags) : ClassTree → Option CodeSet
  | .empty => some .empty
  | .literal l => (classCode? f l).map .singleton
  | .range first last => do
    let a ← classCode? f first
    let b ← classCode? f last
    some (.range a b)
  | .ascii negated set => wholeCharacters? f (foldAndNegate f negated set)
  | .property negated query => propertyMeaning? f negated query
  | .short negated kind => wholeCharacters? f (shortMeaning f negated kind)
  | .bracket negated body => do
    let s ← body.set? f
    wholeCharacters? f (foldAndNegate f negated s)
  | .union item rest => do
    let s ← item.set? f
    let t ← rest.set? f
    some (s.union t)
  | .combine op left right => do
    let s ← left.set? f
    let t ← right.set? f
    let s := foldAndNegate f false s
    let t := foldAndNegate f false t
    some <| match op with
      | .inter => s.inter t
      | .diff => s.diff t
      | .symmDiff => s.symmDiff t

/-! ## Patterns -/

/-- The test of a literal. Without Unicode a byte above 127 is no character. -/
def literalMeaning? (f : Flags) (l : Literal) : Option CodeSet :=
  let code := l.char.toNat
  if f.unicode then
    some (if f.ignoreCase then CodeSet.foldClosure (.singleton code) else .singleton code)
  else if l.twoDigits && 128 ≤ code then none
  else some (if f.ignoreCase then foldAscii (.singleton code) else .singleton code)

/-- The characters that a dot stands for. -/
def dotMeaning? (f : Flags) : Option CodeSet :=
  if !f.unicode then none
  else if f.dotAll then some .all
  else if f.crlf then some (CodeSet.read ["a d"]).complement
  else some (CodeSet.singleton 0xA).complement

/-- The test of an anchor. -/
def anchorMeaning (f : Flags) : Anchor → Look
  | .lineStart =>
    if f.multiLine then if f.crlf then .lineStartCRLF else .lineStart else .start
  | .lineEnd => if f.multiLine then if f.crlf then .lineEndCRLF else .lineEnd else .finish
  | .textStart => .start
  | .textEnd => .finish
  | .wordEdge => .edge f.unicode
  | .notWordEdge => .notEdge f.unicode
  | .wordStart => .wordStart f.unicode
  | .wordEnd => .wordEnd f.unicode
  | .wordStartHalf => .wordStartHalf f.unicode
  | .wordEndHalf => .wordEndHalf f.unicode

/-- The expression of a tree under flags, with the flags in force after it. A change of flags
lasts to the end of its group, later alternatives included. -/
def Tree.meaning? (f : Flags) : Tree → Option (Expr CodeSet × Flags)
  | .empty => some (.empty, f)
  | .flags change => some (.empty, f.apply change)
  | .literal l => (literalMeaning? f l).map fun s => (.one s, f)
  | .dot => (dotMeaning? f).map fun s => (.one s, f)
  | .anchor kind => some (.look (anchorMeaning f kind), f)
  | .short negated kind =>
    (wholeCharacters? f (shortMeaning f negated kind)).map fun s => (.one s, f)
  | .property negated query => (propertyMeaning? f negated query).map fun s => (.one s, f)
  | .bracket negated body =>
    (ClassTree.set? f (.bracket negated body)).map fun s => (.one s, f)
  | .repeated min max body => do
    let (e, f) ← body.meaning? f
    some (.many min max e, f)
  | .group capturing change body => do
    let (e, _) ← body.meaning? (f.apply change)
    some (if capturing then .capture e else e, f)
  | .seq first rest => do
    let (a, f) ← first.meaning? f
    let (b, f) ← rest.meaning? f
    some (.seq a b, f)
  | .alt first rest => do
    let (a, f) ← first.meaning? f
    let (b, f) ← rest.meaning? f
    some (.alt a b, f)

end ResourceBrowser.Pattern
