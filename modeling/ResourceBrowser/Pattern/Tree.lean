import ResourceBrowser.Text.CodeSet

/-!
# Written patterns

The tree of a filter expression as it is written, before letter case and the other flags are
worked in. Sequences, alternatives and the items of a bracket are chains of pairs.
-/

namespace ResourceBrowser.Pattern

open Text

/-- A character of a pattern. One written with two hexadecimal digits may stand for a byte. -/
structure Literal where
  char : Char
  twoDigits : Bool
deriving DecidableEq, Repr

/-- The flags that a pattern can switch on and off. -/
inductive Flag where
  | ignoreCase
  | multiLine
  | dotAll
  | swapGreed
  | unicode
  | crlf
  | verbose
deriving DecidableEq, Repr

/-- The classes with a one-letter name. -/
inductive ShortClass where
  | digit
  | space
  | word
deriving DecidableEq, Repr

/-- How a pattern names a property: by one name, or by a name and a value. -/
inductive PropertyQuery where
  | named (name : String)
  | valued (name value : String)
deriving DecidableEq, Repr

/-- The operators between the parts of a bracket. -/
inductive SetOp where
  | inter
  | diff
  | symmDiff
deriving DecidableEq, Repr

/-- Positions that a pattern can ask for. -/
inductive Anchor where
  | lineStart
  | lineEnd
  | textStart
  | textEnd
  | wordEdge
  | notWordEdge
  | wordStart
  | wordEnd
  | wordStartHalf
  | wordEndHalf
deriving DecidableEq, Repr

/-- What stands between the brackets of a class. -/
inductive ClassTree where
  | empty
  | literal (l : Literal)
  | range (first last : Literal)
  /-- A class such as `[:alpha:]`. -/
  | ascii (negated : Bool) (set : CodeSet)
  | property (negated : Bool) (query : PropertyQuery)
  | short (negated : Bool) (kind : ShortClass)
  | bracket (negated : Bool) (body : ClassTree)
  /-- An item followed by further ones. -/
  | union (item rest : ClassTree)
  | combine (op : SetOp) (left right : ClassTree)
deriving DecidableEq, Repr

/-- A pattern as written. -/
inductive Tree where
  | empty
  /-- A change of flags for what follows in the group. -/
  | flags (change : List (Flag × Bool))
  | literal (l : Literal)
  | dot
  | anchor (kind : Anchor)
  | short (negated : Bool) (kind : ShortClass)
  | property (negated : Bool) (query : PropertyQuery)
  | bracket (negated : Bool) (body : ClassTree)
  | repeated (min : Nat) (max : Option Nat) (body : Tree)
  | group (capturing : Bool) (change : List (Flag × Bool)) (body : Tree)
  /-- A part followed by further ones. -/
  | seq (first rest : Tree)
  /-- An alternative followed by further ones. -/
  | alt (first rest : Tree)
deriving DecidableEq, Repr

/-! ## Nesting -/

/-- How deep the parts of a class are nested. -/
def ClassTree.height : ClassTree → Nat
  | .bracket _ body => body.height + 1
  | .union item rest =>
    max (item.height + 1) (match rest with | .union .. => rest.height | _ => rest.height + 1)
  | .combine _ left right => max left.height right.height + 1
  | _ => 0

/-- How deep the parts of a pattern are nested: every group, repetition, sequence, list of
alternatives and bracket counts one. -/
def Tree.height : Tree → Nat
  | .bracket _ body => body.height + 1
  | .repeated _ _ body => body.height + 1
  | .group _ _ body => body.height + 1
  | .seq first rest =>
    max (first.height + 1) (match rest with | .seq .. => rest.height | _ => rest.height + 1)
  | .alt first rest =>
    max (first.height + 1) (match rest with | .alt .. => rest.height | _ => rest.height + 1)
  | _ => 0

/-- The chain of the parts of a sequence. -/
def Tree.ofSeq : List Tree → Tree
  | [] => .empty
  | [t] => t
  | t :: ts => .seq t (ofSeq ts)

/-- The chain of alternatives. -/
def Tree.ofAlt : List Tree → Tree
  | [] => .empty
  | [t] => t
  | t :: ts => .alt t (ofAlt ts)

/-- The chain of the items of a class. -/
def ClassTree.ofItems : List ClassTree → ClassTree
  | [] => .empty
  | [t] => t
  | t :: ts => .union t (ofItems ts)

end ResourceBrowser.Pattern
