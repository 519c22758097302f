import ResourceBrowser.Text.Property

/-!
# Grapheme clusters

Cuts a text into the pieces that a reader takes for one character: a base with its marks, a
syllable of Hangul, a joined emoji, a pair of regional indicators, a line break of two characters.
-/

namespace ResourceBrowser.Text

/-- What a character does at the edge of a cluster. -/
inductive Break where
  | cr
  | lf
  | control
  | extend
  | joiner
  | regional
  | prepend
  | spacing
  | hangulL
  | hangulV
  | hangulT
  | hangulLV
  | hangulLVT
  | pictograph
  | other
deriving DecidableEq, Repr

/-- Marks that take no room of their own, and modifiers of emoji. -/
def clusterExtend : CodeSet := graphemeExtend.union emojiModifier

/-- Marks that take room of their own but stay with the character before them. -/
def clusterSpacing : CodeSet :=
  ((categorySet ["Mc"]).diff (.read [
    "102b-102c 1038 1062-1064 1067-106d 1083 1087-108c 108f 109a-109c 1a61 1a63-1a64 aa7b aa7d",
    "11720-11721"])).union (.read ["e33 eb3"])

/-- Characters that stay with the one after them. -/
def clusterPrepend : CodeSet :=
  prependedMark.union (.read ["d4e 111c2-111c3 1193f 11941 11a3a 11a84-11a89 11d46 11f02"])

/-- Characters that never join a cluster. -/
def clusterControl : CodeSet :=
  (categorySet ["Zl", "Zp", "Cc", "Cf"]).union ((categorySet ["Cn"]).inter defaultIgnorable)

/-- The behaviour of a character at the edge of a cluster. -/
def breakOf (c : Char) : Break :=
  let n := c.toNat
  if n == 0xD then .cr
  else if n == 0xA then .lf
  else if n < 0x20 then .control
  else if n < 0x7F then .other
  else if n == 0x200D then .joiner
  else if clusterExtend.has n then .extend
  else if clusterPrepend.has n then .prepend
  else if clusterControl.has n then .control
  else if regionalIndicator.has n then .regional
  else if clusterSpacing.has n then .spacing
  else if (0x1100 ≤ n && n ≤ 0x115F) || (0xA960 ≤ n && n ≤ 0xA97C) then .hangulL
  else if (0x1160 ≤ n && n ≤ 0x11A7) || (0xD7B0 ≤ n && n ≤ 0xD7C6) then .hangulV
  else if (0x11A8 ≤ n && n ≤ 0x11FF) || (0xD7CB ≤ n && n ≤ 0xD7FB) then .hangulT
  else if 0xAC00 ≤ n && n ≤ 0xD7A3 then
    if (n - 0xAC00) % 28 == 0 then .hangulLV else .hangulLVT
  else if extendedPictographic.has n then .pictograph
  else .other

/-- What the characters of the current cluster leave behind for the next decision. -/
structure ClusterState where
  last : Break
  /-- The cluster is a pictograph followed by marks only, with a joiner last if `last` is one. -/
  picture : Bool
  /-- The number of regional indicators at the end is odd. -/
  oddRegional : Bool

/-- The state after the first character of a cluster. -/
def ClusterState.start (b : Break) : ClusterState := ⟨b, b == .pictograph, b == .regional⟩

/-- The state after one more character in the cluster. -/
def ClusterState.step (s : ClusterState) (b : Break) : ClusterState :=
  ⟨b, b == .pictograph || (s.picture && (b == .extend || b == .joiner)),
    b == .regional && !s.oddRegional⟩

/-- True when the next character belongs to the cluster. -/
def ClusterState.joins (s : ClusterState) (b : Break) : Bool :=
  match s.last, b with
  | .cr, .lf => true
  | .cr, _ | .lf, _ | .control, _ => false
  | _, .cr | _, .lf | _, .control => false
  | .hangulL, .hangulL | .hangulL, .hangulV | .hangulL, .hangulLV | .hangulL, .hangulLVT => true
  | .hangulLV, .hangulV | .hangulLV, .hangulT | .hangulV, .hangulV | .hangulV, .hangulT => true
  | .hangulLVT, .hangulT | .hangulT, .hangulT => true
  | _, .extend | _, .joiner | _, .spacing => true
  | .prepend, _ => true
  | .joiner, .pictograph => s.picture
  | .regional, .regional => s.oddRegional
  | _, _ => false

/-- The clusters of a text; `current` is the one being read, backwards. -/
def clustersFrom (s : ClusterState) (current : List Char) : List Char → List (List Char)
  | [] => [current.reverse]
  | c :: cs =>
    let b := breakOf c
    if s.joins b then clustersFrom (s.step b) (c :: current) cs
    else current.reverse :: clustersFrom (.start b) [c] cs

/-- The grapheme clusters of a text. -/
def clusters : List Char → List (List Char)
  | [] => []
  | c :: cs => clustersFrom (.start (breakOf c)) [c] cs

end ResourceBrowser.Text
