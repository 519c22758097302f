import ResourceBrowser.Cluster.Resource

/-!
# Label selectors

A selector is a comma-separated list of requirements on labels: `k=v` or `k==v`, `k!=v`, `k` and
`!k`. A resource has to meet all of them. Empty terms do not count, and a key is never empty and
holds no blank.
-/

namespace ResourceBrowser.Cluster

open Text

/-- A requirement on labels. -/
inductive Requirement where
  | equals (key value : String)
  | differs (key value : String)
  | present (key : String)
  | absent (key : String)
deriving DecidableEq, Repr

namespace Requirement

def key : Requirement → String
  | .equals key _ => key
  | .differs key _ => key
  | .present key => key
  | .absent key => key

/-- True when labels meet the requirement. -/
def holds (labels : Labels) : Requirement → Bool
  | .equals key value => labels.lookup key == some value
  | .differs key value => labels.lookup key != some value
  | .present key => (labels.lookup key).isSome
  | .absent key => (labels.lookup key).isNone

/-- The requirement that a term without blanks at its ends stands for. -/
def ofTerm (term : List Char) : Requirement :=
  let text (cs : List Char) : String := .ofList (trimChars cs)
  match splitFirst ['!', '='] term with
  | some (key, value) => .differs (text key) (text value)
  | none =>
    match (splitFirst ['=', '='] term).or (splitFirst ['='] term) with
    | some (key, value) => .equals (text key) (text value)
    | none =>
      match term with
      | '!' :: key => .absent (text key)
      | _ => .present (.ofList term)

/-- True for a key that labels can have. -/
def isKey (key : String) : Bool := !key.isEmpty && !key.toList.any isBlank

/-- Reads a requirement from a term without blanks at its ends. -/
def ofTerm? (term : List Char) : Option Requirement :=
  let r := ofTerm term
  if isKey r.key then some r else none

end Requirement

/-- A label selector: the requirements that labels have to meet. -/
structure Selector where
  requirements : List Requirement := []
deriving DecidableEq, Repr

namespace Selector

/-- The selector that every resource meets. -/
def empty : Selector := ⟨[]⟩

instance : Inhabited Selector := ⟨empty⟩

def isEmpty (s : Selector) : Bool := s.requirements.isEmpty

/-- True when labels meet every requirement. -/
def accepts (s : Selector) (labels : Labels) : Bool := s.requirements.all (·.holds labels)

/-- The terms of a selector's text. -/
def terms (text : String) : List (List Char) :=
  ((splitAll ',' text.toList).map trimChars).filter (!·.isEmpty)

/-- Reads a selector. -/
def read (text : String) : Except SourceError Selector :=
  match (terms text).mapM Requirement.ofTerm? with
  | some requirements => .ok ⟨requirements⟩
  | none => .error (.invalidSelector text)

end Selector

end ResourceBrowser.Cluster
