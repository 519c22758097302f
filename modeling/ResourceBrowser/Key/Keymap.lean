import ResourceBrowser.Key.Binding

/-!
# Keymaps

A keymap binds keys to actions. Every key is bound at most once, and no order of the bindings can
be seen: lists of them are sorted by description.
-/

namespace ResourceBrowser.Key

/-- An action with what the user is told about it. -/
structure Bound (α : Type) where
  description : String
  action : α
  /-- Listed among the hints. -/
  visible : Bool
deriving DecidableEq, Repr

/-- The bindings of keys to actions; every key occurs at most once. -/
structure Keymap (α : Type) where
  entries : List (Binding × Bound α) := []
deriving Repr

namespace Keymap

variable {α : Type}

/-- The keymap without bindings. -/
def empty : Keymap α := ⟨[]⟩

/-- What a key is bound to. -/
def get? (m : Keymap α) (key : Binding) : Option (Bound α) := m.entries.lookup key

/-- True when a key is bound. -/
def contains (m : Keymap α) (key : Binding) : Bool := (m.get? key).isSome

/-- The number of bound keys. -/
def size (m : Keymap α) : Nat := m.entries.length

/-- Takes the binding of a key away. -/
def erase (m : Keymap α) (key : Binding) : Keymap α :=
  ⟨m.entries.filter fun e => e.1 != key⟩

/-- Binds a key, in place of what it was bound to. -/
def insert (m : Keymap α) (key : Binding) (bound : Bound α) : Keymap α :=
  ⟨(key, bound) :: (m.erase key).entries⟩

/-- Adds the bindings of another keymap, which replace those of the same keys. -/
def insertAll (m other : Keymap α) : Keymap α :=
  other.entries.foldl (fun m e => m.insert e.1 e.2) m

/-- The order of listed bindings: by description, then by key. -/
def listedLE (a b : String × String) : Bool :=
  a.2 < b.2 || (a.2 == b.2 && decide (a.1 ≤ b.1))

/-- The keys and descriptions of the bindings that `keep` selects. -/
def list (m : Keymap α) (keep : Bound α → Bool) : List (String × String) :=
  ((m.entries.filter fun e => keep e.2).map fun e => (e.1.text, e.2.description)).mergeSort listedLE

/-- The bindings that the menu shows. -/
def hints (m : Keymap α) : List (String × String) := m.list (·.visible)

/-- Every binding. -/
def help (m : Keymap α) : List (String × String) := m.list fun _ => true

end Keymap

end ResourceBrowser.Key
