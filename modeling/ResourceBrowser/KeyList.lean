/-!
# Lists in order of keys

Pairs of a key and a value, each key once, in order of the keys.
-/

namespace ResourceBrowser

/-- Pairs in order of their keys; every key occurs at most once. -/
abbrev KeyList (α : Type) := List (String × α)

namespace KeyList

/-- Puts a value under its key, in the place of an earlier one. -/
def insert (key : String) (value : α) : KeyList α → KeyList α
  | [] => [(key, value)]
  | (k, v) :: rest =>
    if key == k then (key, value) :: rest
    else if key < k then (key, value) :: (k, v) :: rest
    else (k, v) :: insert key value rest

/-- The list of pairs in any order; of pairs with the same key the last one counts. -/
def ofPairs (pairs : List (String × α)) : KeyList α :=
  pairs.foldl (fun sorted (key, value) => insert key value sorted) []

end KeyList

end ResourceBrowser
