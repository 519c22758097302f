import ResourceBrowser.Table.Live

/-!
# Operations on live tables

The operations of a live table as data, so that a history of a table is a list of operations, and
what each one answers.
-/

namespace ResourceBrowser.Table

/-- An operation on a live table. -/
inductive Operation where
  | update (data : Snapshot)
  | noteError (message : String)
  | setKind (kind : String)
  | setPath (path : Option String)
  | setColorer (colorer : Colorer)
  | setDecorate (decorate : Option (Snapshot → Snapshot))
  | setMetrics (metrics : Bool)
  | setViewColumns (columns : List String)
  | setSort (column : String) (ascending : Bool)
  | refresh
  | activateFilter
  | deactivateFilter
  | typeFilter (c : Char)
  | eraseFilter
  | setQuery (query : String)
  | clearFilter
  | toggleWide
  | toggleFaults
  | resetFaults
  | sortBy (column : String) (ascending : Bool)
  | invertSort
  | toggleMark
  | clearMarks
  | up (n : Nat)
  | down (n : Nat)
  | home
  | last
  | takeError

/-- The operations without arguments under their names. -/
def Operation.named : List (String × Operation) := [
  ("refresh", .refresh), ("activate_filter", .activateFilter),
  ("deactivate_filter", .deactivateFilter), ("filter_delete", .eraseFilter),
  ("clear_filter", .clearFilter), ("toggle_wide", .toggleWide), ("toggle_toast", .toggleFaults),
  ("reset_toast", .resetFaults), ("invert_sort", .invertSort), ("toggle_mark", .toggleMark),
  ("clear_marks", .clearMarks), ("up", .up 1), ("down", .down 1), ("home", .home),
  ("end", .last), ("take_error", .takeError)]

/-- What an operation answers. -/
inductive Reply where
  | done
  /-- Whether a typed character was taken. -/
  | taken (yes : Bool)
  | refused (e : InvalidExpression)
  /-- What went wrong last. -/
  | trouble (message : Option String)
deriving DecidableEq, Repr

/-- The reply of an operation that may refuse a query. -/
def Reply.ofFault : Option InvalidExpression → Reply
  | none => .done
  | some e => .refused e

namespace LiveTable

variable [Engine]

/-- Carries out an operation. -/
def apply (t : LiveTable) : Operation → LiveTable × Reply
  | .update data => (t.update data, .done)
  | .noteError message => (t.noteError message, .done)
  | .setKind kind => (t.setKind kind, .done)
  | .setPath path => (t.setPath path, .done)
  | .setColorer colorer => (t.setColorer colorer, .done)
  | .setDecorate decorate => (t.setDecorate decorate, .done)
  | .setMetrics metrics => (t.setMetrics metrics, .done)
  | .setViewColumns columns => (t.setViewColumns columns, .done)
  | .setSort column ascending => (t.setSort column ascending, .done)
  | .refresh => (t.refresh, .done)
  | .activateFilter => (t.activateFilter, .done)
  | .deactivateFilter => (t.deactivateFilter, .done)
  | .typeFilter c =>
    match t.typeFilter c with
    | (t, .ok yes) => (t, .taken yes)
    | (t, .error e) => (t, .refused e)
  | .eraseFilter => (t.eraseFilter.1, .ofFault t.eraseFilter.2)
  | .setQuery query => ((t.setQuery query).1, .ofFault (t.setQuery query).2)
  | .clearFilter => (t.clearFilter, .done)
  | .toggleWide => (t.toggleWide, .done)
  | .toggleFaults => (t.toggleFaults, .done)
  | .resetFaults => (t.resetFaults, .done)
  | .sortBy column ascending => (t.sortBy column ascending, .done)
  | .invertSort => (t.invertSort, .done)
  | .toggleMark => (t.toggleMark, .done)
  | .clearMarks => (t.clearMarks, .done)
  | .up n => (t.up n, .done)
  | .down n => (t.down n, .done)
  | .home => (t.home, .done)
  | .last => (t.last, .done)
  | .takeError => (t.takeError.1, .trouble t.takeError.2)

/-- Carries out operations one after the other. -/
def run (t : LiveTable) (ops : List Operation) : LiveTable :=
  ops.foldl (fun t op => (t.apply op).1) t

end LiveTable

end ResourceBrowser.Table
