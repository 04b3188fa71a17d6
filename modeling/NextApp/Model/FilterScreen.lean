import NextApp.Lib.Runs
import NextApp.Model.Value

/-! # The filter screen and the sorting screen

Both screens copy the filters of the provider into a map of their own, edit it, and put it in the place of the provider's. The
clear button puts a map with one entry there, and opens the screen anew. -/

namespace NextApp

/-- The keys of the sorting. -/
def sortKeys : List String := ["sort_field", "sort_type"]

/-- A key that the filter widget of a module writes: `filter1` and the like. -/
def FilterKey : Type := { k : String // k ≠ "" ∧ k ∉ sortKeys }

inductive FilterScreenKind where
  | filter
  | sorting
deriving DecidableEq, Repr

structure FilterScreens where
  /-- `ModuleProvider.filter` -/
  filter : Doc
  /-- the screen that is open, with its `values` -/
  screen : Option (FilterScreenKind × Doc) := none

inductive FilterScreenEvent where
  | open (kind : FilterScreenKind)
  /-- a filter is chosen, or cleared -/
  | edit (key : FilterKey) (value : Option Value)
  /-- the drop-downs of the sorting -/
  | sortField (value : Option String)
  | sortType (value : Option String)
  | clear
  | apply
  | back

namespace FilterScreens

/-- `values[key] = value`, or `values.remove(key)` -/
def write (values : Doc) (key : String) : Option Value → Doc
  | some value => values.set key value
  | none => values.remove key

/-- `initState`: `values.addAll` copies the map of the provider. -/
def openScreen (s : FilterScreens) (kind : FilterScreenKind) : FilterScreens := { s with screen := some (kind, s.filter) }

/-- The list as it is opened with the filters of a tile, or with none. -/
def opened (filters : List (FilterKey × Value)) : FilterScreens where
  filter :=
    let filter : Doc := Dict.addAll [] (filters.map fun e => (e.1.1, e.2))
    (filter.set "sort_field" (.str "modified")).set "sort_type" (.str "desc")

def step (s : FilterScreens) : FilterScreenEvent → Option FilterScreens
  | .open kind => if s.screen = none then some (s.openScreen kind) else none
  | .edit key value =>
    match s.screen with
    | some (.filter, values) => some { s with screen := some (.filter, write values key.1 value) }
    | _ => none
  | .sortField value =>
    match s.screen with
    | some (.sorting, values) => some { s with screen := some (.sorting, write values "sort_field" (value.map .str)) }
    | _ => none
  | .sortType value =>
    match s.screen with
    | some (.sorting, values) => some { s with screen := some (.sorting, write values "sort_type" (value.map .str)) }
    | _ => none
  | .clear => s.screen.map fun screen => { s with filter := [("", .str "")] }.openScreen screen.1
  | .apply => s.screen.map fun screen => { filter := screen.2 }
  | .back => s.screen.map fun _ => { s with screen := none }

end FilterScreens

end NextApp
