import NextApp.Lib.Runs
import NextApp.Model.NumericField
import NextApp.Model.Pagination

/-! # The list screen of a module

`_GenericListModuleScreenState` with the `PaginationList` that it shows. The list loads anew when `reset` is flipped: by a
search, and by every build of the `Selector`, the first of which comes before the list listens. -/

namespace NextApp

/-- How `getStatisticsList` ends. -/
inductive StatisticsResult where
  | success
  /-- `(await ...)!` throws -/
  | null
  | exception
deriving DecidableEq, Repr

/-- The search text and the filters of a request. -/
abbrev ScreenQuery := String × Doc

structure ModuleList (α : Type) where
  reset : Bool
  searchText : String
  /-- `ModuleProvider.filter` -/
  filter : Doc
  /-- the filters that the `Selector` has built with -/
  value : Doc
  /-- `_oldValue` of the list -/
  oldValue : Bool
  list : PaginationList ScreenQuery α
  /-- how many `getStatistics` run -/
  statistics : Nat
  /-- the queries that the calls of `getItems` which have ended asked for -/
  completed : List ScreenQuery

inductive ModuleListEvent (α : Type) where
  | search (value : String)
  /-- the setter of the provider -/
  | setFilter (values : Doc)
  /-- the screen is built again -/
  | rebuild
  /-- its dependencies have changed -/
  | didChangeDependencies
  | statistics (result : StatisticsResult)
  | loadMore
  | refresh
  | counted (i : Nat) (count : String)
  | answered (i : Nat) (rows : ScreenQuery → Int → Option (List α))

namespace ModuleList
variable {α : Type}

/-- What `future` and `listCount` read when they are called. -/
def query (s : ModuleList α) : ScreenQuery := (String.ofList (trim s.searchText), s.filter)

/-- `_reset` of the list. -/
def resetList (s : ModuleList α) : ModuleList α :=
  if s.reset ≠ s.oldValue then { s with oldValue := s.reset, list := s.list.reset s.query } else s

/-- `reset.value = !reset.value`, which the list hears. -/
def flip (s : ModuleList α) : ModuleList α := { s with reset := !s.reset }.resetList

/-- The builder of the `Selector`. -/
def build (s : ModuleList α) : ModuleList α := { s with value := s.filter }.flip

def getStatistics (s : ModuleList α) : ModuleList α := { s with statistics := s.statistics + 1 }

/-- The filters are changed in place, and the screen is built. -/
def didChangeDependencies (s : ModuleList α) : ModuleList α :=
  let filter := (s.filter.set "sort_field" (.str "modified")).set "sort_type" (.str "desc")
  { s with filter }.getStatistics.build

/-- The screen is built for the first time: the flip comes before the `initState` of the list, which calls `_reset`. -/
def mounted (filter : Doc) : ModuleList α :=
  let filter := (filter.set "sort_field" (.str "modified")).set "sort_type" (.str "desc")
  let s : ModuleList α := {
    reset := true
    searchText := ""
    filter
    value := filter
    oldValue := false
    list := { state := { isLoading := true } }
    statistics := 1
    completed := [] }
  { s with reset := !s.reset }.resetList

def step (s : ModuleList α) : ModuleListEvent α → Option (ModuleList α)
  | .search value => some { s with searchText := value }.flip
  | .setFilter values =>
    -- the `Selector` compares the maps by their entries
    if values.Same s.value then some { s with filter := values } else some { s with filter := values }.build
  | .rebuild => some s.build
  | .didChangeDependencies => some s.didChangeDependencies
  | .statistics result =>
    if s.statistics = 0 then none
    else
      let s := { s with statistics := s.statistics - 1 }
      match result with
      | .success => some s.build
      | .null | .exception => some s
  | .loadMore => s.list.loadMore.map fun list => { s with list }
  | .refresh => s.list.refresh.map fun list => { s with list }
  | .counted i count => ({ s.list with query := some s.query }.counted i count).map fun list => { s with list }
  | .answered i rows =>
    match s.list.running[i]? with
    | some (.asked query _) =>
      (s.list.answered i rows).map fun list => { s with list, completed := query :: s.completed }
    | _ => none

end ModuleList

end NextApp
