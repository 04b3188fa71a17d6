import NextApp.Lib.Paging

/-! # The paginated list widget

`_PaginationListState` of `lib/widgets/pagination.dart` and the answers of `APIService.getList` it reads.
`getItems` is modelled in its three synchronous pieces: the code before `await widget.listCount()`, the
code between the two awaits, and the code after `await widget.future(pageCount)`. -/

namespace NextApp

/-- `PAGINATION_PAGE_LENGTH`. -/
def paginationPageLength : Nat := 20

/-- The fields of `_PaginationListState` that loading reads and writes, with the provider's `_loadCount`. -/
structure PaginationState (α : Type*) where
  items : List α := []
  pageCount : Int := -20
  newLoadCount : Nat := 0
  listCount : String := ""
  isLoading : Bool := false
  noMoreItems : Bool := false
  loadCount : String := ""
deriving DecidableEq, Repr

namespace PaginationState
variable {α : Type*}

/-- `getItems` up to its first `await`. -/
def startItems (s : PaginationState α) : PaginationState α :=
  { s with isLoading := true, pageCount := s.pageCount + paginationPageLength }

/-- `getItems` between its awaits: the count has arrived. -/
def countItems (s : PaginationState α) (count : String) : PaginationState α := { s with listCount := count }

/-- `getItems` after its second `await`; `none` is the null that `getList` returns when a request fails. -/
def endItems (s : PaginationState α) (res : Option (List α)) : PaginationState α :=
  let newLoadCount := s.newLoadCount + (res.map List.length).getD 0
  let s := { s with newLoadCount := newLoadCount, loadCount := toString newLoadCount }
  let s := match res with
    | some list =>
      { s with
        noMoreItems := s.noMoreItems || list.isEmpty || decide (list.length < paginationPageLength)
        items := s.items ++ list }
    | none => s
  { s with isLoading := false }

/-- One call of `getItems` that runs to its end before the next: the page is asked for at the offset
    that the field holds after the first `await`. -/
def getItems (s : PaginationState α) (count : String) (future : Int → Option (List α)) : PaginationState α :=
  let s := s.startItems.countItems count
  s.endItems (future s.pageCount)

/-- What `_reset` and the refresh indicator do before they call `getItems`. -/
def clearItems (s : PaginationState α) : PaginationState α :=
  { s with pageCount := -20, newLoadCount := 0, noMoreItems := false, items := [] }

end PaginationState

/-- `APIService.getList` on a server whose list is `l`: the rows from `start`, or null when the request fails. -/
def getList {α : Type*} (l : List α) (answered : Bool) (start : Int) : Option (List α) :=
  if answered then some (Paging.slice l start.toNat paginationPageLength) else none

/-- A call of `getItems` that has not ended: it waits for the count, or for the rows of a query from an offset. -/
inductive RunningItems (κ : Type*) where
  | counting
  | asked (query : κ) (start : Int)
deriving DecidableEq, Repr

/-- The widget with its running calls, and the search and filters of its screen, which a call reads when it asks for
    the rows. -/
structure PaginationList (κ α : Type*) where
  state : PaginationState α := {}
  running : List (RunningItems κ) := []
  query : Option κ := none
deriving DecidableEq

namespace PaginationList
variable {κ α : Type*}

def getItems (s : PaginationList κ α) : PaginationList κ α :=
  { s with state := s.state.startItems, running := s.running ++ [.counting] }

/-- `loadMore` near the end of the list, which is on show when there are items. -/
def loadMore (s : PaginationList κ α) : Option (PaginationList κ α) :=
  if s.state.items.isEmpty then none
  else if s.state.noMoreItems ∨ s.state.isLoading then some s
  else some s.getItems

/-- The refresh indicator, which is there when there are items. -/
def refresh (s : PaginationList κ α) : Option (PaginationList κ α) :=
  if s.state.items.isEmpty then none else some { s with state := s.state.clearItems }.getItems

/-- A search, or other filters. -/
def reset (s : PaginationList κ α) (query : κ) : PaginationList κ α :=
  { s with state := s.state.clearItems, query := some query }.getItems

/-- The count of the running call at `i` arrives, and it asks for the rows. -/
def counted (s : PaginationList κ α) (i : Nat) (count : String) : Option (PaginationList κ α) :=
  match s.running[i]?, s.query with
  | some .counting, some query =>
    some { s with
      state := s.state.countItems count
      running := s.running.set i (.asked query s.state.pageCount) }
  | _, _ => none

/-- The rows of the running call at `i` arrive, and it ends. -/
def answered (s : PaginationList κ α) (i : Nat) (rows : κ → Int → Option (List α)) : Option (PaginationList κ α) :=
  match s.running[i]? with
  | some (.asked query start) =>
    some { s with state := s.state.endItems (rows query start), running := s.running.eraseIdx i }
  | _ => none

end PaginationList

end NextApp
