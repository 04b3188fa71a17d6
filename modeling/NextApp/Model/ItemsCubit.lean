import NextApp.Model.Report

/-! # The item list of a form

`ItemsCubit` and the calls that `ItemListScreen` makes to it. `startGetAllItems` is `getAllItems` up to its `await`,
`endGetAllItems` the rest of it. -/

namespace NextApp

structure ItemsFilter where
  itemGroup : Option String := none
  startKey : Nat := 0
  searchText : Option String := none
  priceList : Option String := none
deriving DecidableEq, Repr

inductive ItemsState where
  | itemsInitial
  | getAllItemsSuccessfully
  | gettingAllItemsFailed
  | gettingItemsLoading
deriving DecidableEq, Repr

/-- The parameters of a request that say which items it is for. -/
structure ItemsQuery where
  searchText : Option String
  itemGroup : Option String
  priceList : Option String
deriving DecidableEq, Repr

/-- A request that is under way: its parameters, and whether its answer replaces the items. -/
structure ItemsRequest where
  query : ItemsQuery
  start : Option Nat
  replaces : Bool
deriving DecidableEq, Repr

structure ItemsCubit (α : Type*) where
  state : ItemsState := .itemsInitial
  items : List α := []
  hasReachedMax : Bool := false
deriving DecidableEq

namespace ItemsFilter

def query (f : ItemsFilter) : ItemsQuery := ⟨f.searchText, f.itemGroup, f.priceList⟩

end ItemsFilter

namespace ItemsCubit
variable {α : Type*}

def resetItem (_ : ItemsCubit α) : ItemsCubit α := ⟨.gettingItemsLoading, [], false⟩

def startGetAllItems (s : ItemsCubit α) (itemFilter : ItemsFilter) : ItemsCubit α × Option ItemsRequest :=
  if s.hasReachedMax then (s, none)
  else if s.state = .gettingItemsLoading ∨ itemFilter.searchText ≠ none then
    ({ s with state := .gettingItemsLoading },
      some ⟨itemFilter.query, if itemFilter.startKey ≠ 0 then some itemFilter.startKey else none, true⟩)
  else
    -- the item group is not among the parameters here
    (s, some ⟨⟨itemFilter.searchText, none, itemFilter.priceList⟩,
      if itemFilter.startKey ≠ 0 then some (s.items.length + 1) else none, false⟩)

/-- The rest of `getAllItems` with pages of `p` rows, and with the rows of the answer if there is one. -/
def endGetItems (p : Nat) (s : ItemsCubit α) (request : ItemsRequest) : Option (List α) → ItemsCubit α
  | none => { s with state := .gettingAllItemsFailed }
  | some rows =>
    if request.replaces then { s with items := rows, state := .getAllItemsSuccessfully }
    else
      let items := s.items ++ rows
      ⟨.getAllItemsSuccessfully, items, decide (items.length < p)⟩

/-- The rest of `getAllItems`. -/
def endGetAllItems (s : ItemsCubit α) (request : ItemsRequest) : Option (List α) → ItemsCubit α :=
  s.endGetItems pageLength request

/-- The list is on show: neither the loading image nor, after a failure, the empty one. -/
def shown (s : ItemsCubit α) : Prop :=
  s.state ≠ .gettingItemsLoading ∧ ¬ (s.state = .gettingAllItemsFailed ∧ s.items = [])

instance (s : ItemsCubit α) : Decidable s.shown :=
  match h : s.items with
  | [] => decidable_of_iff (s.state ≠ .gettingItemsLoading ∧ s.state ≠ .gettingAllItemsFailed) (by simp [shown, h])
  | _ :: _ => decidable_of_iff (s.state ≠ .gettingItemsLoading) (by simp [shown, h])

end ItemsCubit

/-- The calls of `ItemListScreen`: the load it starts with, a search, a scanned barcode, and the end of the list. -/
inductive ItemListCall where
  | loadData
  | search (value : String)
  | scanBarcode (barcode : String)
  | scrollEnd
deriving DecidableEq, Repr

namespace ItemListCall
variable {α : Type*}

/-- The filter of a call on a screen with this price list. -/
def itemFilter (priceList : String) (s : ItemsCubit α) : ItemListCall → ItemsFilter
  | loadData => { priceList := some priceList, startKey := 1 }
  | search value => { priceList := some priceList, searchText := some value }
  | scanBarcode barcode => { priceList := some priceList, searchText := some barcode }
  | scrollEnd => { priceList := some priceList, startKey := s.items.length + 1 }

def start (priceList : String) (s : ItemsCubit α) (c : ItemListCall) : ItemsCubit α × Option ItemsRequest :=
  match c with
  | loadData | search _ => s.resetItem.startGetAllItems (c.itemFilter priceList s)
  | scanBarcode _ | scrollEnd => s.startGetAllItems (c.itemFilter priceList s)

/-- The query that the list is for from this call on, unless it goes on with the list there is. -/
def query? (priceList : String) : ItemListCall → Option ItemsQuery
  | loadData => some ⟨none, none, some priceList⟩
  | search value | scanBarcode value => some ⟨some value, none, some priceList⟩
  | scrollEnd => none

end ItemListCall

/-! ### The bloc of the items -/

/-- The items in the `ItemState` of `NewItemBloc`. -/
structure NewItemState (α : Type*) where
  getItemsState : RequestState := .loading
  getItemMessage : String := ""
  getItemData : List α := []
  hasReachedMax : Bool := false
deriving DecidableEq, Repr

namespace NewItemState
variable {α : Type*}

/-- `_getItemData` up to its `await`, with the filter of its request, and whether the answer replaces the items. -/
def startGetItemData (s : NewItemState α) (itemFilter : ItemsFilter) : Option (ItemsFilter × Bool) :=
  if s.hasReachedMax then none
  else some (itemFilter, decide (s.getItemsState = .loading ∨ itemFilter.searchText ≠ none))

/-- The rest of `_getItemData` with pages of `p` rows. -/
def endGetItemData (p : Nat) (s : NewItemState α) (replaces : Bool) : UseCaseResult α → NewItemState α
  | .left message => { s with getItemsState := .error, getItemMessage := message }
  | .threw => s
  | .right rows =>
    { s with
      getItemsState := .success
      getItemData := if replaces then rows else s.getItemData ++ rows
      hasReachedMax := decide (rows.length < p) }

def resetItemDate (s : NewItemState α) : NewItemState α :=
  { s with getItemsState := .loading, getItemData := [], hasReachedMax := false }

end NewItemState

end NextApp
