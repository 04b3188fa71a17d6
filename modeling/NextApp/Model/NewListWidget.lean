import NextApp.Lib.Runs
import NextApp.Model.Value

/-! # The list of a link picker

`NewListWidget` asks for its rows when it is opened and at every search. Each call empties the list and shows that it loads;
each response puts its rows into the list and shows that it does not. -/

namespace NextApp

/-- `response.data` of a request that has gone through. -/
def genericGet (response : Option Doc) : Doc := response.getD []

/-- None when what is no list is returned as one, which throws. -/
def generalGetList (response : Option Doc) : Option (List Value) :=
  match Doc.at (genericGet response) "message" with
  | .list rows => some rows
  | _ => none

structure NewListWidget where
  getList : List Value := []
  isLoading : Bool := false
  /-- the requests that have no response yet, each with the number of its call -/
  requests : List (Nat × Doc) := []
  calls : Nat := 0
  /-- the rows of the last call, none when it has failed or has no response yet -/
  answer : Option (List Value) := none

inductive NewListEvent where
  /-- the call of `initState`, without a search, or a search -/
  | handelCall (search : Option String)
  | response (call : Nat) (response : Option Doc)

namespace NewListWidget

/-- The filters of the widget are written over those of the call. -/
def filters (docType : String) (filter : Option Doc) (search : Option String) : Doc :=
  let entries : Doc := [("doctype", .str docType), ("page_length", .int 20)] ++
    (search.map fun search => ("search_text", Value.str ("%" ++ search ++ "%"))).toList
  entries.addAll (filter.getD [])

def handelCall (docType : String) (filter : Option Doc) (s : NewListWidget) (search : Option String) : NewListWidget :=
  { s with
    isLoading := true
    getList := []
    requests := s.requests ++ [(s.calls, filters docType filter search)]
    calls := s.calls + 1
    answer := none }

/-- `whenComplete` runs before the rows are assigned, and whether there are rows or not. -/
def complete (s : NewListWidget) (call : Nat) (rows : Option (List Value)) : NewListWidget :=
  { s with
    isLoading := false
    getList := rows.getD s.getList
    requests := s.requests.filter fun request => request.1 ≠ call
    answer := if call + 1 = s.calls then rows else s.answer }

def step (docType : String) (filter : Option Doc) (s : NewListWidget) : NewListEvent → Option NewListWidget
  | .handelCall search => some (s.handelCall docType filter search)
  | .response call response =>
    if call ∈ s.requests.map Prod.fst then some (s.complete call (generalGetList response)) else none

/-- The rows that can be picked. -/
def offered (s : NewListWidget) : List Value := if s.isLoading then [] else s.getList

end NewListWidget

end NextApp
