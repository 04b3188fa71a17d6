import NextApp.Lib.Paging
import NextApp.Model.Value

/-! # The report screens

The blocs of the five reports in `lib/new_version/modules/reports` differ in the filters they take, in how they
rebuild them for a later page, and in the query that the data source makes of them. `startGet` is a `Get` handler
up to its `await`, `endGet` the rest of it. -/

namespace NextApp

/-- `ApiConstance.pageLength`. -/
def pageLength : Nat := 20

inductive RequestState where
  | stable
  | loading
  | success
  | error
deriving DecidableEq, Repr

namespace Value

def ofString? : Option String → Value
  | none => .null
  | some s => .str s

def ofInt? : Option Int → Value
  | none => .null
  | some i => .int i

end Value

/-- `if (x != null) k: x`. -/
def entryOf (k : String) (x : Option Value) : Doc := (x.map fun v => (k, v)).toList

/-! ### Filters -/

structure GeneralLedgerFilters where
  account : Option String := none
  partyType : Option String := none
  party : Option String := none
  toDate : Option String := none
  fromDate : Option String := none
  startKey : Option Int := some 0
deriving DecidableEq, Repr

structure AccountReceivableFilters where
  salesPersonName : Option String := none
  customerName : Option String := none
  toDate : Option String := none
  customerCode : Option Float := none
  startKey : Option Int := some 0
deriving DecidableEq, Repr

structure StockLedgerFilters where
  warehouseFilter : String
  fromDate : String
  toDate : String
  itemCode : Option String := none
  itemGroup : Option String := none
  startKey : Option Int := some 0
deriving DecidableEq, Repr

structure ItemPriceFilters where
  priceList : Option String := none
  itemCode : Option String := none
  itemGroup : Option String := none
  startKey : Option Int := some 0
deriving DecidableEq, Repr

structure WarehouseFilters where
  warehouseFilter : String
  itemFilter : Option String := none
  startKey : Option Int := some 0
deriving DecidableEq, Repr

/-! ### Data sources: the queries of the HTTP requests -/

def getGeneralLedgerReports (filters : GeneralLedgerFilters) : Doc :=
  [("page_length", .int pageLength), ("start", .ofInt? filters.startKey), ("account", .ofString? filters.account)] ++
    entryOf "from_date" (filters.fromDate.map .str) ++ entryOf "to_date" (filters.toDate.map .str) ++
    entryOf "party_type" (filters.partyType.map .str) ++ entryOf "party" (filters.party.map .str)

def getAccountReceivableReport (filters : AccountReceivableFilters) : Doc :=
  [("page_length", .int pageLength), ("start", .ofInt? filters.startKey)] ++
    entryOf "customer_code" (filters.customerCode.map .double) ++ entryOf "customer_name" (filters.customerName.map .str) ++
    entryOf "sales_person_name" (filters.salesPersonName.map .str) ++ entryOf "to_date" (filters.toDate.map .str)

def getStockLedgerReports (filters : StockLedgerFilters) : Doc :=
  [("page_length", .int pageLength), ("start", .ofInt? filters.startKey), ("warehouse", .str filters.warehouseFilter),
    ("from_date", .str filters.fromDate), ("to_date", .str filters.toDate)] ++
    entryOf "item_code" (filters.itemCode.map .str)

def getItemPriceReports (filters : ItemPriceFilters) : Doc :=
  [("page_length", .int pageLength), ("start", .ofInt? filters.startKey)] ++
    entryOf "item_code" (filters.itemCode.map .str) ++ entryOf "item_group" (filters.itemGroup.map .str) ++
    entryOf "price_list" (filters.priceList.map .str)

def getWarehouseReports (filters : WarehouseFilters) : Doc :=
  [("page_length", .int pageLength), ("start", .ofInt? filters.startKey),
    ("warehouse_filter", .str filters.warehouseFilter)] ++
    entryOf "item_filter" (filters.itemFilter.map .str)

/-! ### Filter screens -/

/-- What is chosen on `FilterAccountScreen`: the account and the dates are validated there. -/
structure GeneralLedgerChoice where
  account : String
  fromDate : String
  toDate : String
  partyType : Option String
  party : Option String

structure AccountReceivableChoice where
  salesPerson : Option String
  customerCode : Option Float
  customerName : Option String
  toDate : Option String

structure StockLedgerChoice where
  wareHouseName : String
  itemCode : Option String
  itemGroup : Option String
  fromDate : String
  toDate : String

structure ItemPriceChoice where
  priceList : String
  itemCode : Option String
  itemGroup : Option String

structure WarehouseChoice where
  wareHouseName : String
  itemCode : Option String

inductive Report where
  | generalLedger
  | accountsReceivable
  | stockLedger
  | itemPrice
  | warehouse
deriving DecidableEq, Repr

namespace Report

abbrev Filters : Report → Type
  | generalLedger => GeneralLedgerFilters
  | accountsReceivable => AccountReceivableFilters
  | stockLedger => StockLedgerFilters
  | itemPrice => ItemPriceFilters
  | warehouse => WarehouseFilters

instance : (r : Report) → DecidableEq r.Filters
  | generalLedger => inferInstanceAs (DecidableEq GeneralLedgerFilters)
  | accountsReceivable => inferInstanceAs (DecidableEq AccountReceivableFilters)
  | stockLedger => inferInstanceAs (DecidableEq StockLedgerFilters)
  | itemPrice => inferInstanceAs (DecidableEq ItemPriceFilters)
  | warehouse => inferInstanceAs (DecidableEq WarehouseFilters)

abbrev Choice : Report → Type
  | generalLedger => GeneralLedgerChoice
  | accountsReceivable => AccountReceivableChoice
  | stockLedger => StockLedgerChoice
  | itemPrice => ItemPriceChoice
  | warehouse => WarehouseChoice

/-- The filters that the button of the filter screen opens the report with. -/
def applyFilters : (r : Report) → r.Choice → r.Filters
  | generalLedger, c =>
    { account := some c.account, fromDate := some c.fromDate, toDate := some c.toDate, partyType := c.partyType,
      party := c.party }
  | accountsReceivable, c =>
    { salesPersonName := c.salesPerson, customerCode := c.customerCode, customerName := c.customerName,
      toDate := c.toDate }
  | stockLedger, c =>
    { warehouseFilter := c.wareHouseName, itemCode := c.itemCode, itemGroup := c.itemGroup, fromDate := c.fromDate,
      toDate := c.toDate }
  | itemPrice, c => { priceList := some c.priceList, itemCode := c.itemCode, itemGroup := c.itemGroup }
  | warehouse, c => { warehouseFilter := c.wareHouseName, itemFilter := c.itemCode }

/-- The filters that the bloc builds for the page after `n` rows. -/
def nextFilters : (r : Report) → r.Filters → Nat → r.Filters
  | generalLedger, f, n =>
    -- party and party type are read from the date
    { account := f.account, fromDate := f.fromDate, toDate := f.toDate, party := f.toDate, partyType := f.toDate,
      startKey := some (n + 1 : Nat) }
  | accountsReceivable, f, n =>
    { customerCode := f.customerCode, customerName := f.customerName, salesPersonName := f.salesPersonName,
      toDate := f.toDate, startKey := some (n + 1 : Nat) }
  | stockLedger, f, n =>
    { warehouseFilter := f.warehouseFilter, itemCode := f.itemCode, itemGroup := f.itemGroup, fromDate := f.fromDate,
      toDate := f.toDate, startKey := some (n + 1 : Nat) }
  | itemPrice, f, n =>
    { priceList := f.priceList, itemCode := f.itemCode, itemGroup := f.itemGroup, startKey := some (n + 1 : Nat) }
  | warehouse, f, n =>
    { warehouseFilter := f.warehouseFilter, itemFilter := f.itemFilter, startKey := some (n + 1 : Nat) }

def query : (r : Report) → r.Filters → Doc
  | generalLedger => getGeneralLedgerReports
  | accountsReceivable => getAccountReceivableReport
  | stockLedger => getStockLedgerReports
  | itemPrice => getItemPriceReports
  | warehouse => getWarehouseReports

def startKey : (r : Report) → r.Filters → Option Int
  | generalLedger => GeneralLedgerFilters.startKey
  | accountsReceivable => AccountReceivableFilters.startKey
  | stockLedger => StockLedgerFilters.startKey
  | itemPrice => ItemPriceFilters.startKey
  | warehouse => WarehouseFilters.startKey

/-- The filters without the page. -/
def unpaged : (r : Report) → r.Filters → r.Filters
  | generalLedger, f => { f with startKey := some 0 }
  | accountsReceivable, f => { f with startKey := some 0 }
  | stockLedger, f => { f with startKey := some 0 }
  | itemPrice, f => { f with startKey := some 0 }
  | warehouse, f => { f with startKey := some 0 }

@[simp] theorem startKey_applyFilters (r : Report) (c : r.Choice) : r.startKey (r.applyFilters c) = some 0 := by
  cases r <;> rfl

@[simp] theorem startKey_nextFilters (r : Report) (f : r.Filters) (n : Nat) :
    r.startKey (r.nextFilters f n) = some (n + 1 : Nat) := by
  cases r <;> rfl

@[simp] theorem unpaged_applyFilters (r : Report) (c : r.Choice) : r.unpaged (r.applyFilters c) = r.applyFilters c := by
  cases r <;> rfl

/-- Every report but the general ledger asks for a later page with the filters of the first. -/
theorem unpaged_nextFilters {r : Report} (h : r ≠ generalLedger) (f : r.Filters) (n : Nat) :
    r.unpaged (r.nextFilters f n) = r.unpaged f := by
  cases r with
  | generalLedger => exact absurd rfl h
  | accountsReceivable | stockLedger | itemPrice | warehouse => rfl

end Report

/-! ### Blocs -/

structure ReportState (α : Type*) where
  reportsState : RequestState := .loading
  reportMessage : String := ""
  reportData : List α := []
  hasReachedMax : Bool := false
deriving DecidableEq, Repr

/-- A request that the use case is called for: for the first page its answer replaces the rows. -/
structure ReportRequest (r : Report) where
  filters : r.Filters
  first : Bool

/-- How a call of the use case ends. The repository turns only the exceptions of the server into a failure: one
    without a response throws. -/
inductive UseCaseResult (α : Type*) where
  | right (rows : List α)
  | left (errorMessage : String)
  | threw
deriving DecidableEq, Repr

namespace ReportState
variable {α : Type*} {r : Report}

/-- The handler of `Get` before its `await`; none when it returns at once. -/
def startGet (s : ReportState α) (filters : r.Filters) : Option (ReportRequest r) :=
  if s.hasReachedMax then none
  else if s.reportsState = .loading then some ⟨filters, true⟩
  else some ⟨r.nextFilters filters s.reportData.length, false⟩

/-- The handler of `Get` after its `await`, in the state that the bloc has by then. -/
def endGet (s : ReportState α) (request : ReportRequest r) : UseCaseResult α → ReportState α
  | .left message => { s with reportsState := .error, reportMessage := message }
  | .threw => s
  | .right rows =>
    { s with
      reportsState := .success
      reportData := if request.first then rows else s.reportData ++ rows
      hasReachedMax := decide (rows.length < pageLength) }

/-- The handler of `Reset`. -/
def reset (s : ReportState α) : ReportState α :=
  { s with reportsState := .loading, reportData := [], hasReachedMax := false }

end ReportState

/-- A bloc with the fetch of the `Get` that is being handled: `droppable()` discards another one until it has its
    answer, and `Reset` does not wait for it. -/
structure ReportBloc (r : Report) (α : Type*) where
  state : ReportState α := {}
  running : Option (ReportRequest r) := none

namespace ReportBloc
variable {α : Type*} {r : Report}

def get (b : ReportBloc r α) (filters : r.Filters) : ReportBloc r α :=
  if b.running.isSome then b else { b with running := b.state.startGet filters }

def reset (b : ReportBloc r α) : ReportBloc r α := { b with state := b.state.reset }

/-- The answer to the fetch that is running. -/
def answer (b : ReportBloc r α) (result : ReportRequest r → UseCaseResult α) : Option (ReportBloc r α) :=
  b.running.map fun x => ⟨b.state.endGet x (result x), none⟩

end ReportBloc

end NextApp
