import NextApp.Lib.DateText
import NextApp.Model.FilterScreen

/-! # The dates of a filter

The filter widgets of the modules have pairs of date pickers. Picking the first date removes a second one that is before
it, and the second picker starts at the first date. What the pickers write into the values of the filter screen. -/

namespace NextApp
open DateText

/-- Two date pickers of a filter widget. -/
structure DateRange where
  fromKey : String
  toKey : String
  /-- the filter that is removed where it is before the first date -/
  checkKey : String
  /-- the filter that the second picker starts at -/
  firstKey : String
  /-- each picker has a time picker beside it -/
  timed : Bool := false
deriving DecidableEq

def dateRange (fromKey toKey : String) : DateRange where
  fromKey
  toKey
  checkKey := toKey
  firstKey := fromKey

/-- The date pickers of `filterWidget`. -/
def ModuleType.dateRanges : ModuleType → List DateRange
  | lead | purchaseInvoice | employee | employeeAdvance | expenseClaim => [dateRange "filter4" "filter5"]
  | opportunity | quotation | purchaseReceipt | loanApplication => [dateRange "filter5" "filter6"]
  | salesOrder => [dateRange "filter5" "filter6", dateRange "filter7" "filter8"]
  | salesInvoice | customerVisit | stockEntry | deliveryNote | supplierQuotation | purchaseOrder | attendanceRequest =>
    [dateRange "filter3" "filter4"]
  | leaveApplication => [dateRange "filter6" "filter7"]
  | journalEntry => [dateRange "filter2" "filter3"]
  -- the second picker starts at its own date
  | paymentEntry => [{ dateRange "filter6" "filter7" with firstKey := "filter7" }]
  -- the warehouse is taken for the second date
  | materialRequest => [{ dateRange "filter4" "filter5" with checkKey := "filter3" }]
  | employeeCheckin => [{ dateRange "filter3" "filter4" with timed := true }]
  | customer | address | contact | item | supplier | task | timesheet | project | issue | workflow | bom | jobCard => []

def ModuleType.dateKeys (m : ModuleType) : List String := m.dateRanges.flatMap fun r => [r.fromKey, r.toKey]

/-- `value.toString().split("T")[0]` -/
def datePart (text : String) : String := String.ofList (text.toList.takeWhile (· ≠ 'T'))

/-- The date of a filter, none where it is not set. -/
def dateAt (values : Doc) (key : String) : Option DateTime := (Doc.at values key).asString?.bind parse

/-- The filter screen, with the state of the filter widget in it. -/
structure FilterDates where
  screens : FilterScreens
  /-- the values that the widget has been built with -/
  built : Doc := []
  timeFrom : Option TimeOfDay := none
  timeTo : Option TimeOfDay := none

/-- A rebuild that nothing forces is an event of its own. -/
inductive FilterDatesEvent where
  | screen (e : FilterScreenEvent)
  | rebuild
  | pickFrom (r : DateRange) (d : Date)
  | pickTo (r : DateRange) (d : Date)
  | pickTimeFrom (r : DateRange) (now : Date) (t : TimeOfDay)
  | pickTimeTo (r : DateRange) (now : Date) (t : TimeOfDay)
  | clearFrom (r : DateRange)
  | clearTo (r : DateRange)

namespace FilterDates

/-- The values of the filter screen, where it is open. -/
def values? (s : FilterDates) : Option Doc :=
  s.screens.screen.bind fun screen => if screen.1 = .filter then some screen.2 else none

def setValues (s : FilterDates) (values : Doc) : FilterDates :=
  { s with screens := { s.screens with screen := some (.filter, values) } }

def rebuilt (s : FilterDates) (values : Doc) : FilterDates := { s.setValues values with built := values }

/-- The text of a date with the time that has been picked beside it. -/
def stampText (d : Date) : Option TimeOfDay → String
  | none => d.iso
  | some t => datePart d.iso ++ "T" ++ t.text

/-- `_values[key]` with another time, or today with it. -/
def timeText (values : Doc) (key : String) (now : Date) (t : TimeOfDay) : String :=
  datePart ((Doc.at values key).asString?.getD now.iso) ++ "T" ++ t.text

/-- The dates that the second picker offers. -/
def allows (r : DateRange) (built : Doc) (d : Date) : Bool :=
  match Doc.at built r.firstKey with
  | .null => true
  | value => (value.asString?.bind parse).any fun first => first.micros / 86400000000 ≤ d.dayNumber

/-- `onChanged` of the first date picker: where the filter that it compares is no date it throws, before the rebuild. -/
def fromChanged (r : DateRange) (value : String) (s : FilterDates) (values : Doc) : FilterDates :=
  let values := values.set r.fromKey (.str value)
  match Doc.at values r.checkKey with
  | .null => s.rebuilt values
  | check =>
    match check.asString?.bind parse, parse value with
    | some second, some first => s.rebuilt (if second.micros < first.micros then values.remove r.checkKey else values)
    | _, _ => s.setValues values

/-- A screen that opens builds its widget anew. -/
def reopened (screens : FilterScreens) : FilterDates where
  screens
  built := screens.screen.elim [] Prod.snd

/-- The other filters of the widget: `edit` writes none of the dates. -/
def screenStep (m : ModuleType) (s : FilterDates) (e : FilterScreenEvent) : Option FilterDates :=
  match e with
  | .edit key _ => if key.1 ∈ m.dateKeys then none else (s.screens.step e).map fun screens => { s with screens }
  | .open _ | .clear => (s.screens.step e).map reopened
  | .sortField _ | .sortType _ | .apply | .back => (s.screens.step e).map fun screens => { s with screens }

/-- An event of the open filter screen, on a date range that its widget has. -/
def onRange (m : ModuleType) (s : FilterDates) (r : DateRange) (f : Doc → FilterDates) : Option FilterDates :=
  if r ∈ m.dateRanges then s.values?.map f else none

def step (m : ModuleType) (s : FilterDates) : FilterDatesEvent → Option FilterDates
  | .screen e => s.screenStep m e
  | .rebuild => s.values?.map s.rebuilt
  | .pickFrom r d => s.onRange m r fun values => s.fromChanged r (stampText d s.timeFrom) values
  | .pickTo r d =>
    if allows r s.built d then
      s.onRange m r fun values => s.rebuilt (values.set r.toKey (.str (stampText d s.timeTo)))
    else none
  | .pickTimeFrom r now t =>
    if r.timed then
      s.onRange m r fun values =>
        { s with timeFrom := some t }.rebuilt (values.set r.fromKey (.str (timeText values r.fromKey now t)))
    else none
  | .pickTimeTo r now t =>
    if r.timed then
      s.onRange m r fun values =>
        { s with timeTo := some t }.rebuilt (values.set r.toKey (.str (timeText values r.toKey now t)))
    else none
  | .clearFrom r => s.onRange m r fun values => s.setValues (values.remove r.fromKey)
  | .clearTo r => s.onRange m r fun values => s.setValues (values.remove r.toKey)

end FilterDates

end NextApp
