import NextApp.Lib.DateText
import NextApp.Model.ModuleProvider

/-! # The days of a leave

The date pickers and the check box of `LeaveApplicationForm`. A date that is picked is set as the text of `toIso8601String`,
where a loaded document has dates of the form `yyyy-MM-dd`. -/

namespace NextApp
open DateText

structure LeaveForm where
  data : Doc
  /-- a callback has thrown -/
  threw : Bool := false
deriving DecidableEq

inductive LeaveEvent where
  | fromDate (d : Date)
  | toDate (d : Date)
  | halfDay (value : Bool)
  | halfDayDate (d : Date)
deriving DecidableEq

/-- `==` of a value and a number. -/
def Value.isNumber (v : Value) (i : Int) : Bool := v.rational? = some i

/-- `DateTime.tryParse(value)!` -/
def readDate (v : Value) : Option DateTime := v.asString?.bind parse

/-- The text of a number of days, which half a day is taken from if it is a `double`. -/
def daysText (days : Int) (half : Bool) : String :=
  if half then String.ofList (decimal (days ≤ 0) (if days ≤ 0 then -days else days - 1).toNat ['5'])
  else String.ofList (decimal (days < 0) days.natAbs [])

namespace LeaveForm

/-- What the callbacks of both dates do first. -/
def setDate (key : String) (d : Date) (data : Doc) : Doc :=
  let data := data.set key (.str d.iso)
  let data := if Doc.at data "half_day_date" ≠ .null then data.remove "half_day_date" else data
  if Doc.at data "from_date" = Doc.at data "to_date" then data.set "half_day_date" (Doc.at data "from_date") else data

/-- The days between the two dates, both included, where `half_day` is looked at. -/
def totalLeaveDays (data : Doc) : Option String :=
  (readDate (Doc.at data "to_date")).bind fun toDate =>
  (readDate (Doc.at data "from_date")).map fun fromDate =>
    daysText (daysBetween fromDate toDate + 1) !(Doc.at data "half_day").isNumber 0

def toDateChanged (d : Date) (s : LeaveForm) : LeaveForm :=
  let data := setDate "to_date" d s.data
  match totalLeaveDays data with
  | some text => { s with data := data.set "total_leave_days" (.str text) }
  | none => { data, threw := true }

/-- A date from which on, or up to which, the picker offers dates. -/
def offers (v : Value) (d : Date) (before : Bool) : Bool :=
  (readDate v).all fun bound =>
    if before then micros d.dayNumber 0 0 0 0 ≤ bound.micros else bound.micros ≤ micros d.dayNumber 0 0 0 0

def step (s : LeaveForm) : LeaveEvent → Option LeaveForm
  | .fromDate d => some { s with data := setDate "from_date" d s.data }
  | .toDate d => some (s.toDateChanged d)
  | .halfDay value => some { s with data := s.data.set "half_day" (.int (if value then 1 else 0)) }
  | .halfDayDate d =>
    if (Doc.at s.data "half_day").isNumber 1 ∧ offers (Doc.at s.data "from_date") d false ∧ offers (Doc.at s.data "to_date") d true then
      some { s with data := s.data.set "half_day_date" (.str d.iso) }
    else none

/-- A date of a loaded document. -/
def loadedDate : Option Date → Value
  | none => .null
  | some d => .str d.ymd

/-- A form that was opened on a document with these dates. -/
def openForm (page : Doc) (fromDate toDate halfDayDate : Option Date) : LeaveForm where
  data := ((page.set "from_date" (loadedDate fromDate)).set "to_date" (loadedDate toDate)).set "half_day_date"
    (loadedDate halfDayDate)

/-- The data of a new form. -/
def newData (postingDate : String) : Doc :=
  [("doctype", .str "Leave Application"), ("posting_date", .str postingDate), ("status", .str "Open"), ("half_day", .int 0)]

end LeaveForm

end NextApp
