import NextApp.Lib.DateText
import NextApp.Lib.Polled
import NextApp.Lib.Runs
import NextApp.Model.Report

/-! # The dashboard

`DashboardScreen` shows the chart and the totals of a period, each from a bloc of its own. Another period is picked in a dialog of
`GetTotalWidget`; the dates go into two local variables of the builder of the totals, which begin anew when it runs again. -/

namespace NextApp
open DateText

structure TotalFilters where
  fromDate : String
  toDate : String
deriving DecidableEq, Repr

/-- The variables of one run of the builder, and when it ran. -/
structure PeriodVariables where
  now : DateTime
  fromDate : DateTime
  toDate : DateTime
deriving DecidableEq

/-- The dialog: the run of the builder that its button is from, and what its fields show. -/
structure PeriodDialog where
  run : Nat
  fromDate : Option Date := none
  toDate : Option Date := none
deriving DecidableEq

/-- What the two data sources get for a period. -/
structure DashboardServer (χ τ : Type*) where
  getDashboardData : TotalFilters → χ
  getTotalData : TotalFilters → τ

inductive DashboardReply where
  | answer
  | failure (errorMessage : String)
  /-- an error that the repository lets through: nothing is emitted -/
  | uncaught
deriving DecidableEq, Repr

structure Dashboard (χ τ : Type*) where
  chart : Polled TotalFilters χ
  totals : Polled TotalFilters τ
  getTotalState : RequestState := .loading
  getDashboardMessage : String := ""
  mounted : Bool := false
  /-- the runs of the builder, the last one last -/
  runs : List PeriodVariables := []
  dialog : Option PeriodDialog := none
  /-- the period that has been asked for last -/
  period : Option TotalFilters := none

inductive DashboardEvent where
  | enter (now : DateTime)
  | leave
  | refresh (now : DateTime)
  | openFilter
  | pickFrom (d : Date)
  | pickTo (d : Date)
  | apply
  | dismiss
  | answerChart (index : Nat)
  | answerTotals (index : Nat)
  | chartReply (index : Nat) (reply : DashboardReply)
  | totalsReply (index : Nat) (reply : DashboardReply) (now : DateTime)

/-- `DateFormat('yyyy-MM-dd')` -/
def formatDateYMD (t : DateTime) : String :=
  let (year, month, day) := Calendar.civil (t.micros / 86400000000)
  String.ofList (padLeft 4 year.natAbs ++ '-' :: (padLeft 2 month.natAbs ++ '-' :: padLeft 2 day.natAbs))

namespace PeriodVariables

/-- `DateTime.now()` for both, taken as one. -/
def ofNow (now : DateTime) : PeriodVariables := ⟨now, now, now⟩

def filters (v : PeriodVariables) : TotalFilters := ⟨v.fromDate.toString, v.toDate.toString⟩

/-- `onChanged` of a date field, with the text of the picked date. -/
def setFrom (v : PeriodVariables) (value : String) : PeriodVariables :=
  (parse value).elim v fun date => { v with fromDate := date }

def setTo (v : PeriodVariables) (value : String) : PeriodVariables :=
  (parse value).elim v fun date => { v with toDate := date }

end PeriodVariables

namespace Dashboard
variable {χ τ : Type*}

def ask (s : Dashboard χ τ) (dateFilter : TotalFilters) : Dashboard χ τ :=
  { s with chart := s.chart.ask dateFilter, totals := s.totals.ask dateFilter, period := some dateFilter }

def askToday (s : Dashboard χ τ) (now : DateTime) : Dashboard χ τ := s.ask ⟨formatDateYMD now, formatDateYMD now⟩

def rebuilt (s : Dashboard χ τ) (now : DateTime) : Dashboard χ τ := { s with runs := s.runs ++ [.ofNow now] }

/-- The `TotalState`: one that is equal to the state before is not emitted. -/
def totalState (s : Dashboard χ τ) : RequestState × String × τ := (s.getTotalState, s.getDashboardMessage, s.totals.shown)

def emitted [DecidableEq τ] (s t : Dashboard χ τ) (now : DateTime) : Dashboard χ τ :=
  if t.mounted ∧ t.totalState ≠ s.totalState then t.rebuilt now else t

def onChart (s : Dashboard χ τ) (index : Nat) (query : TotalFilters × Option χ) : DashboardReply → Option (Dashboard χ τ)
  | .answer => query.2.map fun dashboardData => { s with chart := s.chart.arrive index dashboardData }
  | .failure _ | .uncaught => some { s with chart := s.chart.arrive index s.chart.shown }

def onTotals [DecidableEq τ] (s : Dashboard χ τ) (index : Nat) (query : TotalFilters × Option τ) (now : DateTime) :
    DashboardReply → Option (Dashboard χ τ)
  | .answer => query.2.map fun totalList =>
    emitted s { s with totals := s.totals.arrive index totalList, getTotalState := .success } now
  | .failure errorMessage => some (emitted s { s with
      totals := s.totals.arrive index s.totals.shown, getTotalState := .error, getDashboardMessage := errorMessage } now)
  | .uncaught => some { s with totals := s.totals.arrive index s.totals.shown }

variable (server : DashboardServer χ τ)

/-- While the dialog is open nothing else is tapped on. -/
def step [DecidableEq τ] (s : Dashboard χ τ) : DashboardEvent → Option (Dashboard χ τ)
  | .enter now => if s.mounted then none else some (({ s with mounted := true }.askToday now).rebuilt now)
  | .leave => if s.mounted ∧ s.dialog = none then some { s with mounted := false } else none
  | .refresh now => if s.mounted ∧ s.dialog = none then some (s.askToday now) else none
  | .openFilter =>
    if s.mounted ∧ s.dialog = none ∧ s.runs ≠ [] then some { s with dialog := some { run := s.runs.length - 1 } } else none
  | .pickFrom d => s.dialog.map fun dialog =>
      { s with dialog := some { dialog with fromDate := some d }, runs := s.runs.modify dialog.run (·.setFrom d.iso) }
  | .pickTo d => s.dialog.map fun dialog =>
      { s with dialog := some { dialog with toDate := some d }, runs := s.runs.modify dialog.run (·.setTo d.iso) }
  | .apply => s.dialog.bind fun dialog => s.runs[dialog.run]?.map fun v => { s with dialog := none }.ask v.filters
  | .dismiss => s.dialog.map fun _ => { s with dialog := none }
  | .answerChart index => some { s with chart := s.chart.answer server.getDashboardData index }
  | .answerTotals index => some { s with totals := s.totals.answer server.getTotalData index }
  | .chartReply index reply => s.chart.queries[index]?.bind fun query => s.onChart index query reply
  | .totalsReply index reply now => s.totals.queries[index]?.bind fun query => s.onTotals index query now reply

end Dashboard

end NextApp
