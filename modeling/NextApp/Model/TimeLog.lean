import NextApp.Lib.DateText
import NextApp.Lib.Outcome
import NextApp.Model.Value

/-! # The times of a time log

In `AddTimeSheetDialog` and `TimingDetailsDialog` a date picker and a time picker write the same field of the map that the
dialog keeps: one sets it, the other appends to it. -/

namespace NextApp
open DateText

/-- `throws` is `none`: the text is no date. -/
def formateToReadableDate (value : String) : Option String := (parse value).map formatDate

inductive TimeLogDialog where
  | addTimeSheetDialog
  | timingDetailsDialog
deriving DecidableEq

namespace TimeLogDialog

/-- The fields that a date picker and a time picker share. -/
def fields : TimeLogDialog → List String
  | addTimeSheetDialog => ["from_time"]
  | timingDetailsDialog => ["from_time", "to_time"]

end TimeLogDialog

inductive TimePick where
  | date (d : Date)
  | time (t : TimeOfDay)
deriving DecidableEq

namespace TimeLog

/-- `onChanged` of a date picker, which gets the date as `toIso8601String`. -/
def dateChanged (key value : String) (data : Doc) : Outcome Doc :=
  Outcome.need data (formateToReadableDate value) fun text => .done (data.set key (.str text))

/-- `onChanged` of a time picker, which gets the time by `formatTime`: `+` of an unset field throws. -/
def timeChanged (key value : String) (data : Doc) : Outcome Doc :=
  Outcome.need data (data.at key).asString? fun text => .done (data.set key (.str (text ++ "T" ++ value)))

def pick (key : String) (data : Doc) : TimePick → Outcome Doc
  | .date d => dateChanged key d.iso data
  | .time t => timeChanged key t.text data

/-- The picks in a dialog that was opened with the data, until one throws. -/
def picks {dialog : TimeLogDialog} (data : Doc) (es : List ({key // key ∈ dialog.fields} × TimePick)) : Outcome Doc :=
  es.foldl (fun o e => o.bind fun data => pick e.1 data e.2) (.done data)

end TimeLog

end NextApp
