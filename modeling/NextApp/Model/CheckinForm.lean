import NextApp.Model.ModuleForm

/-! # The employee checkin form

`submit` of `EmployeeCheckinFrom` puts the time together from two keys of the data, which it then removes. The date and the
time of the form cannot be picked: their pickers are disabled. -/

namespace NextApp

/-- A date and a time of day that a blank can stand between. -/
structure TimeStamp where
  date : String
  time : String
  date_blank : ' ' ∉ date.toList
  time_blank : ' ' ∉ time.toList

def TimeStamp.text (s : TimeStamp) : String := s.date ++ " " ++ s.time

/-- What a submit finds: the position of the device with the placemarks found for it, and the text of the field. -/
structure CheckinAttempt where
  latitude : Float
  longitude : Float
  /-- `subAdministrativeArea` of each -/
  placeman : List Value
  deviceId : String

namespace CheckinForm

/-- The data of a new form, with the time at which it was opened. -/
def newData (now : String) (s : TimeStamp) : Doc :=
  [("doctype", .str "Employee Checkin"), ("time", .str now), ("skip_auto_attendance", .int 0), ("log_type", .str "IN"),
    ("time_only", .str s.time), ("date_only", .str s.date), ("latitude", .double 0), ("longitude", .double 0)]

/-- The texts between the blanks. -/
def split (text : String) : List String := (text.toList.splitOn ' ').map String.ofList

/-- The callback of `initState` in a form that edits or duplicates: the data is `updateData`. -/
def load (data : Doc) : Outcome Doc :=
  let data := (data.set "latitude" (.double 0)).set "longitude" (.double 0)
  .need data (Doc.at data "time").asString? fun time =>
  .need data (split time)[1]? fun timeOnly =>
  let data := data.set "time_only" (.str timeOnly)
  .need data (split time)[0]? fun dateOnly =>
  .done (data.set "date_only" (.str dateOnly))

/-- The data of the form once it is open. -/
def openForm (p : ModuleProvider) (now : String) (s : TimeStamp) (page : Doc) : Doc :=
  if p.editPage || p.duplicateMode then (load (page.set "time" (.str s.text))).state else newData now s

/-- `_formKey.currentState!.save()`: the field of the device is built where there is a `leaver_approver`. -/
def saveFields (a : CheckinAttempt) (data : Doc) : Doc :=
  match Doc.at data "leaver_approver" with
  | .null => data
  | _ => data.set "device_id" (.str a.deviceId)

/-- Where a check-in that is not edited takes place; `placeman[0]` may throw. -/
def locate (a : CheckinAttempt) (data : Doc) : Outcome Doc :=
  let data := (data.set "latitude" (.double a.longitude)).set "longitude" (.double a.latitude)
  .need data a.placeman.head? fun area => .done (data.set "location" area)

def composeTime (data : Doc) : Outcome Doc :=
  .need data (Doc.at data "date_only").asString? fun dateOnly =>
  .need data (Doc.at data "time_only").asString? fun timeOnly =>
  .done (((data.set "time" (.str (dateOnly ++ " " ++ timeOnly))).remove "time_only").remove "date_only")

/-- A submit of valid fields: none when it returns before the request. The request gets the data that it is done with. -/
def submit (p : ModuleProvider) (a : CheckinAttempt) (data : Doc) : Option (Outcome Doc) :=
  if a.latitude = 0 ∧ a.longitude = 0 then none
  else some <|
    (p.initializeDuplicationMode data).bind fun data =>
    let data := saveFields a data
    (if p.editPage then .done data else locate a data).bind composeTime

/-- Submits that fail one after the other, each with what it has sent. -/
def submits (p : ModuleProvider) (data : Doc) : List CheckinAttempt → List (CheckinAttempt × Option Doc)
  | [] => []
  | a :: as =>
    match submit p a data with
    | none => (a, none) :: submits p data as
    | some (.threw data) => (a, none) :: submits p data as
    | some (.done data) => (a, some data) :: submits p data as

end CheckinForm

end NextApp
