import NextApp.Lib.DateText
import NextApp.Lib.Runs
import NextApp.Model.NumericField

/-! # The date picker and the time picker

`DatePickerTest` and `TimePickerTest` show their `initialValue` as a text that they read back when they are tapped.
`initState` makes the text of the first value, an update that runs after the build that of a later one. -/

namespace NextApp
open DateText

/-- `value.split(sep)[i]`: none when it throws. -/
def part? (sep : Char) (i : Nat) (value : String) : Option String := ((value.toList.splitOn sep).map String.ofList)[i]?

/-- `toString()` of an int. -/
def intText (i : Int) : List Char := decimal (i < 0) i.natAbs []

/-- `'${date.day}/${date.month}/${date.year}'` -/
def ListCard.formatDate (date : DateTime) : String :=
  let (year, month, day) := Calendar.civil (date.micros / 86400000000)
  String.ofList (intText day ++ '/' :: (intText month ++ '/' :: intText year))

/-- What makes the texts of a picker of `α`, where `none` throws, and what it passes on; it opens on `β`. -/
structure TextPicker (α β : Type) where
  initState : Option String → Option String
  update : Option String → Option String
  /-- the text after a pick, and the value that `onChanged` gets -/
  format : α → String
  emit : α → String
  /-- what the dialog is opened with is in range -/
  opens : β → String → Prop

namespace DatePickerTest

def initState : Option String → Option String
  | none => some ""
  | some value =>
    if 'T' ∈ value.toList then (parse value).map ListCard.formatDate
    else if ' ' ∈ value.toList then
      (part? ' ' 0 value).bind fun date =>
      (part? ' ' 1 value).bind fun time => (parse (date ++ "T" ++ time)).map ListCard.formatDate
    else (parse value).map ListCard.formatDate

def update : Option String → Option String
  | none => some ""
  | some value =>
    if 'T' ∈ value.toList then if value.isEmpty then some "" else (parse value).map ListCard.formatDate
    else if ' ' ∈ value.toList then
      (part? ' ' 0 value).bind fun date =>
      (part? ' ' 1 value).bind fun time => (parse (date ++ "T" ++ time)).map ListCard.formatDate
    else (parse value).map ListCard.formatDate

/-- The year, the month and the day that the picker reads back from its text. -/
def readDay (text : String) : Option (Int × Int × Int) :=
  ((part? '/' 2 text).bind intOfText).bind fun year =>
  ((part? '/' 1 text).bind intOfText).bind fun month =>
  ((part? '/' 0 text).bind intOfText).map fun day => (year, month, day)

/-- The day of a tap, and the days that the picker is given. -/
structure Bounds where
  now : Date
  firstDate : Option Int
  lastDate : Option Int

namespace Bounds

def first (b : Bounds) : Int := b.firstDate.getD (Calendar.dayNumber (b.now.year - 1) 1 1)

def last (b : Bounds) : Int := b.lastDate.getD (Calendar.dayNumber (b.now.year + 5) 1 1)

/-- The day that `showDatePicker` gets as `initialDate`. -/
def initialDate (b : Bounds) (text : String) : Option Int :=
  if text.isEmpty then some (b.firstDate.getD b.now.dayNumber)
  else (readDay text).map fun day => Calendar.dayNumber day.1 day.2.1 day.2.2

end Bounds

def picker : TextPicker Date Bounds where
  initState := initState
  update := update
  format d := ListCard.formatDate ⟨micros d.dayNumber 0 0 0 0, false⟩
  emit d := d.iso
  opens b text := ∃ day, b.initialDate text = some day ∧ b.first ≤ day ∧ day ≤ b.last

end DatePickerTest

namespace TimePickerTest

/-- The hour and the minute of the part after `sep`. -/
def hourMinute (sep : Char) (value : String) : Option String :=
  (part? sep 1 value).bind fun time =>
  (part? ':' 0 time).bind fun hour =>
  (part? ':' 1 time).map fun minute => hour ++ ":" ++ minute ++ ":00"

def initState : Option String → Option String
  | none => some ""
  | some value =>
    if 'T' ∈ value.toList then hourMinute 'T' value
    else if ' ' ∈ value.toList then hourMinute ' ' value
    else some value

/-- What is no ISO text is taken for a date and a time. -/
def update : Option String → Option String
  | none => some ""
  | some value =>
    if 'T' ∈ value.toList then if value.isEmpty then some "" else hourMinute 'T' value
    else if value.isEmpty then some "" else hourMinute ' ' value

/-- The hour and the minute that the picker reads back from its text. -/
def readTime (text : String) : Option (Int × Int) :=
  ((part? ':' 0 text).bind intOfText).bind fun hour =>
  ((part? ':' 1 text).bind intOfText).map fun minute => (hour, minute)

/-- `showTimePicker` has no range. -/
def picker : TextPicker TimeOfDay Unit where
  initState := initState
  update := update
  format t := t.text
  emit t := t.text
  opens _ _ := True

end TimePickerTest

/-! ### The run of a picker -/

/-- The values that a form passes on. -/
inductive PickerValue where
  | null
  | empty
  | date (d : Date)
  | iso (d : Date) (t : Clock) (utc : Bool)
  | dateTime (d : Date) (t : Clock)
  | time (t : Clock)
deriving DecidableEq

def PickerValue.text : PickerValue → Option String
  | null => none
  | empty => some ""
  | date d => some d.ymd
  | iso d t utc => some (d.ymd ++ "T" ++ t.text ++ String.ofList (zoneText utc))
  | dateTime d t => some (d.ymd ++ " " ++ t.text)
  | time t => some t.text

structure PickerField where
  initialValue : PickerValue
  text : String
  /-- the updates of `didUpdateWidget` that have not run yet -/
  updates : Nat := 0
  threw : Bool := false
deriving DecidableEq

inductive PickerEvent (α β : Type) where
  | parent (value : PickerValue)
  /-- a tap; with a pick, `onChanged` is called and the form passes a value on -/
  | tap (b : β) (pick : Option (α × PickerValue))
  | update

namespace PickerField
variable {α β : Type} (p : TextPicker α β)

def mounted (value : PickerValue) : PickerField :=
  match p.initState value.text with
  | some text => { initialValue := value, text }
  | none => { initialValue := value, text := "", threw := true }

/-- `didUpdateWidget` -/
def pass (s : PickerField) (value : PickerValue) : PickerField :=
  if s.initialValue.text = value.text then s else { s with initialValue := value, updates := s.updates + 1 }

/-- An update that throws leaves the text. -/
def update (s : PickerField) : PickerField :=
  match p.update s.initialValue.text with
  | some text => { s with text, updates := s.updates - 1 }
  | none => { s with updates := s.updates - 1, threw := true }

def step (s : PickerField) : PickerEvent α β → Option PickerField
  | .parent value => some (s.pass value)
  | .tap _ none => some s
  | .tap _ (some (x, value)) => some ({ s with text := p.format x }.pass value)
  | .update => if 0 < s.updates then some (update p s) else none

end PickerField

end NextApp
