import NextApp.Lib.Runs

/-! # The field of a link

`CustomDropDownFromField` shows its own last pick, or else the value it gets from the data of the form, in a
`CustomTextFieldTest`, which cannot be typed into. The text of that field follows its `initialValue` by updates that run
after the build. -/

namespace NextApp

/-- A `CustomTextFieldTest` as it is built. -/
structure LinkText where
  initialValue : Option String
  text : String
  /-- the updates of `didUpdateWidget` that have not run yet -/
  updates : Nat := 0
deriving DecidableEq

namespace LinkText

def initState (initialValue : Option String) : LinkText := ⟨initialValue, initialValue.getD "", 0⟩

/-- `liestenToInitialValue` is not given. -/
def didUpdateWidget (t : LinkText) (initialValue : Option String) : LinkText :=
  { t with
    initialValue
    updates := if t.initialValue ≠ initialValue ∧ initialValue ≠ some t.text then t.updates + 1 else t.updates }

/-- A delayed update sets the text to the `initialValue` of the widget there is by then. -/
def update (t : LinkText) : LinkText := { t with text := t.initialValue.getD "", updates := t.updates - 1 }

/-- The clear button has no `onClear` to call. -/
def clear (t : LinkText) : LinkText := { t with text := "" }

end LinkText

structure LinkField where
  /-- the value in the data of the form, with the value as the form last passed it on -/
  data : Option String
  defaultValue : Option String
  selectedValue : Option String
  field : LinkText
deriving DecidableEq

inductive LinkEvent where
  /-- a record is picked; `onChange` stores its name, unless it awaits a request before, and builds the form anew or not -/
  | pick (name : String) (awaits setState : Bool)
  | clear
  /-- the form stores another value and builds anew: another field, or an `onChange` that has awaited its request -/
  | change (value : Option String)
  /-- the field builds anew, with the form or without it -/
  | rebuild (form : Bool)
  | update
deriving DecidableEq

namespace LinkField

/-- A field as it is first built. -/
def mounted (data : Option String) : LinkField := ⟨data, data, none, .initState data⟩

def build (s : LinkField) (form : Bool) : LinkField :=
  let defaultValue := if form then s.data else s.defaultValue
  { s with defaultValue, field := s.field.didUpdateWidget (s.selectedValue.or defaultValue) }

def step (s : LinkField) : LinkEvent → Option LinkField
  | .pick name awaits setState =>
    some (build { s with data := if awaits then s.data else some name, selectedValue := some name } (setState && !awaits))
  | .clear => some { s with field := s.field.clear }
  | .change value => some (build { s with data := value } true)
  | .rebuild form => some (s.build form)
  | .update => if 0 < s.field.updates then some { s with field := s.field.update } else none

end LinkField

end NextApp
