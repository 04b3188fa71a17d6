import Mathlib.Logic.Function.Basic
import NextApp.Lib.PageView
import NextApp.Model.Value

/-! # Forms of several pages

`CustomPageViewForm` shows one page of a form at a time, each in a `Form` of its own. Save saves the fields of
the page on show and then submits; the outer form, which `submit` saves, has no fields. A field's text lives
as long as its page is built, and starts from its `initialValue`. `κ` are the places of the form's data that its
text fields save into, `ν` what they save. -/

namespace NextApp

/-- A `CustomTextFieldTest` with an `onSave` handler. -/
structure Field (κ ν : Type*) where
  page : Nat
  /-- `onSave` stores `value text` at `place`. -/
  place : κ
  value : String → ν
  initialValue : Dict κ ν → Option String
  liestenToInitialValue : Bool := false
  /-- what the handler writes into the data for a text -/
  onChanged : Option (String → Dict κ ν → Dict κ ν) := none
  /-- the `onChanged` handler calls `setState` -/
  setState : Bool := false
  clearButton : Bool := false
  /-- what the handler writes into the data -/
  onClear : Option (Dict κ ν → Dict κ ν) := none
  /-- the `onClear` handler calls `setState` -/
  clearSetsState : Bool := false

structure PageViewForm (κ ν : Type*) where
  pages : Nat
  fields : List (Field κ ν)
  /-- the page is a widget of its own: it reads the data when it is built, and `setState` builds it alone -/
  own : Nat → Bool := fun _ => false
  two_le : 2 ≤ pages := by decide
  page_lt : ∀ f ∈ fields, f.page < pages
  places : (fields.map Field.place).Nodup

inductive PageViewEvent where
  | next
  | back
  | edit (i : Nat) (text : String)
  | clear (i : Nat)
deriving DecidableEq

structure PageViewState (κ ν : Type*) where
  currentPage : Nat
  data : Dict κ ν
  /-- the data that each page was built from -/
  built : Nat → Dict κ ν
  text : Nat → String

namespace PageViewForm
variable {κ ν : Type*} (form : PageViewForm κ ν)

def initText (f : Field κ ν) (data : Dict κ ν) : String := (f.initialValue data).getD ""

def init (data : Dict κ ν) : PageViewState κ ν where
  currentPage := 0
  data := data
  built _ := data
  text i := (form.fields[i]?).elim "" fun f => initText f data

/-- What a page that comes into view starts from: the form's last build, or the data where it is a widget of its own. -/
def start (s : PageViewState κ ν) (page : Nat) : Dict κ ν := if form.own page then s.data else s.built page

/-- The pages within one of the current page are built; a field on a page built anew starts anew. -/
def moveTo (s : PageViewState κ ν) (page : Nat) : PageViewState κ ν :=
  { s with
    currentPage := page
    built := fun p => if form.own p ∧ PageView.Mounts s.currentPage page p then s.data else s.built p
    text := fun i => (form.fields[i]?).elim (s.text i) fun f =>
      if PageView.Mounts s.currentPage page f.page then initText f (form.start s f.page) else s.text i }

/-- `didUpdateWidget`: an `initialValue` other than the text replaces it, where it has changed or the field listens to it.
    Its delay of no seconds is over before the next event. -/
def updateText (f : Field κ ν) (old new : Dict κ ν) (text : String) : String :=
  if (f.initialValue old ≠ f.initialValue new ∨ f.liestenToInitialValue) ∧ f.initialValue new ≠ some text then initText f new
  else text

/-- `setState` on a page builds the form anew, or this page alone. -/
def builds (page p : Nat) : Bool := !form.own page || p = page

/-- The fields on the pages that are in view are updated. -/
def rebuild (s : PageViewState κ ν) (page : Nat) : PageViewState κ ν :=
  { s with
    built := fun p => if form.builds page p then s.data else s.built p
    text := fun i => (form.fields[i]?).elim (s.text i) fun f =>
      if PageView.Mounted s.currentPage f.page ∧ form.builds page f.page then updateText f (s.built f.page) s.data (s.text i)
      else s.text i }

variable [DecidableEq κ]

/-- A text comes into a field, and its handler writes into the data. -/
def put (f : Field κ ν) (s : PageViewState κ ν) (i : Nat) (text : String) (writes : Dict κ ν) (setState : Bool) :
    PageViewState κ ν :=
  let s := { s with text := Function.update s.text i text, data := s.data.addAll writes }
  if setState then form.rebuild s f.page else s

/-- What a press or an edit does. Next is let through by the validators of the page on show. -/
def step (s : PageViewState κ ν) : PageViewEvent → Option (PageViewState κ ν)
  | .next => if s.currentPage + 1 < form.pages then some (form.moveTo s (s.currentPage + 1)) else none
  | .back => if 0 < s.currentPage then some (form.moveTo s (s.currentPage - 1)) else none
  | .edit i text => form.fields[i]?.bind fun f =>
    if f.page = s.currentPage then
      some (form.put f s i text (f.onChanged.elim [] fun onChanged => onChanged text s.data) (f.onChanged.isSome && f.setState))
    else none
  | .clear i => form.fields[i]?.bind fun f =>
    -- the clear button sets the controller's text, which calls no `onChanged`
    if f.page = s.currentPage ∧ f.clearButton then
      some (form.put f s i "" (f.onClear.elim [] fun onClear => onClear s.data) (f.onClear.isSome && f.clearSetsState))
    else none

/-- The entries that Save stores: those of the fields on the page on show, in their order. -/
def saved (s : PageViewState κ ν) : Dict κ ν :=
  (form.fields.zipIdx.filter fun f => f.1.page = s.currentPage).map fun f => (f.1.place, f.1.value (s.text f.2))

def submitted (s : PageViewState κ ν) : Dict κ ν := s.data.addAll (form.saved s)

end PageViewForm

/-! ### The purchase order form -/

/-- `double.tryParse(value) ?? 1` -/
def exchangeRate (value : String) : Value :=
  match doubleTryParse value with
  | some q => .double q
  | none => .int 1

/-- `'${data['conversion_rate'] ?? '1'}'`, where `toText` is the text of a value in a string. -/
def rateText (toText : Value → String) (data : Doc) : String :=
  match Doc.at data "conversion_rate" with
  | .null => "1"
  | v => toText v

/-- The text fields of the four pages of `PurchaseOrderForm`. -/
def purchaseOrderForm (toText : Value → String) : PageViewForm String Value where
  pages := 4
  fields :=
    [ { page := 1
        place := "conversion_rate"
        value := exchangeRate
        initialValue := fun data => some (rateText toText data)
        clearButton := true },
      { page := 1
        place := "plc_conversion_rate"
        value := exchangeRate
        initialValue := fun data => some (rateText toText data)
        clearButton := true } ]
  page_lt := by simp
  places := by simp

end NextApp
