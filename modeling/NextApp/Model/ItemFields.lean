import NextApp.Lib.Slots
import NextApp.Model.ItemTable
import NextApp.Model.LinkField
import NextApp.Model.NumericField
import NextApp.Model.PickerField

/-! # The fields of the item table

The rows of the item table of a sales invoice under `AddItemsWidget`: the fields of their quantities, which keep their text by
their place in the list, and the Save button, which validates the fields that are built. -/

namespace NextApp

/-- `toInt()` of a number: a double is cut off, and put into 64 bits. -/
def toInt (q : ℚ) : Int := max (-2 ^ 63) (min (2 ^ 63 - 1) (q.num.tdiv q.den))

/-- The `initialValue` of the field of a row's quantity; a row that cannot be built has none. -/
def ItemRow.qtyText? (r : ItemRow ℚ) : Option String :=
  if r.amount.isSome then r.qty.map fun q => String.ofList (intText (toInt q)) else none

example : ({ qty := some (-5 / 2), amount := some 0 } : ItemRow ℚ).qtyText? = some "-2" := by decide +kernel

structure ItemFields where
  table : ItemTable := {}
  fields : Slots LinkText := Slots.empty

inductive ItemFieldEvent where
  | pick (item : PickedItem ℚ)
  | loadDocument (row : ItemRow ℚ)
  /-- the rows of the source document, whatever is in them -/
  | loadSource (rows : List (ItemRow ℚ))
  | setReturn (value : Bool)
  /-- another price list -/
  | clear
  | mount (index : Nat)
  | dispose (index : Nat)
  | typeQty (index : Nat) (value : String)
  /-- a delayed update of a field -/
  | update (index : Nat)
  | remove (index : Nat)
  | rebuild
  /-- with the link of the submit, whether it gets past the checks at its beginning, and whether its request succeeds -/
  | save (passes : Bool) (link : Value) (succeeds : Bool)
  | leave

namespace ItemFields

def rows (s : ItemFields) : List (ItemRow ℚ) := s.table.newItemList

def build (s : ItemFields) : ItemFields :=
  { s with
    fields := s.fields.rebuild fun i =>
      (s.rows[i]?.bind ItemRow.qtyText?).map fun text field => field.didUpdateWidget (some text) }

/-- `FormState.validate`: of the fields that are built. -/
def valid (s : ItemFields) : Bool :=
  (List.range s.rows.length).all fun i => (s.fields i).all fun field => (NumericField.qty.validator field.text).isNone

/-- `onChanged` of a quantity: without a number or a rate it throws inside of `setState`, which then builds nothing. -/
def onChanged (s : ItemFields) (index : Nat) (field : LinkText) (value : String) : Option ItemFields :=
  let fields := s.fields.put index { field with text := value }
  match intOfText value with
  | none => some { s with fields }
  | some qty =>
    (s.table.step (.changeQty index (some qty))).map fun table =>
      if s.rows[index]?.any fun r => r.rate.isSome then build { s with table, fields } else { s with table, fields }

/-- The rows that a submit sends. -/
def sent (s : ItemFields) : ItemFieldEvent → Option (List (ItemRow ℚ))
  | .save passes link _ =>
    if s.valid && passes then
      match salesInvoiceForm.writeRows s.table.isReturn link s.rows with
      | .done items => some items
      | .threw _ => none
    else none
  | _ => none

def step (s : ItemFields) : ItemFieldEvent → Option ItemFields
  | .pick item => (s.table.step (.pick item)).map fun table => build { s with table }
  | .loadDocument row => (s.table.step (.loadDocument row)).map fun table => build { s with table }
  | .loadSource rows => some { s with table := { s.table with newItemList := s.rows ++ rows } }
  | .setReturn value => (s.table.step (.setReturn value)).map fun table => build { s with table }
  | .clear => (s.table.step .leave).map fun table => build { s with table }
  | .mount index =>
    if (s.fields index).isNone then
      (s.rows[index]?.bind ItemRow.qtyText?).map fun text => { s with fields := s.fields.put index (.initState (some text)) }
    else none
  | .dispose index => some { s with fields := s.fields.drop index }
  | .typeQty index value => (s.fields index).bind fun field => s.onChanged index field value
  | .update index =>
    (s.fields index).bind fun field =>
      if 0 < field.updates then some { s with fields := s.fields.put index field.update } else none
  | .remove index =>
    if (s.fields index).isSome then (s.table.step (.remove index)).map fun table => build { s with table } else none
  | .rebuild => some s.build
  | .save passes link succeeds =>
    if s.valid then
      (s.table.step (.submit passes link)).map fun table =>
        if (sent s (.save passes link succeeds)).isSome && succeeds then {} else { s with table }
    else some s
  | .leave => some {}

end ItemFields

end NextApp
