import Mathlib.Logic.Function.Basic
import NextApp.Lib.Runs
import NextApp.Model.ItemTable

/-! # The customer of a sales order

Picking a customer in `SalesOrderForm` asks for the page of the customer and then writes what depends on it into the data of
the form: addresses, currency, price list. Other pickers may be open while it waits, and they were opened for the customer
and the price list of before. That page is kept for display only; the one that a form created from another document asks for
when it opens is written into its data. -/

namespace NextApp

/-- A row of `newItemList`, with the price list that its rate is from. -/
structure PricedRow where
  row : ItemRow Num
  priceList : Value
deriving DecidableEq

/-- The records of a customer that the form links. -/
inductive CustomerLink where
  | address
  | contact
deriving DecidableEq, Repr

def CustomerLink.key : CustomerLink → String
  | address => "customer_address"
  | contact => "contact_person"

/-- The list that is open over the form, with what it was opened for. -/
inductive PartyPicker where
  | customers
  | links (link : CustomerLink) (customer : Value)
  | items (priceList : Value)
deriving DecidableEq

structure CustomerPick where
  data : Doc
  defaultSellingPriceList : String
  /-- the page of the customer that the form asked for when it was opened has not come yet -/
  opening : Bool := false
  /-- the picked customers whose pages have not come yet -/
  requests : List Doc := []
  newItemList : List PricedRow := []
  picker : Option PartyPicker := none
  /-- what the field of the customer shows after a pick -/
  lastPick : Option Doc := none
  /-- whose address and contact person the data has -/
  owner : CustomerLink → Value

inductive CustomerPickEvent where
  | openCustomers
  | openLinks (link : CustomerLink)
  | openItems
  | pickCustomer (value : Doc)
  | pickLink (value : Doc)
  | pickItem (row : ItemRow Num)
  | closePicker
  | removeItem (index : Nat)
  /-- the page of a picked customer, or the failure of its request -/
  | arrive (index : Nat) (ok : Bool)
  /-- the page that was asked for at the opening, with the date that its `credit_days` give; the request may fail, and so does
      `int.parse` where they are no whole number -/
  | arriveOpening (page : Doc) (dueDate : String) (ok : Bool)
deriving DecidableEq

/-- What is written before the price list. -/
def customerFields (value : Doc) : Doc :=
  [("customer", Doc.at value "name"), ("customer_name", Doc.at value "customer_name"), ("territory", Doc.at value "territory"),
    ("customer_group", Doc.at value "customer_group"), ("customer_address", Doc.at value "customer_primary_address"),
    ("contact_person", Doc.at value "customer_primary_contact"), ("currency", Doc.at value "default_currency"),
    ("price_list_currency", Doc.at value "default_currency")]

/-- What is written after it. -/
def termsFields (value : Doc) : Doc :=
  [("payment_terms_template", Doc.at value "payment_terms"), ("sales_partner", Doc.at value "default_sales_partner"),
    ("tax_id", Doc.at value "tax_id")]

/-- What a form created from another document takes from the page after the price list. -/
def openingFields (page : Doc) : Doc :=
  [("currency", Doc.at page "default_currency"), ("price_list_currency", Doc.at page "default_currency"),
    ("contact_person", Doc.at page "customer_primary_contact"), ("territory", Doc.at page "territory"),
    ("customer_group", Doc.at page "customer_group")]

namespace CustomerPick

/-- `list ?? defaultSellingPriceList` -/
def effectiveList (defaultSellingPriceList : String) : Value → Value
  | .null => .str defaultSellingPriceList
  | list => list

/-- The price list of `AddItemsWidget`. -/
def priceList (s : CustomerPick) : Value := effectiveList s.defaultSellingPriceList (Doc.at s.data "selling_price_list")

def takePriceList (data value : Doc) : Doc :=
  if Doc.at data "selling_price_list" ≠ Doc.at value "default_price_list" then
    data.set "selling_price_list" (Doc.at value "default_price_list")
  else data

/-- The `setState` of the customer's `onChange`. The list that it clears is not the one of the rows. -/
def takeCustomer (data value : Doc) : Doc := (takePriceList (data.addAll (customerFields value)) value).addAll (termsFields value)

/-- The `setState` when the page of the opening has come. The customer of the form stays, and so does the address. -/
def takeOpening (data page : Doc) (dueDate : String) : Doc :=
  (takePriceList (data.set "due_date" (.str dueDate)) page).addAll (openingFields page)

/-- A failed request throws at the cast of the page, before `setState`. -/
def arrived (s : CustomerPick) (value : Doc) (ok : Bool) : CustomerPick :=
  if ok then { s with data := takeCustomer s.data value, owner := fun _ => Doc.at value "name" } else s

def step (s : CustomerPick) : CustomerPickEvent → Option CustomerPick
  | .openCustomers => if s.picker = none then some { s with picker := some .customers } else none
  | .openLinks link => if s.picker = none then some { s with picker := some (.links link (Doc.at s.data "customer")) } else none
  | .openItems => if s.picker = none then some { s with picker := some (.items s.priceList) } else none
  | .pickCustomer value =>
    if s.picker = some .customers then
      some { s with requests := s.requests ++ [value], picker := none, lastPick := some value }
    else none
  | .pickLink value =>
    match s.picker with
    | some (.links link customer) =>
      let s := { s with picker := none }
      if Doc.at s.data "customer" = .null then some s
      else
        some { s with data := s.data.set link.key (Doc.at value "name"), owner := Function.update s.owner link customer }
    | _ => none
  | .pickItem row =>
    match s.picker with
    | some (.items priceList) => some { s with newItemList := s.newItemList ++ [⟨row, priceList⟩] }
    | _ => none
  | .closePicker => s.picker.map fun _ => { s with picker := none }
  | .removeItem index => if index < s.newItemList.length then some { s with newItemList := s.newItemList.eraseIdx index } else none
  | .arrive index ok => s.requests[index]?.map fun value => { s with requests := s.requests.eraseIdx index }.arrived value ok
  | .arriveOpening page dueDate ok =>
    if s.opening then
      let s := { s with opening := false }
      if ok then
        some { s with data := takeOpening s.data page dueDate, owner := Function.update s.owner .contact (Doc.at page "name") }
      else some s
    else none

/-- A form that opens with data, and with rows at the price list of the data; created from another document it asks for the
    page of its customer. -/
def start (data : Doc) (defaultSellingPriceList : String) (rows : List (ItemRow Num)) (isCreateFromPage : Bool) : CustomerPick :=
  let s : CustomerPick :=
    { data, defaultSellingPriceList, opening := isCreateFromPage, owner := fun _ => Doc.at data "customer" }
  { s with newItemList := rows.map fun row => ⟨row, s.priceList⟩ }

end CustomerPick

end NextApp
