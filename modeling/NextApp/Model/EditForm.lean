import NextApp.Lib.Runs
import NextApp.Model.App
import NextApp.Model.DefaultTax

/-! # Forms that save an edit

The submit of a form that edits its page, from Save to its last pop: the loading dialog, `handleRequest` around
`updatePage`, and what each form makes of the result. -/

namespace NextApp

/-- How `dio.put` ends. -/
inductive UpdateReply where
  | response (statusCode : Nat) (text : String)
  | dioException

namespace UpdateReply

/-- The message of the `ServerException` that `APIService.updatePage` throws. -/
def exception? : UpdateReply → Option String
  | response statusCode text => if statusCode = 200 then none else some ("something went wrong!!" ++ text)
  | dioException => some "something went wrong :("

/-- The request has succeeded. -/
def saves (reply : UpdateReply) : Bool := reply.exception?.isNone

end UpdateReply

/-- `message.substring(start)`: none when it throws. -/
def substring? (message : String) (start : Nat) : Option String :=
  if start ≤ message.length then some (String.ofList (message.toList.drop start)) else none

inductive EditRoute where
  | form
  | loadingDialog
  | genericPage
  | other (i : Nat)
deriving DecidableEq, Repr

/-! ### What a submit writes before its request -/

/-- What a Save takes from elsewhere: the texts that the fields save, the position, with the name of its place where there
    is one, and the taxes of the user and of an expense claim. -/
structure EditInput where
  saved : Doc := []
  latitude : Value := .null
  longitude : Value := .null
  location : Option Value := none
  defaultTax : List (ItemRow Num) := []
  tax : TaxData := ⟨none, .null, .null, .null⟩

def nulls (keys : List String) : Doc := keys.map fun key => (key, .null)

/-- `data['time'].toString().split('T')[1].split('.')[0]`, for a text with a T. -/
def visitTime (time : Value) : Doc :=
  match time with
  | .str s =>
    match s.splitOn "T" with
    | _ :: rest :: _ => [("time", .str ((rest.splitOn ".").headD ""))]
    | _ => []
  | _ => []

/-- `a + " " + b` of two values: none when it throws. -/
def joined? (a b : Value) : Option Value := a.asString?.bind fun a => b.asString?.map fun b => .str (a ++ " " ++ b)

namespace ModuleType

/-- What the form writes when it edits, before the modes are looked at. -/
def editLocated (v : EditInput) : ModuleType → Doc
  | attendanceRequest => [("latitude", v.latitude), ("longitude", v.longitude)]
  | _ => []

/-- What the form writes when it edits, once its fields are saved and up to the loops over its rows: none when it throws.
    The rows that it sends are not among the data here. -/
def editWritten (v : EditInput) (data : Doc) : ModuleType → Option Doc
  | quotation | salesOrder | salesInvoice | paymentEntry | stockEntry | leaveApplication | task | timesheet | bom | jobCard
  | purchaseInvoice | supplierQuotation => some [("docstatus", .int 0)]
  | purchaseOrder => some (("docstatus", .int 0) :: nulls ["purchase_order_items", "child_purchase_taxes_and_charges"])
  | customerVisit =>
    v.location.map fun location =>
      [("docstatus", .int 0), ("latitude", v.latitude), ("longitude", v.longitude), ("location", location)] ++
        visitTime (Doc.at data "time")
  | employee => (joined? (Doc.at data "first_name") (Doc.at data "last_name")).map fun name => [("full_name", name)]
  | employeeCheckin => (joined? (Doc.at data "date_only") (Doc.at data "time_only")).map fun time => [("time", time)]
  | _ => some []

/-- What it has written of this when it throws. -/
def editThrown (v : EditInput) : ModuleType → Doc
  | customerVisit => [("docstatus", .int 0), ("latitude", v.latitude), ("longitude", v.longitude)]
  | _ => []

/-- What it writes after the loops. -/
def editLast : ModuleType → Doc
  | purchaseInvoice => nulls ["purchase_invoice_item", "child_purchase_taxes_and_charges"]
  | supplierQuotation =>
    nulls ["total_qty", "total", "base_total", "net_total", "base_net_total", "total_taxes_and_charges ",
      "base_total_taxes_and_charges", "additional_discount_percentage", "discount_amount", "base_discount_amount", "in_words",
      "base_grand_total", "set_posting_time"]
  | _ => []

/-- What becomes of `data['taxes']`: an expense claim writes into its first row, and throws without one. -/
def editTaxes (v : EditInput) (taxes : Option (List (ItemRow Num))) (m : ModuleType) : Outcome (Option (List (ItemRow Num))) :=
  match m.submitTaxes with
  | .defaultTax => .done (some v.defaultTax)
  | .defaultTaxUnlessEditing => .done (some [])
  | .own =>
    if m = .expenseClaim then
      match taxes with
      | some (row :: rows) => .done (some (v.tax.write row :: rows))
      | _ => .threw taxes
    else .done taxes

end ModuleType

/-- `data['is_return']` where it is a number. -/
def Doc.isReturn (data : Doc) : Option ℚ := (Doc.at data "is_return").rational?

/-- What a submit writes into the rows of `newItemList` before its request. -/
def ModuleType.writeRows (m : ModuleType) (data : Doc) (rows : List (ItemRow Num)) : Outcome (List (ItemRow Num)) :=
  if m.rowForm.submitsItems then
    (Outcome.each (m.rowForm.turn data.isReturn) rows).bind fun rows =>
      .done (m.rowForm.link.elim rows fun key => rows.map fun r => r.setOther key (Doc.at data key))
  else .done rows

/-! ### The form -/

/-- A form over the routes that it was opened from, while it is open. Its data are without `items`, `accounts`, `expenses`,
    `email_ids` and `phone_nos`, which a submit gives the rows that it sends, and without `taxes`. -/
structure EditForm where
  module : ModuleType
  provider : ModuleProvider
  /-- the top route first -/
  routes : List EditRoute
  data : Doc
  taxes : Option (List (ItemRow Num))
  newItemList : List (ItemRow Num)
  isOpen : Bool := true

inductive EditEvent where
  /-- the user changes the form -/
  | change (data : Doc) (taxes : Option (List (ItemRow Num))) (rows : List (ItemRow Num))
  /-- Save, when the checks at its beginning pass; the page loads anew when it is saved -/
  | save (v : EditInput) (reply : UpdateReply) (page : Option ServerPage)

namespace EditForm

/-- `EditPageButton` on a page of `m`. -/
def opened (m : ModuleType) (page : ModuleProvider) (below : List EditRoute) (data : Doc)
    (taxes : Option (List (ItemRow Num))) (rows : List (ItemRow Num)) : EditForm where
  module := m
  provider := { page with currentModule := some m }.editThisPage
  routes := .form :: below
  data
  taxes
  newItemList := rows

/-- `Navigator.pop`; a form that is taken down resets the creation form. -/
def pop (s : EditForm) : EditForm :=
  match s.routes with
  | [] => s
  | .form :: rest => { s with routes := rest, provider := s.provider.resetCreationForm, newItemList := [], isOpen := false }
  | _ :: rest => { s with routes := rest }

/-- `handleRequest(() => provider.updatePage(data))`: null when it completes and false for an exception, unless the
    message of the exception is too short for the snack bar. -/
def handleRequest (s : EditForm) (reply : UpdateReply) (page : Option ServerPage) : Outcome (EditForm × Bool) :=
  match reply.exception? with
  | some message => .need (s, false) (substring? message 22) fun _ => .done (s, false)
  | none =>
    match s.provider.currentModule with
    | none => .done (s, false)
    | some _ => .done ({ s with provider := App.reloadedPage s.provider page }, true)

/-- What the form does with the result: `completed` is whether it is null. On false, `res['message']` throws. -/
def afterRequest (s : EditForm) (completed : Bool) : Outcome EditForm :=
  if completed = false ∧ App.popsOnFailedEdit s.module = false then .done s
  else
    let s := s.pop
    if App.goesOnAfterEdit s.module then
      if completed = false then .threw s
      else if s.provider.createFromPage then .done { s with routes := .genericPage :: s.routes }
      else .done s
    else .done s

/-- The submit up to its request. A check-in throws once its loading dialog is shown. -/
def request (s : EditForm) (v : EditInput) : Outcome EditForm :=
  let located := s.module.editLocated v
  -- the calls for a mode write nothing that is read here
  let written := s.module.editWritten v ((s.data.addAll located).addAll v.saved)
  match s.module.form.submit ⟨located, v.saved, written.getD (s.module.editThrown v), written.isSome, true⟩ s.provider s.data with
  | .threw (provider, data) =>
    .threw { s with provider, data, routes := if s.module = .employeeCheckin then .loadingDialog :: s.routes else s.routes }
  | .done (provider, data) =>
    match s.module.editTaxes v s.taxes with
    | .threw _ => .threw { s with provider, data }
    | .done taxes =>
      match s.module.writeRows data s.newItemList with
      | .threw newItemList => .threw { s with provider, data, taxes, newItemList }
      | .done newItemList => .done { s with provider, data := data.addAll s.module.editLast, taxes, newItemList }

def save (s : EditForm) (v : EditInput) (reply : UpdateReply) (page : Option ServerPage) : Outcome EditForm :=
  match s.request v with
  | .threw s => .threw s
  | .done s =>
    match { s with routes := .loadingDialog :: s.routes }.handleRequest reply page with
    | .threw (s, _) => .threw s
    | .done (s, completed) => s.pop.afterRequest completed

/-- While the form is on top. -/
def step (s : EditForm) (e : EditEvent) : Option EditForm :=
  if s.isOpen ∧ s.routes.head? = some .form then
    match e with
    | .change data taxes rows => some { s with data, taxes, newItemList := rows }
    | .save v reply page =>
      if v.saved.all fun e => e.1 ∈ s.module.form.saved then some (s.save v reply page).state else none
  else none

end EditForm

end NextApp
