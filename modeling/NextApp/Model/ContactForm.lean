import NextApp.Lib.PageView
import NextApp.Lib.Outcome
import NextApp.Model.JournalEntry

/-! # The rows of a contact and of an item

`ContactForm` keeps its e-mails and phones, `ItemForm` its UOMs, in lists of an inherited widget that the form fills and
its list page edits. Both pages are built as long as the form is. A row of the list has the identity of its place in the
document, or a number from the length of the document's list on. -/

namespace NextApp
open AccountModel (text? double?)

/-- A table of rows: its row model, what the fields of a row write, and the map that the add button starts a row from. -/
structure RowTable where
  Model : Type
  Edit : Type
  fromJson : Doc → Option Model
  toJson : Model → Doc
  apply : Edit → Model → Model
  init : Doc
  /-- what the field writes into that map -/
  typed : Edit → Doc → Doc := fun _ init => init
  /-- the list has a Clear All button -/
  clears : Bool
  reads : ∀ m, (fromJson (toJson m)).map toJson = some (toJson m)

/-- `json['id'] ?? Uuid().v1().toString()`, where none is an id that is made up. -/
def id? (json : Doc) : Option (Option String) :=
  match Doc.at json "id" with
  | .null => some none
  | v => v.asString?.map some

/-- `json[k] ?? 0` as an `int`. -/
def int? (json : Doc) (k : String) : Option Int :=
  match Doc.at json k with
  | .null => some 0
  | .int i => some i
  | _ => none

/-! ### E-mails, phones and UOMs -/

structure EmailModel where
  id : Option String
  emailId : String
  isPrimary : Int

namespace EmailModel

def fromJson (json : Doc) : Option EmailModel :=
  (id? json).bind fun id =>
  (text? json "email_id").bind fun emailId =>
  (int? json "is_primary").map fun isPrimary => ⟨id, emailId, isPrimary⟩

def toJson (m : EmailModel) : Doc := [("email_id", .str m.emailId), ("is_primary", .int m.isPrimary)]

end EmailModel

inductive EmailEdit where
  | emailId (value : String)
  | isPrimary (value : Bool)

def EmailEdit.apply (m : EmailModel) : EmailEdit → EmailModel
  | emailId value => { m with emailId := value }
  | isPrimary value => { m with isPrimary := if value then 1 else 0 }

def emails : RowTable where
  Model := EmailModel
  Edit := EmailEdit
  fromJson := EmailModel.fromJson
  toJson := EmailModel.toJson
  apply e m := e.apply m
  init := [("email_id", .null), ("is_primary", .int 0)]
  clears := true
  reads _ := rfl

structure PhoneModel where
  id : Option String
  phone : String
  isPrimaryPhone : Int
  isPrimaryMobile : Int

namespace PhoneModel

def fromJson (json : Doc) : Option PhoneModel :=
  (id? json).bind fun id =>
  (text? json "phone").bind fun phone =>
  (int? json "is_primary_phone").bind fun isPrimaryPhone =>
  (int? json "is_primary_mobile_no").map fun isPrimaryMobile => ⟨id, phone, isPrimaryPhone, isPrimaryMobile⟩

def toJson (m : PhoneModel) : Doc :=
  [("phone", .str m.phone), ("is_primary_phone", .int m.isPrimaryPhone), ("is_primary_mobile_no", .int m.isPrimaryMobile)]

end PhoneModel

inductive PhoneEdit where
  | phone (value : String)
  | isPrimaryPhone (value : Bool)
  | isPrimaryMobile (value : Bool)

def PhoneEdit.apply (m : PhoneModel) : PhoneEdit → PhoneModel
  | phone value => { m with phone := value }
  | isPrimaryPhone value => { m with isPrimaryPhone := if value then 1 else 0 }
  | isPrimaryMobile value => { m with isPrimaryMobile := if value then 1 else 0 }

def phones : RowTable where
  Model := PhoneModel
  Edit := PhoneEdit
  fromJson := PhoneModel.fromJson
  toJson := PhoneModel.toJson
  apply e m := e.apply m
  init := [("phone", .null), ("is_primary_phone", .int 0), ("is_primary_mobile_no", .int 0)]
  clears := true
  reads _ := rfl

structure UOMModel where
  id : Option String
  uom : String
  conversionFactor : Float

namespace UOMModel

def fromJson (json : Doc) : Option UOMModel :=
  (id? json).bind fun id =>
  (text? json "uom").bind fun uom =>
  (double? json "conversion_factor").map fun conversionFactor => ⟨id, uom, conversionFactor⟩

def toJson (m : UOMModel) : Doc := [("uom", .str m.uom), ("conversion_factor", .double m.conversionFactor)]

end UOMModel

inductive UOMEdit where
  /-- `onChanged` of the field, in which nothing can be typed -/
  | uom (value : String)
  /-- a UOM chosen from the list, or `onSave` -/
  | chosen (value : String)
  | conversionFactor (value : Float)

namespace UOMEdit

def apply (m : UOMModel) : UOMEdit → UOMModel
  | uom value | chosen value => { m with uom := value }
  | conversionFactor value => { m with conversionFactor := value }

/-- What `onChanged` writes into `initUOM`. -/
def typed (initUOM : Doc) : UOMEdit → Doc
  | uom value => initUOM.set "uom" (.str value)
  | chosen _ => initUOM
  | conversionFactor value => initUOM.set "conversion_factor" (.double value)

end UOMEdit

def uoms : RowTable where
  Model := UOMModel
  Edit := UOMEdit
  fromJson := UOMModel.fromJson
  toJson := UOMModel.toJson
  apply e m := e.apply m
  init := [("uom", .null), ("conversion_factor", .double 0)]
  typed e init := e.typed init
  clears := false
  reads _ := rfl

/-! ### The list of a table -/

structure RowList (t : RowTable) where
  rows : List (Nat × t.Model)
  next : Nat
  init : Doc

inductive TableEvent (t : RowTable) where
  | add
  | edit (ref : Nat) (e : t.Edit)
  | remove (ref : Nat)
  | clearAll

namespace RowList
variable {t : RowTable}

/-- The list when a form opens: the form before it has cleared it in `deactivate`. -/
def empty (loaded : List Doc) : RowList t := ⟨[], loaded.length, t.init⟩

def clear (l : RowList t) : RowList t := { l with rows := [] }

/-- `forEach` over the rows of the document: the first that cannot be read throws. -/
def load (l : RowList t) (docs : List (Doc × Nat)) : Outcome (RowList t) :=
  docs.foldl (fun o d => o.bind fun l => .need l (t.fromJson d.1) fun m => .done { l with rows := l.rows ++ [(d.2, m)] })
    (.done l)

def step (l : RowList t) : TableEvent t → Option (RowList t)
  | .add => (t.fromJson l.init).map fun m => { l with rows := l.rows ++ [(l.next, m)], next := l.next + 1 }
  | .edit ref e =>
    if ref ∈ l.rows.map Prod.fst then
      some { l with
        rows := l.rows.map fun r => if r.1 = ref then (ref, t.apply e r.2) else r
        init := t.typed e l.init }
    else none
  | .remove ref =>
    if ref ∈ l.rows.map Prod.fst then some { l with rows := l.rows.filter fun r => r.1 ≠ ref } else none
  | .clearAll => if t.clears ∧ l.rows ≠ [] then some l.clear else none

end RowList

/-! ### The forms -/

structure ContactForm where
  emails : RowList emails
  phones : RowList phones

namespace ContactForm

/-- `SelectedPhonesList` is the second page of three. -/
def listPage : Nat := 1

/-- The callback of `initState` of the form. -/
def load (f : ContactForm) (emailIds phoneNos : List Doc) : Outcome ContactForm :=
  (f.emails.load emailIds.zipIdx).map (fun emails => { f with emails }) |>.bind fun f =>
  (f.phones.load phoneNos.zipIdx).map (fun phones => { f with phones })

/-- The callback of `initState` of the list. -/
def listInitState (mode : FormMode) (f : ContactForm) : ContactForm :=
  if mode = .edit then f else { emails := f.emails.clear, phones := f.phones.clear }

/-- The form after both callbacks. -/
def init (mode : FormMode) (emailIds phoneNos : List Doc) : ContactForm :=
  let f : ContactForm := ⟨.empty emailIds, .empty phoneNos⟩
  listInitState mode (if mode = .edit ∨ mode = .duplicate then (f.load emailIds phoneNos).state else f)

/-- `data['email_ids']` as `submit` sends it. -/
def emailIds (f : ContactForm) : List Doc := f.emails.rows.map fun r => NextApp.emails.toJson r.2

def phoneNos (f : ContactForm) : List Doc := f.phones.rows.map fun r => NextApp.phones.toJson r.2

end ContactForm

structure ItemForm where
  list : RowList uoms
  /-- `data['uoms']`, which `submit` sends as it is -/
  uoms : List Doc

namespace ItemForm

/-- `SelectedUOMsList` is the second page of two. -/
def listPage : Nat := 1

/-- The callback of `initState`: a form that duplicates has none. -/
def load (f : ItemForm) (uoms : List Doc) : ItemForm := ⟨(f.list.load uoms.zipIdx).state, uoms⟩

def listInitState (mode : FormMode) (f : ItemForm) : ItemForm :=
  if mode ≠ .edit ∧ mode ≠ .duplicate then { f with list := f.list.clear } else f

def init (mode : FormMode) (uoms : List Doc) : ItemForm :=
  let f : ItemForm := ⟨.empty uoms, []⟩
  listInitState mode (if mode = .edit then f.load uoms else f)

end ItemForm

end NextApp
