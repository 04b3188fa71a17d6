import NextApp.Lib.Outcome
import NextApp.Model.Value

/-! # The module provider

The state and the operations of `lib/provider/module/module_provider.dart` that carry the current module,
the page on show, the saved page fields of connections and of create-from forms, the list query and the
form modes. Each field and operation keeps the name it has there. A map is a value: the copies that
matter are the ones the source makes, and its in-place clears are writes of the empty map. -/

namespace NextApp

structure ModuleProvider where
  currentModule : Option ModuleType := none
  /-- the page fields saved until the user leaves the connection list -/
  oldData : Doc := []
  pageData : Doc := []
  /-- the document a create-from form starts from, with the page fields saved until the form is left -/
  createFromPageData : Doc := []
  editPage : Bool := false
  createFromPage : Bool := false
  isLoading : Bool := false
  availablePdfFormat : Bool := false
  amendDoc : Bool := false
  isAmended : Bool := false
  duplicateMode : Bool := false
  pageId : String := ""
  previousPageId : String := ""
  connection : Option String := none
  filterById : Option String := none
  pageSubmitStatus : Option Int := none
  filter : Doc := []
  newItemList : List Doc := []
deriving DecidableEq

/-- The page fields that `pushConnection` and `pushCreateFromPage` save. -/
structure PageFields where
  pageData : Doc
  pageId : String
  availablePdfFormat : Bool
  currentModule : Option ModuleType
deriving DecidableEq

/-- A `getPage` request: the page service and the id it was made with. -/
structure PageRequest where
  service : String
  id : String
deriving DecidableEq, Repr

/-- The button a form is opened with. -/
inductive FormMode where
  | new
  | edit
  | duplicate
  | amend
  | createFrom
deriving DecidableEq, Repr

/-- A form in this mode starts from the page it was opened from. -/
def FormMode.loadsPage : FormMode → Bool
  | edit | duplicate | amend => true
  | new | createFrom => false

/-- What a list request of `listService` carries. -/
structure ListQuery where
  module : ModuleType
  filterById : Option String
  connection : Option String
  filters : Doc
deriving DecidableEq

namespace ModuleProvider

/-! ### Getters -/

/-- `isSecondModule`: page fields are saved for a connection. -/
def isSecondModule (s : ModuleProvider) : Bool := !s.oldData.isEmpty

def isSecondCreateFromPage (s : ModuleProvider) : Bool := !s.createFromPageData.isEmpty

def pageFields (s : ModuleProvider) : PageFields :=
  ⟨s.pageData, s.pageId, s.availablePdfFormat, s.currentModule⟩

/-! ### Modes -/

def iAmCreatingAForm (s : ModuleProvider) : ModuleProvider := { s with editPage := false, createFromPage := false }

def editThisPage (s : ModuleProvider) : ModuleProvider := { s with editPage := true }

def setAmendDoc (s : ModuleProvider) (amend : Bool) : ModuleProvider := { s with amendDoc := amend }

def setDuplicateMode (s : ModuleProvider) (setMode : Bool) : ModuleProvider := { s with duplicateMode := setMode }

def resetCreationForm (s : ModuleProvider) : ModuleProvider :=
  { s with editPage := false, amendDoc := false, duplicateMode := false, newItemList := [] }

/-- An unknown doctype leaves the module as it is; the filters are cleared all the same. -/
def setModule (s : ModuleProvider) (doctype : String) : ModuleProvider :=
  { s with currentModule := (ModuleType.ofDoctype? doctype).or s.currentModule, filter := [] }

def setFilter (s : ModuleProvider) (value : Doc) : ModuleProvider := { s with filter := value }

/-! ### Pages -/

/-- `loadPage` up to its `await`, with the request it makes: none when `_currentModule!` throws. -/
def startLoadPage (s : ModuleProvider) : ModuleProvider × Option PageRequest :=
  ({ s with isLoading := true }, s.currentModule.map fun m => ⟨m.pageService, s.pageId⟩)

/-- `(_pageData['print_formats'] ?? []).isNotEmpty`. -/
def hasPrintFormats? (page : Doc) : Option Bool :=
  match Doc.at page "print_formats" with
  | .null => some false
  | v => v.isNotEmpty?

/-- `loadPage` after its `await`: the body of the response, which is empty when the request failed. -/
def endLoadPage (s : ModuleProvider) (data : Doc) : Outcome ModuleProvider :=
  match Doc.at data "message" with
  | .map page =>
    let s := { s with pageData := page }
    .need s (Doc.at page "docstatus").asIntOrNull? fun docstatus =>
    let s := { s with pageSubmitStatus := docstatus }
    .need s (hasPrintFormats? page) fun pdf =>
    .done { s with availablePdfFormat := pdf, isLoading := false }
  | _ => .done { s with isLoading := false }

/-- `pushPage`, which starts `loadPage`. -/
def pushPage (s : ModuleProvider) (pageId : String) : ModuleProvider × Option PageRequest :=
  let s := { s with
    availablePdfFormat := false
    pageData := []
    isLoading := true
    editPage := false
    pageId := pageId }
  s.startLoadPage

/-! ### Saved page fields -/

/-- The four writes with which a push saves the page fields in `d`. -/
def saveFields (d : Doc) (s : ModuleProvider) : Doc :=
  let d := d.set "_pageData" (.map s.pageData)
  let d := d.set "_pageId" (.str s.pageId)
  let d := d.set "_availablePdfFormat" (.bool s.availablePdfFormat)
  d.set "_currentModule" (.ofModule? s.currentModule)

/-- The four assignments with which a remove takes them back: each one casts what `d` holds. -/
def restoreFields (s : ModuleProvider) (d : Doc) : Outcome ModuleProvider :=
  .need s (Doc.at d "_pageData").asMap? fun pageData =>
  let s := { s with pageData := pageData }
  .need s (Doc.at d "_pageId").asString? fun pageId =>
  let s := { s with pageId := pageId }
  .need s (Doc.at d "_availablePdfFormat").asBool? fun pdf =>
  let s := { s with availablePdfFormat := pdf }
  .need s (Doc.at d "_currentModule").asModuleOrNull? fun module =>
  .done { s with currentModule := module }

/-- The page fields that a remove reads from `d`, when every cast goes through. -/
def readFields? (d : Doc) : Option PageFields :=
  (Doc.at d "_pageData").asMap?.bind fun pageData =>
  (Doc.at d "_pageId").asString?.bind fun pageId =>
  (Doc.at d "_availablePdfFormat").asBool?.bind fun pdf =>
  (Doc.at d "_currentModule").asModuleOrNull?.map fun module => ⟨pageData, pageId, pdf, module⟩

def withFields (s : ModuleProvider) (f : PageFields) : ModuleProvider :=
  { s with
    pageData := f.pageData
    pageId := f.pageId
    availablePdfFormat := f.availablePdfFormat
    currentModule := f.currentModule }

@[simp] theorem readFields?_nil : readFields? [] = none := rfl

@[simp] theorem saveFields_ne_nil (d : Doc) (s : ModuleProvider) : saveFields d s ≠ [] := Dict.set_ne_nil

/-- A remove takes back what the push has saved, whatever map it was saved in. -/
@[simp] theorem readFields?_saveFields (d : Doc) (s : ModuleProvider) :
    readFields? (saveFields d s) = some s.pageFields := by
  simp [readFields?, saveFields, pageFields]

/-- A remove takes back the saved fields, or throws at the first cast that fails: then it has written no
    more than the other page fields, since the module comes last. -/
theorem restoreFields_cases (s : ModuleProvider) (d : Doc) :
    (∃ f, readFields? d = some f ∧ s.restoreFields d = .done (s.withFields f)) ∨
      (readFields? d = none ∧
        ∃ f, f.currentModule = s.currentModule ∧ s.restoreFields d = .threw (s.withFields f)) := by
  rw [restoreFields, readFields?]
  cases (Doc.at d "_pageData").asMap? with
  | none => exact Or.inr ⟨rfl, s.pageFields, rfl, rfl⟩
  | some pageData =>
    cases (Doc.at d "_pageId").asString? with
    | none => exact Or.inr ⟨rfl, { s.pageFields with pageData := pageData }, rfl, rfl⟩
    | some pageId =>
      cases (Doc.at d "_availablePdfFormat").asBool? with
      | none => exact Or.inr ⟨rfl, { s.pageFields with pageData := pageData, pageId := pageId }, rfl, rfl⟩
      | some pdf =>
        cases (Doc.at d "_currentModule").asModuleOrNull? with
        | none => exact Or.inr ⟨rfl, ⟨pageData, pageId, pdf, s.currentModule⟩, rfl, rfl⟩
        | some m => exact Or.inl ⟨⟨pageData, pageId, pdf, m⟩, rfl, rfl⟩

theorem restoreFields_of_read {s : ModuleProvider} {d : Doc} {f : PageFields} (h : readFields? d = some f) :
    s.restoreFields d = .done (s.withFields f) := by
  rcases s.restoreFields_cases d with ⟨g, hread, hdone⟩ | ⟨hnone, -⟩
  · rw [hdone, Option.some.inj (hread.symm.trans h)]
  · rw [hnone] at h
    cases h

theorem restoreFields_of_read_none {s : ModuleProvider} {d : Doc} (h : readFields? d = none) :
    ∃ f, f.currentModule = s.currentModule ∧ s.restoreFields d = .threw (s.withFields f) := by
  rcases s.restoreFields_cases d with ⟨g, hread, -⟩ | ⟨-, hthrew⟩
  · rw [hread] at h
    cases h
  · exact hthrew

/-- With no saved fields the first cast throws, before anything is written. -/
theorem restoreFields_nil (s : ModuleProvider) : s.restoreFields [] = .threw s := rfl

@[simp] theorem pageFields_withFields (s : ModuleProvider) (f : PageFields) : (s.withFields f).pageFields = f := rfl

def pushCreateFromPage (s : ModuleProvider) (pageData : Doc) (doctype : String) : ModuleProvider :=
  let s := { s with createFromPage := true, editPage := false, createFromPageData := saveFields pageData s }
  s.setModule doctype

def removeCreateFromPage (s : ModuleProvider) : Outcome ModuleProvider :=
  (s.restoreFields s.createFromPageData).bind fun s =>
  .done { s with createFromPageData := [] }

/-- Only the first of several open connections saves the page fields. -/
def pushConnection (s : ModuleProvider) (connection : String) : Outcome ModuleProvider :=
  let s := { s with filterById := some s.pageId }
  .need s s.currentModule fun m =>
  let s := { s with connection := some m.genericListService }
  let s := if s.isSecondModule then s else { s with oldData := saveFields s.oldData s }
  .done (s.setModule connection)

def removeConnection (s : ModuleProvider) : Outcome ModuleProvider :=
  let s := { s with filterById := none, connection := none }
  (s.restoreFields s.oldData).bind fun s =>
  .done { s with oldData := [] }

theorem removeCreateFromPage_of_read {s : ModuleProvider} {f : PageFields}
    (h : readFields? s.createFromPageData = some f) :
    s.removeCreateFromPage = .done { s.withFields f with createFromPageData := [] } := by
  rw [removeCreateFromPage, restoreFields_of_read h, Outcome.bind_done]

theorem removeCreateFromPage_of_nil {s : ModuleProvider} (h : s.createFromPageData = []) :
    s.removeCreateFromPage = .threw s := by
  rw [removeCreateFromPage, h, restoreFields_nil, Outcome.bind_threw]

theorem removeConnection_of_read {s : ModuleProvider} {f : PageFields} (h : readFields? s.oldData = some f) :
    s.removeConnection =
      .done { s.withFields f with filterById := none, connection := none, oldData := [] } := by
  rw [removeConnection, restoreFields_of_read h, Outcome.bind_done]
  rfl

theorem removeConnection_of_nil {s : ModuleProvider} (h : s.oldData = []) :
    s.removeConnection = .threw { s with filterById := none, connection := none } := by
  simp only [removeConnection, h, restoreFields_nil, Outcome.bind_threw]

/-- A remove writes page fields and the map it has read them from. -/
theorem removeCreateFromPage_frame (s : ModuleProvider) :
    ∃ f d, s.removeCreateFromPage.state = { s.withFields f with createFromPageData := d } := by
  rcases s.restoreFields_cases s.createFromPageData with ⟨f, -, h⟩ | ⟨-, f, -, h⟩
  · exact ⟨f, [], by rw [removeCreateFromPage, h]; rfl⟩
  · exact ⟨f, s.createFromPageData, by rw [removeCreateFromPage, h]; rfl⟩

theorem removeConnection_frame (s : ModuleProvider) :
    ∃ f d, s.removeConnection.state =
      { s.withFields f with filterById := none, connection := none, oldData := d } := by
  rcases restoreFields_cases { s with filterById := none, connection := none } s.oldData with ⟨f, -, h⟩ | ⟨-, f, -, h⟩
  · exact ⟨f, [], by simp only [removeConnection, h]; rfl⟩
  · exact ⟨f, s.oldData, by simp only [removeConnection, h]; rfl⟩

theorem pushConnection_of_none {s : ModuleProvider} (h : s.currentModule = none) (connection : String) :
    s.pushConnection connection = .threw { s with filterById := some s.pageId } := by
  simp only [pushConnection, h, Outcome.need_none]

/-- `pushConnection` keeps the fields saved first, and saves its own only when there are none. -/
theorem pushConnection_of_module {s : ModuleProvider} {m : ModuleType} (h : s.currentModule = some m)
    (connection : String) :
    s.pushConnection connection =
      .done (({ s with
        filterById := some s.pageId
        connection := some m.genericListService
        oldData := if s.isSecondModule then s.oldData else saveFields s.oldData s } : ModuleProvider).setModule
          connection) := by
  simp only [pushConnection, h, Outcome.need_some]
  by_cases hs : s.isSecondModule = true
  · simp_all [isSecondModule]
  · simp_all [isSecondModule, saveFields]

/-! ### Buttons of a page -/

inductive SubmitWidget where
  | submitButton
  | cancelButton
  | amendButton
  | sizedBox
deriving DecidableEq, Repr

def submitWidget : Option Int → SubmitWidget
  | some 0 => .submitButton
  | some 1 => .cancelButton
  | some 2 => .amendButton
  | _ => .sizedBox

def submitDocumentWidget (s : ModuleProvider) : SubmitWidget := submitWidget s.pageSubmitStatus

/-- `isEditable` of `EditPageButton`: every module has a `createForm`. -/
def isEditable (s : ModuleProvider) : Bool := s.pageSubmitStatus = some 0

/-! ### Lists -/

/-- What `listService` asks the server for: none when `_currentModule!` throws. -/
def listQuery (s : ModuleProvider) : Option ListQuery :=
  s.currentModule.map fun m => ⟨m, s.filterById, s.connection, s.filter⟩

end ModuleProvider
end NextApp
