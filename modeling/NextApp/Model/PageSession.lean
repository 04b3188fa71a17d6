import NextApp.Model.ModuleProvider

/-! # Page requests in flight

`loadPage` waits for the server, so several page requests may be in flight, and their responses arrive in
any order. The steps are the calls that write the page fields. A frame is opened together with the first
page pushed in it: the list card on the connection list, the submit of the create-from form. -/

namespace NextApp

/-- A page as the server sends it: the docstatus is an int or absent, the print formats are a collection or
    absent. -/
structure ServerPage where
  doc : Doc
  docstatus : (Doc.at doc "docstatus").asIntOrNull?.isSome
  printFormats : (ModuleProvider.hasPrintFormats? doc).isSome

/-- The server's answers to `getPage`, which stay fixed. -/
structure PageServer where
  answer : String → String → ServerPage
  name : ∀ service id, Doc.at (answer service id).doc "name" = .str id

structure PageSession where
  provider : ModuleProvider := {}
  inFlight : List PageRequest := []
deriving DecidableEq

inductive PageEvent where
  | openModule (doctype pageId : String)
  | openConnection (connection pageId : String)
  | openCreated (pageData : Doc) (doctype pageId : String)
  | pushPage (pageId : String)
  | loadPage
  | removeConnection
  | removeCreateFromPage
  /-- The response to the request at position `i`: an error leaves an empty body. -/
  | arrive (i : Nat) (answered : Bool)

/-- The body of a response: `getPage` gives `{}` for an error. -/
def responseBody (page : Option ServerPage) : Doc :=
  match page with
  | some page => [("message", .map page.doc)]
  | none => []

namespace PageSession
open ModuleProvider

def send (s : PageSession) (r : ModuleProvider × Option PageRequest) : PageSession :=
  ⟨r.1, s.inFlight ++ r.2.toList⟩

def step (server : PageServer) (s : PageSession) : PageEvent → Option PageSession
  | .openModule doctype pageId => some (s.send ((s.provider.setModule doctype).pushPage pageId))
  | .openConnection connection pageId =>
    match s.provider.pushConnection connection with
    | .done p => some (s.send (p.pushPage pageId))
    | .threw p => some { s with provider := p }
  | .openCreated pageData doctype pageId =>
    some (s.send ((s.provider.pushCreateFromPage pageData doctype).pushPage pageId))
  | .pushPage pageId => some (s.send (s.provider.pushPage pageId))
  | .loadPage => some (s.send s.provider.startLoadPage)
  | .removeConnection => some { s with provider := s.provider.removeConnection.state }
  | .removeCreateFromPage => some { s with provider := s.provider.removeCreateFromPage.state }
  | .arrive i answered => s.inFlight[i]?.map fun r =>
    let page := if answered then some (server.answer r.service r.id) else none
    ⟨(s.provider.endLoadPage (responseBody page)).state, s.inFlight.eraseIdx i⟩

end PageSession

/-! ### What a response writes -/

theorem endLoadPage_some (s : ModuleProvider) (page : ServerPage) :
    ∃ docstatus pdf, (Doc.at page.doc "docstatus").asIntOrNull? = some docstatus ∧
      s.endLoadPage (responseBody (some page)) = .done { s with
        pageData := page.doc, pageSubmitStatus := docstatus, availablePdfFormat := pdf, isLoading := false } := by
  obtain ⟨docstatus, hd⟩ := Option.isSome_iff_exists.mp page.docstatus
  obtain ⟨pdf, hp⟩ := Option.isSome_iff_exists.mp page.printFormats
  have hmessage : Doc.at (responseBody (some page)) "message" = .map page.doc := rfl
  exact ⟨docstatus, pdf, hd, by simp [ModuleProvider.endLoadPage, hmessage, hd, hp]⟩

theorem endLoadPage_frame (s : ModuleProvider) (reply : Option ServerPage) :
    ∃ page docstatus pdf, (s.endLoadPage (responseBody reply)).state = { s with
      pageData := page, pageSubmitStatus := docstatus, availablePdfFormat := pdf, isLoading := false } := by
  cases reply with
  | none => exact ⟨s.pageData, s.pageSubmitStatus, s.availablePdfFormat, rfl⟩
  | some page =>
    obtain ⟨docstatus, pdf, -, hend⟩ := endLoadPage_some s page
    exact ⟨page.doc, docstatus, pdf, by rw [hend, Outcome.state_done]⟩

theorem PageServer.answer_ne_nil (server : PageServer) (service id : String) :
    (server.answer service id).doc ≠ [] := by
  intro h
  have := server.name service id
  rw [h] at this
  cases this

end NextApp
