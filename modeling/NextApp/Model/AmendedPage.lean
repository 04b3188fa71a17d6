import NextApp.Lib.Runs
import NextApp.Model.App

/-! # Amended pages

The app with what a page is opened and left by besides the buttons, and with a record of the documents that its submits
have created by amending others. -/

namespace NextApp

/-- A document that a submit has created by amending another one of its module. -/
structure Amendment where
  module : ModuleType
  previous : String
  id : String
deriving DecidableEq

inductive NavEvent where
  | press (e : AppEvent)
  /-- the gesture of the system, which pops what is on top -/
  | systemBack
  /-- `navigateFromNotification` -/
  | openNotification (doctype id : String) (reply : Option ServerPage)

structure AmendedApp where
  app : App := {}
  created : List Amendment := []

def Route.isPage (r : Route) : Bool :=
  match r.screen with
  | .page _ => true
  | _ => false

namespace App

def onPage (s : App) : Bool := s.routes.head?.any Route.isPage

def rebuildLists (t : App) : App := { t with routes := t.routes.map (rebuilt t.provider.filter) }

def systemBack (s : App) : Option App :=
  match s.routes with
  | _ :: _ :: _ => some (pop { s with completed := [] }).rebuildLists
  | _ => none

def openNotification (s : App) (doctype id : String) (reply : Option ServerPage) : App :=
  let p := loadedPage (s.provider.setModule doctype) id reply
  (push { s with provider := p, completed := [] } (pageRoute p false .nothing)).rebuildLists

/-- The document that a submit creates by amending: one that edits updates instead. -/
def creates (s : App) : AppEvent → List Amendment
  | .submit (some name) (.succeeds (some id)) _ =>
    if amending s.provider && !s.provider.editPage then s.provider.currentModule.toList.map fun m => ⟨m, name, id⟩ else []
  | _ => []

end App

namespace AmendedApp

def step (s : AmendedApp) : NavEvent → Option AmendedApp
  | .press e => (s.app.step e).map fun t => ⟨t, s.created ++ s.app.creates e⟩
  | .systemBack => s.app.systemBack.map fun t => ⟨t, s.created⟩
  | .openNotification doctype id reply => some ⟨s.app.openNotification doctype id reply, s.created⟩

end AmendedApp

end NextApp
