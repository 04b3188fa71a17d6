import NextApp.Model.SubmitDocument

/-! # What a submit and a cancel leave behind

A submit is right unless its request comes back with nothing, which leaves its dialog open; a cancel that is confirmed is
never right, accepted or not. A page that was asked for before a call was accepted brings the status back that it had. -/

namespace NextApp

namespace DocumentCall

/-- The status of the document once the call is accepted. -/
def status : DocumentCall → Int
  | submit => 1
  | cancel => 2

def successMessage : DocumentCall → String
  | submit => "Submitted Successfully"
  | cancel => "canceled Successfully"

end DocumentCall

namespace DocumentPage
open DocReply DocumentCall Runs

/-- The call is confirmed, and the server accepts it. -/
def Accepted (s : DocumentPage) (c : DocumentCall) (answer : Bool) (reply : DocReply) : Prop :=
  s.provider.currentModule ≠ none ∧ answer = true ∧ c.request reply = .returned (some true)

instance (s : DocumentPage) (c : DocumentCall) (answer : Bool) (reply : DocReply) : Decidable (s.Accepted c answer reply) :=
  inferInstanceAs (Decidable (_ ∧ _ ∧ _))

/-- The loading dialog is closed and the routes below are as they were; success is only shown of an accepted call; and the
    status is that of the accepted call, or as it was. -/
structure CallRight (s : DocumentPage) (c : DocumentCall) (answer : Bool) (reply : DocReply) (t : DocumentPage) : Prop where
  routes : ∃ above, t.routes = above ++ s.routes ∧ .loadingDialog ∉ above
  success : ∃ shown, t.snackBars = shown ++ s.snackBars ∧ (c.successMessage ∈ shown → s.Accepted c answer reply)
  status : t.provider.pageSubmitStatus =
    if s.Accepted c answer reply then some c.status else s.provider.pageSubmitStatus

/-- A page with, for every request in flight, whether it was sent since a call was last accepted. -/
structure Watched where
  page : DocumentPage
  since : List Bool

namespace Watched

def step (w : Watched) (e : DocumentEvent) : Option Watched :=
  (w.page.step e).map fun t =>
    match e with
    | .call c answer reply =>
      let before := if w.page.Accepted c answer reply then w.since.map fun _ => false else w.since
      ⟨t, before ++ List.replicate (t.inFlight.length - w.page.inFlight.length) true⟩
    | .loaded i _ => ⟨t, w.since.eraseIdx i⟩

/-- Every call is right, and the status it leaves stays, until a page that was asked for since then is loaded. -/
def Right (w : Watched) : DocumentEvent → Watched → Prop
  | .call c answer reply, t => w.page.CallRight c answer reply t.page
  | .loaded i page, t => page.isNone ∨ w.since[i]? = some false →
    t.page.provider.pageSubmitStatus = w.page.provider.pageSubmitStatus

/-- What is confirmed is a submit, whose request comes back with an answer; a page that was asked for earlier has the status
    that the page on show has. -/
def Guard (w : Watched) : DocumentEvent → Prop
  | .call c answer reply =>
    w.page.provider.currentModule ≠ none → answer = true → c = .submit ∧ submitDoc reply ≠ .returned none
  | .loaded i page => w.since[i]? = some false →
    ∀ p ∈ page, (Doc.at p.doc "docstatus").asIntOrNull? = some w.page.provider.pageSubmitStatus

end Watched

variable {s t : DocumentPage} {c : DocumentCall} {answer : Bool} {reply : DocReply} {w w' : Watched} {e : DocumentEvent}

/-! ### Replies -/

theorem submitDoc_cases (reply : DocReply) :
    submitDoc reply = .returned (some true) ∨ submitDoc reply = .returned none ∨
      ∃ title message, submitDoc reply = .submitException title message := by
  cases reply with
  | failed => exact Or.inr (Or.inl rfl)
  | response statusCode data =>
    unfold submitDoc
    dsimp only
    split_ifs
    · split
      · exact Or.inl rfl
      · exact Or.inr (Or.inl rfl)
    · split
      · exact Or.inr (Or.inl rfl)
      · split
        · exact Or.inr (Or.inr ⟨_, _, rfl⟩)
        · exact Or.inr (Or.inl rfl)

theorem cancelDoc_cases (reply : DocReply) :
    cancelDoc reply = .returned (some true) ∨ cancelDoc reply = .returned none ∨
      cancelDoc reply = .serverException "something went wrong :(" := by
  cases reply with
  | failed => exact Or.inr (Or.inl rfl)
  | response statusCode data =>
    unfold cancelDoc
    dsimp only
    split_ifs
    · split
      · exact Or.inl rfl
      · exact Or.inr (Or.inr rfl)
      · exact Or.inr (Or.inl rfl)
    · exact Or.inr (Or.inr rfl)

/-! ### Calls -/

/-- The call that ends without a response of the server leaves everything but the page request it may send. -/
theorem callRight_of_unasked (hnot : ¬ s.Accepted c answer reply) (hroutes : t.routes = s.routes)
    (hsnack : t.snackBars = s.snackBars) (hstatus : t.provider.pageSubmitStatus = s.provider.pageSubmitStatus) :
    s.CallRight c answer reply t where
  routes := ⟨[], hroutes, List.not_mem_nil⟩
  success := ⟨[], hsnack, fun h => absurd h List.not_mem_nil⟩
  status := by rw [if_neg hnot, hstatus]

theorem callRight_of_no_module (h : s.provider.currentModule = none) :
    s.CallRight c answer reply (c.call s answer reply).state := by
  have hcall : (c.call s answer reply).state = s := by
    cases c <;> simp [DocumentCall.call, submitDocument, cancelledDocument, h]
  rw [hcall]
  exact callRight_of_unasked (fun hacc => hacc.1 h) rfl rfl rfl

theorem callRight_of_denied : s.CallRight c false reply (c.call s false reply).state := by
  cases hmodule : s.provider.currentModule with
  | none => exact callRight_of_no_module hmodule
  | some m =>
    have hcall : (c.call s false reply).state = s.loadPage := by
      cases c <;> simp [DocumentCall.call, submitDocument, cancelledDocument, hmodule]
    rw [hcall]
    exact callRight_of_unasked (fun hacc => Bool.false_ne_true hacc.2.1) rfl rfl rfl

theorem submitDocument_right_iff (hmodule : s.provider.currentModule ≠ none) :
    s.CallRight .submit true reply (s.submitDocument true reply).state ↔ submitDoc reply ≠ .returned none := by
  obtain ⟨m, hm⟩ := Option.ne_none_iff_exists'.mp hmodule
  rw [submitDocument, hm, Outcome.need_some, if_pos rfl]
  rcases submitDoc_cases reply with hreply | hreply | ⟨title, message, hreply⟩
  · have hacc : s.Accepted .submit true reply := ⟨hmodule, rfl, hreply⟩
    rw [hreply]
    refine iff_of_true ?_ (by simp)
    exact ⟨⟨[], rfl, List.not_mem_nil⟩, ⟨["Submitted Successfully"], rfl, fun _ => hacc⟩, by rw [if_pos hacc]; rfl⟩
  · rw [hreply]
    refine iff_of_false (fun h => ?_) (fun h => h rfl)
    obtain ⟨above, habove, hclosed⟩ := h.routes
    have hopen : above = [.loadingDialog] := List.append_cancel_right habove.symm
    exact hclosed (hopen ▸ List.mem_singleton_self _)
  · have hnot : ¬ s.Accepted .submit true reply := fun hacc => by cases hreply.symm.trans hacc.2.2
    rw [hreply]
    refine iff_of_true ?_ (by simp)
    exact ⟨⟨[.errorDialog], rfl, by decide⟩, ⟨[], rfl, fun h => absurd h List.not_mem_nil⟩, by rw [if_neg hnot]; rfl⟩

theorem not_right_of_success (shown : List String) (hnot : ¬ s.Accepted c answer reply)
    (hsnack : t.snackBars = shown ++ s.snackBars) (hmem : c.successMessage ∈ shown) : ¬ s.CallRight c answer reply t := by
  intro h
  obtain ⟨shown', hshown', haccepted⟩ := h.success
  have heq : shown' = shown := List.append_cancel_right (hshown'.symm.trans hsnack)
  exact hnot (haccepted (heq ▸ hmem))

/-- An accepted cancel leaves the status of a submitted document, and a rejected one shows that it has succeeded. -/
theorem cancelledDocument_not_right (hmodule : s.provider.currentModule ≠ none) :
    ¬ s.CallRight .cancel true reply (s.cancelledDocument true reply).state := by
  obtain ⟨m, hm⟩ := Option.ne_none_iff_exists'.mp hmodule
  rw [cancelledDocument, hm, Outcome.need_some, if_pos rfl]
  rcases cancelDoc_cases reply with hreply | hreply | hreply
  · have hacc : s.Accepted .cancel true reply := ⟨hmodule, rfl, hreply⟩
    rw [hreply]
    intro h
    have hstatus := h.status
    rw [if_pos hacc] at hstatus
    cases hstatus
  · have hnot : ¬ s.Accepted .cancel true reply := fun hacc => by cases hreply.symm.trans hacc.2.2
    rw [hreply]
    exact not_right_of_success ["canceled Successfully"] hnot rfl List.mem_cons_self
  · have hnot : ¬ s.Accepted .cancel true reply := fun hacc => by cases hreply.symm.trans hacc.2.2
    obtain ⟨error, herror⟩ : ∃ error, substring? "something went wrong :(" 22 = some error := ⟨_, rfl⟩
    rw [hreply, handleRequest, herror]
    exact not_right_of_success ["canceled Successfully", _] hnot rfl List.mem_cons_self

theorem callRight_iff : s.CallRight c answer reply (c.call s answer reply).state ↔
    (s.provider.currentModule ≠ none → answer = true → c = .submit ∧ submitDoc reply ≠ .returned none) := by
  by_cases hmodule : s.provider.currentModule = none
  · exact iff_of_true (callRight_of_no_module hmodule) fun h => absurd hmodule h
  · cases answer with
    | false => exact iff_of_true callRight_of_denied fun _ h => absurd h Bool.false_ne_true
    | true =>
      cases c with
      | submit => exact (submitDocument_right_iff hmodule).trans ⟨fun h _ _ => ⟨rfl, h⟩, fun h => (h hmodule rfl).2⟩
      | cancel => exact iff_of_false (cancelledDocument_not_right hmodule) fun h => by cases (h hmodule rfl).1

/-! ### Pages that are loaded -/

theorem endLoadPage_status (p : ModuleProvider) (page : ServerPage) :
    (Doc.at page.doc "docstatus").asIntOrNull? = some (p.endLoadPage (responseBody (some page))).state.pageSubmitStatus := by
  obtain ⟨docstatus, pdf, hdocstatus, hend⟩ := endLoadPage_some p page
  rw [hdocstatus, hend]
  rfl

theorem loaded_right_iff {i : Nat} {page : Option ServerPage} (hs : w.step (.loaded i page) = some w') :
    w.Right (.loaded i page) w' ↔ w.Guard (.loaded i page) := by
  obtain ⟨t, ht, rfl⟩ := Option.map_eq_some_iff.mp hs
  obtain ⟨r, -, rfl⟩ := Option.map_eq_some_iff.mp ht
  cases page with
  | none => exact iff_of_true (fun _ => rfl) fun _ p hp => absurd hp (Option.not_mem_none p)
  | some page =>
    simp only [Watched.Right, Watched.Guard, Option.isNone_some, Bool.false_eq_true, false_or, Option.mem_some_iff,
      forall_eq', endLoadPage_status w.page.provider page, Option.some.injEq]

/-- Through every sequence of submits and cancels, with pages loaded at any time in between, every call closes its dialog,
    shows a success and leaves a status as the server has decided, exactly when every confirmed call is a submit whose
    request comes back with an answer, and no page asked for before an accepted call brings another status. -/
theorem submit_cancel_run_iff (p : ModuleProvider) (routes : List PageRoute) (es : List DocumentEvent) :
    Each Watched.step Watched.Right ⟨{ provider := p, routes }, []⟩ es ↔
      Guarded Watched.step Watched.Guard ⟨{ provider := p, routes }, []⟩ es := by
  refine each_iff_guarded (I := fun _ => True) (fun _ _ _ _ _ _ => trivial) (fun w e w' _ hs => ?_) trivial
  cases e with
  | call c answer reply =>
    cases hs
    exact callRight_iff
  | loaded i page => exact loaded_right_iff hs

def orderPage : DocumentPage := { provider := { currentModule := some .salesOrder }, routes := [.other 0] }

def success (key : Bool) : DocReply := .response 200 (.map [("message", .map [("success_key", .bool key)])])

/-- A submit that gets no answer leaves the loading dialog open; a cancel that is accepted leaves the status of a submitted
    document; and one that is rejected shows that it has succeeded. -/
theorem dialog_left_open :
    ¬ Each Watched.step Watched.Right ⟨orderPage, []⟩ [.call .submit true .failed] ∧
    ¬ Each Watched.step Watched.Right ⟨orderPage, []⟩ [.call .cancel true (success true)] ∧
    ¬ Each Watched.step Watched.Right ⟨orderPage, []⟩ [.call .cancel true (success false)] := by
  refine ⟨fun h => ?_, fun h => ?_, fun h => ?_⟩
  · obtain ⟨above, habove, hclosed⟩ := (h _ rfl).1.routes
    have hopen : above = [.loadingDialog] := List.append_cancel_right habove.symm
    exact hclosed (hopen ▸ List.mem_singleton_self _)
  · exact cancelledDocument_not_right (by decide) (h _ rfl).1
  · exact cancelledDocument_not_right (by decide) (h _ rfl).1

end DocumentPage

end NextApp
