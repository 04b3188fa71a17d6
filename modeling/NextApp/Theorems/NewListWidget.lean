import NextApp.Model.NewListWidget

/-! # The rows that a link picker offers

Every response writes the list, whichever call it is for. The rows are those of the last search as long as no response to an
earlier one has rows of its own to bring. -/

namespace NextApp.NewListWidget
open Runs
variable {docType : String} {filter : Option Doc} {s t : NewListWidget} {e : NewListEvent}

/-- The last call has no response yet. -/
def Awaits (s : NewListWidget) : Prop := ∃ request ∈ s.requests, request.1 + 1 = s.calls

/-- No rows while the last call has no response; and at rest the rows of the last call, if it has brought any. -/
def Right (s : NewListWidget) : Prop :=
  (s.Awaits → s.offered = []) ∧ (s.requests = [] → s.offered = s.answer.getD [])

/-- A response to an earlier call fails or has no rows while the last one is waited for; and the response that comes last
    leaves the rows of the last call. -/
def Guard (s : NewListWidget) : NewListEvent → Prop
  | .handelCall _ => True
  | .response call response => call + 1 ≠ s.calls →
      (s.Awaits → (generalGetList response).getD [] = []) ∧
      ((∀ request ∈ s.requests, request.1 = call) → (generalGetList response).getD s.getList = s.answer.getD [])

structure Inv (s : NewListWidget) : Prop where
  awaits : s.Awaits → s.getList = []
  rests : s.requests = [] → s.isLoading = false ∧ s.getList = s.answer.getD []

theorem Inv.right (h : Inv s) : s.Right := by
  refine ⟨fun hawaits => ?_, fun hnil => ?_⟩
  · rw [offered, h.awaits hawaits, ite_self]
  · rw [offered, (h.rests hnil).1]
    exact (h.rests hnil).2

theorem inv_init : Inv {} where
  awaits := fun ⟨_, hr, _⟩ => absurd hr List.not_mem_nil
  rests _ := ⟨rfl, rfl⟩

/-! ### A response -/

variable {call : Nat} {rows : Option (List Value)}

theorem offered_complete : (s.complete call rows).offered = rows.getD s.getList := rfl

theorem awaits_complete : (s.complete call rows).Awaits ↔ s.Awaits ∧ call + 1 ≠ s.calls := by
  constructor
  · rintro ⟨request, hr, hlast⟩
    obtain ⟨hr, hne⟩ := List.mem_filter.mp hr
    refine ⟨⟨request, hr, hlast⟩, fun hcall => of_decide_eq_true hne ?_⟩
    have hlast' : request.1 + 1 = s.calls := hlast
    omega
  · rintro ⟨⟨request, hr, hlast⟩, hne⟩
    refine ⟨request, List.mem_filter.mpr ⟨hr, decide_eq_true fun heq => hne ?_⟩, hlast⟩
    rw [← heq, hlast]

theorem requests_complete : (s.complete call rows).requests = [] ↔ ∀ request ∈ s.requests, request.1 = call := by
  simp [complete, List.filter_eq_nil_iff]

theorem awaits_of_requests (hcall : call ∈ s.requests.map Prod.fst) (hlast : call + 1 = s.calls) : s.Awaits := by
  obtain ⟨request, hr, rfl⟩ := List.mem_map.mp hcall
  exact ⟨request, hr, hlast⟩

theorem inv_step (h : Inv s) (hs : s.step docType filter e = some t) (hg : s.Guard e) : Inv t := by
  cases e with
  | handelCall search =>
    cases hs
    exact ⟨fun _ => rfl, fun hnil => absurd hnil (by simp [handelCall])⟩
  | response call response =>
    obtain ⟨hcall, hs⟩ := Option.ite_none_right_eq_some.mp hs
    cases hs
    constructor
    · intro hawaits
      obtain ⟨hawaits, hne⟩ := awaits_complete.mp hawaits
      change (generalGetList response).getD s.getList = []
      rw [h.awaits hawaits]
      exact (hg hne).1 hawaits
    · intro hnil
      refine ⟨rfl, ?_⟩
      change (generalGetList response).getD s.getList = (if call + 1 = s.calls then generalGetList response else s.answer).getD []
      by_cases hlast : call + 1 = s.calls
      · rw [if_pos hlast, h.awaits (awaits_of_requests hcall hlast)]
      · rw [if_neg hlast]
        exact (hg hlast).2 (requests_complete.mp hnil)

theorem guard_of_right (h : Inv s) (hs : s.step docType filter e = some t) (ht : t.Right) : s.Guard e := by
  cases e with
  | handelCall search => trivial
  | response call response =>
    obtain ⟨-, hs⟩ := Option.ite_none_right_eq_some.mp hs
    cases hs
    refine fun hne => ⟨fun hawaits => ?_, fun honly => ?_⟩
    · have hoffered := ht.1 (awaits_complete.mpr ⟨hawaits, hne⟩)
      rwa [offered_complete, h.awaits hawaits] at hoffered
    · have hoffered := ht.2 (requests_complete.mpr honly)
      have hanswer : (s.complete call (generalGetList response)).answer = s.answer := if_neg hne
      rwa [offered_complete, hanswer] at hoffered

/-- Through every sequence of searches and of responses, in whatever order, the latest search wins exactly when no response to
    an earlier one brings rows while the last is waited for, and the response that comes last leaves the rows of the last
    search. -/
theorem latest_wins_iff (docType : String) (filter : Option Doc) (es : List NewListEvent) :
    Along (step docType filter) Right {} es ↔ Guarded (step docType filter) Guard {} es :=
  along_iff_guarded (fun _ h => h.right) (fun _ _ _ => inv_step) (fun _ _ _ => guard_of_right) inv_init

/-- `foo` is searched for after `f`, and the response for `f` comes last. -/
theorem stale_rows_offered : ¬ Along (step "Item" none) Right {}
    [.handelCall (some "f"), .handelCall (some "foo"),
      .response 1 (some [("message", .list [.map [("name", .str "Food")]])]),
      .response 0 (some [("message", .list [.map [("name", .str "Fan")]])])] := by
  intro h
  have hright : Right _ := ((((h.2 _ rfl).2 _ rfl).2 _ rfl).2 _ rfl)
  exact absurd (hright.2 rfl) (by decide)

end NextApp.NewListWidget
