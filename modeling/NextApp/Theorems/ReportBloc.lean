import NextApp.Lib.Runs
import NextApp.Model.Report

/-! # Reports that are built again

A report screen adds `Reset` and `Get` to its bloc whenever it is built. A `Reset` in the middle of a fetch empties
the rows, but the `Get` after it is dropped, and the answer of the fetch is taken for that of the new one. That is
right when it brings the first page for the same filters. -/

namespace NextApp.ReportBlocs
open Paging
variable {α : Type*} {r : Report}

/-- A server with a fixed list of distinct rows for all filters. -/
structure Server (r : Report) (α : Type*) where
  list : r.Filters → List α
  nodup : ∀ f, (list f).Nodup

/-- The page from 0 is the first, the page from `n + 1` the one after row `n`. -/
def Server.page (server : Server r α) (f : r.Filters) : List α :=
  match r.startKey f with
  | some (.ofNat (n + 1)) => slice (server.list (r.unpaged f)) n pageLength
  | _ => slice (server.list (r.unpaged f)) 0 pageLength

/-- A bloc with the choice that its screen has been built for last. -/
structure Screen (r : Report) (α : Type*) where
  bloc : ReportBloc r α := {}
  built : Option r.Choice := none

inductive ScreenEvent (r : Report) where
  | build (c : r.Choice)
  | loadMore
  | answer

def step (server : Server r α) (s : Screen r α) : ScreenEvent r → Option (Screen r α)
  | .build c => some ⟨s.bloc.reset.get (r.applyFilters c), some c⟩
  | .loadMore => s.built.map fun c => { s with bloc := s.bloc.get (r.applyFilters c) }
  | .answer => (s.bloc.answer fun x => .right (server.page x.filters)).map fun b => { s with bloc := b }

/-- With no fetch running the rows are a prefix of the list for the last choice, each of them once. -/
def ShowsBuilt (server : Server r α) (s : Screen r α) : Prop :=
  s.bloc.running = none → ∀ c ∈ s.built,
    s.bloc.state.reportData <+: server.list (r.applyFilters c) ∧ s.bloc.state.reportData.Nodup

/-- An answer arrives for the filters of the last build, and for the first page where the screen has been built since
    the request. -/
def AnswersBuilt (s : Screen r α) : ScreenEvent r → Prop
  | .answer => ∀ x ∈ s.bloc.running, ∀ c ∈ s.built,
      r.unpaged x.filters = r.applyFilters c ∧ (s.bloc.state.reportsState = .loading → x.first = true)
  | _ => True

instance (s : Screen r α) : (e : ScreenEvent r) → Decidable (AnswersBuilt s e)
  | .answer => inferInstanceAs (Decidable (∀ x ∈ s.bloc.running, ∀ c ∈ s.built, _ ∧ (_ → _)))
  | .build _ | .loadMore => isTrue trivial

/-! ### The fetch that is running -/

/-- A fetch is for a first page, with no rows there, or for the page after the rows, unless these have been reset. -/
def Fetches (s : ReportState α) (x : ReportRequest r) : Prop :=
  (s.reportsState = .loading → s.reportData = []) ∧ (x.first = true → r.startKey x.filters = some 0) ∧
    (x.first = false → s.reportsState ≠ .loading → r.startKey x.filters = some (s.reportData.length + 1 : Nat)) ∧
    (x.first = true → s.reportsState = .loading)

/-- Between two events: a reset state has no rows, the rows that are there are those of the last build, and
    a fetch is as it was started. -/
structure Settled (server : Server r α) (s : Screen r α) : Prop where
  reset : s.bloc.state.reportsState = .loading → s.bloc.state.reportData = []
  rows : ∀ c ∈ s.built, s.bloc.state.reportData <+: server.list (r.applyFilters c)
  fetch : ∀ x ∈ s.bloc.running, Fetches s.bloc.state x

variable {server : Server r α} {s t : Screen r α} {e : ScreenEvent r}

theorem showsBuilt_of_settled (h : Settled server s) : ShowsBuilt server s :=
  fun _ c hc => ⟨h.rows c hc, (server.nodup _).sublist (h.rows c hc).sublist⟩

theorem fetches_startGet {s : ReportState α} (hreset : s.reportsState = .loading → s.reportData = []) (c : r.Choice)
    {x : ReportRequest r} (hx : x ∈ s.startGet (r.applyFilters c)) : Fetches s x := by
  unfold ReportState.startGet at hx
  split at hx
  · cases hx
  · split at hx
    · rename_i hloading
      cases hx
      exact ⟨hreset, fun _ => r.startKey_applyFilters c, fun h => (nomatch h), fun _ => hloading⟩
    · cases hx
      exact ⟨hreset, fun h => (nomatch h), fun _ _ => r.startKey_nextFilters _ _, fun h => (nomatch h)⟩

theorem state_get (b : ReportBloc r α) (f : r.Filters) : (b.get f).state = b.state := by
  unfold ReportBloc.get
  split <;> rfl

theorem fetches_get {b : ReportBloc r α} (hreset : b.state.reportsState = .loading → b.state.reportData = [])
    (hfetch : ∀ x ∈ b.running, Fetches b.state x) (c : r.Choice) :
    ∀ x ∈ (b.get (r.applyFilters c)).running, Fetches b.state x := by
  intro x hx
  unfold ReportBloc.get at hx
  split at hx
  · exact hfetch x hx
  · exact fetches_startGet hreset c hx

theorem fetches_reset {s : ReportState α} {x : ReportRequest r} (h : Fetches s x) : Fetches s.reset x :=
  ⟨fun _ => rfl, h.2.1, fun _ hloading => absurd rfl hloading, fun _ => rfl⟩

theorem page_first {f : r.Filters} (h : r.startKey f = some 0) :
    server.page f = (server.list (r.unpaged f)).take pageLength := by
  unfold Server.page
  rw [h]
  rfl

theorem page_next {f : r.Filters} {n : Nat} (h : r.startKey f = some (n + 1 : Nat)) :
    server.page f = slice (server.list (r.unpaged f)) n pageLength := by
  unfold Server.page
  rw [h]
  rfl

/-- The page of a fetch that fits the last build continues its list. -/
theorem rows_endGet {st : ReportState α} {x : ReportRequest r} {c : r.Choice} (hfetch : Fetches st x)
    (hrows : st.reportData <+: server.list (r.applyFilters c)) (hfilters : r.unpaged x.filters = r.applyFilters c)
    (hfirst : st.reportsState = .loading → x.first = true) :
    (st.endGet x (.right (server.page x.filters))).reportData <+: server.list (r.applyFilters c) := by
  unfold ReportState.endGet
  dsimp only
  split
  · rename_i hx
    rw [page_first (hfetch.2.1 hx), hfilters]
    exact List.take_prefix _ _
  · rename_i hx
    have hnot : x.first = false := by simpa using hx
    have hloading : st.reportsState ≠ .loading := fun h => hx (hfirst h)
    rw [page_next (hfetch.2.2.1 hnot hloading), hfilters]
    exact append_slice_prefix hrows

theorem settled_step (h : Settled server s) (hstep : step server s e = some t) (hguard : AnswersBuilt s e) :
    Settled server t := by
  cases e with
  | build c =>
    cases hstep
    have hreset : s.bloc.reset.state.reportsState = .loading → s.bloc.reset.state.reportData = [] := fun _ => rfl
    refine ⟨?_, fun c' _ => ?_, ?_⟩
    · rw [state_get]
      exact hreset
    · rw [state_get]
      exact List.nil_prefix
    · rw [state_get]
      exact fetches_get hreset (fun x hx => fetches_reset (h.fetch x hx)) c
  | loadMore =>
    obtain ⟨c, -, rfl⟩ := Option.map_eq_some_iff.mp hstep
    refine ⟨?_, ?_, ?_⟩
    · rw [state_get]
      exact h.reset
    · rw [state_get]
      exact h.rows
    · rw [state_get]
      exact fetches_get h.reset h.fetch c
  | answer =>
    obtain ⟨b, hb, rfl⟩ := Option.map_eq_some_iff.mp hstep
    obtain ⟨x, hx, rfl⟩ := Option.map_eq_some_iff.mp hb
    refine ⟨fun hloading => (nomatch hloading), fun c hc => ?_, fun y hy => (nomatch hy)⟩
    obtain ⟨hfilters, hfirst⟩ := hguard x hx c hc
    exact rows_endGet (h.fetch x hx) (h.rows c hc) hfilters hfirst

/-- In every run in which the answers are for the last build, a report shows a prefix of the list for the filters it
    has been built with last, whenever no fetch is running. -/
theorem showsBuilt_of_answersBuilt (r : Report) (server : Server r α) (es : List (ScreenEvent r))
    (h : Runs.Guarded (step server) AnswersBuilt {} es) : Runs.Along (step server) (ShowsBuilt server) {} es :=
  (Runs.along_of_guarded (I := Settled server) (fun _ _ _ hs hstep hg => settled_step hs hstep hg)
    ⟨fun _ => rfl, fun _ hc => absurd hc (by simp), fun _ hx => absurd hx (by simp)⟩ h).mono fun _ => showsBuilt_of_settled

def warehouses : Server .stockLedger Nat where
  list f := if f.warehouseFilter = "Stores" then List.range 41 else [100, 101]
  nodup f := by
    split
    · exact List.nodup_range
    · decide

/-- The ledger of the stores is built twice before its first page arrives, and goes on with the second. -/
theorem showsBuilt_stores :
    Runs.Along (step warehouses) (ShowsBuilt warehouses) {}
      [.build ⟨"Stores", none, none, "2024-01-01", "2024-01-31"⟩, .build ⟨"Stores", none, none, "2024-01-01", "2024-01-31"⟩,
        .answer, .loadMore, .loadMore, .answer] :=
  showsBuilt_of_answersBuilt .stockLedger warehouses _ (by decide)

/-- The ledger of another warehouse is built while the page of the stores is fetched: it shows that page. -/
theorem rows_of_other_warehouse :
    ¬ Runs.Along (step warehouses) (ShowsBuilt warehouses) {}
      [.build ⟨"Stores", none, none, "2024-01-01", "2024-01-31"⟩, .build ⟨"Transit", none, none, "2024-01-01", "2024-01-31"⟩,
        .answer] := by
  intro h
  have hlast := ((h.2 _ rfl).2 _ rfl).2 _ rfl
  exact absurd (hlast rfl _ rfl).1 (by decide)

end NextApp.ReportBlocs
