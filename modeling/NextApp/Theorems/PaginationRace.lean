import NextApp.Lib.Runs
import NextApp.Model.Pagination

/-! # Loading and resetting a list at once

A call of `getItems` reads the offset and the query after its first `await`, and appends to whatever list there is
after its second. A reset or a refresh starts another call without waiting for the one that is running, and the two
ask for the same page. -/

namespace NextApp.PaginationRace
open Paging
variable {κ α : Type*}

/-- A server with a fixed list of distinct rows for each query. -/
structure Server (κ α : Type*) where
  list : κ → List α
  nodup : ∀ q, (list q).Nodup

inductive ListEvent (κ : Type*) where
  | loadMore
  | refresh
  | reset (query : κ)
  | counted (i : Nat) (count : String)
  | answered (i : Nat)

def step (server : Server κ α) (s : PaginationList κ α) : ListEvent κ → Option (PaginationList κ α)
  | .loadMore => s.loadMore
  | .refresh => s.refresh
  | .reset query => some (s.reset query)
  | .counted i count => s.counted i count
  | .answered i => s.answered i fun query start => getList (server.list query) true start

/-- With no call running the rows are a prefix of the list of the last query, each of them once, and
    `newLoadCount` counts them. -/
def ShowsPrefix (server : Server κ α) (s : PaginationList κ α) : Prop :=
  s.running = [] → ∀ q ∈ s.query,
    s.state.items <+: server.list q ∧ s.state.items.Nodup ∧ s.state.newLoadCount = s.state.items.length

/-- The list is reset and refreshed with no call running. -/
def ResetsAtRest (s : PaginationList κ α) : ListEvent κ → Prop
  | .reset _ | .refresh => s.running = []
  | _ => True

instance (s : PaginationList κ α) : (e : ListEvent κ) → Decidable (ResetsAtRest s e)
  | .reset _ | .refresh =>
    match h : s.running with
    | [] => isTrue h
    | _ :: _ => isFalse fun h' => by simp [ResetsAtRest, h] at h'
  | .loadMore | .counted _ _ | .answered _ => isTrue trivial

/-- The call that is running: its rows are those that come next. -/
def Running (s : PaginationList κ α) : Prop :=
  s.running = [] ∧
      (s.state.noMoreItems = false → s.query ≠ none →
        s.state.pageCount + paginationPageLength = s.state.items.length) ∨
    s.state.isLoading = true ∧ s.state.pageCount = s.state.items.length ∧
      (s.running = [.counting] ∨ ∃ q, s.query = some q ∧ s.running = [.asked q s.state.items.length])

/-- Between two events. -/
structure AtRest (server : Server κ α) (s : PaginationList κ α) : Prop where
  rows : ∀ q ∈ s.query, s.state.items <+: server.list q
  count : s.state.newLoadCount = s.state.items.length
  unasked : s.query = none → s.state.items = []
  running : Running s

variable {server : Server κ α} {s t : PaginationList κ α} {e : ListEvent κ}

theorem showsPrefix_of_atRest (h : AtRest server s) : ShowsPrefix server s :=
  fun _ q hq => ⟨h.rows q hq, (server.nodup q).sublist (h.rows q hq).sublist, h.count⟩

theorem endItems_getList (s : PaginationState α) (l : List α) (n : Nat) :
    let t := s.endItems (getList l true n)
    t.items = s.items ++ slice l n paginationPageLength ∧
      t.newLoadCount = s.newLoadCount + (slice l n paginationPageLength).length ∧ t.pageCount = s.pageCount ∧
      (t.noMoreItems = false → (slice l n paginationPageLength).length = paginationPageLength) := by
  refine ⟨?_, ?_, ?_, fun hmore => ?_⟩
  · simp [PaginationState.endItems, getList]
  · simp [PaginationState.endItems, getList]
  · simp [PaginationState.endItems, getList]
  · simp only [PaginationState.endItems, getList, if_true, Int.toNat_natCast, Bool.or_eq_false_iff,
      decide_eq_false_iff_not, not_lt] at hmore
    exact le_antisymm (List.length_take_le _ _) hmore.2

theorem atRest_reset (query : κ) (hrunning : s.running = []) : AtRest server (s.reset query) where
  rows _ _ := List.nil_prefix
  count := rfl
  unasked h := nomatch h
  running := Or.inr ⟨rfl, rfl, Or.inl (by simp [PaginationList.reset, PaginationList.getItems, hrunning])⟩

theorem atRest_loadMore (h : AtRest server s) (hstep : s.loadMore = some t) : AtRest server t := by
  unfold PaginationList.loadMore at hstep
  split at hstep
  · cases hstep
  · rename_i hitems
    split at hstep
    · cases hstep
      exact h
    · rename_i hload
      cases hstep
      rw [not_or] at hload
      have hquery : s.query ≠ none := fun hnone => hitems (by simp [h.unasked hnone])
      rcases h.running with ⟨hrunning, hnext⟩ | ⟨hloading, -⟩
      · refine ⟨h.rows, h.count, h.unasked, Or.inr ⟨rfl, hnext (by simpa using hload.1) hquery, Or.inl ?_⟩⟩
        simp [PaginationList.getItems, hrunning]
      · exact absurd hloading hload.2

theorem atRest_refresh (hrunning : s.running = []) (hstep : s.refresh = some t) : AtRest server t := by
  unfold PaginationList.refresh at hstep
  split at hstep
  · cases hstep
  · cases hstep
    refine ⟨fun _ _ => List.nil_prefix, rfl, fun _ => rfl, Or.inr ⟨rfl, rfl, Or.inl ?_⟩⟩
    simp [PaginationList.getItems, hrunning]

theorem atRest_counted (h : AtRest server s) {i : Nat} {count : String} (hstep : s.counted i count = some t) :
    AtRest server t := by
  unfold PaginationList.counted at hstep
  split at hstep
  · rename_i query hi hquery
    cases hstep
    refine ⟨h.rows, h.count, h.unasked, ?_⟩
    rcases h.running with ⟨hrunning, -⟩ | ⟨hloading, hpage, hone | ⟨q, -, hone⟩⟩
    · simp [hrunning] at hi
    · rw [hone] at hi
      obtain rfl : i = 0 := by
        by_contra hne
        rw [List.getElem?_eq_none (by simp; omega)] at hi
        cases hi
      exact Or.inr ⟨hloading, hpage, Or.inr ⟨query, hquery, by simp [hone, hpage, PaginationState.countItems]⟩⟩
    · rw [hone] at hi
      cases i with
      | zero => cases hi
      | succ i => cases hi
  · cases hstep

theorem atRest_answered (h : AtRest server s) {i : Nat}
    (hstep : s.answered i (fun query start => getList (server.list query) true start) = some t) : AtRest server t := by
  unfold PaginationList.answered at hstep
  split at hstep
  · rename_i query start hi
    cases hstep
    rcases h.running with ⟨hrunning, -⟩ | ⟨hloading, hpage, hone | ⟨q, hq, hone⟩⟩
    · simp [hrunning] at hi
    · rw [hone] at hi
      cases i with
      | zero => cases hi
      | succ i => cases hi
    · rw [hone] at hi
      cases i with
      | succ i => cases hi
      | zero =>
        cases hi
        obtain ⟨hitems, hcount, hpageCount, hmore⟩ := endItems_getList s.state (server.list query) s.state.items.length
        refine ⟨fun q' hq' => ?_, ?_, fun hnone => ?_, Or.inl ⟨by simp [hone], fun hnot _ => ?_⟩⟩
        · cases hq.symm.trans hq'
          rw [hitems]
          exact append_slice_prefix (h.rows query hq)
        · rw [hitems, hcount, h.count, List.length_append]
        · rw [hq] at hnone
          cases hnone
        · -- a full page, or the end would have been noted
          rw [hitems, hpageCount, hpage, List.length_append]
          rw [hmore hnot]
          push_cast
          rfl
  · cases hstep

theorem atRest_step (h : AtRest server s) (hstep : step server s e = some t) (hguard : ResetsAtRest s e) :
    AtRest server t := by
  cases e with
  | loadMore => exact atRest_loadMore h hstep
  | refresh => exact atRest_refresh hguard hstep
  | reset query =>
    cases hstep
    exact atRest_reset query hguard
  | counted i count => exact atRest_counted h hstep
  | answered i => exact atRest_answered h hstep

/-- In every run that resets and refreshes the list only with no call of `getItems` running, the rows are a prefix of
    the list of the last query whenever none is. -/
theorem showsPrefix_of_resetsAtRest (server : Server κ α) (es : List (ListEvent κ))
    (h : Runs.Guarded (step server) ResetsAtRest {} es) : Runs.Along (step server) (ShowsPrefix server) {} es :=
  (Runs.along_of_guarded (I := AtRest server) (fun _ _ _ hs hstep hg => atRest_step hs hstep hg)
    ⟨fun _ _ => List.nil_prefix, rfl, fun _ => rfl, Or.inl ⟨rfl, fun _ hne => absurd rfl hne⟩⟩ h).mono
    fun _ => showsPrefix_of_atRest

/-- Rows that are the numbers of their query. -/
def numbers : Server Nat Nat where
  list q := List.range q
  nodup _ := List.nodup_range

/-- A search that is read to its end, refreshed, and followed by another one. -/
theorem showsPrefix_numbers :
    Runs.Along (step numbers) (ShowsPrefix numbers) {}
      [.reset 21, .counted 0 "21", .answered 0, .loadMore, .loadMore, .counted 0 "21", .answered 0, .refresh,
        .counted 0 "21", .loadMore, .answered 0, .reset 3, .counted 0 "3", .answered 0] :=
  showsPrefix_of_resetsAtRest numbers _ (by decide)

/-- A second search before the count for the first one has arrived: both calls ask for the first page of it. -/
theorem rows_of_two_calls :
    ¬ Runs.Along (step numbers) (ShowsPrefix numbers) {}
      [.reset 2, .reset 3, .counted 0 "3", .counted 1 "3", .answered 0, .answered 0] := by
  intro h
  have hlast := (((((h.2 _ rfl).2 _ rfl).2 _ rfl).2 _ rfl).2 _ rfl).2 _ rfl
  exact absurd (hlast rfl _ rfl).2.1 (by decide)

end NextApp.PaginationRace
