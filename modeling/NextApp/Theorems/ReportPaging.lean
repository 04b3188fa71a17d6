import NextApp.Lib.Runs
import NextApp.Model.Report

/-! # The pages of a report

A report asks for its first page at 0 and for the page after `n` rows at `n + 1`. On a server that counts the
rows from 0, as the list screens have it, the row after a page is left out, so a later page is right only when
there are no more rows. -/

namespace NextApp.ReportPaging
open Paging
variable {α : Type*} {r : Report} {f : r.Filters} {l : List α} {s t : ReportState α}

def natAt (q : Doc) (k : String) : Nat :=
  match q.at k with
  | .int i => i.toNat
  | _ => 0

/-- The rows that the server answers a query with when it counts from 0. -/
def serveRows (l : List α) (q : Doc) : List α := slice l (natAt q "start") (natAt q "page_length")

/-- How a load ends: with the rows of the server, with a failure, or with an exception. -/
inductive LoadEnd where
  | answered
  | failed (errorMessage : String)
  | threw
deriving DecidableEq, Repr

def LoadEnd.result (e : LoadEnd) (rows : List α) : UseCaseResult α :=
  match e with
  | answered => .right rows
  | failed message => .left message
  | threw => .threw

/-- One `Get` that ends before the next one begins. -/
def loadStep (r : Report) (f : r.Filters) (l : List α) (s : ReportState α) (e : LoadEnd) : Option (ReportState α) :=
  some ((s.startGet f).elim s fun x => s.endGet x (e.result (serveRows l (r.query x.filters))))

/-- The rows are a prefix of the server list, and the end is noted only when they are all of it. -/
structure GapFree (l : List α) (s : ReportState α) : Prop where
  rows : s.reportData <+: l
  done : s.hasReachedMax = true → s.reportData = l

instance [DecidableEq α] (l : List α) (s : ReportState α) : Decidable (GapFree l s) :=
  decidable_of_iff (s.reportData <+: l ∧ (s.hasReachedMax = true → s.reportData = l))
    ⟨fun h => ⟨h.1, h.2⟩, fun h => ⟨h.rows, h.done⟩⟩

/-- A load leaves the rows free of gaps, and as they are when it fails. -/
def LoadsGapFree (l : List α) (s : ReportState α) (e : LoadEnd) (t : ReportState α) : Prop :=
  GapFree l t ∧ (e ≠ .answered → t.reportData = s.reportData)

instance [DecidableEq α] (l : List α) (s : ReportState α) (e : LoadEnd) (t : ReportState α) :
    Decidable (LoadsGapFree l s e t) :=
  inferInstanceAs (Decidable (_ ∧ _))

/-- A load for a later page is answered only when all rows are there. -/
def AnsweredAtEnd (l : List α) (s : ReportState α) (e : LoadEnd) : Prop :=
  e = .answered → s.hasReachedMax = false → s.reportsState ≠ .loading → l.length ≤ s.reportData.length

instance (l : List α) (s : ReportState α) (e : LoadEnd) : Decidable (AnsweredAtEnd l s e) :=
  inferInstanceAs (Decidable (_ → _))

/-! ### One load -/

theorem serveRows_query (l : List α) (f : r.Filters) {n : Nat} (h : r.startKey f = some (n : Int)) :
    serveRows l (r.query f) = slice l n pageLength := by
  have hstart : (r.query f).at "start" = .int n := by
    have : (r.query f).at "start" = .ofInt? (r.startKey f) := by cases r <;> rfl
    rw [this, h]
    rfl
  have hlength : (r.query f).at "page_length" = .int pageLength := by cases r <;> rfl
  rw [serveRows, natAt, natAt, hstart, hlength]
  rfl

theorem data_of_not_answered {e : LoadEnd} (h : loadStep r f l s e = some t) (he : e ≠ .answered) :
    t.reportData = s.reportData ∧ t.hasReachedMax = s.hasReachedMax := by
  cases h
  cases s.startGet f with
  | none => exact ⟨rfl, rfl⟩
  | some x =>
    cases e with
    | answered => exact absurd rfl he
    | failed message => exact ⟨rfl, rfl⟩
    | threw => exact ⟨rfl, rfl⟩

theorem loadStep_max (h : s.hasReachedMax = true) (e : LoadEnd) : loadStep r f l s e = some s := by
  rw [loadStep, ReportState.startGet, if_pos h]
  rfl

theorem loadStep_first (hf : r.startKey f = some 0) (hmax : s.hasReachedMax = false) (hloading : s.reportsState = .loading) :
    ∃ t, loadStep r f l s .answered = some t ∧ t.reportData = l.take pageLength ∧
      t.hasReachedMax = decide ((l.take pageLength).length < pageLength) := by
  have hrows : serveRows l (r.query f) = l.take pageLength := serveRows_query l f (n := 0) hf
  refine ⟨_, rfl, ?_, ?_⟩
  · simp [ReportState.startGet, ReportState.endGet, LoadEnd.result, hmax, hloading, hrows]
  · simp [ReportState.startGet, ReportState.endGet, LoadEnd.result, hmax, hloading, hrows]

theorem loadStep_later (hmax : s.hasReachedMax = false) (hloading : s.reportsState ≠ .loading) :
    ∃ t, loadStep r f l s .answered = some t ∧
      t.reportData = s.reportData ++ slice l (s.reportData.length + 1) pageLength ∧
      t.hasReachedMax = decide ((slice l (s.reportData.length + 1) pageLength).length < pageLength) := by
  have hrows := serveRows_query l (r.nextFilters f s.reportData.length) (r.startKey_nextFilters f s.reportData.length)
  refine ⟨_, rfl, ?_, ?_⟩
  · simp [ReportState.startGet, ReportState.endGet, LoadEnd.result, hmax, hloading, hrows]
  · simp [ReportState.startGet, ReportState.endGet, LoadEnd.result, hmax, hloading, hrows]

theorem gapFree_take (l : List α) (h : s.reportData = l.take pageLength)
    (hmax : s.hasReachedMax = decide ((l.take pageLength).length < pageLength)) : GapFree l s where
  rows := h ▸ List.take_prefix _ _
  done hd := by
    have hshort : (l.take pageLength).length < pageLength := of_decide_eq_true (hmax.symm.trans hd)
    rw [List.length_take] at hshort
    rw [h, List.take_of_length_le (by omega)]

theorem gapFree_step (hf : r.startKey f = some 0) (hs : GapFree l s) {e : LoadEnd} (h : loadStep r f l s e = some t)
    (hguard : AnsweredAtEnd l s e) : GapFree l t := by
  by_cases he : e = .answered
  · subst he
    cases hmax : s.hasReachedMax with
    | true =>
      rw [loadStep_max hmax] at h
      cases h
      exact hs
    | false =>
      by_cases hloading : s.reportsState = .loading
      · obtain ⟨t', ht', hdata, hmax'⟩ := loadStep_first (l := l) hf hmax hloading
        cases ht'.symm.trans h
        exact gapFree_take l hdata hmax'
      · obtain ⟨t', ht', hdata, -⟩ := loadStep_later (f := f) (l := l) hmax hloading
        cases ht'.symm.trans h
        have hall : l.length ≤ s.reportData.length := hguard rfl hmax hloading
        have heq : t.reportData = l := by
          rw [hdata, slice_of_length_le (by omega), List.append_nil]
          exact hs.rows.eq_of_length_le hall
        exact ⟨heq ▸ List.prefix_refl _, fun _ => heq⟩
  · obtain ⟨hdata, hmax⟩ := data_of_not_answered h he
    exact ⟨hdata ▸ hs.rows, fun hd => hdata.trans (hs.done (hmax ▸ hd))⟩

/-- With distinct rows, what a later page leaves out is missed. -/
theorem answeredAtEnd_of_gapFree (hn : l.Nodup) (hs : GapFree l s) {e : LoadEnd} (h : loadStep r f l s e = some t)
    (ht : GapFree l t) : AnsweredAtEnd l s e := by
  rintro rfl hmax hloading
  obtain ⟨t', ht', hdata, hmax'⟩ := loadStep_later (f := f) (l := l) hmax hloading
  cases ht'.symm.trans h
  by_contra hlt
  have htake : s.reportData = l.take s.reportData.length := List.prefix_iff_eq_take.mp hs.rows
  by_cases hlast : s.reportData.length + 1 < l.length
  · have hrows := ht.rows
    rw [hdata, htake, List.length_take, min_eq_left (by omega)] at hrows
    exact not_prefix_of_gap hn (Nat.lt_succ_self _) hlast (by decide) hrows
  · have hnil : slice l (s.reportData.length + 1) pageLength = [] := slice_of_length_le (by omega)
    rw [hnil] at hdata hmax'
    rw [List.append_nil] at hdata
    have hall : s.reportData = l := hdata.symm.trans (ht.done hmax')
    exact hlt (hall ▸ le_rfl)

/-! ### Runs -/

/-- From a reset on, through any loads one after another, the rows of a report stay free of gaps when a later page
    is answered only once all rows are there; on distinct rows, through no others. -/
theorem loadsGapFree_iff (r : Report) (c : r.Choice) (l : List α) (s : ReportState α) (es : List LoadEnd) :
    (Runs.Guarded (loadStep r (r.applyFilters c) l) (AnsweredAtEnd l) s.reset es →
        Runs.Each (loadStep r (r.applyFilters c) l) (LoadsGapFree l) s.reset es) ∧
      (l.Nodup → Runs.Each (loadStep r (r.applyFilters c) l) (LoadsGapFree l) s.reset es →
        Runs.Guarded (loadStep r (r.applyFilters c) l) (AnsweredAtEnd l) s.reset es) := by
  have hreset : GapFree l s.reset := ⟨List.nil_prefix, fun h => nomatch h⟩
  have hstart : r.startKey (r.applyFilters c) = some 0 := r.startKey_applyFilters c
  refine ⟨fun hguard => ?_, fun hn heach => ?_⟩
  · refine Runs.each_of_guarded (I := GapFree l) (fun s e t hs h hg => gapFree_step hstart hs h hg) ?_ hreset hguard
    exact fun s e t hs h hg => ⟨gapFree_step hstart hs h hg, fun he => (data_of_not_answered h he).1⟩
  · refine (Runs.each_iff_guarded (I := GapFree l) (fun s e t hs h hg => gapFree_step hstart hs h hg) ?_ hreset).mp heach
    exact fun s e t hs h => ⟨fun hq => answeredAtEnd_of_gapFree hn hs h hq.1,
      fun hg => ⟨gapFree_step hstart hs h hg, fun he => (data_of_not_answered h he).1⟩⟩

/-- The page after 20 of 41 prices leaves out the first one that is due. -/
theorem gap_after_first_page :
    ¬ Runs.Each (loadStep .itemPrice (Report.itemPrice.applyFilters ⟨"Standard Selling", none, none⟩) (List.range 41))
      (LoadsGapFree (List.range 41)) (ReportState.reset {}) [.answered, .answered] := by
  decide

/-- The 20 prices that there are, a failed load and one that finds no more. -/
theorem loadsGapFree_prices :
    Runs.Each (loadStep .itemPrice (Report.itemPrice.applyFilters ⟨"Standard Selling", none, none⟩) (List.range 20))
        (LoadsGapFree (List.range 20)) (ReportState.reset {}) [.threw, .answered, .failed "", .answered] ∧
      Runs.Guarded (loadStep .itemPrice (Report.itemPrice.applyFilters ⟨"Standard Selling", none, none⟩) (List.range 20))
        (AnsweredAtEnd (List.range 20)) (ReportState.reset {}) [.threw, .answered, .failed "", .answered] := by
  have heach := (loadsGapFree_iff .itemPrice ⟨"Standard Selling", none, none⟩ (List.range 20) {}
    [.threw, .answered, .failed "", .answered]).1 (by decide)
  exact ⟨heach, (loadsGapFree_iff .itemPrice _ _ _ _).2 List.nodup_range heach⟩

end NextApp.ReportPaging
