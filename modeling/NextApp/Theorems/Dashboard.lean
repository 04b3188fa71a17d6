import NextApp.Model.Dashboard

/-! # The dashboard is of one period

When the chart and the totals are both of the period that was asked for last once the replies have come, and the dialog asks for
the period that it shows. -/

namespace NextApp.Dashboard
open Runs DateText
variable {χ τ : Type*} {server : DashboardServer χ τ} {s t : Dashboard χ τ} {e : DashboardEvent} {now : DateTime}

def midnight (d : Date) : DateTime := ⟨micros d.dayNumber 0 0 0 0, false⟩

/-- The variables are what the dialog shows, with the time of their run for a field that is empty. -/
structure Shows (d : PeriodDialog) (v : PeriodVariables) : Prop where
  fromDate : v.fromDate = d.fromDate.elim v.now midnight
  toDate : v.toDate = d.toDate.elim v.now midnight

structure Sound (server : DashboardServer χ τ) (s : Dashboard χ τ) : Prop where
  chart : ∀ f ∈ s.period, s.chart.last server.getDashboardData = server.getDashboardData f
  totals : ∀ f ∈ s.period, s.totals.last server.getTotalData = server.getTotalData f
  picked : ∀ d ∈ s.dialog, ∃ v ∈ s.runs[d.run]?, Shows d v

/-- The dialog is opened only if nothing has been picked since the totals were built last. A reply leaves the last of its kind to
    come for the period that was asked for last, or it is the last, and has not failed where something else is shown. -/
def Guard (server : DashboardServer χ τ) (s : Dashboard χ τ) : DashboardEvent → Prop
  | .openFilter => ∀ v ∈ s.runs.getLast?, v = .ofNow v.now
  | .chartReply index reply => ∀ f ∈ s.period,
      (∀ q ∈ (s.chart.queries.eraseIdx index).getLast?, Polled.value server.getDashboardData q = server.getDashboardData f) ∧
      (s.chart.queries.eraseIdx index = [] → reply = .answer ∨ server.getDashboardData f = s.chart.shown)
  | .totalsReply index reply _ => ∀ f ∈ s.period,
      (∀ q ∈ (s.totals.queries.eraseIdx index).getLast?, Polled.value server.getTotalData q = server.getTotalData f) ∧
      (s.totals.queries.eraseIdx index = [] → reply = .answer ∨ server.getTotalData f = s.totals.shown)
  | _ => True

/-- With no reply to come a sound dashboard shows what the server has for one period. -/
theorem Sound.shown (h : s.Sound server) {f : TotalFilters} (hperiod : s.period = some f) (hchart : s.chart.queries = [])
    (htotals : s.totals.queries = []) :
    s.chart.shown = server.getDashboardData f ∧ s.totals.shown = server.getTotalData f := by
  constructor
  · rw [← h.chart f hperiod, Polled.last_of_queries hchart]
  · rw [← h.totals f hperiod, Polled.last_of_queries htotals]

/-! ### The variables -/

theorem setFrom_iso (v : PeriodVariables) (d : Date) : v.setFrom d.iso = { v with fromDate := midnight d } := by
  rw [PeriodVariables.setFrom, parse_iso]
  rfl

theorem setTo_iso (v : PeriodVariables) (d : Date) : v.setTo d.iso = { v with toDate := midnight d } := by
  rw [PeriodVariables.setTo, parse_iso]
  rfl

theorem shows_opened {v : PeriodVariables} {run : Nat} : Shows { run } v ↔ v = .ofNow v.now := by
  obtain ⟨now, fromDate, toDate⟩ := v
  simp only [PeriodVariables.ofNow, PeriodVariables.mk.injEq, true_and]
  exact ⟨fun h => ⟨h.fromDate, h.toDate⟩, fun h => ⟨h.1, h.2⟩⟩

/-- Another run of the builder leaves the variables of the earlier ones. -/
theorem picked_append {runs l : List PeriodVariables} {d : PeriodDialog} (h : ∃ v ∈ runs[d.run]?, Shows d v) :
    ∃ v ∈ (runs ++ l)[d.run]?, Shows d v := by
  obtain ⟨v, hv, hshows⟩ := h
  exact ⟨v, (List.getElem?_append_left (List.getElem?_eq_some_iff.mp hv).1).trans hv, hshows⟩

/-! ### Steps -/

theorem sound_ask {f : TotalFilters} (hpicked : ∀ d ∈ s.dialog, ∃ v ∈ s.runs[d.run]?, Shows d v) : (s.ask f).Sound server where
  chart f' hf := by
    cases hf
    exact Polled.last_ask
  totals f' hf := by
    cases hf
    exact Polled.last_ask
  picked := hpicked

theorem sound_rebuilt (h : s.Sound server) : (s.rebuilt now).Sound server :=
  ⟨h.chart, h.totals, fun d hd => picked_append (h.picked d hd)⟩

/-- A reply that fails leaves what is shown. -/
theorem last_reply {κ α : Type*} {view : κ → α} {p : Polled κ α} {query : κ × Option α} {index : Nat} {reply : DashboardReply}
    {v x : α} (hlast : p.last view = x) (hquery : p.queries[index]? = some query) (hok : reply = .answer → query.2 = some v)
    (hfailed : reply ≠ .answer → v = p.shown) :
    (p.arrive index v).last view = x ↔ (∀ q ∈ (p.queries.eraseIdx index).getLast?, Polled.value view q = x) ∧
      (p.queries.eraseIdx index = [] → reply = .answer ∨ x = p.shown) := by
  rw [Polled.last_arrive_iff hlast hquery (fun h => hok (of_decide_eq_true h)) (fun h => hfailed (of_decide_eq_false h)),
    decide_eq_true_iff]

theorem sound_chartReply {index : Nat} {reply : DashboardReply} {query : TotalFilters × Option χ} (h : s.Sound server)
    (hquery : s.chart.queries[index]? = some query) (ht : s.onChart index query reply = some t) :
    t.Sound server ↔ Guard server s (.chartReply index reply) := by
  obtain ⟨v, rfl, hok, hfailed⟩ : ∃ v, t = { s with chart := s.chart.arrive index v } ∧
      (reply = .answer → query.2 = some v) ∧ (reply ≠ .answer → v = s.chart.shown) := by
    cases reply with
    | answer =>
      obtain ⟨v, hv, rfl⟩ := Option.map_eq_some_iff.mp ht
      exact ⟨v, rfl, fun _ => hv, fun hne => absurd rfl hne⟩
    | failure errorMessage =>
      cases ht
      exact ⟨_, rfl, fun heq => (by cases heq), fun _ => rfl⟩
    | uncaught =>
      cases ht
      exact ⟨_, rfl, fun heq => (by cases heq), fun _ => rfl⟩
  constructor
  · exact fun ht f hf => (last_reply (h.chart f hf) hquery hok hfailed).mp (ht.chart f hf)
  · exact fun hg => ⟨fun f hf => (last_reply (h.chart f hf) hquery hok hfailed).mpr (hg f hf), h.totals, h.picked⟩

theorem emitted_cases [DecidableEq τ] : emitted s t now = t ∨ emitted s t now = t.rebuilt now := by
  rw [emitted]
  split
  · exact .inr rfl
  · exact .inl rfl

/-- What a reply with totals does: whether the builder runs again depends on the state that is emitted. -/
theorem onTotals_cases [DecidableEq τ] {index : Nat} {reply : DashboardReply} {query : TotalFilters × Option τ}
    (ht : s.onTotals index query now reply = some t) :
    ∃ v u, (t = u ∨ t = u.rebuilt now) ∧ u.chart = s.chart ∧ u.totals = s.totals.arrive index v ∧ u.period = s.period ∧
      u.dialog = s.dialog ∧ u.runs = s.runs ∧ (reply = .answer → query.2 = some v) ∧ (reply ≠ .answer → v = s.totals.shown) := by
  cases reply with
  | answer =>
    obtain ⟨v, hv, rfl⟩ := Option.map_eq_some_iff.mp ht
    exact ⟨v, _, emitted_cases, rfl, rfl, rfl, rfl, rfl, fun _ => hv, fun hne => absurd rfl hne⟩
  | failure errorMessage =>
    cases ht
    exact ⟨_, _, emitted_cases, rfl, rfl, rfl, rfl, rfl, fun heq => (by cases heq), fun _ => rfl⟩
  | uncaught =>
    cases ht
    exact ⟨_, _, .inl rfl, rfl, rfl, rfl, rfl, rfl, fun heq => (by cases heq), fun _ => rfl⟩

theorem sound_totalsReply [DecidableEq τ] {index : Nat} {reply : DashboardReply} {query : TotalFilters × Option τ}
    (h : s.Sound server) (hquery : s.totals.queries[index]? = some query) (ht : s.onTotals index query now reply = some t) :
    t.Sound server ↔ Guard server s (.totalsReply index reply now) := by
  obtain ⟨v, u, htu, hchart, htotals, hperiod, hdialog, hruns, hok, hfailed⟩ := onTotals_cases ht
  have hlast (f : TotalFilters) (hf : f ∈ s.period) := last_reply (h.totals f hf) hquery hok hfailed
  rw [← htotals] at hlast
  constructor
  · intro ht f hf
    refine (hlast f hf).mp ?_
    rcases htu with rfl | rfl
    · exact ht.totals f (hperiod ▸ hf)
    · exact ht.totals f (show f ∈ u.period from hperiod ▸ hf)
  · intro hg
    have hsound : u.Sound server := by
      refine ⟨fun f hf => ?_, fun f hf => ?_, fun d hd => ?_⟩
      · rw [hchart]
        exact h.chart f (hperiod ▸ hf)
      · exact (hlast f (hperiod ▸ hf)).mpr (hg f (hperiod ▸ hf))
      · rw [hruns]
        exact h.picked d (hdialog ▸ hd)
    rcases htu with rfl | rfl
    · exact hsound
    · exact sound_rebuilt hsound

/-- A date that is picked is taken into the variables of the run that the dialog is from. -/
theorem picked_modify {d d' : PeriodDialog} {f : PeriodVariables → PeriodVariables} (h : s.Sound server) (hd : s.dialog = some d)
    (hrun : d'.run = d.run) (hf : ∀ v, Shows d v → Shows d' (f v)) :
    Sound server { s with dialog := some d', runs := s.runs.modify d.run f } where
  chart := h.chart
  totals := h.totals
  picked d'' hd'' := by
    cases hd''
    obtain ⟨v, hv, hshows⟩ := h.picked d hd
    refine ⟨f v, ?_, hf v hshows⟩
    rw [hrun, List.getElem?_modify, hv]
    simp

theorem sound_openFilter [DecidableEq τ] (h : s.Sound server) (ht : s.step server .openFilter = some t) :
    t.Sound server ↔ Guard server s .openFilter := by
  obtain ⟨⟨-, -, hne⟩, ht⟩ := Option.ite_none_right_eq_some.mp ht
  cases ht
  have hlast : s.runs[s.runs.length - 1]? = s.runs.getLast? := List.getLast?_eq_getElem?.symm
  constructor
  · intro ht v hv
    obtain ⟨v', hv', hshows⟩ := ht.picked _ rfl
    cases (hlast.symm.trans hv').symm.trans hv
    exact shows_opened.mp hshows
  · intro hg
    refine ⟨h.chart, h.totals, fun d hd => ?_⟩
    cases hd
    have hv : s.runs.getLast? = some (s.runs.getLast hne) := List.getLast?_eq_some_getLast hne
    exact ⟨_, hlast.trans hv, shows_opened.mpr (hg _ hv)⟩

theorem sound_step [DecidableEq τ] (h : s.Sound server) (ht : s.step server e = some t) : t.Sound server ↔ Guard server s e := by
  cases e with
  | enter now =>
    obtain ⟨-, ht⟩ := Option.ite_none_left_eq_some.mp ht
    cases ht
    exact iff_of_true (sound_rebuilt (sound_ask h.picked)) trivial
  | leave =>
    obtain ⟨-, ht⟩ := Option.ite_none_right_eq_some.mp ht
    cases ht
    exact iff_of_true ⟨h.chart, h.totals, h.picked⟩ trivial
  | refresh now =>
    obtain ⟨-, ht⟩ := Option.ite_none_right_eq_some.mp ht
    cases ht
    exact iff_of_true (sound_ask h.picked) trivial
  | openFilter => exact sound_openFilter h ht
  | pickFrom d =>
    obtain ⟨dialog, hdialog, rfl⟩ := Option.map_eq_some_iff.mp ht
    refine iff_of_true (picked_modify h hdialog rfl fun v hv => ?_) trivial
    rw [setFrom_iso]
    exact ⟨rfl, hv.toDate⟩
  | pickTo d =>
    obtain ⟨dialog, hdialog, rfl⟩ := Option.map_eq_some_iff.mp ht
    refine iff_of_true (picked_modify h hdialog rfl fun v hv => ?_) trivial
    rw [setTo_iso]
    exact ⟨hv.fromDate, rfl⟩
  | apply =>
    obtain ⟨dialog, -, ht⟩ := Option.bind_eq_some_iff.mp ht
    obtain ⟨v, -, rfl⟩ := Option.map_eq_some_iff.mp ht
    exact iff_of_true (sound_ask fun _ hd => (by cases hd)) trivial
  | dismiss =>
    obtain ⟨dialog, -, rfl⟩ := Option.map_eq_some_iff.mp ht
    exact iff_of_true ⟨h.chart, h.totals, fun _ hd => (by cases hd)⟩ trivial
  | answerChart index =>
    cases ht
    exact iff_of_true ⟨fun f hf => Polled.last_answer.trans (h.chart f hf), h.totals, h.picked⟩ trivial
  | answerTotals index =>
    cases ht
    exact iff_of_true ⟨h.chart, fun f hf => Polled.last_answer.trans (h.totals f hf), h.picked⟩ trivial
  | chartReply index reply =>
    obtain ⟨query, hquery, ht⟩ := Option.bind_eq_some_iff.mp ht
    exact sound_chartReply h hquery ht
  | totalsReply index reply now =>
    obtain ⟨query, hquery, ht⟩ := Option.bind_eq_some_iff.mp ht
    exact sound_totalsReply h hquery ht

/-- What is asked for is what the dialog shows. -/
theorem Sound.period_apply [DecidableEq τ] (h : s.Sound server) {d : PeriodDialog} (hd : s.dialog = some d)
    (ht : s.step server .apply = some t) : ∃ now, t.period = some
      ⟨(d.fromDate.elim now midnight).toString, (d.toDate.elim now midnight).toString⟩ := by
  obtain ⟨dialog, hdialog, ht⟩ := Option.bind_eq_some_iff.mp ht
  obtain ⟨v, hv, rfl⟩ := Option.map_eq_some_iff.mp ht
  cases hd.symm.trans hdialog
  obtain ⟨v', hv', hshows⟩ := h.picked d hd
  cases hv.symm.trans hv'
  refine ⟨v.now, ?_⟩
  rw [← hshows.fromDate, ← hshows.toDate]
  rfl

/-- For any server the dashboard is sound all along a run exactly when each step meets the guard. -/
theorem onePeriod_iff [DecidableEq τ] (server : DashboardServer χ τ) (chart : χ) (totals : τ) (es : List DashboardEvent) :
    Along (step server) (Sound server) { chart := ⟨chart, []⟩, totals := ⟨totals, []⟩ } es ↔
      Guarded (step server) (Guard server) { chart := ⟨chart, []⟩, totals := ⟨totals, []⟩ } es := by
  refine along_iff_guarded (I := Sound server) (fun _ h => h) (fun _ _ _ h ht hg => (sound_step h ht).mpr hg)
    (fun _ _ _ h ht hs => (sound_step h ht).mp hs) ⟨fun _ hf => ?_, fun _ hf => ?_, fun _ hd => ?_⟩
  · cases hf
  · cases hf
  · cases hd

end NextApp.Dashboard
