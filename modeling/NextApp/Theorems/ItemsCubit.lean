import NextApp.Lib.Runs
import NextApp.Model.ItemsCubit

/-! # The rows of the item list

The cubit does not keep the query that its items are for: each call brings its own filter, the end of the list asks
for the items without a search text, and a list that is complete takes no call but those that reset it. When answers
are not waited for, the last one to arrive decides. -/

namespace NextApp.ItemLists
open Paging
variable {α : Type*} {p : String} {list : ItemsQuery → List α}

/-- The page that a request is answered with: the start counts from 1. -/
def page (list : ItemsQuery → List α) (x : ItemsRequest) : List α := slice (list x.query) (x.start.getD 1 - 1) pageLength

/-- The cubit of an item list screen, the requests that are under way, and the query of the last load or search. -/
structure ItemList (α : Type*) where
  cubit : ItemsCubit α := {}
  pending : List ItemsRequest := []
  latest : Option ItemsQuery := none

/-- The screen begins with `loadData`, and the end of the list is reached only where the list is on show. -/
def Allowed (s : ItemList α) : ItemListCall → Prop
  | .loadData => True
  | .search _ | .scanBarcode _ => s.latest.isSome
  | .scrollEnd => s.latest.isSome ∧ s.cubit.shown

instance (s : ItemList α) : (c : ItemListCall) → Decidable (Allowed s c)
  | .loadData => isTrue trivial
  | .search _ | .scanBarcode _ => inferInstanceAs (Decidable (_ = true))
  | .scrollEnd => inferInstanceAs (Decidable (_ ∧ _))

def call (p : String) (s : ItemList α) (c : ItemListCall) : ItemList α :=
  ⟨(c.start p s.cubit).1, s.pending ++ (c.start p s.cubit).2.toList, (c.query? p).or s.latest⟩

/-- The answer to the request at `i`, with its rows unless it fails. -/
def answer (s : ItemList α) (i : Nat) (rows : ItemsRequest → Option (List α)) : Option (ItemList α) :=
  s.pending[i]?.map fun x => { s with cubit := s.cubit.endGetAllItems x (rows x), pending := s.pending.eraseIdx i }

/-! ### What a call asks for -/

theorem start_reset (p : String) (s : ItemsCubit α) {c : ItemListCall} (h : c = .loadData ∨ ∃ v, c = .search v) :
    ∃ q x, c.query? p = some q ∧ c.start p s = (⟨.gettingItemsLoading, [], false⟩, some x) ∧ x.query = q ∧
      x.start.getD 1 = 1 ∧ x.replaces = true := by
  rcases h with rfl | ⟨v, rfl⟩
  · exact ⟨_, _, rfl, rfl, rfl, rfl, rfl⟩
  · exact ⟨_, _, rfl, rfl, rfl, rfl, rfl⟩

theorem start_scanBarcode (p b : String) {s : ItemsCubit α} (h : s.hasReachedMax = false) :
    (ItemListCall.scanBarcode b).start p s =
      ({ s with state := .gettingItemsLoading }, some ⟨⟨some b, none, some p⟩, none, true⟩) := by
  simp [ItemListCall.start, ItemsCubit.startGetAllItems, ItemListCall.itemFilter, ItemsFilter.query, h]

theorem start_scrollEnd (p : String) {s : ItemsCubit α} (h : s.hasReachedMax = false) (hshown : s.shown) :
    ItemListCall.scrollEnd.start p s = (s, some ⟨⟨none, none, some p⟩, some (s.items.length + 1), false⟩) := by
  simp [ItemListCall.start, ItemsCubit.startGetAllItems, ItemListCall.itemFilter, h, hshown.1]

theorem start_of_hasReachedMax (p : String) {s : ItemsCubit α} {c : ItemListCall} (h : s.hasReachedMax = true)
    (hc : c = .scrollEnd ∨ ∃ b, c = .scanBarcode b) : c.start p s = (s, none) := by
  rcases hc with rfl | ⟨b, rfl⟩
  · simp [ItemListCall.start, ItemsCubit.startGetAllItems, h]
  · simp [ItemListCall.start, ItemsCubit.startGetAllItems, h]

/-! ### Calls that are answered one by one -/

structure AnsweredCall where
  call : ItemListCall
  answered : Bool

def answeredStep (p : String) (list : ItemsQuery → List α) (s : ItemList α) (e : AnsweredCall) : Option (ItemList α) :=
  if Allowed s e.call then
    some ((answer (call p s e.call) 0 fun x => if e.answered then some (page list x) else none).getD (call p s e.call))
  else none

/-- A search is asked for, and after an answer all items are rows of the last load or search. -/
def ShowsLatest (p : String) (list : ItemsQuery → List α) (s : ItemList α) (e : AnsweredCall) (t : ItemList α) : Prop :=
  (∀ q ∈ e.call.query? p, q.searchText ≠ none → (e.call.start p s.cubit).2.map (·.query) = some q) ∧
    (e.answered = true → (e.call.start p s.cubit).2 ≠ none → ∀ q ∈ t.latest, ∀ row ∈ t.cubit.items, row ∈ list q)

/-- A barcode is scanned before the list is complete, and rows arrive for the end of the list only after a load. -/
def KeepsLatest (s : ItemList α) (e : AnsweredCall) : Prop :=
  match e.call with
  | .scanBarcode _ => s.cubit.hasReachedMax = false
  | .scrollEnd => e.answered = true → s.cubit.hasReachedMax = false → ∀ q ∈ s.latest, q.searchText = none
  | _ => True

instance (s : ItemList α) (e : AnsweredCall) : Decidable (KeepsLatest s e) := by
  obtain ⟨c, answered⟩ := e
  cases c <;> unfold KeepsLatest <;> infer_instance

/-- With no request under way the items after a load are rows of that load. -/
structure Loaded (p : String) (list : ItemsQuery → List α) (s : ItemList α) : Prop where
  pending : s.pending = []
  rows : ∀ q ∈ s.latest, q.searchText = none → q = ⟨none, none, some p⟩ ∧ ∀ row ∈ s.cubit.items, row ∈ list q

theorem mem_of_mem_page {x : ItemsRequest} {row : α} (h : row ∈ page list x) : row ∈ list x.query :=
  List.mem_of_mem_drop (List.mem_of_mem_take h)

theorem items_of_replaces {s : ItemsCubit α} {x : ItemsRequest} (h : x.replaces = true) (rows : List α) :
    (s.endGetAllItems x (some rows)).items = rows := by
  rw [ItemsCubit.endGetAllItems, ItemsCubit.endGetItems, if_pos h]

theorem items_of_not_replaces {s : ItemsCubit α} {x : ItemsRequest} (h : x.replaces = false) (rows : List α) :
    (s.endGetAllItems x (some rows)).items = s.items ++ rows := by
  rw [ItemsCubit.endGetAllItems, ItemsCubit.endGetItems, if_neg (by simp [h])]

theorem answeredStep_cases {s t : ItemList α} {e : AnsweredCall} (hpending : s.pending = [])
    (h : answeredStep p list s e = some t) :
    Allowed s e.call ∧ t.pending = [] ∧ t.latest = (e.call.query? p).or s.latest ∧
      (((e.call.start p s.cubit).2 = none ∧ t.cubit = (e.call.start p s.cubit).1) ∨
        ∃ x, (e.call.start p s.cubit).2 = some x ∧
          t.cubit = (e.call.start p s.cubit).1.endGetAllItems x (if e.answered then some (page list x) else none)) := by
  unfold answeredStep at h
  split at h
  · rename_i hallowed
    refine ⟨hallowed, ?_⟩
    cases hx : (e.call.start p s.cubit).2 with
    | none =>
      simp only [call, hx, hpending, answer, Option.toList_none, List.append_nil, List.getElem?_nil, Option.map_none,
        Option.getD_none, Option.some.injEq] at h
      cases h
      exact ⟨rfl, rfl, Or.inl ⟨rfl, rfl⟩⟩
    | some x =>
      simp only [call, hx, hpending, answer, Option.toList_some, List.nil_append, List.getElem?_cons_zero,
        Option.map_some, Option.getD_some, List.eraseIdx_cons_zero, Option.some.injEq] at h
      cases h
      exact ⟨rfl, rfl, Or.inr ⟨x, rfl, rfl⟩⟩
  · cases h

/-- After a load or a search with its answer, or without, the items are rows of its query. -/
theorem rows_of_reset {s t : ItemsCubit α} {c : ItemListCall} {answered : Bool} {q : ItemsQuery}
    (hc : c = .loadData ∨ ∃ v, c = .search v) (hq : c.query? p = some q)
    (ht : ((c.start p s).2 = none ∧ t = (c.start p s).1) ∨ ∃ x, (c.start p s).2 = some x ∧
      t = (c.start p s).1.endGetAllItems x (if answered then some (page list x) else none)) :
    ∀ row ∈ t.items, row ∈ list q := by
  obtain ⟨q', x, hq', hstart, hxq, -, hreplaces⟩ := start_reset p s hc
  cases hq.symm.trans hq'
  rw [hstart] at ht
  rcases ht with ⟨hnone, -⟩ | ⟨y, hy, rfl⟩
  · cases hnone
  · cases hy
    intro row hrow
    cases answered with
    | true =>
      rw [if_pos rfl, items_of_replaces hreplaces] at hrow
      exact hxq ▸ mem_of_mem_page hrow
    | false => exact absurd hrow (List.not_mem_nil)

theorem loaded_step {s t : ItemList α} {e : AnsweredCall} (hs : Loaded p list s) (h : answeredStep p list s e = some t)
    (hguard : KeepsLatest s e) : Loaded p list t := by
  obtain ⟨hallowed, hpending, hlatest, ht⟩ := answeredStep_cases hs.pending h
  refine ⟨hpending, fun q hq htext => ?_⟩
  rw [hlatest] at hq
  obtain ⟨c, answered⟩ := e
  cases c with
  | loadData =>
    cases hq
    exact ⟨rfl, rows_of_reset (Or.inl rfl) rfl ht⟩
  | search v | scanBarcode v =>
    cases hq
    cases htext
  | scrollEnd =>
    obtain ⟨hplain, hrows⟩ := hs.rows q hq htext
    refine ⟨hplain, ?_⟩
    cases hmax : s.cubit.hasReachedMax with
    | true =>
      rw [start_of_hasReachedMax p hmax (Or.inl rfl)] at ht
      rcases ht with ⟨-, hcubit⟩ | ⟨x, hx, -⟩
      · exact hcubit ▸ hrows
      · cases hx
    | false =>
      rw [start_scrollEnd p hmax hallowed.2] at ht
      rcases ht with ⟨hnone, -⟩ | ⟨x, hx, hcubit⟩
      · cases hnone
      · cases hx
        rw [hcubit]
        intro row hrow
        cases answered with
        | true =>
          rw [if_pos rfl, items_of_not_replaces rfl, List.mem_append] at hrow
          rcases hrow with hrow | hrow
          · exact hrows row hrow
          · rw [hplain]
            exact mem_of_mem_page hrow
        | false => exact hrows row hrow

theorem showsLatest {s t : ItemList α} {e : AnsweredCall} (hs : Loaded p list s) (h : answeredStep p list s e = some t)
    (hguard : KeepsLatest s e) : ShowsLatest p list s e t := by
  have ht := loaded_step hs h hguard
  obtain ⟨hallowed, -, hlatest, hcubit⟩ := answeredStep_cases hs.pending h
  obtain ⟨c, answered⟩ := e
  cases c with
  | loadData =>
    refine ⟨fun q hq htext => ?_, fun _ _ q hq => ?_⟩
    · cases hq
      exact absurd rfl htext
    · rw [hlatest] at hq
      cases hq
      exact rows_of_reset (Or.inl rfl) rfl hcubit
  | search v =>
    refine ⟨fun q hq _ => ?_, fun _ _ q hq => ?_⟩
    · cases hq
      rfl
    · rw [hlatest] at hq
      cases hq
      exact rows_of_reset (Or.inr ⟨v, rfl⟩) rfl hcubit
  | scanBarcode b =>
    have hmax : s.cubit.hasReachedMax = false := hguard
    rw [start_scanBarcode p b hmax] at hcubit
    refine ⟨fun q hq _ => ?_, fun hanswered _ q hq row hrow => ?_⟩
    · cases hq
      rw [start_scanBarcode p b hmax]
      rfl
    · rw [hlatest] at hq
      cases hq
      rcases hcubit with ⟨hnone, -⟩ | ⟨x, hx, hcubit⟩
      · cases hnone
      · cases hx
        have hanswered : answered = true := hanswered
        rw [hcubit, hanswered, if_pos rfl, items_of_replaces rfl] at hrow
        exact mem_of_mem_page hrow
  | scrollEnd =>
    refine ⟨fun q hq => (nomatch hq), fun hanswered hsent q hq => ?_⟩
    have hmax : s.cubit.hasReachedMax = false := by
      by_contra hmax
      rw [start_of_hasReachedMax p (by simpa using hmax) (Or.inl rfl)] at hsent
      exact hsent rfl
    have hq' : q ∈ s.latest := by
      rw [hlatest] at hq
      exact hq
    exact (ht.rows q hq (hguard hanswered hmax q hq')).2

/-- In every run of calls of an item list, each answered before the next, whose barcodes are scanned before the list
    is complete and whose end is reached after a load, all items are rows of the last load or search after every
    answer, and every search is asked for. -/
theorem showsLatest_of_keepsLatest (p : String) (list : ItemsQuery → List α) (s : ItemsCubit α) (es : List AnsweredCall)
    (h : Runs.Guarded (answeredStep p list) KeepsLatest ⟨s, [], none⟩ es) :
    Runs.Each (answeredStep p list) (ShowsLatest p list) ⟨s, [], none⟩ es :=
  Runs.each_of_guarded (I := Loaded p list) (fun _ _ _ hs h hg => loaded_step hs h hg)
    (fun _ _ _ hs h hg => showsLatest hs h hg) ⟨rfl, fun _ hq => absurd hq (by simp)⟩ h

/-- A list of 41 items, one of which matches the search texts. -/
def stock (q : ItemsQuery) : List Nat := if q.searchText = none then List.range 41 else [40]

theorem showsLatest_stock :
    Runs.Each (answeredStep "Standard" stock) (ShowsLatest "Standard" stock) ⟨{}, [], none⟩
      [⟨.loadData, true⟩, ⟨.scrollEnd, true⟩, ⟨.scanBarcode "40", true⟩, ⟨.scrollEnd, false⟩, ⟨.search "40", true⟩,
        ⟨.loadData, true⟩, ⟨.scrollEnd, true⟩] :=
  showsLatest_of_keepsLatest "Standard" stock {} _ (by decide)

/-- The end of the list after a search asks for the items without the text. -/
theorem rows_without_search_text :
    ¬ Runs.Each (answeredStep "Standard" stock) (ShowsLatest "Standard" stock) ⟨{}, [], none⟩
      [⟨.loadData, true⟩, ⟨.search "40", true⟩, ⟨.scrollEnd, true⟩] := by
  intro h
  have hend := (((h _ rfl).2 _ rfl).2 _ rfl).1.2 rfl (by decide) _ rfl 1 (by decide)
  exact absurd hend (by decide)

/-! ### Calls that are not waited for -/

/-- A server with a fixed list of distinct rows for each query. -/
structure Server (α : Type*) where
  list : ItemsQuery → List α
  nodup : ∀ q, (list q).Nodup

inductive ItemEvent where
  | call (c : ItemListCall)
  | arrive (i : Nat)

def eventStep (p : String) (server : Server α) (s : ItemList α) : ItemEvent → Option (ItemList α)
  | .call c => if Allowed s c then some (call p s c) else none
  | .arrive i => answer s i fun x => some (page server.list x)

/-- With no request under way the items are a prefix of the list of the last load or search, each of them once. -/
def ShowsPrefix (server : Server α) (s : ItemList α) : Prop :=
  s.pending = [] → ∀ q ∈ s.latest, s.cubit.items <+: server.list q ∧ s.cubit.items.Nodup

/-- The answers arrive in the order of the calls; a barcode is scanned before the list is complete, and more rows
    are asked for with no request under way and no search text. -/
def CallsInTurn (s : ItemList α) : ItemEvent → Prop
  | .arrive i => i = 0
  | .call (.scanBarcode _) => s.cubit.hasReachedMax = false
  | .call .scrollEnd => s.cubit.hasReachedMax = false → s.pending = [] ∧ ∀ q ∈ s.latest, q.searchText = none
  | .call _ => True

instance (s : ItemList α) : (e : ItemEvent) → Decidable (CallsInTurn s e)
  | .arrive i => inferInstanceAs (Decidable (i = 0))
  | .call (.scanBarcode _) => inferInstanceAs (Decidable (_ = _))
  | .call .scrollEnd => inferInstanceAs (Decidable (_ → _))
  | .call (.search _) | .call .loadData => isTrue trivial

/-- The last request under way is for the last load or search: it replaces the items by the first page, or it is the
    only one and goes on with the items there are. -/
def LastDue (server : Server α) (s : ItemList α) (x : ItemsRequest) : Prop :=
  some x.query = s.latest ∧
    ((x.replaces = true ∧ x.start.getD 1 = 1) ∨
      (s.pending = [x] ∧ x.replaces = false ∧ x.start = some (s.cubit.items.length + 1) ∧
        s.cubit.items <+: server.list x.query))

/-- Between two events. A query without a search text is that of the screen. -/
structure InTurn (p : String) (server : Server α) (s : ItemList α) : Prop where
  last : ∀ x ∈ s.pending.getLast?, LastDue server s x
  rows : s.pending = [] → ∀ q ∈ s.latest, s.cubit.items <+: server.list q
  plain : ∀ q ∈ s.latest, q.searchText = none → q = ⟨none, none, some p⟩

variable {server : Server α} {s t : ItemList α}

theorem showsPrefix_of_inTurn (h : InTurn p server s) : ShowsPrefix server s :=
  fun hpending q hq => ⟨h.rows hpending q hq, (server.nodup q).sublist (h.rows hpending q hq).sublist⟩

theorem page_of_start_one {list : ItemsQuery → List α} {x : ItemsRequest} (h : x.start.getD 1 = 1) :
    page list x = (list x.query).take pageLength := by
  rw [page, h]
  rfl

theorem inTurn_replacing {c : ItemListCall} {q : ItemsQuery} {x : ItemsRequest} {cubit : ItemsCubit α}
    (hq : c.query? p = some q) (hstart : c.start p s.cubit = (cubit, some x)) (hx : x.query = q)
    (hreplaces : x.replaces = true) (hone : x.start.getD 1 = 1) (hplain : q.searchText = none → q = ⟨none, none, some p⟩) :
    InTurn p server (call p s c) := by
  have hpending : (call p s c).pending = s.pending ++ [x] := by simp [call, hstart]
  have hlatest : (call p s c).latest = some q := by simp [call, hq]
  refine ⟨fun y hy => ?_, fun hnil => ?_, fun q' hq' htext => ?_⟩
  · rw [hpending, List.getLast?_append, List.getLast?_singleton] at hy
    cases hy
    exact ⟨by rw [hlatest, hx], Or.inl ⟨hreplaces, hone⟩⟩
  · rw [hpending] at hnil
    simp at hnil
  · rw [hlatest] at hq'
    cases hq'
    exact hplain htext

theorem inTurn_call (h : InTurn p server s) {c : ItemListCall} (hallowed : Allowed s c) (hguard : CallsInTurn s (.call c)) :
    InTurn p server (call p s c) := by
  cases c with
  | loadData =>
    obtain ⟨q, x, hq, hstart, hx, hone, hreplaces⟩ :=
      start_reset p s.cubit (Or.inl rfl : ItemListCall.loadData = .loadData ∨ _)
    cases hq
    exact inTurn_replacing rfl hstart hx hreplaces hone fun _ => rfl
  | search v =>
    obtain ⟨q, x, hq, hstart, hx, hone, hreplaces⟩ :=
      start_reset p s.cubit (Or.inr ⟨v, rfl⟩ : ItemListCall.search v = .loadData ∨ _)
    cases hq
    exact inTurn_replacing rfl hstart hx hreplaces hone fun htext => (nomatch htext)
  | scanBarcode b =>
    exact inTurn_replacing rfl (start_scanBarcode p b hguard) rfl rfl rfl fun htext => (nomatch htext)
  | scrollEnd =>
    cases hmax : s.cubit.hasReachedMax with
    | true =>
      have hsame : call p s .scrollEnd = s := by
        simp [call, start_of_hasReachedMax p hmax (Or.inl rfl), ItemListCall.query?]
      rwa [hsame]
    | false =>
      obtain ⟨hpending, htext⟩ := hguard hmax
      obtain ⟨q, hq⟩ := Option.isSome_iff_exists.mp hallowed.1
      have hplain : q = ⟨none, none, some p⟩ := h.plain q hq (htext q hq)
      have hcall : call p s .scrollEnd =
          ⟨s.cubit, [⟨⟨none, none, some p⟩, some (s.cubit.items.length + 1), false⟩], s.latest⟩ := by
        simp [call, start_scrollEnd p hmax hallowed.2, hpending, ItemListCall.query?]
      rw [hcall]
      refine ⟨fun x hx => ?_, fun hnil => (nomatch hnil), h.plain⟩
      cases hx
      refine ⟨?_, Or.inr ⟨rfl, rfl, rfl, ?_⟩⟩
      · rw [← hplain]
        exact hq.symm
      · rw [← hplain]
        exact h.rows hpending q hq

/-- The answer to the last request brings the list of its query. -/
theorem rows_of_last {x : ItemsRequest} (hdue : LastDue server s x) :
    (s.cubit.endGetAllItems x (some (page server.list x))).items <+: server.list x.query := by
  rcases hdue.2 with ⟨hreplaces, hone⟩ | ⟨-, hreplaces, hstart, hprefix⟩
  · rw [items_of_replaces hreplaces, page_of_start_one hone]
    exact List.take_prefix _ _
  · rw [items_of_not_replaces hreplaces, page, hstart]
    exact append_slice_prefix hprefix

theorem inTurn_arrive (h : InTurn p server s) (hstep : eventStep p server s (.arrive 0) = some t) :
    InTurn p server t := by
  obtain ⟨cubit, pending, latest⟩ := s
  cases pending with
  | nil => cases hstep
  | cons x pending =>
    cases hstep
    cases pending with
    | nil =>
      refine ⟨fun y hy => (nomatch hy), fun _ q hq => ?_, h.plain⟩
      have hdue : LastDue server ⟨cubit, [x], latest⟩ x := h.last x rfl
      have hquery : x.query = q := Option.some.inj (hdue.1.trans hq)
      exact hquery ▸ rows_of_last hdue
    | cons y pending =>
      refine ⟨fun z hz => ?_, fun hnil => (nomatch hnil), h.plain⟩
      have hdue : LastDue server ⟨cubit, x :: y :: pending, latest⟩ z :=
        h.last z (by rw [List.getLast?_cons_cons]; exact hz)
      refine ⟨hdue.1, ?_⟩
      rcases hdue.2 with hfirst | ⟨hone, -⟩
      · exact Or.inl hfirst
      · cases hone

theorem inTurn_step {e : ItemEvent} (h : InTurn p server s) (hstep : eventStep p server s e = some t)
    (hguard : CallsInTurn s e) : InTurn p server t := by
  cases e with
  | call c =>
    rw [eventStep] at hstep
    split at hstep
    · rename_i hallowed
      cases hstep
      exact inTurn_call h hallowed hguard
    · cases hstep
  | arrive i =>
    cases hguard
    exact inTurn_arrive h hstep

/-- In every run whose answers arrive in the order of the calls, whose barcodes are scanned before the list is
    complete, and which goes on to the end of a list only after a load and with no request under way, the items are
    a prefix of the list of the last load or search whenever no request is under way. -/
theorem showsPrefix_of_callsInTurn (p : String) (server : Server α) (s : ItemsCubit α) (es : List ItemEvent)
    (h : Runs.Guarded (eventStep p server) CallsInTurn ⟨s, [], none⟩ es) :
    Runs.Along (eventStep p server) (ShowsPrefix server) ⟨s, [], none⟩ es :=
  (Runs.along_of_guarded (I := InTurn p server) (fun _ _ _ hs hstep hg => inTurn_step hs hstep hg)
    ⟨fun _ hx => absurd hx (by simp), fun _ _ hq => absurd hq (by simp), fun _ hq => absurd hq (by simp)⟩ h).mono
    fun _ => showsPrefix_of_inTurn

def shop : Server Nat where
  list := stock
  nodup q := by
    unfold stock
    split
    · exact List.nodup_range
    · exact List.nodup_singleton 40

/-- A search is made before the items of the screen have arrived, and they are loaded again and read on. -/
theorem showsPrefix_shop :
    Runs.Along (eventStep "Standard" shop) (ShowsPrefix shop) ⟨{}, [], none⟩
      [.call .loadData, .call (.search "40"), .arrive 0, .arrive 0, .call .loadData, .arrive 0, .call .scrollEnd,
        .arrive 0] :=
  showsPrefix_of_callsInTurn "Standard" shop {} _ (by decide)

/-- The end of the list is reported twice before its rows arrive: they are there twice. -/
theorem rows_twice :
    ¬ Runs.Along (eventStep "Standard" shop) (ShowsPrefix shop) ⟨{}, [], none⟩
      [.call .loadData, .arrive 0, .call .scrollEnd, .call .scrollEnd, .arrive 0, .arrive 0] := by
  intro h
  have hlast := (((((h.2 _ rfl).2 _ rfl).2 _ rfl).2 _ rfl).2 _ rfl).2 _ rfl
  exact absurd (hlast rfl _ rfl).2 (by decide)

end NextApp.ItemLists
