import NextApp.Model.ListRequest
import NextApp.Theorems.Pagination

/-! # The count of a list

The count is asked for without the connection and without the page that the list is opened from: it is the number of the rows
that the list shows only where neither is set, or a filter writes its parameter over. -/

namespace NextApp.ListRequest
open APIService (searchText getListCount)
variable {s : ModuleProvider} {m : ModuleType} {search : Option String} {k : String} {d d' : Doc}

/-! ### What the requests agree on -/

/-- The same parameters, but for the page. -/
def SameQuery (d d' : Doc) : Prop := ∀ k, k ≠ "start" → k ≠ "page_length" → d.get? k = d'.get? k

/-- The rows are those of one query, whatever page is asked for. -/
def Agree (s : ModuleProvider) (search : Option String) : Prop :=
  ∀ page, ∀ list ∈ s.listService page search, ∀ count ∈ s.listCount none search,
    SameQuery list.queryParameters count.queryParameters

/-- The list is no list of a connection, or a filter has the key of what is left out. -/
def Unconnected (s : ModuleProvider) : Prop :=
  (s.connection = none ∨ "con_doc" ∈ s.filter.map Prod.fst) ∧ (s.filterById = none ∨ "cur_nam" ∈ s.filter.map Prod.fst)

/-- What the two requests write before the filters. -/
def listEntries (service : String) (filterById connection search : Option String) : Doc :=
  [("doctype", .str service)] ++ (filterById.map fun filterById => ("cur_nam", Value.str filterById)).toList ++
    (connection.map fun connection => ("con_doc", Value.str connection)).toList ++ searchText search

def countEntries (service : String) (search : Option String) : Doc :=
  [("doctype", .str service), ("page_length", .int 0)] ++ searchText search

theorem get?_entries {filterById connection : Option String} (service : String) (hlength : k ≠ "page_length")
    (hname : filterById = none ∨ k ≠ "cur_nam") (hdoc : connection = none ∨ k ≠ "con_doc") :
    (listEntries service filterById connection search).get? k = (countEntries service search).get? k := by
  have hskip (d : Doc) {k' : String} (v : Option String) (h : v = none ∨ k ≠ k') :
      Dict.get? ((v.map fun v => (k', Value.str v)).toList ++ d) k = d.get? k := by
    rcases h with rfl | h
    · rfl
    · cases v <;> simp [Dict.get?, Ne.symm h]
  by_cases hdoctype : "doctype" = k
  · simp [listEntries, countEntries, Dict.get?, hdoctype]
  · simp only [listEntries, countEntries, List.append_assoc, List.cons_append, List.nil_append, Dict.get?, hdoctype, if_false,
      Ne.symm hlength, hskip _ _ hname, hskip _ _ hdoc]

instance (s : ModuleProvider) : Decidable (Unconnected s) := inferInstanceAs (Decidable (_ ∧ _))

theorem get?_searchText (h : k ≠ "search_text") : Dict.get? (searchText search) k = none := by
  unfold searchText
  cases search.filter fun search => !search.isEmpty <;> simp [Dict.get?, Ne.symm h]

theorem get?_connection (search : Option String) (service : String) (filterById connection : Option String) :
    (listEntries service filterById connection search).get? "con_doc" = connection.map .str ∧
      (countEntries service search).get? "con_doc" = none := by
  have hsearch : Dict.get? (searchText search) "con_doc" = none := get?_searchText (by decide)
  cases filterById <;> cases connection <;> simp [listEntries, countEntries, Dict.get?, hsearch]

theorem get?_filterById (search : Option String) (service : String) (filterById connection : Option String) :
    (listEntries service filterById connection search).get? "cur_nam" = filterById.map .str ∧
      (countEntries service search).get? "cur_nam" = none := by
  have hsearch : Dict.get? (searchText search) "cur_nam" = none := get?_searchText (by decide)
  cases filterById <;> cases connection <;> simp [listEntries, countEntries, Dict.get?, hsearch]

theorem sameQuery_iff (service : String) (page : Int) (filterById connection search : Option String) (filter : Doc) :
    SameQuery (APIService.getList service page filterById connection search none (some filter)).queryParameters
        (getListCount service search (some filter)).queryParameters ↔
      (connection = none ∨ "con_doc" ∈ filter.map Prod.fst) ∧ (filterById = none ∨ "cur_nam" ∈ filter.map Prod.fst) := by
  have hlist : ∀ k, k ≠ "start" → k ≠ "page_length" →
      (APIService.getList service page filterById connection search none (some filter)).queryParameters.get? k =
        ((listEntries service filterById connection search).addAll filter).get? k := by
    intro k hstart hlength
    rw [APIService.getList, Dict.get?_set_ne (Ne.symm hlength), Dict.get?_set_ne (Ne.symm hstart)]
    rfl
  refine ⟨fun h => ⟨or_iff_not_imp_right.mpr fun hfilter => ?_, or_iff_not_imp_right.mpr fun hfilter => ?_⟩,
    fun ⟨hdoc, hname⟩ k hstart hlength => ?_⟩
  · have hkey := h "con_doc" (by decide) (by decide)
    obtain ⟨hlistKey, hcountKey⟩ := get?_connection search service filterById connection
    rw [hlist _ (by decide) (by decide), Dict.get?_addAll_of_not_mem hfilter, hlistKey] at hkey
    exact Option.map_eq_none_iff.mp (hkey.trans ((Dict.get?_addAll_of_not_mem hfilter).trans hcountKey))
  · have hkey := h "cur_nam" (by decide) (by decide)
    obtain ⟨hlistKey, hcountKey⟩ := get?_filterById search service filterById connection
    rw [hlist _ (by decide) (by decide), Dict.get?_addAll_of_not_mem hfilter, hlistKey] at hkey
    exact Option.map_eq_none_iff.mp (hkey.trans ((Dict.get?_addAll_of_not_mem hfilter).trans hcountKey))
  · rw [hlist k hstart hlength]
    refine Dict.get?_addAll_congr ?_
    by_cases hfilter : k ∈ filter.map Prod.fst
    · exact Or.inl hfilter
    · refine Or.inr (get?_entries service hlength (hname.imp_right ?_) (hdoc.imp_right ?_))
      · rintro hmem rfl
        exact hfilter hmem
      · rintro hmem rfl
        exact hfilter hmem

/-! ### The rows that are counted and the rows that are shown -/

/-- The rows of a server, which are the same for the same query. -/
structure ListServer where
  rows : Doc → List Doc
  rows_eq : ∀ {d d'}, SameQuery d d' → rows d = rows d'

def opened (s : ModuleProvider) (m : ModuleType) : ModuleProvider := { s with currentModule := some m }

def listRows (server : ListServer) (s : ModuleProvider) (search : Option String) (page : Int) : List Doc :=
  (s.listService page search).elim [] fun request => server.rows request.queryParameters

def countRows (server : ListServer) (s : ModuleProvider) (search : Option String) : List Doc :=
  (s.listCount none search).elim [] fun request => server.rows request.queryParameters

/-- The list after `n` calls of `getItems`, each of which has been answered. -/
def loaded (server : ListServer) (s : ModuleProvider) (search : Option String) : Nat → PaginationState Doc
  | 0 => {}
  | n + 1 => (loaded server s search n).getItems (toString (countRows server s search).length)
      fun start => NextApp.getList (listRows server s search start) true start

/-- On every server the list comes to its end, and shows all the rows that it says there are. -/
def CountEnds (s : ModuleProvider) (search : Option String) : Prop :=
  ∀ server, (∃ n, (loaded server s search n).noMoreItems = true) ∧
    ∀ n, (loaded server s search n).noMoreItems = true →
      (loaded server s search n).listCount = toString (loaded server s search n).items.length

variable {server : ListServer}

theorem getItems_listCount (state : PaginationState Doc) (count : String) (future : Int → Option (List Doc)) :
    (state.getItems count future).listCount = count := by
  simp only [PaginationState.getItems, PaginationState.endItems]
  cases future (state.startItems.countItems count).pageCount <;> rfl

theorem agree_iff : Agree (opened s m) search ↔ Unconnected s := by
  have hiff (page : Int) := sameQuery_iff m.genericListService page s.filterById s.connection search s.filter
  simp only [Agree, ModuleProvider.listService, ModuleProvider.listCount, opened, Option.map_some, Option.none_or, Option.mem_def,
    Option.some.injEq, forall_eq']
  exact ⟨fun h => (hiff 0).mp (h 0), fun h page => (hiff page).mpr h⟩

theorem listRows_eq (page : Int) : listRows server (opened s m) search page = listRows server (opened s m) search 0 := by
  refine server.rows_eq fun k hstart hlength => ?_
  simp only [APIService.getList, Dict.get?_set_ne (Ne.symm hlength), Dict.get?_set_ne (Ne.symm hstart)]

theorem loaded_succ (n : Nat) : loaded server (opened s m) search (n + 1) =
    (loaded server (opened s m) search n).getItems (toString (countRows server (opened s m) search).length)
      (NextApp.getList (listRows server (opened s m) search 0) true) := by
  simp only [loaded, listRows_eq]

theorem live_loaded (n : Nat) :
    Pagination.Live (listRows server (opened s m) search 0) n (loaded server (opened s m) search n) := by
  induction n with
  | zero => exact Pagination.live_init _
  | succ n ih =>
    rw [loaded_succ]
    exact ih.answered _

theorem loaded_ends : ∃ n, (loaded server (opened s m) search n).noMoreItems = true := by
  obtain ⟨l, hl⟩ : ∃ l, l = listRows server (opened s m) search 0 := ⟨_, rfl⟩
  have hlive : Pagination.Live (listRows server (opened s m) search 0) _
      (loaded server (opened s m) search (l.length / paginationPageLength)) := live_loaded _
  refine ⟨l.length / paginationPageLength + 1, ?_⟩
  rw [loaded_succ, ← hl]
  refine (Pagination.getItems_some _ hlive.pageCount).2.2.mpr (Or.inr ?_)
  rw [Paging.length_slice, paginationPageLength]
  omega

theorem countEnds_of_agree (h : Agree (opened s m) search) : CountEnds (opened s m) search := by
  intro server
  refine ⟨loaded_ends, fun n hdone => ?_⟩
  have hrows : countRows server (opened s m) search = listRows server (opened s m) search 0 :=
    (server.rows_eq (h 0 _ rfl _ rfl)).symm
  have hitems := (live_loaded n).done hdone
  cases n with
  | zero => cases hdone
  | succ n =>
    rw [hitems, ← hrows, loaded_succ, getItems_listCount]

/-- A server that has a row for the parameter of the list, and none for that of the count. -/
def serverOf (k : String) (v : Option Value) (hstart : k ≠ "start") (hlength : k ≠ "page_length") : ListServer where
  rows d := if d.get? k = v then [] else [[]]
  rows_eq h := by rw [h k hstart hlength]

theorem agree_of_countEnds (h : CountEnds (opened s m) search) : Agree (opened s m) search := by
  rintro page list ⟨⟩ count ⟨⟩ k hstart hlength
  by_contra hne
  obtain ⟨server, hserver⟩ : ∃ server, server = serverOf k ((APIService.getListCount m.genericListService search
      (some s.filter)).queryParameters.get? k) hstart hlength := ⟨_, rfl⟩
  have hcount : countRows server (opened s m) search = [] := by
    rw [hserver]
    exact if_pos rfl
  have hlist : listRows server (opened s m) search 0 = [[]] := by
    rw [← listRows_eq page, hserver]
    exact if_neg hne
  have hlive : Pagination.Live (listRows server (opened s m) search 0) 1 (loaded server (opened s m) search 1) := live_loaded 1
  have hdone : (loaded server (opened s m) search 1).noMoreItems = true := by
    rw [loaded_succ, hlist]
    exact (Pagination.getItems_some _ (Pagination.live_init [[]]).pageCount).2.2.mpr (Or.inr (by decide))
  have hshown := (h server).2 1 hdone
  rw [hlive.done hdone, hlist, loaded_succ, hcount, getItems_listCount] at hshown
  exact absurd hshown (by decide)

/-- The requests for the rows and for their count agree, and the list shows as many rows as it says on every server, exactly
    when it is no list of a connection, or the filters write over what a connection adds. -/
theorem count_iff (s : ModuleProvider) (m : ModuleType) (search : Option String) :
    (Agree (opened s m) search ↔ Unconnected s) ∧ (CountEnds (opened s m) search ↔ Unconnected s) :=
  ⟨agree_iff, ⟨fun h => agree_iff.mp (agree_of_countEnds h), fun h => countEnds_of_agree (agree_iff.mpr h)⟩⟩

/-- The invoices of a customer: the list asks for those of `CUST-1`, the count for those of all customers. -/
theorem connection_not_counted :
    ¬ Agree (opened { connection := some "Customer", filterById := some "CUST-1" } .salesInvoice) none ∧
      ¬ CountEnds (opened { connection := some "Customer", filterById := some "CUST-1" } .salesInvoice) none := by
  have hnot : ¬ Unconnected { connection := some "Customer", filterById := some "CUST-1" } := by decide
  exact ⟨fun h => hnot (agree_iff.mp h), fun h => hnot (agree_iff.mp (agree_of_countEnds h))⟩

end NextApp.ListRequest
