import NextApp.Lib.Runs
import NextApp.Model.Report

/-! # What a report asks for

The filters of a report are rebuilt for every page after the first and then written out key by key. The general
ledger reads the party and its type from the date when it rebuilds them, the stock ledger never writes the item
group. -/

namespace NextApp.ReportQuery
variable {α : Type*}

def nonNull (fields : List (String × Option Value)) : Doc := fields.filterMap fun e => e.2.map fun v => (e.1, v)

/-- The parameters that a choice on the filter screen comes to. -/
def chosen : (r : Report) → r.Choice → Doc
  | .generalLedger, c =>
    nonNull [("account", some (.str c.account)), ("from_date", some (.str c.fromDate)), ("to_date", some (.str c.toDate)),
      ("party_type", c.partyType.map .str), ("party", c.party.map .str)]
  | .accountsReceivable, c =>
    nonNull [("customer_code", c.customerCode.map .double), ("customer_name", c.customerName.map .str),
      ("sales_person_name", c.salesPerson.map .str), ("to_date", c.toDate.map .str)]
  | .stockLedger, c =>
    nonNull [("warehouse", some (.str c.wareHouseName)), ("from_date", some (.str c.fromDate)),
      ("to_date", some (.str c.toDate)), ("item_code", c.itemCode.map .str), ("item_group", c.itemGroup.map .str)]
  | .itemPrice, c =>
    nonNull [("item_code", c.itemCode.map .str), ("item_group", c.itemGroup.map .str),
      ("price_list", some (.str c.priceList))]
  | .warehouse, c =>
    nonNull [("warehouse_filter", some (.str c.wareHouseName)), ("item_filter", c.itemCode.map .str)]

/-- A query carries the choice, beside the page. -/
def Carries (r : Report) (c : r.Choice) (q : Doc) : Prop :=
  q.get? "page_length" = some (.int pageLength) ∧
    ∀ k, k ≠ "page_length" → k ≠ "start" → q.get? k = (chosen r c).get? k

/-- What happens to the bloc of a report screen, one after the other. -/
inductive ReportEvent (α : Type*) where
  | reset
  | get (reply : UseCaseResult α)

/-- The request of an event, for the filters of the screen. -/
def request (r : Report) (c : r.Choice) (s : ReportState α) : ReportEvent α → Option (ReportRequest r)
  | .reset => none
  | .get _ => s.startGet (r.applyFilters c)

def step (r : Report) (c : r.Choice) (s : ReportState α) : ReportEvent α → Option (ReportState α)
  | .reset => some s.reset
  | .get reply => some ((s.startGet (r.applyFilters c)).elim s fun x => s.endGet x reply)

def SendsChoice (r : Report) (c : r.Choice) (s : ReportState α) (e : ReportEvent α) (_ : ReportState α) : Prop :=
  ∀ x ∈ request r c s e, Carries r c (r.query x.filters)

/-- The general ledger asks for a later page only when party and party type are the date, the stock ledger for
    any page only without an item group. -/
def KeepsChoice : (r : Report) → r.Choice → ReportState α → ReportEvent α → Prop
  | .generalLedger, c, s, .get _ =>
    s.hasReachedMax = false → s.reportsState ≠ .loading → c.partyType = some c.toDate ∧ c.party = some c.toDate
  | .stockLedger, c, s, .get _ => s.hasReachedMax = false → c.itemGroup = none
  | _, _, _, _ => True

/-! ### Queries -/

section
variable {k k' : String} {v : Option Value} {d : Doc}

theorem get?_entry_append_self : Dict.get? (entryOf k v ++ d) k = v.or (d.get? k) := by
  cases v <;> simp [entryOf, Dict.get?]

theorem get?_entry_append_ne (h : k ≠ k') : Dict.get? (entryOf k v ++ d) k' = d.get? k' := by
  cases v <;> simp [entryOf, Dict.get?, h]

theorem get?_entry_self : Dict.get? (entryOf k v) k = v := by
  cases v <;> simp [entryOf, Dict.get?]

theorem get?_entry_ne (h : k ≠ k') : Dict.get? (entryOf k v) k' = none := by
  cases v <;> simp [entryOf, Dict.get?, h]

theorem get?_cons_ne {x : Value} (h : k ≠ k') : Dict.get? ((k, x) :: d) k' = d.get? k' := by
  simp [Dict.get?, h]

theorem nonNull_cons (fields : List (String × Option Value)) :
    nonNull ((k, v) :: fields) = entryOf k v ++ nonNull fields := by
  cases v <;> rfl

theorem nonNull_nil : nonNull [] = [] := rfl

theorem carries_of_eq {r : Report} {c : r.Choice} {x : Value} (h : d = chosen r c) :
    Carries r c (("page_length", .int pageLength) :: ("start", x) :: d) := by
  refine ⟨rfl, fun k hlength hstart => ?_⟩
  rw [get?_cons_ne (Ne.symm hlength), get?_cons_ne (Ne.symm hstart), h]

end

theorem map_str_injective {a b : Option String} (h : a.map Value.str = b.map Value.str) : a = b :=
  Option.map_injective (fun _ _ h => Value.str.inj h) h

theorem carries_generalLedger (c : GeneralLedgerChoice) (x : Option Int) (partyType party : Option String) :
    Carries .generalLedger c
        (getGeneralLedgerReports ⟨some c.account, partyType, party, some c.toDate, some c.fromDate, x⟩) ↔
      partyType = c.partyType ∧ party = c.party := by
  constructor
  · rintro ⟨-, h⟩
    have htype := h "party_type" (by decide) (by decide)
    have hparty := h "party" (by decide) (by decide)
    simp (disch := decide) only [getGeneralLedgerReports, chosen, nonNull_cons, nonNull_nil, List.cons_append,
      List.nil_append, List.append_assoc, List.append_nil, get?_cons_ne, get?_entry_append_ne, get?_entry_append_self,
      get?_entry_ne, get?_entry_self, Option.or_none] at htype hparty
    exact ⟨map_str_injective htype, map_str_injective hparty⟩
  · rintro ⟨rfl, rfl⟩
    refine carries_of_eq ?_
    simp only [chosen, nonNull_cons, nonNull_nil, List.append_nil]
    rfl

theorem carries_stockLedger (c : StockLedgerChoice) (x : Option Int) :
    Carries .stockLedger c
        (getStockLedgerReports ⟨c.wareHouseName, c.fromDate, c.toDate, c.itemCode, c.itemGroup, x⟩) ↔
      c.itemGroup = none := by
  constructor
  · rintro ⟨-, h⟩
    have hgroup := h "item_group" (by decide) (by decide)
    simp (disch := decide) only [getStockLedgerReports, chosen, nonNull_cons, nonNull_nil, List.cons_append,
      List.nil_append, List.append_nil, get?_cons_ne, get?_entry_append_ne, get?_entry_ne, get?_entry_self] at hgroup
    exact Option.map_eq_none_iff.mp hgroup.symm
  · intro hgroup
    refine carries_of_eq ?_
    simp only [chosen, nonNull_cons, nonNull_nil, hgroup, Option.map_none]
    exact (List.append_nil _).symm

theorem carries_accountsReceivable (c : AccountReceivableChoice) (x : Option Int) :
    Carries .accountsReceivable c
      (getAccountReceivableReport ⟨c.salesPerson, c.customerName, c.toDate, c.customerCode, x⟩) := by
  refine carries_of_eq ?_
  simp only [chosen, nonNull_cons, nonNull_nil, List.append_nil, ← List.append_assoc]
  rfl

theorem carries_itemPrice (c : ItemPriceChoice) (x : Option Int) :
    Carries .itemPrice c (getItemPriceReports ⟨some c.priceList, c.itemCode, c.itemGroup, x⟩) := by
  refine carries_of_eq ?_
  simp only [chosen, nonNull_cons, nonNull_nil, List.append_nil, ← List.append_assoc, Option.map_some]
  rfl

theorem carries_warehouse (c : WarehouseChoice) (x : Option Int) :
    Carries .warehouse c (getWarehouseReports ⟨c.wareHouseName, c.itemCode, x⟩) := by
  refine carries_of_eq ?_
  simp only [chosen, nonNull_cons, nonNull_nil, List.append_nil]
  rfl

/-! ### Runs -/

theorem request_get {r : Report} {c : r.Choice} {s : ReportState α} {reply : UseCaseResult α} :
    request r c s (.get reply) =
      if s.hasReachedMax then none
      else if s.reportsState = .loading then some ⟨r.applyFilters c, true⟩
      else some ⟨r.nextFilters (r.applyFilters c) s.reportData.length, false⟩ := rfl

theorem sendsChoice_of_carries {r : Report} {c : r.Choice} (hfirst : Carries r c (r.query (r.applyFilters c)))
    (hnext : ∀ n, Carries r c (r.query (r.nextFilters (r.applyFilters c) n))) (s : ReportState α) (e : ReportEvent α)
    (t : ReportState α) : SendsChoice r c s e t := by
  intro x hx
  cases e with
  | reset => cases hx
  | get reply =>
    rw [request_get] at hx
    split at hx
    · cases hx
    · split at hx
      · cases hx
        exact hfirst
      · cases hx
        exact hnext _

theorem sendsChoice_iff_keepsChoice (r : Report) (c : r.Choice) (s : ReportState α) (e : ReportEvent α)
    (t : ReportState α) : SendsChoice r c s e t ↔ KeepsChoice r c s e := by
  cases e with
  | reset => exact iff_of_true (fun x hx => nomatch hx) (by cases r <;> trivial)
  | get reply =>
    cases r with
    | generalLedger =>
      simp only [SendsChoice, request_get, KeepsChoice]
      cases s.hasReachedMax with
      | true => simp
      | false =>
        by_cases hloading : s.reportsState = .loading
        · simp only [hloading, Bool.false_eq_true, if_false, if_true, Option.mem_def, Option.some.injEq, forall_eq']
          exact iff_of_true ((carries_generalLedger c _ _ _).mpr ⟨rfl, rfl⟩) (fun _ h => absurd rfl h)
        · simp only [hloading, Bool.false_eq_true, if_false, Option.mem_def, Option.some.injEq, forall_eq']
          refine (carries_generalLedger c _ _ _).trans ?_
          exact ⟨fun h _ _ => ⟨h.1.symm, h.2.symm⟩, fun h => ⟨(h trivial hloading).1.symm, (h trivial hloading).2.symm⟩⟩
    | stockLedger =>
      simp only [SendsChoice, request_get, KeepsChoice]
      cases s.hasReachedMax with
      | true => simp
      | false =>
        by_cases hloading : s.reportsState = .loading
        · simp only [hloading, Bool.false_eq_true, if_false, if_true, Option.mem_def, Option.some.injEq, forall_eq',
            forall_const]
          exact carries_stockLedger c _
        · simp only [hloading, Bool.false_eq_true, if_false, Option.mem_def, Option.some.injEq, forall_eq', forall_const]
          exact carries_stockLedger c _
    | accountsReceivable =>
      exact iff_of_true (sendsChoice_of_carries (carries_accountsReceivable c _) (fun _ => carries_accountsReceivable c _)
        s _ t) trivial
    | itemPrice =>
      exact iff_of_true (sendsChoice_of_carries (carries_itemPrice c _) (fun _ => carries_itemPrice c _) s _ t) trivial
    | warehouse =>
      exact iff_of_true (sendsChoice_of_carries (carries_warehouse c _) (fun _ => carries_warehouse c _) s _ t) trivial

/-- In any run of a report from any state of its bloc, every request carries the choice of the filter screen
    exactly when the general ledger asks for a later page only with the date for party and party type, and the
    stock ledger is opened without an item group. -/
theorem sendsChoice_run_iff (r : Report) (c : r.Choice) (s : ReportState α) (es : List (ReportEvent α)) :
    Runs.Each (step r c) (SendsChoice r c) s es ↔ Runs.Guarded (step r c) (KeepsChoice r c) s es :=
  Runs.each_iff_guarded (I := fun _ => True) (fun _ _ _ _ _ _ => trivial)
    (fun s e t _ _ => sendsChoice_iff_keepsChoice r c s e t) trivial

/-- The second page of the ledger of an account asks for the party that is named like the date. -/
theorem party_lost_on_second_page :
    ¬ Runs.Each (step .generalLedger ⟨"Debtors - C", "2024-01-01", "2024-01-31", some "Customer", some "CUST-1"⟩)
      (SendsChoice .generalLedger ⟨"Debtors - C", "2024-01-01", "2024-01-31", some "Customer", some "CUST-1"⟩)
      ({} : ReportState Nat) [.reset, .get (.right (List.range 20)), .get (.right [])] := by
  intro h
  have hsecond := (((h _ rfl).2 _ rfl).2 _ rfl).1
  have hparty := (hsecond _ rfl).2 "party" (by decide) (by decide)
  exact absurd hparty (by decide)

end NextApp.ReportQuery
