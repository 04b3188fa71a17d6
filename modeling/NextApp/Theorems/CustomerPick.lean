import NextApp.Model.CustomerPick

/-! # One customer in a sales order

When the address, the contact person and the prices of a sales order are those of its customer, and its customer is the one
that the form shows, while the pages of picked customers come in any order. -/

namespace NextApp.CustomerPick
open Runs
variable {s t : CustomerPick} {e : CustomerPickEvent} {data value : Doc} {k : String}

/-! ### What a page writes -/

theorem at_addAll_of_mem {d d' : Doc} {v : Value} (hkeys : (d'.map Prod.fst).Nodup) (h : (k, v) ∈ d') :
    Doc.at (d.addAll d') k = v := by
  rw [Doc.at, Dict.get?_addAll_of_mem hkeys h, Option.getD_some]

theorem at_addAll_of_not_mem {d d' : Doc} (h : k ∉ d'.map Prod.fst) : Doc.at (d.addAll d') k = Doc.at d k := by
  rw [Doc.at, Dict.get?_addAll_of_not_mem h, Doc.at]

theorem keys_customerFields (value : Doc) : (customerFields value).map Prod.fst = ["customer", "customer_name", "territory",
    "customer_group", "customer_address", "contact_person", "currency", "price_list_currency"] := rfl

theorem keys_termsFields (value : Doc) :
    (termsFields value).map Prod.fst = ["payment_terms_template", "sales_partner", "tax_id"] := rfl

theorem keys_openingFields (page : Doc) :
    (openingFields page).map Prod.fst = ["currency", "price_list_currency", "contact_person", "territory", "customer_group"] := rfl

theorem at_takePriceList (h : k ≠ "selling_price_list") : Doc.at (takePriceList data value) k = Doc.at data k := by
  rw [takePriceList]
  split
  · exact Doc.at_set_ne _ _ h.symm
  · rfl

theorem priceList_takePriceList : Doc.at (takePriceList data value) "selling_price_list" = Doc.at value "default_price_list" := by
  rw [takePriceList]
  split
  · exact Doc.at_set_self _ _ _
  · next heq => exact not_not.mp heq

theorem customer_takeCustomer : Doc.at (takeCustomer data value) "customer" = Doc.at value "name" := by
  have hset : Doc.at (data.addAll (customerFields value)) "customer" = Doc.at value "name" :=
    at_addAll_of_mem (by rw [keys_customerFields]; decide) List.mem_cons_self
  rw [takeCustomer, at_addAll_of_not_mem (by rw [keys_termsFields]; decide), at_takePriceList (by decide), hset]

theorem priceList_takeCustomer :
    Doc.at (takeCustomer data value) "selling_price_list" = Doc.at value "default_price_list" := by
  rw [takeCustomer, at_addAll_of_not_mem (by rw [keys_termsFields]; decide), priceList_takePriceList]

/-- The page of the opening writes neither the customer nor the address. -/
theorem at_takeOpening {dueDate : String} (hopening : k ∉ (openingFields value).map Prod.fst)
    (hk : k ≠ "selling_price_list" ∧ k ≠ "due_date") : Doc.at (takeOpening data value dueDate) k = Doc.at data k := by
  rw [takeOpening, at_addAll_of_not_mem hopening, at_takePriceList hk.1, Doc.at_set_ne _ _ hk.2.symm]

theorem priceList_takeOpening {dueDate : String} :
    Doc.at (takeOpening data value dueDate) "selling_price_list" = Doc.at value "default_price_list" := by
  rw [takeOpening, at_addAll_of_not_mem (by rw [keys_openingFields]; decide), priceList_takePriceList]

theorem contact_takeOpening {dueDate : String} :
    Doc.at (takeOpening data value dueDate) "contact_person" = Doc.at value "customer_primary_contact" :=
  at_addAll_of_mem (by rw [keys_openingFields]; decide) (by simp [openingFields])

theorem link_key_ne (link : CustomerLink) : link.key ≠ "customer" ∧ link.key ≠ "selling_price_list" := by
  cases link <;> decide

/-! ### Coherence -/

/-- The address, the contact person and the prices are those of the customer, and once all pages have come the customer is
    the one that was picked last. -/
structure Coherent (s : CustomerPick) : Prop where
  rows : ∀ row ∈ s.newItemList, row.priceList = s.priceList
  links : ∀ link : CustomerLink, Doc.at s.data link.key = .null ∨ s.owner link = Doc.at s.data "customer"
  shown : s.requests = [] → ∀ last ∈ s.lastPick, Doc.at s.data "customer" = Doc.at last "name"

/-- A page that changes the price list comes before there are rows. -/
def Prices (s : CustomerPick) (page : Doc) : Prop :=
  s.newItemList = [] ∨ effectiveList s.defaultSellingPriceList (Doc.at page "default_price_list") = s.priceList

/-- A list is used for what it was opened for, no page changes the price list under rows, that of the opening has no contact
    or is still of the customer, and the last page to come is that of the customer that was picked last. -/
def Guard (s : CustomerPick) : CustomerPickEvent → Prop
  | .pickLink value => Doc.at value "name" = .null ∨ Doc.at s.data "customer" = .null ∨
      ∀ link customer, s.picker = some (.links link customer) → customer = Doc.at s.data "customer"
  | .pickItem _ => ∀ priceList, s.picker = some (.items priceList) → priceList = s.priceList
  | .arrive index ok => ∀ value ∈ s.requests[index]?,
      (ok = true → s.Prices value) ∧
      (s.requests.eraseIdx index = [] → ∀ last ∈ s.lastPick,
        (if ok then Doc.at value "name" else Doc.at s.data "customer") = Doc.at last "name")
  | .arriveOpening page _ ok => ok = true → s.Prices page ∧
      (Doc.at page "customer_primary_contact" = .null ∨ Doc.at page "name" = Doc.at s.data "customer")
  | .openCustomers | .openLinks _ | .openItems | .pickCustomer _ | .closePicker | .removeItem _ => True

/-- Coherence reads the data, the rows and what is picked and asked for. -/
theorem Coherent.keep (h : s.Coherent) (hdata : t.data = s.data)
    (hdefault : t.defaultSellingPriceList = s.defaultSellingPriceList) (hrows : ∀ row ∈ t.newItemList, row ∈ s.newItemList)
    (howner : t.owner = s.owner) (hshown : t.requests = [] → s.requests = [] ∧ t.lastPick = s.lastPick) : t.Coherent where
  rows row hrow := by
    have hlist : t.priceList = s.priceList := by rw [priceList, priceList, hdata, hdefault]
    rw [hlist]
    exact h.rows row (hrows row hrow)
  links := by
    rw [hdata, howner]
    exact h.links
  shown hnil := by
    obtain ⟨hs, hlast⟩ := hshown hnil
    rw [hdata, hlast]
    exact h.shown hs

/-! ### Steps -/

theorem coherent_pickLink (h : s.Coherent) (ht : step s (.pickLink value) = some t) :
    t.Coherent ↔ Guard s (.pickLink value) := by
  simp only [step] at ht
  split at ht
  · next link customer hpicker =>
    obtain ⟨hcustomerKey, hlistKey⟩ := link_key_ne link
    have hguard : Guard s (.pickLink value) ↔
        Doc.at value "name" = .null ∨ Doc.at s.data "customer" = .null ∨ customer = Doc.at s.data "customer" := by
      simp only [Guard, hpicker, Option.some.injEq, PartyPicker.links.injEq]
      exact or_congr_right (or_congr_right ⟨fun hg => hg link customer ⟨rfl, rfl⟩, fun hg _ _ heq => heq.2 ▸ hg⟩)
    rw [hguard]
    split at ht
    · next hnull =>
      cases ht
      exact iff_of_true (h.keep rfl rfl (fun _ hrow => hrow) rfl fun hnil => ⟨hnil, rfl⟩) (.inr (.inl hnull))
    · next hsome =>
      cases ht
      have hcustomer : Doc.at (s.data.set link.key (Doc.at value "name")) "customer" = Doc.at s.data "customer" :=
        Doc.at_set_ne _ _ hcustomerKey
      constructor
      · intro ht
        have hlink := ht.links link
        dsimp only at hlink
        rw [Doc.at_set_self, Function.update_self, hcustomer] at hlink
        exact hlink.imp_right .inr
      · intro hg
        refine ⟨fun row hrow => (h.rows row hrow).trans ?_, fun link' => ?_, fun hnil => ?_⟩
        · exact congrArg (effectiveList s.defaultSellingPriceList) (Doc.at_set_ne _ _ hlistKey).symm
        · dsimp only
          by_cases heq : link' = link
          · subst heq
            rw [Doc.at_set_self, Function.update_self, hcustomer]
            exact hg.imp_right fun hg => hg.resolve_left hsome
          · have hkey : link.key ≠ link'.key := by
              cases link <;> cases link' <;> first | decide | exact absurd rfl heq
            rw [Doc.at_set_ne _ _ hkey, Function.update_of_ne heq, hcustomer]
            exact h.links link'
        · rw [hcustomer]
          exact h.shown hnil
  · cases ht

theorem coherent_pickItem {row : ItemRow Num} (h : s.Coherent) (ht : step s (.pickItem row) = some t) :
    t.Coherent ↔ Guard s (.pickItem row) := by
  simp only [step] at ht
  split at ht
  · next priceList hpicker =>
    cases ht
    constructor
    · intro ht list hlist
      cases hpicker.symm.trans hlist
      exact ht.rows ⟨row, priceList⟩ (List.mem_append_right _ List.mem_cons_self)
    · intro hg
      refine ⟨fun row' hrow' => ?_, h.links, h.shown⟩
      rcases List.mem_append.mp hrow' with hrow' | hrow'
      · exact h.rows row' hrow'
      · rw [List.mem_singleton.mp hrow']
        exact hg priceList hpicker
  · cases ht

/-- Rows that were at the price list are at that of the page exactly when it changes nothing under them. -/
theorem prices_iff {page : Doc} {list : Value} (h : s.Coherent)
    (hlist : list = effectiveList s.defaultSellingPriceList (Doc.at page "default_price_list")) :
    (∀ row ∈ s.newItemList, row.priceList = list) ↔ s.Prices page := by
  subst hlist
  constructor
  · intro hrows
    cases hnew : s.newItemList with
    | nil => exact .inl hnew
    | cons row rows =>
      have hmem : row ∈ s.newItemList := hnew ▸ List.mem_cons_self
      exact .inr ((hrows row hmem).symm.trans (h.rows row hmem))
  · rintro (hnil | heq) row hrow
    · rw [hnil] at hrow
      cases hrow
    · exact (h.rows row hrow).trans heq.symm

theorem coherent_arrive {index : Nat} {ok : Bool} (h : s.Coherent) (ht : step s (.arrive index ok) = some t) :
    t.Coherent ↔ Guard s (.arrive index ok) := by
  obtain ⟨value, hvalue, rfl⟩ := Option.map_eq_some_iff.mp ht
  have hguard : Guard s (.arrive index ok) ↔
      (ok = true → s.Prices value) ∧
      (s.requests.eraseIdx index = [] → ∀ last ∈ s.lastPick,
        (if ok then Doc.at value "name" else Doc.at s.data "customer") = Doc.at last "name") := by
    simp only [Guard, hvalue, Option.mem_some_iff, forall_eq']
  rw [hguard]
  cases ok with
  | false =>
    refine ⟨fun ht => ⟨nofun, ht.shown⟩, fun hg => ⟨h.rows, h.links, hg.2⟩⟩
  | true =>
    have hcustomer : Doc.at ({ s with requests := s.requests.eraseIdx index }.arrived value true).data "customer" =
        Doc.at value "name" := customer_takeCustomer
    have hlist : ({ s with requests := s.requests.eraseIdx index }.arrived value true).priceList =
        effectiveList s.defaultSellingPriceList (Doc.at value "default_price_list") :=
      congrArg (effectiveList s.defaultSellingPriceList) priceList_takeCustomer
    constructor
    · intro ht
      refine ⟨fun _ => (prices_iff h hlist).mp ht.rows, fun hnil last hlast => ?_⟩
      · rw [if_pos rfl, ← hcustomer]
        exact ht.shown hnil last hlast
    · rintro ⟨hrows, hshown⟩
      refine ⟨(prices_iff h hlist).mpr (hrows rfl), fun _ => .inr hcustomer.symm, fun hnil last hlast => ?_⟩
      · rw [hcustomer]
        exact (if_pos rfl).symm.trans (hshown hnil last hlast)

theorem coherent_arriveOpening {page : Doc} {dueDate : String} {ok : Bool} (h : s.Coherent)
    (ht : step s (.arriveOpening page dueDate ok) = some t) : t.Coherent ↔ Guard s (.arriveOpening page dueDate ok) := by
  obtain ⟨-, ht⟩ := Option.ite_none_right_eq_some.mp ht
  cases ok with
  | false =>
    cases ht
    exact iff_of_true (h.keep rfl rfl (fun _ hrow => hrow) rfl fun hnil => ⟨hnil, rfl⟩) nofun
  | true =>
    cases ht
    have hcustomer : Doc.at (takeOpening s.data page dueDate) "customer" = Doc.at s.data "customer" :=
      at_takeOpening (by rw [keys_openingFields]; decide) (by decide)
    have haddress : Doc.at (takeOpening s.data page dueDate) "customer_address" = Doc.at s.data "customer_address" :=
      at_takeOpening (by rw [keys_openingFields]; decide) (by decide)
    have hlist : effectiveList s.defaultSellingPriceList (Doc.at (takeOpening s.data page dueDate) "selling_price_list") =
        effectiveList s.defaultSellingPriceList (Doc.at page "default_price_list") := by
      rw [priceList_takeOpening]
    constructor
    · intro ht _
      have hcontact := ht.links .contact
      dsimp only [CustomerLink.key] at hcontact
      rw [contact_takeOpening, Function.update_self, hcustomer] at hcontact
      exact ⟨(prices_iff h hlist).mp ht.rows, hcontact⟩
    · intro hg
      refine ⟨(prices_iff h hlist).mpr (hg rfl).1, fun link => ?_, fun hnil => ?_⟩
      · cases link with
        | contact =>
          dsimp only [CustomerLink.key]
          rw [contact_takeOpening, Function.update_self, hcustomer]
          exact (hg rfl).2
        | address =>
          dsimp only [CustomerLink.key]
          rw [haddress, Function.update_of_ne (by simp), hcustomer]
          exact h.links .address
      · dsimp only
        rw [hcustomer]
        exact h.shown hnil

/-- The guard is what a step needs to keep the form coherent. -/
theorem coherent_step (h : s.Coherent) (ht : step s e = some t) : t.Coherent ↔ Guard s e := by
  cases e with
  | openCustomers =>
    obtain ⟨-, ht⟩ := Option.ite_none_right_eq_some.mp ht
    cases ht
    exact iff_of_true (h.keep rfl rfl (fun _ hrow => hrow) rfl fun hnil => ⟨hnil, rfl⟩) trivial
  | openLinks link =>
    obtain ⟨-, ht⟩ := Option.ite_none_right_eq_some.mp ht
    cases ht
    exact iff_of_true (h.keep rfl rfl (fun _ hrow => hrow) rfl fun hnil => ⟨hnil, rfl⟩) trivial
  | openItems =>
    obtain ⟨-, ht⟩ := Option.ite_none_right_eq_some.mp ht
    cases ht
    exact iff_of_true (h.keep rfl rfl (fun _ hrow => hrow) rfl fun hnil => ⟨hnil, rfl⟩) trivial
  | pickCustomer value =>
    obtain ⟨-, ht⟩ := Option.ite_none_right_eq_some.mp ht
    cases ht
    exact iff_of_true (h.keep rfl rfl (fun _ hrow => hrow) rfl fun hnil => absurd hnil (by simp)) trivial
  | pickLink value => exact coherent_pickLink h ht
  | pickItem row => exact coherent_pickItem h ht
  | closePicker =>
    obtain ⟨_, -, rfl⟩ := Option.map_eq_some_iff.mp ht
    exact iff_of_true (h.keep rfl rfl (fun _ hrow => hrow) rfl fun hnil => ⟨hnil, rfl⟩) trivial
  | removeItem index =>
    obtain ⟨-, ht⟩ := Option.ite_none_right_eq_some.mp ht
    cases ht
    exact iff_of_true (h.keep rfl rfl (fun _ hrow => List.mem_of_mem_eraseIdx hrow) rfl fun hnil => ⟨hnil, rfl⟩) trivial
  | arrive index ok => exact coherent_arrive h ht
  | arriveOpening page dueDate ok => exact coherent_arriveOpening h ht

theorem coherent_start (data : Doc) (defaultSellingPriceList : String) (rows : List (ItemRow Num)) (isCreateFromPage : Bool) :
    (start data defaultSellingPriceList rows isCreateFromPage).Coherent where
  rows row hrow := by
    obtain ⟨_, -, rfl⟩ := List.mem_map.mp hrow
    rfl
  links _ := .inr rfl
  shown _ := nofun

/-- A sales order is of one customer all along a run exactly when each step meets the guard: pages of customers that were
    picked before come before the last one, none changes the price list under rows, and no list outlives its customer. -/
theorem coherent_iff (data : Doc) (defaultSellingPriceList : String) (rows : List (ItemRow Num)) (isCreateFromPage : Bool)
    (es : List CustomerPickEvent) :
    Along step Coherent (start data defaultSellingPriceList rows isCreateFromPage) es ↔
      Guarded step Guard (start data defaultSellingPriceList rows isCreateFromPage) es :=
  along_iff_guarded (I := Coherent) (fun _ h => h) (fun _ _ _ h ht hg => (coherent_step h ht).mpr hg)
    (fun _ _ _ h ht hc => (coherent_step h ht).mp hc) (coherent_start data defaultSellingPriceList rows isCreateFromPage)

end NextApp.CustomerPick
