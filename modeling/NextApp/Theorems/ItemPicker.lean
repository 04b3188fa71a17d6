import NextApp.Lib.Runs
import NextApp.Model.ItemPicker

/-! # The rows that the cards add

A card keeps its unit and rate by its place in the list. Nothing but an answer puts other items there, and nothing but an
answer to another screen brings items of another price list: whatever the order of searches, scans, loads and answers, an
added row is an offer of the screen as long as the answers fit it. What does not fit can be added at once. -/

namespace NextApp.ItemPicker
open Runs

variable {listed : String → NewItemModel → Prop} {salesInvoice : Bool} {s t : ItemPicker} {e : ItemPickerEvent}
  {sc : ItemListScreen} {cubit : ItemsCubit NewItemModel} {items rows : List NewItemModel} {i : Nat} {c : ItemCard}
  {item : NewItemModel}

/-- A unit and the rate of the item for it. -/
def Offered (item : NewItemModel) (uom : String) (rate : Float) : Prop :=
  (uom = item.uom ∧ rate = item.priceListRate) ∨
    ∃ u ∈ item.uomList, uom = u.uom ∧ rate = u.conversionFactor * item.priceListRate

/-- The unit that a card shows and the rate that it keeps are of the item. -/
def Fits (c : ItemCard) (item : NewItemModel) : Prop :=
  Offered item (c.uom.getD item.uom) (c.newRate.getD item.priceListRate)

/-- What can be tapped in a dialog reads as the unit of the item in its place. -/
def Reads (uoms : List String) (item : NewItemModel) : Prop :=
  ∀ (k : Nat), ∀ u ∈ item.uomList[k]?, ∀ text ∈ uoms[k]?, text = u.uom

/-- A screen over the items: they are of its price list, its cards have units and rates of the items at their places, and its
    dialog is that of a card, with the units of the card's item. -/
structure Right (listed : String → NewItemModel → Prop) (items : List NewItemModel) (sc : ItemListScreen) : Prop where
  listed : ∀ item ∈ items, listed sc.priceList item
  cards : sc.cards.All fun i c => ∃ item ∈ items[i]?, Fits c item
  card : ∀ d ∈ sc.dialog, ∀ i ∈ d.card, (sc.cards i).isSome
  dialog : ∀ d ∈ sc.dialog, ∀ i ∈ d.card, ∃ item ∈ items[i]?, Reads d.uoms item

def Sound (listed : String → NewItemModel → Prop) (s : ItemPicker) : Prop :=
  ∀ sc ∈ s.screen, Right listed s.cubit.items sc

/-- The cards and the dialog go on over these items where there are as many. -/
structure GoesOn (sc : ItemListScreen) (rows : List NewItemModel) : Prop where
  cards : sc.cards.All fun i c => ∀ item ∈ rows[i]?, Fits c item
  dialog : ∀ d ∈ sc.dialog, ∀ i ∈ d.card, ∀ item ∈ rows[i]?, Reads d.uoms item

/-- A card adds a row of its item and its quantity, if any, and the item is of the price list, with the unit and rate of the
    row; a tap in the dialog picks the unit that is read there, or nothing; and the rows stay as they are in every other step
    of the screen. -/
structure Offers (listed : String → NewItemModel → Prop) (salesInvoice : Bool) (s : ItemPicker) (e : ItemPickerEvent)
    (t : ItemPicker) : Prop where
  adds : ∀ i, e = .add i → t.newItemList = s.newItemList ∨
    ∃ sc ∈ s.screen, ∃ c ∈ sc.cards i, ∃ item ∈ s.cubit.items[i]?, ∃ (qty : Int) (uom : String) (rate : Float),
      listed sc.priceList item ∧ Offered item uom rate ∧ intOfText c.field.text = some qty ∧
      t.newItemList = s.newItemList ++
        [{ (item.picked salesInvoice qty uom rate).row with amount := some ((qty : Num) * .double rate) }]
  taps : ∀ k, e = .tapUom k → t = s ∨
    ∃ sc ∈ s.screen, ∃ d ∈ sc.dialog, ∃ i ∈ d.card, ∃ sc' ∈ t.screen, ∃ c ∈ sc'.cards i, c.uom = d.uoms[k]?
  keeps : (∀ i, e ≠ .add i) → (∀ rows, e ≠ .form rows) → t.newItemList = s.newItemList

/-- An answer brings items of the open screen's price list only, and the cards and the dialog over the items that it takes the
    place of go on over its own. -/
def Guard (listed : String → NewItemModel → Prop) (s : ItemPicker) : ItemPickerEvent → Prop
  | .reply index message =>
    ∀ sc ∈ s.screen, ∀ x ∈ s.pending[index]?, ∀ rows ∈ message.bind (Value.listOf? NewItemModel.fromJson),
      (∀ item ∈ rows, listed sc.priceList item) ∧ (x.replaces = true → GoesOn sc rows)
  | _ => True

/-- No answer comes. -/
def ByUser (e : ItemPickerEvent) : Prop := ∀ index message, e ≠ .reply index message

/-! ### The screen over its items -/

theorem Right.goesOn (h : Right listed items sc) : GoesOn sc items where
  cards := h.cards.mono fun i c hc item hitem => by
    obtain ⟨item', hitem', hfits⟩ := hc
    cases hitem.symm.trans hitem'
    exact hfits
  dialog d hd i hi item hitem := by
    obtain ⟨item', hitem', hreads⟩ := h.dialog d hd i hi
    cases hitem.symm.trans hitem'
    exact hreads

/-- More items behind the others change nothing for the cards. -/
theorem Right.goesOn_append (h : Right listed items sc) : GoesOn sc (items ++ rows) where
  cards := h.cards.mono fun i c hc item hitem => by
    obtain ⟨item', hitem', hfits⟩ := hc
    rw [Option.mem_def, List.getElem?_append_left (List.getElem?_eq_some_iff.mp hitem').1] at hitem
    cases hitem.symm.trans hitem'
    exact hfits
  dialog d hd i hi item hitem := by
    obtain ⟨item', hitem', hreads⟩ := h.dialog d hd i hi
    rw [Option.mem_def, List.getElem?_append_left (List.getElem?_eq_some_iff.mp hitem').1] at hitem
    cases hitem.symm.trans hitem'
    exact hreads

theorem goesOn_nil : GoesOn sc [] := ⟨fun i c _ item h => by simp at h, fun d _ i _ item h => by simp at h⟩

theorem mem_card_build {d : UomDialog} {n : Nat} : i ∈ d.card.filter (fun j => decide (j < n)) ↔ i ∈ d.card ∧ i < n := by
  simp [Option.filter_eq_some_iff]

theorem getElem?_of_lt_itemCount (h : i < ItemListScreen.itemCount cubit) : ∃ item, cubit.items[i]? = some item := by
  unfold ItemListScreen.itemCount at h
  split at h
  · exact ⟨_, List.getElem?_eq_getElem h⟩
  · cases h

theorem lt_itemCount (hshown : cubit.shown) (h : item ∈ cubit.items[i]?) : i < ItemListScreen.itemCount cubit := by
  rw [ItemListScreen.itemCount, if_pos hshown]
  exact (List.getElem?_eq_some_iff.mp h).1

theorem mem_cards_build {c : ItemCard} (hc : sc.cards i = some c) (hlt : i < ItemListScreen.itemCount cubit) :
    (sc.build cubit).cards i = some c.build := by
  dsimp only [ItemListScreen.build]
  exact Slots.mem_rebuild.mpr ⟨ItemCard.build, if_pos hlt, c, hc, rfl⟩

theorem right_build (hlisted : ∀ item ∈ cubit.items, listed sc.priceList item)
    (hcard : ∀ d ∈ sc.dialog, ∀ i ∈ d.card, (sc.cards i).isSome) (h : GoesOn sc cubit.items) :
    Right listed cubit.items (sc.build cubit) := by
  refine ⟨hlisted, Slots.all_rebuild_iff.mpr fun i c hc g hg => ?_, fun d' hd' i hi => ?_, fun d' hd' i hi => ?_⟩
  · obtain ⟨hlt, hg⟩ := Option.ite_none_right_eq_some.mp hg
    cases hg
    obtain ⟨item, hitem⟩ := getElem?_of_lt_itemCount hlt
    exact ⟨item, hitem, h.cards i c hc item hitem⟩
  · obtain ⟨d, hd, rfl⟩ := Option.map_eq_some_iff.mp hd'
    obtain ⟨hi, hlt⟩ := mem_card_build.mp hi
    obtain ⟨c, hc⟩ := Option.isSome_iff_exists.mp (hcard d hd i hi)
    rw [mem_cards_build hc hlt]
    rfl
  · obtain ⟨d, hd, rfl⟩ := Option.map_eq_some_iff.mp hd'
    obtain ⟨hi, hlt⟩ := mem_card_build.mp hi
    obtain ⟨item, hitem⟩ := getElem?_of_lt_itemCount hlt
    exact ⟨item, hitem, h.dialog d hd i hi item hitem⟩

theorem Right.setCard (h : Right listed items sc) (hc : ∃ item ∈ items[i]?, Fits c item) :
    Right listed items { sc with cards := sc.cards.put i c } :=
  ⟨h.listed, h.cards.put hc, fun d hd j hj => Slots.isSome_put (h.card d hd j hj), h.dialog⟩

theorem Right.closeDialog (h : Right listed items sc) : Right listed items { sc with dialog := none } :=
  ⟨h.listed, h.cards, fun d hd => (by cases hd), fun d hd => by cases hd⟩

/-! ### Steps of the screen -/

theorem sound_screen (h : Right listed s.cubit.items sc) : Sound listed { s with screen := some sc } := by
  rintro sc' hsc'
  cases hsc'
  exact h

theorem sound_build (hlisted : ∀ sc ∈ s.screen, ∀ item ∈ s.cubit.items, listed sc.priceList item)
    (hcard : ∀ sc ∈ s.screen, ∀ d ∈ sc.dialog, ∀ i ∈ d.card, (sc.cards i).isSome)
    (h : ∀ sc ∈ s.screen, GoesOn sc s.cubit.items) : Sound listed s.build := by
  intro sc' hsc'
  obtain ⟨sc, hsc, rfl⟩ := Option.map_eq_some_iff.mp hsc'
  exact right_build (hlisted sc hsc) (hcard sc hsc) (h sc hsc)

theorem Sound.build (h : Sound listed s) : Sound listed s.build :=
  sound_build (fun sc hsc => (h sc hsc).listed) (fun sc hsc => (h sc hsc).card) fun sc hsc => (h sc hsc).goesOn

theorem items_start (cubit : ItemsCubit NewItemModel) (p : String) (l : ItemListCall) :
    (l.start p cubit).1.items = [] ∨ (l.start p cubit).1.items = cubit.items := by
  cases l with
  | loadData | search => exact .inl rfl
  | scanBarcode | scrollEnd =>
    refine .inr ?_
    simp only [ItemListCall.start, ItemsCubit.startGetAllItems]
    split_ifs <;> rfl

theorem Sound.call (h : Sound listed s) (p : String) (l : ItemListCall) : Sound listed (s.call p l) := by
  rw [ItemPicker.call]
  have hitems := items_start s.cubit p l
  generalize l.start p s.cubit = r at hitems
  obtain ⟨cubit, x⟩ := r
  cases x with
  | none => exact h
  | some x =>
    rcases hitems with hnil | hsame
    · refine sound_build (fun sc _ item hitem => ?_) (fun sc hsc => (h sc hsc).card) fun sc _ => ?_
      · rw [hnil] at hitem
        cases hitem
      · rw [hnil]
        exact goesOn_nil
    · refine sound_build (fun sc hsc item hitem => ?_) (fun sc hsc => (h sc hsc).card) fun sc hsc => ?_
      · rw [hsame] at hitem
        exact (h sc hsc).listed item hitem
      · rw [hsame]
        exact (h sc hsc).goesOn

/-- Whatever screen loads the list starts from nothing. -/
theorem sound_loadData (hcard : ∀ sc ∈ s.screen, ∀ d ∈ sc.dialog, ∀ i ∈ d.card, (sc.cards i).isSome) (p : String) :
    Sound listed (s.call p .loadData) :=
  sound_build (s := { s with cubit := ⟨.gettingItemsLoading, [], false⟩, pending := s.pending ++ [_] })
    (fun _ _ _ hitem => by cases hitem) hcard fun _ _ => goesOn_nil

theorem right_dispose (h : Right listed items sc) : Right listed items (sc.dispose i) := by
  refine ⟨h.listed, h.cards.drop, fun d' hd' j hj => ?_, fun d' hd' j hj => ?_⟩
  · obtain ⟨d, hd, rfl⟩ := Option.map_eq_some_iff.mp hd'
    obtain ⟨hj, hne⟩ := Option.mem_filter_iff.mp hj
    have hdrop : (sc.dispose i).cards j = sc.cards j := Function.update_of_ne (of_decide_eq_true hne) _ _
    rw [hdrop]
    exact h.card d hd j hj
  · obtain ⟨d, hd, rfl⟩ := Option.map_eq_some_iff.mp hd'
    exact h.dialog d hd j (Option.mem_filter_iff.mp hj).1

theorem mem_cardAt (h : s.cardAt i = some (sc, c, item)) :
    s.screen = some sc ∧ sc.cards i = some c ∧ s.cubit.items[i]? = some item := by
  obtain ⟨sc', hsc, h⟩ := Option.bind_eq_some_iff.mp h
  obtain ⟨c', hc, h⟩ := Option.bind_eq_some_iff.mp h
  obtain ⟨item', hitem, h⟩ := Option.map_eq_some_iff.mp h
  cases h
  exact ⟨(Option.filter_eq_some_iff.mp hsc).1, hc, hitem⟩

/-! ### Answers -/

theorem cubit_reply (cubit : ItemsCubit NewItemModel) (x : ItemsRequest) (rows : List NewItemModel) :
    (cubit.endGetAllItems x (some rows)).shown ∧
      (cubit.endGetAllItems x (some rows)).items = if x.replaces then rows else cubit.items ++ rows := by
  rw [ItemsCubit.endGetAllItems, ItemsCubit.endGetItems]
  cases x.replaces <;> exact ⟨⟨by simp, by simp⟩, rfl⟩

theorem sound_reply {index : Nat} {message : Option Value} {x : ItemsRequest} (h : Sound listed s)
    (hx : s.pending[index]? = some x) (hg : Guard listed s (.reply index message)) :
    Sound listed ({ s with
        cubit := s.cubit.endGetAllItems x (message.bind (Value.listOf? NewItemModel.fromJson))
        pending := s.pending.eraseIdx index } : ItemPicker).build := by
  simp only [Guard, hx, Option.mem_def, Option.some.injEq, forall_eq'] at hg
  cases hrows : message.bind (Value.listOf? NewItemModel.fromJson) with
  | none =>
    exact sound_build (s := { s with cubit := s.cubit.endGetAllItems x none, pending := s.pending.eraseIdx index })
      (fun sc hsc => (h sc hsc).listed) (fun sc hsc => (h sc hsc).card) fun sc hsc => (h sc hsc).goesOn
  | some rows =>
    obtain ⟨-, hitems⟩ := cubit_reply s.cubit x rows
    refine sound_build (fun sc hsc item hitem => ?_) (fun sc hsc => (h sc hsc).card) fun sc hsc => ?_
    · rw [hitems] at hitem
      split at hitem
      · exact (hg sc hsc rows hrows).1 item hitem
      · rcases List.mem_append.mp hitem with hitem | hitem
        · exact (h sc hsc).listed item hitem
        · exact (hg sc hsc rows hrows).1 item hitem
    · rw [hitems]
      split
      · next hreplaces => exact (hg sc hsc rows hrows).2 hreplaces
      · exact (h sc hsc).goesOn_append

/-! ### What a step does -/

theorem reads_self : Reads (item.uomList.map (·.uom)) item := by
  intro k u hu text htext
  rw [List.getElem?_map, hu] at htext
  cases htext
  rfl

theorem sound_setCard (h : Right listed s.cubit.items sc) (hc : ∃ item ∈ s.cubit.items[i]?, Fits c item) :
    Sound listed (s.setCard sc i c) :=
  sound_screen (h.setCard hc)

/-- A card that shows the units and rates it did. -/
theorem sound_setCard_of_eq {c' : ItemCard} (h : Right listed s.cubit.items sc) (hc : sc.cards i = some c)
    (huom : c'.uom = c.uom) (hrate : c'.newRate = c.newRate) : Sound listed (s.setCard sc i c') := by
  obtain ⟨item, hitem, hfits⟩ := h.cards i c hc
  refine sound_setCard h ⟨item, hitem, ?_⟩
  rwa [Fits, huom, hrate]

/-- A tap on a unit picks what is read there, or nothing. -/
theorem tapUom_cases {d : UomDialog} {index : Nat} (h : Right listed s.cubit.items sc) (hd : sc.dialog = some d)
    (hindex : index < d.uoms.length) :
    s.tapUom sc d index = s ∨ ∃ i ∈ d.card, ∃ c ∈ sc.cards i, ∃ item ∈ s.cubit.items[i]?, ∃ u ∈ item.uomList,
      d.uoms[index]? = some u.uom ∧ s.tapUom sc d index = s.setCard { sc with dialog := none } i (c.setUom item u).build := by
  unfold tapUom
  split
  · exact .inl rfl
  · next i hi =>
    split
    · next c item hc hitem =>
      split
      · exact .inl rfl
      · next u hu =>
        obtain ⟨item', hitem', hreads⟩ := h.dialog d hd i hi
        cases hitem.symm.trans hitem'
        refine .inr ⟨i, hi, c, hc, item, hitem, u, List.mem_of_getElem? hu, ?_, rfl⟩
        rw [List.getElem?_eq_getElem hindex, hreads index u hu _ (List.getElem?_eq_getElem hindex)]
    · exact .inl rfl

theorem sound_add (h : Right listed s.cubit.items sc) (hc : sc.cards i = some c) (hs : Sound listed s) :
    Sound listed (add salesInvoice s sc i c item) := by
  unfold add
  split
  · exact hs
  · next qty _ =>
    have hcard : Sound listed (s.setCard sc i { c with qty }) := sound_setCard_of_eq h hc rfl rfl
    exact Sound.build fun sc' hsc' => hcard sc' hsc'

theorem newItemList_call (s : ItemPicker) (p : String) (l : ItemListCall) : (s.call p l).newItemList = s.newItemList := by
  unfold call
  split <;> rfl

theorem newItemList_tapUom (s : ItemPicker) (sc : ItemListScreen) (d : UomDialog) (index : Nat) :
    (s.tapUom sc d index).newItemList = s.newItemList := by
  unfold tapUom
  split
  · rfl
  · split
    · split <;> rfl
    · rfl

theorem sound_step (h : Sound listed s) (ht : step salesInvoice s e = some t) (hg : Guard listed s e) : Sound listed t := by
  cases e with
  | reply index message =>
    obtain ⟨x, hx, rfl⟩ := Option.map_eq_some_iff.mp ht
    exact sound_reply h hx hg
  | openScreen priceList =>
    obtain ⟨-, ht⟩ := Option.ite_none_right_eq_some.mp ht
    cases ht
    exact sound_loadData (fun sc hsc d hd => by cases hsc; cases hd) _
  | loadData =>
    obtain ⟨_, -, rfl⟩ := Option.map_eq_some_iff.mp ht
    exact sound_loadData (fun sc hsc => (h sc hsc).card) _
  | typeSearch value =>
    obtain ⟨sc, hsc, rfl⟩ := Option.map_eq_some_iff.mp ht
    have hright := h sc (Option.filter_eq_some_iff.mp hsc).1
    exact sound_screen ⟨hright.listed, hright.cards, hright.card, hright.dialog⟩
  | search =>
    obtain ⟨sc, hsc, ht⟩ := Option.bind_eq_some_iff.mp ht
    obtain ⟨value, -, rfl⟩ := Option.map_eq_some_iff.mp ht
    have hright := h sc hsc
    have hscreen : Sound listed { s with screen := some { sc with debounce := none } } :=
      sound_screen ⟨hright.listed, hright.cards, hright.card, hright.dialog⟩
    exact hscreen.call _ _
  | leftSearch index =>
    obtain ⟨⟨priceList, value⟩, -, rfl⟩ := Option.map_eq_some_iff.mp ht
    have hleft : Sound listed { s with left := s.left.eraseIdx index } := fun sc hsc => h sc hsc
    exact hleft.call priceList (.search value)
  | scanBarcode barcode =>
    obtain ⟨sc, -, rfl⟩ := Option.map_eq_some_iff.mp ht
    exact h.call _ _
  | scrollEnd =>
    obtain ⟨sc, -, ht⟩ := Option.bind_eq_some_iff.mp ht
    obtain ⟨-, ht⟩ := Option.ite_none_right_eq_some.mp ht
    cases ht
    exact h.build.call _ _
  | mount index =>
    obtain ⟨sc, hsc, ht⟩ := Option.bind_eq_some_iff.mp ht
    obtain ⟨⟨-, hlt, -⟩, ht⟩ := Option.ite_none_right_eq_some.mp ht
    cases ht
    exact sound_setCard (h sc hsc) ⟨_, List.getElem?_eq_getElem hlt, .inl ⟨rfl, rfl⟩⟩
  | dispose index =>
    obtain ⟨sc, hsc, rfl⟩ := Option.map_eq_some_iff.mp ht
    exact sound_screen (right_dispose (h sc hsc))
  | typeQty index value =>
    obtain ⟨⟨sc, c, item⟩, hcard, rfl⟩ := Option.map_eq_some_iff.mp ht
    obtain ⟨hsc, hc, -⟩ := mem_cardAt hcard
    exact sound_setCard_of_eq (h sc hsc) hc rfl rfl
  | update index =>
    obtain ⟨sc, hsc, ht⟩ := Option.bind_eq_some_iff.mp ht
    obtain ⟨c, hc, ht⟩ := Option.bind_eq_some_iff.mp ht
    obtain ⟨-, ht⟩ := Option.ite_none_right_eq_some.mp ht
    cases ht
    exact sound_setCard_of_eq (h sc hsc) hc rfl rfl
  | rebuild =>
    cases ht
    exact h.build
  | showUoms index =>
    obtain ⟨⟨sc, c, item⟩, hcard, rfl⟩ := Option.map_eq_some_iff.mp ht
    obtain ⟨hsc, hc, hitem⟩ := mem_cardAt hcard
    refine sound_screen ⟨(h sc hsc).listed, (h sc hsc).cards, fun d hd i hi => ?_, fun d hd i hi => ?_⟩
    · cases hd
      cases hi
      exact Option.isSome_iff_exists.mpr ⟨c, hc⟩
    · cases hd
      cases hi
      exact ⟨item, hitem, reads_self⟩
  | tapUom index =>
    obtain ⟨sc, hsc, ht⟩ := Option.bind_eq_some_iff.mp ht
    obtain ⟨d, hd, ht⟩ := Option.bind_eq_some_iff.mp ht
    obtain ⟨hindex, ht⟩ := Option.ite_none_right_eq_some.mp ht
    cases ht
    rcases tapUom_cases (h sc hsc) hd hindex with hsame | ⟨i, -, c, -, item, hitem, u, hu, -, htap⟩
    · rw [hsame]
      exact h
    · rw [htap]
      exact sound_setCard (h sc hsc).closeDialog ⟨item, hitem, .inr ⟨u, hu, rfl, rfl⟩⟩
  | closeUoms =>
    obtain ⟨sc, hsc, ht⟩ := Option.bind_eq_some_iff.mp ht
    obtain ⟨d, -, rfl⟩ := Option.map_eq_some_iff.mp ht
    exact sound_screen (h sc hsc).closeDialog
  | add index =>
    obtain ⟨⟨sc, c, item⟩, hcard, rfl⟩ := Option.map_eq_some_iff.mp ht
    obtain ⟨hsc, hc, -⟩ := mem_cardAt hcard
    exact sound_add (h sc hsc) hc h
  | finish =>
    obtain ⟨sc, -, rfl⟩ := Option.map_eq_some_iff.mp ht
    exact fun sc hsc => by cases hsc
  | form rows =>
    obtain ⟨-, ht⟩ := Option.ite_none_right_eq_some.mp ht
    cases ht
    exact fun sc hsc => h sc hsc

theorem newItemList_add {qty : Int} (hqty : intOfText c.field.text = some qty) :
    (add salesInvoice s sc i c item).newItemList = s.newItemList ++ [
      { (item.picked salesInvoice qty (c.uom.getD item.uom) (c.newRate.getD item.priceListRate)).row with
        amount := some ((qty : Num) * .double (c.newRate.getD item.priceListRate)) }] := by
  rw [add, hqty]
  rfl

theorem newItemList_add_cases :
    (add salesInvoice s sc i c item).newItemList = s.newItemList ∨ ∃ qty, intOfText c.field.text = some qty := by
  cases hqty : intOfText c.field.text with
  | none =>
    rw [add, hqty]
    exact .inl rfl
  | some qty => exact .inr ⟨qty, rfl⟩

theorem newItemList_step (ht : step salesInvoice s e = some t) (hadd : ∀ i, e ≠ .add i) (hform : ∀ rows, e ≠ .form rows) :
    t.newItemList = s.newItemList := by
  cases e with
  | add index => exact absurd rfl (hadd index)
  | form rows => exact absurd rfl (hform rows)
  | openScreen priceList =>
    obtain ⟨-, ht⟩ := Option.ite_none_right_eq_some.mp ht
    cases ht
    rfl
  | loadData | typeSearch | dispose | finish | typeQty | showUoms | leftSearch | reply =>
    obtain ⟨_, -, rfl⟩ := Option.map_eq_some_iff.mp ht
    rfl
  | scanBarcode barcode =>
    obtain ⟨sc, -, rfl⟩ := Option.map_eq_some_iff.mp ht
    exact newItemList_call _ _ _
  | search | closeUoms =>
    obtain ⟨sc, -, ht⟩ := Option.bind_eq_some_iff.mp ht
    obtain ⟨_, -, rfl⟩ := Option.map_eq_some_iff.mp ht
    rfl
  | scrollEnd =>
    obtain ⟨sc, -, ht⟩ := Option.bind_eq_some_iff.mp ht
    obtain ⟨-, ht⟩ := Option.ite_none_right_eq_some.mp ht
    cases ht
    exact newItemList_call _ _ _
  | mount index =>
    obtain ⟨sc, -, ht⟩ := Option.bind_eq_some_iff.mp ht
    obtain ⟨-, ht⟩ := Option.ite_none_right_eq_some.mp ht
    cases ht
    rfl
  | update index =>
    obtain ⟨sc, -, ht⟩ := Option.bind_eq_some_iff.mp ht
    obtain ⟨c, -, ht⟩ := Option.bind_eq_some_iff.mp ht
    obtain ⟨-, ht⟩ := Option.ite_none_right_eq_some.mp ht
    cases ht
    rfl
  | tapUom index =>
    obtain ⟨sc, -, ht⟩ := Option.bind_eq_some_iff.mp ht
    obtain ⟨d, -, ht⟩ := Option.bind_eq_some_iff.mp ht
    obtain ⟨-, ht⟩ := Option.ite_none_right_eq_some.mp ht
    cases ht
    exact newItemList_tapUom _ _ _ _
  | rebuild =>
    cases ht
    rfl

theorem offers_step (h : Sound listed s) (ht : step salesInvoice s e = some t) : Offers listed salesInvoice s e t := by
  refine ⟨?_, ?_, newItemList_step ht⟩
  · rintro i rfl
    obtain ⟨⟨sc, c, item⟩, hcard, rfl⟩ := Option.map_eq_some_iff.mp ht
    obtain ⟨hsc, hc, hitem⟩ := mem_cardAt hcard
    have hadded : (add salesInvoice s sc i c item).newItemList = s.newItemList ∨ ∃ qty, intOfText c.field.text = some qty :=
      newItemList_add_cases
    rcases hadded with hsame | ⟨qty, hqty⟩
    · exact .inl hsame
    · obtain ⟨item', hitem', hfits⟩ := (h sc hsc).cards i c hc
      cases hitem.symm.trans hitem'
      have hlisted : listed sc.priceList item := (h sc hsc).listed item (List.mem_of_getElem? hitem)
      exact .inr ⟨sc, hsc, c, hc, item, hitem, qty, _, _, hlisted, hfits, hqty, newItemList_add hqty⟩
  · rintro k rfl
    obtain ⟨sc, hsc, ht⟩ := Option.bind_eq_some_iff.mp ht
    obtain ⟨d, hd, ht⟩ := Option.bind_eq_some_iff.mp ht
    obtain ⟨hindex, ht⟩ := Option.ite_none_right_eq_some.mp ht
    cases ht
    rcases tapUom_cases (h sc hsc) hd hindex with hsame | ⟨i, hi, c, hc, item, -, u, -, hread, htap⟩
    · exact .inl hsame
    · refine .inr ⟨sc, hsc, d, hd, i, hi, _, by rw [htap]; rfl, _, Slots.put_self, ?_⟩
      rw [hread]
      rfl

/-! ### What does not fit can be added -/

theorem cardAt_eq (hscreen : s.screen = some sc) (hdialog : sc.dialog = none) (hc : sc.cards i = some c)
    (hitem : s.cubit.items[i]? = some item) : s.cardAt i = some (sc, c, item) := by
  have hfront : s.front = some sc := by simp [front, hscreen, hdialog]
  simp [cardAt, hfront, hc, hitem]

/-- A row that can be added shows what its card offers. -/
theorem fits_of_add {qty : Int} (hcard : s.cardAt i = some (sc, c, item)) (hqty : intOfText c.field.text = some qty)
    (h : Each (step salesInvoice) (Offers listed salesInvoice) s [.add i]) : listed sc.priceList item ∧ Fits c item := by
  have ht : step salesInvoice s (.add i) = some (add salesInvoice s sc i c item) := by simp [step, hcard]
  obtain ⟨hscreen, hc, hitem⟩ := mem_cardAt hcard
  have hrows : (add salesInvoice s sc i c item).newItemList = _ := newItemList_add hqty
  rcases (h _ ht).1.adds i rfl with hsame | ⟨sc', hsc', c', hc', item', hitem', qty', uom, rate, hlisted, hoffered, -, hrows'⟩
  · exact absurd (hrows.symm.trans hsame) (by simp)
  · cases hscreen.symm.trans hsc'
    cases hc.symm.trans hc'
    cases hitem.symm.trans hitem'
    refine ⟨hlisted, ?_⟩
    have hrow := List.append_cancel_left (hrows.symm.trans hrows')
    simp only [NewItemModel.picked, PickedItem.row, List.cons.injEq, and_true, ItemRow.mk.injEq, Option.some.injEq,
      Num.double.injEq] at hrow
    obtain ⟨-, hrate, -, -, huom⟩ := hrow
    rw [Fits, hrate]
    simp at huom
    rwa [huom]

theorem fits_of_typed (hscreen : s.screen = some sc) (hdialog : sc.dialog = none) (hc : sc.cards i = some c)
    (hitem : s.cubit.items[i]? = some item)
    (h : Each (step salesInvoice) (Offers listed salesInvoice) s [.typeQty i "1", .add i]) :
    listed sc.priceList item ∧ Fits c item := by
  have hcard := cardAt_eq hscreen hdialog hc hitem
  have ht : step salesInvoice s (.typeQty i "1") = some (s.setCard sc i (c.onChanged "1")) := by simp [step, hcard]
  have htyped : (s.setCard sc i (c.onChanged "1")).cardAt i =
      some ({ sc with cards := sc.cards.put i (c.onChanged "1") }, c.onChanged "1", item) :=
    cardAt_eq rfl hdialog Slots.put_self hitem
  have hqty : intOfText (c.onChanged "1").field.text = some 1 := by
    change intOfText "1" = some 1
    decide +kernel
  have hadded := fits_of_add htyped hqty (h _ ht).2
  exact hadded

variable (listed salesInvoice) in
/-- The user brings the card into view and adds its item. -/
theorem exists_add_of_closed (hscreen : s.screen = some sc) (hdialog : sc.dialog = none) (hshown : s.cubit.shown)
    (hitem : s.cubit.items[i]? = some item) :
    ∃ bs, (∀ b ∈ bs, ByUser b) ∧ (Each (step salesInvoice) (Offers listed salesInvoice) s bs →
      listed sc.priceList item ∧ ∀ c ∈ sc.cards i, Fits c item) := by
  have hlt : i < s.cubit.items.length := (List.getElem?_eq_some_iff.mp hitem).1
  cases hc : sc.cards i with
  | none =>
    refine ⟨[.mount i, .typeQty i "1", .add i], by simp [ByUser], fun h => ⟨?_, fun c hmem => by cases hmem⟩⟩
    have ht : step salesInvoice s (.mount i) = some (s.setCard sc i {}) := by simp [step, hscreen, hshown, hlt, hc]
    have hput : ({ sc with cards := sc.cards.put i {} } : ItemListScreen).cards i = some {} := Slots.put_self
    exact (fits_of_typed (s := s.setCard sc i {}) rfl hdialog hput hitem
      (h _ ht).2).1
  | some c =>
    refine ⟨[.typeQty i "1", .add i], by simp [ByUser], fun h => ?_⟩
    obtain ⟨hlisted, hfits⟩ := fits_of_typed hscreen hdialog hc hitem h
    refine ⟨hlisted, fun c' hc' => ?_⟩
    cases hc'
    exact hfits

variable (listed salesInvoice) in
theorem exists_add (hscreen : s.screen = some sc) (hshown : s.cubit.shown) (hitem : s.cubit.items[i]? = some item) :
    ∃ bs, (∀ b ∈ bs, ByUser b) ∧ (Each (step salesInvoice) (Offers listed salesInvoice) s bs →
      listed sc.priceList item ∧ ∀ c ∈ sc.cards i, Fits c item) := by
  cases hdialog : sc.dialog with
  | none => exact exists_add_of_closed listed salesInvoice hscreen hdialog hshown hitem
  | some d =>
    -- the dialog is closed first
    have ht : step salesInvoice s .closeUoms = some { s with screen := some { sc with dialog := none } } := by
      simp [step, hscreen, hdialog]
    obtain ⟨bs, huser, hbs⟩ := exists_add_of_closed listed salesInvoice
      (s := { s with screen := some { sc with dialog := none } }) rfl rfl hshown hitem
    refine ⟨.closeUoms :: bs, ?_, fun h => hbs (h _ ht).2⟩
    exact List.forall_mem_cons.mpr ⟨by simp [ByUser], huser⟩

/-- A tap picks the unit of the item whatever is read there. -/
theorem reads_of_taps {d : UomDialog} (hscreen : s.screen = some sc) (hd : sc.dialog = some d) (hi : d.card = some i)
    (hc : sc.cards i = some c) (hitem : s.cubit.items[i]? = some item)
    (h : ∀ k, Each (step salesInvoice) (Offers listed salesInvoice) s [.tapUom k]) : Reads d.uoms item := by
  intro k u hu text htext
  have hindex : k < d.uoms.length := (List.getElem?_eq_some_iff.mp htext).1
  have htap : s.tapUom sc d k = s.setCard { sc with dialog := none } i (c.setUom item u).build := by
    simp only [tapUom, hi, hc, hitem, Option.mem_def.mp hu]
  have ht : step salesInvoice s (.tapUom k) = some (s.setCard { sc with dialog := none } i (c.setUom item u).build) := by
    simp [step, hscreen, hd, hindex, htap]
  rcases (h k _ ht).1.taps k rfl with hsame | ⟨sc₀, hsc₀, d', hd', i', hi', sc', hsc', c', hc', huom⟩
  · have hdialog := congrArg (fun s => s.screen.bind (·.dialog)) hsame
    simp [setCard, hscreen, hd] at hdialog
  · cases hscreen.symm.trans hsc₀
    cases hd.symm.trans hd'
    cases hi.symm.trans hi'
    cases hsc'
    cases Slots.put_self.symm.trans hc'
    rw [htext] at huom
    exact (Option.some.inj huom).symm

/-- While nothing that the user can do goes wrong, the screen that has been built anew goes on over its items. -/
theorem goesOn_of_offers (hscreen : s.screen = some (sc.build s.cubit)) (hshown : s.cubit.shown)
    (hcard : ∀ d ∈ sc.dialog, ∀ i ∈ d.card, (sc.cards i).isSome)
    (h : ∀ bs, (∀ b ∈ bs, ByUser b) → Each (step salesInvoice) (Offers listed salesInvoice) s bs) :
    (∀ item ∈ s.cubit.items, listed sc.priceList item) ∧ GoesOn sc s.cubit.items := by
  have hadds : ∀ i, ∀ item ∈ s.cubit.items[i]?,
      listed sc.priceList item ∧ ∀ c ∈ (sc.build s.cubit).cards i, Fits c item := by
    intro i item hitem
    obtain ⟨bs, huser, hbs⟩ := exists_add listed salesInvoice hscreen hshown hitem
    exact hbs (h bs huser)
  refine ⟨fun item hitem => ?_, fun i c hc item hitem => ?_, fun d hd i hi item hitem => ?_⟩
  · obtain ⟨i, hi⟩ := List.getElem?_of_mem hitem
    exact (hadds i item hi).1
  · exact (hadds i item hitem).2 c.build (mem_cards_build hc (lt_itemCount hshown hitem))
  · obtain ⟨c, hc⟩ := Option.isSome_iff_exists.mp (hcard d hd i hi)
    have hlt := lt_itemCount hshown hitem
    have hbuilt : (sc.build s.cubit).dialog =
        some ⟨d.card.filter fun j => decide (j < ItemListScreen.itemCount s.cubit), d.uoms⟩ := Option.map_eq_some_iff.mpr ⟨d, hd, rfl⟩
    have hreads := reads_of_taps hscreen hbuilt (mem_card_build.mpr ⟨hi, hlt⟩) (mem_cards_build hc hlt) hitem
      fun k => h [.tapUom k] (by simp [ByUser])
    exact hreads

/-- After an answer that does not fit, the user can go on with what goes wrong. -/
theorem closing_of_not_guard (h : Sound listed s) (ht : step salesInvoice s e = some t) (hg : ¬ Guard listed s e) :
    ∃ bs, (∀ b ∈ bs, ByUser b) ∧ ¬ Each (step salesInvoice) (Offers listed salesInvoice) s (e :: bs) := by
  cases e with
  | reply index message =>
    by_contra hnone
    push Not at hnone
    refine hg fun sc hsc x hx rows hrows => ?_
    obtain ⟨hshown, hitems⟩ := cubit_reply s.cubit x rows
    rw [← hrows] at hshown hitems
    obtain ⟨x', hx', rfl⟩ := Option.map_eq_some_iff.mp ht
    cases hx.symm.trans hx'
    obtain ⟨hlisted, hgoesOn⟩ := goesOn_of_offers (Option.map_eq_some_iff.mpr ⟨sc, hsc, rfl⟩) hshown (h sc hsc).card
      fun bs huser => (hnone bs huser _ ht).2
    dsimp only [ItemPicker.build] at hlisted hgoesOn
    rw [hitems] at hlisted hgoesOn
    cases hreplaces : x.replaces with
    | true =>
      rw [hreplaces, if_pos rfl] at hlisted hgoesOn
      exact ⟨hlisted, fun _ => hgoesOn⟩
    | false =>
      rw [hreplaces, if_neg (by simp)] at hlisted
      exact ⟨fun item hitem => hlisted item (List.mem_append_right _ hitem), fun heq => by cases heq⟩
  | _ => exact absurd trivial hg

/-- However a run of item list screens, over whatever the cubit, its requests and the searches of left screens are at its
    beginning, is left for the user to go on without answers: every row that is added is an item of the screen's price list in
    one of its units at the rate of that unit, in the quantity of its card, and every tap picks the unit that is read, if and
    only if every answer that comes fits the open screen. -/
theorem offers_iff (listed : String → NewItemModel → Prop) (salesInvoice : Bool) (cubit : ItemsCubit NewItemModel)
    (pending : List ItemsRequest) (left : List (String × String)) (rows : List (ItemRow Num)) (es : List ItemPickerEvent) :
    (∀ p, p <+: es → ∀ bs, (∀ b ∈ bs, ByUser b) →
      Each (step salesInvoice) (Offers listed salesInvoice) ⟨cubit, pending, none, left, rows⟩ (p ++ bs)) ↔
      Guarded (step salesInvoice) (Guard listed) ⟨cubit, pending, none, left, rows⟩ es := by
  refine each_closed_iff_guarded (I := Sound listed) (fun _ _ _ h ht hg => sound_step h ht hg)
    (fun _ _ _ h ht _ => offers_step h ht) (fun s e huser => ?_) (fun _ _ _ h ht hg => closing_of_not_guard h ht hg)
    fun _ hsc => by cases hsc
  cases e with
  | reply index message => exact absurd rfl (huser index message)
  | _ => trivial

end NextApp.ItemPicker
