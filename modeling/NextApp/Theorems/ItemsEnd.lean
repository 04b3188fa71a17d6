import NextApp.Lib.Paging
import NextApp.Model.ItemsCubit

/-! # The end of the item list

`ItemsCubit` looks for the end in the length of all items, and only where it appends rows; `NewItemBloc` in the page
that it has just received. Both are sent to the end of one list again and again, each call answered before the next. -/

namespace NextApp.ItemsEnd
open Paging
variable {α : Type*} {price : String} {p : Nat} {list : List α}

/-- The cubit and the bloc of an item list, and the rows of the last answer to the cubit. -/
structure Scrolled (α : Type*) where
  cubit : ItemsCubit α
  bloc : NewItemState α
  last : List α

/-- The server's page from a start, which counts from 1. -/
def page (p : Nat) (list : List α) (start : Nat) : List α := slice list (start - 1) p

/-- A call of the cubit with its answer. -/
def callCubit (price : String) (p : Nat) (list : List α) (c : ItemListCall) (s : ItemsCubit α) (last : List α) :
    ItemsCubit α × List α :=
  match c.start price s with
  | (t, none) => (t, last)
  | (t, some x) => (t.endGetItems p x (some (page p list (x.start.getD 1))), page p list (x.start.getD 1))

/-- A `GetItemEvent` of the bloc with its answer. -/
def getItems (price : String) (p : Nat) (list : List α) (b : NewItemState α) : NewItemState α :=
  match b.startGetItemData { priceList := some price, startKey := b.getItemData.length + 1 } with
  | none => b
  | some (filter, replaces) => b.endGetItemData p replaces (.right (page p list filter.startKey))

/-- The initial load, from whatever the two controllers hold. -/
def load (price : String) (p : Nat) (list : List α) (s : ItemsCubit α) (b : NewItemState α) : Scrolled α :=
  let (cubit, last) := callCubit price p list .loadData s []
  ⟨cubit, getItems price p list b.resetItemDate, last⟩

/-- The end of the list is reached. -/
def scroll (price : String) (p : Nat) (list : List α) (t : Scrolled α) : Scrolled α :=
  let (cubit, last) := callCubit price p list .scrollEnd t.cubit t.last
  ⟨cubit, getItems price p list t.bloc, last⟩

/-- The list is at its end where the last page was short, as the bloc has it, and more rows are asked for elsewhere. -/
structure EndsAsBloc (price : String) (p : Nat) (t : Scrolled α) : Prop where
  short : t.cubit.hasReachedMax = decide (t.last.length < p)
  bloc : t.cubit.hasReachedMax = t.bloc.hasReachedMax
  request : (ItemListCall.scrollEnd.start price t.cubit).2.isSome ↔ p ≤ t.last.length

/-! ### One scroll -/

theorem callCubit_scrollEnd (items last : List α) :
    callCubit price p list .scrollEnd ⟨.getAllItemsSuccessfully, items, false⟩ last =
      (⟨.getAllItemsSuccessfully, items ++ page p list (items.length + 1),
        decide ((items ++ page p list (items.length + 1)).length < p)⟩, page p list (items.length + 1)) := by
  simp [callCubit, ItemListCall.start, ItemsCubit.startGetAllItems, ItemListCall.itemFilter, ItemsCubit.endGetItems]

theorem getItems_success {b : NewItemState α} (hstate : b.getItemsState = .success) (hmax : b.hasReachedMax = false) :
    getItems price p list b = { b with
      getItemData := b.getItemData ++ page p list (b.getItemData.length + 1)
      hasReachedMax := decide ((page p list (b.getItemData.length + 1)).length < p) } := by
  obtain ⟨state, message, data, max⟩ := b
  cases hstate
  cases hmax
  rfl

theorem request_isSome (s : ItemsCubit α) : (ItemListCall.scrollEnd.start price s).2.isSome ↔ s.hasReachedMax = false := by
  cases hmax : s.hasReachedMax with
  | true => simp [ItemListCall.start, ItemsCubit.startGetAllItems, hmax]
  | false =>
    simp only [ItemListCall.start, ItemsCubit.startGetAllItems, hmax, Bool.false_eq_true, if_false, iff_true]
    split <;> rfl

/-! ### Full pages -/

/-- After `k` scrolls over full pages, the last of which need not be full. -/
structure Full (p : Nat) (list : List α) (k : Nat) (t : Scrolled α) : Prop where
  cubit : t.cubit = ⟨.getAllItemsSuccessfully, list.take ((k + 1) * p), false⟩
  last : t.last = slice list (k * p) p
  getItemsState : t.bloc.getItemsState = .success
  getItemData : t.bloc.getItemData = list.take ((k + 1) * p)
  hasReachedMax : t.bloc.hasReachedMax = decide (t.last.length < p)

theorem short_iff {k : Nat} (h : k * p ≤ list.length) :
    (slice list (k * p) p).length < p ↔ list.length < (k + 1) * p := by
  rw [length_slice, Nat.succ_mul]
  omega

theorem full_load (s : ItemsCubit α) (b : NewItemState α) : Full p list 0 (load price p list s b) := by
  have hone : (0 + 1) * p = p := by omega
  have hzero : 0 * p = 0 := Nat.zero_mul p
  constructor
  · rw [hone]
    rfl
  · rw [hzero]
    rfl
  · rfl
  · rw [hone]
    rfl
  · rfl

theorem full_scroll {k : Nat} {t : Scrolled α} (h : Full p list k t) (hk : (k + 1) * p ≤ list.length) :
    Full p list (k + 1) (scroll price p list t) := by
  have hpage : page p list ((list.take ((k + 1) * p)).length + 1) = slice list ((k + 1) * p) p := by
    rw [page, Nat.add_sub_cancel, List.length_take_of_le hk]
  have hrows : list.take ((k + 1) * p) ++ slice list ((k + 1) * p) p = list.take ((k + 1 + 1) * p) := by
    rw [take_append_slice, ← Nat.succ_mul]
  -- the length of all items is at least that of the first page
  have hlong : ¬ (list.take ((k + 1 + 1) * p)).length < p := by
    rw [← hrows, List.length_append, List.length_take_of_le hk, Nat.succ_mul]
    omega
  have hprev : t.bloc.hasReachedMax = false := by
    rw [h.hasReachedMax, h.last, decide_eq_false_iff_not,
      short_iff (Nat.le_trans (Nat.mul_le_mul_right p (Nat.le_succ k)) hk)]
    omega
  have hcubit : callCubit price p list .scrollEnd t.cubit t.last =
      (⟨.getAllItemsSuccessfully, list.take ((k + 1 + 1) * p), false⟩, slice list ((k + 1) * p) p) := by
    rw [h.cubit, callCubit_scrollEnd, hpage, hrows, decide_eq_false hlong]
  have hbloc : getItems price p list t.bloc = _ := getItems_success h.getItemsState hprev
  rw [h.getItemData, hpage, hrows] at hbloc
  constructor
  · rw [scroll, hcubit]
  · rw [scroll, hcubit]
  · rw [scroll, hbloc]
    exact h.getItemsState
  · rw [scroll, hbloc]
  · rw [scroll, hbloc, hcubit]

theorem full_iterate (s : ItemsCubit α) (b : NewItemState α) {k : Nat} (h : k * p ≤ list.length) :
    Full p list k ((scroll price p list)^[k] (load price p list s b)) := by
  induction k with
  | zero => exact full_load s b
  | succ k ih =>
    rw [Function.iterate_succ_apply']
    exact full_scroll (ih (Nat.le_trans (Nat.mul_le_mul_right p (Nat.le_succ k)) h)) h

theorem endsAsBloc_iff {k : Nat} {t : Scrolled α} (h : Full p list k t) (hk : k * p ≤ list.length) :
    EndsAsBloc price p t ↔ (k + 1) * p ≤ list.length := by
  have hmax : t.cubit.hasReachedMax = false := by rw [h.cubit]
  have hshort : t.last.length < p ↔ list.length < (k + 1) * p := by rw [h.last, short_iff hk]
  constructor
  · intro hends
    have hfull := decide_eq_false_iff_not.mp (hends.short.symm.trans hmax)
    rw [hshort] at hfull
    omega
  · intro hfull
    have hlast : ¬ t.last.length < p := by
      rw [hshort]
      omega
    constructor
    · rw [hmax, decide_eq_false hlast]
    · rw [hmax, h.hasReachedMax, decide_eq_false hlast]
    · rw [request_isSome]
      exact ⟨fun _ => Nat.le_of_not_lt hlast, fun _ => hmax⟩

/-- After the initial load and each of `n` scrolls the cubit ends where the last page is short, as the bloc does,
    exactly when no page has been short. -/
theorem endsAsBloc_run_iff (price : String) (p : Nat) (list : List α) (s : ItemsCubit α) (b : NewItemState α) (n : Nat) :
    (∀ k ≤ n, EndsAsBloc price p ((scroll price p list)^[k] (load price p list s b))) ↔ (n + 1) * p ≤ list.length := by
  induction n with
  | zero =>
    have hzero : 0 * p ≤ list.length := by omega
    have hload : EndsAsBloc price p (load price p list s b) ↔ (0 + 1) * p ≤ list.length :=
      endsAsBloc_iff (full_iterate s b hzero) hzero
    rw [← hload]
    exact ⟨fun h => h 0 (Nat.le_refl 0), fun h k hk => by rwa [Nat.le_zero.mp hk]⟩
  | succ n ih =>
    constructor
    · intro h
      have hn : (n + 1) * p ≤ list.length := ih.mp fun k hk => h k (Nat.le_succ_of_le hk)
      exact (endsAsBloc_iff (full_iterate s b hn) hn).mp (h (n + 1) (Nat.le_refl _))
    · intro h k hk
      have hk' : (k + 1) * p ≤ list.length := Nat.le_trans (Nat.mul_le_mul_right p (Nat.succ_le_succ hk)) h
      have hprev : k * p ≤ list.length := Nat.le_trans (Nat.mul_le_mul_right p (Nat.le_succ k)) hk'
      exact (endsAsBloc_iff (full_iterate s b hprev) hprev).mpr hk'

/-- The second page of 25 items is short, and the cubit asks for a third. -/
theorem third_page_of_two :
    ¬ ∀ k ≤ 1, EndsAsBloc "Standard" pageLength
      ((scroll "Standard" pageLength (List.range 25))^[k] (load "Standard" pageLength (List.range 25) {} {})) := by
  intro h
  exact absurd (h 1 (Nat.le_refl 1)).short (by decide)

end NextApp.ItemsEnd
