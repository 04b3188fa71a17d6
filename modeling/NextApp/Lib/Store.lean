import Mathlib.Data.List.Nodup
import Mathlib.Data.List.TakeWhile
import Mathlib.Logic.Function.Basic
import NextApp.Lib.Dict
import NextApp.Lib.Outcome

/-! # Rows and lists held by reference

A store of rows and of lists of references to rows. Two maps that hold the same reference see each other's writes, and
reading a map follows its references. -/

/-- The rows and lists below `nextRow` and `nextList` are in use. -/
structure Store (ρ : Type*) where
  rows : Nat → ρ
  lists : Nat → List Nat
  nextRow : Nat
  nextList : Nat

namespace Store
variable {ρ κ : Type*}

def setRow (st : Store ρ) (r : Nat) (v : ρ) : Store ρ := { st with rows := Function.update st.rows r v }

def setList (st : Store ρ) (l : Nat) (rs : List Nat) : Store ρ := { st with lists := Function.update st.lists l rs }

def newRow (st : Store ρ) (v : ρ) : Store ρ := { st.setRow st.nextRow v with nextRow := st.nextRow + 1 }

def newList (st : Store ρ) (rs : List Nat) : Store ρ := { st.setList st.nextList rs with nextList := st.nextList + 1 }

def newRows (st : Store ρ) : List ρ → Store ρ × List Nat
  | [] => (st, [])
  | v :: vs =>
    let rest := newRows (st.newRow v) vs
    (rest.1, st.nextRow :: rest.2)

/-- New lists of new rows under the keys of a map. -/
def load (st : Store ρ) : Dict κ (List ρ) → Store ρ × Dict κ Nat
  | [] => (st, [])
  | e :: d =>
    let rows := st.newRows e.2
    let rest := load (rows.1.newList rows.2) d
    (rest.1, (e.1, rows.1.nextList) :: rest.2)

/-- What a map of references to lists holds, all references followed. -/
def read (st : Store ρ) (d : Dict κ Nat) : Dict κ (List ρ) := d.map fun e => (e.1, (st.lists e.2).map st.rows)

/-- What it holds as `f` sees each row. -/
def view {α : Type*} (f : ρ → α) (st : Store ρ) (d : Dict κ Nat) : Dict κ (List α) :=
  d.map fun e => (e.1, (st.lists e.2).map fun r => f (st.rows r))

def HoldsList (d : Dict κ Nat) (l : Nat) : Prop := ∃ e ∈ d, e.2 = l

def Holds (st : Store ρ) (d : Dict κ Nat) (r : Nat) : Prop := ∃ e ∈ d, r ∈ st.lists e.2

/-- All that the map reaches is in use. -/
structure Below (st : Store ρ) (d : Dict κ Nat) : Prop where
  rows : ∀ r, st.Holds d r → r < st.nextRow
  lists : ∀ l, HoldsList d l → l < st.nextList

/-- A loop over rows that writes one after the other. -/
def each (f : ρ → Outcome ρ) (st : Store ρ) : List Nat → Outcome (Store ρ)
  | [] => .done st
  | r :: rs =>
    match f (st.rows r) with
    | .done v => each f (st.setRow r v) rs
    | .threw v => .threw (st.setRow r v)

/-- A loop over the list `l` that adds its rows to the list `into`, with `left` of its `n` rows to go: a list that has
    another length than at the start of the loop throws. -/
def appendFrom (st : Store ρ) (l into n : Nat) : Nat → Outcome (Store ρ)
  | 0 => if (st.lists l).length = n then .done st else .threw st
  | left + 1 =>
    if (st.lists l).length = n then
      .need st (st.lists l)[n - (left + 1)]? fun r => appendFrom (st.setList into (st.lists into ++ [r])) l into n left
    else .threw st

def appendAll (st : Store ρ) (l into : Nat) : Outcome (Store ρ) :=
  st.appendFrom l into (st.lists l).length (st.lists l).length

variable {st st' : Store ρ} {d : Dict κ Nat} {r l : Nat} {v : ρ} {rs : List Nat}

@[simp] theorem rows_setRow_self : (st.setRow r v).rows r = v := Function.update_self ..

@[simp] theorem rows_setRow_ne {r' : Nat} (h : r' ≠ r) : (st.setRow r v).rows r' = st.rows r' := Function.update_of_ne h ..

@[simp] theorem lists_setRow : (st.setRow r v).lists = st.lists := rfl

@[simp] theorem rows_setList : (st.setList l rs).rows = st.rows := rfl

@[simp] theorem lists_setList_self : (st.setList l rs).lists l = rs := Function.update_self ..

@[simp] theorem lists_setList_ne {l' : Nat} (h : l' ≠ l) : (st.setList l rs).lists l' = st.lists l' :=
  Function.update_of_ne h ..

theorem mem_setList {r' : Nat} : r' ∈ (st.setList l rs).lists l ↔ r' ∈ rs := by rw [lists_setList_self]

@[simp] theorem setRow_newRow {w : ρ} : (st.newRow v).setRow st.nextRow w = st.newRow w := by
  simp [newRow, setRow]

/-! ### Reads after writes -/

section View
variable {α : Type*} {f : ρ → α}

theorem view_eq_iff : st'.view f d = st.view f d ↔
    ∀ l, HoldsList d l → (st'.lists l).map (fun r => f (st'.rows r)) = (st.lists l).map fun r => f (st.rows r) := by
  unfold view
  rw [List.map_inj_left]
  constructor
  · rintro h l ⟨e, he, rfl⟩
    exact congrArg Prod.snd (h e he)
  · intro h e he
    rw [h e.2 ⟨e, he, rfl⟩]

theorem view_eq_mapValues : st.view f d = (st.read d).mapValues (List.map f) := by
  unfold view read Dict.mapValues
  rw [List.map_map]
  exact List.map_congr_left fun e _ => by simp

/-- While its lists stay the same it does exactly when the rows it reaches look the same. -/
theorem view_eq_iff_rows (hl : ∀ l, HoldsList d l → st'.lists l = st.lists l) :
    st'.view f d = st.view f d ↔ ∀ r, st.Holds d r → f (st'.rows r) = f (st.rows r) := by
  rw [view_eq_iff]
  constructor
  · rintro h r ⟨e, he, hr⟩
    have hlist := h e.2 ⟨e, he, rfl⟩
    rw [hl e.2 ⟨e, he, rfl⟩, List.map_inj_left] at hlist
    exact hlist r hr
  · rintro h l ⟨e, he, rfl⟩
    rw [hl e.2 ⟨e, he, rfl⟩]
    exact List.map_congr_left fun r hr => h r ⟨e, he, hr⟩

theorem view_setRow : (st.setRow r v).view f d = st.view f d ↔ (st.Holds d r → f v = f (st.rows r)) := by
  have hlists : ∀ l, HoldsList d l → (st.setRow r v).lists l = st.lists l := fun _ _ => rfl
  rw [view_eq_iff_rows hlists]
  refine ⟨fun h hr => by simpa using h r hr, fun h r' hr' => ?_⟩
  by_cases hrr : r' = r
  · subst hrr
    simpa using h hr'
  · rw [rows_setRow_ne hrr]

theorem view_setList : (st.setList l rs).view f d = st.view f d ↔
    (HoldsList d l → (rs.map fun r => f (st.rows r)) = (st.lists l).map fun r => f (st.rows r)) := by
  rw [view_eq_iff]
  refine ⟨fun h hl => by simpa using h l hl, fun h l' hl' => ?_⟩
  by_cases hll : l' = l
  · subst hll
    simpa using h hl'
  · simp [hll]

end View

/-! ### What stays in use -/

theorem Below.of_lists (h : st.Below d) (hl : st'.lists = st.lists) (hr : st.nextRow ≤ st'.nextRow)
    (hn : st.nextList ≤ st'.nextList) : st'.Below d where
  rows r hd := Nat.lt_of_lt_of_le (h.rows r (by simpa only [Holds, hl] using hd)) hr
  lists l hd := Nat.lt_of_lt_of_le (h.lists l hd) hn

theorem Below.setList (h : st.Below d) (hrs : HoldsList d l → ∀ r ∈ rs, r < st.nextRow) : (st.setList l rs).Below d where
  rows := by
    rintro r ⟨e, he, hr⟩
    by_cases hel : e.2 = l
    · subst hel
      exact hrs ⟨e, he, rfl⟩ r (by simpa using hr)
    · exact h.rows r ⟨e, he, by simpa [hel] using hr⟩
  lists := h.lists

/-! ### Loops -/

section Each
variable {f : ρ → Outcome ρ} {good : ρ → Bool} {g : ρ → ρ}

@[simp] theorem lists_each : (st.each f rs).state.lists = st.lists := by
  induction rs generalizing st with
  | nil => rfl
  | cons r rs ih =>
    unfold each
    split
    · exact ih
    · rfl

@[simp] theorem nextRow_each : (st.each f rs).state.nextRow = st.nextRow := by
  induction rs generalizing st with
  | nil => rfl
  | cons r rs ih =>
    unfold each
    split
    · exact ih
    · rfl

@[simp] theorem nextList_each : (st.each f rs).state.nextList = st.nextList := by
  induction rs generalizing st with
  | nil => rfl
  | cons r rs ih =>
    unfold each
    split
    · exact ih
    · rfl

/-- The rows that a loop is done with when it throws at the first row that is no good. -/
def passed (good : ρ → Bool) (st : Store ρ) (rs : List Nat) : List Nat := rs.takeWhile fun r => good (st.rows r)

theorem passed_setRow (h : r ∉ rs) : (st.setRow r v).passed good rs = st.passed good rs := by
  induction rs with
  | nil => rfl
  | cons r' rs ih =>
    obtain ⟨hne, hrs⟩ := List.ne_and_not_mem_of_not_mem_cons h
    unfold passed at ih ⊢
    rw [List.takeWhile_cons, List.takeWhile_cons, rows_setRow_ne (Ne.symm hne), ih hrs]

theorem good_of_mem_passed (h : r ∈ st.passed good rs) : good (st.rows r) = true :=
  List.mem_takeWhile_imp (p := fun r => good (st.rows r)) h

theorem mem_of_mem_passed (h : r ∈ st.passed good rs) : r ∈ rs := List.takeWhile_subset _ h

/-- A loop leaves the rows that it is done with as their new values, and all others as they are. -/
theorem rows_each (hf : ∀ v, f v = if good v then .done (g v) else .threw v) (hrs : rs.Nodup) :
    (st.each f rs).state.rows r = if r ∈ st.passed good rs then g (st.rows r) else st.rows r := by
  induction rs generalizing st with
  | nil => rfl
  | cons r' rs ih =>
    obtain ⟨hr', hrs⟩ := List.nodup_cons.mp hrs
    by_cases hgood : good (st.rows r') = true
    · have hstep : st.each f (r' :: rs) = (st.setRow r' (g (st.rows r'))).each f rs := by simp [each, hf, hgood]
      have hpassed : st.passed good (r' :: rs) = r' :: st.passed good rs := by simp [passed, hgood]
      rw [hstep, hpassed, ih hrs, passed_setRow hr']
      by_cases hrr : r = r'
      · subst hrr
        have hnot : r ∉ st.passed good rs := fun h => hr' (mem_of_mem_passed h)
        simp [hnot]
      · simp [hrr]
    · have hstep : st.each f (r' :: rs) = .threw (st.setRow r' (st.rows r')) := by simp [each, hf, hgood]
      have hpassed : st.passed good (r' :: rs) = [] := by simp [passed, hgood]
      rw [hstep, hpassed]
      by_cases hrr : r = r'
      · subst hrr
        simp
      · simp [hrr]

theorem each_eq_done_iff (hf : ∀ v, f v = if good v then .done (g v) else .threw v) (hrs : rs.Nodup) :
    st.each f rs = .done (st.each f rs).state ↔ ∀ r ∈ rs, good (st.rows r) = true := by
  induction rs generalizing st with
  | nil => exact ⟨fun _ _ h => absurd h List.not_mem_nil, fun _ => rfl⟩
  | cons r' rs ih =>
    obtain ⟨hr', hrs⟩ := List.nodup_cons.mp hrs
    by_cases hgood : good (st.rows r') = true
    · have hstep : st.each f (r' :: rs) = (st.setRow r' (g (st.rows r'))).each f rs := by simp [each, hf, hgood]
      rw [hstep, ih hrs, List.forall_mem_cons, and_iff_right hgood]
      refine forall₂_congr fun r hr => ?_
      rw [rows_setRow_ne (ne_of_mem_of_not_mem hr hr')]
    · simp [each, hf, hgood]

/-- A loop that never throws is done with every row. -/
theorem rows_each_done (hf : ∀ v, f v = .done (g v)) (hrs : rs.Nodup) :
    (st.each f rs).state.rows r = if r ∈ rs then g (st.rows r) else st.rows r := by
  have hall : st.passed (fun _ => true) rs = rs := List.takeWhile_eq_self_iff.mpr fun _ _ => rfl
  have hgood : ∀ v, f v = if (fun _ : ρ => true) v then .done (g v) else .threw v := fun v => hf v
  rw [rows_each hgood hrs, hall]

theorem each_of_done_self (hf : ∀ v, f v = .done v) : st.each f rs = .done st := by
  induction rs with
  | nil => rfl
  | cons r rs ih =>
    have hsame : st.setRow r (st.rows r) = st := by rw [setRow, Function.update_eq_self]
    rw [each, hf]
    exact (congrArg (fun st => each f st rs) hsame).trans ih

end Each

/-! ### Loops that add to a list -/

theorem appendFrom_ne {into n left : Nat} (h : l ≠ into) (hn : (st.lists l).length = n) (hleft : left ≤ n) :
    st.appendFrom l into n left = .done (st.setList into (st.lists into ++ (st.lists l).drop (n - left))) := by
  induction left generalizing st with
  | zero =>
    have hnil : (st.lists l).drop n = [] := List.drop_eq_nil_of_le (Nat.le_of_eq hn)
    rw [appendFrom, if_pos hn, Nat.sub_zero, hnil, List.append_nil, setList, Function.update_eq_self]
  | succ left ih =>
    have hlt : n - (left + 1) < (st.lists l).length := by omega
    have hlist : (st.setList into (st.lists into ++ [(st.lists l)[n - (left + 1)]])).lists l = st.lists l :=
      lists_setList_ne h
    have hdrop : (st.lists l).drop (n - (left + 1)) = (st.lists l)[n - (left + 1)] :: (st.lists l).drop (n - left) := by
      rw [List.drop_eq_getElem_cons hlt]
      congr 2
      omega
    rw [appendFrom, if_pos hn, List.getElem?_eq_getElem hlt, Outcome.need_some,
      ih ((congrArg List.length hlist).trans hn) (Nat.le_of_succ_le hleft), hlist, hdrop, lists_setList_self,
      List.append_assoc]
    simp [setList]

theorem appendAll_ne {into : Nat} (h : l ≠ into) :
    st.appendAll l into = .done (st.setList into (st.lists into ++ st.lists l)) := by
  rw [appendAll, appendFrom_ne h rfl (Nat.le_refl _), Nat.sub_self, List.drop_zero]

/-- A list that is added to itself: the loop throws once the first row is added. -/
theorem appendAll_self : st.appendAll l l =
    match st.lists l with
    | [] => .done st
    | r :: rs => .threw (st.setList l (r :: rs ++ [r])) := by
  rw [appendAll]
  cases hlist : st.lists l with
  | nil => simp [appendFrom, hlist]
  | cons r rs =>
    have hne : (rs ++ [r]).length + 1 ≠ rs.length + 1 := by simp
    cases rs <;> simp [appendFrom, hlist]

/-- However the loop ends, it has only added rows of `l`. -/
theorem appendAll_adds (st : Store ρ) (l into : Nat) :
    ∃ rs, (∀ r ∈ rs, r ∈ st.lists l) ∧ (st.appendAll l into).state = st.setList into (st.lists into ++ rs) := by
  by_cases h : l = into
  · subst h
    rw [appendAll_self]
    cases hlist : st.lists l with
    | nil =>
      have hsame : st.setList l [] = st := by rw [← hlist, setList, Function.update_eq_self]
      exact ⟨[], fun r hr => hr, hsame.symm⟩
    | cons r rs => exact ⟨[r], fun r' hr' => List.mem_singleton.mp hr' ▸ List.mem_cons_self, rfl⟩
  · exact ⟨st.lists l, fun _ hr => hr, by rw [appendAll_ne h]; rfl⟩

/-! ### Allocation -/

/-- What is in use stays as it is. -/
structure Extends (st st' : Store ρ) : Prop where
  nextRow : st.nextRow ≤ st'.nextRow
  nextList : st.nextList ≤ st'.nextList
  rows : ∀ r < st.nextRow, st'.rows r = st.rows r
  lists : ∀ l < st.nextList, st'.lists l = st.lists l

theorem Extends.refl (st : Store ρ) : st.Extends st := ⟨Nat.le_refl _, Nat.le_refl _, fun _ _ => rfl, fun _ _ => rfl⟩

theorem Extends.trans {st'' : Store ρ} (h : st.Extends st') (h' : st'.Extends st'') : st.Extends st'' where
  nextRow := Nat.le_trans h.nextRow h'.nextRow
  nextList := Nat.le_trans h.nextList h'.nextList
  rows r hr := (h'.rows r (Nat.lt_of_lt_of_le hr h.nextRow)).trans (h.rows r hr)
  lists l hl := (h'.lists l (Nat.lt_of_lt_of_le hl h.nextList)).trans (h.lists l hl)

theorem Extends.mem (h : st.Extends st') (hl : l < st.nextList) : r ∈ st'.lists l ↔ r ∈ st.lists l := by rw [h.lists l hl]

theorem Extends.view {α : Type*} {f : ρ → α} (h : st.Extends st') (hd : st.Below d) : st'.view f d = st.view f d := by
  rw [view_eq_iff_rows fun l hl => h.lists l (hd.lists l hl)]
  exact fun r hr => congrArg f (h.rows r (hd.rows r hr))

theorem Extends.below (h : st.Extends st') (hd : st.Below d) : st'.Below d where
  rows := by
    rintro r ⟨e, he, hr⟩
    rw [h.lists e.2 (hd.lists e.2 ⟨e, he, rfl⟩)] at hr
    exact Nat.lt_of_lt_of_le (hd.rows r ⟨e, he, hr⟩) h.nextRow
  lists l hl := Nat.lt_of_lt_of_le (hd.lists l hl) h.nextList

theorem extends_newRow : st.Extends (st.newRow v) :=
  ⟨Nat.le_succ _, Nat.le_refl _, fun _ hr => rows_setRow_ne (Nat.ne_of_lt hr), fun _ _ => rfl⟩

theorem inUse_append_newRow (h : ∀ r ∈ rs, r < st.nextRow) : ∀ r ∈ rs ++ [st.nextRow], r < (st.newRow v).nextRow := by
  intro r hr
  rcases List.mem_append.mp hr with hr | hr
  · exact Nat.lt_succ_of_lt (h r hr)
  · rw [List.mem_singleton.mp hr]
    exact Nat.lt_succ_self _

theorem extends_newList : st.Extends (st.newList rs) :=
  ⟨Nat.le_refl _, Nat.le_succ _, fun _ _ => rfl, fun _ hl => lists_setList_ne (Nat.ne_of_lt hl)⟩

theorem extends_newRows (vs : List ρ) : st.Extends (st.newRows vs).1 := by
  induction vs generalizing st with
  | nil => exact .refl st
  | cons v vs ih => exact extends_newRow.trans ih

theorem newRows_refs (vs : List ρ) : (st.newRows vs).2 = List.range' st.nextRow vs.length := by
  induction vs generalizing st with
  | nil => rfl
  | cons v vs ih =>
    rw [newRows, ih]
    rfl

theorem nextRow_newRows (vs : List ρ) : (st.newRows vs).1.nextRow = st.nextRow + vs.length := by
  induction vs generalizing st with
  | nil => rfl
  | cons v vs ih =>
    rw [newRows, ih, List.length_cons]
    simp only [newRow]
    omega

theorem nextList_newRows (vs : List ρ) : (st.newRows vs).1.nextList = st.nextList := by
  induction vs generalizing st with
  | nil => rfl
  | cons v vs ih => exact ih

/-- Loaded lists are numbered from the next one on. -/
theorem refs_load (d : Dict κ (List ρ)) :
    (st.load d).2 = (d.map Prod.fst).zip (List.range' st.nextList d.length) := by
  induction d generalizing st with
  | nil => rfl
  | cons e d ih =>
    have hnext : ((st.newRows e.2).1.newList (st.newRows e.2).2).nextList = st.nextList + 1 :=
      congrArg Nat.succ (nextList_newRows e.2)
    rw [load, List.map_cons, List.length_cons, List.range'_succ, List.zip_cons_cons]
    refine congrArg₂ List.cons (Prod.ext rfl (nextList_newRows e.2)) ?_
    rw [ih, hnext]

theorem map_rows_newRows (vs : List ρ) : (st.newRows vs).2.map (st.newRows vs).1.rows = vs := by
  induction vs generalizing st with
  | nil => rfl
  | cons v vs ih =>
    have hhead : (st.newRows (v :: vs)).1.rows st.nextRow = v := by
      rw [newRows, (extends_newRows vs).rows _ (Nat.lt_succ_self _)]
      exact rows_setRow_self
    rw [newRows, List.map_cons]
    exact congrArg₂ List.cons hhead ih

/-- Loaded lists are new, and read as what was loaded. -/
structure Loaded (st : Store ρ) (d : Dict κ (List ρ)) (out : Store ρ × Dict κ Nat) : Prop where
  old : st.Extends out.1
  below : out.1.Below out.2
  distinct : ∀ l, HoldsList out.2 l → (out.1.lists l).Nodup
  reads : out.1.read out.2 = d

theorem loaded (st : Store ρ) (d : Dict κ (List ρ)) : Loaded st d (st.load d) := by
  induction d generalizing st with
  | nil =>
    exact ⟨.refl st, ⟨fun r ⟨e, he, _⟩ => absurd he List.not_mem_nil, fun l ⟨e, he, _⟩ => absurd he List.not_mem_nil⟩,
      fun l ⟨e, he, _⟩ => absurd he List.not_mem_nil, rfl⟩
  | cons e d ih =>
    obtain ⟨k, vs⟩ := e
    -- the state after the first list, from which the others are loaded
    have hrest := ih ((st.newRows vs).1.newList (st.newRows vs).2)
    have hfirst : st.Extends ((st.newRows vs).1.newList (st.newRows vs).2) := (extends_newRows vs).trans extends_newList
    have hlist : ((st.load ((k, vs) :: d)).1.lists (st.newRows vs).1.nextList) = (st.newRows vs).2 :=
      (hrest.old.lists _ (Nat.lt_succ_self _)).trans lists_setList_self
    have hrefs : ∀ r ∈ (st.newRows vs).2, r < (st.newRows vs).1.nextRow := by
      intro r hr
      rw [newRows_refs, List.mem_range'_1] at hr
      rw [nextRow_newRows]
      exact hr.2
    refine ⟨hfirst.trans hrest.old, ⟨?_, ?_⟩, ?_, ?_⟩
    · rintro r ⟨e, he, hr⟩
      rcases List.mem_cons.mp he with rfl | he
      · rw [hlist] at hr
        exact Nat.lt_of_lt_of_le (hrefs r hr) hrest.old.nextRow
      · exact hrest.below.rows r ⟨e, he, hr⟩
    · rintro l ⟨e, he, rfl⟩
      rcases List.mem_cons.mp he with rfl | he
      · exact Nat.lt_of_lt_of_le (Nat.lt_succ_self _) hrest.old.nextList
      · exact hrest.below.lists _ ⟨e, he, rfl⟩
    · rintro l ⟨e, he, rfl⟩
      rcases List.mem_cons.mp he with rfl | he
      · rw [hlist, newRows_refs]
        exact List.nodup_range'
      · exact hrest.distinct _ ⟨e, he, rfl⟩
    · have hrows : (st.newRows vs).2.map (st.load ((k, vs) :: d)).1.rows = vs := by
        refine Eq.trans (List.map_congr_left fun r hr => ?_) (map_rows_newRows vs)
        exact hrest.old.rows r (hrefs r hr)
      have hhead : (k, ((st.load ((k, vs) :: d)).1.lists (st.newRows vs).1.nextList).map (st.load ((k, vs) :: d)).1.rows) =
          (k, vs) := by rw [hlist, hrows]
      exact congrArg₂ List.cons hhead hrest.reads

end Store
