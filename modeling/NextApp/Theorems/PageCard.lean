import Mathlib.Data.Nat.Find
import NextApp.Model.PageCard

/-! # Where a card swaps

A card is its header over a column of titles. A swap counts two places for every row above: with an empty one among them, it
writes somewhere else, or fails. -/

namespace NextApp.PageCard
open Grid
variable {ω : Type} {card : PageCard ω} {s : SwapWidget ω} {grid : List (List (Widget ω))} {i j n : Nat}

def titles (ω : Type) (items : List (Dict String String)) : List (List (Widget ω)) :=
  items.map fun item => item.map fun e => .listTitle e.1 (item.get? e.1) none

/-- The column that shows titles. -/
def shown (grid : List (List (Widget ω))) : List (Widget ω) :=
  column (fun cells => .row (cells.intersperse .container)) .divider grid

/-- A title with a widget in the place of its value. -/
def exchange (widget : ω) : Widget ω → Widget ω
  | .listTitle title _ _ => .listTitle title none (some widget)
  | other => other

/-- The title of the entry that the swap names is exchanged, and no other. -/
def exchanged (grid : List (List (Widget ω))) (s : SwapWidget ω) : List (List (Widget ω)) :=
  modify grid (s.rowNumber - 1).toNat (s.widgetNumber - 1).toNat (exchange s.widget)

/-- The swap names an entry of the card. -/
def Names (items : List (Dict String String)) (s : SwapWidget ω) : Prop :=
  1 ≤ s.rowNumber ∧ 1 ≤ s.widgetNumber ∧ ∃ item, at? items (s.rowNumber - 1) = some item ∧ s.widgetNumber ≤ item.length

/-- No row above that of the swap is empty. -/
def Reaches (items : List (Dict String String)) (s : SwapWidget ω) : Prop :=
  ∀ item ∈ items.take (s.rowNumber - 1).toNat, item ≠ []

/-- The titles stay those of the entries. -/
def Titled (items : List (Dict String String)) (grid : List (List (Widget ω))) : Prop :=
  grid.map (List.map Widget.title?) = items.map (List.map fun e => some e.1)

theorem rowChildren_eq (item : Dict String String) (keys : List String) :
    rowChildren item keys = (keys.map fun key => (.listTitle key (item.get? key) none : Widget ω)).intersperse .container := by
  induction keys with
  | nil => rfl
  | cons key keys ih =>
    cases keys with
    | nil => rfl
    | cons key' keys =>
      rw [rowChildren, ih, if_neg (List.cons_ne_nil key' keys)]
      rfl

theorem titles_cons (item : Dict String String) (items : List (Dict String String)) :
    titles ω (item :: items) = (item.map fun e => .listTitle e.1 (item.get? e.1) none) :: titles ω items := rfl

/-- The loop over the rows makes the column of the titles. -/
theorem rows_eq (items : List (Dict String String)) : rows items = shown (titles ω items) := by
  induction items with
  | nil => rfl
  | cons item items ih =>
    rw [rows, rowChildren_eq, ih, List.map_map, titles_cons]
    simp only [shown, column_cons, ne_eq, titles, List.map_eq_nil_iff]
    rfl

theorem titled_titles (ω : Type) (items : List (Dict String String)) : Titled items (titles ω items) := by
  simp [Titled, titles, Function.comp_def, Widget.title?]

theorem titled_exchanged (h : Titled card.items grid) (s : SwapWidget ω) : Titled card.items (exchanged grid s) := by
  have hkeep : ∀ w : Widget ω, (exchange s.widget w).title? = w.title? := fun w => by cases w <;> rfl
  rw [Titled, exchanged, map_modify hkeep]
  exact h

theorem place_titled {items : List (Dict String String)} (h : Titled items grid) (i : Nat) : place grid i = place items i := by
  rw [← place_map Widget.title? grid, h, place_map]

theorem Names.entry {items : List (Dict String String)} (h : Names items s) :
    ∃ (i j : Nat) (item : Dict String String) (e : String × String), s.rowNumber = i + 1 ∧ s.widgetNumber = j + 1 ∧
      items[i]? = some item ∧ item[j]? = some e := by
  obtain ⟨hrow, hwidget, item, hitem, hlength⟩ := h
  have hi : s.rowNumber - 1 = ((s.rowNumber - 1).toNat : Int) := by omega
  have hj : (s.widgetNumber - 1).toNat < item.length := by omega
  rw [hi, at?_natCast] at hitem
  exact ⟨_, _, item, item[(s.widgetNumber - 1).toNat], by omega, by omega, hitem, List.getElem?_eq_getElem hj⟩

theorem cell_of_entry {items : List (Dict String String)} {item : Dict String String} {e : String × String}
    (h : Titled items grid) (hi : items[i]? = some item) (hj : item[j]? = some e) :
    ∃ cells value child, grid[i]? = some cells ∧ cells[j]? = some (.listTitle e.1 value child) := by
  have hcells : (grid[i]?.map (List.map Widget.title?)) = some (item.map fun e => some e.1) := by
    rw [← List.getElem?_map, h, List.getElem?_map, hi, Option.map_some]
  obtain ⟨cells, hgrid, hcells⟩ := Option.map_eq_some_iff.mp hcells
  have hcell : cells[j]?.map Widget.title? = some (some e.1) := by
    rw [← List.getElem?_map, hcells, List.getElem?_map, hj, Option.map_some]
  obtain ⟨w, hw, htitle⟩ := Option.map_eq_some_iff.mp hcell
  cases w with
  | listTitle title value child =>
    cases htitle
    exact ⟨cells, value, child, hgrid, hw⟩
  | _ => cases htitle

theorem reaches_iff (h : Titled card.items grid) (hi : i < card.items.length) (hrow : s.rowNumber = i + 1) :
    Reaches card.items s ↔ card.position s = (card.header.length + place grid i : Nat) := by
  have hindex : (s.rowNumber - 1).toNat = i := by omega
  rw [Reaches, hindex, ← place_eq_iff (Nat.le_of_lt hi), position, hrow, place_titled h]
  omega

theorem getElem?_shown {cells : List (Widget ω)} (header : List (Widget ω)) (h : grid[i]? = some cells) :
    (header ++ shown grid)[header.length + place grid i]? = some (.row (cells.intersperse .container)) := by
  rw [List.getElem?_append_right (Nat.le_add_right _ _), Nat.add_sub_cancel_left]
  exact getElem?_column h

theorem swap_eq (h : Titled card.items grid) (hname : Names card.items s) (hreach : Reaches card.items s) :
    card.swap (card.header ++ shown grid) s = some (card.header ++ shown (exchanged grid s)) := by
  obtain ⟨i, j, item, e, hrow, hwidget, hi, hj⟩ := hname.entry
  obtain ⟨cells, value, child, hcells, hcell⟩ := cell_of_entry h hi hj
  have hposition := (reaches_iff h (List.getElem?_eq_some_iff.mp hi).1 hrow).mp hreach
  have hindex : s.widgetIndex = (2 * j : Nat) := by
    rw [SwapWidget.widgetIndex, hwidget]
    split <;> omega
  have hplace := getElem?_shown card.header hcells
  have hcolumn : at? (card.header ++ shown grid) (card.position s) = some (.row (cells.intersperse .container)) := by
    rw [hposition, at?_natCast, hplace]
  have hset : setAt? (cells.intersperse .container) s.widgetIndex (.listTitle e.1 none (some s.widget)) =
      some ((cells.set j (.listTitle e.1 none (some s.widget))).intersperse .container) := by
    have hlt := (List.getElem?_eq_some_iff.mp hcell).1
    rw [hindex, setAt?_natCast (by rw [List.length_intersperse]; omega), set_intersperse]
  have hitem : at? card.items (s.rowNumber - 1) = some item := by rw [hrow, Int.add_sub_cancel, at?_natCast, hi]
  have hentry : at? item (s.widgetNumber - 1) = some e := by rw [hwidget, Int.add_sub_cancel, at?_natCast, hj]
  have hexchanged : exchanged grid s = grid.set i (cells.set j (.listTitle e.1 none (some s.widget))) := by
    rw [exchanged, hrow, hwidget, Int.add_sub_cancel, Int.add_sub_cancel, Int.toNat_natCast, Int.toNat_natCast,
      Grid.modify, modify_eq_set hcells, modify_eq_set hcell]
    rfl
  simp only [swap, hcolumn, hitem, hentry, hset, Widget.children?, Option.bind_eq_bind, Option.bind_some]
  rw [hposition, setAt?_natCast (List.getElem?_eq_some_iff.mp hplace).1, List.set_append_right _ _ (Nat.le_add_right _ _),
    Nat.add_sub_cancel_left, hexchanged]
  exact congrArg (fun column => some (card.header ++ column)) (set_column hcells (List.set_eq_nil_iff j _))

theorem getElem?_swap {columnChildren columnChildren' : List (Widget ω)}
    (hs : card.swap columnChildren s = some columnChildren') (hn : (n : Int) ≠ card.position s) :
    columnChildren'[n]? = columnChildren[n]? := by
  simp only [swap, Option.bind_eq_bind, Option.bind_eq_some_iff] at hs
  obtain ⟨_, -, _, -, _, -, _, -, _, -, hset⟩ := hs
  exact getElem?_of_setAt? hset hn

theorem getElem?_swaps {columnChildren columnChildren' : List (Widget ω)} {swaps : List (SwapWidget ω)}
    (hs : swaps.foldlM card.swap columnChildren = some columnChildren') (hn : ∀ s ∈ swaps, (n : Int) ≠ card.position s) :
    columnChildren'[n]? = columnChildren[n]? := by
  induction swaps generalizing columnChildren with
  | nil =>
    cases hs
    rfl
  | cons s swaps ih =>
    obtain ⟨next, hnext, hs⟩ := Option.bind_eq_some_iff.mp hs
    obtain ⟨hfirst, hrest⟩ := List.forall_mem_cons.mp hn
    rw [ih hs hrest, getElem?_swap hnext hfirst]

theorem titled_swaps (h : Titled card.items grid) (swaps : List (SwapWidget ω)) :
    Titled card.items (swaps.foldl exchanged grid) := by
  induction swaps generalizing grid with
  | nil => exact h
  | cons s swaps ih => exact ih (titled_exchanged h s)

theorem swaps_eq {swaps : List (SwapWidget ω)} (h : Titled card.items grid) (hname : ∀ s ∈ swaps, Names card.items s)
    (hreach : ∀ s ∈ swaps, Reaches card.items s) :
    swaps.foldlM card.swap (card.header ++ shown grid) = some (card.header ++ shown (swaps.foldl exchanged grid)) := by
  induction swaps generalizing grid with
  | nil => rfl
  | cons s swaps ih =>
    obtain ⟨hnameFirst, hnameRest⟩ := List.forall_mem_cons.mp hname
    obtain ⟨hreachFirst, hreachRest⟩ := List.forall_mem_cons.mp hreach
    rw [List.foldlM_cons, swap_eq h hnameFirst hreachFirst]
    exact ih (titled_exchanged h s) hnameRest hreachRest

theorem child_swaps {swaps : List (SwapWidget ω)} (h : ((cell grid i j).bind Widget.child?).isSome) :
    ((cell (swaps.foldl exchanged grid) i j).bind Widget.child?).isSome := by
  induction swaps generalizing grid with
  | nil => exact h
  | cons s swaps ih =>
    refine ih ?_
    rw [exchanged, cell_modify]
    split
    · obtain ⟨widget, hchild⟩ := Option.isSome_iff_exists.mp h
      obtain ⟨w, hw, hchild⟩ := Option.bind_eq_some_iff.mp hchild
      rw [hw]
      cases w with
      | listTitle title value child => rfl
      | _ => cases hchild
    · exact h

/-- What a swap names has a widget in the end. -/
theorem child_of_mem {swaps : List (SwapWidget ω)} (h : Titled card.items grid) (hs : s ∈ swaps) (hname : Names card.items s)
    (hrow : s.rowNumber = i + 1) (hwidget : s.widgetNumber = j + 1) :
    ((cell (swaps.foldl exchanged grid) i j).bind Widget.child?).isSome := by
  induction swaps generalizing grid with
  | nil => cases hs
  | cons s' swaps ih =>
    rcases List.mem_cons.mp hs with rfl | hs
    · obtain ⟨i', j', item, e, hrow', hwidget', hi, hj⟩ := hname.entry
      obtain rfl : i = i' := by omega
      obtain rfl : j = j' := by omega
      obtain ⟨cells, value, child, hcells, hcell⟩ := cell_of_entry h hi hj
      have hchild : ((cell (exchanged grid s) i j).bind Widget.child?).isSome := by
        rw [exchanged, cell_modify, if_pos ⟨by omega, by omega⟩, cell, hcells, Option.bind_some, hcell]
        rfl
      rw [List.foldl_cons]
      exact child_swaps hchild
    · exact ih (titled_exchanged h s') hs

/-- The first row that is missed is not written. -/
theorem position_ne {swaps : List (SwapWidget ω)} (hname : ∀ s ∈ swaps, Names card.items s) (hi : i < card.items.length)
    (hrow : s.rowNumber = i + 1) (hmiss : ¬ Reaches card.items s)
    (hfirst : ∀ s' ∈ swaps, ¬ Reaches card.items s' → s.rowNumber ≤ s'.rowNumber) :
    ∀ s' ∈ swaps, ((card.header.length + place card.items i : Nat) : Int) ≠ card.position s' := by
  intro s' hs' heq
  obtain ⟨k, l, item, e, hrow', -, hk, -⟩ := (hname s' hs').entry
  have hklt := (List.getElem?_eq_some_iff.mp hk).1
  have htitled := titled_titles ω card.items
  have hle := place_le card.items i
  have hreach := reaches_iff htitled hi hrow
  have hreach' := reaches_iff htitled hklt hrow'
  rw [place_titled htitled] at hreach hreach'
  have hposition : card.position s = card.header.length + 2 * i := by rw [position, hrow]; omega
  have hposition' : card.position s' = card.header.length + 2 * k := by rw [position, hrow']; omega
  by_cases hmiss' : Reaches card.items s'
  · have hplace := hreach'.mp hmiss'
    obtain rfl := place_inj (Nat.le_of_lt hi) (Nat.le_of_lt hklt) (by omega)
    exact hmiss (hreach.mpr (by omega))
  · have hik := hfirst s' hs' hmiss'
    exact hmiss (hreach.mpr (by omega))

theorem exists_first_miss {items : List (Dict String String)} {swaps : List (SwapWidget ω)}
    (hname : ∀ s ∈ swaps, Names items s) (h : ¬ ∀ s ∈ swaps, Reaches items s) :
    ∃ s ∈ swaps, ¬ Reaches items s ∧ ∀ s' ∈ swaps, ¬ Reaches items s' → s.rowNumber ≤ s'.rowNumber := by
  classical
  have hrow : ∀ s ∈ swaps, ∃ k : Nat, s.rowNumber = k := fun s hs => Int.eq_ofNat_of_zero_le (by have := (hname s hs).1; omega)
  have hex : ∃ k : Nat, ∃ s ∈ swaps, ¬ Reaches items s ∧ s.rowNumber = k := by
    simp only [not_forall] at h
    obtain ⟨s, hs, hmiss⟩ := h
    obtain ⟨k, hk⟩ := hrow s hs
    exact ⟨k, s, hs, hmiss, hk⟩
  obtain ⟨s, hs, hmiss, hk⟩ := Nat.find_spec hex
  refine ⟨s, hs, hmiss, fun s' hs' hmiss' => ?_⟩
  obtain ⟨k', hk'⟩ := hrow s' hs'
  rw [hk, hk', Int.ofNat_le]
  exact Nat.find_min' hex ⟨s', hs', hmiss', hk'⟩

/-- The card shows each widget that is swapped in the place of the value of its entry, and everything else as it was, exactly
    when no row above one of a swap is empty. -/
theorem build_eq_iff (card : PageCard ω) (hname : ∀ s ∈ card.swapWidgets, Names card.items s) :
    card.build = some (card.header ++ shown (card.swapWidgets.foldl exchanged (titles _ card.items))) ↔
      ∀ s ∈ card.swapWidgets, Reaches card.items s := by
  have htitled := titled_titles ω card.items
  rw [build, rows_eq]
  refine ⟨fun h => ?_, swaps_eq htitled hname⟩
  by_contra hmiss
  obtain ⟨s, hs, hmiss, hfirst⟩ := exists_first_miss hname hmiss
  obtain ⟨i, j, item, e, hrow, hwidget, hi, hj⟩ := (hname s hs).entry
  have hkept := getElem?_swaps h (position_ne hname (List.getElem?_eq_some_iff.mp hi).1 hrow hmiss hfirst)
  have htitles : (titles ω card.items)[i]? = some (item.map fun e => (.listTitle e.1 (item.get? e.1) none : Widget ω)) := by
    rw [titles, List.getElem?_map, hi, Option.map_some]
  obtain ⟨cells, value, child, hcells, hcell⟩ := cell_of_entry (titled_swaps htitled card.swapWidgets) hi hj
  have hbefore := getElem?_shown card.header htitles
  have hafter := getElem?_shown card.header hcells
  rw [place_titled htitled] at hbefore
  rw [place_titled (titled_swaps htitled card.swapWidgets), hkept, hbefore] at hafter
  have hcells' := intersperse_inj (Widget.row.inj (Option.some.inj hafter))
  have hchild := child_of_mem htitled hs (hname s hs) hrow hwidget
  rw [cell, hcells, Option.bind_some, ← hcells', List.getElem?_map, hj] at hchild
  cases hchild

theorem build_swaps_second_entry :
    let card : PageCard String := { items := [[("Date", "1-1-2024"), ("Status", "Draft")]], swapWidgets := [⟨1, "Icon", 2⟩] }
    card.build = some (shown [[.listTitle "Date" (some "1-1-2024") none, .listTitle "Status" none (some "Icon")]]) :=
  (build_eq_iff _ (by simp [Names, at?])).mpr (by simp [Reaches])

/-- An empty row above: the swap is out of bounds, or on the next row. -/
theorem empty_row_misses :
    ¬ (∀ card : PageCard String, (∀ s ∈ card.swapWidgets, Names card.items s) →
      card.build = some (card.header ++ shown (card.swapWidgets.foldl exchanged (titles _ card.items)))) ∧
    ({ items := [[], [], [("A", "a")], [("B", "b")]], swapWidgets := [⟨3, "Icon", 1⟩] } : PageCard String).build =
      some [.row [], .row [], .row [.listTitle "A" (some "a") none], .divider, .row [.listTitle "A" none (some "Icon")]] := by
  refine ⟨fun h => ?_, rfl⟩
  have hbuild := h { items := [[], [("A", "a")]], swapWidgets := [⟨2, "Icon", 1⟩] } (by simp [Names, at?])
  cases hbuild

end NextApp.PageCard
