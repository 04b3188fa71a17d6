import NextApp.Lib.Decode
import NextApp.Model.ListRows

/-! # The rows that a list shows

Which rows the item models take, and when the list of a module shows all the rows that it has read past: a page with a row that
is not taken is left out whole, and the next load goes on behind it. -/

namespace NextApp
open Runs DateText

/-! ### What is taken -/

/-- The values that a field takes. -/
def FieldType.Takes : FieldType → Value → Prop
  | text _, v | nullableText, v => v = .null ∨ ∃ s, v = .str s
  | date orElse, v => v = .null ∧ parse orElse ≠ none ∨ ∃ s, v = .str s ∧ parse s ≠ none
  | number orElse, v => v = .null ∧ orElse ≠ none ∨ ∃ q, v = .double q
  | nullableNumber, v => v = .null ∨ ∃ q, v = .double q
  | whole _, v | nullableWhole, v => v = .null ∨ ∃ i, v = .int i
  | items, v => v = .null ∨ ∃ xs, v = .list xs
  | docStatus, _ | fixed _, _ => True

/-- A row is a map whose entries its model takes. -/
def Taken (fields : List ListField) (v : Value) : Prop := ∃ json, v = .map json ∧ ∀ f ∈ fields, f.type.Takes (Doc.at json f.key)

variable {fields : List ListField} {v : Value} {m : ModuleType} {rows page : List Value} {s t : PaginationState ListRow}
  {e : ListLoad} {answered : Bool}

theorem read_ne_none_iff (type : FieldType) (v : Value) : type.read v ≠ none ↔ type.Takes v := by
  cases type with
  | text orElse => cases v <;> simp [FieldType.read, FieldType.Takes, Value.textOr?, Value.asString?]
  | nullableText => cases v <;> simp [FieldType.read, FieldType.Takes, Value.asString?]
  | date orElse => cases v <;> simp [FieldType.read, FieldType.Takes, Value.textOr?, Value.asString?]
  | number orElse =>
    cases orElse with
    | none => cases v <;> simp [FieldType.read, FieldType.Takes]
    | some orElse => cases v <;> simp [FieldType.read, FieldType.Takes, Value.doubleOr?]
  | nullableNumber => cases v <;> simp [FieldType.read, FieldType.Takes]
  | whole orElse => cases v <;> simp [FieldType.read, FieldType.Takes]
  | nullableWhole => cases v <;> simp [FieldType.read, FieldType.Takes]
  | items => cases v <;> simp [FieldType.read, FieldType.Takes]
  | docStatus => exact iff_of_true (Option.some_ne_none _) trivial
  | fixed s => exact iff_of_true (Option.some_ne_none _) trivial

theorem readRow_ne_none_iff : readRow fields v ≠ none ↔ Taken fields v := by
  cases v with
  | map json =>
    have hfields : fields.mapM (ListField.read json) ≠ none ↔ ∀ f ∈ fields, f.type.Takes (Doc.at json f.key) := by
      rw [Decode.mapM_ne_none_iff]
      refine forall₂_congr fun f _ => ?_
      rw [← read_ne_none_iff, ListField.read, Ne, Option.map_eq_none_iff]
    rw [readRow, Value.asMap?_map, Option.bind_some, hfields]
    exact ⟨fun h => ⟨json, rfl, h⟩, fun ⟨_, heq, h⟩ => Value.map.inj heq ▸ h⟩
  | _ => exact iff_of_false (not_not.mpr rfl) nofun

/-- What comes of the page that the server answers with. -/
theorem getListRows_rowsReply (start : Int) : getListRows fields (some (rowsReply rows start)) =
    (Paging.slice rows start.toNat paginationPageLength).mapM (readRow fields) := by
  simp [getListRows, rowsReply, readRows, Doc.at, Dict.get?, Value.asString?]

/-! ### What is shown -/

/-- The list shows all the rows that it has read past, and the list of the server once there are no more. -/
structure ShowsRows (m : ModuleType) (rows : List Value) (s : PaginationState ListRow) : Prop where
  read : s.items.map some = (rows.take (s.pageCount + 20).toNat).map (readRow m.serviceParser)
  ends : s.noMoreItems = true → s.items.map some = rows.map (readRow m.serviceParser)

/-- The page from `start` comes and all its rows are taken, unless it is empty. -/
def PageTaken (m : ModuleType) (rows : List Value) (answered : Bool) (start : Int) : Prop :=
  Paging.slice rows start.toNat paginationPageLength ≠ [] →
    answered = true ∧ ∀ v ∈ Paging.slice rows start.toNat paginationPageLength, Taken m.serviceParser v

def RowsGuard (m : ModuleType) (rows : List Value) (s : PaginationState ListRow) : ListLoad → Prop
  | .load answered => PageTaken m rows answered (s.pageCount + 20)
  | .refresh answered => PageTaken m rows answered 0

structure RowsInv (m : ModuleType) (rows : List Value) (s : PaginationState ListRow) : Prop where
  shows : ShowsRows m rows s
  start : -20 ≤ s.pageCount
  short : s.noMoreItems = true → rows.length ≤ (s.pageCount + 20).toNat

/-! ### Loads -/

/-- The rows of the page that a load asks for, if it gets them. -/
def loadedRows (m : ModuleType) (rows : List Value) (answered : Bool) (start : Int) : Option (List ListRow) :=
  if answered then (Paging.slice rows start.toNat paginationPageLength).mapM (readRow m.serviceParser) else none

theorem pageTaken_iff {start : Int} : PageTaken m rows answered start ↔
    (Paging.slice rows start.toNat paginationPageLength ≠ [] → loadedRows m rows answered start ≠ none) := by
  refine forall_congr' fun _ => ?_
  cases answered with
  | false => exact iff_of_false (fun h => Bool.false_ne_true h.1) (not_not.mpr rfl)
  | true =>
    rw [loadedRows, if_pos rfl, Decode.mapM_ne_none_iff, and_iff_right rfl]
    exact forall₂_congr fun v _ => readRow_ne_none_iff.symm

theorem loadRows_eq : loadRows m rows answered s =
    (s.startItems.countItems (toString rows.length)).endItems (loadedRows m rows answered (s.pageCount + 20)) := by
  cases answered with
  | false => rfl
  | true => exact congrArg (PaginationState.endItems _) (getListRows_rowsReply _)

theorem toNat_next {pageCount : Int} (h : -20 ≤ pageCount) :
    (pageCount + 20 + 20).toNat = (pageCount + 20).toNat + paginationPageLength := by
  rw [paginationPageLength]
  omega

/-- A load that gets its rows shows them behind those of before. -/
theorem inv_loaded {rs : List ListRow} (h : RowsInv m rows s) (hload : loadedRows m rows answered (s.pageCount + 20) = some rs) :
    RowsInv m rows (loadRows m rows answered s) := by
  have hpage : (Paging.slice rows (s.pageCount + 20).toNat paginationPageLength).map (readRow m.serviceParser) = rs.map some := by
    obtain ⟨-, hmap⟩ := Option.ite_none_right_eq_some.mp hload
    exact Decode.mapM_eq_some_iff.mp hmap
  have hread : (s.items ++ rs).map some =
      (rows.take (s.pageCount + 20 + 20).toNat).map (readRow m.serviceParser) := by
    rw [toNat_next h.start, ← Paging.take_append_slice, List.map_append, List.map_append, hpage, h.shows.read]
  have hshort : (s.noMoreItems || rs.isEmpty || decide (rs.length < paginationPageLength)) = true →
      rows.length ≤ (s.pageCount + 20 + 20).toNat := by
    intro hend
    rw [toNat_next h.start]
    have hlength : rs.length = min paginationPageLength (rows.length - (s.pageCount + 20).toNat) := by
      rw [← Paging.length_slice, ← List.length_map some, ← hpage, List.length_map]
    rw [Bool.or_eq_true, Bool.or_eq_true, decide_eq_true_eq, List.isEmpty_iff_length_eq_zero] at hend
    rw [paginationPageLength] at *
    rcases hend with (hend | hend) | hend
    · exact le_trans (h.short hend) (Nat.le_add_right _ _)
    · omega
    · omega
  rw [loadRows_eq, hload]
  refine ⟨⟨hread, fun hend => ?_⟩, le_trans h.start (Int.le_add_of_nonneg_right (by decide)), hshort⟩
  rw [← List.take_of_length_le (hshort hend)]
  exact hread

/-- A load that does not leaves out its page, and the list behind it. -/
theorem shows_not_loaded (h : RowsInv m rows s) (hload : loadedRows m rows answered (s.pageCount + 20) = none) :
    ShowsRows m rows (loadRows m rows answered s) ↔
      Paging.slice rows (s.pageCount + 20).toNat paginationPageLength = [] := by
  rw [loadRows_eq, hload]
  constructor
  · intro hshows
    have hread : s.items.map some = (rows.take (s.pageCount + 20 + 20).toNat).map (readRow m.serviceParser) := hshows.read
    rw [toNat_next h.start, ← Paging.take_append_slice, List.map_append, h.shows.read] at hread
    exact List.map_eq_nil_iff.mp (List.self_eq_append_right.mp hread)
  · intro hpage
    refine ⟨?_, h.shows.ends⟩
    have hread : s.items.map some = (rows.take (s.pageCount + 20 + 20).toNat).map (readRow m.serviceParser) := by
      rw [toNat_next h.start, ← Paging.take_append_slice, hpage, List.append_nil, h.shows.read]
    exact hread

theorem inv_loadRows (h : RowsInv m rows s) (hshows : ShowsRows m rows (loadRows m rows answered s)) :
    RowsInv m rows (loadRows m rows answered s) := by
  cases hload : loadedRows m rows answered (s.pageCount + 20) with
  | some rs => exact inv_loaded h hload
  | none =>
    rw [loadRows_eq, hload] at hshows ⊢
    refine ⟨hshows, le_trans h.start (Int.le_add_of_nonneg_right (by decide)), fun hend => ?_⟩
    exact le_trans (h.short hend) (Int.toNat_le_toNat (Int.le_add_of_nonneg_right (by decide)))

theorem shows_loadRows (h : RowsInv m rows s) :
    ShowsRows m rows (loadRows m rows answered s) ↔ PageTaken m rows answered (s.pageCount + 20) := by
  rw [pageTaken_iff]
  cases hload : loadedRows m rows answered (s.pageCount + 20) with
  | some rs => exact iff_of_true (inv_loaded h hload).shows fun _ => nofun
  | none =>
    rw [shows_not_loaded h hload]
    exact ⟨fun hpage hne => absurd hpage hne, fun hne => by_contra fun hpage => hne hpage rfl⟩

theorem inv_clearItems : RowsInv m rows s.clearItems := ⟨⟨rfl, nofun⟩, le_refl _, nofun⟩

theorem shows_step (h : RowsInv m rows s) (ht : listStep m rows s e = some t) :
    (ShowsRows m rows t ↔ RowsGuard m rows s e) ∧ (ShowsRows m rows t → RowsInv m rows t) := by
  cases e with
  | load answered =>
    obtain ⟨-, ht⟩ := Option.ite_none_right_eq_some.mp ht
    cases ht
    exact ⟨shows_loadRows h, inv_loadRows h⟩
  | refresh answered =>
    obtain ⟨-, ht⟩ := Option.ite_none_right_eq_some.mp ht
    cases ht
    exact ⟨shows_loadRows inv_clearItems, inv_loadRows inv_clearItems⟩

theorem inv_start : RowsInv m rows {} := ⟨⟨rfl, nofun⟩, le_refl _, nofun⟩

/-- The list of a module shows all rows that it has read past, and all there are at its end, exactly when each page that it asks
    for comes, and has rows only that the item model takes. -/
theorem showsRows_iff (m : ModuleType) (rows : List Value) (es : List ListLoad) :
    Along (listStep m rows) (ShowsRows m rows) {} es ↔ Guarded (listStep m rows) (RowsGuard m rows) {} es :=
  along_iff_guarded (I := RowsInv m rows) (fun _ h => h.shows)
    (fun _ _ _ h ht hg => (shows_step h ht).2 ((shows_step h ht).1.mpr hg)) (fun _ _ _ h ht hs => (shows_step h ht).1.mp hs) inv_start

end NextApp
