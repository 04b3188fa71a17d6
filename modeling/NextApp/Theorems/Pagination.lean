import NextApp.Lib.Runs
import NextApp.Model.Pagination

/-! # Loading a list page by page

Calls of `getItems` one after another on a server list that stays fixed, some answered and some not. The
offset moves on at the start of every call, the rows only on an answer. So the rows stay a prefix of the
server list exactly when no call is answered after one for existing rows has failed. -/

namespace NextApp.Pagination
open Paging PaginationState
variable {α : Type*}

/-- What one call of `getItems` is answered: the text of the count, and whether the list request is
    answered at all. -/
structure Reply where
  count : String
  answered : Bool
deriving DecidableEq, Repr

def getItemsStep (l : List α) (s : PaginationState α) (r : Reply) : Option (PaginationState α) :=
  some (s.getItems r.count (getList l r.answered))

/-- The rows are a prefix of the server list, counted by `newLoadCount`, and `_noMoreItems` is set only
    when they are all of it. -/
structure Coherent (l : List α) (s : PaginationState α) : Prop where
  rows : s.items <+: l
  count : s.newLoadCount = s.items.length
  done : s.noMoreItems = true → s.items = l

instance [DecidableEq α] (l : List α) (s : PaginationState α) : Decidable (Coherent l s) :=
  decidable_of_iff (s.items <+: l ∧ s.newLoadCount = s.items.length ∧ (s.noMoreItems = true → s.items = l))
    ⟨fun ⟨h, h', h''⟩ => ⟨h, h', h''⟩, fun h => ⟨h.rows, h.count, h.done⟩⟩

/-- Once a request for rows that exist has failed, no later request is answered: the calls are numbered
    from `k`, and call `k` asks for the rows from `k` pages on of a list of `n` rows. -/
def NoneAfterLoss (n : Nat) : Nat → List Reply → Prop
  | _, [] => True
  | k, r :: rs =>
    (r.answered = false → k * paginationPageLength < n → ∀ r' ∈ rs, r'.answered = false) ∧
      NoneAfterLoss n (k + 1) rs

/-! ### One call -/

@[simp] theorem getItems_pageCount (s : PaginationState α) (count : String) (f : Int → Option (List α)) :
    (s.getItems count f).pageCount = s.pageCount + paginationPageLength := by
  simp only [getItems, endItems]
  cases f (s.startItems.countItems count).pageCount <;> rfl

theorem getItems_some {l : List α} {s : PaginationState α} (count : String) {k : Nat}
    (hk : s.pageCount + paginationPageLength = k * paginationPageLength) :
    let page := slice l (k * paginationPageLength) paginationPageLength
    (s.getItems count (getList l true)).items = s.items ++ page ∧
      (s.getItems count (getList l true)).newLoadCount = s.newLoadCount + page.length ∧
      ((s.getItems count (getList l true)).noMoreItems = true ↔
        s.noMoreItems = true ∨ page.length < paginationPageLength) := by
  have hstart : (s.pageCount + paginationPageLength).toNat = k * paginationPageLength := by omega
  refine ⟨?_, ?_, ?_⟩
  · simp [getItems, getList, startItems, countItems, endItems, hstart]
  · simp [getItems, getList, startItems, countItems, endItems, hstart]
  · simp only [getItems, getList, startItems, countItems, endItems, hstart, if_true, Bool.or_eq_true,
      decide_eq_true_eq, List.isEmpty_iff]
    refine ⟨?_, Or.imp Or.inl id⟩
    rintro ((h | h) | h)
    · exact Or.inl h
    · exact Or.inr (by rw [h, List.length_nil]; decide)
    · exact Or.inr h

/-! ### Before and after a loss -/

/-- After `k` calls none of which lost rows: the rows are the first `k` pages. -/
structure Live (l : List α) (k : Nat) (s : PaginationState α) : Prop where
  pageCount : s.pageCount + paginationPageLength = k * paginationPageLength
  items : s.items = l.take (k * paginationPageLength)
  count : s.newLoadCount = s.items.length
  done : s.noMoreItems = true → s.items = l

/-- After `k` calls one of which lost rows: the rows stop short of the offset and of the list. -/
structure Lost (l : List α) (k : Nat) (s : PaginationState α) : Prop where
  pageCount : s.pageCount + paginationPageLength = k * paginationPageLength
  items : ∃ m, m < k * paginationPageLength ∧ m < l.length ∧ s.items = l.take m
  count : s.newLoadCount = s.items.length
  done : s.noMoreItems = false

theorem live_init (l : List α) : Live l 0 {} where
  pageCount := rfl
  items := by simp
  count := rfl
  done := fun h => by cases h

theorem Live.coherent {l : List α} {k : Nat} {s : PaginationState α} (h : Live l k s) : Coherent l s where
  rows := h.items ▸ List.take_prefix _ _
  count := h.count
  done := h.done

theorem Lost.coherent {l : List α} {k : Nat} {s : PaginationState α} (h : Lost l k s) : Coherent l s where
  rows := by
    obtain ⟨m, -, -, hm⟩ := h.items
    exact hm ▸ List.take_prefix _ _
  count := h.count
  done := fun hd => by rw [h.done] at hd; cases hd

theorem pageCount_next {s : PaginationState α} {k : Nat} {count : String} {f : Int → Option (List α)}
    (h : s.pageCount + paginationPageLength = k * paginationPageLength) :
    (s.getItems count f).pageCount + paginationPageLength = (k + 1 : Nat) * paginationPageLength := by
  rw [getItems_pageCount, h]
  push_cast
  rw [Int.add_mul, Int.one_mul]

theorem Live.answered {l : List α} {k : Nat} {s : PaginationState α} (h : Live l k s) (count : String) :
    Live l (k + 1) (s.getItems count (getList l true)) := by
  obtain ⟨hitems, hcount, hdone⟩ := getItems_some (l := l) count h.pageCount
  have htake : (s.getItems count (getList l true)).items = l.take ((k + 1) * paginationPageLength) := by
    rw [hitems, h.items, take_append_slice, Nat.add_mul, Nat.one_mul]
  refine ⟨pageCount_next h.pageCount, htake, by rw [hcount, h.count, hitems, List.length_append], fun hd => ?_⟩
  rcases hdone.mp hd with hd | hshort
  · have hlen : l.length ≤ k * paginationPageLength := by
      have := congrArg List.length ((h.items).symm.trans (h.done hd))
      rw [List.length_take] at this
      omega
    rw [htake]
    exact List.take_of_length_le (by rw [Nat.add_mul]; omega)
  · rw [hitems, h.items]
    exact take_append_slice_of_short hshort

theorem Live.failed_past {l : List α} {k : Nat} {s : PaginationState α} (h : Live l k s) (count : String)
    (hk : l.length ≤ k * paginationPageLength) : Live l (k + 1) (s.getItems count (getList l false)) where
  pageCount := pageCount_next h.pageCount
  items := by
    show s.items = _
    rw [h.items, List.take_of_length_le hk, List.take_of_length_le (by rw [Nat.add_mul]; omega)]
  count := h.count
  done := h.done

theorem Live.failed {l : List α} {k : Nat} {s : PaginationState α} (h : Live l k s) (count : String)
    (hk : k * paginationPageLength < l.length) : Lost l (k + 1) (s.getItems count (getList l false)) where
  pageCount := pageCount_next h.pageCount
  items := ⟨k * paginationPageLength, by simp [paginationPageLength], hk, h.items⟩
  count := h.count
  done := by
    show s.noMoreItems = false
    by_contra hd
    have := congrArg List.length ((h.items).symm.trans (h.done (by simpa using hd)))
    rw [List.length_take] at this
    omega

theorem Lost.failed {l : List α} {k : Nat} {s : PaginationState α} (h : Lost l k s) (count : String) :
    Lost l (k + 1) (s.getItems count (getList l false)) where
  pageCount := pageCount_next h.pageCount
  items := by
    obtain ⟨m, hk, hl, hm⟩ := h.items
    exact ⟨m, by rw [Nat.add_mul]; omega, hl, hm⟩
  count := h.count
  done := h.done

/-- After a loss an answered call breaks the rows: it skips the lost ones, or takes them for the end. -/
theorem Lost.not_coherent {l : List α} {k : Nat} {s : PaginationState α} (h : Lost l k s) (hn : l.Nodup)
    (count : String) : ¬ Coherent l (s.getItems count (getList l true)) := by
  intro hc
  obtain ⟨m, hk, hl, hm⟩ := h.items
  obtain ⟨hitems, -, hdone⟩ := getItems_some (l := l) count h.pageCount
  by_cases hend : k * paginationPageLength < l.length
  · have hrows := hc.rows
    rw [hitems, hm] at hrows
    exact not_prefix_of_gap hn hk hend (by decide) hrows
  · have hnil : slice l (k * paginationPageLength) paginationPageLength = [] := slice_of_length_le (by omega)
    have hall := hc.done (hdone.mpr (Or.inr (by rw [hnil, List.length_nil]; decide)))
    rw [hitems, hnil, hm, List.append_nil] at hall
    have := congrArg List.length hall
    rw [List.length_take] at this
    omega

/-! ### Runs -/

theorem along_of_lost {l : List α} {rs : List Reply} {k : Nat} {s : PaginationState α} (h : Lost l k s)
    (hrs : ∀ r ∈ rs, r.answered = false) : Runs.Along (getItemsStep l) (Coherent l) s rs := by
  induction rs generalizing k s with
  | nil => exact h.coherent
  | cons r rs ih =>
    rw [Runs.along_cons rfl, hrs r List.mem_cons_self]
    exact ⟨h.coherent, ih (h.failed r.count) fun r' hr' => hrs r' (List.mem_cons_of_mem r hr')⟩

theorem failed_of_along_lost {l : List α} (hn : l.Nodup) {rs : List Reply} {k : Nat} {s : PaginationState α}
    (h : Lost l k s) (hc : Runs.Along (getItemsStep l) (Coherent l) s rs) : ∀ r ∈ rs, r.answered = false := by
  induction rs generalizing k s with
  | nil => simp
  | cons r rs ih =>
    obtain ⟨-, hc⟩ := (Runs.along_cons rfl).mp hc
    cases hr : r.answered with
    | true => rw [hr] at hc; exact absurd hc.head (h.not_coherent hn r.count)
    | false =>
      rw [hr] at hc
      intro r' hr'
      rcases List.mem_cons.mp hr' with rfl | hr'
      · exact hr
      · exact ih (h.failed r.count) hc r' hr'

theorem along_of_live {l : List α} {rs : List Reply} {k : Nat} {s : PaginationState α} (h : Live l k s)
    (hrs : NoneAfterLoss l.length k rs) : Runs.Along (getItemsStep l) (Coherent l) s rs := by
  induction rs generalizing k s with
  | nil => exact h.coherent
  | cons r rs ih =>
    obtain ⟨hloss, hrest⟩ := hrs
    refine (Runs.along_cons rfl).mpr ⟨h.coherent, ?_⟩
    cases hr : r.answered with
    | true => exact ih (h.answered r.count) hrest
    | false =>
      by_cases hk : k * paginationPageLength < l.length
      · exact along_of_lost (h.failed r.count hk) (hloss hr hk)
      · exact ih (h.failed_past r.count (by omega)) hrest

theorem noneAfterLoss_of_failed {n : Nat} {rs : List Reply} (hrs : ∀ r ∈ rs, r.answered = false) {k : Nat} :
    NoneAfterLoss n k rs := by
  induction rs generalizing k with
  | nil => trivial
  | cons r rs ih =>
    have htail : ∀ r ∈ rs, r.answered = false := fun r' hr' => hrs r' (List.mem_cons_of_mem r hr')
    exact ⟨fun _ _ => htail, ih htail⟩

theorem noneAfterLoss_of_along {l : List α} (hn : l.Nodup) {rs : List Reply} {k : Nat} {s : PaginationState α}
    (h : Live l k s) (hc : Runs.Along (getItemsStep l) (Coherent l) s rs) : NoneAfterLoss l.length k rs := by
  induction rs generalizing k s with
  | nil => trivial
  | cons r rs ih =>
    obtain ⟨-, hc⟩ := (Runs.along_cons rfl).mp hc
    cases hr : r.answered with
    | true =>
      rw [hr] at hc
      exact ⟨fun hf => absurd (hr.symm.trans hf) (by decide), ih (h.answered r.count) hc⟩
    | false =>
      rw [hr] at hc
      by_cases hk : k * paginationPageLength < l.length
      · have hrest := failed_of_along_lost hn (h.failed r.count hk) hc
        exact ⟨fun _ _ => hrest, noneAfterLoss_of_failed hrest⟩
      · exact ⟨fun _ hlt => absurd hlt hk, ih (h.failed_past r.count (by omega)) hc⟩

/-- The rows stay a prefix of the server list through any calls of `getItems`, one after another, none of
    which is answered after one for existing rows has failed; on distinct rows, through no others. -/
theorem getItems_prefix_iff (l : List α) (rs : List Reply) :
    (NoneAfterLoss l.length 0 rs → Runs.Along (getItemsStep l) (Coherent l) {} rs) ∧
      (l.Nodup → Runs.Along (getItemsStep l) (Coherent l) {} rs → NoneAfterLoss l.length 0 rs) :=
  ⟨along_of_live (live_init l), fun hn => noneAfterLoss_of_along hn (live_init l)⟩

/-- The first page is lost and the second answered. -/
theorem not_coherent_after_failure :
    ¬ Runs.Along (getItemsStep (List.range 21)) (Coherent (List.range 21)) {} [⟨"21", false⟩, ⟨"21", true⟩] := by
  decide

/-- Both pages of a list of 21 rows, and a failed request past its end. -/
theorem getItems_prefix_range :
    Runs.Along (getItemsStep (List.range 21)) (Coherent (List.range 21)) {}
      [⟨"21", true⟩, ⟨"21", true⟩, ⟨"21", false⟩] ∧
    NoneAfterLoss (List.range 21).length 0 [⟨"21", true⟩, ⟨"21", true⟩, ⟨"21", false⟩] := by
  have hc := (getItems_prefix_iff (List.range 21) [⟨"21", true⟩, ⟨"21", true⟩, ⟨"21", false⟩]).1
    (by simp [NoneAfterLoss, paginationPageLength])
  exact ⟨hc, (getItems_prefix_iff _ _).2 List.nodup_range hc⟩

end NextApp.Pagination
