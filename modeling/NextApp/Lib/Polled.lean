import Mathlib.Data.List.Basic
import Mathlib.Tactic.TypeStar

/-! # A value that is asked for

A value is shown while queries for it are on their way, each with the key it asks about and, once it has been answered, with
the answer. Answers are given and come in any order, and what comes is shown. `last` is what is shown once all that is on its
way has come in the order in which it was asked for. -/

structure Polled (κ α : Type*) where
  shown : α
  queries : List (κ × Option α) := []
deriving DecidableEq

namespace Polled
variable {κ α : Type*} (view : κ → α)

/-- What a query answers, or will. -/
def value (q : κ × Option α) : α := q.2.getD (view q.1)

def ask (p : Polled κ α) (k : κ) : Polled κ α := { p with queries := p.queries ++ [(k, none)] }

def answer (p : Polled κ α) (i : Nat) : Polled κ α := { p with queries := p.queries.modify i fun q => (q.1, some (value view q)) }

def arrive (p : Polled κ α) (i : Nat) (shown : α) : Polled κ α := ⟨shown, p.queries.eraseIdx i⟩

def last (p : Polled κ α) : α := (p.queries.getLast?.map (value view)).getD p.shown

variable {view} {p : Polled κ α} {q : κ × Option α} {i : Nat} {k : κ} {v x : α}

theorem last_of_queries (h : p.queries = []) : p.last view = p.shown := by
  rw [last, h]
  rfl

@[simp] theorem last_ask : (p.ask k).last view = view k := by
  rw [last, ask, List.getLast?_concat]
  rfl

/-- An answer is what the query was going to give. -/
@[simp] theorem last_answer : (p.answer view i).last view = p.last view := by
  have hmap : (p.queries.modify i fun q => (q.1, some (value view q))).map (value view) = p.queries.map (value view) := by
    refine List.ext_getElem? fun j => ?_
    rw [List.getElem?_map, List.getElem?_map, List.getElem?_modify]
    cases p.queries[j]? with
    | none => rfl
    | some q => by_cases hij : i = j <;> simp [hij, value]
  rw [last, last, answer, ← List.getLast?_map, ← List.getLast?_map, hmap]

/-- What comes is the last only if nothing else is on its way. -/
theorem last_arrive : (p.arrive i v).last view = x ↔
    (∀ q ∈ (p.queries.eraseIdx i).getLast?, value view q = x) ∧ (p.queries.eraseIdx i = [] → v = x) := by
  rw [last, arrive]
  cases hlast : (p.queries.eraseIdx i).getLast? with
  | none => simp [List.getLast?_eq_none_iff.mp hlast]
  | some q =>
    have hne : p.queries.eraseIdx i ≠ [] := fun hnil => by
      rw [hnil] at hlast
      cases hlast
    simp [hne]

/-- A query that is alone on its way is the last. -/
theorem value_of_alone (hq : p.queries[i]? = some q) (halone : p.queries.eraseIdx i = []) : p.last view = value view q := by
  have hlength : p.queries.length ≤ 1 := by
    have hlt : i < p.queries.length := (List.getElem?_eq_some_iff.mp hq).1
    have herase := List.length_eraseIdx_of_lt hlt
    rw [halone, List.length_nil] at herase
    exact Nat.le_of_sub_eq_zero herase.symm
  cases hqueries : p.queries with
  | nil =>
    rw [hqueries] at hq
    cases hq
  | cons q' rest =>
    rw [hqueries] at hq hlength
    obtain rfl : rest = [] := List.eq_nil_of_length_eq_zero (Nat.le_zero.mp (Nat.le_of_succ_le_succ hlength))
    rw [last, hqueries, ← List.mem_singleton.mp (List.mem_of_getElem? hq)]
    rfl

/-- What comes for a query is its answer, or nothing when it fails. -/
theorem last_arrive_iff {ok : Bool} {empty : α} (hlast : p.last view = x) (hq : p.queries[i]? = some q)
    (hok : ok = true → q.2 = some v) (hfailed : ok = false → v = empty) :
    (p.arrive i v).last view = x ↔
      (∀ q ∈ (p.queries.eraseIdx i).getLast?, value view q = x) ∧ (p.queries.eraseIdx i = [] → ok = true ∨ x = empty) := by
  rw [last_arrive]
  refine and_congr_right fun _ => forall_congr' fun halone => ?_
  cases ok with
  | true =>
    have hvalue : value view q = v := by
      rw [value, hok rfl]
      rfl
    refine iff_of_true ?_ (.inl rfl)
    rw [← hvalue, ← value_of_alone hq halone, hlast]
  | false =>
    rw [hfailed rfl, or_iff_right Bool.false_ne_true]
    exact eq_comm

end Polled
