import Mathlib.Data.List.Basic
import Mathlib.Tactic.TypeStar

/-! # A navigator

A stack of routes, the top one first, over a state. A route that is popped or replaced is taken down and its
future completes: what was waiting for it runs, and may pop the next route in turn. Routes removed by
`pushAndRemoveUntil` are dropped without completing. -/

namespace Navigator
variable {ρ σ : Type*}

/-- What the completion of a route does to the state, and whether it then pops the route on top. -/
structure Semantics (ρ σ : Type*) where
  complete : ρ → σ → σ
  popsNext : ρ → Bool

def pop (c : Semantics ρ σ) (s : σ) : List ρ → σ × List ρ
  | [] => (s, [])
  | r :: rs => if c.popsNext r then pop c (c.complete r s) rs else (c.complete r s, rs)

/-- `Navigator.pushReplacement`: the replaced route completes with the new one on top. -/
def pushReplacement (c : Semantics ρ σ) (s : σ) (new : ρ) : List ρ → σ × List ρ
  | [] => (s, [new])
  | r :: rs => if c.popsNext r then pop c (c.complete r s) (new :: rs) else (c.complete r s, new :: rs)

/-- `Navigator.pushAndRemoveUntil`, which keeps the routes from the first that `keep` holds of. -/
def pushAndRemoveUntil (new : ρ) (keep : ρ → Bool) (rs : List ρ) : List ρ := new :: rs.dropWhile fun r => !keep r

/-- The routes that a pop completes, each on top of its stack, with the state they find. -/
def popped (c : Semantics ρ σ) (s : σ) : List ρ → List (σ × List ρ)
  | [] => []
  | r :: rs => (s, r :: rs) :: if c.popsNext r then popped c (c.complete r s) rs else []

/-- The routes that a replacement completes. -/
def replaced (c : Semantics ρ σ) (s : σ) (new : ρ) : List ρ → List (σ × List ρ)
  | [] => []
  | r :: rs => (s, r :: rs) :: if c.popsNext r then popped c (c.complete r s) (new :: rs) else []

/-- `P` holds at every stage when the routes are left one after the other, and when all have been left. -/
def Unwinds (c : Semantics ρ σ) (P : σ → List ρ → Prop) (s : σ) : List ρ → Prop
  | [] => P s []
  | r :: rs => P s (r :: rs) ∧ Unwinds c P (c.complete r s) rs

variable {c : Semantics ρ σ} {P P' : σ → List ρ → Prop} {s t : σ} {r new : ρ} {rs : List ρ}

theorem pop_cons (h : c.popsNext r = false) : pop c s (r :: rs) = (c.complete r s, rs) := by
  rw [pop, h]
  rfl

theorem pop_cons_next (h : c.popsNext r = true) : pop c s (r :: rs) = pop c (c.complete r s) rs := by
  rw [pop, h]
  rfl

theorem pushReplacement_cons (h : c.popsNext r = false) :
    pushReplacement c s new (r :: rs) = (c.complete r s, new :: rs) := by
  rw [pushReplacement, h]
  rfl

/-- A replaced route that pops the next one pops its own replacement. -/
theorem pushReplacement_cons_next (h : c.popsNext r = true) (hnew : c.popsNext new = false) :
    pushReplacement c s new (r :: rs) = (c.complete new (c.complete r s), rs) := by
  rw [pushReplacement, h, if_pos rfl, pop_cons hnew]

theorem Unwinds.pop (h : Unwinds c P s rs) : Unwinds c P (pop c s rs).1 (pop c s rs).2 := by
  induction rs generalizing s with
  | nil => exact h
  | cons r rs ih =>
    cases hnext : c.popsNext r with
    | false =>
      rw [pop_cons hnext]
      exact h.2
    | true =>
      rw [pop_cons_next hnext]
      exact ih h.2

theorem Unwinds.head (h : Unwinds c P s rs) : P s rs := by
  cases rs with
  | nil => exact h
  | cons r rs => exact h.1

theorem Unwinds.popped (h : Unwinds c P s rs) : ∀ x ∈ popped c s rs, Unwinds c P x.1 x.2 := by
  induction rs generalizing s with
  | nil => exact fun x hx => absurd hx List.not_mem_nil
  | cons r rs ih =>
    intro x hx
    rcases List.mem_cons.mp hx with rfl | hx
    · exact h
    · split at hx
      · exact ih h.2 x hx
      · exact absurd hx List.not_mem_nil

/-- A replacement that fits on the stack left below the replaced route. -/
theorem Unwinds.pushReplacement (hnew : Unwinds c P (c.complete r s) (new :: rs)) :
    Unwinds c P (pushReplacement c s new (r :: rs)).1 (pushReplacement c s new (r :: rs)).2 := by
  rw [Navigator.pushReplacement]
  split
  · exact hnew.pop
  · exact hnew

theorem Unwinds.replaced (h : Unwinds c P s (r :: rs)) (hnew : Unwinds c P (c.complete r s) (new :: rs)) :
    ∀ x ∈ replaced c s new (r :: rs), Unwinds c P x.1 x.2 := by
  intro x hx
  rcases List.mem_cons.mp hx with rfl | hx
  · exact h
  · split at hx
    · exact hnew.popped x hx
    · exact absurd hx List.not_mem_nil

/-- What is read in the state through `v` alone is the same in two states with the same view. -/
theorem Unwinds.congr {V : Type*} {v : σ → V} (hc : ∀ r s t, v s = v t → v (c.complete r s) = v (c.complete r t))
    (hP : ∀ s t rs, v s = v t → P s rs → P t rs) (hst : v s = v t) (h : Unwinds c P s rs) : Unwinds c P t rs := by
  induction rs generalizing s t with
  | nil => exact hP s t _ hst h
  | cons r rs ih => exact ⟨hP s t _ hst h.1, ih (hc r s t hst) h.2⟩

/-- The same stack with other routes that complete in the same way, where completions keep `I`. -/
theorem Unwinds.map {I : σ → Prop} {f : ρ → ρ} (hI : ∀ r s, I s → I (c.complete r s))
    (hc : ∀ r s, c.complete (f r) s = c.complete r s) (hP : ∀ s rs, I s → P s rs → P' s (rs.map f)) (hs : I s)
    (h : Unwinds c P s rs) : Unwinds c P' s (rs.map f) := by
  induction rs generalizing s with
  | nil => exact hP s [] hs h
  | cons r rs ih =>
    refine ⟨hP s (r :: rs) hs h.1, ?_⟩
    rw [hc]
    exact ih (hI r s hs) h.2

end Navigator
