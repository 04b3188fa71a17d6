/-! # Calls that may throw

A call that writes state and may throw part of the way through: what it has written until then stays. -/

/-- How a call ends, with the state it leaves. -/
inductive Outcome (σ : Type u) where
  | done (s : σ)
  | threw (s : σ)
deriving DecidableEq, Repr

namespace Outcome
variable {σ : Type u} {s t : σ}

def state : Outcome σ → σ
  | done s => s
  | threw s => s

/-- The call after this one, if this one completes. -/
def bind (o : Outcome σ) (f : σ → Outcome σ) : Outcome σ :=
  match o with
  | done s => f s
  | threw s => threw s

/-- A cast or a null check in the middle of a call: a failing one throws in the state so far. -/
def need {α : Type v} (s : σ) (x : Option α) (f : α → Outcome σ) : Outcome σ :=
  match x with
  | some a => f a
  | none => threw s

def map {τ : Type v} (f : σ → τ) : Outcome σ → Outcome τ
  | done s => done (f s)
  | threw s => threw (f s)

def each (f : σ → Outcome σ) : List σ → Outcome (List σ)
  | [] => done []
  | x :: xs =>
    match f x with
    | done y => (each f xs).map (y :: ·)
    | threw y => threw (y :: xs)

@[simp] theorem state_done : (done s).state = s := rfl

@[simp] theorem state_threw : (threw s).state = s := rfl

@[simp] theorem bind_done (f : σ → Outcome σ) : (done s).bind f = f s := rfl

@[simp] theorem bind_threw (f : σ → Outcome σ) : (threw s).bind f = threw s := rfl

@[simp] theorem need_some {α : Type v} (a : α) (f : α → Outcome σ) : need s (some a) f = f a := rfl

@[simp] theorem need_none {α : Type v} (f : α → Outcome σ) : need s none f = threw s := rfl

@[simp] theorem state_map {τ : Type v} (f : σ → τ) (o : Outcome σ) : (o.map f).state = f o.state := by
  cases o <;> rfl

/-- What the state has before the second call, and the second call keeps, it has after both. -/
theorem state_bind {P : σ → Prop} {o : Outcome σ} {f : σ → Outcome σ} (h : P o.state) (hf : ∀ s, P s → P (f s).state) :
    P (o.bind f).state := by
  cases o with
  | done s => exact hf s h
  | threw s => exact h

theorem foldl_threw {α : Type v} (f : σ → α → Outcome σ) (s : σ) (xs : List α) :
    xs.foldl (fun o x => o.bind fun s => f s x) (threw s) = threw s := by
  induction xs with
  | nil => rfl
  | cons x xs ih => exact ih

theorem each_of_done {f : σ → Outcome σ} {g : σ → σ} {xs : List σ} (h : ∀ x ∈ xs, f x = done (g x)) :
    each f xs = done (xs.map g) := by
  induction xs with
  | nil => rfl
  | cons x xs ih =>
    obtain ⟨hx, hxs⟩ := List.forall_mem_cons.mp h
    simp only [each, hx, ih hxs, map, List.map_cons]

theorem eq_of_each {f : σ → Outcome σ} {good : σ → Bool} {g : σ → σ} {xs ys : List σ}
    (hf : ∀ x, f x = if good x then done (g x) else threw x) (h : each f xs = done ys) : ys = xs.map g := by
  induction xs generalizing ys with
  | nil =>
    cases h
    rfl
  | cons x xs ih =>
    rw [each, hf] at h
    cases hgood : good x with
    | false =>
      rw [hgood] at h
      cases h
    | true =>
      rw [hgood] at h
      cases hrest : each f xs with
      | threw zs =>
        rw [hrest] at h
        cases h
      | done zs =>
        rw [hrest] at h
        cases h
        rw [ih hrest, List.map_cons]

/-- It gets to the end exactly when no entry throws. -/
theorem each_done_iff {f : σ → Outcome σ} {good : σ → Bool} {g : σ → σ} {xs : List σ}
    (hf : ∀ x, f x = if good x then done (g x) else threw x) : each f xs = done (xs.map g) ↔ ∀ x ∈ xs, good x = true := by
  induction xs with
  | nil => simp [each]
  | cons x xs ih =>
    rw [List.forall_mem_cons, ← ih, each, hf]
    cases good x with
    | false => simp
    | true => cases each f xs <;> simp [map]

/-- An entry is passed to the call when no entry before it throws, and else stays. -/
theorem getElem?_each {f : σ → Outcome σ} {good : σ → Bool} {g : σ → σ} {xs : List σ}
    (hf : ∀ x, f x = if good x then done (g x) else threw x) (i : Nat) :
    (each f xs).state[i]? = xs[i]?.map fun x => if ∀ y ∈ xs.take i, good y = true then (f x).state else x := by
  induction xs generalizing i with
  | nil => simp [each]
  | cons x xs ih =>
    rw [each, hf]
    cases hgood : good x with
    | false => cases i <;> simp [hgood, hf]
    | true =>
      cases i with
      | zero => simp [hgood, hf]
      | succ i => simp [hgood, ih]

end Outcome
