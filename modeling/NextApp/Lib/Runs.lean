import Mathlib.Data.List.Basic
import Mathlib.Data.List.Infix

/-! # Runs of a partial step function

`step s e` is the state after event `e`, or `none` when `e` cannot happen in `s`. A run is cut at the
first event that cannot happen. `Along` says that a property holds in every state of a run, `Each` that
it holds of every step. The rules at the end carry an invariant along a run, and turn a property of the
states into the exact condition on the steps. -/

namespace Runs
variable {σ ε : Type*} (step : σ → ε → Option σ)

def run (s : σ) : List ε → Option σ
  | [] => some s
  | e :: es => (step s e).bind fun t => run t es

/-- `P` holds in every state of the run of `es` from `s`. -/
def Along (P : σ → Prop) (s : σ) : List ε → Prop
  | [] => P s
  | e :: es => P s ∧ ∀ t ∈ step s e, Along P t es

/-- `Q` holds of every step of the run of `es` from `s`: of the state before, the event and the state after. -/
def Each (Q : σ → ε → σ → Prop) (s : σ) : List ε → Prop
  | [] => True
  | e :: es => ∀ t ∈ step s e, Q s e t ∧ Each Q t es

/-- `G` holds of the state before and of the event, at every step of the run. -/
abbrev Guarded (G : σ → ε → Prop) (s : σ) (es : List ε) : Prop := Each step (fun s e _ => G s e) s es

/-- A state with `T` can be reached. -/
def CanReach (T : σ → Prop) (s : σ) : Prop := ∃ es, ∃ t ∈ run step s es, T t

variable {step} {P P' : σ → Prop} {Q Q' : σ → ε → σ → Prop} {G : σ → ε → Prop} {s t : σ} {e : ε} {es es' : List ε}

@[simp] theorem run_nil : run step s [] = some s := rfl

@[simp] theorem run_cons : run step s (e :: es) = (step s e).bind fun t => run step t es := rfl

@[simp] theorem along_nil : Along step P s [] ↔ P s := Iff.rfl

@[simp] theorem each_nil : Each step Q s [] ↔ True := Iff.rfl

theorem along_cons (h : step s e = some t) : Along step P s (e :: es) ↔ P s ∧ Along step P t es := by
  simp [Along, h]

theorem each_cons (h : step s e = some t) : Each step Q s (e :: es) ↔ Q s e t ∧ Each step Q t es := by
  simp [Each, h]

theorem Along.head (h : Along step P s es) : P s := by
  cases es with
  | nil => exact h
  | cons e es => exact h.1

theorem run_append : run step s (es ++ es') = (run step s es).bind fun t => run step t es' := by
  induction es generalizing s with
  | nil => rfl
  | cons e es ih =>
    simp only [List.cons_append, run_cons]
    cases step s e with
    | none => rfl
    | some t => simpa using ih

/-- What holds along a run holds in the state after each of its prefixes, and conversely. -/
theorem along_iff_prefix : Along step P s es ↔ ∀ p, p <+: es → ∀ t ∈ run step s p, P t := by
  induction es generalizing s with
  | nil =>
    refine ⟨fun h p hp t ht => ?_, fun h => h [] (List.prefix_refl _) s rfl⟩
    obtain rfl := List.prefix_nil.mp hp
    cases ht
    exact h
  | cons e es ih =>
    refine ⟨fun h p hp t ht => ?_, fun h => ⟨h [] (List.nil_prefix) s rfl, fun t ht => ?_⟩⟩
    · cases p with
      | nil => cases ht; exact h.1
      | cons e' p =>
        obtain ⟨rfl, hpre⟩ := List.cons_prefix_cons.mp hp
        obtain ⟨u, hu, htu⟩ := Option.bind_eq_some_iff.mp ht
        exact ih.mp (h.2 u hu) p hpre t htu
    · refine ih.mpr fun p hp u hu => h (e :: p) (List.cons_prefix_cons.mpr ⟨rfl, hp⟩) u ?_
      exact Option.bind_eq_some_iff.mpr ⟨t, ht, hu⟩

theorem Along.mono (h : Along step P s es) (hP : ∀ s, P s → P' s) : Along step P' s es := by
  induction es generalizing s with
  | nil => exact hP s h
  | cons e es ih => exact ⟨hP s h.1, fun t ht => ih (h.2 t ht)⟩

theorem invariant_run {I : σ → Prop} (keep : ∀ s e t, I s → step s e = some t → I t) (h0 : I s)
    (h : run step s es = some t) : I t := by
  induction es generalizing s with
  | nil =>
    cases h
    exact h0
  | cons e es ih =>
    obtain ⟨u, hu, h⟩ := Option.bind_eq_some_iff.mp h
    exact ih (keep s e u h0 hu) h

/-- The step rule: an invariant that each guarded step keeps holds along a guarded run. -/
theorem along_of_guarded {I : σ → Prop} (keep : ∀ s e t, I s → step s e = some t → G s e → I t) (h0 : I s)
    (hg : Guarded step G s es) : Along step I s es := by
  induction es generalizing s with
  | nil => exact h0
  | cons e es ih => exact ⟨h0, fun t ht => ih (keep s e t h0 ht (hg t ht).1) (hg t ht).2⟩

/-- The same for a property of the steps that the invariant and the guard give together. -/
theorem each_of_guarded {I : σ → Prop} (keep : ∀ s e t, I s → step s e = some t → G s e → I t)
    (gives : ∀ s e t, I s → step s e = some t → G s e → Q s e t) (h0 : I s) (hg : Guarded step G s es) :
    Each step Q s es := by
  induction es generalizing s with
  | nil => trivial
  | cons e es ih =>
    intro t ht
    exact ⟨gives s e t h0 ht (hg t ht).1, ih (keep s e t h0 ht (hg t ht).1) (hg t ht).2⟩

/-- What every step from a state with the invariant satisfies. -/
theorem each_of_invariant {I : σ → Prop} (keep : ∀ s e t, I s → step s e = some t → I t)
    (gives : ∀ s e t, I s → step s e = some t → Q s e t) (h0 : I s) : Each step Q s es := by
  induction es generalizing s with
  | nil => trivial
  | cons e es ih =>
    intro t ht
    exact ⟨gives s e t h0 ht, ih (keep s e t h0 ht)⟩

/-- The guard is the exact condition for `P`: under the invariant a step that meets it keeps the
    invariant, and a step into a state with `P` meets it. -/
theorem along_iff_guarded {I : σ → Prop} (holds : ∀ s, I s → P s)
    (keep : ∀ s e t, I s → step s e = some t → G s e → I t)
    (only : ∀ s e t, I s → step s e = some t → P t → G s e) (h0 : I s) :
    Along step P s es ↔ Guarded step G s es := by
  refine ⟨fun h => ?_, fun hg => (along_of_guarded keep h0 hg).mono holds⟩
  induction es generalizing s with
  | nil => trivial
  | cons e es ih =>
    intro t ht
    have hG : G s e := only s e t h0 ht (h.2 t ht).head
    exact ⟨hG, ih (keep s e t h0 ht hG) (h.2 t ht)⟩

/-- The same for a property of the steps: under the invariant the guard is what it comes to. -/
theorem each_iff_guarded {I : σ → Prop} (keep : ∀ s e t, I s → step s e = some t → G s e → I t)
    (gives : ∀ s e t, I s → step s e = some t → (Q s e t ↔ G s e)) (h0 : I s) :
    Each step Q s es ↔ Guarded step G s es := by
  induction es generalizing s with
  | nil => exact Iff.rfl
  | cons e es ih =>
    refine forall₂_congr fun t ht => ?_
    rw [gives s e t h0 ht]
    exact and_congr_right fun hg => ih (keep s e t h0 ht hg)

/-- A guarded run goes on, from any point, with events that the guard always allows. -/
theorem guarded_append {C : ε → Prop} (closing : ∀ s e, C e → G s e) (h : Guarded step G s es) {p bs : List ε}
    (hp : p <+: es) (hbs : ∀ b ∈ bs, C b) : Guarded step G s (p ++ bs) := by
  induction p generalizing s es with
  | nil =>
    clear h hp
    induction bs generalizing s with
    | nil => trivial
    | cons b bs ih =>
      exact fun t _ => ⟨closing s b (hbs b List.mem_cons_self), ih fun b hb => hbs b (List.mem_cons_of_mem _ hb)⟩
  | cons e p ih =>
    cases es with
    | nil => cases List.prefix_nil.mp hp
    | cons e' es =>
      obtain ⟨rfl, hpre⟩ := List.cons_prefix_cons.mp hp
      exact fun t ht => ⟨(h t ht).1, ih (h t ht).2 hpre⟩

/-- The guard is the exact condition where a step that fails it goes wrong only later: every run that leaves
    `es` at some point to go on with the closing events `C` satisfies `Q`. -/
theorem each_closed_iff_guarded {C : ε → Prop} {I : σ → Prop}
    (keep : ∀ s e t, I s → step s e = some t → G s e → I t)
    (gives : ∀ s e t, I s → step s e = some t → G s e → Q s e t) (closing : ∀ s e, C e → G s e)
    (only : ∀ s e t, I s → step s e = some t → ¬ G s e → ∃ bs, (∀ b ∈ bs, C b) ∧ ¬ Each step Q s (e :: bs)) (h0 : I s) :
    (∀ p, p <+: es → ∀ bs, (∀ b ∈ bs, C b) → Each step Q s (p ++ bs)) ↔ Guarded step G s es := by
  refine ⟨fun h => ?_, fun h p hp bs hbs => each_of_guarded keep gives h0 (guarded_append closing h hp hbs)⟩
  induction es generalizing s with
  | nil => trivial
  | cons e es ih =>
    intro t ht
    have hG : G s e := by
      by_contra hG
      obtain ⟨bs, hbs, hnot⟩ := only s e t h0 ht hG
      exact hnot (h [e] (List.cons_prefix_cons.mpr ⟨rfl, List.nil_prefix⟩) bs hbs)
    refine ⟨hG, ih (keep s e t h0 ht hG) fun p hp bs hbs => ?_⟩
    exact (h (e :: p) (List.cons_prefix_cons.mpr ⟨rfl, hp⟩) bs hbs t ht).2

theorem canReach_here (h : P s) : CanReach step P s := ⟨[], s, rfl, h⟩

theorem canReach_step (ht : step s e = some t) (h : CanReach step P t) : CanReach step P s := by
  obtain ⟨es, u, hu, hP⟩ := h
  exact ⟨e :: es, u, Option.bind_eq_some_iff.mpr ⟨t, ht, hu⟩, hP⟩

/-- What the steps do not leave, and what has no state of `P`. -/
theorem not_canReach_of_trap {K : σ → Prop} (closed : ∀ s e t, K s → step s e = some t → K t) (avoids : ∀ s, K s → ¬ P s)
    (h : K s) : ¬ CanReach step P s := by
  rintro ⟨es, t, ht, hP⟩
  exact avoids t (invariant_run closed h ht) hP

/-- The guard is the exact condition for `P` to stay in reach: a step that fails it ends in a trap. -/
theorem along_canReach_iff_guarded {I K : σ → Prop} (reach : ∀ s, I s → CanReach step P s)
    (keep : ∀ s e t, I s → step s e = some t → G s e → I t)
    (trapped : ∀ s e t, I s → step s e = some t → ¬ G s e → K t)
    (closed : ∀ s e t, K s → step s e = some t → K t) (avoids : ∀ s, K s → ¬ P s) (h0 : I s) :
    Along step (CanReach step P) s es ↔ Guarded step G s es := by
  refine along_iff_guarded reach keep (fun s e t h ht hreach => ?_) h0
  by_contra hG
  exact not_canReach_of_trap closed avoids (trapped s e t h ht hG) hreach

instance decAlong [DecidablePred P] : (s : σ) → (es : List ε) → Decidable (Along step P s es)
  | s, [] => inferInstanceAs (Decidable (P s))
  | s, e :: es =>
    match h : step s e with
    | none => decidable_of_iff (P s) (by simp [Along, h])
    | some t => @decidable_of_iff _ (P s ∧ Along step P t es) (by simp [Along, h])
        (@instDecidableAnd _ _ _ (decAlong t es))

instance decEach [∀ s e t, Decidable (Q s e t)] : (s : σ) → (es : List ε) → Decidable (Each step Q s es)
  | _, [] => isTrue trivial
  | s, e :: es =>
    match h : step s e with
    | none => isTrue (by simp [Each, h])
    | some t => @decidable_of_iff _ (Q s e t ∧ Each step Q t es) (by simp [Each, h])
        (@instDecidableAnd _ _ _ (decEach t es))

end Runs
