import Mathlib.Tactic.TypeStar
import Mathlib.Tactic.ByContra
import NextApp.Lib.Outcome

/-! # Well-nested calls over one saved slot

A flow is a well-nested sequence of acts and calls: a call enters, runs its body and leaves. `Restores`
says that every call leaves normally and with the view it was entered with. When entering saves the view
in one slot, overwriting what was there, and leaving takes it back and empties the slot, that is so
exactly for the flows without a call inside a call. -/

/-- A well-nested sequence of acts and of calls with a body. -/
inductive NestedCalls (α β : Type*) where
  | done
  | act (a : α) (rest : NestedCalls α β)
  | call (b : β) (body rest : NestedCalls α β)

namespace NestedCalls
variable {α β σ φ : Type*}

def Flat : NestedCalls α β → Prop
  | done => True
  | act _ rest => rest.Flat
  | call _ _ _ => False

def Unnested : NestedCalls α β → Prop
  | done => True
  | act _ rest => rest.Unnested
  | call _ body rest => body.Flat ∧ rest.Unnested

/-- What a flow does to a state: its acts, how a call is entered, how it is left. -/
structure Semantics (α β σ φ : Type*) where
  act : α → σ → σ
  enter : β → σ → σ
  leave : σ → Outcome σ
  view : σ → φ

/-- The state a flow leaves. A leave that throws keeps what it has written. -/
def run (c : Semantics α β σ φ) : NestedCalls α β → σ → σ
  | done, s => s
  | act a rest, s => rest.run c (c.act a s)
  | call b body rest, s => rest.run c (c.leave (body.run c (c.enter b s))).state

/-- Every call leaves normally, with the view it was entered with. -/
def Restores (c : Semantics α β σ φ) : NestedCalls α β → σ → Prop
  | done, _ => True
  | act a rest, s => rest.Restores c (c.act a s)
  | call b body rest, s =>
    body.Restores c (c.enter b s) ∧
      (∃ t, c.leave (body.run c (c.enter b s)) = .done t ∧ c.view t = c.view s) ∧
      rest.Restores c (c.leave (body.run c (c.enter b s))).state

theorem Flat.restores {c : Semantics α β σ φ} {f : NestedCalls α β} (hf : f.Flat) (s : σ) : f.Restores c s := by
  induction f generalizing s with
  | done => trivial
  | act a rest ih => exact ih hf _
  | call b body rest _ _ => exact hf.elim

/-- Calls save the view in one slot. -/
structure SavesInSlot (c : Semantics α β σ φ) (slot : σ → Option φ) : Prop where
  act_slot : ∀ a s, slot (c.act a s) = slot s
  enter_slot : ∀ b s, slot (c.enter b s) = some (c.view s)
  leave_some : ∀ s v, slot s = some v → ∃ t, c.leave s = .done t ∧ c.view t = v ∧ slot t = none
  leave_none : ∀ s, slot s = none → ∃ t, c.leave s = .threw t ∧ slot t = none

namespace SavesInSlot
variable {c : Semantics α β σ φ} {slot : σ → Option φ} (h : SavesInSlot c slot)
include h

theorem leave_slot (s : σ) : slot (c.leave s).state = none := by
  cases hs : slot s with
  | none =>
    obtain ⟨t, ht, hslot⟩ := h.leave_none s hs
    rw [ht]
    exact hslot
  | some v =>
    obtain ⟨t, ht, -, hslot⟩ := h.leave_some s v hs
    rw [ht]
    exact hslot

theorem run_flat {f : NestedCalls α β} (hf : f.Flat) (s : σ) : slot (f.run c s) = slot s := by
  induction f generalizing s with
  | done => rfl
  | act a rest ih => exact (ih hf _).trans (h.act_slot a s)
  | call b body rest _ _ => exact hf.elim

/-- Once a call has been left the slot is empty, whatever comes after it. -/
theorem run_slot_none {f : NestedCalls α β} (s : σ) (hs : slot s = none) : slot (f.run c s) = none := by
  induction f generalizing s with
  | done => exact hs
  | act a rest ih => exact ih _ ((h.act_slot a s).trans hs)
  | call b body rest _ ih => exact ih _ (h.leave_slot _)

theorem run_not_flat {f : NestedCalls α β} (hf : ¬ f.Flat) (s : σ) : slot (f.run c s) = none := by
  induction f generalizing s with
  | done => exact absurd trivial hf
  | act a rest ih => exact ih hf _
  | call b body rest _ _ => exact h.run_slot_none (f := rest) _ (h.leave_slot _)

/-- A leave restores the view exactly when the body of its call makes no call itself. -/
theorem leave_restores_iff (b : β) (body : NestedCalls α β) (s : σ) :
    (∃ t, c.leave (body.run c (c.enter b s)) = .done t ∧ c.view t = c.view s) ↔ body.Flat := by
  constructor
  · rintro ⟨t, ht, -⟩
    by_contra hbody
    obtain ⟨t', ht', -⟩ := h.leave_none _ (h.run_not_flat hbody (c.enter b s))
    rw [ht'] at ht
    cases ht
  · intro hbody
    have hslot := (h.run_flat hbody (c.enter b s)).trans (h.enter_slot b s)
    obtain ⟨t, ht, hview, -⟩ := h.leave_some _ _ hslot
    exact ⟨t, ht, hview⟩

theorem restores_iff (f : NestedCalls α β) (s : σ) : f.Restores c s ↔ f.Unnested := by
  induction f generalizing s with
  | done => exact Iff.rfl
  | act a rest ih => exact ih _
  | call b body rest _ ih =>
    have hleave := h.leave_restores_iff b body s
    constructor
    · rintro ⟨-, hview, hrest⟩
      exact ⟨hleave.mp hview, (ih _).mp hrest⟩
    · rintro ⟨hbody, hrest⟩
      exact ⟨hbody.restores _, hleave.mpr hbody, (ih _).mpr hrest⟩

end SavesInSlot
end NestedCalls
