import Mathlib.Data.List.Basic
import Mathlib.Data.List.Nodup
import Mathlib.Data.List.Perm.Basic
import Mathlib.Tactic.TypeStar

/-! # Routes that calls have put up

A stack of numbered routes, the top one first, and the calls that run over it. A call has put up the routes on top, `own` of
its kind; it runs in the context of the route that lies `depth` below the top, and does nothing more once that route is gone. -/

structure Overlays (ρ κ : Type*) where
  routes : List (Nat × ρ) := []
  opened : Nat := 0
  calls : List (κ × Nat) := []
deriving DecidableEq

namespace Overlays
variable {ρ κ : Type*}

def push (s : Overlays ρ κ) (route : ρ) : Overlays ρ κ :=
  { s with routes := (s.opened, route) :: s.routes, opened := s.opened + 1 }

def drop (s : Overlays ρ κ) (n : Nat) : Overlays ρ κ := { s with routes := s.routes.drop n }

def start (s : Overlays ρ κ) (call : κ) (context : Nat) : Overlays ρ κ := { s with calls := s.calls ++ [(call, context)] }

/-- A call in the context of the route that lies so far below the top. -/
def startAt (s : Overlays ρ κ) (call : κ) (depth : Nat) : Overlays ρ κ :=
  match s.routes[depth]? with
  | some (context, _) => s.start call context
  | none => s

def endCall (s : Overlays ρ κ) (index : Nat) : Overlays ρ κ := { s with calls := s.calls.eraseIdx index }

def shown (s : Overlays ρ κ) : List ρ := s.routes.map Prod.snd

def Mounted (s : Overlays ρ κ) (context : Nat) : Prop := context ∈ s.routes.map Prod.fst

instance (s : Overlays ρ κ) (context : Nat) : Decidable (s.Mounted context) := inferInstanceAs (Decidable (_ ∈ _))

section
variable (own : κ → List ρ) (depth : κ → Nat)

/-- The call has routes up, and its context is still there. -/
def Busy (s : Overlays ρ κ) (c : κ × Nat) : Prop := own c.1 ≠ [] ∧ s.Mounted c.2

def Idle (s : Overlays ρ κ) : Prop := ∀ c ∈ s.calls, ¬ s.Busy own c

/-- Busy calls have their routes on top. Several are busy only if the route on top is the context of them all. -/
structure Owned (s : Overlays ρ κ) : Prop where
  below : ∀ n, s.Mounted n → n < s.opened
  nodup : (s.routes.map Prod.fst).Nodup
  context : ∀ c ∈ s.calls, c.2 < s.opened
  owns : ∀ c ∈ s.calls, s.Busy own c → own c.1 <+: s.shown ∧ (s.routes[depth c.1]?).map Prod.fst = some c.2
  apart : s.calls.Pairwise fun a b => s.Busy own a → s.Busy own b → depth a.1 = 0 ∧ depth b.1 = 0

end

variable {own : κ → List ρ} {depth : κ → Nat} {s : Overlays ρ κ} {route : ρ} {call : κ} {context index n : Nat}
  {c : κ × Nat}

@[simp] theorem shown_push : (s.push route).shown = route :: s.shown := rfl
@[simp] theorem shown_drop : (s.drop n).shown = s.shown.drop n := List.map_drop
@[simp] theorem shown_start : (s.start call context).shown = s.shown := rfl
@[simp] theorem shown_startAt : (s.startAt call n).shown = s.shown := by
  rw [startAt]
  split <;> rfl

@[simp] theorem shown_endCall : (s.endCall index).shown = s.shown := rfl

theorem Mounted.of_drop (h : (s.drop n).Mounted context) : s.Mounted context := by
  rw [Mounted, drop, List.map_drop] at h
  exact List.mem_of_mem_drop h

theorem mounted_push : (s.push route).Mounted context ↔ context = s.opened ∨ s.Mounted context := by
  simp [Mounted, push]

/-- A call that was not busy is not made so by a route that is put up. -/
theorem Busy.of_push (hcontext : c.2 < s.opened) (h : (s.push route).Busy own c) : s.Busy own c :=
  ⟨h.1, (mounted_push.mp h.2).resolve_left (Nat.ne_of_lt hcontext)⟩

theorem Busy.of_drop (h : (s.drop n).Busy own c) : s.Busy own c := ⟨h.1, h.2.of_drop⟩

theorem owned_of_idle (hbelow : ∀ n, s.Mounted n → n < s.opened) (hnodup : (s.routes.map Prod.fst).Nodup)
    (hcontext : ∀ c ∈ s.calls, c.2 < s.opened) (h : s.Idle own) : s.Owned own depth where
  below := hbelow
  nodup := hnodup
  context := hcontext
  owns c hc hbusy := absurd hbusy (h c hc)
  apart := List.pairwise_of_forall_mem_list fun a ha _ _ hbusy => absurd hbusy (h a ha)

theorem Owned.idle_push (h : s.Owned own depth) (hidle : s.Idle own) : (s.push route).Idle own :=
  fun c hc hbusy => hidle c hc (hbusy.of_push (h.context c hc))

theorem Owned.push (h : s.Owned own depth) (hidle : s.Idle own) : (s.push route).Owned own depth := by
  refine owned_of_idle (fun n hn => ?_) ?_ (fun c hc => Nat.lt_succ_of_lt (h.context c hc)) (h.idle_push hidle)
  · rcases mounted_push.mp hn with rfl | hn
    · exact Nat.lt_succ_self _
    · exact Nat.lt_succ_of_lt (h.below n hn)
  · exact List.nodup_cons.mpr ⟨fun hmem => Nat.lt_irrefl _ (h.below _ hmem), h.nodup⟩

theorem Idle.drop (hidle : s.Idle own) : (s.drop n).Idle own := fun c hc hbusy => hidle c hc hbusy.of_drop

theorem Owned.drop (h : s.Owned own depth) (hidle : (s.drop n).Idle own) : (s.drop n).Owned own depth := by
  refine owned_of_idle (fun n hn => h.below n hn.of_drop) ?_ h.context hidle
  rw [Overlays.drop, List.map_drop]
  exact h.nodup.sublist (List.drop_sublist _ _)

/-- A call that starts with its routes on top. Others may be busy only over the same route on top. -/
theorem Owned.start (h : s.Owned own depth) (hothers : ∀ c ∈ s.calls, s.Busy own c → depth c.1 = 0 ∧ depth call = 0)
    (hown : own call <+: s.shown) (hcontext : (s.routes[depth call]?).map Prod.fst = some context) :
    (s.start call context).Owned own depth := by
  have hmounted : s.Mounted context := by
    obtain ⟨r, hr, rfl⟩ := Option.map_eq_some_iff.mp hcontext
    exact List.mem_map_of_mem (List.mem_of_getElem? hr)
  refine ⟨h.below, h.nodup, ?_, ?_, List.pairwise_append.mpr ⟨h.apart, List.pairwise_singleton _ _, ?_⟩⟩
  · intro c hc
    rcases List.mem_append.mp hc with hc | hc
    · exact h.context c hc
    · obtain rfl := List.mem_singleton.mp hc
      exact h.below _ hmounted
  · intro c hc hbusy
    rcases List.mem_append.mp hc with hc | hc
    · exact h.owns c hc hbusy
    · obtain rfl := List.mem_singleton.mp hc
      exact ⟨hown, hcontext⟩
  · intro a ha b hb hbusy _
    obtain rfl := List.mem_singleton.mp hb
    exact hothers a ha hbusy

theorem Owned.startAt (h : s.Owned own depth) (hothers : ∀ c ∈ s.calls, s.Busy own c → depth c.1 = 0 ∧ depth call = 0)
    (hown : own call <+: s.shown) : (s.startAt call (depth call)).Owned own depth := by
  rw [Overlays.startAt]
  split
  · next context route hcontext => exact h.start hothers hown (by rw [hcontext, Option.map_some])
  · exact h

theorem Owned.endCall (h : s.Owned own depth) : (s.endCall index).Owned own depth where
  below := h.below
  nodup := h.nodup
  context c hc := h.context c (List.mem_of_mem_eraseIdx hc)
  owns c hc hbusy := h.owns c (List.mem_of_mem_eraseIdx hc) hbusy
  apart := h.apart.sublist (List.eraseIdx_sublist _ _)

/-- The top route is the context of no call once it is taken down. -/
theorem Owned.not_busy_drop (h : s.Owned own depth) (hc : c ∈ s.calls) (hdepth : depth c.1 = 0) (hn : 0 < n) :
    ¬ (s.drop n).Busy own c := by
  intro hbusy
  obtain ⟨-, htop⟩ := h.owns c hc hbusy.of_drop
  rw [hdepth] at htop
  obtain ⟨r, hr, hcontext⟩ := Option.map_eq_some_iff.mp htop
  have hmem : r.1 ∈ (s.routes.map Prod.fst).drop n := by
    rw [hcontext, ← List.map_drop]
    exact hbusy.2
  obtain ⟨rest, hrest⟩ : ∃ rest, s.routes = r :: rest := by
    rw [← List.head?_eq_getElem?] at hr
    exact ⟨_, (List.cons_head?_tail hr).symm⟩
  have hnodup := h.nodup
  rw [hrest, List.map_cons] at hnodup hmem
  obtain ⟨m, rfl⟩ := Nat.exists_eq_succ_of_ne_zero (Nat.pos_iff_ne_zero.mp hn)
  exact (List.nodup_cons.mp hnodup).1 (List.mem_of_mem_drop hmem)

/-- What is busy beside a busy call. -/
theorem Owned.others {b : κ × Nat} (h : s.Owned own depth) (hc : s.calls[index]? = some c) (hbusy : s.Busy own c)
    (hb : b ∈ (s.endCall index).calls) (hbusy' : s.Busy own b) : depth c.1 = 0 ∧ depth b.1 = 0 := by
  obtain ⟨hlt, rfl⟩ := List.getElem?_eq_some_iff.mp hc
  have hpair := ((List.getElem_cons_eraseIdx_perm hlt).pairwise_iff fun hab hb ha => (hab ha hb).symm).mpr h.apart
  exact (List.pairwise_cons.mp hpair).1 b hb hbusy hbusy'

theorem Owned.idle_endCall (h : s.Owned own depth) (hc : s.calls[index]? = some c) (hbusy : s.Busy own c)
    (hdepth : depth c.1 ≠ 0) : (s.endCall index).Idle own :=
  fun _ hb hbusy' => hdepth (h.others hc hbusy hb hbusy').1

/-- Where one busy call ends and takes down what it has put up, no other is busy any more. -/
theorem Owned.idle_end (h : s.Owned own depth) (hc : s.calls[index]? = some c) (hbusy : s.Busy own c) (hn : 0 < n) :
    ((s.endCall index).drop n).Idle own :=
  fun _ hb hbusy' => h.endCall.not_busy_drop hb (h.others hc hbusy hb hbusy'.of_drop).2 hn hbusy'

end Overlays
