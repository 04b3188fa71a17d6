import NextApp.Model.LinkField

/-! # What the field of a link shows

Once it has been picked in, a field shows its pick whatever the form stores; and what it shows can be cleared without the
value. -/

namespace NextApp.LinkField
open Runs

/-- The text of the field, once the updates that are due have run. -/
def shown (s : LinkField) : String := if s.field.updates = 0 then s.field.text else s.field.initialValue.getD ""

def Right (s : LinkField) : Prop := s.shown = s.data.getD ""

instance (s : LinkField) : Decidable s.Right := inferInstanceAs (Decidable (_ = _))

/-- A pick is stored at once; the text is cleared only where it is empty, or is written anew right after; and the form
    stores another value only while nothing has been picked, or stores the pick. -/
def Guard (s : LinkField) : LinkEvent → Prop
  | .pick name awaits _ => awaits → s.data.getD "" = name
  | .clear => s.data.getD "" = "" ∨ s.field.updates ≠ 0
  | .change value => ∀ name ∈ s.selectedValue, value.getD "" = name
  | .rebuild _ | .update => True

/-- The value is the one that is shown: the last pick, or else the one that the form has passed on. -/
structure Inv (s : LinkField) : Prop where
  right : s.Right
  initialValue : s.field.initialValue = s.selectedValue.or s.defaultValue
  picked : ∀ name ∈ s.selectedValue, s.data.getD "" = name
  passed : s.selectedValue = none → s.defaultValue = s.data

variable {s t : LinkField} {e : LinkEvent} {data initial : Option String}

theorem Inv.initialValue_getD (h : Inv s) : s.field.initialValue.getD "" = s.data.getD "" := by
  rw [h.initialValue]
  cases hs : s.selectedValue with
  | none => rw [Option.none_or, h.passed hs]
  | some name => exact (h.picked name hs).symm

/-- A build shows its `initialValue`, unless that is as it was: then it shows what it did. -/
theorem shown_build (form : Bool) :
    (s.build form).shown = if s.field.initialValue = (s.build form).field.initialValue then s.shown
      else (s.build form).field.initialValue.getD "" := by
  generalize hinitial : (s.build form).field.initialValue = initial
  have hbuild : (s.build form).field = s.field.didUpdateWidget initial := by
    rw [← hinitial]
    rfl
  simp only [shown, hbuild, LinkText.didUpdateWidget]
  by_cases hsame : s.field.initialValue = initial
  · simp [hsame]
  · rw [if_neg hsame]
    by_cases htext : initial = some s.field.text
    · simp [htext]
    · simp [hsame, htext]

theorem shown_build_of_shown (form : Bool) (h : s.shown = s.field.initialValue.getD "") :
    (s.build form).shown = (s.selectedValue.or (if form then s.data else s.defaultValue)).getD "" := by
  rw [shown_build]
  split
  · next hsame =>
    rw [h, hsame]
    rfl
  · rfl

theorem Inv.shown_eq (h : Inv s) : s.shown = s.field.initialValue.getD "" := h.right.trans h.initialValue_getD.symm

theorem inv_build (form : Bool) (h : s.shown = s.field.initialValue.getD "")
    (hpicked : ∀ name ∈ s.selectedValue, s.data.getD "" = name)
    (hpassed : s.selectedValue = none → (if form then s.data else s.defaultValue) = s.data) : Inv (s.build form) where
  right := by
    rw [Right, shown_build_of_shown form h]
    cases hs : s.selectedValue with
    | none => exact congrArg (Option.getD · "") (hpassed hs)
    | some name => exact (hpicked name hs).symm
  initialValue := rfl
  picked := hpicked
  passed := hpassed

theorem inv_mounted (data : Option String) : Inv (mounted data) where
  right := rfl
  initialValue := rfl
  picked _ h := absurd h (Option.not_mem_none _)
  passed _ := rfl

/-! ### The events -/

theorem shown_clear : ({ s with field := s.field.clear } : LinkField).shown = if s.field.updates = 0 then "" else s.shown := by
  by_cases h : s.field.updates = 0 <;> simp [shown, LinkText.clear, h]

theorem inv_update (h : Inv s) : Inv { s with field := s.field.update } where
  right := by
    have hshown : ({ s with field := s.field.update } : LinkField).shown = s.field.initialValue.getD "" := by
      rw [shown]
      split <;> rfl
    rw [Right, hshown]
    exact h.initialValue_getD
  initialValue := h.initialValue
  picked := h.picked
  passed := h.passed

theorem inv_step (h : Inv s) (hs : s.step e = some t) (hg : s.Guard e) : Inv t := by
  cases e with
  | pick name awaits setState =>
    cases hs
    refine inv_build _ h.shown_eq ?_ fun hnone => by cases hnone
    intro picked hpicked
    cases hpicked
    cases awaits with
    | false => rfl
    | true => exact hg rfl
  | clear =>
    cases hs
    refine ⟨?_, h.initialValue, h.picked, h.passed⟩
    rw [Right, shown_clear]
    rcases hg with hempty | hdue
    · split
      · exact hempty.symm
      · exact h.right
    · rw [if_neg hdue]
      exact h.right
  | change value =>
    cases hs
    exact inv_build true h.shown_eq hg fun _ => rfl
  | rebuild form =>
    cases hs
    refine inv_build form h.shown_eq h.picked fun hnone => ?_
    split
    · rfl
    · exact h.passed hnone
  | update =>
    obtain ⟨-, hs⟩ := Option.ite_none_right_eq_some.mp hs
    cases hs
    exact inv_update h

theorem guard_of_right (h : Inv s) (hs : s.step e = some t) (ht : t.Right) : s.Guard e := by
  cases e with
  | pick name awaits setState =>
    cases hs
    rintro rfl
    have hshown := shown_build_of_shown (s := { s with selectedValue := some name }) (setState && !true) h.shown_eq
    exact ht.symm.trans hshown
  | clear =>
    cases hs
    rw [Right, shown_clear] at ht
    by_cases hdue : s.field.updates = 0
    · rw [if_pos hdue] at ht
      exact Or.inl ht.symm
    · exact Or.inr hdue
  | change value =>
    cases hs
    intro name hname
    have hshown := shown_build_of_shown (s := { s with data := value }) true h.shown_eq
    have hpick : s.selectedValue.or value = some name := by rw [Option.mem_def.mp hname, Option.some_or]
    exact ht.symm.trans (hshown.trans (congrArg (Option.getD · "") hpick))
  | rebuild form => trivial
  | update => trivial

/-- Through every sequence of picks, presses of the clear button, values stored by others, builds and updates the field
    shows the value in the data exactly when every pick is stored at once, the text is only cleared where it is empty or
    comes back, and no other value is stored after a pick. -/
theorem shown_run_iff (data : Option String) (es : List LinkEvent) :
    Along step Right (mounted data) es ↔ Guarded step Guard (mounted data) es :=
  along_iff_guarded (fun _ h => h.right) (fun _ _ _ => inv_step) (fun _ _ _ => guard_of_right) (inv_mounted data)

/-- A supplier's address is picked and another supplier takes it away; and an address is cleared. -/
theorem address_shown_after_change :
    ¬ Along step Right (mounted none) [.pick "Office" false true, .change none] ∧
      ¬ Along step Right (mounted (some "Office")) [.clear, .rebuild true] := by
  decide

end NextApp.LinkField
