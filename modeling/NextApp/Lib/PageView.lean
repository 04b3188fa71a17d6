/-! # Pages built around the current one

A view of several pages one step apart that keeps built exactly the pages within one of the current page. A
move of one page forth or back builds at most one page and drops at most one. -/

namespace PageView

def Mounted (current page : Nat) : Prop := current ≤ page + 1 ∧ page ≤ current + 1

instance (current page : Nat) : Decidable (Mounted current page) := inferInstanceAs (Decidable (_ ∧ _))

def Mounts (current next page : Nat) : Prop := ¬ Mounted current page ∧ Mounted next page

instance (current next page : Nat) : Decidable (Mounts current next page) := inferInstanceAs (Decidable (_ ∧ _))

def Unmounts (current next page : Nat) : Prop := Mounted current page ∧ ¬ Mounted next page

instance (current next page : Nat) : Decidable (Unmounts current next page) := inferInstanceAs (Decidable (_ ∧ _))

variable {current page : Nat}

theorem unmounts_forth : Unmounts current (current + 1) page ↔ page + 1 = current := by
  simp only [Unmounts, Mounted]
  omega

theorem unmounts_back : Unmounts (current + 1) current page ↔ page = current + 2 := by
  simp only [Unmounts, Mounted]
  omega

end PageView
