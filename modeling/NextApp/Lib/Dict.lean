import Mathlib.Data.List.Basic

/-! # Insertion-ordered maps

Maps with distinct keys as lists of entries: writing a present key keeps its place, writing a new one
appends it. -/

abbrev Dict (κ ν : Type*) := List (κ × ν)

namespace Dict
variable {κ ν : Type*} [DecidableEq κ]

def get? (d : Dict κ ν) (k : κ) : Option ν :=
  match d with
  | [] => none
  | e :: d => if e.1 = k then some e.2 else get? d k

def set (d : Dict κ ν) (k : κ) (v : ν) : Dict κ ν :=
  match d with
  | [] => [(k, v)]
  | e :: d => if e.1 = k then (k, v) :: d else e :: set d k v

def remove (d : Dict κ ν) (k : κ) : Dict κ ν := d.filter fun e => e.1 ≠ k

/-- `d.remove(k)` for one key after the other. -/
def removeAll (d : Dict κ ν) (ks : List κ) : Dict κ ν := ks.foldl remove d

/-- `d.addAll(d')`: the entries of `d'` are written one by one. -/
def addAll (d d' : Dict κ ν) : Dict κ ν := d'.foldl (fun d e => d.set e.1 e.2) d

/-- The map with `f` of each value. -/
def mapValues {μ : Type*} (f : ν → μ) (d : Dict κ ν) : Dict κ μ := d.map fun e => (e.1, f e.2)

variable {d d' : Dict κ ν} {k k' : κ} {v : ν}

@[simp] theorem get?_nil : get? ([] : Dict κ ν) k = none := rfl

@[simp] theorem get?_set_self : (d.set k v).get? k = some v := by
  induction d with
  | nil => simp [set, get?]
  | cons e d ih =>
    by_cases he : e.1 = k
    · simp [set, get?, he]
    · simp [set, get?, he, ih]

@[simp] theorem get?_set_ne (h : k ≠ k') : (d.set k v).get? k' = d.get? k' := by
  induction d with
  | nil => simp [set, get?, h]
  | cons e d ih =>
    by_cases he : e.1 = k
    · simp [set, get?, he, h]
    · rw [set, if_neg he]
      by_cases he' : e.1 = k' <;> simp [get?, he', ih]

@[simp] theorem set_ne_nil : d.set k v ≠ [] := by
  cases d with
  | nil => simp [set]
  | cons e d => by_cases he : e.1 = k <;> simp [set, he]

@[simp] theorem get?_remove_self : (d.remove k).get? k = none := by
  induction d with
  | nil => rfl
  | cons e d ih =>
    by_cases he : e.1 = k
    · simpa [remove, he] using ih
    · simpa [remove, he, get?] using ih

@[simp] theorem get?_remove_ne (h : k ≠ k') : (d.remove k).get? k' = d.get? k' := by
  induction d with
  | nil => rfl
  | cons e d ih =>
    by_cases he : e.1 = k
    · have he' : e.1 ≠ k' := fun h' => h (he.symm.trans h')
      simpa [remove, he, get?, he', h] using ih
    · have hcons : remove (e :: d) k = e :: remove d k := by simp [remove, he]
      rw [hcons]
      by_cases he' : e.1 = k' <;> simp [get?, he', ih]

@[simp] theorem get?_removeAll {ks : List κ} : (d.removeAll ks).get? k = if k ∈ ks then none else d.get? k := by
  induction ks generalizing d with
  | nil => rfl
  | cons k' ks ih =>
    rw [removeAll, List.foldl_cons, ← removeAll, ih]
    by_cases hk : k = k'
    · subst hk
      simp
    · simp [hk, get?_remove_ne (Ne.symm hk)]

theorem mem_of_get? (h : d.get? k = some v) : (k, v) ∈ d := by
  induction d with
  | nil => cases h
  | cons e d ih =>
    by_cases he : e.1 = k
    · obtain rfl : e.2 = v := by simpa [get?, he] using h
      exact List.mem_cons.mpr (Or.inl (by rw [← he]))
    · exact List.mem_cons_of_mem _ (ih (by simpa [get?, he] using h))

theorem mem_of_mem_removeAll {e : κ × ν} {ks : List κ} (h : e ∈ d.removeAll ks) : e ∈ d := by
  induction ks generalizing d with
  | nil => exact h
  | cons k ks ih => exact List.mem_of_mem_filter (ih h)

theorem remove_of_get? (h : d.get? k = none) : d.remove k = d := by
  induction d with
  | nil => rfl
  | cons e d ih =>
    by_cases he : e.1 = k
    · simp [get?, he] at h
    · have hcons : remove (e :: d) k = e :: remove d k := by simp [remove, he]
      rw [hcons, ih (by simpa [get?, he] using h)]

theorem set_of_get? (h : d.get? k = some v) : d.set k v = d := by
  induction d with
  | nil => cases h
  | cons e d ih =>
    obtain ⟨k', v'⟩ := e
    by_cases he : k' = k
    · obtain rfl : v' = v := by simpa [get?, he] using h
      simp [set, he]
    · simp [set, he, ih (by simpa [get?, he] using h)]

theorem get?_of_set_eq (h : d.set k v = d) : d.get? k = some v := by
  rw [← h]
  exact get?_set_self

section MapValues
variable {μ : Type*} {f : ν → μ}

@[simp] theorem get?_mapValues : (d.mapValues f).get? k = (d.get? k).map f := by
  induction d with
  | nil => rfl
  | cons e d ih =>
    have hcons : mapValues f (e :: d) = (e.1, f e.2) :: mapValues f d := rfl
    rw [hcons, get?, get?, ih]
    split <;> rfl

theorem mapValues_set : (d.set k v).mapValues f = (d.mapValues f).set k (f v) := by
  induction d with
  | nil => rfl
  | cons e d ih =>
    have hcons : mapValues f (e :: d) = (e.1, f e.2) :: mapValues f d := rfl
    rw [hcons, set, set, ← ih]
    split <;> rfl

/-- A write that `f` does not see. -/
theorem mapValues_set_eq_iff : (d.set k v).mapValues f = d.mapValues f ↔ (d.get? k).map f = some (f v) := by
  rw [mapValues_set, ← get?_mapValues]
  exact ⟨get?_of_set_eq, set_of_get?⟩

end MapValues

theorem get?_addAll_of_not_mem (h : k ∉ d'.map Prod.fst) : (d.addAll d').get? k = d.get? k := by
  induction d' generalizing d with
  | nil => rfl
  | cons e d' ih =>
    obtain ⟨hne, hrest⟩ := by simpa only [List.map_cons, List.mem_cons, not_or] using h
    exact (ih hrest).trans (get?_set_ne (Ne.symm hne))

theorem get?_addAll_of_keys {ks : List κ} (hk : k ∉ ks) (h : d'.all fun e => e.1 ∈ ks) : (d.addAll d').get? k = d.get? k := by
  refine get?_addAll_of_not_mem fun hmem => ?_
  obtain ⟨e, he, rfl⟩ := List.mem_map.mp hmem
  exact hk (by simpa using List.all_eq_true.mp h e he)

theorem get?_addAll_of_mem (hkeys : (d'.map Prod.fst).Nodup) (h : (k, v) ∈ d') : (d.addAll d').get? k = some v := by
  induction d' generalizing d with
  | nil => cases h
  | cons e d' ih =>
    obtain ⟨hnot, hkeys⟩ := List.nodup_cons.mp hkeys
    rcases List.mem_cons.mp h with rfl | h
    · exact (get?_addAll_of_not_mem hnot).trans get?_set_self
    · exact ih hkeys h

/-- What is written last is what counts. -/
theorem get?_addAll_congr {d₁ d₂ : Dict κ ν} (h : k ∈ d'.map Prod.fst ∨ d₁.get? k = d₂.get? k) :
    (d₁.addAll d').get? k = (d₂.addAll d').get? k := by
  induction d' generalizing d₁ d₂ with
  | nil => exact h.resolve_left List.not_mem_nil
  | cons e d' ih =>
    refine ih ?_
    change k ∈ d'.map Prod.fst ∨ (d₁.set e.1 e.2).get? k = (d₂.set e.1 e.2).get? k
    by_cases he : e.1 = k
    · right
      rw [he, get?_set_self, get?_set_self]
    · rw [get?_set_ne he, get?_set_ne he]
      rcases h with h | h
      · exact Or.inl ((List.mem_cons.mp h).resolve_left (Ne.symm he))
      · exact Or.inr h

theorem addAll_append {d'' : Dict κ ν} : d.addAll (d' ++ d'') = (d.addAll d').addAll d'' := List.foldl_append

/-- Entries that are written change nothing exactly when the map has them. -/
theorem get?_addAll_eq_iff (hkeys : (d'.map Prod.fst).Nodup) :
    (∀ k, (d.addAll d').get? k = d.get? k) ↔ ∀ e ∈ d', d.get? e.1 = some e.2 := by
  constructor
  · intro h e he
    rw [← h e.1]
    exact get?_addAll_of_mem hkeys he
  · intro h k
    by_cases hk : k ∈ d'.map Prod.fst
    · obtain ⟨e, he, rfl⟩ := List.mem_map.mp hk
      rw [h e he]
      exact get?_addAll_of_mem hkeys he
    · exact get?_addAll_of_not_mem hk

/-- Entries under other keys may be written in either order. -/
theorem get?_addAll_comm {d₁ d₂ : Dict κ ν} (h : ∀ e ∈ d₁, e.1 ∉ d₂.map Prod.fst) :
    ((d.addAll d₁).addAll d₂).get? k = ((d.addAll d₂).addAll d₁).get? k := by
  by_cases hk : k ∈ d₁.map Prod.fst
  · obtain ⟨e, he, rfl⟩ := List.mem_map.mp hk
    rw [get?_addAll_of_not_mem (h e he)]
    exact get?_addAll_congr (Or.inl hk)
  · rw [get?_addAll_of_not_mem hk]
    exact get?_addAll_congr (Or.inr (get?_addAll_of_not_mem hk))

/-! ### Equal as maps -/

theorem get?_of_not_mem (h : k ∉ d.map Prod.fst) : d.get? k = none := by
  induction d with
  | nil => rfl
  | cons e d ih =>
    rw [List.map_cons, List.mem_cons, not_or] at h
    rw [get?, if_neg (Ne.symm h.1), ih h.2]

/-- The same values under the same keys, in whatever order. -/
def Same (d d' : Dict κ ν) : Prop := ∀ k ∈ d.map Prod.fst ++ d'.map Prod.fst, d.get? k = d'.get? k

instance [DecidableEq ν] (d d' : Dict κ ν) : Decidable (d.Same d') := inferInstanceAs (Decidable (∀ k ∈ _, _ = _))

theorem same_iff : d.Same d' ↔ ∀ k, d.get? k = d'.get? k := by
  refine ⟨fun h k => ?_, fun h k _ => h k⟩
  by_cases hk : k ∈ d.map Prod.fst ++ d'.map Prod.fst
  · exact h k hk
  · rw [List.mem_append, not_or] at hk
    rw [get?_of_not_mem hk.1, get?_of_not_mem hk.2]

theorem Same.refl (d : Dict κ ν) : d.Same d := fun _ _ => rfl

theorem Same.symm (h : d.Same d') : d'.Same d := same_iff.mpr fun k => (same_iff.mp h k).symm

theorem Same.trans {d'' : Dict κ ν} (h : d.Same d') (h' : d'.Same d'') : d.Same d'' :=
  same_iff.mpr fun k => (same_iff.mp h k).trans (same_iff.mp h' k)

/-! ### Made key by key -/

/-- A value for the key of each `f`, in their order: none when there is none for one of them. -/
def collect {α : Type*} (key : α → κ) (value : α → Option ν) : List α → Option (Dict κ ν)
  | [] => some []
  | f :: fs => (value f).bind fun v => (collect key value fs).map ((key f, v) :: ·)

section
variable {α : Type*} {key : α → κ} {value : α → Option ν} {f : α} {fs : List α}

omit [DecidableEq κ] in
theorem collect_cons_eq_some : collect key value (f :: fs) = some d ↔
    ∃ v, value f = some v ∧ ∃ d', collect key value fs = some d' ∧ (key f, v) :: d' = d := by
  simp [collect, Option.bind_eq_some_iff]

omit [DecidableEq κ] in
theorem keys_collect (h : collect key value fs = some d) : d.map Prod.fst = fs.map key := by
  induction fs generalizing d with
  | nil =>
    cases h
    rfl
  | cons f fs ih =>
    obtain ⟨v, -, d', hd', rfl⟩ := collect_cons_eq_some.mp h
    rw [List.map_cons, List.map_cons, ih hd']

omit [DecidableEq κ] in
theorem isSome_collect : (collect key value fs).isSome ↔ ∀ f ∈ fs, (value f).isSome := by
  induction fs with
  | nil => simp [collect]
  | cons f fs ih =>
    rw [List.forall_mem_cons, ← ih, collect]
    cases value f <;> simp

theorem get?_of_collect (h : collect key value fs = some d) (hkeys : (fs.map key).Nodup) (hf : f ∈ fs) :
    d.get? (key f) = value f := by
  induction fs generalizing d with
  | nil => cases hf
  | cons f' fs ih =>
    obtain ⟨v, hv, d', hd', rfl⟩ := collect_cons_eq_some.mp h
    rw [List.map_cons, List.nodup_cons] at hkeys
    rcases List.mem_cons.mp hf with rfl | hf
    · rw [get?, if_pos rfl, hv]
    · have hne : key f' ≠ key f := fun heq => hkeys.1 (heq ▸ List.mem_map_of_mem hf)
      rw [get?, if_neg hne, ih hd' hkeys.2 hf]

end

end Dict
