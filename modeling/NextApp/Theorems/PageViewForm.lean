import Mathlib.Data.List.Nodup
import NextApp.Lib.Runs
import NextApp.Model.PageViewForm

/-! # Texts that reach the payload

Save stores the fields of the last page only. So an entered text is submitted exactly when its field is on
the last page and still shows it, or is on an earlier page and its `onChanged` handler has stored it. The
steps that break this are the edit of a field on an earlier page that stores nothing, and the step that
takes the last page down or builds it from other data. -/

namespace NextApp.PageViewForm
variable {κ ν : Type*} [DecidableEq κ] (form : PageViewForm κ ν)

/-- The form in use, with the last text entered in each field. -/
structure Session (κ ν : Type*) where
  state : PageViewState κ ν
  entered : Nat → Option String

def openSession (data : Dict κ ν) : Session κ ν := ⟨form.init data, fun _ => none⟩

def enteredStep (entered : Nat → Option String) : PageViewEvent → Nat → Option String
  | .edit i text => Function.update entered i (some text)
  | .clear i => Function.update entered i (some "")
  | .next | .back => entered

def sessionStep (s : Session κ ν) (e : PageViewEvent) : Option (Session κ ν) :=
  (form.step s.state e).map fun t => ⟨t, enteredStep s.entered e⟩

/-- The field is on the last page, whose fields Save stores. -/
def OnLast (f : Field κ ν) : Prop := f.page + 1 = form.pages

/-- What field `i` shows once its page is reached: it starts anew when the page is not built. -/
def shown (s : PageViewState κ ν) (i : Nat) (f : Field κ ν) : String :=
  if PageView.Mounted s.currentPage f.page then s.text i else initText f (form.start s f.page)

section
variable {form} {s t : Session κ ν} {e : PageViewEvent} {i : Nat} {f : Field κ ν}

omit [DecidableEq κ] in
theorem fields_of_zipIdx {f : Field κ ν × Nat} (h : f ∈ form.fields.zipIdx) : f.1 ∈ form.fields :=
  List.mem_of_getElem? (List.mk_mem_zipIdx_iff_getElem?.mp h)

omit [DecidableEq κ] in
theorem nodup_saved (s : PageViewState κ ν) : ((form.saved s).map Prod.fst).Nodup := by
  have hplaces : form.fields.zipIdx.map (fun f => f.1.place) = form.fields.map Field.place := by
    conv_rhs => rw [← List.zipIdx_map_fst 0 form.fields, List.map_map]
    rfl
  have hsub := List.filter_sublist (p := fun f => decide (f.1.page = s.currentPage)) (l := form.fields.zipIdx)
  rw [saved, List.map_map]
  exact (hsub.map fun f => f.1.place).nodup (hplaces ▸ form.places)

omit [DecidableEq κ] in
theorem start_moveTo {s : PageViewState κ ν} {page p : Nat} : form.start (form.moveTo s page) p = form.start s p := by
  by_cases hown : form.own p <;> simp [start, moveTo, hown]

omit [DecidableEq κ] in
theorem shown_moveTo {s : PageViewState κ ν} {page : Nat} (hi : form.fields[i]? = some f)
    (h : PageView.Mounted s.currentPage f.page → PageView.Mounted page f.page) :
    form.shown (form.moveTo s page) i f = form.shown s i f := by
  rw [shown, shown, start_moveTo]
  by_cases hold : PageView.Mounted s.currentPage f.page
  · simp [moveTo, hi, hold, h hold, PageView.Mounts]
  · by_cases hnew : PageView.Mounted page f.page
    · simp [moveTo, hi, hold, hnew, PageView.Mounts]
    · simp [moveTo, hold, hnew]

theorem sessionStep_next (h : s.state.currentPage + 1 < form.pages) :
    sessionStep form s .next = some ⟨form.moveTo s.state (s.state.currentPage + 1), s.entered⟩ := by
  simp [sessionStep, step, h, enteredStep]

theorem exists_run_next (hlt : s.state.currentPage < form.pages) :
    ∃ n t, Runs.run (sessionStep form) s (List.replicate n .next) = some t ∧ t.state.currentPage + 1 = form.pages := by
  obtain ⟨d, hd⟩ : ∃ d, s.state.currentPage + 1 + d = form.pages := ⟨_, Nat.add_sub_cancel' hlt⟩
  induction d generalizing s with
  | zero => exact ⟨0, s, rfl, by omega⟩
  | succ d ih =>
    obtain ⟨n, t, hrun, hlast⟩ := ih (s := ⟨form.moveTo s.state (s.state.currentPage + 1), s.entered⟩)
      (by simp only [moveTo]; omega) (by simp only [moveTo]; omega)
    refine ⟨n + 1, t, ?_, hlast⟩
    rw [List.replicate_succ, Runs.run_cons, sessionStep_next (by omega)]
    exact hrun

theorem page_lt_step (hs : sessionStep form s e = some t) (hlt : s.state.currentPage < form.pages) :
    t.state.currentPage < form.pages := by
  obtain ⟨u, hu, rfl⟩ := Option.map_eq_some_iff.mp hs
  cases e with
  | next =>
    obtain ⟨hnext, rfl⟩ := by simpa [step] using hu
    exact hnext
  | back =>
    obtain ⟨-, rfl⟩ := by simpa [step] using hu
    simp only [moveTo]
    omega
  | edit i text =>
    obtain ⟨f, -, hf⟩ := Option.bind_eq_some_iff.mp hu
    obtain ⟨-, rfl⟩ := by simpa using hf
    rw [put]
    split <;> exact hlt
  | clear i =>
    obtain ⟨f, -, hf⟩ := Option.bind_eq_some_iff.mp hu
    obtain ⟨-, rfl⟩ := by simpa using hf
    rw [put]
    split <;> exact hlt

end

/-! ### What is submitted -/

/-- Every field with an entered text has its value in the data that Save submits. -/
def SubmitsEntered (s : Session κ ν) : Prop :=
  ∀ i f text, form.fields[i]? = some f → s.entered i = some text →
    (form.submitted s.state).get? f.place = some (f.value text)

/-- The entered texts that `onChanged` handlers must have stored: those of the earlier pages. -/
def StoredIn (entered : Nat → Option String) (data : Dict κ ν) : Prop :=
  ∀ i f text, form.fields[i]? = some f → entered i = some text → ¬ form.OnLast f →
    data.get? f.place = some (f.value text)

/-- The entered texts that Save stores: those of the last page, where `shown` is what the fields show. -/
def ShownBy (entered : Nat → Option String) (shown : Nat → Field κ ν → String) : Prop :=
  ∀ i f text, form.fields[i]? = some f → entered i = some text → form.OnLast f → f.value (shown i f) = f.value text

/-- The data have the value at the place once the entries are written: the last of them writes it, or none writes there
    and the data have it. -/
def Finds (data writes : Dict κ ν) (place : κ) (value : ν) : Prop :=
  (Dict.addAll [] writes).get? place = some value ∨ place ∉ writes.map Prod.fst ∧ data.get? place = some value

/-- The text in a field is replaced as its page is built anew. -/
def Restarts (f : Field κ ν) (old new : Dict κ ν) (text : String) : Prop :=
  (f.initialValue old ≠ f.initialValue new ∨ f.liestenToInitialValue = true) ∧ f.initialValue new ≠ some text

/-- A text comes into field `i`, whose handler writes the entries and builds pages anew if it calls `setState`: the entered
    texts of the earlier pages are stored, and those of the last page are on show, or its fields start from the like. -/
structure Puts (s : Session κ ν) (i : Nat) (f : Field κ ν) (text : String) (writes : Dict κ ν) (setState : Bool) : Prop where
  stored : ∀ j g t, form.fields[j]? = some g → Function.update s.entered i (some text) j = some t → ¬ form.OnLast g →
    Finds s.state.data writes g.place (g.value t)
  updated : ∀ j g t, form.fields[j]? = some g → Function.update s.entered i (some text) j = some t → form.OnLast g →
    PageView.Mounted s.state.currentPage g.page → setState = true → form.builds f.page g.page = true →
    Restarts g (s.state.built g.page) (s.state.data.addAll writes) (Function.update s.state.text i text j) →
    g.value (initText g (s.state.data.addAll writes)) = g.value t
  started : ∀ j g t, form.fields[j]? = some g → Function.update s.entered i (some text) j = some t → form.OnLast g →
    ¬ PageView.Mounted s.state.currentPage g.page →
    form.own g.page = true ∨ setState = true ∧ form.builds f.page g.page = true →
    g.value (initText g (s.state.data.addAll writes)) = g.value t

/-- The exact condition on a step. Back from the page before the last takes the last page down: its fields start anew. -/
def Reaches (s : Session κ ν) : PageViewEvent → Prop
  | .next => True
  | .back => s.state.currentPage + 2 = form.pages → form.ShownBy s.entered fun _ f => initText f (form.start s.state f.page)
  | .clear i => ∀ f, form.fields[i]? = some f →
    form.Puts s i f "" (f.onClear.elim [] fun onClear => onClear s.state.data) (f.onClear.isSome && f.clearSetsState)
  | .edit i text => ∀ f, form.fields[i]? = some f →
    form.Puts s i f text (f.onChanged.elim [] fun onChanged => onChanged text s.state.data) (f.onChanged.isSome && f.setState)

/-- All entered texts are stored or shown. -/
structure Kept (s : Session κ ν) : Prop where
  page_lt : s.state.currentPage < form.pages
  stored : form.StoredIn s.entered s.state.data
  shown : form.ShownBy s.entered (form.shown s.state)

variable {form} {s t : Session κ ν} {e : PageViewEvent} {i : Nat} {f : Field κ ν} {text : String}

/-! ### Save -/

/-- Save stores the fields of the page on show and no others. -/
theorem get?_submitted (s : PageViewState κ ν) (hi : form.fields[i]? = some f) :
    (form.submitted s).get? f.place =
      if f.page = s.currentPage then some (f.value (s.text i)) else s.data.get? f.place := by
  by_cases hpage : f.page = s.currentPage
  · have hmem : (f, i) ∈ form.fields.zipIdx := List.mk_mem_zipIdx_iff_getElem?.mpr hi
    rw [if_pos hpage]
    refine Dict.get?_addAll_of_mem (nodup_saved s) (List.mem_map.mpr ⟨(f, i), ?_, rfl⟩)
    exact List.mem_filter.mpr ⟨hmem, by simpa using hpage⟩
  · rw [if_neg hpage]
    refine Dict.get?_addAll_of_not_mem fun hplace => hpage ?_
    obtain ⟨e, he, hkey⟩ := List.mem_map.mp hplace
    obtain ⟨g, hg, rfl⟩ := List.mem_map.mp he
    obtain ⟨hg, hgpage⟩ := List.mem_filter.mp hg
    have hfg : g.1 = f := List.inj_on_of_nodup_map form.places (fields_of_zipIdx hg) (List.mem_of_getElem? hi) hkey
    rw [← hfg]
    simpa using hgpage

theorem submitsEntered_iff (hlast : s.state.currentPage + 1 = form.pages) :
    SubmitsEntered form s ↔ Kept form s := by
  have hpage : ∀ f : Field κ ν, form.OnLast f ↔ f.page = s.state.currentPage := fun f => by
    rw [OnLast]
    omega
  have hshown : ∀ i f, form.OnLast f → form.shown s.state i f = s.state.text i := fun i f hf => by
    rw [shown, if_pos]
    simp [PageView.Mounted, (hpage f).mp hf]
  constructor
  · intro h
    refine ⟨by omega, fun i f text hi ht hf => ?_, fun i f text hi ht hf => ?_⟩
    · have := h i f text hi ht
      rwa [get?_submitted _ hi, if_neg (mt (hpage f).mpr hf)] at this
    · have := h i f text hi ht
      rw [get?_submitted _ hi, if_pos ((hpage f).mp hf)] at this
      rw [hshown i f hf]
      exact Option.some.inj this
  · intro h i f text hi ht
    rw [get?_submitted _ hi]
    by_cases hf : form.OnLast f
    · have := h.shown i f text hi ht hf
      rw [hshown i f hf] at this
      rw [if_pos ((hpage f).mp hf), this]
    · rw [if_neg (mt (hpage f).mpr hf)]
      exact h.stored i f text hi ht hf

/-! ### The steps -/

theorem kept_next (hs : sessionStep form s .next = some t) (hlt : s.state.currentPage < form.pages) :
    Kept form t ↔ Kept form s := by
  obtain ⟨u, hu, rfl⟩ := Option.map_eq_some_iff.mp hs
  obtain ⟨hnext, rfl⟩ := by simpa [step] using hu
  have hshown : ∀ i f, form.fields[i]? = some f → form.OnLast f →
      form.shown (form.moveTo s.state (s.state.currentPage + 1)) i f = form.shown s.state i f := by
    intro i f hi hf
    refine shown_moveTo hi fun hm => ?_
    simp only [PageView.Mounted, OnLast] at hm hf ⊢
    omega
  constructor
  · rintro ⟨-, hstored, hsh⟩
    refine ⟨hlt, hstored, fun i f text hi ht hf => ?_⟩
    rw [← hshown i f hi hf]
    exact hsh i f text hi ht hf
  · rintro ⟨-, hstored, hsh⟩
    refine ⟨hnext, hstored, fun i f text hi ht hf => ?_⟩
    have := hsh i f text hi ht hf
    rw [← hshown i f hi hf] at this
    exact this

/-- Back takes the last page down when it leaves the page before. -/
theorem kept_back (hk : Kept form s) (hs : sessionStep form s .back = some t) :
    Kept form t ↔ Reaches form s .back := by
  obtain ⟨u, hu, rfl⟩ := Option.map_eq_some_iff.mp hs
  obtain ⟨hpos, rfl⟩ := by simpa [step] using hu
  have hlt := hk.page_lt
  by_cases hdown : s.state.currentPage + 2 = form.pages
  · have hshown : ∀ i f, form.OnLast f →
        form.shown (form.moveTo s.state (s.state.currentPage - 1)) i f = initText f (form.start s.state f.page) := by
      intro i f hf
      have hnot : ¬ PageView.Mounted (s.state.currentPage - 1) f.page := by
        simp only [PageView.Mounted, OnLast] at hf ⊢
        omega
      rw [shown, start_moveTo]
      exact if_neg hnot
    constructor
    · rintro ⟨-, -, hsh⟩ - i f text hi ht hf
      have := hsh i f text hi ht hf
      rwa [hshown i f hf] at this
    · intro h
      refine ⟨by simp only [moveTo]; omega, hk.stored, fun i f text hi ht hf => ?_⟩
      rw [hshown i f hf]
      exact h hdown i f text hi ht hf
  · refine iff_of_true ⟨by simp only [moveTo]; omega, hk.stored, fun i f text hi ht hf => ?_⟩ fun h => absurd h hdown
    have hshown : form.shown (form.moveTo s.state (s.state.currentPage - 1)) i f =
        form.shown s.state i f := by
      refine shown_moveTo hi fun hm => ?_
      simp only [PageView.Mounted, OnLast] at hm hf ⊢
      omega
    rw [hshown]
    exact hk.shown i f text hi ht hf

theorem finds_iff {data writes : Dict κ ν} {place : κ} {value : ν} :
    (data.addAll writes).get? place = some value ↔ Finds data writes place value := by
  rw [Finds]
  by_cases hplace : place ∈ writes.map Prod.fst
  · have hwrites : (data.addAll writes).get? place = Dict.get? (Dict.addAll [] writes) place :=
      Dict.get?_addAll_congr (Or.inl hplace)
    simp [hplace, hwrites]
  · rw [Dict.get?_addAll_of_not_mem hplace, Dict.get?_addAll_of_not_mem hplace]
    simp [hplace]

/-- What a field shows once a text has come into one. -/
theorem shown_put {writes : Dict κ ν} {setState : Bool} {j : Nat} {g : Field κ ν} (hj : form.fields[j]? = some g) :
    form.shown (form.put f s.state i text writes setState) j g =
      if PageView.Mounted s.state.currentPage g.page then
        if setState = true ∧ form.builds f.page g.page = true then
          updateText g (s.state.built g.page) (s.state.data.addAll writes) (Function.update s.state.text i text j)
        else Function.update s.state.text i text j
      else if form.own g.page = true ∨ setState = true ∧ form.builds f.page g.page = true then
        initText g (s.state.data.addAll writes)
      else initText g (s.state.built g.page) := by
  cases setState with
  | false =>
    simp only [put, shown, Bool.false_eq_true, if_false, false_and, or_false, start]
    by_cases hown : form.own g.page <;> simp [hown]
  | true =>
    simp only [put, shown, if_true, true_and, start, rebuild]
    by_cases hm : PageView.Mounted s.state.currentPage g.page
    · by_cases hb : form.builds f.page g.page <;> simp [hm, hb, hj]
    · by_cases hown : form.own g.page <;> by_cases hb : form.builds f.page g.page <;> simp [hm, hb, hown]

omit [DecidableEq κ] in
theorem updateText_of_restarts {old new : Dict κ ν} (h : Restarts f old new text) :
    updateText f old new text = initText f new := if_pos h

omit [DecidableEq κ] in
theorem updateText_of_not_restarts {old new : Dict κ ν} (h : ¬ Restarts f old new text) :
    updateText f old new text = text := if_neg h

/-- What of the last page is on show after a text has come into a field. -/
theorem value_shown_iff (hk : Kept form s) (hi : form.fields[i]? = some f) (hpage : f.page = s.state.currentPage) {writes : Dict κ ν}
    {setState : Bool} {j : Nat} {g : Field κ ν} {t : String} (hj : form.fields[j]? = some g)
    (ht : Function.update s.entered i (some text) j = some t) (hlast : form.OnLast g) :
    g.value (form.shown (form.put f s.state i text writes setState) j g) = g.value t ↔
      (PageView.Mounted s.state.currentPage g.page → setState = true → form.builds f.page g.page = true →
          Restarts g (s.state.built g.page) (s.state.data.addAll writes) (Function.update s.state.text i text j) →
          g.value (initText g (s.state.data.addAll writes)) = g.value t) ∧
        (¬ PageView.Mounted s.state.currentPage g.page →
          form.own g.page = true ∨ setState = true ∧ form.builds f.page g.page = true →
          g.value (initText g (s.state.data.addAll writes)) = g.value t) := by
  -- without a build the field shows what it has shown, or the text that has come into it
  have hkept : ∀ hm : PageView.Mounted s.state.currentPage g.page,
      g.value (Function.update s.state.text i text j) = g.value t := by
    intro hm
    by_cases hij : j = i
    · subst hij
      obtain rfl : text = t := by simpa using ht
      simp
    · have hsame := hk.shown j g t hj (by simpa [hij] using ht) hlast
      rw [shown, if_pos hm] at hsame
      simpa [hij] using hsame
  rw [shown_put hj]
  by_cases hm : PageView.Mounted s.state.currentPage g.page
  · simp only [hm, if_true, forall_const, not_true_eq_false, false_imp_iff, and_true]
    by_cases hb : setState = true ∧ form.builds f.page g.page = true
    · rw [if_pos hb]
      by_cases hr : Restarts g (s.state.built g.page) (s.state.data.addAll writes) (Function.update s.state.text i text j)
      · rw [updateText_of_restarts hr]
        exact ⟨fun h _ _ _ => h, fun h => h hb.1 hb.2 hr⟩
      · rw [updateText_of_not_restarts hr]
        exact iff_of_true (hkept hm) fun _ _ h => absurd h hr
    · rw [if_neg hb]
      exact iff_of_true (hkept hm) fun h₁ h₂ => absurd ⟨h₁, h₂⟩ hb
  · simp only [hm, if_false, false_imp_iff, true_and, not_false_eq_true, forall_const]
    by_cases hb : form.own g.page = true ∨ setState = true ∧ form.builds f.page g.page = true
    · rw [if_pos hb]
      exact ⟨fun h _ => h, fun h => h hb⟩
    · rw [if_neg hb]
      refine iff_of_true ?_ fun h => absurd h hb
      -- the field the text has come into is on the page on show, which is built
      have hij : j ≠ i := by
        rintro rfl
        obtain rfl : f = g := Option.some.inj (hi.symm.trans hj)
        exact hm (by simp [PageView.Mounted, hpage])
      have hsame := hk.shown j g t hj (by simpa [hij] using ht) hlast
      have hown : ¬ form.own g.page = true := fun h => hb (Or.inl h)
      rwa [shown, if_neg hm, start, if_neg hown] at hsame

theorem kept_put (hk : Kept form s) (hi : form.fields[i]? = some f) (hpage : f.page = s.state.currentPage) (writes : Dict κ ν)
    (setState : Bool) :
    Kept form ⟨form.put f s.state i text writes setState, Function.update s.entered i (some text)⟩ ↔
      form.Puts s i f text writes setState := by
  have hdata : (form.put f s.state i text writes setState).data = s.state.data.addAll writes := by
    rw [put]
    split <;> rfl
  have hcurrent : (form.put f s.state i text writes setState).currentPage = s.state.currentPage := by
    rw [put]
    split <;> rfl
  constructor
  · rintro ⟨-, hstored, hshown⟩
    refine ⟨fun j g t hj ht hg => ?_, fun j g t hj ht hg => ?_, fun j g t hj ht hg => ?_⟩
    · rw [← finds_iff, ← hdata]
      exact hstored j g t hj ht hg
    · exact ((value_shown_iff hk hi hpage hj ht hg).mp (hshown j g t hj ht hg)).1
    · exact ((value_shown_iff hk hi hpage hj ht hg).mp (hshown j g t hj ht hg)).2
  · rintro ⟨hstored, hupdated, hstarted⟩
    refine ⟨hcurrent ▸ hk.page_lt, fun j g t hj ht hg => ?_, fun j g t hj ht hg => ?_⟩
    · rw [hdata, finds_iff]
      exact hstored j g t hj ht hg
    · exact (value_shown_iff hk hi hpage hj ht hg).mpr ⟨hupdated j g t hj ht hg, hstarted j g t hj ht hg⟩

omit [DecidableEq κ] in
theorem forall_field {P : Field κ ν → Prop} (hi : form.fields[i]? = some f) : (∀ g, form.fields[i]? = some g → P g) ↔ P f := by
  simp [hi]

theorem kept_clear (hk : Kept form s) (hs : sessionStep form s (.clear i) = some t) :
    Kept form t ↔ Reaches form s (.clear i) := by
  obtain ⟨u, hu, rfl⟩ := Option.map_eq_some_iff.mp hs
  obtain ⟨f, hi, hf⟩ := Option.bind_eq_some_iff.mp hu
  obtain ⟨⟨hpage, -⟩, rfl⟩ := by simpa using hf
  rw [Reaches, forall_field hi]
  exact kept_put hk hi hpage _ _

theorem kept_edit (hk : Kept form s) (hs : sessionStep form s (.edit i text) = some t) :
    Kept form t ↔ Reaches form s (.edit i text) := by
  obtain ⟨u, hu, rfl⟩ := Option.map_eq_some_iff.mp hs
  obtain ⟨f, hi, hf⟩ := Option.bind_eq_some_iff.mp hu
  obtain ⟨hpage, rfl⟩ := by simpa using hf
  rw [Reaches, forall_field hi]
  exact kept_put hk hi hpage _ _

/-- A step from a state with all texts kept leads to one exactly when it meets the condition. -/
theorem kept_step (hk : Kept form s) (hs : sessionStep form s e = some t) : Kept form t ↔ Reaches form s e := by
  cases e with
  | next => exact iff_of_true ((kept_next hs hk.page_lt).mpr hk) trivial
  | back => exact kept_back hk hs
  | edit i text => exact kept_edit hk hs
  | clear i => exact kept_clear hk hs

/-! ### Runs -/

theorem kept_run_next {n : Nat} (hlt : s.state.currentPage < form.pages)
    (hrun : Runs.run (sessionStep form) s (List.replicate n .next) = some t) : Kept form t ↔ Kept form s := by
  induction n generalizing s with
  | zero => cases hrun; exact Iff.rfl
  | succ n ih =>
    obtain ⟨u, hu, hrun⟩ := Option.bind_eq_some_iff.mp hrun
    obtain ⟨v, hv, hvu⟩ := Option.map_eq_some_iff.mp hu
    have hult : u.state.currentPage < form.pages := by
      obtain ⟨hnext, rfl⟩ := by simpa [step] using hv
      rw [← hvu]
      exact hnext
    exact (ih hult hrun).trans (kept_next hu hlt)

variable (form) in
/-- However often Next is pressed to reach the last page, Save submits the last texts. -/
def FinishesWell (s : Session κ ν) : Prop :=
  ∀ n t, Runs.run (sessionStep form) s (List.replicate n .next) = some t → t.state.currentPage + 1 = form.pages →
    SubmitsEntered form t

theorem finishesWell_iff (hlt : s.state.currentPage < form.pages) : FinishesWell form s ↔ Kept form s := by
  constructor
  · intro h
    obtain ⟨n, t, hrun, hlast⟩ := exists_run_next hlt
    exact (kept_run_next hlt hrun).mp ((submitsEntered_iff hlast).mp (h n t hrun hlast))
  · intro h n t hrun hlast
    exact (submitsEntered_iff hlast).mpr ((kept_run_next hlt hrun).mpr h)

theorem kept_open (data : Dict κ ν) : Kept form (openSession form data) where
  page_lt := Nat.lt_of_lt_of_le Nat.zero_lt_two form.two_le
  stored _ _ _ _ h := by cases h
  shown _ _ _ _ h := by cases h

/-- From every point of a session Save, reached by Next, submits the last text entered in each field exactly
    when every step of the session leaves the entered texts stored or shown. -/
theorem edits_submitted_iff (form : PageViewForm κ ν) (data : Dict κ ν) (es : List PageViewEvent) :
    (∀ p, p <+: es → ∀ n t,
        Runs.run (sessionStep form) (openSession form data) (p ++ List.replicate n .next) = some t →
        t.state.currentPage + 1 = form.pages → SubmitsEntered form t) ↔
      Runs.Guarded (sessionStep form) (Reaches form) (openSession form data) es := by
  have hiff : Runs.Along (sessionStep form) (FinishesWell form) (openSession form data) es ↔
      Runs.Guarded (sessionStep form) (Reaches form) (openSession form data) es :=
    Runs.along_iff_guarded (fun s h => (finishesWell_iff h.page_lt).mpr h)
      (fun s e t h hs hg => (kept_step h hs).mpr hg)
      (fun s e t h hs hp => (kept_step h hs).mp ((finishesWell_iff (page_lt_step hs h.page_lt)).mp hp)) (kept_open data)
  rw [← hiff, Runs.along_iff_prefix]
  constructor
  · intro h p hp s hs n t ht
    exact h p hp n t (by rw [Runs.run_append, hs]; exact ht)
  · intro h p hp n t ht
    rw [Runs.run_append] at ht
    obtain ⟨s, hs, ht⟩ := Option.bind_eq_some_iff.mp ht
    exact h p hp s hs n t ht

/-- The exchange rate of a purchase order is set to 2 on its second page, and 1 is submitted. -/
theorem conversion_rate_not_submitted :
    ∃ t, Runs.run (sessionStep (purchaseOrderForm fun _ => "1"))
        (openSession (purchaseOrderForm fun _ => "1") [("conversion_rate", .int 1)])
        [.next, .edit 0 "2", .next, .next] = some t ∧ t.state.currentPage + 1 = 4 ∧
      ¬ SubmitsEntered (purchaseOrderForm fun _ => "1") t := by
  refine ⟨_, rfl, rfl, fun h => ?_⟩
  have := h 0 _ "2" rfl rfl
  exact absurd this (by decide +kernel)

end NextApp.PageViewForm
