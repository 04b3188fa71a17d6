import NextApp.Model.StoredLogin

/-! # What a launch logs in with

The app may end between any two writes. A launch logs in with the remembered login, all of it, or not at all, unless the app
ended over a login or a logout of which the device had a part only. -/

namespace NextApp
open Runs

namespace SharedPref
variable {prefs : Dict String String} {login : StoredLogin} {remembered : Option StoredLogin} {w w' : String × Option String}

/-- The writes of one login have one value for each key. -/
theorem eq_of_mem_writes (h : w ∈ writes remembered) (h' : w' ∈ writes remembered) (hk : w.1 = w'.1) : w = w' := by
  simp only [writes, List.mem_cons, List.not_mem_nil, or_false] at h h'
  rcases h with rfl | rfl | rfl <;> rcases h' with rfl | rfl | rfl <;> first | rfl | exact absurd hk (by simp)

theorem login?_eq_some : login? prefs = some login ↔ ∀ w ∈ writes (some login), prefs.get? w.1 = w.2 := by
  obtain ⟨user, pass, url⟩ := login
  simp only [login?, writes, Option.bind_eq_some_iff, Option.map_eq_some_iff, List.forall_mem_cons, Option.map_some]
  constructor
  · rintro ⟨user', huser, pass', hpass, url', hurl, heq⟩
    cases heq
    exact ⟨huser, hpass, hurl, List.forall_mem_nil _⟩
  · rintro ⟨huser, hpass, hurl, -⟩
    exact ⟨user, huser, pass, hpass, url, hurl, rfl⟩

theorem login?_eq_none : login? prefs = none ↔ ∃ w ∈ writes none, prefs.get? w.1 = none := by
  simp only [login?, writes, Option.map_none, List.mem_cons, List.not_mem_nil, or_false, exists_eq_or_imp, exists_eq_left]
  cases prefs.get? "user" <;> cases prefs.get? "pass" <;> cases prefs.get? "url" <;> simp

/-- Once all writes are made the login is there, or gone. -/
theorem login?_of_writes (h : ∀ w ∈ writes remembered, prefs.get? w.1 = w.2) : login? prefs = remembered := by
  cases remembered with
  | some login => exact login?_eq_some.mpr h
  | none => exact login?_eq_none.mpr ⟨_, List.mem_cons_self, h _ List.mem_cons_self⟩

theorem get?_write_self {key : String} {value : Option String} : (write prefs key value).get? key = value := by
  cases value with
  | some value => exact Dict.get?_set_self
  | none => exact Dict.get?_remove_self

theorem get?_write_ne {key key' : String} {value : Option String} (h : key ≠ key') :
    (write prefs key value).get? key' = prefs.get? key' := by
  cases value with
  | some value => exact Dict.get?_set_ne h
  | none => exact Dict.get?_remove_ne h

end SharedPref

namespace LoginDevice
open SharedPref
variable {s t : LoginDevice} {e : LoginEvent}

/-- A launch logs in with what is to be remembered. -/
def Recalls (s : LoginDevice) : LoginEvent → LoginDevice → Prop
  | .launch _ _, _ => login? s.prefs = s.remembered
  | .login .., _ | .logout, _ | .store, _ => True

/-- The app ends over nothing that is still to be written, or over writes of what is stored already, or over a logout that
    has removed an entry. -/
def Guard (s : LoginDevice) : LoginEvent → Prop
  | .launch _ _ => (∀ w ∈ s.pending, s.prefs.get? w.1 = w.2) ∨
      (∃ w ∈ s.pending, w.2 = none) ∧ ∃ w ∈ writes none, s.prefs.get? w.1 = none
  | .login .. | .logout | .store => True

inductive Inv (s : LoginDevice) : Prop where
  | settled (pending : s.pending = []) (stored : login? s.prefs = s.remembered)
  /-- of the writes of the last login or logout some are pending, and the others are made -/
  | writing (pending : ∀ w ∈ s.pending, w ∈ writes s.remembered)
      (made : ∀ w ∈ writes s.remembered, w ∈ s.pending ∨ s.prefs.get? w.1 = w.2)

theorem Inv.stored (h : s.Inv) (hp : s.pending = []) : login? s.prefs = s.remembered := by
  cases h with
  | settled _ stored => exact stored
  | writing _ made =>
    refine login?_of_writes fun w hw => (made w hw).resolve_left fun hmem => ?_
    rw [hp] at hmem
    cases hmem

theorem inv_remember {login : StoredLogin} : (s.remember login).Inv :=
  .writing (fun _ hw => hw) fun _ hw => .inl hw

theorem inv_login {username password url : String} {rememberMe : Bool} {check response : HttpResult}
    (hp : s.pending = []) (h : login? s.prefs = s.remembered) :
    (s.login username password url rememberMe check response).Inv := by
  rw [login]
  split
  · split
    · exact inv_remember
    · exact .settled hp h
  · exact .settled hp h
  · exact .settled hp h

theorem inv_launch {check response : HttpResult} (h : login? s.prefs = s.remembered) : (s.launch check response).Inv := by
  unfold launch
  dsimp only
  split
  · exact .settled rfl h
  · exact inv_login rfl h

theorem inv_store {key : String} {value : Option String} {pending : List (String × Option String)} (h : s.Inv)
    (hp : s.pending = (key, value) :: pending) : ({ s with prefs := write s.prefs key value, pending } : LoginDevice).Inv := by
  cases h with
  | settled hnil _ =>
    rw [hnil] at hp
    cases hp
  | writing hpending made =>
    rw [hp] at hpending made
    refine .writing (fun w hw => hpending w (List.mem_cons_of_mem _ hw)) fun w hw => ?_
    by_cases hkey : key = w.1
    · have hself : (key, value) = w := eq_of_mem_writes (hpending _ List.mem_cons_self) hw hkey
      subst hself
      exact .inr get?_write_self
    · rw [get?_write_ne hkey]
      rcases made w hw with hmem | hget
      · rcases List.mem_cons.mp hmem with rfl | hmem
        · exact absurd rfl hkey
        · exact .inl hmem
      · exact .inr hget

/-- The guard of a launch is what it finds. -/
theorem recalls_iff {check response : HttpResult} (h : s.Inv) :
    login? s.prefs = s.remembered ↔ Guard s (.launch check response) := by
  cases h with
  | settled hnil hstored =>
    refine iff_of_true hstored (.inl fun w hw => ?_)
    rw [hnil] at hw
    cases hw
  | writing hpending made =>
    cases hr : s.remembered with
    | some login =>
      rw [hr] at hpending made
      rw [login?_eq_some]
      constructor
      · exact fun hall => .inl fun w hw => hall w (hpending w hw)
      · rintro (hall | ⟨⟨w, hw, hnone⟩, -⟩) w' hw'
        · exact (made w' hw').elim (hall w') id
        · -- the writes of a login remove nothing
          have hmem := hpending w hw
          simp only [writes, Option.map_some, List.mem_cons, List.not_mem_nil, or_false] at hmem
          rcases hmem with rfl | rfl | rfl <;> cases hnone
    | none =>
      rw [hr] at hpending made
      rw [login?_eq_none]
      constructor
      · rintro ⟨w, hw, hget⟩
        by_cases hp : s.pending = []
        · refine .inl fun w' hw' => ?_
          rw [hp] at hw'
          cases hw'
        · obtain ⟨w', hw'⟩ := List.exists_mem_of_ne_nil _ hp
          have hmem := hpending w' hw'
          have hnone : w'.2 = none := by
            simp only [writes, Option.map_none, List.mem_cons, List.not_mem_nil, or_false] at hmem
            rcases hmem with rfl | rfl | rfl <;> rfl
          exact .inr ⟨⟨w', hw', hnone⟩, w, hw, hget⟩
      · rintro (hall | ⟨-, hgone⟩)
        · have huser : ("user", none) ∈ writes none := List.mem_cons_self
          exact ⟨_, huser, (made _ huser).elim (hall _) id⟩
        · exact hgone

theorem inv_step (h : s.Inv) (ht : step s e = some t) (hg : Guard s e) : t.Inv := by
  cases e with
  | login username password url rememberMe check response =>
    obtain ⟨⟨-, hp⟩, ht⟩ := Option.ite_none_right_eq_some.mp ht
    cases ht
    exact inv_login hp (h.stored hp)
  | logout =>
    obtain ⟨-, ht⟩ := Option.ite_none_right_eq_some.mp ht
    cases ht
    exact .writing (fun _ hw => hw) fun _ hw => .inl hw
  | store =>
    rw [step] at ht
    split at ht
    · cases ht
    · next key value pending hp =>
      cases ht
      exact inv_store h hp
  | launch check response =>
    cases ht
    exact inv_launch ((recalls_iff h).mpr hg)

/-- All launches of a run log in with the remembered login, and with none where none is remembered, exactly when none comes
    over writes of which a part only was made. -/
theorem recalls_iff_guarded (es : List LoginEvent) : Each step Recalls {} es ↔ Guarded step Guard {} es := by
  refine each_iff_guarded (I := Inv) (fun _ _ _ h ht hg => inv_step h ht hg) (fun s e t h ht => ?_) (.settled rfl rfl)
  cases e with
  | launch check response => exact recalls_iff h
  | login _ _ _ _ _ _ | logout | store => exact Iff.rfl

end LoginDevice

end NextApp
