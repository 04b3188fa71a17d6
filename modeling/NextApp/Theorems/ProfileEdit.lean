import NextApp.Model.ProfileEdit

/-! # Editing the profile

When the profile page stays in reach while its user edits the profile, and when an update has what the screen shows. -/

namespace NextApp
open Runs

/-! ### What goes through a repository -/

section
variable {α : Type} {decode : Value → Option α}

/-- Only a body that cannot be decoded, an error response that names no text, and an error that is none of `Dio` go through. -/
theorem repository_eq_none {reply : DioReply} : repository decode (some reply) = none ↔
    (∃ data, reply = .response data ∧ decode data = none) ∨
      (∃ response message, reply = .dioError response message ∧ DioHelper.message? response message = none) ∨ reply = .error := by
  cases reply with
  | response data => simp [repository, DioHelper.request]
  | dioError response message =>
    cases hmessage : DioHelper.message? response message with
    | none => simp [repository, DioHelper.request, hmessage]
    | some text => simp [repository, DioHelper.request, hmessage]
  | error => simp [repository, DioHelper.request]

/-- A call that ends without a response, as one that times out does, goes through whatever its message is. -/
theorem repository_no_response (message : Option String) : repository decode (some (.dioError none message)) = none :=
  repository_eq_none.mpr (.inr (.inl ⟨none, message, rfl, rfl⟩))

end

namespace ProfileSession
variable {s t : ProfileSession} {e : ProfileEvent}

/-! ### Leaving the dialogs -/

/-- What is open, with the updates that are under way. -/
inductive Shape (s : ProfileSession) : Prop where
  | profile (pages : s.pages = []) (updates : s.updates = []) (state : s.updateUserDataState ≠ .loading)
  | failed (message : String) (pages : s.pages = [.errorDialog message 1]) (updates : s.updates = [])
      (state : s.updateUserDataState ≠ .loading)
  | editing (pages : s.pages = [.editUserProfile]) (updates : s.updates = []) (state : s.updateUserDataState ≠ .loading)
  | updating (update : UpdateUserEntity) (pages : s.pages = [.loadingDialog, .editUserProfile]) (updates : s.updates = [update])
      (state : s.updateUserDataState = .loading)
  | rejected (message : String) (pages : s.pages = [.errorDialog message 2, .loadingDialog, .editUserProfile])
      (updates : s.updates = []) (state : s.updateUserDataState = .error)

structure Inv (s : ProfileSession) : Prop where
  shape : s.Shape
  loads : s.loadingProfile = true → s.pages = [] ∧ s.getUserDataState = .loading

/-- The loading dialog is on top, which nothing but a reply closes, and there is no request. -/
structure Stuck (s : ProfileSession) : Prop where
  pages : s.pages = [.loadingDialog, .editUserProfile]
  updates : s.updates = []
  received : s.loadingProfile = false

/-- An update comes back with what the repository makes a result or a failure of, and the dialog of a rejected update is left by
    its button. -/
def Guard (s : ProfileSession) : ProfileEvent → Prop
  | .updateReply reply => repository UserEntity.ofResponse reply ≠ none
  | .dismiss => .loadingDialog ∉ s.pages
  | .profileReply _ | .updateProfile | .edit _ | .imageRead _ | .rebuild | .save | .okay | .back => True

/-- Neither looks at the form. -/
theorem Inv.keep (h : s.Inv) (hpages : t.pages = s.pages) (hupdates : t.updates = s.updates)
    (hstate : t.updateUserDataState = s.updateUserDataState) (hloading : t.loadingProfile = s.loadingProfile)
    (hget : t.getUserDataState = s.getUserDataState) : t.Inv where
  shape := by
    cases h.shape with
    | profile pages updates state => exact .profile (hpages.trans pages) (hupdates.trans updates) (hstate ▸ state)
    | failed message pages updates state => exact .failed message (hpages.trans pages) (hupdates.trans updates) (hstate ▸ state)
    | editing pages updates state => exact .editing (hpages.trans pages) (hupdates.trans updates) (hstate ▸ state)
    | updating update pages updates state =>
      exact .updating update (hpages.trans pages) (hupdates.trans updates) (hstate.trans state)
    | rejected message pages updates state =>
      exact .rejected message (hpages.trans pages) (hupdates.trans updates) (hstate.trans state)
  loads := by
    rw [hpages, hloading, hget]
    exact h.loads

theorem Stuck.keep (h : s.Stuck) (hpages : t.pages = s.pages) (hupdates : t.updates = s.updates)
    (hloading : t.loadingProfile = s.loadingProfile) : t.Stuck :=
  ⟨hpages.trans h.pages, hupdates.trans h.updates, hloading.trans h.received⟩

theorem Inv.settled (h : s.Inv) : s.settled.Inv := by
  rw [ProfileSession.settled]
  split
  · exact h
  · exact h.keep rfl rfl rfl rfl rfl

/-- The profile came before anything was open. -/
theorem Inv.received (h : s.Inv) (hpages : s.pages ≠ []) : s.loadingProfile = false := by
  rw [← Bool.not_eq_true]
  exact fun hloading => hpages (h.loads hloading).1

theorem Inv.of_shape (shape : s.Shape) (received : s.loadingProfile = false) : s.Inv where
  shape := shape
  loads hloading := absurd (received.symm.trans hloading) Bool.false_ne_true

/-! ### Steps -/

section
variable {previous : RequestState}

theorem inv_listen_loading {update : UpdateUserEntity} (hstate : s.updateUserDataState = .loading) (hprevious : previous ≠ .loading)
    (hpages : s.pages = [.editUserProfile]) (hupdates : s.updates = [update]) (received : s.loadingProfile = false) :
    (s.listen previous).Inv := by
  have hedit : ProfilePage.editUserProfile ∈ s.pages := hpages ▸ List.mem_cons_self
  rw [listen, hstate, if_neg (not_or.mpr ⟨hprevious.symm, not_not.mpr hedit⟩)]
  exact .of_shape (.updating update (congrArg (List.cons _) hpages) hupdates rfl) received

theorem inv_listen_success (hstate : s.updateUserDataState = .success) (hprevious : previous ≠ .success)
    (hpages : s.pages = [.loadingDialog, .editUserProfile]) (hupdates : s.updates = []) (received : s.loadingProfile = false) :
    (s.listen previous).Inv := by
  have hedit : ProfilePage.editUserProfile ∈ s.pages := hpages ▸ List.mem_cons_of_mem _ List.mem_cons_self
  rw [listen, hstate, if_neg (not_or.mpr ⟨hprevious.symm, not_not.mpr hedit⟩)]
  exact .of_shape (.profile (congrArg (List.drop 2) hpages) hupdates nofun) received

theorem inv_listen_error (hstate : s.updateUserDataState = .error) (hprevious : previous ≠ .error)
    (hpages : s.pages = [.loadingDialog, .editUserProfile]) (hupdates : s.updates = []) (received : s.loadingProfile = false) :
    (s.listen previous).Inv := by
  have hedit : ProfilePage.editUserProfile ∈ s.pages := hpages ▸ List.mem_cons_of_mem _ List.mem_cons_self
  rw [listen, hstate, if_neg (not_or.mpr ⟨hprevious.symm, not_not.mpr hedit⟩)]
  exact .of_shape (.rejected _ (congrArg (List.cons _) hpages) hupdates rfl) received

end

/-- Either way the loading dialog goes: with the screen, or below the message. -/
theorem inv_endUpdate {reply : Option DioReply} (hpages : s.pages = [.loadingDialog, .editUserProfile]) (hupdates : s.updates = [])
    (hstate : s.updateUserDataState = .loading) (received : s.loadingProfile = false)
    (hreply : repository UserEntity.ofResponse reply ≠ none) : (s.endUpdate reply).Inv := by
  rw [endUpdate, hstate]
  split
  · next heq => exact absurd heq hreply
  · exact inv_listen_success rfl nofun hpages hupdates received
  · exact inv_listen_error rfl nofun hpages hupdates received

theorem step_updateReply {reply : Option DioReply} (h : s.Inv) (ht : step s (.updateReply reply) = some t) :
    (repository UserEntity.ofResponse reply ≠ none → t.Inv) ∧ (repository UserEntity.ofResponse reply = none → t.Stuck) := by
  simp only [step] at ht
  split at ht
  · cases ht
  · next x rest hrest =>
    cases ht
    cases h.shape with
    | updating update hpages hupdates hstate =>
      cases hupdates.symm.trans hrest
      have received : s.loadingProfile = false := h.received (by rw [hpages]; exact List.cons_ne_nil _ _)
      constructor
      · intro hreply
        refine Inv.settled ?_
        exact inv_endUpdate hpages rfl hstate received hreply
      · intro hreply
        rw [endUpdate, hreply]
        have hedit : ProfilePage.editUserProfile ∈ s.pages := hpages ▸ List.mem_cons_of_mem _ List.mem_cons_self
        dsimp only
        rw [settled, if_pos hedit]
        exact ⟨hpages, rfl, received⟩
    | profile _ hupdates => exact absurd (hupdates.symm.trans hrest) nofun
    | failed _ _ hupdates => exact absurd (hupdates.symm.trans hrest) nofun
    | editing _ hupdates => exact absurd (hupdates.symm.trans hrest) nofun
    | rejected _ _ hupdates => exact absurd (hupdates.symm.trans hrest) nofun

theorem inv_profileReply {reply : Option DioReply} (h : s.Inv) (ht : step s (.profileReply reply) = some t) : t.Inv := by
  obtain ⟨hloading, ht⟩ := Option.ite_none_right_eq_some.mp ht
  cases ht
  obtain ⟨hpages, -⟩ := h.loads hloading
  cases h.shape with
  | profile _ updates state =>
    rw [getUserProfileData]
    split
    · exact .of_shape (.profile hpages updates state) rfl
    · exact .of_shape (.profile hpages updates state) rfl
    · exact .of_shape (.failed _ (congrArg (List.cons _) hpages) updates state) rfl
  | failed _ pages => exact absurd (pages.symm.trans hpages) nofun
  | editing pages => exact absurd (pages.symm.trans hpages) nofun
  | updating _ pages => exact absurd (pages.symm.trans hpages) nofun
  | rejected _ pages => exact absurd (pages.symm.trans hpages) nofun

theorem inv_save (h : s.Inv) (ht : step s .save = some t) : t.Inv := by
  simp only [step] at ht
  split at ht
  · next form rest hform hrest =>
    split at ht
    · cases ht
      cases h.shape with
      | editing hpages hupdates hstate =>
        have received : s.loadingProfile = false := h.received (by rw [hrest]; exact List.cons_ne_nil _ _)
        rw [startUpdate, hupdates]
        exact inv_listen_loading rfl hstate hpages rfl received
      | profile pages => exact absurd (pages.symm.trans hrest) nofun
      | failed _ pages => exact absurd (pages.symm.trans hrest) nofun
      | updating _ pages => exact absurd (pages.symm.trans hrest) nofun
      | rejected _ pages => exact absurd (pages.symm.trans hrest) nofun
    · cases ht
      exact h
  · cases ht

theorem inv_okay (h : s.Inv) (ht : step s .okay = some t) : t.Inv := by
  simp only [step] at ht
  split at ht
  · next message pops rest hrest =>
    cases ht
    have received : s.loadingProfile = false := h.received (by rw [hrest]; exact List.cons_ne_nil _ _)
    refine Inv.settled ?_
    cases h.shape with
    | failed _ pages updates state =>
      cases pages.symm.trans hrest
      exact .of_shape (.profile (congrArg (List.drop 1) pages) updates state) received
    | rejected _ pages updates state =>
      cases pages.symm.trans hrest
      exact .of_shape (.editing (congrArg (List.drop 2) pages) updates (state ▸ nofun)) received
    | profile pages => exact absurd (pages.symm.trans hrest) nofun
    | editing pages => exact absurd (pages.symm.trans hrest) nofun
    | updating _ pages => exact absurd (pages.symm.trans hrest) nofun
  · cases ht

theorem step_dismiss (h : s.Inv) (ht : step s .dismiss = some t) :
    (.loadingDialog ∉ s.pages → t.Inv) ∧ (¬ .loadingDialog ∉ s.pages → t.Stuck) := by
  simp only [step] at ht
  split at ht
  · next message pops rest hrest =>
    cases ht
    have received : s.loadingProfile = false := h.received (by rw [hrest]; exact List.cons_ne_nil _ _)
    cases h.shape with
    | failed _ pages updates state =>
      cases pages.symm.trans hrest
      refine ⟨fun _ => .of_shape (.profile rfl updates state) received, fun hloading => absurd ?_ hloading⟩
      simp [pages]
    | rejected _ pages updates =>
      cases pages.symm.trans hrest
      refine ⟨fun hloading => absurd ?_ hloading, fun _ => ⟨rfl, updates, received⟩⟩
      simp [pages]
    | profile pages => exact absurd (pages.symm.trans hrest) nofun
    | editing pages => exact absurd (pages.symm.trans hrest) nofun
    | updating _ pages => exact absurd (pages.symm.trans hrest) nofun
  · cases ht

theorem inv_back (h : s.Inv) (ht : step s .back = some t) : t.Inv := by
  simp only [step] at ht
  split at ht
  · next rest hrest =>
    cases ht
    have received : s.loadingProfile = false := h.received (by rw [hrest]; exact List.cons_ne_nil _ _)
    refine Inv.settled ?_
    cases h.shape with
    | editing pages updates state =>
      cases pages.symm.trans hrest
      exact .of_shape (.profile rfl updates state) received
    | profile pages => exact absurd (pages.symm.trans hrest) nofun
    | failed _ pages => exact absurd (pages.symm.trans hrest) nofun
    | updating _ pages => exact absurd (pages.symm.trans hrest) nofun
    | rejected _ pages => exact absurd (pages.symm.trans hrest) nofun
  · cases ht

/-! ### The profile page stays in reach -/

theorem inv_step (h : s.Inv) (ht : step s e = some t) (hg : Guard s e) : t.Inv := by
  cases e with
  | profileReply reply => exact inv_profileReply h ht
  | updateProfile =>
    obtain ⟨⟨hpages, hget⟩, ht⟩ := Option.ite_none_right_eq_some.mp ht
    cases ht
    have received : s.loadingProfile = false := by
      rw [← Bool.not_eq_true]
      exact fun hloading => absurd ((h.loads hloading).2.symm.trans hget) nofun
    cases h.shape with
    | profile _ updates state => exact .of_shape (.editing rfl updates state) received
    | failed _ pages => exact absurd (pages.symm.trans hpages) nofun
    | editing pages => exact absurd (pages.symm.trans hpages) nofun
    | updating _ pages => exact absurd (pages.symm.trans hpages) nofun
    | rejected _ pages => exact absurd (pages.symm.trans hpages) nofun
  | edit e =>
    simp only [step] at ht
    split at ht
    · obtain ⟨-, ht⟩ := Option.ite_none_left_eq_some.mp ht
      cases ht
      exact h.keep rfl rfl rfl rfl rfl
    · cases ht
  | imageRead index =>
    obtain ⟨form, -, hmap⟩ := Option.bind_eq_some_iff.mp ht
    obtain ⟨picked, -, rfl⟩ := Option.map_eq_some_iff.mp hmap
    exact h.keep rfl rfl rfl rfl rfl
  | rebuild =>
    obtain ⟨form, -, rfl⟩ := Option.map_eq_some_iff.mp ht
    exact h.keep rfl rfl rfl rfl rfl
  | save => exact inv_save h ht
  | updateReply reply => exact (step_updateReply h ht).1 hg
  | okay => exact inv_okay h ht
  | dismiss => exact (step_dismiss h ht).1 hg
  | back => exact inv_back h ht

theorem stuck_step (h : s.Stuck) (ht : step s e = some t) : t.Stuck := by
  cases e with
  | profileReply reply =>
    obtain ⟨hloading, -⟩ := Option.ite_none_right_eq_some.mp ht
    exact absurd (h.received.symm.trans hloading) Bool.false_ne_true
  | updateProfile =>
    obtain ⟨⟨hpages, -⟩, -⟩ := Option.ite_none_right_eq_some.mp ht
    exact absurd (h.pages.symm.trans hpages) nofun
  | edit e =>
    simp only [step] at ht
    split at ht
    · next hrest => exact absurd (h.pages.symm.trans hrest) nofun
    · cases ht
  | imageRead index =>
    obtain ⟨form, -, hmap⟩ := Option.bind_eq_some_iff.mp ht
    obtain ⟨picked, -, rfl⟩ := Option.map_eq_some_iff.mp hmap
    exact h.keep rfl rfl rfl
  | rebuild =>
    obtain ⟨form, -, rfl⟩ := Option.map_eq_some_iff.mp ht
    exact h.keep rfl rfl rfl
  | save =>
    simp only [step] at ht
    split at ht
    · next hrest => exact absurd (h.pages.symm.trans hrest) nofun
    · cases ht
  | updateReply reply =>
    simp only [step, h.updates] at ht
    cases ht
  | okay =>
    simp only [step, h.pages] at ht
    cases ht
  | dismiss =>
    simp only [step, h.pages] at ht
    cases ht
  | back =>
    simp only [step, h.pages] at ht
    cases ht

theorem stuck_of_not_guard (h : s.Inv) (ht : step s e = some t) (hg : ¬ Guard s e) : t.Stuck := by
  cases e with
  | updateReply reply => exact (step_updateReply h ht).2 (not_not.mp hg)
  | dismiss => exact (step_dismiss h ht).2 hg
  | _ => exact absurd trivial hg

theorem updates_listen (s : ProfileSession) (previous : RequestState) : (s.listen previous).updates = s.updates := by
  rw [listen]
  split
  · rfl
  · split <;> rfl

theorem updates_settled (s : ProfileSession) : s.settled.updates = s.updates := by
  rw [settled]
  split <;> rfl

theorem pages_settled (s : ProfileSession) : s.settled.pages = s.pages := by
  rw [settled]
  split <;> rfl

theorem canReach_of_editing (hpages : s.pages = [.editUserProfile]) : CanReach step (fun t => t.pages = []) s := by
  have hback : step s .back = some { s with pages := [] }.settled := by simp only [step, hpages]
  exact canReach_step hback (canReach_here (pages_settled _))

/-- The ways back without a request: the button of a dialog, the back button of the screen. -/
theorem canReach_of_updates (h : s.Inv) (hupdates : s.updates = []) : CanReach step (fun t => t.pages = []) s := by
  cases h.shape with
  | profile pages => exact canReach_here pages
  | failed message pages =>
    have hokay : step s .okay = some { s with pages := s.pages.drop 1 }.settled := by simp only [step, pages]
    refine canReach_step hokay (canReach_here ?_)
    rw [pages_settled, pages]
    rfl
  | editing pages => exact canReach_of_editing pages
  | updating update _ updates => exact absurd (updates.symm.trans hupdates) nofun
  | rejected message pages =>
    have hokay : step s .okay = some { s with pages := s.pages.drop 2 }.settled := by simp only [step, pages]
    refine canReach_step hokay (canReach_of_editing ?_)
    rw [pages_settled, pages]
    rfl

/-- An update that is under way may still fail for want of a connection. -/
theorem canReach_profile (h : s.Inv) : CanReach step (fun t => t.pages = []) s := by
  cases hupdates : s.updates with
  | nil => exact canReach_of_updates h hupdates
  | cons update updates =>
    have hreply : step s (.updateReply none) = some ({ s with updates }.endUpdate none).settled := by
      simp only [step, hupdates]
    have hnil : updates = [] := by
      cases h.shape with
      | updating _ _ hone =>
        cases hone.symm.trans hupdates
        rfl
      | profile _ hnone => exact absurd (hnone.symm.trans hupdates) nofun
      | failed _ _ hnone => exact absurd (hnone.symm.trans hupdates) nofun
      | editing _ hnone => exact absurd (hnone.symm.trans hupdates) nofun
      | rejected _ _ hnone => exact absurd (hnone.symm.trans hupdates) nofun
    refine canReach_step hreply (canReach_of_updates ((step_updateReply h hreply).1 nofun) ?_)
    rw [updates_settled]
    exact (updates_listen _ _).trans hnil

theorem inv_start : Inv {} where
  shape := .profile rfl rfl nofun
  loads _ := ⟨rfl, rfl⟩

/-- The profile page stays in reach exactly when no reply goes through the repository and no message of a rejected update is
    left but by its button: else the loading dialog stays for good. -/
theorem canReach_profile_iff (es : List ProfileEvent) :
    Along step (CanReach step fun s => s.pages = []) {} es ↔ Guarded step Guard {} es :=
  along_canReach_iff_guarded (fun _ h => canReach_profile h) (fun _ _ _ h ht hg => inv_step h ht hg)
    (fun _ _ _ h ht hg => stuck_of_not_guard h ht hg) (fun _ _ _ h ht => stuck_step h ht)
    (fun _ h hnil => absurd (h.pages.symm.trans hnil) nofun) inv_start

end ProfileSession

/-! ### What an update has -/

namespace ProfileForm
variable {form : ProfileForm}

/-- An update has what the fields show; the bytes of a file may still be on the way. -/
structure Sends (form : ProfileForm) : Prop where
  fields : { form.newUserData with imageContent := none } = { form.shown with imageContent := none }
  image : form.reading = [] → form.newUserData.imageContent = form.shown.imageContent

theorem sends_iff : form.Sends ↔
    form.updatedGender.getD form.userOldData.gender = form.selectedGender ∧
    form.updatedBirthDate.getD form.userOldData.birthDate = form.userOldData.birthDate ∧
    form.fileName = form.pickedImage.map PickedImage.name ∧
    (form.reading = [] → form.photoIn64 = form.pickedImage.map PickedImage.base64) := by
  constructor
  · rintro ⟨hfields, himage⟩
    simp only [newUserData, shown, UpdateUserEntity.mk.injEq, Option.some.injEq] at hfields
    exact ⟨hfields.2.2.2.1, hfields.2.2.1, hfields.2.2.2.2.1, himage⟩
  · rintro ⟨hgender, hdate, hname, himage⟩
    refine ⟨?_, himage⟩
    simp only [newUserData, shown, hgender, hdate, hname]

theorem sends_ofUser (user : UserEntity) : (ofUser user).Sends := sends_iff.mpr ⟨rfl, rfl, rfl, fun _ => rfl⟩

theorem sends_edit {e : ProfileEdit} (h : form.Sends) :
    (form.edit e).Sends ↔ (e = .image none → form.pickedImage = none) := by
  obtain ⟨hgender, hdate, hname, himage⟩ := sends_iff.mp h
  rw [sends_iff]
  cases e with
  | firstName text => exact iff_of_true ⟨hgender, hdate, hname, himage⟩ fun heq => by cases heq
  | lastName text => exact iff_of_true ⟨hgender, hdate, hname, himage⟩ fun heq => by cases heq
  | birthDate => exact iff_of_true (sends_iff.mp (sends_ofUser form.userOldData)) fun heq => by cases heq
  | gender value => exact iff_of_true ⟨rfl, hdate, hname, himage⟩ fun heq => by cases heq
  | image picked =>
    cases picked with
    | some picked => exact iff_of_true ⟨hgender, hdate, rfl, fun hnil => absurd hnil (by simp [edit])⟩ fun heq => by cases heq
    | none =>
      constructor
      · rintro ⟨-, -, hnone, -⟩ -
        exact Option.map_eq_none_iff.mp (hname.symm.trans hnone)
      · intro hpicked
        have hnone : form.pickedImage = none := hpicked rfl
        rw [hnone] at hname himage
        exact ⟨hgender, hdate, hname, himage⟩

end ProfileForm

namespace ProfileSession
variable {s t : ProfileSession} {e : ProfileEvent}

/-- An update would have what the screen shows. -/
def SendsShown (s : ProfileSession) : Prop := ∀ form ∈ s.form, form.Sends

/-- The gallery is not closed without a file after one was picked, and the bytes that are read last are those of the last
    file. -/
def PickGuard (s : ProfileSession) : ProfileEvent → Prop
  | .edit e => ∀ form ∈ s.form, e = .image none → form.pickedImage = none
  | .imageRead index => ∀ form ∈ s.form, ∀ picked ∈ form.reading[index]?, form.reading.eraseIdx index = [] →
      some picked.base64 = form.pickedImage.map PickedImage.base64
  | .profileReply _ | .updateProfile | .rebuild | .save | .updateReply _ | .okay | .dismiss | .back => True

theorem SendsShown.keep (h : s.SendsShown) (hform : t.form = s.form) : t.SendsShown := by
  rw [SendsShown, hform]
  exact h

theorem sendsShown_some {form : ProfileForm} (hform : s.form = some form) : s.SendsShown ↔ form.Sends := by
  rw [SendsShown, hform]
  exact ⟨fun h => h form rfl, fun h _ hmem => Option.some.inj hmem ▸ h⟩

theorem SendsShown.settled (h : s.SendsShown) : s.settled.SendsShown := by
  rw [ProfileSession.settled]
  split
  · exact h
  · exact nofun

theorem form_listen (s : ProfileSession) (previous : RequestState) : (s.listen previous).form = s.form := by
  rw [listen]
  split
  · rfl
  · split <;> rfl

theorem form_endUpdate (s : ProfileSession) (reply : Option DioReply) : (s.endUpdate reply).form = s.form := by
  rw [endUpdate]
  split
  · rfl
  · exact form_listen _ _
  · exact form_listen _ _

theorem sendsShown_step (h : s.SendsShown) (ht : step s e = some t) : t.SendsShown ↔ PickGuard s e := by
  cases e with
  | profileReply reply =>
    obtain ⟨-, ht⟩ := Option.ite_none_right_eq_some.mp ht
    cases ht
    refine iff_of_true (h.keep ?_) trivial
    rw [getUserProfileData]
    split <;> rfl
  | updateProfile =>
    obtain ⟨-, ht⟩ := Option.ite_none_right_eq_some.mp ht
    cases ht
    exact iff_of_true ((sendsShown_some rfl).mpr (ProfileForm.sends_ofUser s.userEntity)) trivial
  | edit e =>
    simp only [step] at ht
    split at ht
    · next form rest hform _ =>
      obtain ⟨-, ht⟩ := Option.ite_none_left_eq_some.mp ht
      cases ht
      rw [sendsShown_some rfl, ProfileForm.sends_edit ((sendsShown_some hform).mp h), PickGuard, hform]
      exact ⟨fun hg _ hmem => Option.some.inj hmem ▸ hg, fun hg => hg form rfl⟩
    · cases ht
  | imageRead index =>
    obtain ⟨form, hform, hmap⟩ := Option.bind_eq_some_iff.mp ht
    obtain ⟨picked, hpicked, rfl⟩ := Option.map_eq_some_iff.mp hmap
    obtain ⟨hgender, hdate, hname, -⟩ := ProfileForm.sends_iff.mp ((sendsShown_some hform).mp h)
    rw [sendsShown_some rfl, ProfileForm.sends_iff, PickGuard, hform]
    constructor
    · rintro ⟨-, -, -, himage⟩ _ hmem picked' hmem'
      cases hmem
      cases hpicked.symm.trans hmem'
      exact himage
    · exact fun hg => ⟨hgender, hdate, hname, hg form rfl picked hpicked⟩
  | rebuild =>
    obtain ⟨form, hform, rfl⟩ := Option.map_eq_some_iff.mp ht
    exact iff_of_true ((sendsShown_some rfl).mpr (ProfileForm.sends_ofUser form.userOldData)) trivial
  | save =>
    simp only [step] at ht
    split at ht
    · next form rest hform _ =>
      split at ht
      · cases ht
        have hnew : (startUpdate { s with form := some form.rebuild } form.newUserData).form = some form.rebuild :=
          form_listen _ _
        exact iff_of_true ((sendsShown_some hnew).mpr (ProfileForm.sends_ofUser form.userOldData)) trivial
      · cases ht
        exact iff_of_true h trivial
    · cases ht
  | updateReply reply =>
    simp only [step] at ht
    split at ht
    · cases ht
    · cases ht
      refine iff_of_true (SendsShown.settled ?_) trivial
      exact h.keep (form_endUpdate _ _)
  | okay =>
    simp only [step] at ht
    split at ht
    · cases ht
      refine iff_of_true (SendsShown.settled ?_) trivial
      exact h.keep rfl
    · cases ht
  | dismiss =>
    simp only [step] at ht
    split at ht
    · cases ht
      exact iff_of_true (h.keep rfl) trivial
    · cases ht
  | back =>
    simp only [step] at ht
    split at ht
    · cases ht
      refine iff_of_true (SendsShown.settled ?_) trivial
      exact h.keep rfl
    · cases ht

end ProfileSession

end NextApp
