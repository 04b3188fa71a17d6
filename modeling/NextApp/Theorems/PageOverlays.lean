import NextApp.Model.PageOverlays
import NextApp.Theorems.ServerRequest

/-! # Each request takes down what it has put up

The sheets and dialogs of a page lie on each other in one way, so that the numbers of pops in the code fit. When this holds
however the run goes on, and what breaks it. -/

namespace NextApp.PageOverlays
open Runs

variable {s t : PageOverlays} {e : PageOverlayEvent} {r : OverlayRoute} {rest : List OverlayRoute} {k : PageCall}

/-- What has to lie right below a route. -/
def Fits : OverlayRoute → Option OverlayRoute → Prop
  | .menu, below | .formatDialog, below | .actionDialog, below => below = some .page
  | .sheet _, below => below = some .menu
  | .assignDialog, below => below = some (.sheet .assignments)
  | .shareDialog, below => below = some (.sheet .sharedWith)
  | .app, _ | .page, _ | .userList, _ | .pdfScreen, _ | .loadingDialog, _ => True

/-- The routes down to the last screen that pages are opened from. -/
def Stacked : List OverlayRoute → Prop
  | [] => False
  | r :: rest => r = .app ∨ (Fits r rest.head? ∧ Stacked rest)

/-- What is there instead of the routes that a call has taken down. -/
def leaves : PageCall → CallReply → List OverlayRoute
  | .pickFile, .done => [.loadingDialog, .sheet .attachments]
  | .download, .done => [.pdfScreen]
  | _, _ => []

/-- A call that is over takes down what it has put up, and nothing else; once its context is gone it does nothing. -/
def Kept (s : PageOverlays) : PageOverlayEvent → PageOverlays → Prop
  | .ends index reply, t => ∀ c ∈ s.calls[index]?,
      (s.Mounted c.2 → ∃ below, s.shown = c.1.own ++ below ∧ t.shown = leaves c.1 reply ++ below) ∧
      (¬ s.Mounted c.2 → t.shown = s.shown)
  | _, _ => True

/-- A notification is not opened over what a call has put up, a file that is opened does not fail by a timeout, and a document
    is shown by the printer without an error. -/
def Guard (s : PageOverlays) : PageOverlayEvent → Prop
  | .notification => ∀ c ∈ s.calls, s.Mounted c.2 → c.1 = .layout
  | .ends index reply => ∀ c ∈ s.calls[index]?, s.Mounted c.2 →
      (c.1 = .openFile → reply ≠ .failed true) ∧ (c.1 = .layout → reply = .done)
  | _ => True

structure Inv (s : PageOverlays) : Prop where
  owned : Overlays.Owned PageCall.own PageCall.depth s
  stacked : Stacked s.shown

/-! ### The routes -/

theorem Stacked.tail (h : Stacked (r :: rest)) (hr : r ≠ .app) : Stacked rest := (h.resolve_left hr).2

theorem Stacked.fits (h : Stacked (r :: rest)) (hr : r ≠ .app) : Fits r rest.head? := (h.resolve_left hr).1

/-- Where a route has to lie on another, this is the next. -/
theorem Stacked.next {below : OverlayRoute} (h : Stacked (r :: rest)) (hr : r ≠ .app)
    (hfits : Fits r rest.head? → rest.head? = some below) : ∃ rest', rest = below :: rest' :=
  ⟨rest.tail, (List.cons_head?_tail (hfits (h.fits hr))).symm⟩

theorem own_ne_nil : k.own ≠ [] ↔ k ≠ .layout := by cases k <;> simp [PageCall.own]

/-- Of what a call has put up only the routes on top are tapped on. -/
theorem top_of_own (h : k.own <+: r :: rest) (hne : k.own ≠ []) : r = .loadingDialog ∨ r = .actionDialog ∨ k = .pickFile := by
  cases k <;> simp_all [PageCall.own]

theorem action_of_own (h : k.own <+: .actionDialog :: rest) (hne : k.own ≠ []) : k = .action := by
  cases k <;> simp_all [PageCall.own]

theorem app_not_mem_own : .app ∉ k.own := by cases k <;> simp [PageCall.own]

theorem Stacked.of_append {routes : List OverlayRoute} (h : Stacked (routes ++ rest)) (happ : .app ∉ routes) : Stacked rest := by
  induction routes with
  | nil => exact h
  | cons r routes ih =>
    obtain ⟨hr, happ⟩ := not_or.mp (mt List.mem_cons.mpr happ)
    exact ih (h.tail (Ne.symm hr)) happ

/-! ### Taps -/

/-- The route that a call is made on. -/
def base : PageCall → Option OverlayRoute
  | .comment => some (.sheet .comments)
  | .pickFile | .openFile => some (.sheet .attachments)
  | .assign => some .assignDialog
  | .share => some .shareDialog
  | .print | .download => some .page
  | .action => some .actionDialog
  | .upload | .layout => none

/-- What taps do, by the route on top. -/
inductive Taps : OverlayRoute → List OverlayAct → Prop where
  | push {r route : OverlayRoute} (hr : r ≠ .actionDialog) (hfits : Fits route (some r)) : Taps r [.push route]
  | pop {r : OverlayRoute} (hr : r ≠ .app) : Taps r [.pop]
  | home : Taps .page [.pop, .push .app]
  | call {k : PageCall} {r : OverlayRoute} (hr : base k = some r) : Taps r [.call k]
  | chooseFormat : Taps .formatDialog [.pop, .call .download]

theorem taps_of_acts {acts : List OverlayAct} (h : e.acts r = some acts) : Taps r acts := by
  unfold PageOverlayEvent.acts at h
  split at h <;> cases h
  case h_4 => exact .pop ‹_›
  case h_5 => exact .home
  all_goals first
    | exact .chooseFormat
    | exact .call rfl
    | exact .push (by simp) rfl
    | exact .push (by simp) trivial

/-- Nothing is tapped on under a loading dialog. -/
theorem acts_loading : e.acts .loadingDialog = none := by
  cases e with
  | download oneFormat => cases oneFormat <;> rfl
  | _ => rfl

/-- Only in the dialog of the workflow something may be busy while it is tapped on. -/
theorem Inv.idle_of_tap (h : s.Inv) (hcovered : covered s = false) (hshown : s.shown = r :: rest) (hloading : r ≠ .loadingDialog)
    (haction : r ≠ .actionDialog) : Overlays.Idle PageCall.own s := by
  intro c hc hbusy
  have hown := (h.owned.owns c hc hbusy).1
  rw [hshown] at hown
  rcases top_of_own hown hbusy.1 with hr | hr | hpick
  · exact hloading hr
  · exact haction hr
  · rw [covered, List.any_eq_false] at hcovered
    exact hcovered c hc (decide_eq_true hpick)

/-- A call finds its routes where it is made. -/
theorem call_ready (hstack : Stacked (r :: rest)) (hbase : base k = some r) :
    k.own <+: if k.showsLoading then .loadingDialog :: r :: rest else r :: rest := by
  cases k with
  | assign =>
    cases hbase
    obtain ⟨rest, rfl⟩ := hstack.next (by simp) id
    obtain ⟨rest, rfl⟩ := (hstack.tail (by simp)).next (by simp) id
    exact ⟨_, rfl⟩
  | share =>
    cases hbase
    obtain ⟨rest, rfl⟩ := hstack.next (by simp) id
    obtain ⟨rest, rfl⟩ := (hstack.tail (by simp)).next (by simp) id
    exact ⟨_, rfl⟩
  | comment | pickFile | openFile | print | download | action =>
    cases hbase
    exact ⟨_, rfl⟩
  | upload | layout => cases hbase

theorem Inv.push (h : s.Inv) (hidle : Overlays.Idle PageCall.own s) (hfits : Fits r s.shown.head?) : Inv (Overlays.push s r) where
  owned := h.owned.push hidle
  stacked := .inr ⟨hfits, h.stacked⟩

theorem Inv.drop {n : Nat} (h : s.Inv) (hidle : Overlays.Idle PageCall.own (Overlays.drop s n))
    (hstack : Stacked (s.shown.drop n)) : Inv (Overlays.drop s n) where
  owned := h.owned.drop hidle
  stacked := by rwa [Overlays.shown_drop]

theorem Inv.call (h : s.Inv) (hshown : s.shown = r :: rest) (hbase : base k = some r)
    (hothers : ∀ c ∈ s.calls, s.Busy PageCall.own c → c.1.depth = 0 ∧ k.depth = 0)
    (hidle : k.showsLoading = true → Overlays.Idle PageCall.own s) : Inv (PageOverlays.call s k) := by
  have hstack := h.stacked
  rw [hshown] at hstack
  have hown := call_ready hstack hbase
  rw [PageOverlays.call]
  cases hloading : k.showsLoading with
  | true =>
    have hpushed := h.push (hidle hloading) (r := .loadingDialog) trivial
    rw [hloading, if_pos rfl, ← hshown] at hown
    refine ⟨hpushed.owned.startAt (fun c hc hbusy => ?_) hown, ?_⟩
    · exact absurd hbusy (h.owned.idle_push (hidle hloading) c hc)
    · rw [if_pos rfl, Overlays.shown_startAt]
      exact hpushed.stacked
  | false =>
    rw [hloading, if_neg Bool.false_ne_true, ← hshown] at hown
    refine ⟨h.owned.startAt hothers hown, ?_⟩
    rw [if_neg Bool.false_ne_true, Overlays.shown_startAt]
    exact h.stacked

theorem Inv.tap {acts : List OverlayAct} (h : s.Inv) (hcovered : covered s = false) (hshown : s.shown = r :: rest)
    (hloading : r ≠ .loadingDialog) (ht : Taps r acts) : Inv (acts.foldl act s) := by
  have hstack := h.stacked
  rw [hshown] at hstack
  by_cases haction : r = .actionDialog
  · -- what is busy here has been chosen in the dialog, and ends with it
    subst haction
    have hdepth : ∀ c ∈ s.calls, s.Busy PageCall.own c → c.1.depth = 0 := by
      intro c hc hbusy
      have hown := (h.owned.owns c hc hbusy).1
      rw [hshown] at hown
      rw [action_of_own hown hbusy.1]
      rfl
    cases ht with
    | push hr => exact absurd rfl hr
    | pop =>
      refine h.drop (fun c hc hbusy => ?_) ?_
      · exact h.owned.not_busy_drop hc (hdepth c hc hbusy.of_drop) Nat.one_pos hbusy
      · rw [hshown]
        exact hstack.tail (by simp)
    | @call k _ hbase =>
      obtain rfl : k = .action := by cases k <;> first | rfl | cases hbase
      exact h.call hshown hbase (fun c hc hbusy => ⟨hdepth c hc hbusy, rfl⟩) fun hnot => absurd hnot Bool.false_ne_true
  · have hidle := h.idle_of_tap hcovered hshown hloading haction
    cases ht with
    | push hr hfits => exact h.push hidle (by rwa [hshown])
    | pop hr =>
      refine h.drop hidle.drop ?_
      rw [hshown]
      exact hstack.tail hr
    | home =>
      have hpopped := h.drop (n := 1) hidle.drop (by rw [hshown]; exact hstack.tail (by simp))
      exact hpopped.push hidle.drop trivial
    | call hbase => exact h.call hshown hbase (fun c hc hbusy => absurd hbusy (hidle c hc)) fun _ => hidle
    | chooseFormat =>
      have hpopped := h.drop (n := 1) hidle.drop (by rw [hshown]; exact hstack.tail (by simp))
      obtain ⟨rest, rfl⟩ := hstack.next (by simp) id
      have hpage : (s.drop 1).shown = .page :: rest := by
        rw [Overlays.shown_drop, hshown]
        rfl
      exact hpopped.call hpage rfl (fun c hc hbusy => absurd hbusy (hidle.drop c hc)) fun _ => hidle.drop

/-! ### Calls that are over -/

/-- The pops in the code are as many as the routes that are to go. -/
theorem pops_eq {reply : CallReply} (hopen : k = .openFile → reply ≠ .failed true) (hlayout : k = .layout → reply = .done) :
    k.pops reply = k.own.length := by
  cases k with
  | openFile =>
    have hstays : ¬ (NextApp.openFile reply.download).2 = true := by
      rw [openFile_dialog_iff]
      cases reply with
      | done => exact fun heq => DownloadReply.noConfusion heq
      | failed timeout =>
        cases timeout with
        | false => exact fun heq => by cases heq
        | true => exact absurd rfl (hopen rfl)
    exact if_neg hstays
  | layout =>
    rw [hlayout rfl]
    rfl
  | _ => rfl

theorem leaves_eq_nil {reply : CallReply} (hpick : k = .pickFile → reply ≠ .done) (hdownload : k = .download → reply ≠ .done) :
    leaves k reply = [] := by
  cases k <;> cases reply <;> simp_all [leaves]

theorem Inv.endCall (h : s.Inv) (index : Nat) : Inv (Overlays.endCall s index) := ⟨h.owned.endCall, h.stacked⟩

/-- A call that has routes up ends by taking them down. -/
theorem Inv.takeDown {index context : Nat} (h : s.Inv) (hc : s.calls[index]? = some (k, context)) (hmounted : s.Mounted context)
    (hown : k.own ≠ []) : ∃ below, s.shown = k.own ++ below ∧ Inv ((Overlays.endCall s index).drop k.own.length) ∧
      Overlays.Idle PageCall.own ((Overlays.endCall s index).drop k.own.length) ∧
      ((Overlays.endCall s index).drop k.own.length).shown = below := by
  have hbusy : s.Busy PageCall.own (k, context) := ⟨hown, hmounted⟩
  obtain ⟨below, hbelow⟩ := (h.owned.owns _ (List.mem_of_getElem? hc) hbusy).1
  have hshown : (Overlays.endCall s index).shown.drop k.own.length = below := by
    rw [Overlays.shown_endCall, ← hbelow, List.drop_left]
  have hidle := h.owned.idle_end hc hbusy (List.length_pos_of_ne_nil hown)
  have hstack := h.stacked
  rw [← hbelow] at hstack
  refine ⟨below, hbelow.symm, (h.endCall index).drop hidle ?_, hidle, ?_⟩
  · rw [hshown]
    exact hstack.of_append app_not_mem_own
  · rw [Overlays.shown_drop, hshown]

/-- A picked file is uploaded over the sheet it was picked in. -/
theorem Inv.uploads {index context : Nat} (h : s.Inv) (hc : s.calls[index]? = some (.pickFile, context))
    (hmounted : s.Mounted context) : Inv (((Overlays.endCall s index).push .loadingDialog).start .upload context) := by
  have hbusy : s.Busy PageCall.own (.pickFile, context) := ⟨by simp [PageCall.own], hmounted⟩
  obtain ⟨hown, hcontext⟩ := h.owned.owns _ (List.mem_of_getElem? hc) hbusy
  have hidle : Overlays.Idle PageCall.own (Overlays.endCall s index) := h.owned.idle_endCall hc hbusy (by simp [PageCall.depth])
  have hpushed := (h.endCall index).push hidle (r := .loadingDialog) trivial
  obtain ⟨below, hbelow⟩ := hown
  have hstack := h.stacked
  rw [← hbelow] at hstack
  obtain ⟨rest, rfl⟩ := hstack.next (by simp) id
  refine ⟨hpushed.owned.start (fun c hc hbusy => ?_) ?_ hcontext, hpushed.stacked⟩
  · exact absurd hbusy ((h.endCall index).owned.idle_push hidle c hc)
  · rw [Overlays.shown_push, Overlays.shown_endCall, ← hbelow]
    exact ⟨_, rfl⟩

theorem Inv.ended {index context : Nat} {reply : CallReply} (h : s.Inv) (hc : s.calls[index]? = some (k, context))
    (hmounted : s.Mounted context) (hopen : k = .openFile → reply ≠ .failed true) (hlayout : k = .layout → reply = .done) :
    (PageOverlays.ended s index (k, context) reply).Inv ∧
    ∃ below, s.shown = k.own ++ below ∧ (PageOverlays.ended s index (k, context) reply).shown = leaves k reply ++ below := by
  unfold PageOverlays.ended
  rw [if_pos hmounted]
  split
  · next hk =>
    obtain rfl : k = .pickFile := hk
    obtain ⟨below, hbelow, -⟩ := h.takeDown hc hmounted (by simp [PageCall.own])
    exact ⟨h.uploads hc hmounted, below, hbelow, congrArg (List.cons _) hbelow⟩
  · next hk =>
    obtain rfl : k = .print := hk
    obtain ⟨below, hbelow, hinv, hidle, hshown⟩ := h.takeDown hc hmounted (by simp [PageCall.own])
    obtain ⟨-, hcontext⟩ := h.owned.owns _ (List.mem_of_getElem? hc) ⟨by simp [PageCall.own], hmounted⟩
    refine ⟨⟨hinv.owned.start (fun c hc hbusy => absurd hbusy (hidle c hc)) List.nil_prefix ?_, hinv.stacked⟩, below, hbelow, hshown⟩
    rw [← hcontext]
    exact congrArg (Option.map Prod.fst) List.getElem?_drop
  · next hk =>
    obtain rfl : k = .download := hk
    obtain ⟨below, hbelow, hinv, hidle, hshown⟩ := h.takeDown hc hmounted (by simp [PageCall.own])
    exact ⟨hinv.push hidle trivial, below, hbelow, congrArg (List.cons _) hshown⟩
  · next hpick hprint hdownload =>
    rw [pops_eq hopen hlayout, leaves_eq_nil (fun hk hr => hpick hk hr) (fun hk hr => hdownload hk hr)]
    by_cases hown : k.own = []
    · rw [hown]
      exact ⟨h.endCall index, s.shown, rfl, rfl⟩
    · obtain ⟨below, hbelow, hinv, -, hshown⟩ := h.takeDown hc hmounted hown
      exact ⟨hinv, below, hbelow, hshown⟩

/-! ### Runs -/

theorem Inv.tapped (h : s.Inv) (ht : (if covered s then none else
    s.shown.head?.bind fun route => (e.acts route).map fun acts => acts.foldl act s) = some t) : t.Inv := by
  obtain ⟨hcovered, ht⟩ := Option.ite_none_left_eq_some.mp ht
  obtain ⟨route, hroute, hmap⟩ := Option.bind_eq_some_iff.mp ht
  obtain ⟨acts, hacts, rfl⟩ := Option.map_eq_some_iff.mp hmap
  refine h.tap (eq_false_of_ne_true hcovered) (List.cons_head?_tail hroute).symm ?_ (taps_of_acts hacts)
  rintro rfl
  rw [acts_loading] at hacts
  cases hacts

theorem Inv.idle_of_guard (hg : Guard s .notification) : Overlays.Idle PageCall.own s :=
  fun c hc hbusy => own_ne_nil.mp hbusy.1 (hg c hc hbusy.2)

theorem Inv.step (h : s.Inv) (ht : PageOverlays.step s e = some t) (hg : Guard s e) : t.Inv ∧ Kept s e t := by
  cases e with
  | notification =>
    cases ht
    exact ⟨h.push (Inv.idle_of_guard hg) trivial, trivial⟩
  | ends index reply =>
    obtain ⟨⟨k, context⟩, hc, rfl⟩ := Option.map_eq_some_iff.mp ht
    by_cases hmounted : s.Mounted context
    · obtain ⟨hopen, hlayout⟩ := hg _ hc hmounted
      obtain ⟨hinv, hkept⟩ := h.ended hc hmounted hopen hlayout
      refine ⟨hinv, fun c hc' => ?_⟩
      cases hc.symm.trans hc'
      exact ⟨fun _ => hkept, fun hgone => absurd hmounted hgone⟩
    · unfold PageOverlays.ended
      rw [if_neg hmounted]
      refine ⟨h.endCall index, fun c hc' => ?_⟩
      cases hc.symm.trans hc'
      exact ⟨fun hthere => absurd hthere hmounted, fun _ => rfl⟩
  | _ => exact ⟨h.tapped ht, trivial⟩

theorem layout_of_own (h : k.own ++ rest = .page :: s.shown) : k = .layout := by
  cases k <;> simp_all [PageCall.own]

/-- What the guard leaves out makes a call take down too little or too much. -/
theorem not_kept_ended {index context : Nat} {reply : CallReply} (h : s.Inv) (hmounted : s.Mounted context)
    (hg : ¬ ((k = .openFile → reply ≠ .failed true) ∧ (k = .layout → reply = .done))) :
    ¬ ∃ below, s.shown = k.own ++ below ∧ (PageOverlays.ended s index (k, context) reply).shown = leaves k reply ++ below := by
  rintro ⟨below, hbelow, hshown⟩
  unfold PageOverlays.ended at hshown
  rw [if_pos hmounted] at hshown
  by_cases hopen : k = .openFile → reply ≠ .failed true
  · obtain ⟨rfl, hreply⟩ := Classical.not_imp.mp fun hlayout => hg ⟨hopen, hlayout⟩
    cases reply with
    | done => exact hreply rfl
    | failed timeout =>
      -- the page itself is popped
      have hstack := h.stacked
      have hpopped : s.shown.drop 1 = below := (Overlays.shown_drop).symm.trans hshown
      rw [hbelow] at hpopped hstack
      cases below with
      | nil => exact hstack
      | cons r below => exact List.cons_ne_self r below hpopped.symm
  · obtain ⟨rfl, hreply⟩ := Classical.not_imp.mp hopen
    obtain rfl := not_not.mp hreply
    -- the loading dialog stays
    have hstays : PageCall.pops .openFile (.failed true) = 0 := by
      have hdialog : (NextApp.openFile (.dioException true)).2 = true := (openFile_dialog_iff _).mpr rfl
      show (if (NextApp.openFile (.dioException true)).2 then 0 else 1) = 0
      rw [if_pos hdialog]
    have hsame : s.shown = below := by
      refine Eq.trans ?_ hshown
      rw [Overlays.shown_drop, hstays]
      rfl
    rw [hsame] at hbelow
    exact List.cons_ne_self _ below hbelow.symm

theorem closed_of_not_guard (h : s.Inv) (ht : PageOverlays.step s e = some t) (hg : ¬ Guard s e) :
    ∃ bs, (∀ b ∈ bs, ∃ index, b = .ends index .done) ∧ ¬ Each PageOverlays.step Kept s (e :: bs) := by
  cases e with
  | notification =>
    cases ht
    simp only [Guard, not_forall] at hg
    obtain ⟨c, hc, hmounted, hlayout⟩ := hg
    obtain ⟨index, hindex⟩ := List.getElem?_of_mem hc
    refine ⟨[.ends index .done], fun b hb => ⟨index, List.mem_singleton.mp hb⟩, fun heach => ?_⟩
    have hends : PageOverlays.step (Overlays.push s .page) (.ends index .done) =
        some (PageOverlays.ended (Overlays.push s .page) index c .done) := Option.map_eq_some_iff.mpr ⟨c, hindex, rfl⟩
    have hkept := (heach _ rfl).2 _ hends |>.1
    obtain ⟨below, hbelow, -⟩ := (hkept c hindex).1 (Overlays.mounted_push.mpr (.inr hmounted))
    exact hlayout (layout_of_own hbelow.symm)
  | ends index reply =>
    refine ⟨[], fun b hb => absurd hb List.not_mem_nil, fun heach => ?_⟩
    obtain ⟨c, hc, rfl⟩ := Option.map_eq_some_iff.mp ht
    simp only [Guard, not_forall] at hg
    obtain ⟨c', hc', hmounted, hg⟩ := hg
    cases hc.symm.trans hc'
    exact not_kept_ended h hmounted hg (((heach _ ht).1 _ hc).1 hmounted)
  | _ => exact absurd trivial hg

theorem inv_start : Inv start where
  owned := by
    refine Overlays.owned_of_idle (fun n hn => ?_) (List.nodup_singleton 0) (List.forall_mem_nil _) (List.forall_mem_nil _)
    obtain rfl := List.mem_singleton.mp hn
    exact Nat.one_pos
  stacked := .inl rfl

/-- However a run is left for the replies to come, each call that is over takes down just what it has put up, exactly when every
    step meets the guard. -/
theorem takesDown_iff (es : List PageOverlayEvent) :
    (∀ p, p <+: es → ∀ bs, (∀ b ∈ bs, ∃ index, b = .ends index .done) → Each PageOverlays.step Kept start (p ++ bs)) ↔
      Guarded PageOverlays.step Guard start es := by
  refine each_closed_iff_guarded (fun s e t h ht hg => (Inv.step h ht hg).1) (fun s e t h ht hg => (Inv.step h ht hg).2)
    (fun s e hclosing => ?_) (fun s e t h ht hg => closed_of_not_guard h ht hg) inv_start
  obtain ⟨index, rfl⟩ := hclosing
  exact fun c _ _ => ⟨fun _ heq => CallReply.noConfusion heq, fun _ => rfl⟩

end NextApp.PageOverlays
