import Component.Lib.Run
import Component.Refresh.Trigger

/-!
# The intent behind a release

A header and a footer that is pulled become Pulling when they are dragged beyond a threshold, and a
release in that state begins a refresh. The state is meant to say that the finger was beyond the
threshold last. `Pull.next` is the state machine behind the two handlers, and `followed` says that
the handlers follow it.

Both handlers return before they look at the state when the view is out of sight. A drag from
beyond the threshold to an offset at which the view is not shown leaves it Pulling, and the release
begins a refresh once the view is shown again. `release_intent_iff` says that there is no other way.
-/

namespace Component.Refresh

open Component.Lib.Run

variable {ρ : Type}

/-! ## The state machine -/

/-- What a header or a footer that is pulled compares the content offset with: the offset at which
it appears, and its height. -/
structure Pull where
  footer : Bool
  horizontal : Bool
  happenOffset : CGFloat
  height : CGFloat
  deriving DecidableEq, Repr

namespace Pull

/-- The part of the content offset that is compared. A header reads the vertical one in both
directions. -/
def along (pull : Pull) (contentOffset : CGPoint) : CGFloat :=
  if pull.footer && pull.horizontal then contentOffset.x else contentOffset.y

/-- The handler does not return at once. -/
def Shows (pull : Pull) (contentOffset : CGPoint) : Prop :=
  if pull.footer then pull.happenOffset < pull.along contentOffset
  else pull.along contentOffset ≤ pull.happenOffset

/-- The content offset is beyond the threshold for pulling. -/
def Beyond (pull : Pull) (contentOffset : CGPoint) : Prop :=
  if pull.footer then pull.happenOffset + pull.height < pull.along contentOffset
  else pull.along contentOffset < pull.happenOffset - pull.height

instance (pull : Pull) (contentOffset : CGPoint) : Decidable (pull.Shows contentOffset) :=
  inferInstanceAs (Decidable (ite _ _ _))

instance (pull : Pull) (contentOffset : CGPoint) : Decidable (pull.Beyond contentOffset) :=
  inferInstanceAs (Decidable (ite _ _ _))

/-- A footer shows beyond the offset at which it begins to show. -/
theorem shows_of_footer {pull : Pull} (h : pull.footer = true) (contentOffset : CGPoint) :
    pull.Shows contentOffset ↔ pull.happenOffset < pull.along contentOffset := by
  rw [Shows, if_pos h]

/-- A header shows before the offset at which it begins to show. -/
theorem shows_of_header {pull : Pull} (h : pull.footer = false) (contentOffset : CGPoint) :
    pull.Shows contentOffset ↔ pull.along contentOffset ≤ pull.happenOffset := by
  rw [Shows, if_neg (by simp [h])]

/-- A footer is pulled far enough when all of it shows. -/
theorem beyond_of_footer {pull : Pull} (h : pull.footer = true) (contentOffset : CGPoint) :
    pull.Beyond contentOffset ↔ pull.happenOffset + pull.height < pull.along contentOffset := by
  rw [Beyond, if_pos h]

/-- A header is pulled far enough when all of it shows. -/
theorem beyond_of_header {pull : Pull} (h : pull.footer = false) (contentOffset : CGPoint) :
    pull.Beyond contentOffset ↔ pull.along contentOffset < pull.happenOffset - pull.height := by
  rw [Beyond, if_neg (by simp [h])]

/-- The state after the content offset has changed. -/
def next (pull : Pull) (inWindow : Bool) (state : MJRefreshState) (contentOffset : CGPoint)
    (isDragging : Bool) : MJRefreshState :=
  if pull.Shows contentOffset then
    if isDragging then
      if state = .idle ∧ pull.Beyond contentOffset then .pulling
      else if state = .pulling ∧ ¬ pull.Beyond contentOffset then .idle
      else state
    else if state = .pulling then if inWindow then .refreshing else .willRefresh
    else state
  else state

variable {pull : Pull} {inWindow isDragging : Bool} {state : MJRefreshState} {offset : CGPoint}

/-- A refresh that has begun goes on. -/
theorem next_of_active (h : state.IsActive) :
    pull.next inWindow state offset isDragging = state := by
  rcases h with rfl | rfl <;> simp [next]

/-- A view that does not show keeps its state. -/
theorem next_of_not_shows (h : ¬ pull.Shows offset) :
    pull.next inWindow state offset isDragging = state := if_neg h

/-- While a view that shows is dragged, an idle one becomes pulling when all of it shows, and a
pulling one becomes idle when not all of it does. -/
theorem next_of_dragged (h : pull.Shows offset) :
    pull.next inWindow state offset true =
      if state = .idle ∧ pull.Beyond offset then .pulling
      else if state = .pulling ∧ ¬ pull.Beyond offset then .idle
      else state := by
  rw [next, if_pos h, if_pos rfl]

/-- Letting go of a view starts a refresh just when it was pulled far enough. -/
theorem next_of_released (h : pull.Shows offset) :
    pull.next inWindow state offset false =
      if state = .pulling then if inWindow then .refreshing else .willRefresh else state := by
  rw [next, if_pos h, if_neg Bool.false_ne_true]

/-- Only a release begins a refresh. -/
theorem not_dragging_of_active (hpulling : state = .pulling)
    (h : (pull.next inWindow state offset isDragging).IsActive) : isDragging = false := by
  cases isDragging with
  | false => rfl
  | true =>
      have hnext : pull.next inWindow state offset true = .pulling ∨
          pull.next inWindow state offset true = .idle := by
        simp only [next, hpulling, if_true]
        split_ifs <;> simp
      rcases hnext with hnext | hnext <;> rw [hnext] at h <;> rcases h with h | h <;> cases h

/-- A release of a view that is shown begins a refresh. -/
theorem active_of_release (h : pull.Shows offset) :
    (pull.next inWindow .pulling offset false).IsActive := by
  rw [next_of_released h, if_pos rfl]
  cases inWindow with
  | false => exact .inr rfl
  | true => exact .inl rfl

/-- A view that is still Pulling was dragged beyond the threshold or it was not looked at. -/
theorem beyond_of_dragged (h : pull.next inWindow state offset true = .pulling)
    (hshows : pull.Shows offset) : pull.Beyond offset := by
  rw [next_of_dragged hshows] at h
  split_ifs at h with hidle hpulling
  · exact hidle.2
  · by_contra hback
    exact hpulling ⟨h, hback⟩

/-- Without a drag a view does not become Pulling. -/
theorem pulling_of_released (h : pull.next inWindow state offset false = .pulling) :
    state = .pulling := by
  by_cases hshows : pull.Shows offset
  · rw [next_of_released hshows] at h
    split at h
    next hpulling => exact hpulling
    next => exact h
  · rwa [next_of_not_shows hshows] at h

/-- There is an offset at which the view is shown. -/
theorem exists_shows (pull : Pull) : ∃ offset, pull.Shows offset := by
  cases hfooter : pull.footer with
  | false => exact ⟨⟨0, pull.happenOffset⟩, by simp [Shows, along, hfooter]⟩
  | true =>
      refine ⟨⟨pull.happenOffset + 1, pull.happenOffset + 1⟩, ?_⟩
      simp [Shows, along, hfooter]

end Pull

/-- The thresholds of a view, with the inset that its scroll view has. -/
def Sys.pull (s : Sys ρ) : Pull where
  footer := s.view.refreshMore
  horizontal := s.view.horizontalDirection
  happenOffset :=
    if s.view.refreshMore then MJRefreshView.happenOffsetY (MJRefreshComponent.rememberInset s)
    else -(MJRefreshComponent.rememberInset s).view.scrollAsixOriginInsetTop
  height := s.view.asxiHeight

/-! ## Setting the state -/

namespace MJRefreshView

/-- Notifications do nothing to a footer that is pulled and refreshes. -/
def SparesRefreshing (notify : Notify ρ) : Prop :=
  ∀ old new s, s.view.refreshMore = true → s.view.refreshBack = true →
    s.view.state = .refreshing → notify old new s = s

/-- Notifications at every depth do nothing to a footer that is pulled and refreshes. -/
theorem notify_within_spares (depth : Nat) :
    SparesRefreshing (refreshClass.notifyWithin depth : Notify ρ) :=
  fun old new _ hmore hback hstate => notify_within_of_refreshing hmore hback hstate depth old new

variable {notify : Notify ρ} {s : Sys ρ}

/-- Nothing more than the state changes outside a refresh. -/
theorem set_state_of_pulled (hpulled : s.view.pulled = true) {state : MJRefreshState}
    (hnew : state ≠ s.view.state) (hold : s.view.state ≠ .refreshing)
    (hstate : state ≠ .refreshing) :
    setState notify state s = MJRefreshComponent.setState state s := by
  cases hmore : s.view.refreshMore with
  | false =>
      rw [set_state_header notify hmore hnew]
      simp [headerStateDidChange, hold, hstate]
  | true =>
      rw [set_state_back notify hmore (RefreshView.back_of_pulled hpulled hmore) hnew]
      simp [backFooterStateDidChange, hold, hstate]

/-- The kind and the state of a view that begins to refresh. -/
theorem set_state_refreshing_of_pulled (hnotify : SparesRefreshing notify)
    (hpulled : s.view.pulled = true) (hold : s.view.state ≠ .refreshing) :
    (setState notify .refreshing s).view.refreshMore = s.view.refreshMore ∧
      (setState notify .refreshing s).view.refreshBack = s.view.refreshBack ∧
      (setState notify .refreshing s).view.state = .refreshing := by
  cases hmore : s.view.refreshMore with
  | false =>
      have hview : (setState notify .refreshing s).view = { s.view with state := .refreshing } := by
        rw [set_state_header notify hmore hold.symm, headerStateDidChange, if_neg (by simp),
          if_pos rfl, headerRefreshingAction]
        split
        · split
          · exact Sys.update_scroll_view _ _
          · rfl
        · rfl
      rw [hview]
      exact ⟨hmore, rfl, rfl⟩
  | true =>
      have hback := RefreshView.back_of_pulled hpulled hmore
      rw [set_state_back notify hmore hback hold.symm, backFooterStateDidChange,
        if_neg (by simp), if_pos rfl, backFooterRefreshingAction]
      generalize henlarged : backFooterEnlarge (MJRefreshComponent.setState .refreshing s) =
        enlarged
      have hview : enlarged.view.refreshMore = true ∧ enlarged.view.refreshBack = true ∧
          enlarged.view.state = .refreshing := by
        rw [← henlarged, backFooterEnlarge]
        simp [hmore, hback]
      obtain ⟨hmore', hback', hstate'⟩ := hview
      -- a footer that refreshes already ignores the move to the end of the content
      have hscrolled : ∀ offset,
          (enlarged.setContentOffset notify offset).view = enlarged.view := by
        intro offset
        rw [Sys.setContentOffset]
        split
        · rw [hnotify _ _ (enlarged.mapScroll _) hmore' hback' hstate']
          rfl
        · rfl
      simp only [Sys.animate_view, hscrolled]
      exact ⟨hmore', hback'.trans hback.symm, hstate'⟩

/-- The kind and the state of a Pulling view that is released. -/
theorem begin_refreshing_of_pulled (hnotify : SparesRefreshing notify)
    (hpulled : s.view.pulled = true) (hfree : s.view.triggerByDrag = false)
    (hpulling : s.view.state = .pulling) :
    (beginRefreshing notify s).view.refreshMore = s.view.refreshMore ∧
      (beginRefreshing notify s).view.refreshBack = s.view.refreshBack ∧
      (beginRefreshing notify s).view.state =
        if s.view.inWindow then .refreshing else .willRefresh := by
  rw [beginRefreshing, if_neg (by simp [hfree]), MJRefreshComponent.beginRefreshing]
  generalize hready : MJRefreshComponent.setPullingPercent 1
    (s.mapView fun view => { view with alpha := 1 }) = ready
  have hview : ready.view.refreshMore = s.view.refreshMore ∧
      ready.view.refreshBack = s.view.refreshBack ∧ ready.view.inWindow = s.view.inWindow ∧
      ready.view.state = .pulling := by
    rw [← hready]
    exact ⟨rfl, rfl, rfl, hpulling⟩
  obtain ⟨hmore, hback, hwindow, hstate⟩ := hview
  have hready' : ready.view.pulled = true := by
    rw [RefreshView.pulled, hmore, hback]
    exact hpulled
  rw [← hmore, ← hback, ← hwindow]
  split
  · exact set_state_refreshing_of_pulled hnotify hready' (by simp [hstate])
  · rw [if_pos (by simp [hstate]), set_state_of_pulled hready' (by simp [hstate])
      (by simp [hstate]) (by simp)]
    exact ⟨rfl, rfl, rfl⟩

end MJRefreshView

/-! ## The handlers follow the state machine -/

/-- The same view in front of the same scroll view, up to its state, its appearance and the inset it
remembers. -/
structure Kin (s t : Sys ρ) : Prop where
  scrollView : t.scrollView = s.scrollView
  view : ∃ inset percent alpha state, t.view = { s.view with
    scrollViewOriginalInset := inset
    pullingPercent := percent
    alpha := alpha
    state := state }

namespace Kin

variable {s t u : Sys ρ}

/-- Two changes up to state, appearance and remembered inset make one. -/
theorem trans (h : Kin s t) (h' : Kin t u) : Kin s u := by
  obtain ⟨inset, percent, alpha, state, hview⟩ := h.view
  obtain ⟨inset', percent', alpha', state', hview'⟩ := h'.view
  exact ⟨h'.scrollView.trans h.scrollView, inset', percent', alpha', state', by rw [hview', hview]⟩

/-- A view is kin to itself. -/
theorem refl (s : Sys ρ) : Kin s s := ⟨rfl, _, _, _, _, rfl⟩

/-- The scroll view is the same. -/
theorem sv (h : Kin s t) : t.sv = s.sv := by
  obtain ⟨inset, percent, alpha, state, hview⟩ := h.view
  rw [Sys.sv, Sys.sv, h.scrollView, hview]

/-- The view is still one that is pulled. -/
theorem is_pulled (h : Kin s t) (hpulled : s.view.pulled = true) : t.view.pulled = true := by
  obtain ⟨inset, percent, alpha, state, hview⟩ := h.view
  rw [RefreshView.pulled, hview]
  exact hpulled

/-- Remembering the inset is such a change. -/
theorem remember_inset (s : Sys ρ) : Kin s (MJRefreshComponent.rememberInset s) :=
  ⟨rfl, _, _, _, _, rfl⟩

/-- Setting the pulling percent is such a change. -/
theorem set_pulling_percent (percent : CGFloat) (s : Sys ρ) :
    Kin s (MJRefreshComponent.setPullingPercent percent s) := ⟨rfl, _, _, _, _, rfl⟩

/-- Storing a state is such a change. -/
theorem component_set_state (state : MJRefreshState) (s : Sys ρ) :
    Kin s (MJRefreshComponent.setState state s) := ⟨rfl, _, _, _, _, rfl⟩

end Kin

/-- What a notification makes of a view, as the state machine has it. -/
structure Followed (s t : Sys ρ) : Prop where
  more : t.view.refreshMore = s.view.refreshMore
  back : t.view.refreshBack = s.view.refreshBack
  state : t.view.state =
    s.pull.next s.view.inWindow s.view.state s.sv.contentOffset s.sv.isDragging
  kin : ¬ t.view.state.IsActive → Kin s t

/-- A view follows the state machine if only its state has changed and it is the next one. -/
theorem Followed.of_kin {s t : Sys ρ} (h : Kin s t)
    (hstate : t.view.state =
      s.pull.next s.view.inWindow s.view.state s.sv.contentOffset s.sv.isDragging) :
    Followed s t := by
  obtain ⟨inset, percent, alpha, state, hview⟩ := h.view
  exact ⟨by rw [hview], by rw [hview], hstate, fun _ => h⟩

namespace MJRefreshView

variable {notify : Notify ρ} {s : Sys ρ}

/-- A view that is dragged within sight. -/
theorem followed_dragged {t : Sys ρ} (hkin : Kin s t) (hstate : t.view.state = s.view.state)
    (hpulled : s.view.pulled = true) (hshows : s.pull.Shows s.sv.contentOffset)
    (hdragging : s.sv.isDragging = true) {pulled : Bool}
    (hbeyond : pulled = true ↔ s.pull.Beyond s.sv.contentOffset) :
    Followed s
      (if t.view.state = .idle ∧ pulled then setState notify .pulling t
      else if t.view.state = .pulling ∧ ¬ pulled then setState notify .idle t
      else t) := by
  have hpulled' := hkin.is_pulled hpulled
  have hnext : s.pull.next s.view.inWindow s.view.state s.sv.contentOffset s.sv.isDragging =
      if t.view.state = .idle ∧ pulled then .pulling
      else if t.view.state = .pulling ∧ ¬ pulled then .idle
      else t.view.state := by
    rw [hdragging, hstate, Pull.next_of_dragged hshows]
    simp only [hbeyond]
  split
  next hstart =>
    rw [set_state_of_pulled hpulled' (by simp [hstart.1]) (by simp [hstart.1]) (by simp)]
    rw [if_pos hstart] at hnext
    exact .of_kin (hkin.trans (Kin.component_set_state _ _)) hnext.symm
  next hstart =>
    rw [if_neg hstart] at hnext
    split
    next hreturn =>
      rw [set_state_of_pulled hpulled' (by simp [hreturn.1]) (by simp [hreturn.1]) (by simp)]
      rw [if_pos hreturn] at hnext
      exact .of_kin (hkin.trans (Kin.component_set_state _ _)) hnext.symm
    next hreturn =>
      rw [if_neg hreturn] at hnext
      exact .of_kin hkin hnext.symm

/-- A view that is not dragged, within sight. -/
theorem followed_released {t : Sys ρ} (hnotify : SparesRefreshing notify) (hkin : Kin s t)
    (hstate : t.view.state = s.view.state) (hpulled : s.view.pulled = true)
    (hfree : s.view.state = .pulling → s.view.triggerByDrag = false)
    (hshows : s.pull.Shows s.sv.contentOffset) (hdragging : s.sv.isDragging = false)
    (percent : CGFloat) :
    Followed s
      (if t.view.state = .pulling then beginRefreshing notify t
      else if percent < 1 then MJRefreshComponent.setPullingPercent percent t
      else t) := by
  obtain ⟨inset, percent', alpha, state, hview⟩ := hkin.view
  have hnext : s.pull.next s.view.inWindow s.view.state s.sv.contentOffset s.sv.isDragging =
      if s.view.state = .pulling then if s.view.inWindow then .refreshing else .willRefresh
      else s.view.state := by
    rw [hdragging, Pull.next_of_released hshows]
  split
  next hpulling =>
    have hbefore : s.view.state = .pulling := hstate ▸ hpulling
    obtain ⟨hmore, hback, hactive⟩ := begin_refreshing_of_pulled hnotify
      (hkin.is_pulled hpulled) (by rw [hview]; exact hfree hbefore) hpulling
    rw [hview] at hmore hback hactive
    refine ⟨hmore, hback, ?_, fun hnot => absurd ?_ hnot⟩
    · rw [hactive, hnext, if_pos hbefore]
    · rw [hactive]
      split
      · exact .inl rfl
      · exact .inr rfl
  next hpulling =>
    rw [if_neg (hstate ▸ hpulling)] at hnext
    split
    · exact .of_kin (hkin.trans (Kin.set_pulling_percent percent t)) (hstate.trans hnext.symm)
    · exact .of_kin hkin (hstate.trans hnext.symm)

/-- The end of the handlers. -/
theorem followed_pulling_did_change (hnotify : SparesRefreshing notify)
    (hpulled : s.view.pulled = true)
    (hfree : s.view.state = .pulling → s.view.triggerByDrag = false)
    (hshows : s.pull.Shows s.sv.contentOffset) {pulled : Bool}
    (hbeyond : pulled = true ↔ s.pull.Beyond s.sv.contentOffset) (percent : CGFloat) :
    Followed s (pullingDidChange notify pulled percent (MJRefreshComponent.rememberInset s)) := by
  have hkin := Kin.remember_inset s
  unfold pullingDidChange MJRefreshComponent.pullingDidChange
  rw [hkin.sv]
  cases hdragging : s.sv.isDragging with
  | true =>
      exact followed_dragged (hkin.trans (Kin.set_pulling_percent percent _)) rfl hpulled hshows
        hdragging hbeyond
  | false => exact followed_released hnotify hkin rfl hpulled hfree hshows hdragging percent

/-- The content offset handler of footers that are pulled follows the state machine. -/
theorem followed_back_footer (hnotify : SparesRefreshing notify) (hmore : s.view.refreshMore = true)
    (hpulled : s.view.pulled = true)
    (hfree : s.view.state = .pulling → s.view.triggerByDrag = false) :
    Followed s (backFooterContentOffsetDidChange notify s) := by
  have halong : (MJRefreshComponent.rememberInset s).scrollAsixOffsetY =
      s.pull.along s.sv.contentOffset := by
    simp only [Pull.along, Sys.pull, hmore, Bool.true_and]
    rfl
  have happen : happenOffsetY (MJRefreshComponent.rememberInset s) = s.pull.happenOffset := by
    simp only [Sys.pull, hmore, if_true]
  rw [backFooterContentOffsetDidChange]
  split
  next hrefreshing =>
    -- a refreshing footer returns at once
    refine .of_kin (Kin.refl s) ?_
    rw [Pull.next_of_active (.inl hrefreshing)]
  next hrefreshing =>
    dsimp only
    rw [halong, happen]
    split
    next hhidden =>
      refine .of_kin (Kin.remember_inset s) ?_
      rw [Pull.next_of_not_shows ((Pull.shows_of_footer hmore _).not.mpr (not_lt.mpr hhidden))]
      rfl
    next hshown =>
      have hshows : s.pull.Shows s.sv.contentOffset :=
        (Pull.shows_of_footer hmore _).mpr (not_le.mp hshown)
      split
      next hdata =>
        -- without more data only the percentage is set
        have hdata : s.view.state = .noMoreData := hdata
        refine .of_kin ((Kin.remember_inset s).trans (Kin.set_pulling_percent _ _)) ?_
        simp [Pull.next, hdata]
        exact hdata
      next =>
        refine followed_pulling_did_change hnotify hpulled hfree hshows ?_ _
        rw [decide_eq_true_iff, Pull.beyond_of_footer hmore]
        exact Iff.rfl

/-- The kind and the state of a refreshing header that is scrolled. -/
theorem reset_inset_kind (s : Sys ρ) :
    (resetInset s).view.refreshMore = s.view.refreshMore ∧
      (resetInset s).view.refreshBack = s.view.refreshBack ∧
      (resetInset s).view.state = s.view.state := by
  unfold resetInset
  split
  · exact ⟨rfl, rfl, rfl⟩
  · dsimp only
    split
    · unfold Sys.setScrollAsixInsetTop
      split <;> rw [Sys.update_scroll_view] <;> exact ⟨rfl, rfl, rfl⟩
    · exact ⟨rfl, rfl, rfl⟩

/-- The content offset handler of headers follows the state machine. -/
theorem followed_header (hnotify : SparesRefreshing notify) (hmore : s.view.refreshMore = false)
    (hfree : s.view.state = .pulling → s.view.triggerByDrag = false) :
    Followed s (headerContentOffsetDidChange notify s) := by
  have hpulled : s.view.pulled = true := by simp [RefreshView.pulled, hmore]
  have halong : (MJRefreshComponent.rememberInset s).sv.contentOffset.y =
      s.pull.along s.sv.contentOffset := by
    simp only [Pull.along, Sys.pull, hmore, Bool.false_and]
    rfl
  have happen : -(MJRefreshComponent.rememberInset s).view.scrollAsixOriginInsetTop =
      s.pull.happenOffset := by
    simp only [Sys.pull, hmore, Bool.false_eq_true, if_false]
  rw [headerContentOffsetDidChange]
  split
  next hrefreshing =>
    -- a refreshing header only adjusts the inset
    obtain ⟨hmore', hback', hstate'⟩ := reset_inset_kind s
    refine ⟨hmore', hback', ?_, fun hnot => absurd (.inl (hstate'.trans hrefreshing)) hnot⟩
    rw [Pull.next_of_active (.inl hrefreshing), hstate']
  next hrefreshing =>
    dsimp only
    rw [halong, happen]
    split
    next hhidden =>
      refine .of_kin (Kin.remember_inset s) ?_
      rw [Pull.next_of_not_shows ((Pull.shows_of_header hmore _).not.mpr (not_le.mpr hhidden))]
      rfl
    next hshown =>
      have hshows : s.pull.Shows s.sv.contentOffset :=
        (Pull.shows_of_header hmore _).mpr (not_lt.mp hshown)
      refine followed_pulling_did_change hnotify hpulled hfree hshows ?_ _
      rw [decide_eq_true_iff, Pull.beyond_of_header hmore]
      exact Iff.rfl

/-- Both handlers follow the state machine. -/
theorem followed (hnotify : SparesRefreshing notify) (hpulled : s.view.pulled = true)
    (hfree : s.view.state = .pulling → s.view.triggerByDrag = false) (old new : CGPoint) :
    Followed s (scrollViewContentOffsetDidChange notify old new s) := by
  rw [scrollViewContentOffsetDidChange]
  split
  next hmore =>
    rw [if_pos (RefreshView.back_of_pulled hpulled hmore)]
    exact followed_back_footer hnotify hmore hpulled hfree
  next hmore => exact followed_header hnotify (Bool.not_eq_true _ ▸ hmore) hfree

end MJRefreshView

/-! ## Runs of scroll events -/

/-- A change of the content offset, with the dragging flag at that moment. -/
structure Scroll where
  offset : CGPoint
  isDragging : Bool
  deriving DecidableEq, Repr

/-- A view with the offset of the most recent dragging event. -/
structure Tracked where
  sys : Sys Unit
  lastDrag : Option CGPoint

/-- The content offset changes. -/
def Tracked.step (depth : Nat) (t : Tracked) (scroll : Scroll) : Tracked where
  sys := MJRefreshView.step (depth + 1) t.sys (.contentOffset scroll.offset scroll.isDragging)
  lastDrag := if scroll.isDragging then some scroll.offset else t.lastDrag

/-- Whatever the next change of the content offset is, it moves the view from Pulling to refreshing,
or to the state before that outside a window, only if the most recent drag was beyond the
threshold. -/
def ReleaseIntent (depth : Nat) (t : Tracked) : Prop :=
  ∀ scroll, t.sys.view.state = .pulling → (t.step depth scroll).sys.view.state.IsActive →
    ∃ offset, (t.step depth scroll).lastDrag = some offset ∧ t.sys.pull.Beyond offset

/-- The scroll event drags a Pulling view out of sight without dragging it beyond the threshold. -/
def DragsOut (t : Tracked) (scroll : Scroll) : Prop :=
  t.sys.view.state = .pulling ∧ scroll.isDragging = true ∧ ¬ t.sys.pull.Shows scroll.offset ∧
    ¬ t.sys.pull.Beyond scroll.offset

instance (t : Tracked) (scroll : Scroll) : Decidable (DragsOut t scroll) :=
  inferInstanceAs (Decidable (_ ∧ _))

/-- A header or a footer that is pulled, which is refreshing or attached to its scroll view. Drags
are noted by the other footers only. -/
structure Sys.Ready (s : Sys ρ) : Prop where
  pulled : s.view.pulled = true
  linked : ¬ s.view.state.IsActive → s.view.linked = true
  free : ¬ s.view.state.IsActive → s.view.triggerByDrag = false

/-- If the view is Pulling, then the most recent drag was beyond the threshold. -/
structure Tracked.Intended (t : Tracked) : Prop where
  ready : t.sys.Ready
  shown : t.sys.view.state = .pulling → Shown t.sys = true
  beyond : t.sys.view.state = .pulling →
    ∃ offset, t.lastDrag = some offset ∧ t.sys.pull.Beyond offset

/-- The thresholds do not depend on what a scroll event changes. -/
theorem Kin.pull_eq {s t : Sys ρ} (h : Kin s t) (hlinked : s.view.linked = true) :
    t.pull = s.pull := by
  obtain ⟨inset, percent, alpha, state, hview⟩ := h.view
  simp only [Sys.pull, MJRefreshView.happenOffsetY, MJRefreshView.heightForContentBreakView,
    MJRefreshComponent.rememberInset, Sys.sv, Sys.mapView_view, Sys.mapView_scrollView, hlinked,
    h.scrollView, hview]
  rfl

/-- Scrolling does not change the offsets that decide. -/
theorem Sys.pull_scrolled {s : Sys Unit} (hlinked : s.view.linked = true) (offset : CGPoint)
    (isDragging : Bool) : (scrolled offset isDragging s).pull = s.pull := by
  simp only [scrolled, Sys.pull, MJRefreshView.happenOffsetY,
    MJRefreshView.heightForContentBreakView, MJRefreshComponent.rememberInset, Sys.sv,
    Sys.mapView_view, Sys.mapView_scrollView, Sys.mapScroll_view, Sys.mapScroll_scrollView, hlinked]
  rfl

namespace Tracked

variable (depth : Nat) {t : Tracked}

/-- A view that is not shown stays as it is. -/
theorem step_sys_of_not_shown (h : ¬ Shown t.sys = true) (scroll : Scroll) :
    (t.step depth scroll).sys = scrolled scroll.offset scroll.isDragging t.sys := if_neg h

/-- A view in the pulling state does not refresh. -/
theorem not_active_of_pulling {state : MJRefreshState} (h : state = .pulling) :
    ¬ state.IsActive := by
  rw [h]
  rintro (h | h) <;> cases h

/-- A view that is shown follows the state machine. -/
theorem followed_step (h : t.sys.Ready) (hshown : Shown t.sys = true) (scroll : Scroll) :
    Followed (scrolled scroll.offset scroll.isDragging t.sys) (t.step depth scroll).sys := by
  have hstep : (t.step depth scroll).sys =
      MJRefreshView.scrollViewContentOffsetDidChange (MJRefreshView.refreshClass.notifyWithin depth)
        t.sys.scrollView.contentOffset scroll.offset
        (scrolled scroll.offset scroll.isDragging t.sys) := if_pos hshown
  have hpulled : (scrolled scroll.offset scroll.isDragging t.sys).view.pulled = true := h.pulled
  have hfree : (scrolled scroll.offset scroll.isDragging t.sys).view.state = .pulling →
      (scrolled scroll.offset scroll.isDragging t.sys).view.triggerByDrag = false :=
    fun hpulling => h.free (not_active_of_pulling hpulling)
  rw [hstep]
  exact MJRefreshView.followed (MJRefreshView.notify_within_spares depth) hpulled hfree _ _

/-- A refresh goes on whatever is scrolled. -/
theorem active_step (h : t.sys.Ready) (hshown : Shown t.sys = true)
    (hactive : t.sys.view.state.IsActive) (scroll : Scroll) :
    (t.step depth scroll).sys.view.state.IsActive := by
  have hscrolled : (scrolled scroll.offset scroll.isDragging t.sys).view.state.IsActive := hactive
  rw [(followed_step depth h hshown scroll).state, Pull.next_of_active hscrolled]
  exact hscrolled

/-- The next state of a view that is attached. -/
theorem state_step (h : t.sys.Ready) (hshown : Shown t.sys = true)
    (hlinked : t.sys.view.linked = true) (scroll : Scroll) :
    (t.step depth scroll).sys.view.state =
      t.sys.pull.next t.sys.view.inWindow t.sys.view.state scroll.offset scroll.isDragging := by
  have hsv : (scrolled scroll.offset scroll.isDragging t.sys).sv =
      (scrolled scroll.offset scroll.isDragging t.sys).scrollView := Sys.sv_of_linked hlinked
  have hstate := (followed_step depth h hshown scroll).state
  rw [Sys.pull_scrolled hlinked, hsv] at hstate
  exact hstate

/-- What a scroll event leaves as it is unless a refresh begins. -/
theorem kin_step (h : t.sys.Ready) (hshown : Shown t.sys = true)
    (hlinked : t.sys.view.linked = true) (scroll : Scroll)
    (hrest : ¬ (t.step depth scroll).sys.view.state.IsActive) :
    (t.step depth scroll).sys.view.linked = true ∧
      (t.step depth scroll).sys.view.triggerByDrag = t.sys.view.triggerByDrag ∧
      Shown (t.step depth scroll).sys = true ∧ (t.step depth scroll).sys.pull = t.sys.pull := by
  have hkin := (followed_step depth h hshown scroll).kin hrest
  have hpull := hkin.pull_eq hlinked
  obtain ⟨inset, percent, alpha, state, hview⟩ := hkin.view
  rw [Shown, hview]
  exact ⟨hlinked, rfl, hshown, hpull.trans (Sys.pull_scrolled hlinked ..)⟩

/-- Every scroll event leaves a view that is ready for the next one. -/
theorem ready_step (h : t.sys.Ready) (scroll : Scroll) : (t.step depth scroll).sys.Ready := by
  by_cases hshown : Shown t.sys = true
  · have hfollowed := followed_step depth h hshown scroll
    have hbefore : ¬ (t.step depth scroll).sys.view.state.IsActive →
        ¬ t.sys.view.state.IsActive :=
      fun hrest hactive => hrest (active_step depth h hshown hactive scroll)
    refine ⟨?_, fun hrest => ?_, fun hrest => ?_⟩
    · rw [RefreshView.pulled, hfollowed.more, hfollowed.back]
      exact h.pulled
    · exact (kin_step depth h hshown (h.linked (hbefore hrest)) scroll hrest).1
    · rw [(kin_step depth h hshown (h.linked (hbefore hrest)) scroll hrest).2.1]
      exact h.free (hbefore hrest)
  · rw [step_sys_of_not_shown depth hshown]
    exact ⟨h.pulled, h.linked, h.free⟩

/-- The step lemma: unless it drags the view out of sight, a scroll event keeps the intent. -/
theorem Intended.step (h : t.Intended) {scroll : Scroll} (hkept : ¬ DragsOut t scroll) :
    (t.step depth scroll).Intended := by
  by_cases hshown : Shown t.sys = true
  · -- a view that is Pulling now did not refresh before
    have hbefore : (t.step depth scroll).sys.view.state = .pulling →
        t.sys.view.linked = true := by
      intro hpulling
      refine h.ready.linked fun hactive => not_active_of_pulling hpulling ?_
      exact active_step depth h.ready hshown hactive scroll
    refine ⟨ready_step depth h.ready scroll, fun hpulling => ?_, fun hpulling => ?_⟩
    · exact (kin_step depth h.ready hshown (hbefore hpulling) scroll
        (not_active_of_pulling hpulling)).2.2.1
    · have hlinked := hbefore hpulling
      rw [(kin_step depth h.ready hshown hlinked scroll
        (not_active_of_pulling hpulling)).2.2.2]
      rw [state_step depth h.ready hshown hlinked] at hpulling
      cases hdragging : scroll.isDragging with
      | false =>
          rw [hdragging] at hpulling
          obtain ⟨offset, hlast, hbeyond⟩ := h.beyond (Pull.pulling_of_released hpulling)
          exact ⟨offset, by simp [Tracked.step, hdragging, hlast], hbeyond⟩
      | true =>
          rw [hdragging] at hpulling
          refine ⟨scroll.offset, by simp [Tracked.step, hdragging], ?_⟩
          by_cases hshows : t.sys.pull.Shows scroll.offset
          · exact Pull.beyond_of_dragged hpulling hshows
          · -- out of sight nothing is looked at, so the view has been Pulling before
            rw [Pull.next_of_not_shows hshows] at hpulling
            by_contra hback
            exact hkept ⟨hpulling, hdragging, hshows, hback⟩
  · have hnot : (t.step depth scroll).sys.view.state ≠ .pulling := by
      rw [step_sys_of_not_shown depth hshown]
      exact fun hpulling => hshown (h.shown hpulling)
    exact ⟨ready_step depth h.ready scroll, fun hpulling => absurd hpulling hnot,
      fun hpulling => absurd hpulling hnot⟩

/-- A view that is intended to be Pulling begins no refresh against the intent. -/
theorem Intended.release_intent (h : t.Intended) : ReleaseIntent depth t := by
  intro scroll hpulling hactive
  have hlinked := h.ready.linked (not_active_of_pulling hpulling)
  rw [state_step depth h.ready (h.shown hpulling) hlinked] at hactive
  obtain ⟨offset, hlast, hbeyond⟩ := h.beyond hpulling
  have hdragging := Pull.not_dragging_of_active hpulling hactive
  exact ⟨offset, by simp [Tracked.step, hdragging, hlast], hbeyond⟩

/-- A view that is dragged out of sight is still Pulling, and a release begins a refresh. -/
theorem Intended.not_release_intent (h : t.Intended) {scroll : Scroll}
    (hout : DragsOut t scroll) : ¬ ReleaseIntent depth (t.step depth scroll) := by
  obtain ⟨hpulling, hdragging, hhidden, hback⟩ := hout
  have hshown := h.shown hpulling
  have hlinked := h.ready.linked (not_active_of_pulling hpulling)
  have hstate : (t.step depth scroll).sys.view.state = .pulling := by
    rw [state_step depth h.ready hshown hlinked, Pull.next_of_not_shows hhidden]
    exact hpulling
  have hlast : (t.step depth scroll).lastDrag = some scroll.offset := by
    simp [Tracked.step, hdragging]
  obtain ⟨hlinked', _, hshown', hpull⟩ :=
    kin_step depth h.ready hshown hlinked scroll (not_active_of_pulling hstate)
  have hready := ready_step depth h.ready scroll
  generalize t.step depth scroll = dragged at hstate hlast hlinked' hshown' hpull hready ⊢
  intro hintent
  -- released where it can be seen, the view refreshes although the last drag took it back
  obtain ⟨shown, hshows⟩ := t.sys.pull.exists_shows
  have hactive : (dragged.step depth ⟨shown, false⟩).sys.view.state.IsActive := by
    rw [state_step depth hready hshown' hlinked', hstate, hpull]
    exact Pull.active_of_release hshows
  obtain ⟨offset, hoffset, hbeyond⟩ := hintent ⟨shown, false⟩ hstate hactive
  have hsame : scroll.offset = offset := Option.some.inj (hlast.symm.trans hoffset)
  rw [hpull, ← hsame] at hbeyond
  exact hback hbeyond

end Tracked

/-- For every run of scroll events of a header or a footer that is pulled, a scroll event in any
state reached moves the view from Pulling to refreshing only if the most recent drag was beyond the
threshold, exactly if no drag of the run takes a Pulling view out of sight. -/
theorem release_intent_iff (depth : Nat) (s : Sys Unit) (hpulled : s.view.pulled = true)
    (hlinked : s.view.linked = true) (hfree : s.view.triggerByDrag = false)
    (hstate : s.view.state ≠ .pulling) (scrolls : List Scroll) :
    (∀ done rest, scrolls = done ++ rest →
      ReleaseIntent depth (run (Tracked.step depth) ⟨s, none⟩ done)) ↔
    Admissible (Tracked.step depth) (fun t scroll => ¬ DragsOut t scroll) ⟨s, none⟩ scrolls := by
  have hstart : Tracked.Intended ⟨s, none⟩ :=
    ⟨⟨hpulled, fun _ => hlinked, fun _ => hfree⟩, fun h => absurd h hstate,
      fun h => absurd h hstate⟩
  have hgood : ∀ t : Tracked, t.Intended → ¬ ¬ ReleaseIntent depth t :=
    fun _ h => not_not.mpr (h.release_intent depth)
  have hstep : ∀ (t : Tracked) (scroll : Scroll), t.Intended → True → ¬ DragsOut t scroll →
      (t.step depth scroll).Intended := fun t scroll h _ hkept => h.step depth hkept
  have hbad : ∀ (t : Tracked) (scroll : Scroll), t.Intended → True → ¬ ¬ DragsOut t scroll →
      ¬ ReleaseIntent depth (t.step depth scroll) :=
    fun t scroll h _ hout => h.not_release_intent depth (not_not.mp hout)
  have hiff := never_iff_admissible hgood hstep hbad hstart (fun _ (_ : _ ∈ scrolls) => trivial)
  simpa only [not_not] using hiff

/-- A header or a footer that is pulled, in a window and attached to the sample scroll view. -/
def samplePulled (refreshMore : Bool) : Sys Unit :=
  MJRefreshView.refreshClass.attached
    { MJRefreshView.refreshView refreshMore refreshMore false with inWindow := true }
    sampleScrollView

/-- A header that is dragged beyond the threshold, dragged back within sight and released. -/
theorem release_intent_dragged_back :
    let scrolls : List Scroll :=
      [⟨⟨0, -120⟩, true⟩, ⟨⟨0, -90⟩, true⟩, ⟨⟨0, -120⟩, true⟩, ⟨⟨0, -100⟩, false⟩]
    (run (Tracked.step 1) ⟨samplePulled false, none⟩ scrolls).sys.view.state = .refreshing ∧
      ∀ done rest, scrolls = done ++ rest →
        ReleaseIntent 1 (run (Tracked.step 1) ⟨samplePulled false, none⟩ done) :=
  ⟨by decide +kernel,
    (release_intent_iff 1 (samplePulled false) (by decide +kernel) (by decide +kernel)
      (by decide +kernel) (by decide +kernel) _).mpr (by decide +kernel)⟩

/-- A header and a footer that are dragged beyond the threshold, dragged back out of sight and
released begin to refresh. -/
theorem release_begins_refresh_after_drag_out :
    let header := run (Tracked.step 1) ⟨samplePulled false, none⟩
      [⟨⟨0, -120⟩, true⟩, ⟨⟨0, -60⟩, true⟩]
    let footer := run (Tracked.step 1) ⟨samplePulled true, none⟩
      [⟨⟨0, 530⟩, true⟩, ⟨⟨0, 460⟩, true⟩]
    (header.sys.view.state = .pulling ∧ ¬ header.sys.pull.Beyond ⟨0, -60⟩ ∧
        (header.step 1 ⟨⟨0, -64⟩, false⟩).sys.view.state = .refreshing ∧
        ¬ ReleaseIntent 1 header) ∧
      footer.sys.view.state = .pulling ∧ ¬ footer.sys.pull.Beyond ⟨0, 460⟩ ∧
        (footer.step 1 ⟨⟨0, 465⟩, false⟩).sys.view.state = .refreshing ∧
        ¬ ReleaseIntent 1 footer := by
  intro header footer
  refine ⟨⟨by decide +kernel, by decide +kernel, by decide +kernel, fun hintent => ?_⟩,
    by decide +kernel, by decide +kernel, by decide +kernel, fun hintent => ?_⟩
  · obtain ⟨offset, hlast, hbeyond⟩ :=
      hintent ⟨⟨0, -64⟩, false⟩ (by decide +kernel) (.inl (by decide +kernel))
    have hoffset : (⟨0, -60⟩ : CGPoint) = offset := Option.some.inj hlast
    rw [← hoffset] at hbeyond
    exact absurd hbeyond (by decide +kernel)
  · obtain ⟨offset, hlast, hbeyond⟩ :=
      hintent ⟨⟨0, 465⟩, false⟩ (by decide +kernel) (.inl (by decide +kernel))
    have hoffset : (⟨0, 460⟩ : CGPoint) = offset := Option.some.inj hlast
    rw [← hoffset] at hbeyond
    exact absurd hbeyond (by decide +kernel)

end Component.Refresh
