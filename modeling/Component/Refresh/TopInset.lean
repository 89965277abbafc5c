import Component.Lib.Run
import Component.Refresh.View

/-!
# The top inset of a header after a refresh

A header enlarges the top inset of its scroll view while it refreshes and takes the enlargement
back by adding `insetTDelta`, which only the notifications of the scroll view write. `HeaderKept`
says that the remembered inset is the one from before the first refresh, and that the scroll view
has it again in every state but the refreshing one. Two kinds of step break it, and `InsetAligned`
excludes just these: the enlargement is applied after the refresh is over, or the refresh ends
while `insetTDelta` is not the negative of the enlargement.
-/

namespace Component.Refresh

open Component.Lib.Run

variable {ρ : Type}

/-- The view is a vertical header that remembers the top inset `top`, and outside the refreshing
state this is the inset of its scroll view. -/
structure HeaderKept (top : CGFloat) (s : Sys ρ) : Prop where
  header : s.view.refreshMore = false
  vertical : s.view.horizontalDirection = false
  linked : s.view.linked = true
  original : s.view.scrollViewOriginalInset.top = top
  restored : s.view.state ≠ .refreshing → s.scrollView.mjInset.top = top

/-- Adding `insetTDelta` brings the top inset back to the remembered one. -/
def DeltaCurrent (s : Sys ρ) : Prop :=
  s.view.insetTDelta = s.view.scrollViewOriginalInset.top - s.scrollView.mjInset.top

/-- The steps of a header whose enlargement of the inset and its removal match. -/
def InsetAligned (s : Sys ρ) : Event → Prop
  | .mainQueue =>
      (s.mainQueue.head? = some .headerRefreshing →
        s.view.state = .refreshing ∨ s.scrollView.panState = .cancelled ∨ s.view.frame.height = 0) ∧
      (s.mainQueue.head? = some .endRefreshing → s.view.state = .refreshing → DeltaCurrent s)
  | .completion index =>
      s.completions[index]? = some (.animationDidStop .refreshingBounds) →
        s.view.state = .refreshing ∨ s.view.state = .idle ∨ s.view.frame.height = 0
  | .setHidden hidden =>
      s.view.hidden = false → hidden = true → s.view.state = .refreshing → DeltaCurrent s
  | .attach _ => False
  | .detach => False
  | .setState _ => False
  | _ => True

instance (s : Sys ρ) : Decidable (DeltaCurrent s) := inferInstanceAs (Decidable (_ = _))

instance (s : Sys ρ) : (event : Event) → Decidable (InsetAligned s event)
  | .mainQueue => inferInstanceAs (Decidable (_ ∧ _))
  | .completion _ => inferInstanceAs (Decidable (_ → _))
  | .setHidden _ => inferInstanceAs (Decidable (_ → _))
  | .attach _ => .isFalse id
  | .detach => .isFalse id
  | .setState _ => .isFalse id
  | .contentOffset _ _ => .isTrue trivial
  | .contentSize _ => .isTrue trivial
  | .panState _ => .isTrue trivial
  | .reloadData _ => .isTrue trivial
  | .window _ => .isTrue trivial
  | .beginRefreshing => .isTrue trivial
  | .endRefreshing => .isTrue trivial
  | .drawRect => .isTrue trivial
  | .layoutSubviews => .isTrue trivial

namespace HeaderKept

variable {top : CGFloat} {s t : Sys ρ}

/-- What a step leaves alone does not matter. -/
theorem congr (h : HeaderKept top s) (hheader : t.view.refreshMore = s.view.refreshMore)
    (hvertical : t.view.horizontalDirection = s.view.horizontalDirection)
    (hlinked : t.view.linked = s.view.linked)
    (horiginal : t.view.scrollViewOriginalInset.top = s.view.scrollViewOriginalInset.top)
    (hinset : t.scrollView.mjInset.top = s.scrollView.mjInset.top)
    (hstate : s.view.state = .refreshing → t.view.state = .refreshing) : HeaderKept top t where
  header := hheader.trans h.header
  vertical := hvertical.trans h.vertical
  linked := hlinked.trans h.linked
  original := horiginal.trans h.original
  restored := fun ht => hinset.trans (h.restored (fun hs => ht (hstate hs)))

/-- The view reads its scroll view. -/
theorem sv_eq (h : HeaderKept top s) : s.sv = s.scrollView := Sys.sv_of_linked h.linked

/-- Setting the pulling percent keeps the invariant. -/
theorem set_pulling_percent (h : HeaderKept top s) (percent : CGFloat) :
    HeaderKept top (MJRefreshComponent.setPullingPercent percent s) :=
  h.congr rfl rfl rfl rfl rfl id

/-- A header that does not leave the refreshing state keeps its insets when its state is set. -/
theorem set_state_staying (h : HeaderKept top s) (notify : Notify ρ) {state : MJRefreshState}
    (hstay : s.view.state = .refreshing → state = .refreshing) :
    HeaderKept top (MJRefreshView.setState notify state s) := by
  have hstored : HeaderKept top (MJRefreshComponent.setState state s) :=
    h.congr rfl rfl rfl rfl rfl hstay
  by_cases hsame : state = s.view.state
  · rw [MJRefreshView.set_state_self notify hsame]
    exact h
  · rw [MJRefreshView.set_state_header notify h.header hsame]
    unfold MJRefreshView.headerStateDidChange
    by_cases hidle : state = .idle
    · have hold : s.view.state ≠ .refreshing := by
        intro hold
        rw [hstay hold] at hidle
        cases hidle
      simp only [hidle, if_true, hold, ne_eq, not_false_eq_true]
      exact hidle ▸ hstored
    · simp only [hidle, if_false]
      split
      · unfold MJRefreshView.headerRefreshingAction
        split
        · split
          · rw [Sys.update_scroll_of_linked hstored.linked]
            exact hstored.congr rfl rfl rfl rfl rfl id
          · exact hstored.congr rfl rfl rfl rfl rfl id
        · exact hstored.congr rfl rfl rfl rfl rfl id
      · exact hstored

/-- A header that stops refreshing brings the inset back if `insetTDelta` is current. -/
theorem set_state_idle (h : HeaderKept top s) (notify : Notify ρ)
    (hcurrent : s.view.state = .refreshing → DeltaCurrent s) :
    HeaderKept top (MJRefreshView.setState notify .idle s) := by
  by_cases hold : s.view.state = .refreshing
  · have hback : s.scrollView.mjInset.top + s.view.insetTDelta = top := by
      rw [hcurrent hold, h.original]
      ring
    have hnew : .idle ≠ s.view.state := by simp [hold]
    rw [MJRefreshView.set_state_header notify h.header hnew, MJRefreshView.headerStateDidChange,
      if_pos rfl, hold, if_neg (by simp), MJRefreshView.headerEndingAction]
    have hrestored : HeaderKept top ((MJRefreshComponent.setState .idle s).mapScroll
        (UIScrollView.setMjInsetT top)) :=
      ⟨h.header, h.vertical, h.linked, h.original, fun _ => by simp⟩
    have hset : (MJRefreshComponent.setState .idle s).setScrollAsixInsetTop
        ((MJRefreshComponent.setState .idle s).scrollAsixInsetTop +
          (MJRefreshComponent.setState .idle s).view.insetTDelta) =
        (MJRefreshComponent.setState .idle s).mapScroll (UIScrollView.setMjInsetT top) := by
      simp [Sys.setScrollAsixInsetTop, Sys.scrollAsixInsetTop, Sys.sv, Sys.updateScroll, h.vertical,
        h.linked, hback]
    rw [hset]
    dsimp only
    split
    · rw [Sys.update_scroll_of_linked hrestored.linked]
      exact hrestored.congr rfl rfl rfl rfl rfl id
    · exact hrestored.congr rfl rfl rfl rfl rfl id
  · exact h.set_state_staying notify (fun hs => absurd hs hold)

/-- Beginning a refresh keeps the invariant. -/
theorem begin_refreshing (h : HeaderKept top s) (notify : Notify ρ) :
    HeaderKept top (MJRefreshView.beginRefreshing notify s) := by
  unfold MJRefreshView.beginRefreshing MJRefreshComponent.beginRefreshing
  have hstart : HeaderKept top (MJRefreshComponent.setPullingPercent 1
      (s.mapView fun view => { view with alpha := 1 })) :=
    h.congr rfl rfl rfl rfl rfl id
  split
  · exact h
  · dsimp only
    split
    · exact hstart.set_state_staying notify (fun _ => rfl)
    · split
      next hstate => exact hstart.set_state_staying notify (fun hs => absurd hs hstate)
      · exact hstart

/-- Pulling never leaves the refreshing state. -/
theorem pulling_did_change (h : HeaderKept top s) (notify : Notify ρ) (pulled : Bool)
    (percent : CGFloat) :
    HeaderKept top (MJRefreshView.pullingDidChange notify pulled percent s) := by
  unfold MJRefreshView.pullingDidChange MJRefreshComponent.pullingDidChange
  split
  · dsimp only
    have hpercent := h.set_pulling_percent percent
    split
    next hidle =>
      refine hpercent.set_state_staying notify (fun hs => ?_)
      rw [hidle.1] at hs
      cases hs
    · split
      next hpulling =>
        refine hpercent.set_state_staying notify (fun hs => ?_)
        rw [hpulling.1] at hs
        cases hs
      · exact hpercent
  · split
    · exact h.begin_refreshing notify
    · split
      · exact h.set_pulling_percent percent
      · exact h

/-- While the header refreshes its top inset is free. -/
theorem set_inset_top (h : HeaderKept top s) {value : CGFloat}
    (hvalue : s.view.state ≠ .refreshing → value = top) :
    HeaderKept top (s.mapScroll (UIScrollView.setMjInsetT value)) :=
  ⟨h.header, h.vertical, h.linked, h.original, fun hs => by simpa using hvalue hs⟩

/-- Adjusting the top inset during a refresh keeps the invariant. -/
theorem reset_inset (h : HeaderKept top s) (hstate : s.view.state = .refreshing) :
    HeaderKept top (MJRefreshView.resetInset s) := by
  unfold MJRefreshView.resetInset
  split
  · exact h
  · dsimp only
    have hdelta : HeaderKept top (s.mapView fun view =>
        { view with insetTDelta := s.view.scrollAsixOriginInsetTop -
          MJRefreshView.clampedInsetTop s }) :=
      h.congr rfl rfl rfl rfl rfl id
    split
    · rw [Sys.setScrollAsixInsetTop, if_neg (by simp [h.vertical]),
        Sys.update_scroll_of_linked hdelta.linked]
      exact hdelta.set_inset_top (fun hs => absurd hstate hs)
    · exact hdelta

/-- The content offset handler keeps the invariant. -/
theorem content_offset_did_change (h : HeaderKept top s) (notify : Notify ρ) (old new : CGPoint) :
    HeaderKept top (MJRefreshView.scrollViewContentOffsetDidChange notify old new s) := by
  rw [MJRefreshView.scrollViewContentOffsetDidChange, if_neg (by simp [h.header]),
    MJRefreshView.headerContentOffsetDidChange]
  by_cases hstate : s.view.state = .refreshing
  · rw [if_pos hstate]
    exact h.reset_inset hstate
  · rw [if_neg hstate]
    -- outside the refreshing state the inset that is remembered anew is the old one
    have hremember : HeaderKept top (MJRefreshComponent.rememberInset s) := by
      refine ⟨h.header, h.vertical, h.linked, ?_, h.restored⟩
      rw [← h.restored hstate, ← h.sv_eq]
      rfl
    dsimp only
    split
    · exact hremember
    · exact hremember.pulling_did_change notify _ _

/-- Notifications nested to any depth keep the header. -/
theorem notify_within (depth : Nat) (h : HeaderKept top s) (old new : CGPoint) :
    HeaderKept top (MJRefreshView.refreshClass.notifyWithin depth old new s) := by
  cases depth with
  | zero => exact h
  | succ depth =>
      unfold RefreshClass.notifyWithin RefreshClass.observeContentOffset
      split
      · exact h.content_offset_did_change _ old new
      · exact h

/-- The inset is enlarged and the offset set while the header refreshes. -/
theorem enlarge (depth : Nat) (h : HeaderKept top s) {value : CGFloat}
    (hvalue : s.view.state ≠ .refreshing → value = top) (offset : CGPoint) :
    HeaderKept top ((s.mapScroll (UIScrollView.setMjInsetT value)).setContentOffset
      (MJRefreshView.refreshClass.notifyWithin depth) offset) := by
  have hinset := h.set_inset_top hvalue
  rw [Sys.set_content_offset_of_linked hinset.linked]
  refine notify_within depth ?_ _ _
  exact hinset.congr rfl rfl rfl rfl rfl id

/-- The block that enlarges the top inset keeps the invariant during a refresh. -/
theorem header_refreshing_block (depth : Nat) (h : HeaderKept top s)
    (haligned : s.view.state = .refreshing ∨ s.scrollView.panState = .cancelled ∨
      s.view.frame.height = 0) :
    HeaderKept top (MJRefreshView.headerRefreshingBlock
      (MJRefreshView.refreshClass.notifyWithin depth) s) := by
  unfold MJRefreshView.headerRefreshingBlock
  by_cases hpan : s.scrollView.panState = .cancelled
  · rw [h.sv_eq, if_neg (by simp [hpan])]
    exact h.congr rfl rfl rfl rfl rfl id
  · have hvalue : s.view.state ≠ .refreshing →
        s.view.scrollAsixOriginInsetTop + s.view.asxiHeight = top := by
      intro hstate
      have hheight : s.view.frame.height = 0 := by
        rcases haligned with haligned | haligned | haligned
        · exact absurd haligned hstate
        · exact absurd haligned hpan
        · exact haligned
      simp [RefreshView.scrollAsixOriginInsetTop, RefreshView.asxiHeight, h.vertical, h.original,
        hheight]
    rw [h.sv_eq, if_pos hpan]
    dsimp only
    rw [Sys.setScrollAsixOriginInsetTop, if_neg (by simp [h.vertical]),
      Sys.update_scroll_of_linked h.linked, Sys.setScrollAsixOffsetY,
      if_neg (by simp [h.vertical])]
    exact (h.enlarge depth hvalue _).congr rfl rfl rfl rfl rfl id

/-- The end of an animation of the bounds keeps the invariant if the refresh is not over by then. -/
theorem animation_did_stop (depth : Nat) (h : HeaderKept top s) {key : AnimationKey}
    (haligned : key = .refreshingBounds → s.view.state = .refreshing ∨ s.view.state = .idle ∨
      s.view.frame.height = 0) :
    HeaderKept top (MJRefreshView.animationDidStop
      (MJRefreshView.refreshClass.notifyWithin depth) key s) := by
  unfold MJRefreshView.animationDidStop
  cases key with
  | refreshing2IdleBounds =>
      dsimp only
      rw [Sys.update_scroll_of_linked (h.set_pulling_percent 0).linked]
      exact h.congr rfl rfl rfl rfl rfl id
  | refreshingBounds =>
      dsimp only
      have hinner : HeaderKept top (if s.view.state ≠ .idle then
          (s.updateScroll (UIScrollView.setMjInsetT
            (s.view.scrollViewOriginalInset.top + s.view.frame.height))).setContentOffset
              (MJRefreshView.refreshClass.notifyWithin depth)
              { (s.updateScroll (UIScrollView.setMjInsetT
                (s.view.scrollViewOriginalInset.top + s.view.frame.height))).sv.contentOffset with
                y := -(s.view.scrollViewOriginalInset.top + s.view.frame.height) }
          else s) := by
        split
        next hidle =>
          rw [Sys.update_scroll_of_linked h.linked]
          refine h.enlarge depth (fun hstate => ?_) _
          rcases haligned rfl with haligned | haligned | haligned
          · exact absurd haligned hstate
          · exact absurd haligned hidle
          · rw [haligned, add_zero, h.original]
        · exact h
      rw [Sys.update_scroll_of_linked hinner.linked]
      exact hinner.congr rfl rfl rfl rfl rfl id

/-- Hiding and showing keep the invariant if a refresh that is cut off has a current
`insetTDelta`. -/
theorem set_hidden (h : HeaderKept top s) (notify : Notify ρ) {hidden : Bool}
    (hcurrent : s.view.hidden = false → hidden = true → s.view.state = .refreshing →
      DeltaCurrent s) :
    HeaderKept top (MJRefreshView.setHidden notify hidden s) := by
  have hview : HeaderKept top (s.mapView fun view => { view with hidden := hidden }) :=
    h.congr rfl rfl rfl rfl rfl id
  unfold MJRefreshView.setHidden
  dsimp only
  split
  next hhide =>
    simp only [Bool.and_eq_true, Bool.not_eq_eq_eq_not, Bool.not_true] at hhide
    have hidle := hview.set_state_idle notify (hcurrent hhide.1 hhide.2)
    rw [Sys.update_scroll_of_linked hidle.linked]
    exact hidle.congr rfl rfl rfl rfl (by simp) id
  · split
    · rw [Sys.update_scroll_of_linked hview.linked]
      exact hview.congr rfl rfl rfl rfl (by simp) id
    · exact hview

/-- The next block of the main queue keeps the header if it is aligned. -/
theorem main_queue (depth : Nat) {s : Sys Unit} (h : HeaderKept top s)
    (haligned : InsetAligned s .mainQueue) :
    HeaderKept top (MJRefreshView.step depth s .mainQueue) := by
  unfold MJRefreshView.step
  cases hqueue : s.mainQueue with
  | nil =>
      rw [RefreshClass.handle_main_queue_nil _ _ hqueue]
      exact h
  | cons block blocks =>
      rw [RefreshClass.handle_main_queue_cons _ _ hqueue]
      have hrest : HeaderKept top ({ s with mainQueue := blocks } : Sys Unit) :=
        h.congr rfl rfl rfl rfl rfl id
      cases block with
      | endRefreshing => exact hrest.set_state_idle _ (haligned.2 (by rw [hqueue]; rfl))
      | refreshingCallback => exact hrest.congr rfl rfl rfl rfl rfl id
      | headerRefreshing =>
          exact hrest.header_refreshing_block depth (haligned.1 (by rw [hqueue]; rfl))

/-- The end of an animation keeps the header if it is aligned. -/
theorem completion (depth : Nat) {s : Sys Unit} (h : HeaderKept top s) {index : Nat}
    (haligned : InsetAligned s (.completion index)) :
    HeaderKept top (MJRefreshView.step depth s (.completion index)) := by
  unfold MJRefreshView.step
  cases hindex : s.completions[index]? with
  | none =>
      rw [RefreshClass.handle_completion_none _ _ hindex]
      exact h
  | some completion =>
      rw [RefreshClass.handle_completion_some _ _ hindex]
      have hrest : HeaderKept top
          ({ s with completions := s.completions.eraseIdx index } : Sys Unit) :=
        h.congr rfl rfl rfl rfl rfl id
      cases completion with
      | executeRefreshingCallback => exact hrest.congr rfl rfl rfl rfl rfl id
      | endRefreshing => exact hrest.congr rfl rfl rfl rfl rfl id
      | endRefreshingPaging => exact hrest.congr rfl rfl rfl rfl rfl id
      | animationDidStop key =>
          exact hrest.animation_did_stop depth (fun hkey => haligned (by rw [hindex, hkey]))

end HeaderKept

/-- Every aligned step keeps the header. -/
theorem header_kept_step (depth : Nat) {top : CGFloat} (s : Sys Unit) (event : Event)
    (h : HeaderKept top s) (haligned : InsetAligned s event) :
    HeaderKept top (MJRefreshView.step depth s event) := by
  cases event with
  | attach scrollView => exact absurd haligned id
  | detach => exact absurd haligned id
  | contentOffset offset isDragging =>
      refine HeaderKept.notify_within depth ?_ _ _
      exact h.congr rfl rfl rfl rfl rfl id
  | contentSize size =>
      rw [MJRefreshView.step, MJRefreshView.handle_content_size_of_header h.header]
      exact h.congr rfl rfl rfl rfl rfl id
  | panState panState =>
      rw [MJRefreshView.step, MJRefreshView.handle_pan_state_of_pulled (.inl h.header)]
      exact h.congr rfl rfl rfl rfl rfl id
  | reloadData numberOfRows => exact h.congr rfl rfl rfl rfl rfl id
  | window inWindow => exact h.congr rfl rfl rfl rfl rfl id
  | beginRefreshing => exact h.begin_refreshing _
  | endRefreshing => exact h.congr rfl rfl rfl rfl rfl id
  | setState state => exact absurd haligned id
  | setHidden hidden => exact h.set_hidden _ haligned
  | drawRect =>
      show HeaderKept top (MJRefreshComponent.drawRect _ _)
      unfold MJRefreshComponent.drawRect
      split
      · exact h.set_state_staying _ (fun _ => rfl)
      · exact h
  | layoutSubviews =>
      show HeaderKept top (MJRefreshView.placeSubviews s)
      unfold MJRefreshView.placeSubviews RefreshView.setAsxiY
      rw [if_neg (by simp [h.header])]
      exact h.congr (by simp [h.vertical]) (by simp [h.vertical]) (by simp [h.vertical])
        (by simp [h.vertical]) rfl (by simp [h.vertical])
  | mainQueue => exact h.main_queue depth haligned
  | completion index => exact h.completion depth haligned

/-- In every run of a vertical header whose steps are aligned, the top inset of the scroll view is
the one from before the first refresh whenever the header is not refreshing. -/
theorem top_inset_restored (depth : Nat) (view : RefreshView) (scrollView : UIScrollView)
    (hheader : view.refreshMore = false) (hvertical : view.horizontalDirection = false)
    (events : List Event)
    (haligned : Admissible (MJRefreshView.step depth) InsetAligned
      (MJRefreshView.refreshClass.attached view scrollView) events)
    (hstate : (run (MJRefreshView.step depth) (MJRefreshView.refreshClass.attached view scrollView)
      events).view.state ≠ .refreshing) :
    (run (MJRefreshView.step depth) (MJRefreshView.refreshClass.attached view scrollView)
      events).scrollView.mjInset.top = scrollView.mjInset.top := by
  have hattached : HeaderKept scrollView.mjInset.top
      (MJRefreshView.refreshClass.attached view scrollView) := by
    constructor <;>
      simp [RefreshClass.attached, MJRefreshView.refreshClass, MJRefreshView.willMoveToSuperview,
        Sys.start, MJRefreshView.componentWillMoveToSuperview, MJRefreshView.configBouces,
        MJRefreshView.placeAcross, MJRefreshView.recordScrollView, hheader, hvertical,
        RefreshView.setAsxiWidth, RefreshView.setAsxiX, Sys.updateScroll, UIScrollView.mjInset,
        UIScrollView.insetAdjustment]
  exact (run_invariant (header_kept_step depth) hattached haligned).restored hstate

/-- A header that refreshes while the user drags the table. -/
theorem top_inset_restored_sample :
    let view := MJRefreshView.refreshView false false false
    let events : List Event := [.window true, .contentOffset ⟨0, -120⟩ true, .beginRefreshing,
      .mainQueue, .contentOffset ⟨0, -80⟩ true, .completion 0, .mainQueue, .endRefreshing,
      .mainQueue, .completion 0]
    let s := run (MJRefreshView.step 2)
      (MJRefreshView.refreshClass.attached view sampleScrollView) events
    s.Drained ∧ s.view.state = .idle ∧ s.scrollView.mjInset.top = 64 := by
  refine ⟨⟨by decide +kernel, by decide +kernel⟩, by decide +kernel, ?_⟩
  exact (top_inset_restored 2 _ sampleScrollView rfl rfl _ (by decide +kernel)
    (by decide +kernel)).trans (by decide +kernel)

/-- `endRefreshing` is called before the header is drawn: the block that brings the inset back runs
before the one that enlarges it, and the table stays 44 points too low. -/
theorem top_inset_not_restored :
    let view := MJRefreshView.refreshView false false false
    let events : List Event := [.beginRefreshing, .endRefreshing, .window true, .drawRect,
      .mainQueue, .mainQueue, .completion 0, .completion 0, .mainQueue]
    let s := run (MJRefreshView.step 2)
      (MJRefreshView.refreshClass.attached view sampleScrollView) events
    s.Drained ∧ s.view.state = .idle ∧
      s.scrollView.mjInset.top ≠ sampleScrollView.mjInset.top := by
  exact ⟨⟨by decide +kernel, by decide +kernel⟩, by decide +kernel, by decide +kernel⟩

-- A hidden header misses the notifications that write `insetTDelta`, so that the end of the refresh
-- takes nothing back.
example :
    let view := MJRefreshView.refreshView false false false
    let events : List Event := [.window true, .setHidden true, .beginRefreshing, .mainQueue,
      .completion 0, .mainQueue, .endRefreshing, .mainQueue, .completion 0]
    let s := run (MJRefreshView.step 2)
      (MJRefreshView.refreshClass.attached view sampleScrollView) events
    s.Drained ∧ s.view.state = .idle ∧
      s.scrollView.mjInset.top = sampleScrollView.mjInset.top + 44 :=
  ⟨⟨by decide +kernel, by decide +kernel⟩, by decide +kernel, by decide +kernel⟩

end Component.Refresh
