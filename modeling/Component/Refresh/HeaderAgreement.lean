import Component.Refresh.Agreement
import Component.Refresh.Dedicated

/-!
# `MJRefreshView` as a header and `MJRefreshHeader`

The two classes differ in when they enlarge the inset of the scroll view: `MJRefreshHeader` does it
when its state is set, `MJRefreshView` in a block on the main queue. `Ahead` relates a
`MJRefreshView` after an event to a `MJRefreshHeader` after the same event, which may be ahead by
this block. Once everything pending is drained they agree again (`header_drained_step`).
-/

namespace Component.Refresh

open Component.Lib.Run

/-- A vertical header that does not work around the animation bug of collection views. Only footers
set `triggerByDrag`. -/
@[mk_iff] structure PlainHeader (s : Sys Unit) : Prop where
  header : s.view.refreshMore = false
  vertical : s.view.horizontalDirection = false
  plain : s.view.isCollectionViewAnimationBug = false
  undragged : s.view.triggerByDrag = false

namespace PlainHeader

variable {s t : Sys Unit}

/-- What the property says of the fields of the view. -/
theorem fixes : Fixes PlainHeader
    (fun view => (view.refreshMore, view.horizontalDirection, view.isCollectionViewAnimationBug,
      view.triggerByDrag))
    (false, false, false, false) := by
  intro s
  simp [plainHeader_iff]

/-- The property survives a change of the pulling percentage. -/
theorem stable : Stable PlainHeader := fixes.stable (fun _ => rfl)

/-! ## The methods -/

/-- Both classes adjust the top inset during a refresh alike. -/
theorem reset_inset_eq (h : PlainHeader s) :
    MJRefreshHeader.resetInset s = MJRefreshView.resetInset s := by
  have hclamp : MJRefreshHeader.clampedInsetTop s = MJRefreshView.clampedInsetTop s := by
    simp [MJRefreshHeader.clampedInsetTop, MJRefreshView.clampedInsetTop,
      RefreshView.scrollAsixOriginInsetTop, RefreshView.asxiHeight, Sys.scrollAsixOffsetY,
      h.vertical]
  unfold MJRefreshHeader.resetInset MJRefreshView.resetInset
  dsimp only
  rw [hclamp]
  simp [RefreshView.scrollAsixOriginInsetTop, Sys.scrollAsixInsetTop, Sys.setScrollAsixInsetTop,
    h.vertical]

/-- Both classes end a refresh alike. -/
theorem ending_action_eq (h : PlainHeader s) :
    MJRefreshHeader.headerEndingAction s = MJRefreshView.headerEndingAction s := by
  have hinset : s.updateScroll (fun sv => sv.setMjInsetT (sv.mjInset.top + s.view.insetTDelta)) =
      s.setScrollAsixInsetTop (s.scrollAsixInsetTop + s.view.insetTDelta) := by
    rw [Sys.setScrollAsixInsetTop, if_neg (by simp [h.vertical]), Sys.scrollAsixInsetTop,
      if_neg (by simp [h.vertical])]
    unfold Sys.updateScroll
    split
    next hlinked => rw [Sys.sv_of_linked hlinked]; rfl
    · rfl
  unfold MJRefreshHeader.headerEndingAction MJRefreshView.headerEndingAction
  rw [hinset]

/-- Outside the refreshing state the state is set alike. -/
theorem set_state_eq (h : PlainHeader s) (viewNotify headerNotify : Notify Unit)
    {state : MJRefreshState} (hstate : state ≠ .refreshing) :
    MJRefreshHeader.setState headerNotify state s = MJRefreshView.setState viewNotify state s := by
  have hstored : PlainHeader (MJRefreshComponent.setState state s) := PlainHeader.fixes.congr h rfl
  by_cases hsame : state = s.view.state
  · rw [MJRefreshHeader.setState, if_pos hsame, MJRefreshView.set_state_self viewNotify hsame]
  · rw [MJRefreshHeader.setState, if_neg hsame,
      MJRefreshView.set_state_header viewNotify h.header hsame, MJRefreshView.headerStateDidChange]
    dsimp only
    rw [hstored.ending_action_eq, if_neg hstate, if_neg hstate]

/-- `MJRefreshHeader` does at once what the other class does in a block on the main queue. -/
theorem refreshing_action_eq (h : PlainHeader s) (notify : Notify Unit) :
    MJRefreshHeader.headerRefreshingAction notify s =
      MJRefreshView.headerRefreshingBlock notify s := by
  rw [MJRefreshHeader.headerRefreshingAction, if_neg (by simp [h.plain])]
  unfold MJRefreshView.headerRefreshingBlock
  simp [RefreshView.scrollAsixOriginInsetTop, RefreshView.asxiHeight,
    Sys.setScrollAsixOriginInsetTop, Sys.setScrollAsixOffsetY, h.vertical]

/-- The header does at once what `MJRefreshView` puts on the main queue. -/
theorem set_state_refreshing (h : PlainHeader s) (viewNotify headerNotify : Notify Unit)
    (hstate : s.view.state ≠ .refreshing) :
    MJRefreshView.setState viewNotify .refreshing s =
        (MJRefreshComponent.setState .refreshing s).dispatchAsync .headerRefreshing ∧
      MJRefreshHeader.setState headerNotify .refreshing s =
        MJRefreshView.headerRefreshingBlock headerNotify
          (MJRefreshComponent.setState .refreshing s) := by
  have hstored : PlainHeader (MJRefreshComponent.setState .refreshing s) :=
    PlainHeader.fixes.congr h rfl
  have hnew : .refreshing ≠ s.view.state := fun heq => hstate heq.symm
  constructor
  · rw [MJRefreshView.set_state_header viewNotify h.header hnew, MJRefreshView.headerStateDidChange,
      if_neg (by simp), if_pos rfl, MJRefreshView.headerRefreshingAction,
      if_neg (by simp [h.plain])]
  · rw [MJRefreshHeader.setState, if_neg hnew, if_neg (by simp), if_pos rfl,
      hstored.refreshing_action_eq]

/-- Adjusting the top inset makes nothing pending. -/
theorem reset_inset_pending (s : Sys Unit) :
    (MJRefreshView.resetInset s).mainQueue = s.mainQueue ∧
      (MJRefreshView.resetInset s).completions = s.completions := by
  unfold MJRefreshView.resetInset Sys.setScrollAsixInsetTop
  dsimp only
  split
  · exact ⟨rfl, rfl⟩
  · split
    · split <;> simp
    · exact ⟨rfl, rfl⟩

/-- Adjusting the top inset keeps the header plain. -/
theorem reset_inset (h : PlainHeader s) : PlainHeader (MJRefreshView.resetInset s) := by
  unfold MJRefreshView.resetInset Sys.setScrollAsixInsetTop
  dsimp only
  split
  · exact h
  · split
    · split <;> exact PlainHeader.fixes.congr h (by simp)
    · exact PlainHeader.fixes.congr h rfl

end PlainHeader

/-! ## Handlers -/

/-- `MJRefreshHeader` is where `MJRefreshView` is, or it has already done what `MJRefreshView` has
put on the main queue. -/
inductive Ahead (headerNotify : Notify Unit) : Sys Unit → Sys Unit → Prop where
  | same {s : Sys Unit} : PlainHeader s → s.Drained → Ahead headerNotify s s
  | begun {s : Sys Unit} : PlainHeader s → s.Drained → s.view.state = .refreshing →
      Ahead headerNotify (s.dispatchAsync .headerRefreshing)
        (MJRefreshView.headerRefreshingBlock headerNotify s)

namespace Ahead

variable {s : Sys Unit} (viewNotify headerNotify : Notify Unit)

/-- Setting the state of a header that does not stop refreshing. -/
theorem set_state (h : PlainHeader s) (hdrained : s.Drained) {state : MJRefreshState}
    (hstay : s.view.state = .refreshing → state = .refreshing) :
    Ahead headerNotify (MJRefreshView.setState viewNotify state s)
      (MJRefreshHeader.setState headerNotify state s) := by
  by_cases hsame : state = s.view.state
  · rw [MJRefreshView.set_state_self viewNotify hsame, MJRefreshHeader.setState, if_pos hsame]
    exact .same h hdrained
  · by_cases hstate : state = .refreshing
    · -- only the start of a refresh puts `MJRefreshHeader` ahead
      subst hstate
      obtain ⟨hview, hheader⟩ := h.set_state_refreshing viewNotify headerNotify
        (fun hold => hsame hold.symm)
      rw [hview, hheader]
      exact .begun (PlainHeader.fixes.congr h rfl) hdrained rfl
    · have hold : s.view.state ≠ .refreshing := fun hold => hstate (hstay hold)
      have hstored : MJRefreshView.setState viewNotify state s =
          MJRefreshComponent.setState state s := by
        rw [MJRefreshView.set_state_header viewNotify h.header hsame,
          MJRefreshView.headerStateDidChange]
        simp [hold, hstate]
      rw [h.set_state_eq viewNotify headerNotify hstate, hstored]
      exact .same (PlainHeader.fixes.congr h rfl) hdrained

/-- `MJRefreshHeader` begins a refresh ahead of the other class by at most one block. -/
theorem begin_refreshing (h : PlainHeader s) (hdrained : s.Drained) :
    Ahead headerNotify (MJRefreshView.beginRefreshing viewNotify s)
      (MJRefreshHeader.beginRefreshing headerNotify s) := by
  rw [MJRefreshView.beginRefreshing, if_neg (by simp [h.undragged])]
  unfold MJRefreshHeader.beginRefreshing MJRefreshComponent.beginRefreshing
  have hstart : PlainHeader (MJRefreshComponent.setPullingPercent 1
      (s.mapView fun view => { view with alpha := 1 })) := PlainHeader.fixes.congr h rfl
  dsimp only
  split
  · exact set_state viewNotify headerNotify hstart hdrained (fun _ => rfl)
  · split
    next hstate =>
      exact set_state viewNotify headerNotify hstart hdrained (fun hold => absurd hold hstate)
    · exact .same hstart hdrained

/-- At the end of the content offset handlers `MJRefreshHeader` is ahead by at most one block. -/
theorem pulling_did_change (h : PlainHeader s) (hdrained : s.Drained) (pulled : Bool)
    (percent : CGFloat) :
    Ahead headerNotify (MJRefreshView.pullingDidChange viewNotify pulled percent s)
      (MJRefreshComponent.pullingDidChange (MJRefreshHeader.setState headerNotify)
        (MJRefreshHeader.beginRefreshing headerNotify) pulled percent s) := by
  unfold MJRefreshView.pullingDidChange MJRefreshComponent.pullingDidChange
  have hpercent : PlainHeader (MJRefreshComponent.setPullingPercent percent s) :=
    PlainHeader.fixes.congr h rfl
  dsimp only
  split
  · split
    next hidle =>
      refine set_state viewNotify headerNotify hpercent hdrained (fun hold => ?_)
      rw [hidle.1] at hold
      cases hold
    · split
      next hpulling =>
        refine set_state viewNotify headerNotify hpercent hdrained (fun hold => ?_)
        rw [hpulling.1] at hold
        cases hold
      · exact .same hpercent hdrained
  · split
    · exact begin_refreshing viewNotify headerNotify h hdrained
    · split
      · exact .same hpercent hdrained
      · exact .same h hdrained

/-- After the content offset handler `MJRefreshHeader` is ahead by at most one block. -/
theorem content_offset_did_change (h : PlainHeader s) (hdrained : s.Drained) (old new : CGPoint) :
    Ahead headerNotify (MJRefreshView.scrollViewContentOffsetDidChange viewNotify old new s)
      (MJRefreshHeader.scrollViewContentOffsetDidChange headerNotify s) := by
  rw [MJRefreshView.scrollViewContentOffsetDidChange, if_neg (by simp [h.header]),
    MJRefreshView.headerContentOffsetDidChange, MJRefreshHeader.scrollViewContentOffsetDidChange]
  split
  · rw [h.reset_inset_eq]
    obtain ⟨hqueue, hcompletions⟩ := PlainHeader.reset_inset_pending s
    exact .same h.reset_inset (hdrained.congr hqueue hcompletions)
  · have hremember : PlainHeader (MJRefreshComponent.rememberInset s) :=
      PlainHeader.fixes.congr h rfl
    generalize ht : MJRefreshComponent.rememberInset s = t at hremember
    have htdrained : t.Drained := by
      rw [← ht]
      exact hdrained
    dsimp only
    simp only [RefreshView.scrollAsixOriginInsetTop, RefreshView.asxiHeight, hremember.vertical,
      Bool.false_eq_true, if_false]
    split
    · exact .same hremember htdrained
    · exact pulling_did_change viewNotify headerNotify hremember htdrained _ _

end Ahead

/-! ## Draining -/

/-- A refreshing header that is told about a change of the content offset resets the inset. -/
def ResetsInset (notify : Notify Unit) : Prop :=
  ∀ old new s, PlainHeader s → s.view.state = .refreshing → notify old new s =
    if Shown s then MJRefreshView.resetInset s else s

/-- The notifications of `MJRefreshView` adjust the top inset of a refreshing header. -/
theorem resets_inset_view (depth : Nat) :
    ResetsInset (MJRefreshView.refreshClass.notifyWithin (depth + 1)) := by
  intro old new s h hstate
  have hhandler : ∀ notify, MJRefreshView.scrollViewContentOffsetDidChange notify old new s =
      MJRefreshView.resetInset s := by
    intro notify
    rw [MJRefreshView.scrollViewContentOffsetDidChange, if_neg (by simp [h.header]),
      MJRefreshView.headerContentOffsetDidChange, if_pos hstate]
  rw [← hhandler]
  rfl

/-- The notifications of `MJRefreshHeader` adjust the top inset of a refreshing header. -/
theorem resets_inset_header (depth : Nat) :
    ResetsInset (MJRefreshHeader.refreshClass.notifyWithin (depth + 1)) := by
  intro old new s h hstate
  have hhandler : ∀ notify, MJRefreshHeader.scrollViewContentOffsetDidChange notify s =
      MJRefreshView.resetInset s := by
    intro notify
    rw [MJRefreshHeader.scrollViewContentOffsetDidChange, if_pos hstate, h.reset_inset_eq]
  rw [← hhandler]
  rfl

namespace PlainHeader

variable {s : Sys Unit} {notify : Notify Unit}

/-- How deep notifications are nested makes no difference to a refreshing header. -/
theorem set_content_offset_eq (h : PlainHeader s) (hstate : s.view.state = .refreshing)
    {notify' : Notify Unit} (hnotify : ResetsInset notify) (hnotify' : ResetsInset notify')
    (offset : CGPoint) : s.setContentOffset notify offset = s.setContentOffset notify' offset := by
  have hmoved : PlainHeader (s.mapScroll fun sv => { sv with contentOffset := offset }) :=
    PlainHeader.fixes.congr h rfl
  unfold Sys.setContentOffset
  rw [hnotify _ _ _ hmoved hstate, hnotify' _ _ _ hmoved hstate]

/-- Setting the content offset of a refreshing header keeps it plain and makes nothing pending. -/
theorem set_content_offset (h : PlainHeader s) (hdrained : s.Drained)
    (hstate : s.view.state = .refreshing) (hnotify : ResetsInset notify) (offset : CGPoint) :
    PlainHeader (s.setContentOffset notify offset) ∧
      (s.setContentOffset notify offset).Drained := by
  have hmoved : PlainHeader (s.mapScroll fun sv => { sv with contentOffset := offset }) :=
    PlainHeader.fixes.congr h rfl
  unfold Sys.setContentOffset
  split
  · rw [hnotify _ _ _ hmoved hstate]
    split
    · obtain ⟨hqueue, hcompletions⟩ := reset_inset_pending
        (s.mapScroll fun sv => { sv with contentOffset := offset })
      exact ⟨hmoved.reset_inset, hdrained.congr hqueue hcompletions⟩
    · exact ⟨hmoved, hdrained⟩
  · exact ⟨h, hdrained⟩

/-- The scroll view is enlarged at the top and scrolled there. -/
theorem enlarge_eq (h : PlainHeader s) (notify : Notify Unit) (top : CGFloat) :
    ((s.setScrollAsixOriginInsetTop top).setScrollAsixOffsetY notify (-top)) =
      (s.updateScroll (UIScrollView.setMjInsetT top)).setContentOffset notify
        { (s.updateScroll (UIScrollView.setMjInsetT top)).sv.contentOffset with y := -top } := by
  rw [Sys.setScrollAsixOriginInsetTop, if_neg (by simp [h.vertical]), Sys.setScrollAsixOffsetY,
    if_neg (by simp [h.vertical])]

/-- The block that enlarges the top inset is the same for all notifications that adjust the
inset. -/
theorem header_refreshing_block_congr (h : PlainHeader s) (hstate : s.view.state = .refreshing)
    {notify' : Notify Unit} (hnotify : ResetsInset notify) (hnotify' : ResetsInset notify') :
    MJRefreshView.headerRefreshingBlock notify s =
      MJRefreshView.headerRefreshingBlock notify' s := by
  unfold MJRefreshView.headerRefreshingBlock
  dsimp only
  rw [h.enlarge_eq, h.enlarge_eq, set_content_offset_eq _ _ hnotify hnotify']
  · exact PlainHeader.fixes.congr h (by simp)
  · simpa using hstate

/-- The block that enlarges the top inset keeps the header plain and leaves one animation
pending. -/
theorem header_refreshing_block (h : PlainHeader s) (hdrained : s.Drained)
    (hstate : s.view.state = .refreshing) (hnotify : ResetsInset notify) :
    PlainHeader (MJRefreshView.headerRefreshingBlock notify s) ∧
      (MJRefreshView.headerRefreshingBlock notify s).OnePending := by
  unfold MJRefreshView.headerRefreshingBlock
  dsimp only
  rw [h.enlarge_eq]
  split
  · have hinset : PlainHeader (s.updateScroll (UIScrollView.setMjInsetT
        (s.view.scrollAsixOriginInsetTop + s.view.asxiHeight))) :=
      PlainHeader.fixes.congr h (by simp)
    obtain ⟨hplain, hafter⟩ := hinset.set_content_offset
      (hdrained.congr (by simp) (by simp)) (by simpa using hstate) hnotify _
    exact ⟨PlainHeader.fixes.congr hplain rfl, hafter.animate (by simp)⟩
  · exact ⟨PlainHeader.fixes.congr h rfl, hdrained.animate (by simp)⟩

/-- The end of a refresh keeps the header plain and leaves one animation pending. -/
theorem header_ending_action (h : PlainHeader s) (hdrained : s.Drained) :
    PlainHeader (MJRefreshView.headerEndingAction s) ∧
      (MJRefreshView.headerEndingAction s).OnePending := by
  have hset : s.setScrollAsixInsetTop (s.scrollAsixInsetTop + s.view.insetTDelta) =
      s.updateScroll (UIScrollView.setMjInsetT (s.scrollAsixInsetTop + s.view.insetTDelta)) :=
    if_neg (by simp [h.vertical])
  unfold MJRefreshView.headerEndingAction
  rw [hset]
  have hplain : PlainHeader (s.updateScroll (UIScrollView.setMjInsetT
      (s.scrollAsixInsetTop + s.view.insetTDelta))) :=
    PlainHeader.fixes.congr h (by simp)
  have hafter : (s.updateScroll (UIScrollView.setMjInsetT
      (s.scrollAsixInsetTop + s.view.insetTDelta))).Drained := hdrained.congr (by simp) (by simp)
  generalize s.updateScroll _ = t at hplain hafter
  dsimp only
  rw [if_neg (by simp [hplain.plain])]
  have hended : (MJRefreshComponent.fadeOut (t.fire .endRefreshingAnimationBegin)).Drained := hafter
  exact ⟨PlainHeader.fixes.congr hplain rfl, hended.animate (by simp)⟩

/-- Setting the idle state keeps the header plain and leaves at most one animation pending. -/
theorem set_state_idle (h : PlainHeader s) (hdrained : s.Drained) (notify : Notify Unit) :
    PlainHeader (MJRefreshView.setState notify .idle s) ∧
      (MJRefreshView.setState notify .idle s).OnePending := by
  by_cases hsame : .idle = s.view.state
  · rw [MJRefreshView.set_state_self notify hsame]
    exact ⟨h, .none hdrained⟩
  · rw [MJRefreshView.set_state_header notify h.header hsame, MJRefreshView.headerStateDidChange,
      if_pos rfl]
    have hstored : PlainHeader (MJRefreshComponent.setState .idle s) :=
      PlainHeader.fixes.congr h rfl
    split
    · exact ⟨hstored, .none hdrained⟩
    · exact hstored.header_ending_action hdrained

end PlainHeader

/-- After an event the two classes drain to the same state. -/
theorem Ahead.drains {viewNotify headerNotify : Notify Unit} (hview : ResetsInset viewNotify)
    (hheader : ResetsInset headerNotify) {v d : Sys Unit} (h : Ahead headerNotify v d)
    (notify : Notify Unit) :
    DrainAlike MJRefreshView.refreshClass MJRefreshHeader.refreshClass viewNotify notify
      PlainHeader v d := by
  cases h with
  | same hplain hdrained => exact ⟨v, .done hdrained, .done hdrained, hplain⟩
  | @begun s hplain hdrained hstate =>
      obtain ⟨hblock, hpending⟩ := hplain.header_refreshing_block hdrained hstate hheader
      obtain ⟨t, hdrains, ht⟩ := hpending.drains
      have hqueue : (s.dispatchAsync .headerRefreshing).mainQueue = [.headerRefreshing] := by
        rw [Sys.dispatchAsync_mainQueue, hdrained.1]
        rfl
      -- the block brings `MJRefreshView` to where `MJRefreshHeader` is already
      refine ⟨t, .block hqueue hdrained.2 ?_, hdrains _ _ 1, PlainHeader.stable _ t hblock ht⟩
      have hrun : MJRefreshView.refreshClass.runBlock viewNotify .headerRefreshing
          { s.dispatchAsync .headerRefreshing with mainQueue := [] } =
            MJRefreshView.headerRefreshingBlock headerNotify s := by
        rw [← hplain.header_refreshing_block_congr hstate hview hheader]
        show MJRefreshView.headerRefreshingBlock viewNotify { s with mainQueue := [] } = _
        rw [← hdrained.1]
      rw [hrun]
      exact hdrains _ _ 0

/-! ## Runs -/

/-- The events of a header that stays attached and is neither hidden nor set to a state from
outside. -/
def Event.ofHeader : Event → Bool
  | .contentOffset _ _ => true
  | .contentSize _ => true
  | .panState _ => true
  | .reloadData _ => true
  | .window _ => true
  | .beginRefreshing => true
  | .endRefreshing => true
  | .drawRect => true
  | .layoutSubviews => true
  | _ => false

/-- A notification leaves the two classes in the same state once everything is drained. -/
theorem header_content_offset_drains (depth : Nat) {s : Sys Unit} (h : PlainHeader s)
    (hdrained : s.Drained) (old new : CGPoint) :
    DrainAlike MJRefreshView.refreshClass MJRefreshHeader.refreshClass
      (MJRefreshView.refreshClass.notifyWithin (depth + 2))
      (MJRefreshHeader.refreshClass.notifyWithin (depth + 2)) PlainHeader
      (MJRefreshView.refreshClass.notifyWithin (depth + 2) old new s)
      (MJRefreshHeader.refreshClass.notifyWithin (depth + 2) old new s) := by
  cases hshown : Shown s with
  | false =>
      have hview : MJRefreshView.refreshClass.notifyWithin (depth + 2) old new s = s :=
        if_neg (Bool.not_eq_true _ ▸ hshown)
      have hheader : MJRefreshHeader.refreshClass.notifyWithin (depth + 2) old new s = s :=
        if_neg (Bool.not_eq_true _ ▸ hshown)
      rw [hview, hheader]
      exact ⟨s, .done hdrained, .done hdrained, h⟩
  | true =>
      have hview : MJRefreshView.refreshClass.notifyWithin (depth + 2) old new s =
          MJRefreshView.scrollViewContentOffsetDidChange
            (MJRefreshView.refreshClass.notifyWithin (depth + 1)) old new s := if_pos hshown
      have hheader : MJRefreshHeader.refreshClass.notifyWithin (depth + 2) old new s =
          MJRefreshHeader.scrollViewContentOffsetDidChange
            (MJRefreshHeader.refreshClass.notifyWithin (depth + 1)) s := if_pos hshown
      rw [hview, hheader]
      exact (Ahead.content_offset_did_change _ _ h hdrained old new).drains
        (resets_inset_view (depth + 1)) (resets_inset_header depth) _

/-- After every event the two classes drain to the same state. -/
theorem header_drains (depth : Nat) {s : Sys Unit} (h : PlainHeader s) (hdrained : s.Drained)
    {event : Event} (hevent : event.ofHeader = true) :
    DrainAlike MJRefreshView.refreshClass MJRefreshHeader.refreshClass
      (MJRefreshView.refreshClass.notifyWithin (depth + 2))
      (MJRefreshHeader.refreshClass.notifyWithin (depth + 2)) PlainHeader
      (MJRefreshView.refreshClass.handle
        (MJRefreshView.refreshClass.notifyWithin (depth + 2)) s event)
      (MJRefreshHeader.refreshClass.handle
        (MJRefreshHeader.refreshClass.notifyWithin (depth + 2)) s event) := by
  have hview := resets_inset_view (depth + 1)
  have hheader := resets_inset_header (depth + 1)
  cases event with
  | attach scrollView => cases hevent
  | detach => cases hevent
  | setState state => cases hevent
  | setHidden hidden => cases hevent
  | mainQueue => cases hevent
  | completion index => cases hevent
  | contentOffset offset isDragging =>
      exact header_content_offset_drains depth (s := s.mapScroll fun sv =>
        { sv with contentOffset := offset, isDragging := isDragging })
        (PlainHeader.fixes.congr h rfl) hdrained _ _
  | contentSize size =>
      refine drain_alike_of_drained PlainHeader.stable
        (s.mapScroll fun sv => { sv with contentSize := size }) ?_ ?_
        (PlainHeader.fixes.congr h rfl) hdrained
      · exact MJRefreshView.handle_content_size_of_header h.header _ size
      · exact ite_self _
  | panState panState =>
      refine drain_alike_of_drained PlainHeader.stable
        (s.mapScroll fun sv => { sv with panState := panState }) ?_ ?_
        (PlainHeader.fixes.congr h rfl) hdrained
      · exact MJRefreshView.handle_pan_state_of_pulled (.inl h.header) _ panState
      · exact ite_self _
  | reloadData numberOfRows =>
      exact drain_alike_of_drained PlainHeader.stable _ rfl rfl
        (PlainHeader.fixes.congr h rfl) hdrained
  | window inWindow =>
      exact drain_alike_of_drained PlainHeader.stable _ rfl rfl
        (PlainHeader.fixes.congr h rfl) hdrained
  | beginRefreshing => exact (Ahead.begin_refreshing _ _ h hdrained).drains hview hheader _
  | endRefreshing =>
      exact drain_alike_end_refreshing PlainHeader.stable hdrained (h.set_state_eq _ _ (by simp))
        (h.set_state_idle hdrained _)
  | drawRect =>
      refine drain_alike_draw_rect PlainHeader.stable h hdrained ?_
      exact (Ahead.set_state _ _ h hdrained (fun _ => rfl)).drains hview hheader _
  | layoutSubviews =>
      refine drain_alike_of_drained PlainHeader.stable (MJRefreshHeader.placeSubviews s) ?_ rfl
        (PlainHeader.fixes.congr h rfl) hdrained
      show MJRefreshView.placeSubviews s = _
      rw [MJRefreshView.placeSubviews, if_neg (by simp [h.header])]
      simp [RefreshView.setAsxiY, RefreshView.asxiHeight, MJRefreshHeader.placeSubviews,
        Sys.mapView, h.vertical]

/-- Every event of a header leads both classes to the same state. -/
theorem header_follows (depth : Nat) :
    Follows MJRefreshHeader.refreshClass (MJRefreshView.refreshClass.notifyWithin (depth + 2))
      (MJRefreshHeader.refreshClass.notifyWithin (depth + 2)) PlainHeader
      (fun _ event => event.ofHeader = true) := by
  intro s x bounce event h hdrained hevent
  have hplace : PlainHeader (s.place x bounce) := PlainHeader.fixes.congr h rfl
  refine DrainAlike.follow (MJRefreshView.keeps_place_notify_within _) h.vertical
    (fun scrollView heq => ?_) (fun heq => ?_) (header_drains depth h hdrained hevent)
    (header_drains depth hplace hdrained hevent)
  · subst heq
    cases hevent
  · subst heq
    cases hevent

/-- A header only does what every view does when it is attached. -/
theorem header_attached {view : RefreshView} (hheader : view.refreshMore = false)
    (hvertical : view.horizontalDirection = false) (scrollView : UIScrollView) :
    MJRefreshView.refreshClass.attached view scrollView =
      MJRefreshView.componentWillMoveToSuperview (some scrollView)
        (Sys.start view scrollView ()) := by
  refine if_neg ?_
  rw [MJRefreshView.component_attach (s := Sys.start view scrollView ()) hvertical]
  simp [Sys.start, hheader]

/-- A header of `MJRefreshView` and a `MJRefreshHeader` that start as the same view, are attached
to scroll views of the same geometry and see the same events look alike, once everything pending is
drained after each event. The depth is that of nested notifications, of which `MJRefreshHeader`
needs two. -/
theorem header_agrees (depth : Nat) (view : RefreshView) (scrollView : UIScrollView)
    (hheader : view.refreshMore = false) (hvertical : view.horizontalDirection = false)
    (hplain : view.isCollectionViewAnimationBug = false) (hundragged : view.triggerByDrag = false)
    (events : List Event) (hevents : ∀ event ∈ events, event.ofHeader = true) :
    let viewClass : RefreshClass Unit := MJRefreshView.refreshClass
    let headerClass : RefreshClass Unit := MJRefreshHeader.refreshClass
    let viewNotify := viewClass.notifyWithin (depth + 2)
    let headerNotify := headerClass.notifyWithin (depth + 2)
    ∃ s t, (∀ final, SettledRun (viewClass.Internal viewNotify) Sys.Drained
          (viewClass.handle viewNotify) (viewClass.attached view scrollView) events final ↔
        final = s) ∧
      (∀ final, SettledRun (headerClass.Internal headerNotify) Sys.Drained
          (headerClass.handle headerNotify) (headerClass.attached view scrollView) events final ↔
        final = t) ∧
      s.Agrees t := by
  intro viewClass headerClass viewNotify headerNotify
  have hstart : (Sys.start view scrollView ()).view.horizontalDirection = false := hvertical
  have hattached : viewClass.attached view scrollView = _ :=
    (header_attached hheader hvertical scrollView).trans
      (MJRefreshView.component_attach hstart scrollView)
  have hplace : headerClass.attached view scrollView =
      (viewClass.attached view scrollView).place (-scrollView.mjInset.left)
        scrollView.alwaysBounceHorizontal := by
    rw [header_attached hheader hvertical]
    exact component_attach_place hstart view.frame.x scrollView.alwaysBounceHorizontal scrollView
  have hplainHeader : PlainHeader (viewClass.attached view scrollView) := by
    rw [hattached]
    exact ⟨hheader, hvertical, hplain, hundragged⟩
  have hdrained : (viewClass.attached view scrollView).Drained := by
    rw [hattached]
    exact ⟨rfl, rfl⟩
  obtain ⟨hview, hother, hagree, _⟩ := (header_follows depth).agree_run hplainHeader hdrained
    (-scrollView.mjInset.left) scrollView.alwaysBounceHorizontal
    (admissible_of_forall _ _ hevents)
  rw [← hplace] at hother hagree
  exact ⟨_, _, hview, hother, hagree⟩

/-- A header that is pulled and released, refreshes, and is told to end. -/
theorem header_agrees_pulled :
    let events : List Event := [.window true, .contentOffset ⟨0, -120⟩ true,
      .contentOffset ⟨0, -110⟩ false, .contentOffset ⟨0, -80⟩ true, .endRefreshing]
    let view := MJRefreshView.refreshView false false false
    let viewClass : RefreshClass Unit := MJRefreshView.refreshClass
    let headerClass : RefreshClass Unit := MJRefreshHeader.refreshClass
    let viewNotify := viewClass.notifyWithin 2
    let headerNotify := headerClass.notifyWithin 2
    ∃ s t, (∀ final, SettledRun (viewClass.Internal viewNotify) Sys.Drained
          (viewClass.handle viewNotify) (viewClass.attached view sampleScrollView) events final ↔
        final = s) ∧
      (∀ final, SettledRun (headerClass.Internal headerNotify) Sys.Drained
          (headerClass.handle headerNotify) (headerClass.attached view sampleScrollView) events
          final ↔ final = t) ∧
      s.Agrees t :=
  header_agrees 0 _ sampleScrollView rfl rfl rfl rfl _ (by decide)

end Component.Refresh
