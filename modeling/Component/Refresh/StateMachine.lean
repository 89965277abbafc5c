import Component.Lib.StateLog
import Component.Refresh.Callbacks
import Component.Refresh.Moves

/-!
# The state machine behind `MJRefreshView`

`Edge` is the state machine that an `MJRefreshView` is meant to be: for each event the changes of
the state it may bring about, which depend on the kind of the view only. `run_follows` says that
every run of a view, with all the notifications nested in its handlers, is a run of this machine.
`no_more_data_kept` is a consequence for a view that has been told that there is no more data.
-/

namespace Component.Refresh

open Component.Lib.Run Component.Lib.StateLog

variable {ρ : Type}

/-- The changes of the state that scrolling brings about. -/
def ScrollEdge (pulled : Bool) (before : MJRefreshState) : MJRefreshState → Prop
  | .idle => pulled = true ∧ before = .pulling
  | .pulling => pulled = true ∧ before = .idle
  | .refreshing | .willRefresh => before = if pulled then .pulling else .idle
  | .noMoreData => False

/-- The changes of the state that an event may bring about. A view leaves the refreshing state only
to idle, when a block of the main queue ends the refresh or when the view is hidden, or to where
the application sets it. -/
def Edge (pulled : Bool) (event : Event) (before after : MJRefreshState) : Prop :=
  match event with
  | .contentOffset _ _ | .panState _ | .completion _ => ScrollEdge pulled before after
  | .beginRefreshing => before ≠ .refreshing ∧ (after = .refreshing ∨ after = .willRefresh)
  | .setState state => after = state ∨ ScrollEdge pulled before after
  | .setHidden hidden => hidden = true ∧ after = .idle
  | .drawRect => before = .willRefresh ∧ after = .refreshing
  | .mainQueue => after = .idle ∨ ScrollEdge pulled before after
  | .attach _ | .detach | .contentSize _ | .reloadData _ | .window _ | .endRefreshing
  | .layoutSubviews => False

/-- What scrolling allows are changes of the state machine. -/
theorem ScrollAllows.edge {s : Sys ρ} {state : MJRefreshState} (h : ScrollAllows s state) :
    ScrollEdge s.view.pulled s.view.state state := by
  cases state with
  | idle | pulling => exact h
  | refreshing | willRefresh => exact h.2
  | noMoreData => exact h

/-- What an event allows are changes of the state machine. -/
theorem Sys.Allows.edge {start s : Sys ρ} {event : Event} {state : MJRefreshState}
    (h : start.Allows event s state) : Edge s.view.pulled event s.view.state state := by
  cases event with
  | contentOffset offset isDragging => exact ScrollAllows.edge h
  | panState panState => exact ScrollAllows.edge h
  | completion index => exact ScrollAllows.edge h
  | beginRefreshing => exact h.2
  | setState new => exact Or.imp_right ScrollAllows.edge h
  | setHidden hidden => exact h
  | drawRect => exact h
  | mainQueue => exact Or.imp And.right ScrollAllows.edge h
  | attach _ | detach | contentSize _ | reloadData _ | window _ | endRefreshing
  | layoutSubviews => exact h

/-- A move leaves the state and the log alone or is an allowed change of the state. -/
theorem Move.state_cases {allows : Sys ρ → MJRefreshState → Prop} {adopts : UIScrollView → Prop}
    {s s' : Sys ρ} (h : Move allows adopts s s') :
    (s'.view.state = s.view.state ∧ s'.view.pulled = s.view.pulled ∧
      s'.transitions = s.transitions) ∨
    (∃ state, allows s state ∧ state ≠ s.view.state ∧
      s' = MJRefreshComponent.setState state s) := by
  cases h with
  | write hconduct _ =>
      exact .inl ⟨congrArg Conduct.state hconduct, congrArg Conduct.pulled hconduct,
        congrArg Conduct.transitions hconduct⟩
  | change state hallows hnew => exact .inr ⟨state, hallows, hnew, rfl⟩
  | adopt | percent | appear | fade | dispatch | animate | announce =>
      exact .inl ⟨rfl, rfl, rfl⟩
  | freeze | release =>
      left
      unfold Sys.updateScroll
      split <;> exact ⟨rfl, rfl, rfl⟩

/-- Moves keep the kind of the view and append a walk to the log. -/
theorem Reaches.walk {start : Sys ρ} {event : Event} {adopts : UIScrollView → Prop} {s s' : Sys ρ}
    (h : Reaches (start.Allows event) adopts s s') :
    s'.view.pulled = s.view.pulled ∧ ∃ log, s'.transitions = s.transitions ++ log ∧
      Walk (Edge s.view.pulled event) s.view.state log s'.view.state := by
  induction h with
  | refl => exact ⟨rfl, [], by simp, rfl⟩
  | tail _ hlast ih =>
      obtain ⟨hpulled, log, hlog, hwalk⟩ := ih
      rcases hlast.state_cases with ⟨hstate, hkind, htransitions⟩ | ⟨state, hallows, hnew, rfl⟩
      · exact ⟨hkind.trans hpulled, log, htransitions.trans hlog, by rwa [hstate]⟩
      · refine ⟨hpulled, log ++ [(_, state)], ?_, walk_concat hwalk (Ne.symm hnew) ?_⟩
        · simp only [MJRefreshComponent.setState, hlog, List.append_assoc]
        · exact hpulled ▸ hallows.edge

/-- The arrival of an event changes neither the view nor what is on record. -/
theorem arrive_frame (s : Sys ρ) (event : Event) :
    (s.arrive event).view = s.view ∧ (s.arrive event).transitions = s.transitions ∧
      (s.arrive event).fired = s.fired := by
  cases event <;> exact ⟨rfl, rfl, rfl⟩

/-- One step of a view is a sequence of moves that the event allows. -/
theorem reaches_step (depth : Nat) (s : Sys Unit) (event : Event) :
    Reaches (s.Allows event) event.Adopts (s.arrive event) (MJRefreshView.step depth s event) :=
  reaches_handle (scrolls_notify_within depth) event

/-- One event appends a walk of the state machine to the log. -/
theorem walk_step (depth : Nat) (s : Sys Unit) (event : Event) :
    (MJRefreshView.step depth s event).view.pulled = s.view.pulled ∧
      ∃ log, (MJRefreshView.step depth s event).transitions = s.transitions ++ log ∧
        Walk (Edge s.view.pulled event) s.view.state log
          (MJRefreshView.step depth s event).view.state := by
  have h := (reaches_step depth s event).walk
  rwa [(arrive_frame s event).1, (arrive_frame s event).2.1] at h

/-- Every run of a view follows the state machine. -/
theorem run_follows (depth : Nat) (view : RefreshView) (scrollView : UIScrollView)
    (events : List Event) :
    let s := run (MJRefreshView.step depth) (Sys.start view scrollView ()) events
    FollowsEvents (Edge view.pulled) view.state events s.transitions s.view.state := by
  intro s
  have hstep : ∀ state event, state.view.pulled = view.pulled →
      (MJRefreshView.step depth state event).view.pulled = view.pulled ∧
        ∃ taken, (MJRefreshView.step depth state event).transitions =
            state.transitions ++ taken ∧
          Walk (Edge view.pulled event) state.view.state taken
            (MJRefreshView.step depth state event).view.state := by
    intro state event hpulled
    obtain ⟨hkind, hwalk⟩ := walk_step depth state event
    exact ⟨hkind.trans hpulled, hpulled ▸ hwalk⟩
  obtain ⟨taken, hlog, hfollows⟩ := follows_run (fun s : Sys Unit => s.view.state)
    Sys.transitions hstep (Sys.start view scrollView ()) rfl events
  have htaken : s.transitions = taken := hlog
  rwa [htaken]

/-! ## No more data -/

/-- The events that come from the user or the system and not from the application. Showing the view
again counts among them, hiding it does not. -/
def Event.passive : Event → Bool
  | .beginRefreshing | .endRefreshing | .setState _ | .setHidden true => false
  | _ => true

/-- There is no more data, and no block is pending that would end a refresh. -/
def Sys.Exhausted (s : Sys ρ) : Prop :=
  s.view.state = .noMoreData ∧ .endRefreshing ∉ s.mainQueue

/-- A passive event changes the state of a view only that is idle, pulling or about to refresh. -/
theorem Sys.Exhausted.not_allows {start s : Sys ρ} {event : Event} (hstart : start.Exhausted)
    (hevent : event.passive = true)
    (hstate : s.view.state = .noMoreData ∨ s.view.state = .refreshing)
    (state : MJRefreshState) : ¬ start.Allows event s state := by
  have hscroll : ¬ ScrollAllows s state := by
    apply not_scroll_allows
    · rcases hstate with h | h <;> simp [h]
    · rcases hstate with h | h <;> simp [h]
  cases event with
  | contentOffset offset isDragging => exact hscroll
  | panState panState => exact hscroll
  | completion index => exact hscroll
  | beginRefreshing | endRefreshing | setState _ => cases hevent
  | setHidden hidden =>
      rintro ⟨rfl, -⟩
      cases hevent
  | drawRect =>
      rintro ⟨hdraw, -⟩
      rcases hstate with h | h <;> cases h.symm.trans hdraw
  | mainQueue =>
      rintro (⟨hhead, -⟩ | h)
      · exact hstart.2 (List.mem_of_mem_head? hhead)
      · exact hscroll h
  | attach _ | detach | contentSize _ | reloadData _ | window _ | layoutSubviews => exact id

/-- Views of the same conduct have the same blocks on the main queue. -/
theorem main_queue_of_conduct {s s' : Sys ρ} (h : s'.conduct = s.conduct) :
    s'.mainQueue = s.mainQueue := congrArg Conduct.mainQueue h

/-- The end of how many refreshes has been announced. -/
def Sys.announced (s : Sys ρ) : Nat := s.fired.count .endRefreshingAnimationBegin

/-- No move that a passive event allows ends the state without more data. -/
theorem Sys.Exhausted.reaches {start : Sys ρ} {event : Event} {adopts : UIScrollView → Prop}
    {s s' : Sys ρ} (hstart : start.Exhausted) (hevent : event.passive = true)
    (hs : s.Exhausted) (h : Reaches (start.Allows event) adopts s s') :
    s'.Exhausted ∧ s'.transitions = s.transitions ∧ s'.announced = s.announced := by
  induction h with
  | refl => exact ⟨hs, rfl, rfl⟩
  | tail _ hlast ih =>
      obtain ⟨⟨hstate, hqueue⟩, htransitions, hannounced⟩ := ih
      cases hlast with
      | write hconduct _ =>
          refine ⟨⟨(congrArg Conduct.state hconduct).trans hstate, ?_⟩,
            (congrArg Conduct.transitions hconduct).trans htransitions,
            (congrArg Conduct.announced hconduct).trans hannounced⟩
          rwa [main_queue_of_conduct hconduct]
      | change state hallows _ =>
          exact absurd hallows (hstart.not_allows hevent (.inl hstate) state)
      | announce hleaves =>
          -- the end is announced only by a move that leaves a refresh
          obtain ⟨before, state, hallows, hrefreshing⟩ := hleaves
          exact absurd hallows (hstart.not_allows hevent (.inr hrefreshing) state)
      | dispatch block hblock =>
          refine ⟨⟨hstate, ?_⟩, htransitions, hannounced⟩
          simp [hqueue, Ne.symm hblock]
      | adopt | percent | appear | fade | animate =>
          exact ⟨⟨hstate, hqueue⟩, htransitions, hannounced⟩
      | freeze | release =>
          unfold Sys.updateScroll
          split <;> exact ⟨⟨hstate, hqueue⟩, htransitions, hannounced⟩

/-- No passive event ends the state without more data. -/
theorem Sys.Exhausted.step {s : Sys Unit} (depth : Nat) (hs : s.Exhausted) {event : Event}
    (hevent : event.passive = true) :
    (MJRefreshView.step depth s event).Exhausted ∧
      (MJRefreshView.step depth s event).transitions = s.transitions ∧
      (MJRefreshView.step depth s event).announced = s.announced := by
  have harrive : (s.arrive event).Exhausted := by
    refine ⟨(arrive_frame s event).1 ▸ hs.1, ?_⟩
    cases event with
    -- the block that runs has left the queue
    | mainQueue => exact fun hmem => hs.2 (List.mem_of_mem_tail hmem)
    | endRefreshing => cases hevent
    | _ => exact hs.2
  have h := hs.reaches hevent harrive (reaches_step depth s event)
  rwa [(arrive_frame s event).2.1, Sys.announced, Sys.announced, (arrive_frame s event).2.2] at h

/-- The refreshing and the end callbacks that have been fired or are on their way. The announcement
that a refresh is about to end is never on its way: it is fired at once (`Sys.announced`). -/
def Sys.callbacks (s : Sys ρ) : ℤ × ℤ :=
  (s.mainQueue.map Block.due).sum + (s.completions.map Completion.due).sum +
    (s.fired.map Callback.due).sum

/-- What stays as it is once there is no more data. -/
structure Sys.Settled (s state : Sys ρ) : Prop where
  exhausted : state.Exhausted
  transitions : state.transitions = s.transitions
  announced : state.announced = s.announced
  owed : state.owed = s.owed

/-- A passive event keeps what is to stay as it is. -/
theorem Sys.Settled.step {s state : Sys Unit} (h : s.Settled state) (depth : Nat) {event : Event}
    (hevent : event.passive = true) : s.Settled (MJRefreshView.step depth state event) := by
  obtain ⟨hnext, hlog, hannounced⟩ := h.exhausted.step depth hevent
  refine ⟨hnext, hlog.trans h.transitions, hannounced.trans h.announced, Eq.trans ?_ h.owed⟩
  refine owed_handle (keeps_owed_notify_within depth) state event ?_
  cases event with
  | setState _ => cases hevent
  | _ => trivial

/-- The callbacks of a view whose state does not change are those that it had. -/
theorem Sys.Settled.callbacks {s state : Sys ρ} (h : s.Settled state) :
    state.callbacks = s.callbacks := by
  have hbalance : state.owed = s.owed := h.owed
  simp only [Sys.owed, h.transitions, sub_sub] at hbalance
  exact sub_right_injective hbalance

/-- Once there is no more data, nothing that the user or the system does brings the view back: it
changes its state no more, it announces the end of no refresh, and of the refreshing and the end
callbacks only those are still fired that were on their way. -/
theorem no_more_data_kept (depth : Nat) (s : Sys Unit) (hs : s.Exhausted) (events : List Event)
    (hpassive : ∀ event ∈ events, event.passive = true) :
    let final := run (MJRefreshView.step depth) s events
    final.view.state = .noMoreData ∧ final.transitions = s.transitions ∧
      final.callbacks = s.callbacks ∧ final.announced = s.announced := by
  intro final
  have hstep : ∀ state event, s.Settled state → event.passive = true →
      s.Settled (MJRefreshView.step depth state event) :=
    fun _ _ hstate hevent => hstate.step depth hevent
  have hinit : s.Settled s := ⟨hs, rfl, rfl, rfl⟩
  have hfinal : s.Settled final := run_invariant hstep hinit
    (admissible_of_forall (MJRefreshView.step depth) s hpassive)
  exact ⟨hfinal.exhausted.1, hfinal.transitions, hfinal.callbacks, hfinal.announced⟩

/-- A footer whose last refresh ended without more data is dragged far beyond its content, let go
and drawn; the end callback that was on its way is all that runs. -/
theorem no_more_data_kept_back_footer :
    let before : List Event := [.attach sampleScrollView, .window true, .beginRefreshing,
      .completion 0, .mainQueue, .setState .noMoreData]
    let events : List Event := [.contentOffset ⟨0, 600⟩ true, .contentOffset ⟨0, 600⟩ false,
      .drawRect, .completion 0, .mainQueue]
    let start := Sys.start (MJRefreshView.refreshView true true false) sampleScrollView ()
    let s := run (MJRefreshView.step 2) start before
    let final := run (MJRefreshView.step 2) s events
    s.fired = [.refreshing, .endRefreshingAnimationBegin] ∧
      final.view.state = .noMoreData ∧ final.transitions = s.transitions ∧
      final.callbacks = s.callbacks ∧ final.announced = s.announced :=
  ⟨by decide +kernel, no_more_data_kept 2 _ ⟨by decide +kernel, by decide +kernel⟩ _
    (by decide +kernel)⟩

end Component.Refresh
