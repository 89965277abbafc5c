import Component.Refresh.Conservation.Attachment

/-!
# The insets of a scroll view and its refresh views

Every event of the attached views keeps the insets of their scroll view apart from the shares of
these views (`insets_conserved`), unless it is one of those that `Conserving` excludes. For these
`insets_not_conserved` has a run after which the insets differ although no view is attached.
-/

namespace Component.Refresh

open Component.Lib.Run Component.Lib.Ledger

section

variable {κ : Type} [DecidableEq κ]

/-! ## Steps -/

/-- The events of a view that keep the insets. Only attached views are told to refresh, drawn,
hidden or shown. -/
def Event.KeepsInsets (attached : Prop) : Event → Prop
  | .beginRefreshing => attached
  | .drawRect => attached
  | .setHidden _ => attached
  | .endRefreshing => True
  | .contentOffset _ _ => True
  | .reloadData _ => True
  | .window _ => True
  | .layoutSubviews => True
  | .mainQueue => True
  | .completion _ => True
  | .attach _ => False
  | .detach => False
  | .contentSize _ => False
  | .panState _ => False
  | .setState _ => False

/-- The steps in which every enlargement of an inset is matched by its removal: views are attached
and removed without a share of the insets, a footer that refreshes by itself is removed while it is
hidden or while the bottom inset is the one it remembers, no view is attached twice, there is only
one header, and the header ends its refreshes with a current `insetTDelta`. -/
def Conserving (s : World κ) : WorldEvent κ → Prop
  | .setRefreshView slot new => new ≠ s.slot slot →
      (∀ id ∈ (s.slot slot).toFinset, (s.cellOf id).view.MayLeave s.scrollView) ∧
      ∀ id ∈ new.toFinset, id ∉ s.attached ∧ (s.cellOf id).view.MayEnter ∧
        ((s.cellOf id).view.refreshMore = false →
          ∀ other ∈ s.attached, s.slot slot ≠ some other →
            (s.cellOf other).view.refreshMore = true)
  | .view id event => event.KeepsInsets (id ∈ s.attached) ∧
      ((s.cellOf id).view.refreshMore = false → InsetAligned (s.switchTo id) event)

instance (view : RefreshView) : Decidable view.Neutral := inferInstanceAs (Decidable (_ ∧ _))

instance (view : RefreshView) : Decidable view.MayEnter := inferInstanceAs (Decidable (_ ∨ _))

instance (view : RefreshView) (scrollView : UIScrollView) : Decidable (view.MayLeave scrollView) :=
  inferInstanceAs (Decidable (if view.refreshMore = true ∧ view.refreshBack = false then _ else _))

instance (attached : Prop) [Decidable attached] :
    (event : Event) → Decidable (event.KeepsInsets attached)
  | .beginRefreshing => inferInstanceAs (Decidable attached)
  | .drawRect => inferInstanceAs (Decidable attached)
  | .setHidden _ => inferInstanceAs (Decidable attached)
  | .endRefreshing => .isTrue trivial
  | .contentOffset _ _ => .isTrue trivial
  | .reloadData _ => .isTrue trivial
  | .window _ => .isTrue trivial
  | .layoutSubviews => .isTrue trivial
  | .mainQueue => .isTrue trivial
  | .completion _ => .isTrue trivial
  | .attach _ => .isFalse id
  | .detach => .isFalse id
  | .contentSize _ => .isFalse id
  | .panState _ => .isFalse id
  | .setState _ => .isFalse id

instance (s : World κ) : (event : WorldEvent κ) → Decidable (Conserving s event)
  | .setRefreshView _ _ => inferInstanceAs (Decidable (_ → _ ∧ _))
  | .view _ _ => inferInstanceAs (Decidable (_ ∧ _))

namespace Conserved

variable {inset : UIEdgeInsets} {layout : Layout κ} {s t : World κ}

/-- The layout of a view keeps the insets. -/
theorem place_subviews (h : Conserved inset layout s) :
    Conserved inset layout (MJRefreshView.placeSubviews s) := by
  unfold MJRefreshView.placeSubviews
  split
  · exact h
  · rw [Sys.mapView, RefreshView.set_asxi_y_of_vertical h.vertical]
    exact h.congr rfl rfl rfl rfl rfl rfl rfl rfl

/-- An event of the view that is talked to. -/
theorem handle (h : Conserved inset layout s) {notify : Notify (Others κ)}
    (hnotify : Conserves notify) {event : Event}
    (hkeeps : event.KeepsInsets (s.view.observing = true))
    (haligned : s.view.refreshMore = false → InsetAligned s event) :
    ∃ layout' : Layout κ, layout'.attached = layout.attached ∧ layout'.slot = layout.slot ∧
      Conserved inset layout' (MJRefreshView.refreshClass.handle notify s event) := by
  cases event with
  | attach scrollView => exact absurd hkeeps id
  | detach => exact absurd hkeeps id
  | contentSize size => exact absurd hkeeps id
  | panState panState => exact absurd hkeeps id
  | setState state => exact absurd hkeeps id
  | contentOffset offset isDragging =>
      refine ⟨layout, rfl, rfl, hnotify _ _ _ _ _ ?_⟩
      exact h.congr rfl rfl rfl rfl rfl rfl rfl rfl
  | reloadData numberOfRows =>
      exact ⟨layout, rfl, rfl, h.congr rfl rfl rfl rfl rfl rfl rfl rfl⟩
  | window inWindow => exact ⟨layout, rfl, rfl, h.congr rfl rfl rfl rfl rfl rfl rfl rfl⟩
  | beginRefreshing => exact ⟨layout, rfl, rfl, h.begin_refreshing hnotify hkeeps⟩
  | endRefreshing => exact ⟨layout, rfl, rfl, h.dispatch_async (by simp)⟩
  | setHidden hidden => exact h.set_hidden hnotify hkeeps haligned
  | drawRect =>
      refine ⟨layout, rfl, rfl, ?_⟩
      show Conserved inset layout (MJRefreshComponent.drawRect _ s)
      unfold MJRefreshComponent.drawRect
      split
      · exact h.set_state hnotify (fun _ => hkeeps) (fun _ hne => absurd rfl hne)
      · exact h
  | layoutSubviews => exact ⟨layout, rfl, rfl, h.place_subviews⟩
  | mainQueue => exact ⟨layout, rfl, rfl, h.main_queue hnotify haligned⟩
  | completion index => exact ⟨layout, rfl, rfl, h.completion hnotify index haligned⟩

/-- A view is removed, and the others stay as they are. -/
theorem remove_from_superview (h : Conserved inset layout s) {id : κ} (hid : id ∈ layout.attached)
    (hleave : (s.cellOf id).view.MayLeave s.scrollView) :
    Conserved inset (layout.focus id).leave (s.removeFromSuperview id) ∧
      ∀ other, other ≠ id → (s.removeFromSuperview id).cellOf other = s.cellOf other := by
  have hfocus := h.switch_to id
  have hobserving : (s.switchTo id).view.observing = true := hfocus.observing_iff.mpr hid
  have hmoved := moved_detach hfocus.vertical (hfocus.linked hobserving)
  refine ⟨hfocus.detach hobserving hleave hmoved, fun other hother => ?_⟩
  exact (World.cell_of_congr hmoved.rest hother).trans (World.cell_of_switch_to id other s)

/-- A view is attached. -/
theorem insert_subview (h : Conserved inset layout s) {id : κ} (hid : id ∉ layout.attached)
    (henter : (s.cellOf id).view.MayEnter)
    (hheader : (layout.shape id).refreshMore = false →
      ∀ other ∈ layout.attached, (layout.shape other).refreshMore = true) :
    Conserved inset ((layout.focus id).join hheader) (s.insertSubview id) := by
  have hfocus := h.switch_to id
  have hdetached : (s.switchTo id).view.observing = false := by
    rw [← Bool.not_eq_true, hfocus.observing_iff]
    exact hid
  exact hfocus.attach hdetached henter hheader (moved_attach hfocus.vertical)

end Conserved

/-- The insets are conserved, and no view is in both properties. -/
def InsetsKept (inset : UIEdgeInsets) (s : World κ) : Prop :=
  ∃ layout : Layout κ, Conserved inset layout s ∧ layout.attached = s.attached ∧ s.Distinct

/-- Every allowed event of a view keeps the insets. -/
theorem insets_kept_view {inset : UIEdgeInsets} (moreFirst : Bool) (depth : Nat) {s : World κ}
    (h : InsetsKept inset s) {id : κ} {event : Event} (hok : Conserving s (.view id event)) :
    InsetsKept inset (s.step moreFirst depth (.view id event)) := by
  obtain ⟨layout, hconserved, hattached, hdistinct⟩ := h
  have hfocus := hconserved.switch_to id
  have hobserving : (s.switchTo id).view.observing = true ↔ id ∈ s.attached := by
    rw [← hattached]
    exact hfocus.observing_iff
  have hkeeps : event.KeepsInsets ((s.switchTo id).view.observing = true) := by
    rw [hobserving]
    exact hok.1
  obtain ⟨layout', hattached', hslot', hstep⟩ :=
    hfocus.handle (conserves_notify_within moreFirst depth) hkeeps hok.2
  have hslots : ∀ slot, (s.step moreFirst depth (.view id event)).slot slot = s.slot slot := by
    intro slot
    rw [hconserved.slot slot]
    exact (hstep.slot slot).trans (congrFun hslot' slot)
  refine ⟨layout', hstep, ?_, fun other => ?_⟩
  · rw [hattached', World.attached_eq .reset, hslots, hslots, ← World.attached_eq]
    exact hattached
  · rw [hslots, hslots]
    exact hdistinct other

/-- The layout once a property of the scroll view has been changed. -/
def Layout.storeSlot (layout : Layout κ) (slot : Slot) (id : Option κ) : Layout κ :=
  { layout with slot := Function.update layout.slot slot id }

/-- Which slot a view is in has nothing to do with the insets. -/
theorem Conserved.store_slot {inset : UIEdgeInsets} {layout : Layout κ} {s : World κ}
    (h : Conserved inset layout s) (slot : Slot) (id : Option κ) :
    Conserved inset (layout.storeSlot slot id) (s.storeSlot slot id) := by
  have hslot : ∀ other, (s.storeSlot slot id).slot other =
      Function.update layout.slot slot id other := by
    intro other
    by_cases hother : other = slot
    · rw [hother, World.slot_store_slot, Function.update_self]
    · rw [Function.update_of_ne hother, ← h.slot other]
      cases slot <;> cases other <;> first | rfl | exact absurd rfl hother
  cases slot with
  | reset =>
      exact ⟨h.current, hslot, h.shape, h.cells, h.left, h.right, h.top, h.bottom⟩
  | more =>
      exact ⟨h.current, hslot, h.shape, h.cells, h.left, h.right, h.top, h.bottom⟩

/-- The view in a property of the scroll view is removed. The other property and the other views
stay as they are. -/
theorem Conserved.remove_old {inset : UIEdgeInsets} {layout : Layout κ} {s : World κ}
    (h : Conserved inset layout s) (hattached : layout.attached = s.attached)
    (hdistinct : s.Distinct) {slot : Slot}
    (hleave : ∀ id ∈ (s.slot slot).toFinset, (s.cellOf id).view.MayLeave s.scrollView) :
    ∃ layout' : Layout κ, Conserved inset layout' (s.removeOld slot) ∧
      layout'.attached = (s.slot slot.other).toFinset ∧ layout'.slot = layout.slot ∧
      ∀ id, s.slot slot ≠ some id → (s.removeOld slot).cellOf id = s.cellOf id := by
  unfold World.removeOld
  cases hold : s.slot slot with
  | none =>
      refine ⟨layout, h, ?_, rfl, fun _ _ => rfl⟩
      rw [hattached, World.attached_eq slot, hold, Option.toFinset_none, Finset.empty_union]
  | some old =>
      have hmem : old ∈ layout.attached := by
        rw [hattached, World.attached_eq slot, hold]
        simp
      have hnot : old ∉ (s.slot slot.other).toFinset := by
        rw [Option.mem_toFinset]
        exact fun hother => (World.distinct_iff slot s).mp hdistinct old ⟨hold, hother⟩
      obtain ⟨hremoved, hothers⟩ :=
        h.remove_from_superview hmem (hleave old (by rw [hold]; simp))
      refine ⟨_, hremoved, ?_, rfl,
        fun id hid => hothers id fun heq => hid (congrArg some heq.symm)⟩
      show layout.attached.erase old = _
      rw [hattached, World.attached_eq slot, hold, Option.toFinset_some, Finset.erase_union_distrib,
        Finset.erase_eq_of_notMem hnot, Finset.erase_singleton, Finset.empty_union]

/-- The new view of a property is stored once it has been attached. -/
theorem Conserved.insets_kept {inset : UIEdgeInsets} {layout : Layout κ} {t : World κ} {slot : Slot}
    {new : Option κ} (h : Conserved inset layout t)
    (hattached : layout.attached = new.toFinset ∪ (t.slot slot.other).toFinset)
    (hnew : ∀ id, new = some id → t.slot slot.other ≠ some id) :
    InsetsKept inset (t.storeSlot slot new) := by
  refine ⟨_, h.store_slot slot new, ?_, (World.distinct_iff slot _).mpr fun id hboth => ?_⟩
  · show layout.attached = _
    rw [World.attached_eq slot, World.slot_store_slot, World.slot_other_store_slot, hattached]
  · rw [World.slot_store_slot, World.slot_other_store_slot] at hboth
    exact hnew id hboth.1 hboth.2

/-- Replacing the view of a slot keeps the insets if the old view may leave and the new one may
enter. -/
theorem insets_kept_set_refresh_view {inset : UIEdgeInsets} {s : World κ} (h : InsetsKept inset s)
    {slot : Slot} {new : Option κ} (hok : Conserving s (.setRefreshView slot new)) :
    InsetsKept inset (s.setRefreshView slot new) := by
  by_cases hnew : new ≠ s.slot slot
  swap
  · rw [World.setRefreshView, if_neg hnew]
    exact h
  obtain ⟨hleave, henter⟩ := hok hnew
  obtain ⟨layout, hconserved, hattached, hdistinct⟩ := h
  obtain ⟨layout', hremoved, hattached', hslot', hothers⟩ :=
    hconserved.remove_old hattached hdistinct hleave
  have hotherSlot : (s.removeOld slot).slot slot.other = s.slot slot.other := by
    rw [hremoved.slot, hslot', ← hconserved.slot]
  rw [World.setRefreshView, if_pos hnew]
  cases new with
  | none =>
      refine hremoved.insets_kept ?_ (by simp)
      rw [hattached', hotherSlot, Option.toFinset_none, Finset.empty_union]
  | some id =>
      obtain ⟨hid, hmay, hheader⟩ := henter id (by simp)
      have hcell := hothers id fun heq => hnew heq.symm
      -- a view that is attached already cannot be set in the other slot
      have hnot : s.slot slot.other ≠ some id := by
        intro hother
        refine hid ?_
        rw [World.attached_eq slot, hother]
        simp
      have hmem : ∀ other ∈ layout'.attached, other ∈ s.attached ∧ s.slot slot ≠ some other := by
        intro other hother
        rw [hattached', Option.mem_toFinset] at hother
        refine ⟨?_, fun hslot => (World.distinct_iff slot s).mp hdistinct other ⟨hslot, hother⟩⟩
        rw [World.attached_eq slot, Option.mem_def.mp hother]
        simp
      have hfooters : (layout'.shape id).refreshMore = false →
          ∀ other ∈ layout'.attached, (layout'.shape other).refreshMore = true := by
        intro hmore other hother
        obtain ⟨hbefore, hkept⟩ := hmem other hother
        rw [← hremoved.shape, hcell] at hmore
        rw [← hremoved.shape, hothers other hkept]
        exact hheader hmore other hbefore hkept
      have hinserted := hremoved.insert_subview (fun hother => hid (hmem id hother).1)
        (by rw [hcell]; exact hmay) hfooters
      have hslot : ((s.removeOld slot).insertSubview id).slot slot.other = s.slot slot.other := by
        rw [hinserted.slot, ← hotherSlot]
        exact (hremoved.slot slot.other).symm
      refine hinserted.insets_kept ?_ (fun other heq => ?_)
      · show insert id layout'.attached = _
        rw [hslot, hattached', Option.toFinset_some, Finset.insert_eq]
      · rw [hslot, ← heq]
        exact hnot

/-- Every step that is allowed keeps the insets. -/
theorem insets_kept_step {inset : UIEdgeInsets} (moreFirst : Bool) (depth : Nat) (s : World κ)
    (event : WorldEvent κ) (h : InsetsKept inset s) (hok : Conserving s event) :
    InsetsKept inset (s.step moreFirst depth event) := by
  cases event with
  | setRefreshView slot new => exact insets_kept_set_refresh_view h hok
  | view id event => exact insets_kept_view moreFirst depth h hok

/-- Views that have never been attached to a scroll view. -/
structure RefreshView.Unattached (view : RefreshView) : Prop where
  vertical : view.horizontalDirection = false
  linked : view.linked = false
  observing : view.observing = false

/-- At the start no view is attached and the insets are those of the scroll view. -/
theorem insets_kept_start {views : κ → RefreshView} (hviews : ∀ id, (views id).Unattached)
    (current : κ) (scrollView : UIScrollView) :
    InsetsKept scrollView.mjInset (World.start views current scrollView) := by
  have hcell : ∀ id, (World.start views current scrollView).cellOf id =
      ⟨views id, [], [], [], []⟩ := by
    intro id
    unfold World.cellOf
    split
    next heq => rw [heq]; rfl
    · rfl
  let layout : Layout κ := {
    current := current
    slot := fun _ => none
    attached := ∅
    shape := fun id => (views id).shape
    vertical := fun id => (hviews id).vertical
    observing := fun id => by simp [RefreshView.shape, (hviews id).observing]
    linked := fun id hid => by simp at hid
    oneHeader := fun a ha => by simp at ha }
  refine ⟨layout, ⟨rfl, fun slot => ?_, fun id => ?_, fun id => ?_, rfl, rfl, fun _ => rfl, ?_⟩,
    rfl, fun id hboth => ?_⟩
  · cases slot <;> rfl
  · rw [hcell]
  · rw [hcell]
    refine ⟨fun _ hpending => ?_, fun _ hlinked => ?_, fun hlinked => ?_⟩
    · simp [Cell.Enlarges] at hpending
    · exact absurd ((hviews id).linked.symm.trans hlinked) (by simp)
    · exact absurd ((hviews id).linked.symm.trans hlinked) (by simp)
  · exact balanced_empty.mpr rfl
  · cases hboth.1

/-- In every run whose steps are allowed the four insets are those of the start whenever no view is
attached. When only a footer that refreshes by itself is attached, the bottom inset is larger by the
height of the footer while it is shown. -/
theorem insets_conserved (moreFirst : Bool) (depth : Nat) (views : κ → RefreshView)
    (hviews : ∀ id, (views id).Unattached) (current : κ) (scrollView : UIScrollView)
    (events : List (WorldEvent κ))
    (hok : Admissible (World.step moreFirst depth) Conserving
      (World.start views current scrollView) events) :
    let s := run (World.step moreFirst depth) (World.start views current scrollView) events
    (s.attached = ∅ → s.scrollView.mjInset = scrollView.mjInset) ∧
    ∀ id, s.attached = {id} → (s.cellOf id).view.refreshMore = true →
      (s.cellOf id).view.refreshBack = false →
      s.scrollView.mjInset = { scrollView.mjInset with
        bottom := scrollView.mjInset.bottom +
          if (s.cellOf id).view.hidden then 0 else (s.cellOf id).view.frame.height } := by
  intro s
  obtain ⟨layout, h, hattached, _⟩ : InsetsKept scrollView.mjInset s :=
    run_invariant (insets_kept_step moreFirst depth)
      (insets_kept_start hviews current scrollView) hok
  constructor
  · intro hnone
    have hbottom := h.bottom
    have htop := h.top
    rw [hattached, hnone] at hbottom htop
    exact UIEdgeInsets.ext (htop (by simp)) h.left (balanced_empty.mp hbottom) h.right
  · intro id hone hmore hauto
    have hbottom := h.bottom
    have htop := h.top
    rw [hattached, hone] at hbottom htop
    have hobserving : (s.cellOf id).view.observing = true := by
      have hobserving := (layout.observing id).mpr (by rw [hattached, hone]; simp)
      rw [← h.shape] at hobserving
      exact hobserving
    refine UIEdgeInsets.ext (htop fun other hother hraises => ?_) h.left ?_ h.right
    · rw [Finset.mem_singleton.mp hother] at hraises
      exact absurd (hmore.symm.trans hraises.2.1) (by simp)
    · rw [balanced_singleton.mp hbottom, RefreshView.bottom_share_auto ⟨hmore, hauto⟩ hobserving]

end

/-- A header refreshes once and stays, and a footer is attached, hidden and removed again. -/
theorem insets_conserved_sample :
    let views : Bool → RefreshView := fun more => MJRefreshView.refreshView more false false
    let events : List (WorldEvent Bool) := [.setRefreshView .reset (some false),
      .view false (.window true), .view false .beginRefreshing, .view false .mainQueue,
      .view false (.completion 0), .view false .mainQueue, .setRefreshView .more (some true),
      .view false .endRefreshing, .view false .mainQueue, .view false (.completion 0),
      .view true (.setHidden true), .setRefreshView .more none, .setRefreshView .reset none]
    let s := run (World.step false 2) (World.start views false sampleScrollView) events
    s.attached = ∅ ∧ s.scrollView.mjInset = sampleScrollView.mjInset := by
  intro views events s
  have hnone : s.attached = ∅ := by decide +kernel
  have hviews : ∀ id, (views id).Unattached := by
    intro id
    cases id <;> exact ⟨rfl, rfl, rfl⟩
  exact ⟨hnone, (insets_conserved false 2 views hviews false sampleScrollView events
    (by decide +kernel)).1 hnone⟩

/-- A footer that refreshes by itself is attached and removed: its height is taken from the bottom
inset that it remembers from before it made room for itself. -/
theorem insets_not_conserved :
    let views : Unit → RefreshView := fun _ => MJRefreshView.refreshView true false false
    let events : List (WorldEvent Unit) :=
      [.setRefreshView .more (some ()), .setRefreshView .more none]
    let s := run (World.step false 2) (World.start views () sampleScrollView) events
    s.attached = ∅ ∧ s.cell.mainQueue = [] ∧ s.cell.completions = [] ∧
      s.scrollView.mjInset.bottom = sampleScrollView.mjInset.bottom - 54 := by
  refine ⟨?_, ?_, ?_, ?_⟩ <;> decide +kernel

end Component.Refresh
