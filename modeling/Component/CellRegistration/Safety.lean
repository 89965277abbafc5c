import Component.CellRegistration.Model
import Component.Lib.Run

/-!
# Safety of registered cells

A registration is meant to serve any view: the class is registered on the view before its first
cell is dequeued there. Two things stand against it. A registration remembers that its class has
been registered, but not on which view, so a second view is left without the class. And a class
object is never an instance of `UICollectionViewCell`, so from iOS 14 on a registration has neither
a class nor a handler to give.

`Consistent` describes the world after any sequence of calls by the sequence alone, and
`dequeues_safely_iff` says after which sequences a call is safe.
-/

namespace Component.CellRegistration

open Component.Lib.Run

/-! ## Class objects -/

/-- A class object is an instance of `NSObject` and of no other plain class. -/
theorem ObjCClass.is_kind_of_class_iff (receiver cls : ObjCClass) :
    receiver.isKindOfClass cls = true ↔ cls = .nsObject := by
  rw [isKindOfClass, decide_eq_true_iff]
  induction receiver with
  | nsObject => simp [instanceClasses]
  | subclass name superclass ih => simp [instanceClasses, ih]

section Making

variable {η : Type}

/-- No registration has one of UIKit for its collection view cells. -/
theorem registration_eq_none (iOS14 : Bool) (cellClass : ObjCClass) (handler : η) :
    (UIBaseListViewCellRegistration.registrationWithCellClass iOS14 cellClass
      handler).registration = none := by
  have hkind : ¬ cellClass.isKindOfClass uiCollectionViewCell = true := by
    rw [ObjCClass.is_kind_of_class_iff]
    exact ObjCClass.noConfusion
  exact if_neg hkind

end Making

variable {ι ν η α : Type}

/-! ## What a call does -/

/-- The registration is as it was made, up to the note that its class has been registered. -/
structure MadeFor (cellClass : ObjCClass) (handler : η) (r : UIBaseListViewCellRegistration η) :
    Prop where
  registration : r.registration = none
  cellClass : r.storedCellClass = some cellClass
  handler : r.storedConfigurationHandler = some handler

/-- Noting that the class has been registered leaves the rest of a registration as it was made. -/
theorem MadeFor.note {cellClass : ObjCClass} {handler : η} {r : UIBaseListViewCellRegistration η}
    (h : MadeFor cellClass handler r) (hasRegister : Bool) :
    MadeFor cellClass handler { r with hasRegister } :=
  ⟨h.registration, h.cellClass, h.handler⟩

/-- The cell of a class, dequeued by an identifier and configured by a handler. -/
def configured (identifier : String) (cellClass : ObjCClass) (handler : η) (indexPath : Nat × Nat)
    (item : Option α) : Dequeued η α :=
  ⟨⟨some identifier, cellClass⟩, some ⟨handler, ⟨some identifier, cellClass⟩, indexPath, item⟩⟩

/-- The view after a class has been registered by its name. -/
def View.register (view : View) (cellClass : ObjCClass) : View :=
  { view with registered := Function.update view.registered cellClass.name (some cellClass) }

/-- Registering a class changes the class of its own name only. -/
theorem View.registered_register (view : View) (cellClass : ObjCClass) (identifier : String) :
    (view.register cellClass).registered identifier =
      if identifier = cellClass.name then some cellClass else view.registered identifier :=
  Function.update_apply ..

/-- Before iOS 14 both classes do the same. -/
theorem dequeue_before_ios14 (view : View) (r : UIBaseListViewCellRegistration η)
    (indexPath : Nat × Nat) (item : Option α) :
    view.dequeue false r indexPath item = dequeueByIdentifier false view r indexPath item := by
  rw [View.dequeue]
  cases view.kind with
  | table => rfl
  | collection => rfl

section View

variable {cellClass : ObjCClass} {handler : η} {r : UIBaseListViewCellRegistration η}
  (hmade : MadeFor cellClass handler r) (view : View) (indexPath : Nat × Nat) (item : Option α)
include hmade

/-- From iOS 14 on a call raises an exception, for want of an identifier or of a registration. -/
theorem dequeue_of_ios14 (hnew : r.hasRegister = false) :
    ∃ exception, view.dequeue true r indexPath item = (.error exception, view, r) := by
  -- the getter asks the registration of UIKit, which was never made
  have hclass : r.cellClass true = none := by
    simp [UIBaseListViewCellRegistration.cellClass, hmade.registration]
  rw [View.dequeue]
  cases view.kind with
  | table =>
      refine ⟨.invalidReuseIdentifier, ?_⟩
      simp [UIBaseTableView.dequeueConfiguredReusableCellWithRegistration, dequeueByIdentifier,
        hclass, hnew, nsStringFromClass, registerClass, Except.map]
  | collection =>
      refine ⟨.nilRegistration, ?_⟩
      simp [UIBaseCollectionView.dequeueConfiguredReusableCellWithRegistration,
        UICollectionView.dequeueConfiguredReusableCellWithRegistration, hmade.registration]

/-- Before iOS 14 a registration returns the class that it was made for. -/
theorem cell_class_before_ios14 : r.cellClass false = some cellClass := by
  rw [UIBaseListViewCellRegistration.cellClass, if_neg Bool.false_ne_true, hmade.cellClass]

/-- Before iOS 14 a registration returns the handler that it was made with. -/
theorem handler_before_ios14 : r.configurationHandler false = some handler := by
  rw [UIBaseListViewCellRegistration.configurationHandler, if_neg Bool.false_ne_true, hmade.handler]

/-- A registration that has been used dequeues what the view has for the name of its class. -/
theorem dequeue_of_used (hused : r.hasRegister = true) :
    view.dequeue false r indexPath item =
      (match view.registered cellClass.name with
        | none => .error .notRegistered
        | some other => .ok (configured cellClass.name other handler indexPath item), view, r) := by
  rw [dequeue_before_ios14]
  cases hlookup : view.registered cellClass.name with
  | none =>
      simp [dequeueByIdentifier, cell_class_before_ios14 hmade, hused, nsStringFromClass,
        dequeueReusableCell, hlookup]
  | some other =>
      simp [dequeueByIdentifier, cell_class_before_ios14 hmade, handler_before_ios14 hmade, hused,
        nsStringFromClass, dequeueReusableCell, hlookup, configured]

/-- The first use of a registration registers its class on the view. -/
theorem dequeue_of_new (hnew : r.hasRegister = false)
    (hcell : cellClass.isSubclassOfClass view.kind.cellClass = true) :
    view.dequeue false r indexPath item =
      (.ok (configured cellClass.name cellClass handler indexPath item),
        view.register cellClass, { r with hasRegister := true }) := by
  have hhandler : { r with hasRegister := true }.configurationHandler false = some handler :=
    handler_before_ios14 (hmade.note true)
  rw [dequeue_before_ios14]
  simp [dequeueByIdentifier, cell_class_before_ios14 hmade, hhandler, hnew, hcell,
    nsStringFromClass, registerClass, dequeueReusableCell, Except.map, configured, View.register]

/-- A class that is not one of the cells of the view is refused. -/
theorem dequeue_of_refused (hnew : r.hasRegister = false)
    (hcell : ¬ cellClass.isSubclassOfClass view.kind.cellClass = true) :
    view.dequeue false r indexPath item = (.error .notACellClass, view, r) := by
  rw [dequeue_before_ios14]
  simp [dequeueByIdentifier, cell_class_before_ios14 hmade, hnew, hcell, nsStringFromClass,
    registerClass, Except.map]

end View

/-! ## Histories -/

/-- Before iOS 14, a view accepts the class of a registration for its cells. -/
def Accepts (setup : Setup ι ν η) (v : ν) (r : ι) : Prop :=
  setup.iOS14 = false ∧
    (setup.cellClass r).isSubclassOfClass (setup.kind v).cellClass = true

/-- The registration has been used with a view that accepts its class. -/
def Used (setup : Setup ι ν η) (history : List (Call ι ν α)) (r : ι) : Prop :=
  ∃ call ∈ history, call.registration = r ∧ Accepts setup call.view r

/-- The first view that accepts the class of the registration and with which the registration has
been used is this one. -/
def FirstUse (setup : Setup ι ν η) (history : List (Call ι ν α)) (v : ν) (r : ι) : Prop :=
  ∃ before call after, history = before ++ call :: after ∧ call.view = v ∧
    call.registration = r ∧ Accepts setup v r ∧ ¬ Used setup before r

/-- A registration has been used if it was used before the last call or by this call. -/
theorem used_concat (setup : Setup ι ν η) (history : List (Call ι ν α)) (call : Call ι ν α)
    (r : ι) :
    Used setup (history ++ [call]) r ↔
      Used setup history r ∨ (call.registration = r ∧ Accepts setup call.view r) := by
  simp only [Used, List.mem_append, List.mem_singleton]
  constructor
  · rintro ⟨other, hmem | rfl, hother⟩
    · exact .inl ⟨other, hmem, hother⟩
    · exact .inr hother
  · rintro (⟨other, hmem, hother⟩ | hcall)
    · exact ⟨other, .inl hmem, hother⟩
    · exact ⟨call, .inr rfl, hcall⟩

/-- The last call is the first use of a registration if it is accepted and no earlier call used
it. -/
theorem first_use_concat (setup : Setup ι ν η) (history : List (Call ι ν α)) (call : Call ι ν α)
    (v : ν) (r : ι) :
    FirstUse setup (history ++ [call]) v r ↔
      FirstUse setup history v r ∨
        (call.view = v ∧ call.registration = r ∧ Accepts setup v r ∧ ¬ Used setup history r) := by
  constructor
  · rintro ⟨before, first, after, hsplit, hfirst⟩
    rcases List.eq_nil_or_concat after with rfl | ⟨after, last, rfl⟩
    · obtain ⟨rfl, hcall⟩ := List.append_inj' hsplit rfl
      obtain rfl := (List.cons.inj hcall).1
      exact .inr hfirst
    · rw [List.concat_eq_append, ← List.cons_append, ← List.append_assoc] at hsplit
      obtain ⟨rfl, _⟩ := List.append_inj' hsplit rfl
      exact .inl ⟨before, first, after, rfl, hfirst⟩
  · rintro (⟨before, first, after, rfl, hfirst⟩ | hcall)
    · exact ⟨before, first, after ++ [call], by simp, hfirst⟩
    · exact ⟨history, call, [], rfl, hcall⟩

/-- The view of the first use accepts the class of the registration. -/
theorem FirstUse.accepts {setup : Setup ι ν η} {history : List (Call ι ν α)} {v : ν} {r : ι}
    (h : FirstUse setup history v r) : Accepts setup v r := by
  obtain ⟨_, _, _, _, _, _, haccepts, _⟩ := h
  exact haccepts

/-- Whether a view accepts a class depends on the class only. -/
theorem accepts_congr {setup : Setup ι ν η} {v : ν} {r r' : ι}
    (h : setup.cellClass r = setup.cellClass r') : Accepts setup v r ↔ Accepts setup v r' := by
  rw [Accepts, Accepts, h]

/-- The world after the calls of the history: each registration notes that it has been used, and
each view has the classes of the registrations that were first used with it. -/
structure Consistent (setup : Setup ι ν η) (history : List (Call ι ν α)) (world : World ι ν η) :
    Prop where
  made : ∀ r, MadeFor (setup.cellClass r) (setup.handler r) (world.registrations r)
  used : ∀ r, (world.registrations r).hasRegister = true ↔ Used setup history r
  kind : ∀ v, (world.views v).kind = setup.kind v
  registered : ∀ v identifier cellClass,
    (world.views v).registered identifier = some cellClass ↔
      ∃ r, setup.cellClass r = cellClass ∧ cellClass.name = identifier ∧
        FirstUse setup history v r

/-- At the start no registration has been used and no class is registered. -/
theorem consistent_start (setup : Setup ι ν η) :
    Consistent setup ([] : List (Call ι ν α)) setup.start where
  made r := ⟨registration_eq_none .., rfl, rfl⟩
  used r := by simp [Setup.start, Used, UIBaseListViewCellRegistration.registrationWithCellClass]
  kind v := rfl
  registered v identifier cellClass := by simp [Setup.start, FirstUse]

section World

variable {setup : Setup ι ν η} {history : List (Call ι ν α)} {world : World ι ν η}
  (hworld : Consistent setup history world)
include hworld

/-- A registration that has not been used says that its class is not registered. -/
theorem Consistent.has_register_eq_false {r : ι} (hnew : ¬ Used setup history r) :
    (world.registrations r).hasRegister = false := by
  rw [← Bool.not_eq_true, hworld.used]
  exact hnew

variable (call : Call ι ν α)

/-- A registration that has not been used raises an exception if the view does not accept its
class. -/
theorem dequeue_of_not_accepted (haccepts : ¬ Accepts setup call.view call.registration)
    (hnew : ¬ Used setup history call.registration) :
    ∃ exception, (world.views call.view).dequeue setup.iOS14 (world.registrations call.registration)
        call.indexPath call.item =
      (.error exception, world.views call.view, world.registrations call.registration) := by
  have hmade := hworld.made call.registration
  have hnew := hworld.has_register_eq_false hnew
  cases hversion : setup.iOS14 with
  | true => exact dequeue_of_ios14 hmade _ _ _ hnew
  | false =>
      refine ⟨.notACellClass, dequeue_of_refused hmade _ _ _ hnew ?_⟩
      intro hcell
      rw [hworld.kind] at hcell
      exact haccepts ⟨hversion, hcell⟩

/-- A registration that has been used dequeues what the view has for the name of its class. -/
theorem dequeue_of_used_before (hused : Used setup history call.registration) :
    (world.views call.view).dequeue setup.iOS14 (world.registrations call.registration)
        call.indexPath call.item =
      (match (world.views call.view).registered (setup.cellClass call.registration).name with
        | none => .error .notRegistered
        | some other => .ok (configured (setup.cellClass call.registration).name other
            (setup.handler call.registration) call.indexPath call.item),
        world.views call.view, world.registrations call.registration) := by
  have hversion : setup.iOS14 = false := by
    obtain ⟨_, _, _, haccepts⟩ := hused
    exact haccepts.1
  rw [hversion, dequeue_of_used (hworld.made _) _ _ _ ((hworld.used _).mpr hused)]

end World

variable [DecidableEq ι] [DecidableEq ν]

/-- The world in which a class has been registered on a view by the first use of a
registration. -/
def World.register (world : World ι ν η) (v : ν) (r : ι) (cellClass : ObjCClass) : World ι ν η :=
  { registrations := Function.update world.registrations r
      { world.registrations r with hasRegister := true }
    views := Function.update world.views v ((world.views v).register cellClass) }

/-- Registering a class through a registration changes the note of this registration only. -/
theorem World.registrations_register (world : World ι ν η) (v : ν) (r r' : ι)
    (cellClass : ObjCClass) :
    (world.register v r cellClass).registrations r' =
      if r' = r then { world.registrations r with hasRegister := true }
      else world.registrations r' :=
  Function.update_apply ..

/-- Registering a class changes one view only. -/
theorem World.views_register (world : World ι ν η) (v v' : ν) (r : ι) (cellClass : ObjCClass) :
    (world.register v r cellClass).views v' =
      if v' = v then (world.views v).register cellClass else world.views v' :=
  Function.update_apply ..

/-- The call dequeues a cell of the class for which the registration was made, by the identifier of
this class, and has it configured by the handler of the registration. A view dequeues by an
identifier the class that is registered on it. -/
def DequeuesSafely (setup : Setup ι ν η) (world : World ι ν η) (call : Call ι ν α) : Prop :=
  setup.outcome world call = .ok (configured (setup.cellClass call.registration).name
    (setup.cellClass call.registration) (setup.handler call.registration) call.indexPath call.item)

omit [DecidableEq ι] [DecidableEq ν] in
/-- A call that raises an exception does not dequeue safely. -/
theorem not_dequeues_safely_of_error {setup : Setup ι ν η} {world : World ι ν η}
    {call : Call ι ν α} {exception : Exception}
    (h : setup.outcome world call = .error exception) : ¬ DequeuesSafely setup world call := by
  rw [DequeuesSafely, h]
  simp

section Step

variable {setup : Setup ι ν η} {history : List (Call ι ν α)} {world : World ι ν η}
  (hworld : Consistent setup history world) (call : Call ι ν α)
include hworld

/-- The first use of a registration. -/
theorem step_of_new (haccepts : Accepts setup call.view call.registration)
    (hnew : ¬ Used setup history call.registration) :
    DequeuesSafely setup world call ∧
      setup.step world call =
        world.register call.view call.registration (setup.cellClass call.registration) := by
  obtain ⟨hversion, hcell⟩ := haccepts
  rw [← hworld.kind] at hcell
  have hdequeue := dequeue_of_new (hworld.made call.registration) (world.views call.view)
    call.indexPath call.item (hworld.has_register_eq_false hnew) hcell
  constructor
  · rw [DequeuesSafely, Setup.outcome, hversion, hdequeue]
  · rw [Setup.step, hversion, hdequeue, World.register]

/-- Only the first use of a registration changes the world. -/
theorem step_of_not_new
    (h : ¬ (Accepts setup call.view call.registration ∧ ¬ Used setup history call.registration)) :
    setup.step world call = world := by
  by_cases hused : Used setup history call.registration
  · rw [Setup.step, dequeue_of_used_before hworld call hused]
    simp only [Function.update_eq_self]
  · obtain ⟨exception, hdequeue⟩ := dequeue_of_not_accepted hworld call
      (fun haccepts => h ⟨haccepts, hused⟩) hused
    rw [Setup.step, hdequeue]
    simp only [Function.update_eq_self]

/-- The classes of the views after the first use of a registration. -/
theorem registered_register_iff (haccepts : Accepts setup call.view call.registration)
    (hnew : ¬ Used setup history call.registration) (v : ν) (identifier : String)
    (cellClass : ObjCClass) :
    ((world.register call.view call.registration
        (setup.cellClass call.registration)).views v).registered identifier = some cellClass ↔
      ∃ r, setup.cellClass r = cellClass ∧ cellClass.name = identifier ∧
        FirstUse setup (history ++ [call]) v r := by
  simp only [first_use_concat]
  by_cases hsame : v = call.view ∧ identifier = (setup.cellClass call.registration).name
  · obtain ⟨rfl, rfl⟩ := hsame
    rw [World.views_register, if_pos rfl, View.registered_register, if_pos rfl]
    constructor
    · intro hclass
      cases hclass
      exact ⟨call.registration, rfl, rfl, .inr ⟨rfl, rfl, haccepts, hnew⟩⟩
    · rintro ⟨r, rfl, hname, _⟩
      rw [setup.names_unique r call.registration hname]
  · -- the entry is not the one that has been written
    have hentry : ((world.register call.view call.registration
        (setup.cellClass call.registration)).views v).registered identifier =
        (world.views v).registered identifier := by
      rw [World.views_register]
      split_ifs with hview
      · rw [View.registered_register, if_neg (fun hname => hsame ⟨hview, hname⟩), hview]
      · rfl
    rw [hentry, hworld.registered]
    refine exists_congr fun r => and_congr_right fun hclass => and_congr_right fun hname => ?_
    rw [or_iff_left]
    rintro ⟨rfl, rfl, _⟩
    exact hsame ⟨rfl, by rw [hclass, hname]⟩

/-- The first use of a registration keeps the description of the world. -/
theorem consistent_register (haccepts : Accepts setup call.view call.registration)
    (hnew : ¬ Used setup history call.registration) :
    Consistent setup (history ++ [call])
      (world.register call.view call.registration (setup.cellClass call.registration)) where
  made r := by
    rw [World.registrations_register]
    split_ifs with hr
    · rw [hr]
      exact (hworld.made call.registration).note true
    · exact hworld.made r
  used r := by
    rw [World.registrations_register, used_concat]
    split_ifs with hr
    · exact iff_of_true rfl (.inr ⟨hr.symm, hr ▸ haccepts⟩)
    · rw [hworld.used, or_iff_left]
      rintro ⟨rfl, _⟩
      exact hr rfl
  kind v := by
    rw [World.views_register]
    split_ifs with hv
    · rw [hv]
      exact hworld.kind call.view
    · exact hworld.kind v
  registered := registered_register_iff hworld call haccepts hnew

/-- Each call keeps the description of the world. -/
theorem consistent_step : Consistent setup (history ++ [call]) (setup.step world call) := by
  by_cases hfirst : Accepts setup call.view call.registration ∧
      ¬ Used setup history call.registration
  · rw [(step_of_new hworld call hfirst.1 hfirst.2).2]
    exact consistent_register hworld call hfirst.1 hfirst.2
  · -- neither the world nor what is said of the history changes
    rw [step_of_not_new hworld call hfirst]
    refine ⟨hworld.made, fun r => ?_, hworld.kind, fun v identifier cellClass => ?_⟩
    · rw [hworld.used, used_concat]
      constructor
      · exact .inl
      · rintro (hused | ⟨rfl, haccepts⟩)
        · exact hused
        · by_contra hnew
          exact hfirst ⟨haccepts, hnew⟩
    · rw [hworld.registered]
      refine exists_congr fun r => and_congr_right fun _ => and_congr_right fun _ => ?_
      rw [first_use_concat, or_iff_left]
      rintro ⟨rfl, rfl, hrest⟩
      exact hfirst hrest

/-- A call is safe exactly if the class of its registration was registered on the view by the first
use of some registration for it, this call included. -/
theorem dequeues_safely_iff_of_consistent :
    DequeuesSafely setup world call ↔
      ∃ r, setup.cellClass r = setup.cellClass call.registration ∧
        FirstUse setup (history ++ [call]) call.view r := by
  by_cases hfirst : Accepts setup call.view call.registration ∧
      ¬ Used setup history call.registration
  · refine iff_of_true (step_of_new hworld call hfirst.1 hfirst.2).1 ⟨call.registration, rfl, ?_⟩
    rw [first_use_concat]
    exact .inr ⟨rfl, rfl, hfirst⟩
  · by_cases hused : Used setup history call.registration
    · -- nothing is registered, so it depends on what the view has by that name
      have hlookup : DequeuesSafely setup world call ↔
          (world.views call.view).registered (setup.cellClass call.registration).name =
            some (setup.cellClass call.registration) := by
        rw [DequeuesSafely, Setup.outcome, dequeue_of_used_before hworld call hused]
        cases (world.views call.view).registered (setup.cellClass call.registration).name with
        | none => simp
        | some other => simp [configured]
      rw [hlookup, hworld.registered]
      refine exists_congr fun r => and_congr_right fun _ => ?_
      rw [first_use_concat]
      constructor
      · rintro ⟨_, huse⟩
        exact .inl huse
      · rintro (huse | ⟨_, rfl, _, hnew⟩)
        · exact ⟨rfl, huse⟩
        · exact absurd hused hnew
    · -- the call raises, and no registration for the class has been accepted either
      have haccepts : ¬ Accepts setup call.view call.registration :=
        fun haccepts => hfirst ⟨haccepts, hused⟩
      obtain ⟨exception, hdequeue⟩ := dequeue_of_not_accepted hworld call haccepts hused
      refine iff_of_false ?_ ?_
      · exact not_dequeues_safely_of_error (congrArg Prod.fst hdequeue)
      · rintro ⟨r, hclass, huse⟩
        exact haccepts ((accepts_congr hclass).mp huse.accepts)

end Step

/-- After any sequence of calls, a call with a view and a registration is safe exactly if the class
of the registration was registered on this view by the first use of some registration for it, the
call itself included. -/
theorem dequeues_safely_iff (setup : Setup ι ν η) (history : List (Call ι ν α))
    (call : Call ι ν α) :
    DequeuesSafely setup (run setup.step setup.start history) call ↔
      ∃ r, setup.cellClass r = setup.cellClass call.registration ∧
        FirstUse setup (history ++ [call]) call.view r := by
  have hworld : Consistent setup history (run setup.step setup.start history) := by
    induction history using List.reverseRecOn with
    | nil => exact consistent_start setup
    | append_singleton history last ih =>
        rw [run_concat]
        exact consistent_step ih last
  exact dequeues_safely_iff_of_consistent hworld call

/-- A list with two views and one registration. -/
def twoViews (iOS14 : Bool) (kind : ViewKind) : Setup Unit Bool Nat where
  iOS14 := iOS14
  kind _ := kind
  cellClass _ := .subclass "MessageCell" kind.cellClass
  handler _ := 7
  names_unique _ _ _ := rfl

/-- The second view is left without the class before iOS 14, and from iOS 14 on the first one
too. -/
theorem dequeue_raises_on_second_view :
    let first : Call Unit Bool Nat := ⟨false, (), (0, 0), none⟩
    let second : Call Unit Bool Nat := ⟨true, (), (0, 0), none⟩
    let after := run (twoViews false .table).step (twoViews false .table).start [first]
    DequeuesSafely (twoViews false .table) (twoViews false .table).start first ∧
      (twoViews false .table).outcome after second = .error .notRegistered ∧
      ¬ DequeuesSafely (twoViews false .table) after second ∧
      ¬ DequeuesSafely (twoViews true .table) (twoViews true .table).start first ∧
      ¬ DequeuesSafely (twoViews true .collection) (twoViews true .collection).start first := by
  exact ⟨rfl, rfl, not_dequeues_safely_of_error rfl, not_dequeues_safely_of_error rfl,
    not_dequeues_safely_of_error rfl⟩

end Component.CellRegistration
