import Mathlib.Logic.Function.Basic

/-!
# Registrations of list view cells

A model of `UIBaseListViewCellRegistration` and of the views that dequeue cells by it,
`UIBaseTableView` and `UIBaseCollectionView`. The first part is what they use of the Objective-C
runtime and of UIKit: classes with their metaclasses, and the table in which a view keeps the class
that is registered for a reuse identifier. UIKit raises an exception for a nil identifier, for a
class that is not one of its cells and for an identifier without a class.

Every getter of a registration depends on the version of the system, which is fixed during a run of
the program (`iOS14` says that it is iOS 14 or later). An exception keeps what has been done before
it was raised.
-/

namespace Component.CellRegistration

/-! ## The runtime -/

/-- A class with its superclasses. -/
inductive ObjCClass where
  | nsObject
  | subclass (name : String) (superclass : ObjCClass)
  deriving DecidableEq, Repr

/-- An object that is a class: a plain class or a metaclass. -/
inductive ClassObject where
  | plain (cls : ObjCClass)
  | metaclass (cls : ObjCClass)
  deriving DecidableEq, Repr

namespace ObjCClass

/-- The name of a class. -/
def name : ObjCClass → String
  | nsObject => "NSObject"
  | subclass name _ => name

/-- `isSubclassOfClass:`, which compares the receiver and its superclasses. -/
def isSubclassOfClass : ObjCClass → ObjCClass → Bool
  | nsObject, cls => cls = nsObject
  | subclass name superclass, cls =>
      cls = subclass name superclass || superclass.isSubclassOfClass cls

/-- The classes of which a class object is an instance. The metaclasses inherit from each other as
the classes do, and the metaclass of `NSObject` inherits from `NSObject` itself. -/
def instanceClasses : ObjCClass → List ClassObject
  | nsObject => [.metaclass nsObject, .plain nsObject]
  | subclass name superclass => .metaclass (subclass name superclass) :: superclass.instanceClasses

/-- `isKindOfClass:`, sent to a class object. -/
def isKindOfClass (receiver cls : ObjCClass) : Bool := .plain cls ∈ receiver.instanceClasses

end ObjCClass

/-- `NSStringFromClass`, which is nil for a nil class. -/
def nsStringFromClass (cls : Option ObjCClass) : Option String := cls.map ObjCClass.name

/-- `UIView` with its superclasses. -/
def uiView : ObjCClass := .subclass "UIView" (.subclass "UIResponder" .nsObject)

/-- The class of the cells of table views. -/
def uiTableViewCell : ObjCClass := .subclass "UITableViewCell" uiView

/-- The class of the cells of collection views. -/
def uiCollectionViewCell : ObjCClass :=
  .subclass "UICollectionViewCell" (.subclass "UICollectionReusableView" uiView)

/-! ## The views of UIKit -/

/-- `UITableView` and `UICollectionView`. -/
inductive ViewKind where
  | table
  | collection
  deriving DecidableEq, Repr

/-- The class from which the cells of a view inherit. -/
def ViewKind.cellClass : ViewKind → ObjCClass
  | table => uiTableViewCell
  | collection => uiCollectionViewCell

/-- The exceptions that registering and dequeuing raise. -/
inductive Exception where
  | invalidReuseIdentifier
  | notACellClass
  | notRegistered
  | nilRegistration
  deriving DecidableEq, Repr

/-- A view with the classes that are registered for its reuse identifiers. -/
structure View where
  kind : ViewKind
  registered : String → Option ObjCClass

/-- A dequeued cell. Its identifier is nil if UIKit has chosen one of its own. -/
structure Cell where
  reuseIdentifier : Option String
  cellClass : ObjCClass
  deriving DecidableEq, Repr

/-- `registerClass:forCellReuseIdentifier:` and `registerClass:forCellWithReuseIdentifier:`. A nil
class removes the registration. -/
def registerClass (view : View) (cellClass : Option ObjCClass) (identifier : Option String) :
    Except Exception View :=
  match identifier, cellClass with
  | none, _ => .error .invalidReuseIdentifier
  | some identifier, none =>
      .ok { view with registered := Function.update view.registered identifier none }
  | some identifier, some cellClass =>
      if cellClass.isSubclassOfClass view.kind.cellClass then
        .ok { view with registered := Function.update view.registered identifier (some cellClass) }
      else .error .notACellClass

/-- `dequeueReusableCellWithIdentifier:forIndexPath:` and
`dequeueReusableCellWithReuseIdentifier:forIndexPath:`. -/
def dequeueReusableCell (view : View) (identifier : Option String) : Except Exception Cell :=
  match identifier with
  | none => .error .invalidReuseIdentifier
  | some identifier =>
      match view.registered identifier with
      | none => .error .notRegistered
      | some cellClass => .ok ⟨some identifier, cellClass⟩

/-! ## Registrations -/

/-- `UICollectionViewCellRegistration`, with handlers from `η`. -/
structure UICollectionViewCellRegistration (η : Type) where
  cellClass : ObjCClass
  configurationHandler : η
  deriving DecidableEq, Repr

/-- The instance variables of `UIBaseListViewCellRegistration`. -/
structure UIBaseListViewCellRegistration (η : Type) where
  registration : Option (UICollectionViewCellRegistration η)
  storedCellClass : Option ObjCClass
  storedConfigurationHandler : Option η
  hasRegister : Bool
  deriving DecidableEq, Repr

namespace UIBaseListViewCellRegistration

variable {η : Type}

/-- `registrationWithCellClass:configurationHandler:`. -/
def registrationWithCellClass (iOS14 : Bool) (cellClass : ObjCClass) (configurationHandler : η) :
    UIBaseListViewCellRegistration η :=
  { registration :=
      -- the class itself is asked, not an instance of it
      if cellClass.isKindOfClass uiCollectionViewCell then
        if iOS14 then some ⟨cellClass, configurationHandler⟩ else none
      else none
    storedCellClass := some cellClass
    storedConfigurationHandler := some configurationHandler
    hasRegister := false }

/-- The getter `cellClass`. A message to nil returns nil. -/
def cellClass (iOS14 : Bool) (r : UIBaseListViewCellRegistration η) : Option ObjCClass :=
  if iOS14 then r.registration.map (·.cellClass) else r.storedCellClass

/-- The getter `configurationHandler`. -/
def configurationHandler (iOS14 : Bool) (r : UIBaseListViewCellRegistration η) : Option η :=
  if iOS14 then r.registration.map (·.configurationHandler) else r.storedConfigurationHandler

end UIBaseListViewCellRegistration

/-! ## Dequeuing -/

/-- A call of a configuration handler. An index path is a section and an item of it. -/
structure Invocation (η α : Type) where
  handler : η
  cell : Cell
  indexPath : Nat × Nat
  item : Option α
  deriving DecidableEq, Repr

/-- The returned cell, and the call of the handler if there was one. -/
structure Dequeued (η α : Type) where
  cell : Cell
  invocation : Option (Invocation η α)
  deriving DecidableEq, Repr

section Dequeue

variable {η α : Type}

/-- What both classes do, the table view always and the collection view before iOS 14: register the
class unless the registration says that this has been done, dequeue a cell and configure it. -/
def dequeueByIdentifier (iOS14 : Bool) (view : View)
    (registration : UIBaseListViewCellRegistration η) (indexPath : Nat × Nat) (item : Option α) :
    Except Exception (Dequeued η α) × View × UIBaseListViewCellRegistration η :=
  let cellClass := registration.cellClass iOS14
  let identifier := nsStringFromClass cellClass
  let prepared :=
    -- the flag does not say on which view the class has been registered
    if registration.hasRegister then .ok (view, registration)
    else (registerClass view cellClass identifier).map
      fun view => (view, { registration with hasRegister := true })
  match prepared with
  | .error exception => (.error exception, view, registration)
  | .ok (view, registration) =>
      match dequeueReusableCell view identifier with
      | .error exception => (.error exception, view, registration)
      | .ok cell =>
          let invocation := (registration.configurationHandler iOS14).map
            fun handler => ⟨handler, cell, indexPath, item⟩
          (.ok ⟨cell, invocation⟩, view, registration)

/-- The method of `UICollectionView`, which has its own identifier for each registration. -/
def UICollectionView.dequeueConfiguredReusableCellWithRegistration
    (registration : Option (UICollectionViewCellRegistration η)) (indexPath : Nat × Nat)
    (item : Option α) : Except Exception (Dequeued η α) :=
  match registration with
  | none => .error .nilRegistration
  | some registration =>
      let cell := ⟨none, registration.cellClass⟩
      .ok ⟨cell, some ⟨registration.configurationHandler, cell, indexPath, item⟩⟩

/-- Table views have no cell registrations of their own and always use the identifier. -/
def UIBaseTableView.dequeueConfiguredReusableCellWithRegistration (iOS14 : Bool) (view : View)
    (registration : UIBaseListViewCellRegistration η) (indexPath : Nat × Nat) (item : Option α) :
    Except Exception (Dequeued η α) × View × UIBaseListViewCellRegistration η :=
  dequeueByIdentifier iOS14 view registration indexPath item

/-- Collection views use the system's cell registration from iOS 14 on and the identifier before. -/
def UIBaseCollectionView.dequeueConfiguredReusableCellWithRegistration (iOS14 : Bool) (view : View)
    (registration : UIBaseListViewCellRegistration η) (indexPath : Nat × Nat) (item : Option α) :
    Except Exception (Dequeued η α) × View × UIBaseListViewCellRegistration η :=
  if iOS14 then
    (UICollectionView.dequeueConfiguredReusableCellWithRegistration registration.registration
      indexPath item, view, registration)
  else dequeueByIdentifier iOS14 view registration indexPath item

/-- The method of the view, by its class. -/
def View.dequeue (iOS14 : Bool) (view : View) (registration : UIBaseListViewCellRegistration η)
    (indexPath : Nat × Nat) (item : Option α) :
    Except Exception (Dequeued η α) × View × UIBaseListViewCellRegistration η :=
  match view.kind with
  | .table =>
      UIBaseTableView.dequeueConfiguredReusableCellWithRegistration iOS14 view registration
        indexPath item
  | .collection =>
      UIBaseCollectionView.dequeueConfiguredReusableCellWithRegistration iOS14 view registration
        indexPath item

end Dequeue

/-! ## Programs -/

/-- The registrations and the views of a program: `ι` and `ν` are their identities. Two classes of a
program have different names. -/
structure Setup (ι ν η : Type) where
  iOS14 : Bool
  kind : ν → ViewKind
  cellClass : ι → ObjCClass
  handler : ι → η
  names_unique : ∀ r r', (cellClass r).name = (cellClass r').name → cellClass r = cellClass r'

/-- A call of `dequeueConfiguredReusableCellWithRegistration:forIndexPath:item:`. -/
structure Call (ι ν α : Type) where
  view : ν
  registration : ι
  indexPath : Nat × Nat
  item : Option α
  deriving DecidableEq, Repr

/-- The registrations and the views at some moment. -/
structure World (ι ν η : Type) where
  registrations : ι → UIBaseListViewCellRegistration η
  views : ν → View

section Program

variable {ι ν η α : Type} [DecidableEq ι] [DecidableEq ν]

/-- All registrations have been made, and no cell has been dequeued. -/
def Setup.start (setup : Setup ι ν η) : World ι ν η where
  registrations r :=
    .registrationWithCellClass setup.iOS14 (setup.cellClass r) (setup.handler r)
  views v := ⟨setup.kind v, fun _ => none⟩

/-- What a call returns or raises. -/
def Setup.outcome (setup : Setup ι ν η) (world : World ι ν η) (call : Call ι ν α) :
    Except Exception (Dequeued η α) :=
  ((world.views call.view).dequeue setup.iOS14 (world.registrations call.registration)
    call.indexPath call.item).1

/-- The world after a call. -/
def Setup.step (setup : Setup ι ν η) (world : World ι ν η) (call : Call ι ν α) : World ι ν η :=
  let after := ((world.views call.view).dequeue setup.iOS14 (world.registrations call.registration)
    call.indexPath call.item).2
  { registrations := Function.update world.registrations call.registration after.2
    views := Function.update world.views call.view after.1 }

end Program

end Component.CellRegistration
