import Component.Lib.Threads

/-!
# The mediator

`CTMediator` lets modules call each other without knowing each other: a call names a target and an
action, and the mediator makes an instance of the class `Target_…` and has it perform the selector
`Action_…:`. Instances may be kept for later calls. Calls come from the application itself
(`performTarget:action:params:shouldCacheTarget:`) or from outside, as a URL
(`performActionWithUrl:completion:`).

Calls may run on several threads at once. The dictionary of kept instances is only touched inside of
`@synchronized`, so a call is modelled as a sequence of sections, each of which touches the
dictionary at most once, and the sections of different calls come in any order. What the runtime
knows about classes and what their methods return is given by a `Runtime`. Values in the parameters
are strings, and `init` does not return `nil`.
-/

namespace Component.Mediator

open Component.Lib.Threads

/-- A string of characters. -/
abbrev NSString := List Char

/-- A dictionary of parameters; the first entry for a key counts. -/
abbrev Params := List (NSString × NSString)

/-- `setObject:forKey:`. -/
def Params.setObject (params : Params) (value key : NSString) : Params :=
  (key, value) :: params.filter (fun entry => decide (entry.1 ≠ key))

/-- `NSURL`, as far as it is read. -/
structure NSURL where
  host : Option NSString
  path : Option NSString
  queryItems : List (NSString × Option NSString)
  deriving DecidableEq

/-- The dictionary that an action is called with. -/
inductive Argument where
  | params (params : Params)
  | noTarget (originParams : Params) (targetString selectorString : NSString)
  deriving DecidableEq

/-- An object that an action returns; numbers are boxed. -/
inductive Value where
  | integer (value : Int)
  | bool (value : Bool)
  | float (value : ℚ)
  | unsigned (value : Nat)
  | object (name : NSString)
  deriving DecidableEq

/-- A method by its return type. The last case stands for all types that are not listed in
`safePerformAction:target:params:`. -/
inductive Method where
  | void
  | nsInteger (result : Argument → Int)
  | bool (result : Argument → Bool)
  | cgFloat (result : Argument → ℚ)
  | nsUInteger (result : Argument → Nat)
  | other (result : Argument → Option NSString)

/-- The classes by name, with their methods by selector. -/
abbrev Runtime := NSString → Option (NSString → Option Method)

/-- An instance of a class. -/
structure Target where
  className : NSString
  serial : Nat
  deriving DecidableEq

/-! ## Names -/

/-- `kCTMediatorParamsKeySwiftTargetModuleName`. -/
def kCTMediatorParamsKeySwiftTargetModuleName : NSString :=
  "kCTMediatorParamsKeySwiftTargetModuleName".toList

/-- The start of an action's name that marks it as one for calls from within the application. -/
def nativeStart : NSString := "native".toList

/-- The selector that is tried when a target has no method for the action. -/
def notFound : NSString := "notFound:".toList

/-- The class that answers calls whose target or action does not exist. -/
def noTargetAction : NSString := "Target_NoTargetAction".toList

/-- The method of `Target_NoTargetAction` that is called with the names of the failed call. -/
def actionResponse : NSString := "Action_response:".toList

/-- A call of `performTarget:action:params:shouldCacheTarget:` whose target and action are not
`nil`, with the place it was made from. -/
structure Call where
  targetName : NSString
  actionName : NSString
  params : Params
  shouldCacheTarget : Bool
  remote : Bool
  completion : Bool
  deriving DecidableEq

/-- The name of the class of the target, with the Swift module in front if the parameters name
one. -/
def Call.targetClassString (call : Call) : NSString :=
  match call.params.lookup kCTMediatorParamsKeySwiftTargetModuleName with
  | some swiftModuleName =>
      if swiftModuleName.length > 0 then
        swiftModuleName ++ ".Target_".toList ++ call.targetName
      else "Target_".toList ++ call.targetName
  | none => "Target_".toList ++ call.targetName

/-- The selector of the action, which takes the parameters as its argument. -/
def Call.actionString (call : Call) : NSString :=
  "Action_".toList ++ call.actionName ++ [':']

/-! ## Shared state -/

/-- A method that has been called on behalf of a call. -/
structure Invocation where
  call : Call
  target : Target
  selector : NSString
  argument : Argument
  deriving DecidableEq

/-- The mediator, the number of instances made so far, the methods called, and what the completion
blocks have been given. -/
structure Shared where
  cachedTarget : NSString → Option Target
  instances : Nat
  invocations : List Invocation
  completions : List (Option Value)

/-- The target that is cached under a name. The dictionary is read under a lock. -/
def Shared.safeFetchCachedTarget (shared : Shared) (key : NSString) : Option Target :=
  shared.cachedTarget key

/-- Cache a target under a name. The dictionary is written under a lock. -/
def Shared.safeSetCachedTarget (shared : Shared) (target : Target) (key : NSString) : Shared :=
  { shared with cachedTarget := Function.update shared.cachedTarget key (some target) }

/-- Forget the target that is cached under a name. -/
def Shared.removeCachedTarget (shared : Shared) (key : NSString) : Shared :=
  { shared with cachedTarget := Function.update shared.cachedTarget key none }

/-- `alloc` and `init`, which give `nil` for a class that does not exist. -/
def Shared.alloc (runtime : Runtime) (shared : Shared) (className : NSString) :
    Option Target × Shared :=
  match runtime className with
  | none => (none, shared)
  | some _ => (some ⟨className, shared.instances⟩,
      { shared with instances := shared.instances + 1 })

/-- `methodSignatureForSelector:`, with the method itself. -/
def methodFor (runtime : Runtime) (className selector : NSString) : Option Method :=
  (runtime className).bind (fun methods => methods selector)

/-- Whether the class of a target has a method for a selector. -/
def respondsToSelector (runtime : Runtime) (target : Target) (selector : NSString) : Bool :=
  (methodFor runtime target.className selector).isSome

/-- The object for what a method returns. -/
def Method.value (argument : Argument) : Method → Option Value
  | .void => none
  | .nsInteger result => some (.integer (result argument))
  | .bool result => some (.bool (result argument))
  | .cgFloat result => some (.float (result argument))
  | .nsUInteger result => some (.unsigned (result argument))
  | .other result => (result argument).map Value.object

/-- Call the method of a target, and record the call. A message to `nil` does nothing and returns
`nil`. -/
def safePerformAction (runtime : Runtime) (call : Call) (shared : Shared) (action : NSString)
    (target : Option Target) (argument : Argument) : Option Value × Shared :=
  match target with
  | none => (none, shared)
  | some target =>
      match methodFor runtime target.className action with
      | none => (none, shared)
      | some method => (method.value argument,
          { shared with
            invocations := shared.invocations ++ [⟨call, target, action, argument⟩] })

/-- Make an instance of `Target_NoTargetAction` and tell it which target and which action were
missing. -/
def noTargetActionResponse (runtime : Runtime) (call : Call) (shared : Shared) : Shared :=
  let made := shared.alloc runtime noTargetAction
  (safePerformAction runtime call made.2 actionResponse made.1
    (.noTarget call.params call.targetClassString call.actionString)).2

/-! ## Calls -/

/-- Where a call is: what its next section does. -/
inductive Phase where
  | fetch
  | generate (cached : Option Target)
  | store (target : Target)
  | perform (target : Target)
  | remove
  | returned (result : Option Value)
  | finished (result : Option Value)
  deriving DecidableEq

/-- A call that has been made. -/
structure Running where
  call : Call
  phase : Phase
  deriving DecidableEq

/-- `performTarget:action:params:shouldCacheTarget:` after its first check, one section at a time.
The last section is what `performActionWithUrl:completion:` does with the result. -/
def performTarget (runtime : Runtime) (call : Call) (shared : Shared) : Phase → Shared × Phase
  | .fetch => (shared, .generate (shared.safeFetchCachedTarget call.targetClassString))
  | .generate (some target) => (shared, .store target)
  | .generate none =>
      match shared.alloc runtime call.targetClassString with
      | (none, after) => (noTargetActionResponse runtime call after, .returned none)
      | (some target, after) => (after, .store target)
  | .store target =>
      -- an instance that another call has kept in the meantime is replaced
      (if call.shouldCacheTarget then shared.safeSetCachedTarget target call.targetClassString
        else shared, .perform target)
  | .perform target =>
      if respondsToSelector runtime target call.actionString then
        let after := safePerformAction runtime call shared call.actionString target
          (.params call.params)
        (after.2, .returned after.1)
      else if respondsToSelector runtime target notFound then
        let after := safePerformAction runtime call shared notFound target (.params call.params)
        (after.2, .returned after.1)
      else (noTargetActionResponse runtime call shared, .remove)
  -- the kept instance goes even if it is not the one that this call has used
  | .remove => (shared.removeCachedTarget call.targetClassString, .returned none)
  | .returned result =>
      (if call.completion then { shared with completions := shared.completions ++ [result] }
        else shared, .finished result)
  | .finished result => (shared, .finished result)

/-- One turn of a thread that performs a call. -/
def Running.turn (runtime : Runtime) (shared : Shared) (running : Running) : Shared × Running :=
  let after := performTarget runtime running.call shared running.phase
  (after.1, { running with phase := after.2 })

/-! ## The system -/

/-- What happens to the mediator. -/
inductive Event where
  | performActionWithUrl (url : Option NSURL) (completion : Bool)
  | performTarget (targetName actionName : Option NSString) (params : Params)
      (shouldCacheTarget : Bool)
  | releaseCachedTarget (fullTargetName : Option NSString)
  | turn (position : Nat)
  deriving DecidableEq

/-- The mediator and all calls that have been made. -/
abbrev System := Pool Shared Running

/-- The parameters in a URL. -/
def NSURL.params (url : NSURL) : Params :=
  url.queryItems.foldl (fun params item =>
    match item.2 with
    | some value => params.setObject value item.1
    | none => params) []

/-- The path of a URL without slashes. -/
def NSURL.actionName (url : NSURL) : Option NSString :=
  url.path.map (fun path => path.filter (fun character => decide (character ≠ '/')))

/-- `hasPrefix:` for the actions that are not called from outside; `nil` has no beginning. -/
def isNative (actionName : Option NSString) : Bool :=
  match actionName with
  | some name => nativeStart.isPrefixOf name
  | none => false

/-- The check at the start of `performTarget:action:params:shouldCacheTarget:`. Without a target or
an action the result is `nil` at once, which a completion block is given. -/
def System.start (system : System) (targetName actionName : Option NSString) (params : Params)
    (shouldCacheTarget remote completion : Bool) : System :=
  match targetName, actionName with
  | some targetName, some actionName =>
      system.spawn
        ⟨⟨targetName, actionName, params, shouldCacheTarget, remote, completion⟩, .fetch⟩
  | _, _ =>
      if completion then
        { system with
          shared := { system.shared with completions := system.shared.completions ++ [none] } }
      else system

/-- A call through a URL. Actions whose name starts with `native` are for calls from within the
application, so that a URL cannot perform them. -/
def System.performActionWithUrl (system : System) (url : Option NSURL) (completion : Bool) :
    System :=
  match url with
  | none => system
  | some url =>
      -- `@(NO)` is returned, and the completion block is not called
      if isNative url.actionName then system
      else system.start url.host url.actionName url.params false true completion

/-- Release the target that is cached under its full name, if a name is given. -/
def System.releaseCachedTarget (system : System) (fullTargetName : Option NSString) : System :=
  match fullTargetName with
  | none => system
  | some name => { system with shared := system.shared.removeCachedTarget name }

/-- An event changes the system. -/
def step (runtime : Runtime) (system : System) : Event → System
  | .performActionWithUrl url completion => system.performActionWithUrl url completion
  | .performTarget targetName actionName params shouldCacheTarget =>
      system.start targetName actionName params shouldCacheTarget false false
  | .releaseCachedTarget fullTargetName => system.releaseCachedTarget fullTargetName
  | .turn position => system.advance (Running.turn runtime) position

/-- The mediator before any call. -/
def System.initial : System :=
  { shared := { cachedTarget := fun _ => none, instances := 0, invocations := [],
                completions := [] },
    threads := [] }

end Component.Mediator
