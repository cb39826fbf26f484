import ExhaustionGuard.Proofs.Jvm.PoolListing

/-! # Machines whose beans answer

A machine may know how much memory it uses and tell it through its management
beans: no look-up fails, no call raises an exception, and nothing is null but the
usage of a pool that has become invalid. What such a machine is asked leaves the
references alone that were there before, so an object stays at hand as long as
its reference does.
-/

namespace ExhaustionGuard.Jvm

/-- What a machine knows about its memory. -/
structure Telemetry where
  heap : MemoryUsage
  nonHeap : MemoryUsage
  /-- The size that the list of pools says it has. -/
  count : Int
  poolName : Nat → Text.Bytes
  /-- The usage of the pool at an index, unless the pool has become invalid. -/
  poolUsage? : Nat → Option MemoryUsage

namespace Telemetry

/-- The pool at an index, unless it has become invalid. -/
def pool? (known : Telemetry) (index : Nat) : Option PoolUsage :=
  (known.poolUsage? index).map fun usage => ⟨Text.decodeCString (known.poolName index), usage⟩

/-- The pools at all indices up to the size of the list; there are none if it is not positive. -/
def pools (known : Telemetry) : List PoolUsage :=
  (List.range known.count.toNat).filterMap known.pool?

end Telemetry

/-- What an object of a machine stands for. -/
inductive Thing where
  | cls (name : String)
  | memoryBean
  | usage (usage : MemoryUsage)
  | poolList
  | pool (index : Nat)
  | text (bytes : Text.Bytes)

/-- A method by its class, its name and its signature. -/
structure MethodKind where
  cls : String
  name : String
  signature : String
  deriving DecidableEq

namespace Beans

/-- The classes that are looked up for memory usage. -/
def classNames : List String := [factoryName, memoryBeanName, poolBeanName, usageName, listName]

def getMemoryBean : MethodKind :=
  ⟨factoryName, "getMemoryMXBean", "()Ljava/lang/management/MemoryMXBean;"⟩

def getPoolBeans : MethodKind := ⟨factoryName, "getMemoryPoolMXBeans", "()Ljava/util/List;"⟩

def getHeapUsage : MethodKind := ⟨memoryBeanName, "getHeapMemoryUsage", usageSignature⟩

def getNonHeapUsage : MethodKind := ⟨memoryBeanName, "getNonHeapMemoryUsage", usageSignature⟩

def getPoolName : MethodKind := ⟨poolBeanName, "getName", "()Ljava/lang/String;"⟩

def getPoolUsage : MethodKind := ⟨poolBeanName, "getUsage", usageSignature⟩

def sizeOfList : MethodKind := ⟨listName, "size", "()I"⟩

def getOfList : MethodKind := ⟨listName, "get", "(I)Ljava/lang/Object;"⟩

/-- The getter of one number of a memory usage. -/
def usageGetter (name : String) : MethodKind := ⟨usageName, name, "()J"⟩

/-- The names of the getters of a memory usage, each with its number. -/
def usageNumbers (usage : MemoryUsage) : List (String × Int) :=
  [("getInit", usage.initial), ("getUsed", usage.used), ("getCommitted", usage.committed),
    ("getMax", usage.maximum)]

def staticMethods : List MethodKind := [getMemoryBean, getPoolBeans]

def methods : List MethodKind :=
  [getHeapUsage, getNonHeapUsage, getPoolName, getPoolUsage, sizeOfList, getOfList,
    usageGetter "getInit", usageGetter "getUsed", usageGetter "getCommitted", usageGetter "getMax"]

end Beans

variable {J : Machine} {α β : Type}

/-- On steady states a call is answered well, and the machine is steady again. -/
def Machine.Gives (J : Machine) (steady : J.State → Prop) {shape : Shape}
    (call : Call J.Object J.Method shape) (good : Result J.Object J.Method shape → Prop) : Prop :=
  ∀ state, steady state → good (J.answer call state).1.value ∧
    (J.answer call state).1.raises = false ∧ steady (J.answer call state).2

/-- An object came back, and this is what it stands for. -/
def Found {Object : Type} (is : Object → Thing → Prop) (thing : Thing) (value : Option Object) :
    Prop :=
  ∃ object, value = some object ∧ is object thing

/-- The management beans of a machine tell what it knows: no look-up and no call fails, and nothing
is null but the usage of a pool that has become invalid. -/
structure Machine.Manages (J : Machine) (known : Telemetry) (is : J.Object → Thing → Prop)
    (stands : J.Method → MethodKind → Prop) (steady : J.State → Prop) : Prop where
  findClass : ∀ {name}, name ∈ Beans.classNames →
    J.Gives steady (.findClass name) (Found is (.cls name))
  methodId : ∀ {kind cls}, kind ∈ Beans.methods → is cls (.cls kind.cls) →
    J.Gives steady (.methodId (.live cls) kind.name kind.signature)
      fun value => ∃ method, value = some method ∧ stands method kind
  staticMethodId : ∀ {kind cls}, kind ∈ Beans.staticMethods → is cls (.cls kind.cls) →
    J.Gives steady (.staticMethodId (.live cls) kind.name kind.signature)
      fun value => ∃ method, value = some method ∧ stands method kind
  memoryBean : ∀ {factory get}, is factory (.cls Beans.factoryName) →
    stands get Beans.getMemoryBean →
    J.Gives steady (.callStaticObject (.live factory) get []) (Found is .memoryBean)
  poolList : ∀ {factory get}, is factory (.cls Beans.factoryName) →
    stands get Beans.getPoolBeans →
    J.Gives steady (.callStaticObject (.live factory) get []) (Found is .poolList)
  heapUsage : ∀ {bean get}, is bean .memoryBean → stands get Beans.getHeapUsage →
    J.Gives steady (.callObject (.live bean) get []) (Found is (.usage known.heap))
  nonHeapUsage : ∀ {bean get}, is bean .memoryBean → stands get Beans.getNonHeapUsage →
    J.Gives steady (.callObject (.live bean) get []) (Found is (.usage known.nonHeap))
  number : ∀ {object usage get name number}, is object (.usage usage) →
    (name, number) ∈ Beans.usageNumbers usage → stands get (Beans.usageGetter name) →
    J.Gives steady (.callLong (.live object) get) fun value => value = number
  size : ∀ {list size}, is list .poolList → stands size Beans.sizeOfList →
    J.Gives steady (.callInt (.live list) size) fun value => value = known.count
  get : ∀ {list get index}, is list .poolList → stands get Beans.getOfList →
    index < known.count.toNat →
    J.Gives steady (.callObject (.live list) get [.int index]) (Found is (.pool index))
  poolName : ∀ {pool get index}, is pool (.pool index) → stands get Beans.getPoolName →
    J.Gives steady (.callObject (.live pool) get []) (Found is (.text (known.poolName index)))
  poolUsage : ∀ {pool get index}, is pool (.pool index) → stands get Beans.getPoolUsage →
    J.Gives steady (.callObject (.live pool) get []) fun value =>
      match known.poolUsage? index with
      | some usage => Found is (.usage usage) value
      | none => value = none
  chars : ∀ {string bytes}, is string (.text bytes) →
    J.Gives steady (.stringChars (.live string)) fun value => value = some bytes

/-! ## References that stay -/

/-- The object of a reference stands for a thing. -/
def Session.Denotes (session : Session J) (is : J.Object → Thing → Prop) (ref : Ref)
    (thing : Thing) : Prop :=
  ∃ object, session.handle (some ref) = .live object ∧ is object thing

theorem Session.handle_mono {before after : Session J} (hrefs : before.refs <+: after.refs)
    {ref : Ref} {object : J.Object} (hlive : before.handle (some ref) = .live object) :
    after.handle (some ref) = .live object := by
  rw [Session.handle] at hlive ⊢
  cases hentry : before.refs[ref]? with
  | none =>
      rw [hentry] at hlive
      cases hlive
  | some entry =>
      obtain ⟨later, hlater⟩ := hrefs
      have hkept : after.refs[ref]? = some entry := by
        rw [← hlater, List.getElem?_append_left (List.getElem?_eq_some_iff.mp hentry).1, hentry]
      rw [hentry] at hlive
      rw [hkept]
      exact hlive

theorem Session.Denotes.mono {before after : Session J} {is : J.Object → Thing → Prop}
    {ref : Ref} {thing : Thing} (hdenotes : before.Denotes is ref thing)
    (hrefs : before.refs <+: after.refs) : after.Denotes is ref thing := by
  obtain ⟨object, hlive, his⟩ := hdenotes
  exact ⟨object, handle_mono hrefs hlive, his⟩

/-- To delete another reference does no harm. -/
theorem Session.Denotes.deleteRef {session : Session J} {is : J.Object → Thing → Prop}
    {ref other : Ref} {thing : Thing} (hdenotes : session.Denotes is ref thing)
    (hother : other ≠ ref) : (session.deleteRef other).Denotes is ref thing := by
  obtain ⟨object, hlive, his⟩ := hdenotes
  refine ⟨object, ?_, his⟩
  have hkept : (session.deleteRef other).refs[ref]? = session.refs[ref]? := by
    change (session.refs.modify other _)[ref]? = _
    rw [List.getElem?_modify]
    simp [hother]
  rw [Session.handle] at hlive ⊢
  rw [hkept]
  exact hlive

theorem Session.Denotes.lt {session : Session J} {is : J.Object → Thing → Prop} {ref : Ref}
    {thing : Thing} (hdenotes : session.Denotes is ref thing) : ref < session.refs.length := by
  obtain ⟨object, hlive, _⟩ := hdenotes
  by_contra hbeyond
  rw [Session.handle, List.getElem?_eq_none (Nat.le_of_not_lt hbeyond)] at hlive
  cases hlive

/-- Earlier references are what they were when a later one is deleted. -/
theorem Session.prefix_deleteRef {kept : List (RefEntry J.Object)} {session : Session J}
    (hkept : kept <+: session.refs) {ref : Ref} (hlater : kept.length ≤ ref) :
    kept <+: (session.deleteRef ref).refs := by
  change _ <+: session.refs.modify ref _
  rw [List.prefix_iff_getElem?] at hkept ⊢
  intro index hindex
  have hother : ref ≠ index := (Nat.lt_of_lt_of_le hindex hlater).ne'
  rw [List.getElem?_modify, hkept index hindex]
  simp [hother]

/-! ## Operations that yield something -/

/-- Arguments that were passed to a method of an object. -/
structure Passed (Object Method : Type) where
  receiver : Handle Object
  method : Method
  arguments : List (Argument Object)

/-- What a call passes to a method of an object; nothing if the method takes nothing. -/
def Call.passed {Object Method : Type} {shape : Shape} :
    Call Object Method shape → List (Passed Object Method)
  | .callObject receiver method (first :: rest) => [⟨receiver, method, first :: rest⟩]
  | _ => []

def SessionEvent.passed {Object Method : Type} :
    SessionEvent Object Method → List (Passed Object Method)
  | .called _ call _ => call.passed
  | _ => []

/-- The machine is steady, and no exception is pending. -/
structure IsReady (steady : J.State → Prop) (session : Session J) : Prop where
  steady : steady session.state
  pending : session.pending = false

/-- An operation ends well, and the session is ready again behind it. The references from before are what they
were, and all is good about the value, the session and what was passed. -/
def Yields (steady : J.State → Prop) (before : Session J)
    (result : Except HostFault α × Session J)
    (good : α → Session J → List (Passed J.Object J.Method) → Prop) : Prop :=
  ∃ value after made, result = (.ok value, after) ∧ IsReady steady after ∧
    before.refs <+: after.refs ∧ after.trace = before.trace ++ made ∧
    good value after (made.flatMap SessionEvent.passed)

namespace Yields

variable {steady : J.State → Prop} {before : Session J}
  {good : α → Session J → List (Passed J.Object J.Method) → Prop}
  {best : β → Session J → List (Passed J.Object J.Method) → Prop}

theorem of_ok {value : α} (hready : IsReady steady before) (hgood : good value before []) :
    Yields steady before (.ok value, before) good :=
  ⟨value, before, [], rfl, hready, List.prefix_rfl, (List.append_nil _).symm, hgood⟩

theorem mono {result : Except HostFault α × Session J}
    {better : α → Session J → List (Passed J.Object J.Method) → Prop}
    (hyields : Yields steady before result good)
    (hbetter : ∀ value after passed, good value after passed → better value after passed) :
    Yields steady before result better := by
  obtain ⟨value, after, made, hresult, hready, hrefs, htrace, hgood⟩ := hyields
  exact ⟨value, after, made, hresult, hready, hrefs, htrace, hbetter _ _ _ hgood⟩

theorem bind {first : Beans.BeanM J α} {next : α → Beans.BeanM J β}
    (hfirst : Yields steady before (first.finish before) good)
    (hnext : ∀ value after passed, good value after passed → IsReady steady after →
      before.refs <+: after.refs → Yields steady after ((next value).finish after)
        fun result last more => best result last (passed ++ more)) :
    Yields steady before ((first >>= next).finish before) best := by
  obtain ⟨value, between, made, hresult, hready, hrefs, htrace, hgood⟩ := hfirst
  obtain ⟨result, after, later, hlater, hafter, hkept, hmore, hbest⟩ :=
    hnext value between _ hgood hready hrefs
  refine ⟨result, after, made ++ later, ?_, hafter, hrefs.trans hkept, ?_, ?_⟩
  · rw [HostM.finish_bind, hresult]
    exact hlater
  · rw [hmore, htrace, List.append_assoc]
  · rw [List.flatMap_append]
    exact hbest

/-- What follows is the use of a new reference, which is deleted behind its use. -/
theorem bindUse {γ : Type} {is : J.Object → Thing → Prop} {thing : Thing}
    {passed : List (Passed J.Object J.Method)} {first : Beans.BeanM J γ}
    {next : γ → Beans.BeanM J β} {use : Ref → Beans.BeanM J β}
    (hfirst : Yields steady before (first.finish before) fun value after made =>
      ∃ ref, next value = Beans.withRef ref (use ref) ∧ before.refs.length ≤ ref ∧
        after.Denotes is ref thing ∧ made = passed)
    (huse : ∀ ref after, after.Denotes is ref thing → IsReady steady after →
      before.refs <+: after.refs → Yields steady after ((use ref).finish after)
        fun value last more => best value (last.deleteRef ref) (passed ++ more)) :
    Yields steady before ((first >>= next).finish before) best := by
  obtain ⟨value, between, made, hresult, hready, hrefs, htrace, ref, hnext, hnew, hdenotes,
    hpassed⟩ := hfirst
  obtain ⟨result, last, later, hlater, hafter, hkept, hmore, hbest⟩ :=
    huse ref between hdenotes hready hrefs
  refine ⟨result, last.deleteRef ref, made ++ (later ++ [.deleted ref]), ?_,
    ⟨hafter.steady, hafter.pending⟩, Session.prefix_deleteRef (hrefs.trans hkept) hnew, ?_, ?_⟩
  · rw [HostM.finish_bind, hresult]
    dsimp only
    rw [hnext]
    change (((use ref).finish between).1, ((use ref).finish between).2.deleteRef ref) = _
    rw [hlater]
  · rw [← List.append_assoc, ← List.append_assoc, ← htrace, ← hmore]
    rfl
  · rw [List.flatMap_append, List.flatMap_append, hpassed]
    simpa [SessionEvent.passed] using hbest

/-- A new reference is used, and deleted behind its use. -/
theorem bindRef {is : J.Object → Thing → Prop} {thing : Thing}
    {passed : List (Passed J.Object J.Method)} {first : Beans.BeanM J Ref}
    {use : Ref → Beans.BeanM J β}
    (hfirst : Yields steady before (first.finish before) fun ref after made =>
      before.refs.length ≤ ref ∧ after.Denotes is ref thing ∧ made = passed)
    (huse : ∀ ref after, after.Denotes is ref thing → IsReady steady after →
      before.refs <+: after.refs → Yields steady after ((use ref).finish after)
        fun value last more => best value (last.deleteRef ref) (passed ++ more)) :
    Yields steady before ((first >>= fun ref => Beans.withRef ref (use ref)).finish before) best := by
  obtain ⟨ref, after, made, hresult, hready, hrefs, htrace, hgood⟩ := hfirst
  exact bindUse ⟨ref, after, made, hresult, hready, hrefs, htrace, ref, rfl, hgood⟩ huse

end Yields

/-! ## Single calls -/

section Calls

variable {steady : J.State → Prop} {is : J.Object → Thing → Prop} {session : Session J}

theorem IsReady.call {shape : Shape} {call : Session J → Call J.Object J.Method shape}
    {good : Result J.Object J.Method shape → Prop} (hready : IsReady steady session)
    (hgives : J.Gives steady (call session) good) :
    IsReady steady (SessionM.call call session).2 := by
  obtain ⟨-, hraises, hsteady⟩ := hgives session.state hready.steady
  refine ⟨hsteady, ?_⟩
  change (session.pending || _) = false
  rw [hready.pending, hraises]
  rfl

theorem yields_call {shape : Shape} {call : Session J → Call J.Object J.Method shape}
    {good : Result J.Object J.Method shape → Prop} (hgives : J.Gives steady (call session) good)
    (hready : IsReady steady session) :
    Yields steady session ((Beans.inSession (SessionM.call call)).finish session)
      fun value _ passed => good value ∧ passed = (call session).passed :=
  ⟨_, _, [.called shape (call session) session.pending], rfl, hready.call hgives, List.prefix_rfl,
    rfl, (hgives session.state hready.steady).1, List.append_nil _⟩

/-- An object comes as a new reference. -/
theorem yields_obtain (object : Session J → Call J.Object J.Method .object) {thing : Thing}
    (hgives : J.Gives steady (object session) (Found is thing))
    (hready : IsReady steady session) :
    Yields steady session ((Beans.inSession (SessionM.obtain object)).finish session)
      fun value after passed => ∃ ref, value = some ref ∧ session.refs.length ≤ ref ∧
        after.Denotes is ref thing ∧ passed = (object session).passed := by
  obtain ⟨found, hvalue, his⟩ := (hgives session.state hready.steady).1
  have hafter := hready.call hgives
  have hrun := run_obtain object session
  rw [hvalue] at hrun
  refine ⟨some session.refs.length, (SessionM.call object session).2.addRef found,
    [.called .object (object session) session.pending, .obtained session.refs.length],
    congrArg (fun run => (Except.ok run.1, run.2)) hrun, ⟨hafter.steady, hafter.pending⟩,
    List.prefix_append _ _, List.append_assoc _ _ _, session.refs.length, rfl, le_rfl,
    ⟨found, Session.handle_addRef _ found, his⟩, List.append_nil _⟩

/-- Null comes back as no reference. -/
theorem yields_obtain_null (object : Session J → Call J.Object J.Method .object)
    (hgives : J.Gives steady (object session) fun value => value = none)
    (hready : IsReady steady session) :
    Yields steady session ((Beans.inSession (SessionM.obtain object)).finish session)
      fun value _ passed => value = none ∧ passed = (object session).passed := by
  have hrun := run_obtain object session
  rw [(hgives session.state hready.steady).1] at hrun
  exact ⟨none, (SessionM.call object session).2,
    [.called .object (object session) session.pending],
    congrArg (fun run => (Except.ok run.1, run.2)) hrun, hready.call hgives, List.prefix_rfl, rfl,
    rfl, List.append_nil _⟩

theorem yields_check (what : String) (hready : IsReady steady session) :
    Yields steady session ((Beans.check what).finish session) fun _ _ passed => passed = [] := by
  rw [finish_check, hready.pending]
  exact .of_ok hready rfl

/-- The characters of a string are read and released. -/
theorem yields_readString {string : Ref} {bytes : Text.Bytes}
    (hgives : J.Gives steady (charsCall string session) fun value => value = some bytes)
    (hready : IsReady steady session) :
    Yields steady session
      ((Beans.inSession (SessionM.readString (some string))).finish session)
      fun value _ passed => value = some (Text.decodeCString bytes) ∧ passed = [] := by
  have hread : (SessionM.call (charsCall string) session).1 = some bytes :=
    (hgives session.state hready.steady).1
  have hafter := hready.call hgives
  have hrun := run_readString string session
  rw [hread] at hrun
  have hpassage := passage_afterReading (SessionM.call (charsCall string) session).2
  exact ⟨_, (SessionM.call (charsCall string) session).2.afterReading,
    .called .chars (charsCall string session) session.pending ::
      [.charsHeld session.chars.length, .charsReleased session.chars.length],
    congrArg (fun run => (Except.ok run.1, run.2)) hrun, ⟨hafter.steady, hafter.pending⟩,
    List.prefix_rfl, hpassage.trace.trans (List.append_assoc _ _ _), rfl, rfl⟩

end Calls

end ExhaustionGuard.Jvm
