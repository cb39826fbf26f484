import ExhaustionGuard.Jvm.Session

/-!
# Management beans

Memory usage, memory pools and heap dumps through the management beans of a Java machine. Every
local reference is deleted when the computation that uses it is over, however it ends. A look-up
or call that leaves an exception pending is an error, and the exception is taken off first, so
that the next call is allowed again.
-/

namespace ExhaustionGuard.Jvm.Beans

variable {J : Machine}

/-- A computation on beans: an operation of the host whose state is a session. -/
abbrev BeanM (J : Machine) (α : Type) := HostM (Session J) α

/-- A step of a session as part of a computation on beans. -/
def inSession {α : Type} (step : SessionM J α) : BeanM J α :=
  ExceptT.lift step

/-- Ends with a fault of the machine. -/
def fault {α : Type} (reason : JavaFault) : BeanM J α :=
  HostM.fail (.java reason)

/-- Uses a reference and deletes it afterwards, however the use ends. -/
def withRef {α : Type} (ref : Ref) (use : BeanM J α) : BeanM J α :=
  ExceptT.mk do
    let result ← use.run
    SessionM.deleteRef (some ref)
    pure result

/-- Fails if an exception is pending. -/
def check (what : String) : BeanM J Unit := do
  if ← inSession SessionM.takeException then fault (.threw what) else pure ()

def classNamed (name : String) : BeanM J Ref := do
  match ← inSession (SessionM.findClass name) with
  | some cls => pure cls
  | none =>
      discard (inSession SessionM.takeException)
      fault (.classNotFound name)

/-- A method of a class. -/
def method (cls : Ref) (name signature : String) : BeanM J J.Method := do
  match ← inSession (SessionM.methodId (some cls) name signature) with
  | some method => pure method
  | none =>
      discard (inSession SessionM.takeException)
      fault (.methodNotFound name signature)

def staticMethod (cls : Ref) (name signature : String) : BeanM J J.Method := do
  match ← inSession (SessionM.staticMethodId (some cls) name signature) with
  | some method => pure method
  | none =>
      discard (inSession SessionM.takeException)
      fault (.staticMethodNotFound name signature)

/-- An object that a call has to return: neither an exception nor null will do. -/
def returned (object : Option Ref) (what : String) : BeanM J Ref := do
  if ← inSession SessionM.takeException then
    inSession (SessionM.deleteRef object)
    fault (.threw what)
  else
    match object with
    | some ref => pure ref
    | none => fault (.returnedNull what)

def callObject (receiver : Ref) (method : J.Method) (arguments : List (Argument J.Object)) :
    BeanM J (Option Ref) :=
  inSession (SessionM.obtain fun session =>
    .callObject (session.handle (some receiver)) method arguments)

/-- The name of the class that hands out beans. -/
def factoryName : String := "java/lang/management/ManagementFactory"

def memoryBeanName : String := "java/lang/management/MemoryMXBean"

def poolBeanName : String := "java/lang/management/MemoryPoolMXBean"

def usageName : String := "java/lang/management/MemoryUsage"

/-- The name of the class of the bean that dumps the heap. -/
def diagnosticBeanName : String := "com/sun/management/HotSpotDiagnosticMXBean"

def listName : String := "java/util/List"

/-- The signature of methods that return a memory usage. -/
def usageSignature : String := "()Ljava/lang/management/MemoryUsage;"

/-- Calls a static method of the factory of beans that takes nothing. -/
def beanOf (factory : Ref) (getter signature : String) : BeanM J Ref := do
  let get ← staticMethod factory getter signature
  let bean ← inSession (SessionM.obtain fun session =>
    .callStaticObject (session.handle (some factory)) get [])
  returned bean ("ManagementFactory." ++ getter)

def memoryBean : BeanM J Ref := do
  let factory ← classNamed factoryName
  withRef factory (beanOf factory "getMemoryMXBean" "()Ljava/lang/management/MemoryMXBean;")

def usageNumber (cls usage : Ref) (getter : String) : BeanM J Int := do
  let get ← method cls getter "()J"
  let value ← inSession (SessionM.call fun session =>
    .callLong (session.handle (some usage)) get)
  check getter
  pure value

/-- The four numbers of a memory usage. -/
def readUsage (usage : Ref) : BeanM J MemoryUsage := do
  let cls ← classNamed usageName
  withRef cls do
    let initial ← usageNumber cls usage "getInit"
    let used ← usageNumber cls usage "getUsed"
    let committed ← usageNumber cls usage "getCommitted"
    let maximum ← usageNumber cls usage "getMax"
    pure ⟨initial, used, committed, maximum⟩

def beanUsage (getter : String) : BeanM J MemoryUsage := do
  let bean ← memoryBean
  withRef bean do
    let cls ← classNamed memoryBeanName
    withRef cls do
      let get ← method cls getter usageSignature
      let usage ← callObject bean get []
      let usage ← returned usage getter
      withRef usage (readUsage usage)

def heapUsage : BeanM J MemoryUsage := beanUsage "getHeapMemoryUsage"

def nonHeapUsage : BeanM J MemoryUsage := beanUsage "getNonHeapMemoryUsage"

/-- The usage of a pool, unless the pool has become invalid; `usage` is what the pool returned. -/
def validUsage (name : String) (usage : Option Ref) : BeanM J (Option PoolUsage) := do
  match usage with
  | none => do
      check "MemoryPoolMXBean.getUsage"
      pure none
  | some ref =>
      withRef ref do
        check "MemoryPoolMXBean.getUsage"
        let usage ← readUsage ref
        pure (some ⟨name, usage⟩)

/-- The name and usage of a pool, unless the pool has become invalid. -/
def poolUsage (pool : Ref) : BeanM J (Option PoolUsage) := do
  let cls ← classNamed poolBeanName
  withRef cls do
    let getName ← method cls "getName" "()Ljava/lang/String;"
    let name ← callObject pool getName []
    let name ← returned name "MemoryPoolMXBean.getName"
    withRef name do
      match ← inSession (SessionM.readString (some name)) with
      | none => fault .unreadablePoolName
      | some text =>
          let getUsage ← method cls "getUsage" usageSignature
          let usage ← callObject pool getUsage []
          validUsage text usage

/-- The usages of so many pools of a list, from an index on. -/
def poolsFrom (list : Ref) (get : J.Method) : Nat → Nat → BeanM J (List PoolUsage)
  | 0, _ => pure []
  | remaining + 1, index => do
      let pool ← callObject list get [.int index]
      let pool ← returned pool "List.get"
      let usage ← withRef pool (poolUsage pool)
      let later ← poolsFrom list get remaining (index + 1)
      pure (usage.toList ++ later)

def pools : BeanM J (List PoolUsage) := do
  let factory ← classNamed factoryName
  withRef factory do
    let list ← beanOf factory "getMemoryPoolMXBeans" "()Ljava/util/List;"
    withRef list do
      let cls ← classNamed listName
      withRef cls do
        let size ← method cls "size" "()I"
        let get ← method cls "get" "(I)Ljava/lang/Object;"
        let count ← inSession (SessionM.call fun session =>
          .callInt (session.handle (some list)) size)
        check "List.size"
        poolsFrom list get count.toNat 0

/-- Asks a bean to dump the heap to the file that a Java string names. -/
def dumpTo (bean : Ref) (dump : J.Method) (file : Ref) : BeanM J Unit := do
  inSession (SessionM.call fun session =>
    .callVoid (session.handle (some bean)) dump
      [.object (session.handle (some file)), .boolean true])
  check "HotSpotDiagnosticMXBean.dumpHeap"

def dumpWith (cls bean : Ref) (path : String) : BeanM J Unit := do
  let dump ← method cls "dumpHeap" "(Ljava/lang/String;Z)V"
  match ← inSession (SessionM.newString path) with
  | none =>
      discard (inSession SessionM.takeException)
      fault .noPathString
  | some file => withRef file (dumpTo bean dump file)

/-- Dumps the heap to a path, live objects only. A path that is not well-formed is refused. -/
def dumpHeap (path : Text.Bytes) : BeanM J Unit := do
  if !Text.isWellFormed path then
    HostM.fail (.unavailable (Text.decodeLossy path ++ " is not valid UTF-8"))
  else
    let factory ← classNamed factoryName
    withRef factory do
      let get ← staticMethod factory "getPlatformMXBean"
        "(Ljava/lang/Class;)Ljava/lang/management/PlatformManagedObject;"
      let cls ← classNamed diagnosticBeanName
      withRef cls do
        let bean ← inSession (SessionM.obtain fun session =>
          .callStaticObject (session.handle (some factory)) get
            [.object (session.handle (some cls))])
        let bean ← returned bean "ManagementFactory.getPlatformMXBean"
        withRef bean (dumpWith cls bean (Text.decodeLossy path))

/-- What the beans know about memory. -/
def memory : MemoryHost (Session J) := ⟨heapUsage, nonHeapUsage, pools⟩

end ExhaustionGuard.Jvm.Beans
