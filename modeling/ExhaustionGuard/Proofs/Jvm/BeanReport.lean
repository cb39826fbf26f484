import ExhaustionGuard.Jvm.Host
import ExhaustionGuard.Jvm.Scripted
import ExhaustionGuard.Proofs.Action.OtherHosts
import ExhaustionGuard.Proofs.Jvm.Faithfulness

/-! # The beans tell what the machine knows

If the beans of a machine answer, then every question about its memory comes out
as it is known, and the report over the machine is the one over a host in memory
that was given the same numbers. Scripted machines that nothing disturbs are
machines of this kind.
-/

namespace ExhaustionGuard

variable {κ : Type}

namespace InMemory

/-- A host that was told how much memory is used. -/
def holding (known : Jvm.Telemetry) : InMemory :=
  { empty with heapUsage := known.heap, nonHeapUsage := known.nonHeap, pools := known.pools }

theorem answers_holding (known : Jvm.Telemetry) :
    ∃ after, memory.Answers (holding known) (.ok known.heap) (.ok known.nonHeap)
      (.ok known.pools) after :=
  ⟨_, _, _, rfl, rfl, rfl⟩

end InMemory

namespace Jvm

variable {J : Machine} {known : Telemetry} {is : J.Object → Thing → Prop}
  {stands : J.Method → MethodKind → Prop} {steady : J.State → Prop} {session : Session J}

namespace Beans

theorem yields_heapUsage (manages : J.Manages known is stands steady)
    (hready : IsReady steady session) :
    Yields steady session ((heapUsage : BeanM J MemoryUsage).finish session)
      fun value _ passed => value = known.heap ∧ passed = [] :=
  yields_beanUsage manages getHeapUsage (by decide) rfl rfl manages.heapUsage hready

theorem yields_nonHeapUsage (manages : J.Manages known is stands steady)
    (hready : IsReady steady session) :
    Yields steady session ((nonHeapUsage : BeanM J MemoryUsage).finish session)
      fun value _ passed => value = known.nonHeap ∧ passed = [] :=
  yields_beanUsage manages getNonHeapUsage (by decide) rfl rfl manages.nonHeapUsage hready

/-- The questions may be asked one after another. -/
theorem answers_memory (manages : J.Manages known is stands steady)
    (hready : IsReady steady session) :
    ∃ after, memory.Answers session (.ok known.heap) (.ok known.nonHeap) (.ok known.pools)
      after := by
  obtain ⟨_, first, _, hheap, hready, -, -, rfl, -⟩ := yields_heapUsage manages hready
  obtain ⟨_, second, _, hnonHeap, hready, -, -, rfl, -⟩ := yields_nonHeapUsage manages hready
  obtain ⟨_, after, _, hpools, -, -, -, rfl, -⟩ := yields_pools manages hready
  exact ⟨after, first, second, hheap, hnonHeap, hpools⟩

/-- What the beans tell in a session with a machine that knows this. -/
structure Tell (known : Telemetry) (is : J.Object → Thing → Prop)
    (stands : J.Method → MethodKind → Prop) (session : Session J) : Prop where
  heap : (heapUsage.finish session).1 = .ok known.heap
  nonHeap : (nonHeapUsage.finish session).1 = .ok known.nonHeap
  /-- The list is asked for the pool at each index once, in order; nothing else is passed to any
  object. -/
  pools : ∃ after made list get, Beans.pools.finish session = (.ok known.pools, after) ∧
    after.trace = session.trace ++ made ∧ is list .poolList ∧ stands get getOfList ∧
    made.flatMap SessionEvent.passed = (List.range known.count.toNat).map (asksFor list get)
  report : ∀ {κ : Type} (sink : Sink κ) (event : Exhaustion) (output : κ) (system : System),
    SameButHost
      ((Action.act ⟨Jvm.host, sink⟩ .memoryPools event).run ⟨session, output, system⟩)
      ((Action.act ⟨InMemory.host, sink⟩ .memoryPools event).run
        ⟨InMemory.holding known, output, system⟩)

/-- If the beans of a machine answer, they tell what the machine knows. -/
theorem tell_of_manages (manages : J.Manages known is stands steady)
    (hready : IsReady steady session) : Tell known is stands session where
  heap := by
    obtain ⟨_, _, _, hheap, -, -, -, rfl, -⟩ := yields_heapUsage manages hready
    rw [hheap]
  nonHeap := by
    obtain ⟨_, _, _, hnonHeap, -, -, -, rfl, -⟩ := yields_nonHeapUsage manages hready
    rw [hnonHeap]
  pools := by
    obtain ⟨_, after, made, hpools, -, -, htrace, rfl, list, get, hlist, hget, hpassed⟩ :=
      yields_pools manages hready
    exact ⟨after, made, list, get, hpools, htrace, hlist, hget, hpassed⟩
  report sink event output system := by
    obtain ⟨after, hanswers⟩ := answers_memory manages hready
    obtain ⟨after', hanswers'⟩ := InMemory.answers_holding known
    exact Action.memoryPools_same sink hanswers hanswers' event output system

end Beans

/-! ## Scripted machines -/

namespace Scripted

/-- A script that disturbs nothing and lets its machine know all this. -/
structure Knows (script : Script) (known : Telemetry) : Prop where
  rules : script.rules = []
  heap : script.usage? .heap = some known.heap
  nonHeap : script.usage? .nonHeap = some known.nonHeap
  count : script.claimedSize.getD script.pools.length = known.count
  poolName : ∀ index < known.count.toNat,
    (script.pool? index).bind Pool.name = some (known.poolName index)
  poolUsage : ∀ index < known.count.toNat,
    script.usage? (.pool index) = known.poolUsage? index

/-- What an object of a scripted machine stands for. -/
inductive Means (script : Script) (known : Telemetry) : Item → Thing → Prop
  | cls (name : String) : Means script known (.cls name) (.cls name)
  | memoryBean : Means script known .memoryBean .memoryBean
  | usage {area : Area} {usage : MemoryUsage} : script.usage? area = some usage →
      Means script known (.usage area) (.usage usage)
  | poolList : Means script known .poolList .poolList
  | pool {index : Nat} : index < known.count.toNat → Means script known (.pool index) (.pool index)
  | poolName {index : Nat} : index < known.count.toNat →
      Means script known (.poolName index) (.text (known.poolName index))

/-- A script that has heard more calls. -/
def Resumes (script state : Script) : Prop :=
  ∃ heard, state = { script with heard := heard }

theorem undisturbed_heard (script : Script) (heard : List String) {shape : Shape}
    (call : Call Item MethodName shape) :
    undisturbed { script with heard := heard } call = undisturbed script call := by
  cases call <;> rfl

/-- Without rules a call is answered as if nothing had been heard. -/
theorem gives_of_undisturbed {script : Script} (hrules : script.rules = []) {shape : Shape}
    {call : Call Item MethodName shape} {good : Result Item MethodName shape → Prop}
    {value : Result Item MethodName shape} (hreply : undisturbed script call = ⟨value, false⟩)
    (hgood : good value) : machine.Gives (Resumes script) call good := by
  rintro state ⟨heard, rfl⟩
  have hanswer : answer call { script with heard := heard } =
      (⟨value, false⟩, { script with heard := callLabel call :: heard }) := by
    rw [← hreply, ← undisturbed_heard script heard]
    simp only [answer, Script.hear, hrules]
    rfl
  change good (answer call _).1.value ∧ (answer call _).1.raises = false ∧
    Resumes script (answer call _).2
  rw [hanswer]
  exact ⟨hgood, rfl, _, rfl⟩

theorem gives_callObject {script : Script} (hrules : script.rules = []) {receiver : Handle Item}
    {method : MethodName} {arguments : List (Argument Item)} {value : Option Item}
    {good : Option Item → Prop} (hobject : objectOf script receiver method arguments = value)
    (hgood : good value) :
    machine.Gives (Resumes script) (.callObject receiver method arguments) good :=
  gives_of_undisturbed hrules (congrArg (Reply.mk · false) hobject) hgood

theorem gives_usage {script : Script} {known : Telemetry} (hrules : script.rules = [])
    {area : Area} {usage : MemoryUsage} (husage : script.usage? area = some usage)
    {receiver : Handle Item} {method : MethodName}
    (hobject : objectOf script receiver method [] = usageItem script area) :
    machine.Gives (Resumes script) (.callObject receiver method [])
      (Found (Means script known) (.usage usage)) := by
  have hitem : usageItem script area = some (.usage area) := by
    rw [usageItem, husage]
    rfl
  exact gives_callObject hrules (hobject.trans hitem) ⟨_, rfl, .usage husage⟩

/-- Each number of a usage comes from the getter with its name. -/
theorem numberOf_usage {script : Script} {area : Area} {usage : MemoryUsage}
    (husage : script.usage? area = some usage) {name : String} {number : Int}
    (hnumber : (name, number) ∈ Beans.usageNumbers usage) :
    numberOf script (.live (.usage area)) name = number := by
  simp only [Beans.usageNumbers, List.mem_cons, Prod.mk.injEq, List.not_mem_nil, or_false] at hnumber
  rcases hnumber with ⟨rfl, rfl⟩ | ⟨rfl, rfl⟩ | ⟨rfl, rfl⟩ | ⟨rfl, rfl⟩ <;>
    simp only [numberOf, husage]

theorem manages {script : Script} {known : Telemetry} (knows : Knows script known) :
    machine.Manages known (Means script known) (fun method kind => method = kind.name)
      (Resumes script) where
  findClass {name} hname := by
    have hknown : ∀ name ∈ Beans.classNames, knownClasses.contains name = true := by decide
    exact gives_of_undisturbed knows.rules (if_pos (hknown name hname)) ⟨_, rfl, .cls name⟩
  methodId _ _ := gives_of_undisturbed knows.rules rfl ⟨_, rfl, rfl⟩
  staticMethodId _ _ := gives_of_undisturbed knows.rules rfl ⟨_, rfl, rfl⟩
  memoryBean := by
    rintro factory get - rfl
    exact gives_of_undisturbed knows.rules rfl ⟨_, rfl, .memoryBean⟩
  poolList := by
    rintro factory get - rfl
    exact gives_of_undisturbed knows.rules rfl ⟨_, rfl, .poolList⟩
  heapUsage := by
    rintro bean get hbean rfl
    cases hbean
    exact gives_usage knows.rules knows.heap rfl
  nonHeapUsage := by
    rintro bean get hbean rfl
    cases hbean
    exact gives_usage knows.rules knows.nonHeap rfl
  number := by
    rintro object usage get name number hobject hnumber rfl
    cases hobject with
    | usage husage => exact gives_of_undisturbed knows.rules rfl (numberOf_usage husage hnumber)
  size := by
    rintro list size hlist rfl
    cases hlist
    exact gives_of_undisturbed knows.rules rfl knows.count
  get := by
    rintro list get index hlist rfl hindex
    cases hlist
    obtain ⟨pool, hpool, -⟩ := Option.bind_eq_some_iff.mp (knows.poolName index hindex)
    have hitem : poolItem script [.int index] = some (.pool index) := by
      change (script.pool? index).map _ = _
      rw [hpool]
      rfl
    exact gives_callObject knows.rules hitem ⟨_, rfl, .pool hindex⟩
  poolName := by
    rintro pool get index hpool rfl
    cases hpool with
    | pool hindex =>
        have hitem : ((script.pool? index).bind Pool.name).map (fun _ => Item.poolName index) =
            some (.poolName index) := by
          rw [knows.poolName index hindex]
          rfl
        exact gives_callObject knows.rules hitem ⟨_, rfl, .poolName hindex⟩
  poolUsage := by
    rintro pool get index hpool rfl
    cases hpool with
    | pool hindex =>
        have hknown := knows.poolUsage index hindex
        cases husage : known.poolUsage? index with
        | some usage => exact gives_usage knows.rules (hknown.trans husage) rfl
        | none =>
            have hitem : usageItem script (.pool index) = none := by
              rw [usageItem, hknown, husage]
              rfl
            exact gives_callObject knows.rules hitem rfl
  chars := by
    rintro string bytes hstring
    cases hstring with
    | poolName hindex => exact gives_of_undisturbed knows.rules rfl (knows.poolName _ hindex)

/-- What is known of three pools: the second one has become invalid, and the name of the third one
is not well-formed. -/
def lapsed : Telemetry where
  heap := ⟨8, 90, 96, 100⟩
  nonHeap := ⟨1, 2, 3, -1⟩
  count := 3
  poolName index := [[77], [69], [67, 0xFF]].getD index []
  poolUsage? index := if index = 0 then some ⟨0, 5, 95, 100⟩
    else if index = 2 then some ⟨4, 3, 2, 1⟩ else none

/-- A machine that knows this. -/
def lapsing : Script where
  graph := .empty
  heapUsage := some ⟨8, 90, 96, 100⟩
  nonHeapUsage := some ⟨1, 2, 3, -1⟩
  pools := [some ⟨some [77], some ⟨0, 5, 95, 100⟩⟩, some ⟨some [69], none⟩,
    some ⟨some [67, 0xFF], some ⟨4, 3, 2, 1⟩⟩]
  claimedSize := none
  missing := []
  rules := []
  heard := []

theorem knows_lapsing : Knows lapsing lapsed where
  rules := rfl
  heap := rfl
  nonHeap := rfl
  count := rfl
  poolName := by decide
  poolUsage := by decide

/-- The valid pools are told in their order, and the report is the one over their numbers. -/
theorem tell_of_manages_lapsing :
    lapsed.pools = [⟨"M", ⟨0, 5, 95, 100⟩⟩, ⟨"C\uFFFD", ⟨4, 3, 2, 1⟩⟩] ∧
      Beans.Tell lapsed (Means lapsing lapsed) (fun method kind => method = kind.name)
        (Session.start lapsing : Session machine) :=
  ⟨by decide, Beans.tell_of_manages (manages knows_lapsing) ⟨⟨[], rfl⟩, rfl⟩⟩

end Scripted

end Jvm

end ExhaustionGuard
