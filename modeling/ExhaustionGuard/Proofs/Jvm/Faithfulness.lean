import ExhaustionGuard.Proofs.Jvm.Telemetry

/-! # Faithful beans

What the beans of a machine tell comes out as it is: each area with its own four
numbers, and the pools in the order of the list, asked for once at each index.
A pool that has become invalid is left out and shifts no other.
-/

namespace ExhaustionGuard.Jvm

variable {J : Machine} {known : Telemetry} {is : J.Object → Thing → Prop}
  {stands : J.Method → MethodKind → Prop} {steady : J.State → Prop} {session : Session J}

namespace Beans

/-! ## Look-ups -/

theorem yields_classNamed (manages : J.Manages known is stands steady) {name : String}
    (hname : name ∈ classNames) (hready : IsReady steady session) :
    Yields steady session ((classNamed name : BeanM J Ref).finish session) fun ref after passed =>
      session.refs.length ≤ ref ∧ after.Denotes is ref (.cls name) ∧ passed = [] := by
  have hnul : ∀ name ∈ classNames, ¬ Text.hasNul name = true := by decide
  rw [classNamed, SessionM.findClass, if_neg (hnul name hname)]
  refine (yields_obtain _ (manages.findClass hname) hready).bind ?_
  rintro value after passed ⟨ref, rfl, hnew, hdenotes, rfl⟩ hready -
  exact .of_ok hready ⟨hnew, hdenotes, rfl⟩

/-- A method that is found is handed on. -/
theorem yields_lookUp {call : Session J → Call J.Object J.Method .method} {kind : MethodKind}
    {next : Option J.Method → BeanM J J.Method} (hnext : ∀ method, next (some method) = pure method)
    (hgives : J.Gives steady (call session) fun value =>
      ∃ method, value = some method ∧ stands method kind)
    (hnone : (call session).passed = []) (hready : IsReady steady session) :
    Yields steady session ((inSession (SessionM.call call) >>= next).finish session)
      fun method _ passed => stands method kind ∧ passed = [] := by
  refine (yields_call hgives hready).bind ?_
  rintro value after passed ⟨⟨method, rfl, hstands⟩, rfl⟩ hready -
  rw [hnext, hnone]
  exact .of_ok hready ⟨hstands, rfl⟩

theorem yields_method (manages : J.Manages known is stands steady) (kind : MethodKind) {cls : Ref}
    (hkind : kind ∈ methods) (hcls : session.Denotes is cls (.cls kind.cls))
    (hready : IsReady steady session) :
    Yields steady session
      ((method cls kind.name kind.signature : BeanM J J.Method).finish session)
      fun method _ passed => stands method kind ∧ passed = [] := by
  have hnul : ∀ kind ∈ methods,
      ¬ (Text.hasNul kind.name || Text.hasNul kind.signature) = true := by decide
  obtain ⟨object, hlive, his⟩ := hcls
  have hgives := manages.methodId hkind his
  rw [← hlive] at hgives
  rw [method, SessionM.methodId, if_neg (hnul kind hkind)]
  exact yields_lookUp (fun _ => rfl) hgives rfl hready

theorem yields_staticMethod (manages : J.Manages known is stands steady) (kind : MethodKind)
    {cls : Ref} (hkind : kind ∈ staticMethods) (hcls : session.Denotes is cls (.cls kind.cls))
    (hready : IsReady steady session) :
    Yields steady session
      ((staticMethod cls kind.name kind.signature : BeanM J J.Method).finish session)
      fun method _ passed => stands method kind ∧ passed = [] := by
  have hnul : ∀ kind ∈ staticMethods,
      ¬ (Text.hasNul kind.name || Text.hasNul kind.signature) = true := by decide
  obtain ⟨object, hlive, his⟩ := hcls
  have hgives := manages.staticMethodId hkind his
  rw [← hlive] at hgives
  rw [staticMethod, SessionM.staticMethodId, if_neg (hnul kind hkind)]
  exact yields_lookUp (fun _ => rfl) hgives rfl hready

/-- An object that has to come back does. -/
theorem yields_obtain_returned (object : Session J → Call J.Object J.Method .object)
    {thing : Thing} (hgives : J.Gives steady (object session) (Found is thing)) (what : String)
    (hready : IsReady steady session) :
    Yields steady session
      ((inSession (SessionM.obtain object) >>= fun found => returned found what).finish session)
      fun ref after passed => session.refs.length ≤ ref ∧ after.Denotes is ref thing ∧
        passed = (object session).passed := by
  refine (yields_obtain object hgives hready).bind ?_
  rintro value after passed ⟨ref, rfl, hnew, hdenotes, rfl⟩ hready -
  rw [finish_returned, hready.pending]
  exact .of_ok hready ⟨hnew, hdenotes, List.append_nil _⟩

/-- The call of a method of an object. -/
def objectCall (receiver : Ref) (method : J.Method) (arguments : List (Argument J.Object))
    (session : Session J) : Call J.Object J.Method .object :=
  .callObject (session.handle (some receiver)) method arguments

theorem yields_callObject_returned {receiver : Ref} {object : J.Object} {method : J.Method}
    {arguments : List (Argument J.Object)} {thing : Thing}
    (hlive : session.handle (some receiver) = .live object)
    (hgives : J.Gives steady (.callObject (.live object) method arguments) (Found is thing))
    (what : String) (hready : IsReady steady session) :
    Yields steady session
      ((callObject receiver method arguments >>= fun found => returned found what).finish session)
      fun ref after passed => session.refs.length ≤ ref ∧ after.Denotes is ref thing ∧
        passed = (Call.callObject (.live object) method arguments).passed := by
  rw [← hlive] at hgives ⊢
  exact yields_obtain_returned (objectCall receiver method arguments) hgives what hready

/-! ## Usages -/

/-- The references were handed out in an earlier session that this one goes on from. -/
theorem yields_usageNumber (manages : J.Manages known is stands steady) {name : String}
    {number : Int} {cls object : Ref} {usage : MemoryUsage} {start : Session J}
    (hmethod : usageGetter name ∈ methods) (hnumber : (name, number) ∈ usageNumbers usage)
    (hcls : start.Denotes is cls (.cls usageName))
    (hobject : start.Denotes is object (.usage usage)) (hstart : start.refs <+: session.refs)
    (hready : IsReady steady session) :
    Yields steady session ((usageNumber cls object name : BeanM J Int).finish session)
      fun value _ passed => value = number ∧ passed = [] := by
  refine (yields_method manages (usageGetter name) hmethod (hcls.mono hstart) hready).bind ?_
  rintro get after passed ⟨hstands, rfl⟩ hready hrefs
  obtain ⟨found, hlive, his⟩ := hobject.mono (hstart.trans hrefs)
  have hgives := manages.number his hnumber hstands
  rw [← hlive] at hgives
  refine (yields_call hgives hready).bind ?_
  rintro value after passed ⟨rfl, rfl⟩ hready -
  refine (yields_check name hready).bind ?_
  rintro checked after passed rfl hready -
  exact .of_ok hready ⟨rfl, rfl⟩

/-- Each number comes from its own getter. -/
theorem yields_readUsage (manages : J.Manages known is stands steady) {object : Ref}
    {usage : MemoryUsage} (hobject : session.Denotes is object (.usage usage))
    (hready : IsReady steady session) :
    Yields steady session ((readUsage object : BeanM J MemoryUsage).finish session)
      fun value _ passed => value = usage ∧ passed = [] := by
  have hinitial : ("getInit", usage.initial) ∈ usageNumbers usage := by simp [usageNumbers]
  have hused : ("getUsed", usage.used) ∈ usageNumbers usage := by simp [usageNumbers]
  have hcommitted : ("getCommitted", usage.committed) ∈ usageNumbers usage := by
    simp [usageNumbers]
  have hmaximum : ("getMax", usage.maximum) ∈ usageNumbers usage := by simp [usageNumbers]
  refine (yields_classNamed manages (by decide) hready).bindRef ?_
  intro cls start hcls hready hrefs
  have hobject := hobject.mono hrefs
  refine (yields_usageNumber manages (by decide) hinitial hcls hobject List.prefix_rfl hready).bind ?_
  rintro initial after passed ⟨rfl, rfl⟩ hready hstart
  refine (yields_usageNumber manages (by decide) hused hcls hobject hstart hready).bind ?_
  rintro used after passed ⟨rfl, rfl⟩ hready hrefs
  have hstart := hstart.trans hrefs
  refine (yields_usageNumber manages (by decide) hcommitted hcls hobject hstart hready).bind ?_
  rintro committed after passed ⟨rfl, rfl⟩ hready hrefs
  have hstart := hstart.trans hrefs
  refine (yields_usageNumber manages (by decide) hmaximum hcls hobject hstart hready).bind ?_
  rintro maximum after passed ⟨rfl, rfl⟩ hready -
  exact .of_ok hready ⟨rfl, rfl⟩

/-! ## Areas -/

theorem yields_beanOf (manages : J.Manages known is stands steady) {factory : Ref}
    (kind : MethodKind) {thing : Thing} (hkind : kind ∈ staticMethods)
    (hcls : kind.cls = factoryName) (hfactory : session.Denotes is factory (.cls factoryName))
    (hgives : ∀ {cls get}, is cls (.cls factoryName) → stands get kind →
      J.Gives steady (.callStaticObject (.live cls) get []) (Found is thing))
    (hready : IsReady steady session) :
    Yields steady session ((beanOf factory kind.name kind.signature : BeanM J Ref).finish session)
      fun ref after passed => session.refs.length ≤ ref ∧ after.Denotes is ref thing ∧
        passed = [] := by
  have hmethod := hfactory
  rw [← hcls] at hmethod
  refine (yields_staticMethod manages kind hkind hmethod hready).bind ?_
  rintro get after passed ⟨hstands, rfl⟩ hready hrefs
  obtain ⟨found, hlive, his⟩ := hfactory.mono hrefs
  have hbean := hgives his hstands
  rw [← hlive] at hbean
  refine (yields_obtain_returned
    (fun session => .callStaticObject (session.handle (some factory)) get []) hbean
    ("ManagementFactory." ++ kind.name) hready).mono ?_
  rintro ref last passed ⟨hnew, hdenotes, rfl⟩
  exact ⟨hrefs.length_le.trans hnew, hdenotes, rfl⟩

/-- The bean is newer than the class that it came from, which is deleted. -/
theorem yields_memoryBean (manages : J.Manages known is stands steady)
    (hready : IsReady steady session) :
    Yields steady session ((memoryBean : BeanM J Ref).finish session) fun ref after passed =>
      session.refs.length ≤ ref ∧ after.Denotes is ref .memoryBean ∧ passed = [] := by
  refine (yields_classNamed manages (by decide) hready).bindRef ?_
  intro factory after hfactory hready hrefs
  refine (yields_beanOf manages getMemoryBean (by decide) rfl hfactory manages.memoryBean
    hready).mono ?_
  rintro bean last passed ⟨hnew, hbean, rfl⟩
  have hother : factory ≠ bean := (Nat.lt_of_lt_of_le hfactory.lt hnew).ne
  exact ⟨hrefs.length_le.trans hnew, hbean.deleteRef hother, rfl⟩

/-- The usage that a getter of the memory bean returns is read number by number. -/
theorem yields_beanUsage (manages : J.Manages known is stands steady) (kind : MethodKind)
    {usage : MemoryUsage} (hkind : kind ∈ methods) (hcls : kind.cls = memoryBeanName)
    (hsignature : kind.signature = usageSignature)
    (hgives : ∀ {bean get}, is bean .memoryBean → stands get kind →
      J.Gives steady (.callObject (.live bean) get []) (Found is (.usage usage)))
    (hready : IsReady steady session) :
    Yields steady session ((beanUsage kind.name : BeanM J MemoryUsage).finish session)
      fun value _ passed => value = usage ∧ passed = [] := by
  refine (yields_memoryBean manages hready).bindRef ?_
  intro bean start hbean hready _
  refine (yields_classNamed manages (by decide) hready).bindRef ?_
  intro cls after hmemory hready hstart
  rw [← hcls] at hmemory
  rw [← hsignature]
  refine (yields_method manages kind hkind hmemory hready).bind ?_
  rintro get after passed ⟨hstands, rfl⟩ hready hrefs
  obtain ⟨object, hlive, his⟩ := hbean.mono (hstart.trans hrefs)
  rw [← bind_assoc]
  refine (yields_callObject_returned hlive (hgives his hstands) kind.name hready).bindRef ?_
  intro ref after hdenotes hready _
  exact yields_readUsage manages hdenotes hready

/-! ## Pools -/

/-- The arguments with which the pool at an index is asked for. -/
def asksFor (list : J.Object) (get : J.Method) (index : Nat) : Passed J.Object J.Method :=
  ⟨.live list, get, [.int index]⟩

/-- The usage of a pool that is valid, with its name. -/
def readPool (name : String) (usage : Ref) : BeanM J (Option PoolUsage) := do
  check "MemoryPoolMXBean.getUsage"
  let usage ← readUsage usage
  pure (some ⟨name, usage⟩)

theorem validUsage_some (name : String) (usage : Ref) :
    (validUsage name (some usage) : BeanM J (Option PoolUsage)) =
      withRef usage (readPool name usage) := rfl

/-- A pool that has become invalid comes out as nothing. -/
theorem yields_getUsage (manages : J.Manages known is stands steady) (name : String) {pool : Ref}
    {index : Nat} {get : J.Method} (hpool : session.Denotes is pool (.pool index))
    (hstands : stands get getPoolUsage) (hready : IsReady steady session) :
    Yields steady session
      ((callObject pool get [] >>= fun usage => validUsage name usage).finish session)
      fun value _ passed =>
        value = (known.poolUsage? index).map (fun usage => ⟨name, usage⟩) ∧ passed = [] := by
  obtain ⟨object, hlive, his⟩ := hpool
  have hgives := manages.poolUsage his hstands
  rw [← hlive] at hgives
  cases husage : known.poolUsage? index with
  | none =>
      rw [husage] at hgives
      refine (yields_obtain_null (objectCall pool get []) hgives hready).bind ?_
      rintro value after passed ⟨rfl, rfl⟩ hready -
      refine (yields_check _ hready).bind ?_
      rintro checked after passed rfl hready -
      exact .of_ok hready ⟨rfl, rfl⟩
  | some usage =>
      rw [husage] at hgives
      obtain ⟨value, after, made, hresult, hafter, hrefs, htrace, ref, rfl, hnew, hdenotes,
        hpassed⟩ := yields_obtain (objectCall pool get []) hgives hready
      -- the usage is deleted whether or not its numbers can be read
      refine Yields.bindUse ⟨_, after, made, hresult, hafter, hrefs, htrace, ref,
        validUsage_some name ref, hnew, hdenotes, hpassed⟩ ?_
      intro ref after hdenotes hready _
      refine (yields_check _ hready).bind ?_
      rintro checked after passed rfl hready hrefs
      refine (yields_readUsage manages (hdenotes.mono hrefs) hready).bind ?_
      rintro value after passed ⟨rfl, rfl⟩ hready -
      exact .of_ok hready ⟨rfl, rfl⟩

/-- The name and the usage of a pool are its own. -/
theorem yields_poolUsage (manages : J.Manages known is stands steady) {pool : Ref} {index : Nat}
    (hpool : session.Denotes is pool (.pool index)) (hready : IsReady steady session) :
    Yields steady session ((poolUsage pool : BeanM J (Option PoolUsage)).finish session)
      fun value _ passed => value = known.pool? index ∧ passed = [] := by
  refine (yields_classNamed manages (by decide) hready).bindRef ?_
  intro cls start hcls hready hstart
  have hpool := hpool.mono hstart
  refine (yields_method manages getPoolName (by decide) hcls hready).bind ?_
  rintro getName after passed ⟨hname, rfl⟩ hready hrefs
  obtain ⟨object, hlive, his⟩ := hpool.mono hrefs
  rw [← bind_assoc]
  refine (yields_callObject_returned hlive (manages.poolName his hname) _ hready).bindRef ?_
  intro name named hdenotes hready hnamed
  have hrefs := hrefs.trans hnamed
  obtain ⟨string, hstring, htext⟩ := hdenotes
  have hchars := manages.chars htext
  rw [← hstring] at hchars
  refine (yields_readString hchars hready).bind ?_
  rintro text after passed ⟨rfl, rfl⟩ hready hread
  have hrefs := hrefs.trans hread
  refine (yields_method manages getPoolUsage (by decide) (hcls.mono hrefs) hready).bind ?_
  rintro getUsage after passed ⟨husage, rfl⟩ hready hfound
  exact yields_getUsage manages _ (hpool.mono (hrefs.trans hfound)) husage hready

/-- The pool at an index is asked for, read and let go. -/
theorem yields_poolAt (manages : J.Manages known is stands steady) {list : Ref} {found : J.Object}
    {get : J.Method} {index : Nat} (hfound : is found .poolList) (hget : stands get getOfList)
    (hindex : index < known.count.toNat) (hlive : session.handle (some list) = .live found)
    (hready : IsReady steady session) :
    Yields steady session
      ((callObject list get [.int index] >>= (fun pool => returned pool "List.get") >>= fun pool =>
        withRef pool (poolUsage pool)).finish session)
      fun value _ passed => value = known.pool? index ∧ passed = [asksFor found get index] := by
  refine (yields_callObject_returned hlive (manages.get hfound hget hindex) _ hready).bindRef ?_
  intro pool after hpool hready _
  refine (yields_poolUsage manages hpool hready).mono ?_
  rintro value last passed ⟨rfl, rfl⟩
  exact ⟨rfl, rfl⟩

/-- The pools of a list come in the order of their indices, and each is asked for once. -/
theorem yields_poolsFrom (manages : J.Manages known is stands steady) {list : Ref}
    {found : J.Object} {get : J.Method} (hfound : is found .poolList)
    (hget : stands get getOfList) {remaining index : Nat}
    (hindex : index + remaining ≤ known.count.toNat)
    (hlive : session.handle (some list) = .live found) (hready : IsReady steady session) :
    Yields steady session
      ((poolsFrom list get remaining index : BeanM J (List PoolUsage)).finish session)
      fun value _ passed => value = (List.range' index remaining).filterMap known.pool? ∧
        passed = (List.range' index remaining).map (asksFor found get) := by
  induction remaining generalizing index session with
  | zero => exact .of_ok hready ⟨rfl, rfl⟩
  | succ remaining ih =>
      rw [poolsFrom, ← bind_assoc, ← bind_assoc]
      refine (yields_poolAt manages hfound hget (by omega) hlive hready).bind ?_
      rintro pool after passed ⟨rfl, rfl⟩ hready hrefs
      refine (ih (by omega) (Session.handle_mono hrefs hlive) hready).bind ?_
      rintro later after passed ⟨rfl, rfl⟩ hready -
      refine .of_ok hready ⟨?_, ?_⟩
      · rw [List.range'_succ, List.filterMap_cons]
        cases known.pool? index <;> rfl
      · rw [List.range'_succ, List.append_nil]
        rfl

theorem yields_pools (manages : J.Manages known is stands steady) (hready : IsReady steady session) :
    Yields steady session ((pools : BeanM J (List PoolUsage)).finish session)
      fun value _ passed => value = known.pools ∧ ∃ list get, is list .poolList ∧
        stands get getOfList ∧
        passed = (List.range known.count.toNat).map (asksFor list get) := by
  refine (yields_classNamed manages (by decide) hready).bindRef ?_
  intro factory after hfactory hready _
  refine (yields_beanOf manages getPoolBeans (by decide) rfl hfactory manages.poolList
    hready).bindRef ?_
  rintro list start ⟨found, hlive, hfound⟩ hready _
  refine (yields_classNamed manages (by decide) hready).bindRef ?_
  intro cls named hcls hready hrefs
  refine (yields_method manages sizeOfList (by decide) hcls hready).bind ?_
  rintro size after passed ⟨hsize, rfl⟩ hready hsized
  refine (yields_method manages getOfList (by decide) (hcls.mono hsized) hready).bind ?_
  rintro get after passed ⟨hget, rfl⟩ hready hgot
  have hlive := Session.handle_mono (hrefs.trans (hsized.trans hgot)) hlive
  have hgives := manages.size hfound hsize
  rw [← hlive] at hgives
  refine (yields_call hgives hready).bind ?_
  rintro count counted passed ⟨rfl, rfl⟩ hready hcounted
  have hlive := Session.handle_mono hcounted hlive
  refine (yields_check _ hready).bind ?_
  rintro checked after passed rfl hready hchecked
  have hlive := Session.handle_mono hchecked hlive
  refine (yields_poolsFrom manages hfound hget (Nat.zero_add _).le hlive hready).mono ?_
  rintro value last passed ⟨rfl, rfl⟩
  rw [← List.range_eq_range']
  exact ⟨rfl, found, get, hfound, hget, rfl⟩

end Beans

end ExhaustionGuard.Jvm
