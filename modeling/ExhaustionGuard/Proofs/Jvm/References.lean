import ExhaustionGuard.Proofs.Jvm.Debts

/-! # References that are given back

Whatever a machine answers, and wherever an operation on its beans breaks off,
every reference that the machine handed out is deleted exactly once, and every
string is released as soon as it is read. No call is made with a reference that
was deleted. None of this needs a machine that keeps any promise.
-/

namespace ExhaustionGuard.Jvm

variable {J : Machine} {α : Type}

namespace Beans

variable {session : Session J}

/-! ## Look-ups -/

theorem owes_classNamed (name : String) (session : Session J) :
    Owes some session ((classNamed name : BeanM J Ref).finish session) := by
  rw [classNamed, SessionM.findClass]
  by_cases hname : Text.hasNul name = true
  · rw [if_pos hname]
    exact settles_missing _ _ session
  · rw [if_neg hname, finish_inSession_bind]
    have hlive : ((fun _ => .findClass name : Session J → Call J.Object J.Method .object)
        session).IsLive := List.forall_mem_nil _
    obtain ⟨made, haccount⟩ := account_obtain (fun _ => .findClass name) hlive
    cases hfound : (SessionM.obtain (fun _ => .findClass name) session).1 with
    | none =>
        rw [hfound] at haccount
        exact .after_account haccount (settles_missing _ _ _)
    | some ref =>
        rw [hfound] at haccount
        exact ⟨made, haccount⟩

/-- A method that is found is handed on. -/
theorem settles_lookUp {call : Session J → Call J.Object J.Method .method} (reason : JavaFault)
    (hlive : (call session).IsLive) :
    Settles session ((inSession (SessionM.call call) >>= fun found =>
      match found with
      | some method => pure method
      | none => do
          discard (inSession SessionM.takeException)
          fault reason : BeanM J J.Method).finish session) := by
  refine (settles_call call (by decide) hlive).bind fun found after _ => ?_
  cases found with
  | some method => exact .of_ok rfl
  | none => exact settles_missing _ _ after

theorem settles_method {cls : Ref} (name signature : String) (hcls : session.IsLive cls) :
    Settles session ((method cls name signature : BeanM J J.Method).finish session) := by
  rw [method, SessionM.methodId]
  split
  · exact settles_missing _ _ session
  · exact settles_lookUp _ (List.forall_mem_singleton.mpr hcls)

theorem settles_staticMethod {cls : Ref} (name signature : String) (hcls : session.IsLive cls) :
    Settles session ((staticMethod cls name signature : BeanM J J.Method).finish session) := by
  rw [staticMethod, SessionM.staticMethodId]
  split
  · exact settles_missing _ _ session
  · exact settles_lookUp _ (List.forall_mem_singleton.mpr hcls)

/-- A call of a method that is passed no objects. -/
theorem isLive_callObject {receiver : Ref} (hreceiver : session.IsLive receiver)
    (method : J.Method) {arguments : List (Argument J.Object)}
    (harguments : arguments.filterMap Argument.handle? = []) :
    (Call.callObject (session.handle (some receiver)) method arguments).IsLive := by
  rw [Call.IsLive, Call.handles, harguments, List.forall_mem_singleton]
  exact hreceiver

theorem owes_callObject {receiver : Ref} (hreceiver : session.IsLive receiver)
    (method : J.Method) {arguments : List (Argument J.Object)}
    (harguments : arguments.filterMap Argument.handle? = []) :
    Owes id session ((callObject receiver method arguments).finish session) :=
  owes_obtain _ (isLive_callObject hreceiver method harguments)

theorem owes_callObject_returned {receiver : Ref} (hreceiver : session.IsLive receiver)
    (method : J.Method) (arguments : List (Argument J.Object))
    (harguments : arguments.filterMap Argument.handle? = []) (what : String) :
    Owes some session ((callObject receiver method arguments >>= fun object =>
      returned object what).finish session) :=
  owes_returned _ what (isLive_callObject hreceiver method harguments)

/-! ## Memory usage -/

theorem owes_beanOf {factory : Ref} (getter signature : String)
    (hfactory : session.IsLive factory) :
    Owes some session ((beanOf factory getter signature : BeanM J Ref).finish session) := by
  refine (settles_staticMethod getter signature hfactory).bind fun get after hrefs => ?_
  exact owes_returned _ _ (List.forall_mem_singleton.mpr (hfactory.mono hrefs))

theorem owes_memoryBean (session : Session J) :
    Owes some session ((memoryBean : BeanM J Ref).finish session) :=
  (owes_classNamed factoryName session).bindRef fun _ _ hfactory _ => owes_beanOf _ _ hfactory

theorem settles_usageNumber {cls usage : Ref} (getter : String) (hcls : session.IsLive cls)
    (husage : session.IsLive usage) :
    Settles session ((usageNumber cls usage getter : BeanM J Int).finish session) := by
  refine (settles_method getter "()J" hcls).bind fun get between hrefs => ?_
  have hcall : Settles between ((inSession (SessionM.call fun session =>
      .callLong (session.handle (some usage)) get)).finish between) :=
    settles_call _ (by decide) (List.forall_mem_singleton.mpr (husage.mono hrefs))
  refine hcall.bind fun value after _ => ?_
  exact (settles_check getter after).bind fun _ _ _ => .of_ok rfl

theorem settles_readUsage {usage : Ref} (husage : session.IsLive usage) :
    Settles session ((readUsage usage : BeanM J MemoryUsage).finish session) := by
  refine (owes_classNamed usageName session).bindRef fun cls opened hcls hrefs => ?_
  have hlive : ∀ after : Session J, opened.refs <+: after.refs →
      after.IsLive cls ∧ after.IsLive usage :=
    fun after hmore => ⟨hcls.mono hmore, husage.mono (hrefs.trans hmore)⟩
  have hnumber : ∀ (getter : String) (after : Session J), opened.refs <+: after.refs →
      Settles after ((usageNumber cls usage getter : BeanM J Int).finish after) :=
    fun getter after hmore => settles_usageNumber getter (hlive after hmore).1 (hlive after hmore).2
  refine (hnumber "getInit" opened List.prefix_rfl).bind fun initial first hfirst => ?_
  refine (hnumber "getUsed" first hfirst).bind fun used second hsecond => ?_
  refine (hnumber "getCommitted" second (hfirst.trans hsecond)).bind fun committed third hthird => ?_
  refine (hnumber "getMax" third ((hfirst.trans hsecond).trans hthird)).bind fun maximum _ _ => ?_
  exact .of_ok rfl

theorem settles_beanUsage (getter : String) (session : Session J) :
    Settles session ((beanUsage getter : BeanM J MemoryUsage).finish session) := by
  refine (owes_memoryBean session).bindRef fun bean opened hbean _ => ?_
  refine (owes_classNamed memoryBeanName opened).bindRef fun cls found hcls hfound => ?_
  refine (settles_method getter usageSignature hcls).bind fun get ready hready => ?_
  rw [← bind_assoc]
  have husage := owes_callObject_returned (hbean.mono (hfound.trans hready)) get [] rfl getter
  exact husage.bindRef fun usage after hlive _ => settles_readUsage hlive

/-! ## Pools -/

theorem settles_getUsage (name : String) {pool : Ref} (hpool : session.IsLive pool)
    (get : J.Method) :
    Settles session ((callObject pool get [] >>= fun usage =>
      validUsage name usage).finish session) := by
  refine (owes_callObject hpool get rfl).bindRef? (fun after _ => ?_) (fun _ => rfl)
    fun usage after husage _ => ?_
  · exact (settles_check _ after).bind fun _ _ _ => .of_ok rfl
  · refine (settles_check _ after).bind fun _ checked hchecked => ?_
    exact (settles_readUsage (husage.mono hchecked)).bind fun _ _ _ => .of_ok rfl

theorem settles_poolUsage {pool : Ref} (hpool : session.IsLive pool) :
    Settles session ((poolUsage pool : BeanM J (Option PoolUsage)).finish session) := by
  refine (owes_classNamed poolBeanName session).bindRef fun cls opened hcls hopened => ?_
  refine (settles_method _ _ hcls).bind fun getName ready hready => ?_
  have hpool := hpool.mono (hopened.trans hready)
  rw [← bind_assoc]
  refine (owes_callObject_returned hpool getName [] rfl _).bindRef fun name named hname hnamed => ?_
  refine (settles_readString hname).bind fun text read hread => ?_
  cases text with
  | none => exact .of_error _
  | some text =>
      have hcls := hcls.mono ((hready.trans hnamed).trans hread)
      refine (settles_method _ _ hcls).bind fun getUsage after hafter => ?_
      exact settles_getUsage text (hpool.mono ((hnamed.trans hread).trans hafter)) getUsage

/-- However many pools the list is said to hold. -/
theorem settles_poolsFrom {list : Ref} (get : J.Method) (remaining index : Nat)
    (hlist : session.IsLive list) :
    Settles session
      ((poolsFrom list get remaining index : BeanM J (List PoolUsage)).finish session) := by
  induction remaining generalizing index session with
  | zero => exact .of_ok rfl
  | succ remaining ih =>
      rw [poolsFrom, ← bind_assoc, ← bind_assoc]
      have hpool := owes_callObject_returned hlist get [.int index] rfl "List.get"
      have husage := hpool.bindRef fun pool after hlive _ => settles_poolUsage hlive
      refine husage.bind fun usage after hrefs => ?_
      exact (ih (index + 1) (hlist.mono hrefs)).bind fun later _ _ => .of_ok rfl

theorem settles_pools (session : Session J) :
    Settles session ((pools : BeanM J (List PoolUsage)).finish session) := by
  refine (owes_classNamed factoryName session).bindRef fun factory opened hfactory _ => ?_
  refine (owes_beanOf _ _ hfactory).bindRef fun list listed hlist _ => ?_
  refine (owes_classNamed listName listed).bindRef fun cls found hcls hfound => ?_
  refine (settles_method _ _ hcls).bind fun size sized hsized => ?_
  refine (settles_method _ _ (hcls.mono hsized)).bind fun get ready hready => ?_
  have hlist := hlist.mono ((hfound.trans hsized).trans hready)
  have hcount : Settles ready ((inSession (SessionM.call fun session =>
      .callInt (session.handle (some list)) size)).finish ready) :=
    settles_call _ (by decide) (List.forall_mem_singleton.mpr hlist)
  refine hcount.bind fun count counted hcounted => ?_
  refine (settles_check _ counted).bind fun _ checked hchecked => ?_
  exact settles_poolsFrom get _ 0 (hlist.mono (hcounted.trans hchecked))

/-! ## Heap dumps -/

theorem settles_dumpTo {bean file : Ref} (dump : J.Method) (hbean : session.IsLive bean)
    (hfile : session.IsLive file) :
    Settles session ((dumpTo bean dump file).finish session) := by
  have hlive : (Call.callVoid (session.handle (some bean)) dump
      [.object (session.handle (some file)), .boolean true]).IsLive :=
    List.forall_mem_cons.mpr ⟨hbean, List.forall_mem_singleton.mpr hfile⟩
  have hdump : Settles session ((inSession (SessionM.call fun session =>
      .callVoid (session.handle (some bean)) dump
        [.object (session.handle (some file)), .boolean true])).finish session) :=
    settles_call _ (by decide) hlive
  exact hdump.bind fun _ after _ => settles_check _ after

theorem owes_newString (path : String) (session : Session J) :
    Owes id session ((inSession (SessionM.newString path)).finish session) := by
  rw [SessionM.newString]
  split
  · exact .of_ok rfl
  · exact owes_obtain _ (List.forall_mem_nil _)

theorem settles_dumpWith {cls bean : Ref} (path : String) (hcls : session.IsLive cls)
    (hbean : session.IsLive bean) :
    Settles session ((dumpWith cls bean path : BeanM J Unit).finish session) := by
  refine (settles_method _ _ hcls).bind fun dump ready hready => ?_
  refine (owes_newString path ready).bindRef? (fun after _ => settles_missing _ _ after)
    (fun _ => rfl) fun file after hfile hrefs => ?_
  exact settles_dumpTo dump (hbean.mono (hready.trans hrefs)) hfile

theorem settles_dumpHeap (path : Text.Bytes) (session : Session J) :
    Settles session ((dumpHeap path : BeanM J Unit).finish session) := by
  rw [dumpHeap]
  split
  · exact .of_error _
  · refine (owes_classNamed factoryName session).bindRef fun factory opened hfactory _ => ?_
    refine (settles_staticMethod _ _ hfactory).bind fun get ready hready => ?_
    refine (owes_classNamed diagnosticBeanName ready).bindRef fun cls found hcls hfound => ?_
    rw [← bind_assoc]
    have hlive : (Call.callStaticObject (found.handle (some factory)) get
        [.object (found.handle (some cls))]).IsLive :=
      List.forall_mem_cons.mpr
        ⟨hfactory.mono (hready.trans hfound), List.forall_mem_singleton.mpr hcls⟩
    have hbean := owes_returned (fun session : Session J =>
      .callStaticObject (session.handle (some factory)) get [.object (session.handle (some cls))])
      "ManagementFactory.getPlatformMXBean" hlive
    refine hbean.bindRef fun bean after hbean hrefs => ?_
    exact settles_dumpWith _ (hcls.mono hrefs) hbean

end Beans

/-! ## What an operation leaves -/

/-- All that was handed out between two sessions was given back. -/
structure GivesBack (before after : Session J) (made : List (SessionEvent J.Object J.Method)) :
    Prop where
  trace : after.trace = before.trace ++ made
  /-- No call was given a reference that had been deleted, and characters were released at once. -/
  deeds : AreDeeds made
  /-- Each object that the machine handed out has a reference, which was deleted once. -/
  refs : after.refs = before.refs ++ paid (J.objects before.state made)
  /-- No other reference was deleted. -/
  deleted : (made.filterMap SessionEvent.deleted?).Perm
    (List.range' before.refs.length (J.objects before.state made).length)
  /-- The characters of each string were released once. -/
  chars : after.chars = before.chars ++ (J.strings before.state made).map fun _ => 1

theorem Owes.givesBack {before : Session J} {result : Except HostFault α × Session J}
    (hsettles : Settles before result) : ∃ made, GivesBack before result.2 made := by
  obtain ⟨made, haccount⟩ := hsettles
  have howed : owedBy (fun _ => none) result.1 = none := by cases result.1 <;> rfl
  rw [howed] at haccount
  exact ⟨made, haccount.trace, haccount.deeds, haccount.refs.eq_of_settled, haccount.deleted,
    haccount.chars⟩

/-- Whatever the machine answers, whether an exception is pending or not, and however the
operation ends. -/
theorem Beans.references_given_back (session : Session J) :
    (∃ made, GivesBack session ((heapUsage : BeanM J MemoryUsage).finish session).2 made) ∧
      (∃ made, GivesBack session ((nonHeapUsage : BeanM J MemoryUsage).finish session).2 made) ∧
      (∃ made, GivesBack session ((pools : BeanM J (List PoolUsage)).finish session).2 made) ∧
      ∀ path : Text.Bytes, ∃ made, GivesBack session ((dumpHeap path).finish session).2 made :=
  ⟨(settles_beanUsage _ session).givesBack, (settles_beanUsage _ session).givesBack,
    (settles_pools session).givesBack, fun path => (settles_dumpHeap path session).givesBack⟩

end ExhaustionGuard.Jvm
