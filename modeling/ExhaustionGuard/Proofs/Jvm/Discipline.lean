import ExhaustionGuard.Proofs.Jvm.Conduct

/-! # Discipline of the management beans

Reading memory usage and dumping the heap are chains of look-ups and calls, each
of which may fail in two ways. Every chain breaks off at the first answer that
is not good, with the exception taken off, and then deletes its references.
-/

namespace ExhaustionGuard.Jvm.Beans

variable {J : Machine}

theorem conducts_classNamed (hclean : J.LooksUpCleanly) {name : String}
    (hname : ¬ Text.hasNul name = true) : Conducts True (classNamed name : BeanM J Ref) := by
  have hlooksUp : LooksUp (SessionM.findClass name : SessionM J (Option Ref)) := by
    rw [SessionM.findClass, if_neg hname]
    exact looksUp_obtain hclean fun _ => trivial
  exact .lookedUp hlooksUp conducts_pure rfl

theorem conducts_method (hclean : J.LooksUpCleanly) (cls : Ref) {name signature : String}
    (hname : ¬ (Text.hasNul name || Text.hasNul signature) = true) :
    Conducts True (method cls name signature : BeanM J J.Method) := by
  have hlooksUp : LooksUp (SessionM.methodId (some cls) name signature : SessionM J _) := by
    rw [SessionM.methodId, if_neg hname]
    exact looksUp_call hclean fun _ => trivial
  exact .lookedUp hlooksUp conducts_pure rfl

theorem conducts_staticMethod (hclean : J.LooksUpCleanly) (cls : Ref) {name signature : String}
    (hname : ¬ (Text.hasNul name || Text.hasNul signature) = true) :
    Conducts True (staticMethod cls name signature : BeanM J J.Method) := by
  have hlooksUp : LooksUp (SessionM.staticMethodId (some cls) name signature : SessionM J _) := by
    rw [SessionM.staticMethodId, if_neg hname]
    exact looksUp_call hclean fun _ => trivial
  exact .lookedUp hlooksUp conducts_pure rfl

theorem conducts_beanOf (hclean : J.LooksUpCleanly) (factory : Ref) {getter signature : String}
    (hname : ¬ (Text.hasNul getter || Text.hasNul signature) = true) :
    Conducts True (beanOf factory getter signature : BeanM J Ref) := by
  refine (conducts_staticMethod hclean factory hname).bind fun get => ?_
  exact .returned (asksOnce_obtain _) _

theorem conducts_memoryBean (hclean : J.LooksUpCleanly) :
    Conducts True (memoryBean : BeanM J Ref) := by
  refine (conducts_classNamed hclean (by decide)).bind fun factory => ?_
  exact (conducts_beanOf hclean factory (by decide)).withRef factory

theorem conducts_usageNumber (hclean : J.LooksUpCleanly) (cls usage : Ref) {getter : String}
    (hgetter : ¬ (Text.hasNul getter || Text.hasNul "()J") = true) :
    Conducts True (usageNumber cls usage getter : BeanM J Int) := by
  refine (conducts_method hclean cls hgetter).bind fun get => ?_
  exact .checked (asksOnce_call _) getter conducts_pure

theorem conducts_readUsage (hclean : J.LooksUpCleanly) (usage : Ref) :
    Conducts True (readUsage usage : BeanM J MemoryUsage) := by
  refine (conducts_classNamed hclean (by decide)).bind fun cls => .withRef cls ?_
  refine (conducts_usageNumber hclean cls usage (by decide)).bind fun initial => ?_
  refine (conducts_usageNumber hclean cls usage (by decide)).bind fun used => ?_
  refine (conducts_usageNumber hclean cls usage (by decide)).bind fun committed => ?_
  refine (conducts_usageNumber hclean cls usage (by decide)).bind fun maximum => ?_
  exact conducts_pure _

theorem conducts_callObject (receiver : Ref) (method : J.Method)
    (arguments : List (Argument J.Object)) (what : String) :
    Conducts True (callObject receiver method arguments >>= fun object =>
      returned object what) :=
  .returned (asksOnce_obtain _) what

theorem conducts_beanUsage (hclean : J.LooksUpCleanly) {getter : String}
    (hgetter : ¬ (Text.hasNul getter || Text.hasNul usageSignature) = true) :
    Conducts True (beanUsage getter : BeanM J MemoryUsage) := by
  refine (conducts_memoryBean hclean).bind fun bean => .withRef bean ?_
  refine (conducts_classNamed hclean (by decide)).bind fun cls => .withRef cls ?_
  refine (conducts_method hclean cls hgetter).bind fun get => ?_
  rw [← bind_assoc]
  refine (conducts_callObject bean get [] getter).bind fun usage => .withRef usage ?_
  exact conducts_readUsage hclean usage

theorem conducts_dumpTo (bean file : Ref) (dump : J.Method) :
    Conducts True (dumpTo bean dump file) := by
  have hchecked : Conducts True (dumpTo bean dump file >>= fun _ => pure ()) := by
    rw [dumpTo, bind_assoc]
    exact .checked (asksOnce_call _) _ conducts_pure
  rwa [bind_pure_unit] at hchecked

/-- A path with a NUL in it is never handed to the machine. -/
theorem conducts_dumpWith (hclean : J.LooksUpCleanly) (cls bean : Ref) (path : String) :
    Conducts (Text.hasNul path = false) (dumpWith cls bean path : BeanM J Unit) := by
  refine (conducts_method hclean cls (by decide)).bind fun dump => ?_
  by_cases hnul : Text.hasNul path = true
  · -- no string is asked for, so nothing can be pending, and nothing was answered badly either
    have hunable : Text.hasNul path = false ↔ False := by simp [hnul]
    rw [SessionM.newString, if_pos hnul, hunable]
    change Conducts False (discard (inSession SessionM.takeException) >>= fun _ =>
      fault .noPathString)
    exact conducts_takeException.bind fun _ => conducts_fail _
  · have hable : Text.hasNul path = false ↔ True := by simp [hnul]
    have hlooksUp : LooksUp (SessionM.newString path : SessionM J (Option Ref)) := by
      rw [SessionM.newString, if_neg hnul]
      exact looksUp_obtain hclean fun _ => trivial
    rw [hable]
    exact .lookedUp hlooksUp (fun file => .withRef file (conducts_dumpTo bean file dump)) rfl

theorem conducts_dumpHeap (hclean : J.LooksUpCleanly) (path : Text.Bytes) :
    Conducts (Text.isWellFormed path = true ∧ Text.hasNul (Text.decodeLossy path) = false)
      (dumpHeap path : BeanM J Unit) := by
  rw [dumpHeap]
  by_cases hwell : Text.isWellFormed path = true
  · rw [if_neg (by simp [hwell]), and_iff_right hwell]
    refine (conducts_classNamed hclean (by decide)).bind fun factory => .withRef factory ?_
    refine (conducts_staticMethod hclean factory (by decide)).bind fun get => ?_
    refine (conducts_classNamed hclean (by decide)).bind fun cls => .withRef cls ?_
    rw [← bind_assoc]
    refine Conducts.bind (.returned (asksOnce_obtain _) _) fun bean => .withRef bean ?_
    exact conducts_dumpWith hclean cls bean _
  · have hunable : Text.isWellFormed path = true ∧ Text.hasNul (Text.decodeLossy path) = false ↔
        False := iff_of_false (fun hable => hwell hable.1) id
    rw [if_pos (by simp [hwell]), hunable]
    exact conducts_fail _

/-- Whatever the machine answers, no call is made while an exception is pending and none is left
pending; usage is read and a heap is dumped just if no answer was an exception or null. -/
theorem beans_disciplined (hclean : J.LooksUpCleanly) (session : Session J)
    (hpending : session.pending = false) :
    WellConducted True session ((heapUsage : BeanM J MemoryUsage).finish session) ∧
      WellConducted True session ((nonHeapUsage : BeanM J MemoryUsage).finish session) ∧
      ∀ path : Text.Bytes,
        WellConducted (Text.isWellFormed path = true ∧ Text.hasNul (Text.decodeLossy path) = false)
          session ((dumpHeap path).finish session) :=
  ⟨conducts_beanUsage hclean (by decide) session hpending,
    conducts_beanUsage hclean (by decide) session hpending,
    fun path => conducts_dumpHeap hclean path session hpending⟩

/-- A machine that finds classes and methods, but throws at the second number that it is asked for
and where a string has to be made. -/
def throwing : Machine where
  State := Nat
  Object := Unit
  Method := Unit
  answer call calls := (match call with
    | .findClass _ | .methodId .. | .staticMethodId .. => ⟨some (), false⟩
    | .callObject .. | .callStaticObject .. => ⟨some (), false⟩
    | .newString _ | .stringChars _ => ⟨none, true⟩
    | .callInt .. | .callLong .. => ⟨calls, calls == 10⟩
    | .callVoid .. => ⟨(), true⟩, calls + 1)
  getEnvironment calls := ((0, true), calls)
  provides _ _ := true
  command _ calls := (.success, calls)
  deallocate _ calls := (.success, calls)
  loadedClasses calls := (⟨.success, 0, none⟩, calls)
  classSignature _ calls := (⟨.success, none⟩, calls)
  followReferences calls := .refused .notAvailable calls

def unasked : Session throwing := .start (0 : Nat)

theorem throwing_disciplined :
    throwing.LooksUpCleanly ∧ unasked.pending = false ∧
      WellConducted True unasked (heapUsage.finish unasked) ∧
      WellConducted True unasked (nonHeapUsage.finish unasked) ∧
      ∀ path : Text.Bytes,
        WellConducted (Text.isWellFormed path = true ∧ Text.hasNul (Text.decodeLossy path) = false)
          unasked ((dumpHeap path).finish unasked) := by
  have hclean : throwing.LooksUpCleanly := by
    intro shape call calls hlookup hthere
    cases call with
    | newString bytes => exact absurd hthere Bool.false_ne_true
    | findClass | methodId | staticMethodId => rfl
    | _ => exact hlookup.elim
  exact ⟨hclean, rfl, beans_disciplined hclean _ rfl⟩

end ExhaustionGuard.Jvm.Beans
