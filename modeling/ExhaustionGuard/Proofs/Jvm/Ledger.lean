import ExhaustionGuard.Proofs.Jvm.Telemetry
import Mathlib.Data.List.Perm.Basic

/-! # The ledger of a session

Whoever is handed a reference owes it to the machine, and pays by deleting it.
An operation may hand on one reference that it still owes; all others that it
was handed it has deleted once, and it has not touched those of before. Nor has
it made a call with a reference that was deleted, and the characters of a string
it has released before it did anything else.
-/

namespace ExhaustionGuard.Jvm

variable {J : Machine} {α β : Type}

/-! ## What is handed out and given back -/

/-- The object that an answer hands out. -/
def Answer.object? : Answer J → Option J.Object
  | ⟨.object, reply⟩ => reply.value
  | _ => none

/-- The characters that an answer hands out. -/
def Answer.chars? : Answer J → Option Text.Bytes
  | ⟨.chars, reply⟩ => reply.value
  | _ => none

namespace Machine

/-- The objects that the machine hands out when it answers the calls among some events. -/
def objects (J : Machine) (state : J.State) (made : List (SessionEvent J.Object J.Method)) :
    List J.Object :=
  (J.answers state made).filterMap Answer.object?

/-- The characters that it hands out. -/
def strings (J : Machine) (state : J.State) (made : List (SessionEvent J.Object J.Method)) :
    List Text.Bytes :=
  (J.answers state made).filterMap Answer.chars?

theorem objects_append (state : J.State) (first second : List (SessionEvent J.Object J.Method)) :
    J.objects state (first ++ second) =
      J.objects state first ++ J.objects (J.hearAll state first) second := by
  rw [objects, answers_append, List.filterMap_append]
  rfl

theorem strings_append (state : J.State) (first second : List (SessionEvent J.Object J.Method)) :
    J.strings state (first ++ second) =
      J.strings state first ++ J.strings (J.hearAll state first) second := by
  rw [strings, answers_append, List.filterMap_append]
  rfl

end Machine

/-- The reference that an event deletes. -/
def SessionEvent.deleted? {Object Method : Type} : SessionEvent Object Method → Option Ref
  | .deleted ref => some ref
  | _ => none

def Handle.IsLive {Object : Type} (handle : Handle Object) : Prop :=
  ∃ object, handle = .live object

def Argument.handle? {Object : Type} : Argument Object → Option (Handle Object)
  | .object handle => some handle
  | _ => none

/-- The references that a call is given. -/
def Call.handles {Object Method : Type} {shape : Shape} :
    Call Object Method shape → List (Handle Object)
  | .findClass _ | .newString _ => []
  | .callObject receiver _ arguments | .callStaticObject receiver _ arguments
  | .callVoid receiver _ arguments => receiver :: arguments.filterMap Argument.handle?
  | .methodId cls _ _ | .staticMethodId cls _ _ => [cls]
  | .callInt receiver _ | .callLong receiver _ | .stringChars receiver => [receiver]

/-- A call is given references to objects only: none is null, and none was deleted before. -/
def Call.IsLive {Object Method : Type} {shape : Shape} (call : Call Object Method shape) : Prop :=
  ∀ handle ∈ call.handles, handle.IsLive

/-- What is done to a machine in one go. Characters are released before anything else is done. -/
inductive Deed {Object Method : Type} : List (SessionEvent Object Method) → Prop
  | call {shape : Shape} {call : Call Object Method shape} (hlive : call.IsLive) (pending : Bool) :
      Deed [.called shape call pending]
  | obtain {call : Call Object Method .object} (hlive : call.IsLive) (pending : Bool) (ref : Ref) :
      Deed [.called .object call pending, .obtained ref]
  | read {call : Call Object Method .chars} (hlive : call.IsLive) (pending : Bool) (index : Nat) :
      Deed [.called .chars call pending, .charsHeld index, .charsReleased index]
  | delete (ref : Ref) : Deed [.deleted ref]
  | describe : Deed [.described]
  | clear : Deed [.cleared]

/-- Some events are deeds, one after another. -/
def AreDeeds {Object Method : Type} (made : List (SessionEvent Object Method)) : Prop :=
  ∃ deeds : List (List (SessionEvent Object Method)),
    made = deeds.flatten ∧ ∀ deed ∈ deeds, Deed deed

theorem Deed.areDeeds {Object Method : Type} {deed : List (SessionEvent Object Method)}
    (hdeed : Deed deed) : AreDeeds deed :=
  ⟨[deed], List.flatten_singleton.symm, fun _ hmem => List.mem_singleton.mp hmem ▸ hdeed⟩

theorem AreDeeds.append {Object Method : Type} {first second : List (SessionEvent Object Method)}
    (hfirst : AreDeeds first) (hsecond : AreDeeds second) : AreDeeds (first ++ second) := by
  obtain ⟨early, rfl, hearly⟩ := hfirst
  obtain ⟨late, rfl, hlate⟩ := hsecond
  exact ⟨early ++ late, List.flatten_append.symm, List.forall_mem_append.mpr ⟨hearly, hlate⟩⟩

/-! ## Ledgers -/

section Ledger

variable {Object : Type}

/-- The entries of objects whose references were each deleted once. -/
def paid (objects : List Object) : List (RefEntry Object) :=
  objects.map fun object => ⟨object, 1⟩

@[simp]
theorem length_paid (objects : List Object) : (paid objects).length = objects.length :=
  List.length_map _

@[simp]
theorem paid_append (early late : List Object) :
    paid (early ++ late) = paid early ++ paid late :=
  List.map_append

/-- Objects were handed out since there were the first entries, and all of them are paid for but
one at most. -/
inductive Ledger :
    List (RefEntry Object) → List Object → Option Ref → List (RefEntry Object) → Prop
  | settled (refs : List (RefEntry Object)) (objects : List Object) :
      Ledger refs objects none (refs ++ paid objects)
  | owing (refs : List (RefEntry Object)) (early : List Object) (object : Object)
      (late : List Object) :
      Ledger refs (early ++ object :: late) (some (refs ++ paid early).length)
        ((refs ++ paid early) ++ ⟨object, 0⟩ :: paid late)

theorem modify_length_append {β : Type} (early late : List β) (item : β) (change : β → β) :
    (early ++ item :: late).modify early.length change = early ++ change item :: late := by
  induction early with
  | nil => rfl
  | cons head early ih => exact congrArg (head :: ·) ih

namespace Ledger

variable {refs other between after : List (RefEntry Object)} {first second : List Object}
  {owed : Option Ref} {ref : Ref}

theorem isPrefix (hledger : Ledger refs first owed after) : refs <+: after := by
  cases hledger with
  | settled => exact List.prefix_append _ _
  | owing => exact (List.prefix_append _ _).trans (List.prefix_append _ _)

theorem length_eq (hledger : Ledger refs first owed after) :
    after.length = refs.length + first.length := by
  cases hledger <;> simp

theorem eq_of_settled (hledger : Ledger refs first none after) : after = refs ++ paid first := by
  cases hledger
  rfl

/-- What is owed was not deleted. -/
theorem getElem?_owed (hledger : Ledger refs first (some ref) after) :
    ∃ object, after[ref]? = some ⟨object, 0⟩ := by
  cases hledger with
  | owing early object late =>
      refine ⟨object, ?_⟩
      rw [List.getElem?_append_right le_rfl, Nat.sub_self]
      rfl

/-- It does not matter what the entries of before are, but only how many there are. -/
theorem elsewhere (hledger : Ledger refs first owed after) (hlength : other.length = refs.length) :
    ∃ more, after = refs ++ more ∧ Ledger other first owed (other ++ more) := by
  cases hledger with
  | settled => exact ⟨_, rfl, .settled other first⟩
  | owing early object late =>
      refine ⟨_, List.append_assoc _ _ _, ?_⟩
      have hmoved := Ledger.owing other early object late
      rwa [List.length_append, hlength, ← List.length_append, List.append_assoc] at hmoved

theorem trans (hfirst : Ledger refs first none between)
    (hsecond : Ledger between second owed after) : Ledger refs (first ++ second) owed after := by
  cases hfirst with
  | settled =>
      cases hsecond with
      | settled =>
          rw [List.append_assoc, ← paid_append]
          exact .settled refs _
      | owing early object late =>
          rw [List.append_assoc refs, ← paid_append, ← List.append_assoc first]
          exact .owing refs (first ++ early) object late

/-- A debt is paid behind whatever was done in the meantime. -/
theorem pay (hfirst : Ledger refs first (some ref) between)
    (hsecond : Ledger between second owed after) :
    Ledger refs (first ++ second) owed
      (after.modify ref fun entry => ⟨entry.object, entry.deletions + 1⟩) := by
  have hlength : (refs ++ paid first).length = between.length := by
    rw [hfirst.length_eq, List.length_append, length_paid]
  obtain ⟨more, rfl, hlater⟩ := hsecond.elsewhere hlength
  refine (Ledger.settled refs first).trans ?_
  cases hfirst with
  | owing early object late =>
      have hentries : refs ++ paid (early ++ object :: late) =
          refs ++ paid early ++ ⟨object, 1⟩ :: paid late := by simp [paid]
      rw [List.append_assoc _ _ more, List.cons_append, modify_length_append, hentries]
      rwa [hentries, List.append_assoc _ _ more] at hlater

theorem owing_last (refs : List (RefEntry Object)) (object : Object) :
    Ledger refs [object] (some refs.length) (refs ++ [⟨object, 0⟩]) := by
  simpa [paid] using Ledger.owing refs [] object []

end Ledger

end Ledger

/-! ## Accounts of what was done -/

/-- The account of some events between two sessions, when all that they owe is one reference at
most. -/
structure Account (before after : Session J) (made : List (SessionEvent J.Object J.Method))
    (owed : Option Ref) : Prop where
  trace : after.trace = before.trace ++ made
  state : after.state = J.hearAll before.state made
  deeds : AreDeeds made
  refs : Ledger before.refs (J.objects before.state made) owed after.refs
  /-- What is owed and what was deleted are the references that were handed out. -/
  deleted : (owed.toList ++ made.filterMap SessionEvent.deleted?).Perm
    (List.range' before.refs.length (J.objects before.state made).length)
  chars : after.chars = before.chars ++ (J.strings before.state made).map fun _ => 1

namespace Account

variable {before between after : Session J}
  {first second : List (SessionEvent J.Object J.Method)} {owed : Option Ref} {ref : Ref}

theorem refl (session : Session J) : Account session session [] none where
  trace := (List.append_nil _).symm
  state := rfl
  deeds := ⟨[], rfl, List.forall_mem_nil _⟩
  refs := by simpa [paid, Machine.objects, Machine.answers] using Ledger.settled session.refs []
  deleted := .refl _
  chars := (List.append_nil _).symm

theorem trans (hfirst : Account before between first none)
    (hsecond : Account between after second owed) :
    Account before after (first ++ second) owed where
  trace := by rw [hsecond.trace, hfirst.trace, List.append_assoc]
  state := by rw [hsecond.state, hfirst.state, Machine.hearAll_append]
  deeds := hfirst.deeds.append hsecond.deeds
  refs := by
    rw [Machine.objects_append, ← hfirst.state]
    exact hfirst.refs.trans hsecond.refs
  deleted := by
    have hearly := hfirst.deleted
    have hlate := hsecond.deleted
    rw [hfirst.refs.length_eq] at hlate
    rw [Machine.objects_append, ← hfirst.state, List.length_append, ← List.range'_append_1,
      List.filterMap_append]
    exact (List.perm_append_comm_assoc _ _ _).trans (hearly.append hlate)
  chars := by
    rw [hsecond.chars, hfirst.chars, Machine.strings_append, ← hfirst.state, List.map_append,
      List.append_assoc]

/-- The reference that the first events owe is deleted behind the second ones. -/
theorem pay (hfirst : Account before between first (some ref))
    (hsecond : Account between after second owed) :
    Account before (after.deleteRef ref) (first ++ second ++ [.deleted ref]) owed := by
  have hobjects : J.objects before.state (first ++ second ++ [.deleted ref]) =
      J.objects before.state first ++ J.objects between.state second := by
    rw [Machine.objects_append, Machine.objects_append, ← hfirst.state]
    exact List.append_nil _
  have hstrings : J.strings before.state (first ++ second ++ [.deleted ref]) =
      J.strings before.state first ++ J.strings between.state second := by
    rw [Machine.strings_append, Machine.strings_append, ← hfirst.state]
    exact List.append_nil _
  constructor
  · change after.trace ++ [.deleted ref] = _
    rw [hsecond.trace, hfirst.trace, List.append_assoc, List.append_assoc, List.append_assoc]
  · rw [Machine.hearAll_append, Machine.hearAll_append, ← hfirst.state, ← hsecond.state]
    rfl
  · exact (hfirst.deeds.append hsecond.deeds).append (Deed.delete ref).areDeeds
  · rw [hobjects]
    exact hfirst.refs.pay hsecond.refs
  · have hearly := hfirst.deleted
    have hlate := hsecond.deleted
    rw [hfirst.refs.length_eq] at hlate
    rw [hobjects, List.length_append, ← List.range'_append_1]
    refine List.Perm.trans ?_ (hearly.append hlate)
    rw [List.filterMap_append, List.filterMap_append, List.perm_iff_count]
    intro deleted
    have hlast : ([.deleted ref] : List (SessionEvent J.Object J.Method)).filterMap
        SessionEvent.deleted? = [ref] := rfl
    rw [hlast]
    simp only [List.count_append, Option.toList_some]
    omega
  · rw [hstrings, List.map_append]
    change after.chars = _
    rw [hsecond.chars, hfirst.chars, List.append_assoc]

end Account

end ExhaustionGuard.Jvm
