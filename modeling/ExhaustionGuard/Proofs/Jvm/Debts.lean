import ExhaustionGuard.Proofs.Jvm.Ledger

/-! # Debts of an operation

An operation hands on one reference at most, and owes nothing else. What follows
it may use that reference and has to delete it; a debt is paid wherever the rest
breaks off. The rules for sequences of operations and the accounts of single calls
are here, whatever the machine answers.
-/

namespace ExhaustionGuard.Jvm

variable {J : Machine} {α β : Type}

/-- The session knows the reference, and it was not deleted. -/
def Session.IsLive (session : Session J) (ref : Ref) : Prop :=
  (session.handle (some ref)).IsLive

theorem Session.IsLive.mono {before after : Session J} {ref : Ref} (hlive : before.IsLive ref)
    (hrefs : before.refs <+: after.refs) : after.IsLive ref := by
  obtain ⟨object, hobject⟩ := hlive
  exact ⟨object, handle_mono hrefs hobject⟩

/-- What is owed when an operation is over: the reference that its value stands for, and nothing if
it failed. -/
def owedBy (kept : α → Option Ref) : Except HostFault α → Option Ref
  | .ok value => kept value
  | .error _ => none

/-- How an operation went that hands on one reference at most. -/
def Owes (kept : α → Option Ref) (before : Session J) (result : Except HostFault α × Session J) :
    Prop :=
  ∃ made, Account before result.2 made (owedBy kept result.1)

/-- How an operation went that owes nothing in the end. -/
abbrev Settles (before : Session J) (result : Except HostFault α × Session J) : Prop :=
  Owes (fun _ => none) before result

/-! ## Rules -/

namespace Account

variable {before after : Session J} {made : List (SessionEvent J.Object J.Method)}
  {owed : Option Ref} {ref : Ref}

theorem isPrefix (account : Account before after made owed) : before.refs <+: after.refs :=
  account.refs.isPrefix

theorem isLive (account : Account before after made (some ref)) : after.IsLive ref := by
  obtain ⟨object, hobject⟩ := account.refs.getElem?_owed
  refine ⟨object, ?_⟩
  rw [Session.handle, hobject]
  rfl

end Account

namespace Owes

variable {before : Session J} {kept : α → Option Ref} {later : β → Option Ref}
  {first : Beans.BeanM J α} {next : α → Beans.BeanM J β}

theorem of_ok {value : α} (hvalue : kept value = none) :
    Owes kept before (.ok value, before) :=
  ⟨[], by simpa only [owedBy, hvalue] using Account.refl before⟩

theorem of_error (fault : HostFault) : Owes kept before (.error fault, before) :=
  ⟨[], .refl before⟩

/-- Nothing was owed before the rest. -/
theorem after_account {between : Session J} {made : List (SessionEvent J.Object J.Method)}
    {result : Except HostFault α × Session J} (haccount : Account before between made none)
    (hrest : Owes kept between result) : Owes kept before result := by
  obtain ⟨rest, hrest⟩ := hrest
  exact ⟨made ++ rest, haccount.trans hrest⟩

/-- If the first part hands on a reference, what follows is the use of it, and it is deleted behind
its use. -/
theorem bindOwed (hfirst : Owes kept before (first.finish before))
    (hfree : ∀ value after, kept value = none → before.refs <+: after.refs →
      Owes later after ((next value).finish after))
    (howing : ∀ value ref after, kept value = some ref → after.IsLive ref →
      before.refs <+: after.refs → ∃ use, next value = Beans.withRef ref use ∧
        Owes later after (use.finish after)) :
    Owes later before ((first >>= next).finish before) := by
  rw [HostM.finish_bind]
  obtain ⟨made, haccount⟩ := hfirst
  cases hrun : first.finish before with
  | mk ending between =>
      rw [hrun] at haccount
      cases ending with
      | error fault => exact ⟨made, haccount⟩
      | ok value =>
          change Owes later before ((next value).finish between)
          cases hkept : kept value with
          | none =>
              rw [owedBy, hkept] at haccount
              exact .after_account haccount (hfree value between hkept haccount.isPrefix)
          | some ref =>
              rw [owedBy, hkept] at haccount
              obtain ⟨use, hnext, rest, hrest⟩ :=
                howing value ref between hkept haccount.isLive haccount.isPrefix
              refine ⟨made ++ rest ++ [.deleted ref], ?_⟩
              rw [hnext]
              exact haccount.pay hrest

theorem bind (hfirst : Settles before (first.finish before))
    (hnext : ∀ value after, before.refs <+: after.refs →
      Owes later after ((next value).finish after)) :
    Owes later before ((first >>= next).finish before) :=
  hfirst.bindOwed (fun value after _ hrefs => hnext value after hrefs)
    (fun _ _ _ hkept => nomatch hkept)

theorem bindRef {first : Beans.BeanM J Ref} {use : Ref → Beans.BeanM J β}
    (hfirst : Owes some before (first.finish before))
    (huse : ∀ ref after, after.IsLive ref → before.refs <+: after.refs →
      Owes later after ((use ref).finish after)) :
    Owes later before ((first >>= fun ref => Beans.withRef ref (use ref)).finish before) := by
  refine hfirst.bindOwed (fun _ _ hkept => nomatch hkept) fun value ref after hkept hlive hrefs => ?_
  obtain rfl := Option.some.inj hkept
  exact ⟨use value, rfl, huse value after hlive hrefs⟩

/-- There may be nothing to use. -/
theorem bindRef? {first : Beans.BeanM J (Option Ref)} {next : Option Ref → Beans.BeanM J β}
    {use : Ref → Beans.BeanM J β} (hfirst : Owes id before (first.finish before))
    (hnone : ∀ after, before.refs <+: after.refs → Owes later after ((next none).finish after))
    (hsome : ∀ ref, next (some ref) = Beans.withRef ref (use ref))
    (huse : ∀ ref after, after.IsLive ref → before.refs <+: after.refs →
      Owes later after ((use ref).finish after)) :
    Owes later before ((first >>= next).finish before) := by
  refine hfirst.bindOwed (fun value after hkept hrefs => ?_)
    fun value ref after hkept hlive hrefs => ?_
  · obtain rfl : value = none := hkept
    exact hnone after hrefs
  · obtain rfl : value = some ref := hkept
    exact ⟨use ref, hsome ref, huse ref after hlive hrefs⟩

end Owes

/-! ## Single calls -/

theorem account_relieved (session : Session J) :
    Account session session.relieved [.described, .cleared] none where
  trace := (Course.relieved session).trace
  state := rfl
  deeds := Deed.describe.areDeeds.append Deed.clear.areDeeds
  refs := (Account.refl session).refs
  deleted := .refl _
  chars := (List.append_nil _).symm

/-- A call that hands out nothing. -/
theorem account_call {shape : Shape} (call : Session J → Call J.Object J.Method shape)
    {session : Session J} (hlive : (call session).IsLive)
    (hobject : Answer.object? (J := J) ⟨shape, (J.answer (call session) session.state).1⟩ = none)
    (hchars : Answer.chars? (J := J) ⟨shape, (J.answer (call session) session.state).1⟩ = none) :
    Account session (SessionM.call call session).2
      [.called shape (call session) session.pending] none := by
  have hobjects : J.objects session.state [.called shape (call session) session.pending] = [] := by
    simp [Machine.objects, Machine.answers, hobject]
  have hstrings : J.strings session.state [.called shape (call session) session.pending] = [] := by
    simp [Machine.strings, Machine.answers, hchars]
  refine ⟨rfl, rfl, (Deed.call hlive _).areDeeds, ?_, ?_, ?_⟩
  · rw [hobjects]
    exact (Account.refl session).refs
  · rw [hobjects]
    exact .refl _
  · rw [hstrings]
    exact (List.append_nil _).symm

/-- An object comes as a reference that is owed. -/
theorem account_obtain (object : Session J → Call J.Object J.Method .object) {session : Session J}
    (hlive : (object session).IsLive) :
    ∃ made, Account session (SessionM.obtain object session).2 made
      (SessionM.obtain object session).1 := by
  rw [run_obtain]
  split
  next hvalue => exact ⟨_, account_call object hlive hvalue rfl⟩
  next found hvalue =>
    have hobjects : J.objects session.state
        [.called .object (object session) session.pending, .obtained session.refs.length] =
          [found] := by
      simp [Machine.objects, Machine.answers, Answer.object?, hvalue]
    have hstrings : J.strings session.state
        [.called .object (object session) session.pending, .obtained session.refs.length] =
          [] := by
      simp [Machine.strings, Machine.answers, Answer.chars?]
    refine ⟨[.called .object (object session) session.pending, .obtained session.refs.length],
      List.append_assoc _ _ _, rfl, (Deed.obtain hlive _ _).areDeeds, ?_, ?_, ?_⟩
    · rw [hobjects]
      exact Ledger.owing_last session.refs found
    · rw [hobjects]
      exact .refl _
    · rw [hstrings]
      exact (List.append_nil _).symm

theorem owes_obtain (object : Session J → Call J.Object J.Method .object) {session : Session J}
    (hlive : (object session).IsLive) :
    Owes id session ((Beans.inSession (SessionM.obtain object)).finish session) :=
  account_obtain object hlive

/-- A call for something that need not be given back. -/
theorem settles_call {shape : Shape} (call : Session J → Call J.Object J.Method shape)
    (hshape : shape ≠ .object ∧ shape ≠ .chars) {session : Session J}
    (hlive : (call session).IsLive) :
    Settles session ((Beans.inSession (SessionM.call call)).finish session) := by
  refine ⟨_, account_call call hlive ?_ ?_⟩
  · cases shape with
    | object => exact absurd rfl hshape.1
    | _ => rfl
  · cases shape with
    | chars => exact absurd rfl hshape.2
    | _ => rfl

/-- The characters of a string are released as soon as they are read. -/
theorem settles_readString {string : Ref} {session : Session J} (hlive : session.IsLive string) :
    Settles session ((Beans.inSession (SessionM.readString (some string))).finish session) := by
  have hcall : (charsCall string session).IsLive := List.forall_mem_singleton.mpr hlive
  change ∃ made, Account session (SessionM.readString (some string) session).2 made none
  rw [run_readString]
  cases hvalue : (SessionM.call (charsCall string) session).1 with
  | none => exact ⟨_, account_call (charsCall string) hcall rfl hvalue⟩
  | some bytes =>
      let made : List (SessionEvent J.Object J.Method) :=
        [.called .chars (charsCall string session) session.pending,
          .charsHeld session.chars.length, .charsReleased session.chars.length]
      have hobjects : J.objects session.state made = [] := rfl
      have hread : (J.answer (charsCall string session) session.state).1.value = some bytes :=
        hvalue
      have hstrings : J.strings session.state made = [bytes] := by
        simp [made, Machine.strings, Machine.answers, Answer.chars?, hread]
      refine ⟨made, ?_, rfl, (Deed.read hcall _ _).areDeeds, ?_, ?_, ?_⟩
      · exact (passage_afterReading _).trace.trans (List.append_assoc _ _ _)
      · rw [hobjects]
        exact (Account.refl session).refs
      · rw [hobjects]
        exact .refl _
      · rw [hstrings]
        change (session.chars ++ [0]).modify session.chars.length (· + 1) = _
        rw [modify_length_append]
        rfl

theorem settles_takeException (session : Session J) :
    Settles session ((discard (Beans.inSession SessionM.takeException)).finish session) := by
  rw [finish_takeException]
  cases session.pending with
  | true => exact ⟨_, account_relieved session⟩
  | false => exact .of_ok rfl

theorem settles_check (what : String) (session : Session J) :
    Settles session ((Beans.check what).finish session) := by
  rw [finish_check]
  cases session.pending with
  | true => exact ⟨_, account_relieved session⟩
  | false => exact .of_ok rfl

/-- A look-up that found nothing may have left an exception, which is taken off. -/
theorem settles_missing (reason : JavaFault) (kept : α → Option Ref) (session : Session J) :
    Owes kept session ((do
      discard (Beans.inSession SessionM.takeException)
      Beans.fault reason : Beans.BeanM J α).finish session) :=
  (settles_takeException session).bind fun _ _ _ => .of_error _

/-- An object that came back is handed on, or deleted if an exception came with it. -/
theorem owes_returned (object : Session J → Call J.Object J.Method .object) (what : String)
    {session : Session J} (hlive : (object session).IsLive) :
    Owes some session ((Beans.inSession (SessionM.obtain object) >>= fun found =>
      Beans.returned found what).finish session) := by
  obtain ⟨made, haccount⟩ := account_obtain object hlive
  rw [finish_inSession_bind, finish_returned]
  cases hfound : (SessionM.obtain object session).1 with
  | none =>
      rw [hfound] at haccount
      refine .after_account haccount ?_
      cases (SessionM.obtain object session).2.pending with
      | true => exact ⟨_, account_relieved _⟩
      | false => exact .of_error _
  | some ref =>
      rw [hfound] at haccount
      cases (SessionM.obtain object session).2.pending with
      | true => exact ⟨_, haccount.pay (account_relieved _)⟩
      | false => exact ⟨made, haccount⟩

end ExhaustionGuard.Jvm
