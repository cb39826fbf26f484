import ExhaustionGuard.Proofs.Action.MemoryPools

/-! # Reports over other hosts

What an action does with its output does not depend on the host, but on what the
host answers. Two hosts that answer the questions about memory alike get the
same report, on any output.
-/

namespace ExhaustionGuard

open Effect

variable {σ τ κ α β : Type}

/-- Two runs that differ at most in the states of their hosts. -/
structure SameButHost (left : Run (World σ κ) α) (right : Run (World τ κ) α) : Prop where
  ending : left.ending = right.ending
  sink : left.state.sink = right.state.sink
  system : left.state.system = right.state.system
  trace : left.trace = right.trace

/-- Computations over two hosts that do the same from the same output and system. -/
def DoTheSame (left : WorldEffect σ κ α) (right : WorldEffect τ κ α) : Prop :=
  ∀ host other output system,
    SameButHost (left.run ⟨host, output, system⟩) (right.run ⟨other, output, system⟩)

theorem SameButHost.bind {left : WorldEffect σ κ α} {right : WorldEffect τ κ α}
    {next : α → WorldEffect σ κ β} {later : α → WorldEffect τ κ β} {world : World σ κ}
    {other : World τ κ} (hfirst : SameButHost (left.run world) (right.run other))
    (hnext : ∀ value, DoTheSame (next value) (later value)) :
    SameButHost ((left >>= next).run world) ((right >>= later).run other) := by
  obtain ⟨hending, hsink, hsystem, htrace⟩ := hfirst
  rw [run_bind, run_bind]
  rcases hleft : left.run world with ⟨ending, ⟨host, output, system⟩, trace⟩
  rcases hright : right.run other with ⟨ending', ⟨host', output', system'⟩, trace'⟩
  rw [hleft, hright] at hending hsink hsystem htrace
  cases hending
  cases hsink
  cases hsystem
  cases htrace
  cases ending with
  | error reason => exact ⟨rfl, rfl, rfl, rfl⟩
  | ok value =>
      have hsecond := hnext value host host' output system
      exact ⟨hsecond.ending, hsecond.sink, hsecond.system, congrArg (trace ++ ·) hsecond.trace⟩

namespace DoTheSame

theorem bind {left : WorldEffect σ κ α} {right : WorldEffect τ κ α}
    {next : α → WorldEffect σ κ β} {later : α → WorldEffect τ κ β} (hfirst : DoTheSame left right)
    (hnext : ∀ value, DoTheSame (next value) (later value)) :
    DoTheSame (left >>= next) (right >>= later) :=
  fun host other output system => (hfirst host other output system).bind hnext

theorem pure (value : α) :
    DoTheSame (Pure.pure value : WorldEffect σ κ α) (Pure.pure value : WorldEffect τ κ α) :=
  fun _ _ _ _ => ⟨rfl, rfl, rfl, rfl⟩

theorem fail (error : ActionError) :
    DoTheSame (Effect.fail error : WorldEffect σ κ α) (Effect.fail error : WorldEffect τ κ α) :=
  fun _ _ _ _ => ⟨rfl, rfl, rfl, rfl⟩

theorem log (line : LogLine) :
    DoTheSame (Effect.log line : WorldEffect σ κ Unit) (Effect.log line : WorldEffect τ κ Unit) :=
  fun _ _ _ _ => ⟨rfl, rfl, rfl, rfl⟩

theorem forM {ι : Type} {left : ι → WorldEffect σ κ PUnit} {right : ι → WorldEffect τ κ PUnit}
    (hbody : ∀ item, DoTheSame (left item) (right item)) (items : List ι) :
    DoTheSame (items.forM left) (items.forM right) := by
  induction items with
  | nil => exact pure _
  | cons item rest ih => exact (hbody item).bind fun _ => ih

end DoTheSame

namespace Surroundings

variable (left : Host σ) (right : Host τ) (sink : Sink κ)

theorem writeBytes_doTheSame (bytes : Text.Bytes) :
    DoTheSame (writeBytes ⟨left, sink⟩ bytes) (writeBytes ⟨right, sink⟩ bytes) := by
  intro host other output system
  change SameButHost (writeBytes _ bytes _) (writeBytes _ bytes _)
  by_cases hempty : bytes.isEmpty
  · rw [writeBytes, if_pos hempty, writeBytes, if_pos hempty]
    exact ⟨rfl, rfl, rfl, rfl⟩
  · rw [writeBytes, if_neg hempty, writeBytes, if_neg hempty]
    dsimp only
    cases (sink.write bytes output).1.refusal <;> exact ⟨rfl, rfl, rfl, rfl⟩

theorem write_doTheSame (text : String) :
    DoTheSame (write ⟨left, sink⟩ text) (write ⟨right, sink⟩ text) :=
  .forM (writeBytes_doTheSame left right sink) (sink.cutting.pieces text)

theorem banner_doTheSame (title : String) :
    DoTheSame (banner ⟨left, sink⟩ title) (banner ⟨right, sink⟩ title) :=
  (write_doTheSame left right sink _).bind fun _ => write_doTheSame left right sink _

theorem flush_doTheSame : DoTheSame (flush ⟨left, sink⟩) (flush ⟨right, sink⟩) := by
  have htried : DoTheSame (tryFlush ⟨left, sink⟩) (tryFlush ⟨right, sink⟩) :=
    fun _ _ _ _ => ⟨rfl, rfl, rfl, rfl⟩
  refine htried.bind fun refusal => ?_
  cases refusal with
  | none => exact .pure ()
  | some error => exact .fail _

end Surroundings

namespace Action

variable {left : Host σ} {right : Host τ} {heap nonHeap : Except HostError MemoryUsage}
  {pools : Except HostError (List PoolUsage)} {before after : σ} {before' after' : τ}

theorem queryMemory_same (sink : Sink κ)
    (hleft : left.memory.Answers before heap nonHeap pools after)
    (hright : right.memory.Answers before' heap nonHeap pools after') (output : κ)
    (system : System) :
    SameButHost ((queryMemory ⟨left, sink⟩).run ⟨before, output, system⟩)
      ((queryMemory ⟨right, sink⟩).run ⟨before', output, system⟩) := by
  have hasked : ∃ answer, Joined heap nonHeap pools answer ∧
      (queryMemory ⟨left, sink⟩).run ⟨before, output, system⟩ =
        ⟨.ok answer, ⟨after, output, system⟩, questions⟩ := run_queryMemory hleft
  have hasked' : ∃ answer, Joined heap nonHeap pools answer ∧
      (queryMemory ⟨right, sink⟩).run ⟨before', output, system⟩ =
        ⟨.ok answer, ⟨after', output, system⟩, questions⟩ := run_queryMemory hright
  obtain ⟨answer, hjoined, hquery⟩ := hasked
  obtain ⟨answer', hjoined', hquery'⟩ := hasked'
  cases hjoined.unique hjoined'
  rw [hquery, hquery']
  exact ⟨rfl, rfl, rfl, rfl⟩

/-- Hosts with the same answers get the same report, byte for byte. -/
theorem memoryPools_same (sink : Sink κ)
    (hleft : left.memory.Answers before heap nonHeap pools after)
    (hright : right.memory.Answers before' heap nonHeap pools after') (event : Exhaustion)
    (output : κ) (system : System) :
    SameButHost ((act ⟨left, sink⟩ memoryPools event).run ⟨before, output, system⟩)
      ((act ⟨right, sink⟩ memoryPools event).run ⟨before', output, system⟩) := by
  rw [act, act, printMemory, printMemory]
  by_cases hthreads : event.isThreads
  · rw [if_pos hthreads, if_pos hthreads]
    exact DoTheSame.log _ _ _ _ _
  · rw [if_neg hthreads, if_neg hthreads]
    refine (queryMemory_same sink hleft hright output system).bind fun answer => ?_
    cases answer with
    | error error => exact .log _
    | ok usages =>
        refine (Surroundings.banner_doTheSame left right sink _).bind fun _ => ?_
        refine (DoTheSame.forM (Surroundings.write_doTheSame left right sink) _).bind fun _ => ?_
        exact Surroundings.flush_doTheSame left right sink

end Action

end ExhaustionGuard
