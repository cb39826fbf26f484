import ExhaustionGuard.Proofs.Host.InMemory
import ExhaustionGuard.Proofs.MemoryReport.Lines
import ExhaustionGuard.Proofs.Sink.Offers
import ExhaustionGuard.Sink

/-! # Memory reports are whole or missing

The three questions about memory are asked before anything is printed, and each
is asked even if an earlier one was not answered. If all answers are there the
whole report is written and flushed; otherwise the output is not touched, and
the log names the error of the first question that was not answered.
-/

namespace ExhaustionGuard

open Effect

variable {σ κ : Type}

/-! ## Outputs that take everything -/

namespace Sink

/-- A sink that refuses nothing while it is calm, and no write disturbs it. -/
structure TakesAll (sink : Sink κ) (calm : κ → Prop) : Prop where
  write : ∀ bytes output, calm output →
    (sink.write bytes output).1.refusal = none ∧ calm (sink.write bytes output).2
  flush : ∀ output, calm output → (sink.flush output).1 = none

/-- The output after it was given pieces. -/
def given (sink : Sink κ) (pieces : List Text.Bytes) (output : κ) : κ :=
  pieces.foldl (fun output piece => (sink.write piece output).2) output

/-- A calm sink takes all that it is offered. -/
theorem TakesAll.offer_eq {sink : Sink κ} {calm : κ → Prop} (htakes : sink.TakesAll calm)
    (pieces : List Text.Bytes) {output : κ} (hcalm : calm output) :
    let given := pieces.filter (· ≠ [])
    sink.offer pieces output = ⟨none, given, sink.given given output⟩ ∧
      calm (sink.given given output) := by
  dsimp only
  induction pieces generalizing output with
  | nil => exact ⟨rfl, hcalm⟩
  | cons piece rest ih =>
      by_cases hpiece : piece = []
      · simpa [offer, hpiece] using ih hcalm
      · obtain ⟨htaken, hstays⟩ := htakes.write piece output hcalm
        obtain ⟨hoffer, hlast⟩ := ih hstays
        rw [offer, if_neg hpiece, htaken, List.filter_cons_of_pos (by simpa using hpiece)]
        exact ⟨by rw [hoffer]; rfl, hlast⟩

end Sink

theorem LimitedSink.takesAll : LimitedSink.operations.TakesAll fun output =>
    output.room = none ∧ output.flushFails = false where
  write bytes output hcalm := by
    have hwrite : LimitedSink.operations.write bytes output = (⟨bytes.length, none⟩, output) := by
      change LimitedSink.write bytes output = _
      rw [LimitedSink.write, hcalm.1]
    rw [hwrite]
    exact ⟨rfl, hcalm⟩
  flush output hcalm := by
    change (if output.flushFails then _ else _) = none
    rw [hcalm.2]
    rfl

/-! ## Questions -/

/-- The answers of a host to the questions about memory, asked one after another. -/
def MemoryHost.Answers (host : MemoryHost σ) (before : σ)
    (heap nonHeap : Except HostError MemoryUsage) (pools : Except HostError (List PoolUsage))
    (after : σ) : Prop :=
  ∃ first second, host.heapUsage.finish before = (heap.mapError .failed, first) ∧
    host.nonHeapUsage.finish first = (nonHeap.mapError .failed, second) ∧
    host.pools.finish second = (pools.mapError .failed, after)

/-- A question is noted, asked once, and its answer handed on. -/
theorem World.run_question_bind {α β : Type} {operation : HostM σ α} {answer : Except HostError α}
    {world : World σ κ} {after : σ}
    (hfinish : operation.finish world.host = (answer.mapError .failed, after))
    (query : MemoryQuery) (next : Except HostError α → WorldEffect σ κ β) :
    (Effect.emit (.queried query) >>= fun _ => World.attempt operation >>= next).run world =
      ⟨((next answer).run { world with host := after }).ending,
        ((next answer).run { world with host := after }).state,
        .queried query :: ((next answer).run { world with host := after }).trace⟩ := by
  have hattempt : (World.attempt operation).run world =
      ⟨.ok answer, { world with host := after }, []⟩ := by
    rw [World.run_attempt, hfinish]
    cases answer <;> rfl
  have hemit : (Effect.emit (.queried query) : WorldEffect σ κ Unit).run world =
      ⟨.ok (), world, [.queried query]⟩ := rfl
  rw [run_bind_of_ok (by rw [hemit]), hemit, run_bind_of_ok (by rw [hattempt]), hattempt]
  rfl

namespace Action

variable {around : Surroundings σ κ}

/-- What is left by asking each question once. -/
def questions : List Event :=
  [.queried .heap, .queried .nonHeap, .queried .pools]

/-- What three answers come to together: the first error among them, in the order of the questions,
or all their values. -/
inductive Joined : Except HostError MemoryUsage → Except HostError MemoryUsage →
    Except HostError (List PoolUsage) →
    Except HostError (MemoryUsage × MemoryUsage × List PoolUsage) → Prop
  | heap {error nonHeap pools} : Joined (.error error) nonHeap pools (.error error)
  | nonHeap {heap error pools} : Joined (.ok heap) (.error error) pools (.error error)
  | pools {heap nonHeap error} : Joined (.ok heap) (.ok nonHeap) (.error error) (.error error)
  | all {heap nonHeap pools} :
      Joined (.ok heap) (.ok nonHeap) (.ok pools) (.ok (heap, nonHeap, pools))

variable {heap nonHeap : Except HostError MemoryUsage} {pools : Except HostError (List PoolUsage)}

theorem Joined.unique {first second : Except HostError (MemoryUsage × MemoryUsage × List PoolUsage)}
    (hfirst : Joined heap nonHeap pools first) (hsecond : Joined heap nonHeap pools second) :
    first = second := by
  cases hfirst <;> cases hsecond <;> rfl

/-- Each question is asked once and in order; only then are the answers looked at. -/
theorem run_queryMemory {after : σ} {world : World σ κ}
    (hanswers : around.host.memory.Answers world.host heap nonHeap pools after) :
    ∃ answer, Joined heap nonHeap pools answer ∧
      (queryMemory around).run world = ⟨.ok answer, { world with host := after }, questions⟩ := by
  obtain ⟨first, second, hheap, hnonHeap, hpools⟩ := hanswers
  rw [queryMemory, World.run_question_bind hheap, World.run_question_bind hnonHeap,
    World.run_question_bind hpools]
  cases heap with
  | error error => exact ⟨_, .heap, rfl⟩
  | ok heap =>
      cases nonHeap with
      | error error => exact ⟨_, .nonHeap, rfl⟩
      | ok nonHeap =>
          cases pools with
          | error error => exact ⟨_, .pools, rfl⟩
          | ok pools => exact ⟨_, .all, rfl⟩

/-! ## The report -/

/-- The lines of a memory report, the heading included. -/
def reportLines (texts : List String) : List String :=
  Surroundings.headingLines "Memory Pools" ++ texts

/-- What follows the questions in the trace, and what becomes of the output, for these answers. -/
inductive Settles (sink : Sink κ) (output : κ) (heap nonHeap : Except HostError MemoryUsage)
    (pools : Except HostError (List PoolUsage)) : List Event → κ → Prop
  /-- One warning about the first error, and nothing for the output. -/
  | missing {error} : Joined heap nonHeap pools (.error error) →
      Settles sink output heap nonHeap pools
        [.logged ⟨.warn, .pools, "cannot query memory usage: " ++ error.message, []⟩] output
  /-- The whole report, in the pieces in which the output gets its lines, and a flush. -/
  | whole {heapUsage nonHeapUsage listing texts pieces} :
      Joined heap nonHeap pools (.ok (heapUsage, nonHeapUsage, listing)) →
      MemoryReport.Reports heapUsage nonHeapUsage listing texts →
      pieces.flatten = ((reportLines texts).map Text.encode).flatten →
      Settles sink output heap nonHeap pools (pieces.map .wrote ++ [.flushed true])
        (sink.flush (sink.given pieces output)).2

namespace Settles

variable {sink : Sink κ} {before after : κ} {rest : List Event}

/-- If an answer is missing, the output is as it was. -/
theorem of_error (settles : Settles sink before heap nonHeap pools rest after) {error : HostError}
    (hjoined : Joined heap nonHeap pools (.error error)) :
    rest = [.logged ⟨.warn, .pools, "cannot query memory usage: " ++ error.message, []⟩] ∧
      after = before := by
  cases settles with
  | missing hother =>
      cases hother.unique hjoined
      exact ⟨rfl, rfl⟩
  | whole hother => cases hother.unique hjoined

/-- If all answers are there, so is the report. -/
theorem of_ok (settles : Settles sink before heap nonHeap pools rest after)
    {heapUsage nonHeapUsage : MemoryUsage} {listing : List PoolUsage}
    (hjoined : Joined heap nonHeap pools (.ok (heapUsage, nonHeapUsage, listing))) :
    ∃ (texts : List String) (pieces : List Text.Bytes),
      MemoryReport.Reports heapUsage nonHeapUsage listing texts ∧
      pieces.flatten = ((reportLines texts).map Text.encode).flatten ∧
      rest = pieces.map .wrote ++ [.flushed true] := by
  cases settles with
  | missing hother => cases hother.unique hjoined
  | whole hother reports hpieces =>
      cases hother.unique hjoined
      exact ⟨_, _, reports, hpieces, rfl⟩

end Settles

/-- A report is written with its heading and flushed. -/
theorem run_report {calm : κ → Prop} (htakes : around.sink.TakesAll calm) (texts : List String)
    (world : World σ κ) (hcalm : calm world.sink) :
    ∃ pieces, pieces.flatten = ((reportLines texts).map Text.encode).flatten ∧
      (around.banner "Memory Pools" >>= fun _ => texts.forM around.write >>= fun _ =>
          around.flush).run world =
        ⟨.ok (), { world with
            sink := (around.sink.flush (around.sink.given pieces world.sink)).2 },
          pieces.map .wrote ++ [.flushed true]⟩ := by
  have lawful : LawfulMonad (WorldEffect σ κ) := lawfulMonad
  have hwhole : (around.banner "Memory Pools" >>= fun _ => texts.forM around.write >>= fun _ =>
      around.flush) = (reportLines texts).forM around.write >>= fun _ => around.flush := by
    rw [around.banner_eq, ← bind_assoc]
    exact congrArg (· >>= fun _ => around.flush) List.forM_append.symm
  have hwrites := around.run_forM_write (reportLines texts) world
  obtain ⟨hoffer, hstays⟩ :=
    htakes.offer_eq (around.sink.piecesOf (reportLines texts)) hcalm
  dsimp only at hwrites
  rw [hoffer] at hwrites
  refine ⟨(around.sink.piecesOf (reportLines texts)).filter (· ≠ []), ?_, ?_⟩
  · have htaken := around.sink.flatten_taken (congrArg Offer.refusal hoffer)
    rwa [hoffer, around.sink.flatten_piecesOf] at htaken
  · rw [hwhole, run_bind_of_ok (by rw [hwrites]; rfl), hwrites, around.run_flush,
      htakes.flush _ hstays]
    rfl

/-- On an output that takes everything the report over memory is whole or missing: each question is
asked once and in order, whatever the others are answered, and then either all of the report
is written and flushed or nothing at all, with one warning about the first error. -/
theorem memoryPools_all_or_nothing (around : Surroundings σ κ) {calm : κ → Prop}
    (htakes : around.sink.TakesAll calm) {event : Exhaustion} (hthreads : event.isThreads = false)
    {world : World σ κ} (hcalm : calm world.sink) {after : σ}
    (hanswers : around.host.memory.Answers world.host heap nonHeap pools after) :
    let run := (act around memoryPools event).run world
    run.ending = .ok () ∧ run.state.host = after ∧ run.state.system = world.system ∧
      ∃ rest, run.trace = questions ++ rest ∧
        Settles around.sink world.sink heap nonHeap pools rest run.state.sink := by
  obtain ⟨answer, hjoined, hquery⟩ := run_queryMemory hanswers
  dsimp only
  rw [act, printMemory, if_neg (by rw [hthreads]; exact Bool.false_ne_true),
    run_bind_of_ok (by rw [hquery]), hquery]
  cases answer with
  | error error => exact ⟨rfl, rfl, rfl, _, rfl, .missing hjoined⟩
  | ok usages =>
      obtain ⟨heapUsage, nonHeapUsage, listing⟩ := usages
      have reports := MemoryReport.reports_lines heapUsage nonHeapUsage listing
      obtain ⟨pieces, hpieces, hreport⟩ :=
        run_report htakes (MemoryReport.lines heapUsage nonHeapUsage listing)
          { world with host := after } hcalm
      dsimp only
      rw [hreport]
      exact ⟨rfl, rfl, rfl, _, rfl, .whole hjoined reports hpieces⟩

/-- A host with a heap and a pool that are nearly full. -/
def nearlyFull : InMemory where
  graph := .empty
  plan := []
  calls := []
  visits := 0
  heapUsage := ⟨8, 90, 96, 100⟩
  nonHeapUsage := ⟨1, 2, 3, -1⟩
  pools := [⟨"Metaspace", ⟨0, 5, 95, 100⟩⟩, ⟨"Code\nCache", ⟨0, -5, 95, 100⟩⟩]

/-- The same host, which answers the first question only. -/
def answersHeapOnly : InMemory :=
  { nearlyFull with plan := [⟨.nonHeapUsage, .failed (.unavailable "sums"), none, none⟩,
      ⟨.pools, .failed (.java .unreadablePoolName), none, none⟩] }

/-- A host and an output that takes everything. -/
def attended (host : InMemory) : World InMemory LimitedSink where
  host := host
  sink := .unlimited
  system := .inMemory ⟨[]⟩ "/" (fun _ => none) ⟨⟨1970, 1, 1⟩, 0, 0, 0, 0, .utc⟩

/-- One host is warned about, with the second question's error, and the other one reported. -/
theorem memoryPools_all_or_nothing_attended :
    let run := fun host : InMemory =>
      (act ⟨InMemory.host, LimitedSink.operations⟩ memoryPools .javaHeap).run (attended host)
    ((run answersHeapOnly).ending = .ok () ∧
      (run answersHeapOnly).state.host.calls = [.pools, .nonHeapUsage, .heapUsage] ∧
      (run answersHeapOnly).trace = questions ++ [.logged ⟨.warn, .pools,
        "cannot query memory usage: host capability unavailable: sums", []⟩]) ∧
    (run nearlyFull).ending = .ok () ∧
      (run nearlyFull).state.host.calls = [.pools, .nonHeapUsage, .heapUsage] ∧
      ∃ (texts : List String) (pieces : List Text.Bytes),
        MemoryReport.Reports nearlyFull.heapUsage nearlyFull.nonHeapUsage nearlyFull.pools texts ∧
          pieces.flatten = ((reportLines texts).map Text.encode).flatten ∧
          (run nearlyFull).trace = questions ++ (pieces.map .wrote ++ [.flushed true]) := by
  have hthreads : Exhaustion.javaHeap.isThreads = false := by decide
  have hcalm : ∀ host, (attended host).sink.room = none ∧ (attended host).sink.flushFails = false :=
    fun _ => ⟨rfl, rfl⟩
  have hanswers : InMemory.memory.Answers answersHeapOnly (.ok nearlyFull.heapUsage)
      (.error (.unavailable "sums")) (.error (.java .unreadablePoolName))
      { answersHeapOnly with calls := [.pools, .nonHeapUsage, .heapUsage] } :=
    ⟨_, _, rfl, rfl, rfl⟩
  have hanswers' : InMemory.memory.Answers nearlyFull (.ok nearlyFull.heapUsage)
      (.ok nearlyFull.nonHeapUsage) (.ok nearlyFull.pools)
      { nearlyFull with calls := [.pools, .nonHeapUsage, .heapUsage] } :=
    ⟨_, _, rfl, rfl, rfl⟩
  have hheapOnly := memoryPools_all_or_nothing ⟨InMemory.host, LimitedSink.operations⟩
    LimitedSink.takesAll hthreads (hcalm answersHeapOnly) hanswers
  have hnearlyFull := memoryPools_all_or_nothing ⟨InMemory.host, LimitedSink.operations⟩
    LimitedSink.takesAll hthreads (hcalm nearlyFull) hanswers'
  dsimp only at hheapOnly hnearlyFull ⊢
  obtain ⟨hend, hhost, -, rest, htrace, hsettles⟩ := hheapOnly
  obtain ⟨hend', hhost', -, rest', htrace', hsettles'⟩ := hnearlyFull
  obtain ⟨rfl, -⟩ := hsettles.of_error .nonHeap
  obtain ⟨texts, pieces, reports, hpieces, rfl⟩ := hsettles'.of_ok .all
  exact ⟨⟨hend, by rw [hhost], htrace⟩, hend', by rw [hhost'], texts, pieces, reports, hpieces,
    htrace'⟩

end Action

end ExhaustionGuard
