import ExhaustionGuard.Host.InMemory
import ExhaustionGuard.Proofs.Pipeline.Turns
import ExhaustionGuard.Proofs.Sink.Room

/-! # Pipelines whose output fills up

The first write that is refused ends the action that made it. From then on the
output has no room, so whatever the later actions do differently because of it,
none of them writes another byte. The output holds the beginning of what an
endless output would hold, and the final signal is sent as ever.
-/

namespace ExhaustionGuard

open Effect

variable {σ φ : Type} (host : Host σ) (outlet : Outlet φ) (event : Exhaustion)

theorem Turn.bytes_trace {κ : Type} (around : Surroundings σ κ) (turn : Turn σ κ) :
    Trace.bytes (turn.trace around event) = Trace.bytes (turn.run around event).trace := by
  rw [Turn.trace, ← List.singleton_append, Trace.bytes_append, Trace.bytes_append,
    Trace.bytes_logged, List.append_nil]
  rfl

namespace Action

variable {host outlet} {action : Action σ (Bounded φ)} {actions : List (Action σ (Bounded φ))}

theorem runsDry_act (hplain : action.IsPlain ⟨host, outlet.sink⟩) :
    RunsDry (action.act ⟨host, outlet.sink⟩ event) :=
  (closed_runsDry host outlet action.MayEmit).act hplain event

/-- An action that finds no room writes nothing and leaves no room. -/
theorem act_of_filled (hplain : action.IsPlain ⟨host, outlet.sink⟩) {world : World σ (Bounded φ)}
    (hfilled : world.sink.room = some 0) :
    Trace.bytes (Turn.run ⟨host, outlet.sink⟩ event ⟨action, world⟩).trace = [] ∧
      (Turn.run ⟨host, outlet.sink⟩ event ⟨action, world⟩).state.sink.room = some 0 := by
  have hcut := (runsDry_act event hplain).cutOff world 0
  rw [World.withRoom_of_room hfilled] at hcut
  unfold Turn.run
  generalize (action.act ⟨host, outlet.sink⟩ event).run world = cut at hcut
  cases hcut with
  | whole hfits =>
      refine ⟨List.length_eq_zero_iff.mp (Nat.le_zero.mp hfits), ?_⟩
      rw [World.room_withRoom, Nat.zero_sub]
  | short error hroom hbytes hending hfilled hrefused => exact ⟨hbytes, hfilled⟩

theorem trail_of_filled (hplain : ∀ action ∈ actions, action.IsPlain ⟨host, outlet.sink⟩)
    {world : World σ (Bounded φ)} (hfilled : world.sink.room = some 0) :
    Trace.bytes (trail ⟨host, outlet.sink⟩ event actions world) = [] ∧
      (leave ⟨host, outlet.sink⟩ event actions world).sink.room = some 0 := by
  induction actions generalizing world with
  | nil => exact ⟨rfl, hfilled⟩
  | cons action rest ih =>
      obtain ⟨hfirst, hrest⟩ := List.forall_mem_cons.mp hplain
      obtain ⟨hbytes, hstill⟩ := act_of_filled event hfirst hfilled
      obtain ⟨hlater, hlast⟩ := ih hrest hstill
      rw [trail_cons, leave_cons, Trace.bytes_append, Turn.bytes_trace, hbytes, hlater]
      exact ⟨rfl, hlast⟩

/-- Actions with so much room, beside the same actions with an endless output. -/
theorem trail_withRoom (hplain : ∀ action ∈ actions, action.IsPlain ⟨host, outlet.sink⟩)
    (world : World σ (Bounded φ)) (room : Nat) :
    Trace.bytes (trail ⟨host, outlet.sink⟩ event actions (world.withRoom (some room))) =
        (Trace.bytes (trail ⟨host, outlet.sink⟩ event actions (world.withRoom none))).take room ∧
      ((Trace.bytes (trail ⟨host, outlet.sink⟩ event actions (world.withRoom none))).length ≤
          room →
        trail ⟨host, outlet.sink⟩ event actions (world.withRoom (some room)) =
          trail ⟨host, outlet.sink⟩ event actions (world.withRoom none)) := by
  induction actions generalizing world room with
  | nil => exact ⟨List.take_nil.symm, fun _ => rfl⟩
  | cons action rest ih =>
      obtain ⟨hfirst, hrest⟩ := List.forall_mem_cons.mp hplain
      have hendless := ((runsDry_act event hfirst).endless world).1
      have hcut := (runsDry_act event hfirst).cutOff world room
      rw [trail_cons, trail_cons, Trace.bytes_append, Trace.bytes_append, Turn.bytes_trace,
        Turn.bytes_trace, List.length_append]
      simp only [Turn.trace, Turn.report, Turn.run]
      generalize (action.act ⟨host, outlet.sink⟩ event).run (world.withRoom (some room)) = cut
        at hcut ⊢
      generalize (action.act ⟨host, outlet.sink⟩ event).run (world.withRoom none) = full
        at hcut hendless ⊢
      cases hcut with
      | whole hfits =>
          -- the later actions find the same world, but for what is left of the room
          obtain ⟨hbytes, hwhole⟩ := ih hrest full.state (room - (Trace.bytes full.trace).length)
          rw [World.withRoom_of_room hendless] at hbytes hwhole
          refine ⟨?_, fun hall => ?_⟩
          · rw [hbytes, List.take_append, List.take_of_length_le hfits]
          · rw [hwhole (by omega)]
      | short error hroom hbytes hending hfilled hrefused =>
          -- they find another world, in which they write nothing
          refine ⟨?_, fun hall => by omega⟩
          rw [hbytes, (trail_of_filled event hrest hfilled).1, List.append_nil,
            List.take_append_of_le_length (Nat.le_of_lt hroom)]

end Action

namespace Turn

/-- The error with which the output refused a write of the turn. -/
def Refused (around : Surroundings σ (Bounded φ)) (turn : Turn σ (Bounded φ))
    (error : OutputError) : Prop :=
  (turn.run around event).state.sink.refused = turn.start.sink.refused ++ [error]

variable {host outlet}

/-- A refusal is the end of the turn, and fills the output. -/
theorem room_after (turn : Turn σ (Bounded φ))
    (hplain : turn.action.IsPlain ⟨host, outlet.sink⟩) {room : Nat}
    (hroom : turn.start.sink.room = some room) :
    ((turn.run ⟨host, outlet.sink⟩ event).state.sink.refused = turn.start.sink.refused ∧
        ∃ left, (turn.run ⟨host, outlet.sink⟩ event).state.sink.room = some left) ∨
      ∃ error, turn.Refused event ⟨host, outlet.sink⟩ error ∧
        (turn.run ⟨host, outlet.sink⟩ event).ending = .error (.failed (.output error)) ∧
        (turn.run ⟨host, outlet.sink⟩ event).state.sink.room = some 0 := by
  have hrefused := ((Action.runsDry_act event hplain).endless turn.start).2
  have hcut := (Action.runsDry_act event hplain).cutOff turn.start room
  rw [World.withRoom_of_room hroom] at hcut
  unfold Refused run
  generalize (turn.action.act ⟨host, outlet.sink⟩ event).run turn.start = cut at hcut ⊢
  cases hcut with
  | whole hfits => exact .inl ⟨hrefused, _, rfl⟩
  | short error hlacks hbytes hending hfilled hadded =>
      exact .inr ⟨error, hrefused ▸ hadded, hending, hfilled⟩

theorem errors_of_refused {turn : Turn σ (Bounded φ)}
    (hplain : turn.action.IsPlain ⟨host, outlet.sink⟩) {error : OutputError}
    (hending : (turn.run ⟨host, outlet.sink⟩ event).ending = .error (.failed (.output error))) :
    Trace.errors (turn.trace ⟨host, outlet.sink⟩ event) =
      [⟨.error, .action, turn.action.name ++ " action failed: I/O error: " ++ error.message,
        []⟩] := by
  have hquiet : Trace.errors (turn.run ⟨host, outlet.sink⟩ event).trace = [] :=
    Action.errors_act _ event hplain turn.start
  have hwords : turn.action.name ++ " action failed: " ++ reason (.failed (.output error)) =
      turn.action.name ++ " action failed: I/O error: " ++ error.message := by
    have hprefix : " action failed: " ++ "I/O error: " = " action failed: I/O error: " := by decide
    change _ ++ ("I/O error: " ++ error.message) = _
    rw [← hprefix]
    simp only [String.append_assoc]
  rw [errors_trace, hquiet, report, hending]
  dsimp only
  rw [hwords]
  rfl

end Turn

namespace Action

variable {host outlet} {actions : List (Action σ (Bounded φ))}

theorem room_turns (hplain : ∀ action ∈ actions, action.IsPlain ⟨host, outlet.sink⟩)
    {world : World σ (Bounded φ)} {room : Nat} (hroom : world.sink.room = some room) :
    ∀ turn ∈ turns ⟨host, outlet.sink⟩ event actions world,
      turn.action.IsPlain ⟨host, outlet.sink⟩ ∧ ∃ left, turn.start.sink.room = some left := by
  induction actions generalizing world room with
  | nil => exact fun turn hturn => absurd hturn List.not_mem_nil
  | cons action rest ih =>
      obtain ⟨hfirst, hrest⟩ := List.forall_mem_cons.mp hplain
      intro turn hturn
      rcases List.mem_cons.mp hturn with rfl | hlater
      · exact ⟨hfirst, room, hroom⟩
      · rcases Turn.room_after event ⟨action, world⟩ hfirst hroom with
          ⟨_, left, hleft⟩ | ⟨error, _, _, hfilled⟩
        · exact ih hrest hleft turn hlater
        · exact ih hrest hfilled turn hlater

theorem turns_of_filled (hplain : ∀ action ∈ actions, action.IsPlain ⟨host, outlet.sink⟩)
    {world : World σ (Bounded φ)} (hfilled : world.sink.room = some 0) :
    ∀ turn ∈ turns ⟨host, outlet.sink⟩ event actions world,
      Trace.bytes (turn.trace ⟨host, outlet.sink⟩ event) = [] := by
  intro turn hturn
  have hsilent := (trail_of_filled event hplain hfilled).1
  rw [trail, Trace.bytes_flatMap] at hsilent
  exact List.flatMap_eq_nil_iff.mp hsilent turn hturn

/-- After a turn in which a write was refused, no turn writes anything. -/
theorem silent_turns (hplain : ∀ action ∈ actions, action.IsPlain ⟨host, outlet.sink⟩)
    {world : World σ (Bounded φ)} {room : Nat} (hroom : world.sink.room = some room) :
    (turns ⟨host, outlet.sink⟩ event actions world).Pairwise fun earlier later =>
      ∀ error, earlier.Refused event ⟨host, outlet.sink⟩ error →
        Trace.bytes (later.trace ⟨host, outlet.sink⟩ event) = [] := by
  induction actions generalizing world room with
  | nil => exact .nil
  | cons action rest ih =>
      obtain ⟨hfirst, hrest⟩ := List.forall_mem_cons.mp hplain
      rcases Turn.room_after event ⟨action, world⟩ hfirst hroom with
        ⟨hkept, left, hleft⟩ | ⟨error, _, _, hfilled⟩
      · refine .cons (fun later _ error hrefused => ?_) (ih hrest hleft)
        have hnone : world.sink.refused = world.sink.refused ++ [error] := hkept.symm.trans hrefused
        simp at hnone
      · exact .cons (fun later hlater _ _ => turns_of_filled event hrest hfilled later hlater)
          (ih hrest hfilled)

end Action

namespace Pipeline

/-- A run with so much room beside the same run with an endless output. The turns are those of the
run with so much room. -/
structure FillsUp (pipeline : Pipeline σ (Bounded φ)) (room : Nat)
    (full cut : Run (World σ (Bounded φ)) Unit) (turns : List (Turn σ (Bounded φ))) : Prop where
  ending : cut.ending = .ok ()
  trace : cut.trace = turns.flatMap (Turn.trace ⟨host, outlet.sink⟩ event)
  /-- Only the tail of the output is lost. -/
  bytes : Trace.bytes cut.trace = (Trace.bytes full.trace).take room
  /-- If nothing is lost, nothing else is different. -/
  whole : (Trace.bytes full.trace).length ≤ room → cut.trace = full.trace
  /-- A turn in which a write is refused ends with the refusal, which is reported once. -/
  reported : ∀ turn ∈ turns,
    (turn.run ⟨host, outlet.sink⟩ event).state.sink.refused = turn.start.sink.refused ∨
      ∃ error, turn.Refused event ⟨host, outlet.sink⟩ error ∧
        (turn.run ⟨host, outlet.sink⟩ event).ending = .error (.failed (.output error)) ∧
        Trace.errors (turn.trace ⟨host, outlet.sink⟩ event) =
          [⟨.error, .action, turn.action.name ++ " action failed: I/O error: " ++ error.message,
            []⟩]
  silent : turns.Pairwise fun earlier later =>
    ∀ error, earlier.Refused event ⟨host, outlet.sink⟩ error →
      Trace.bytes (later.trace ⟨host, outlet.sink⟩ event) = []
  /-- The last turn sends the final signal once. -/
  killed : ∃ last, turns.getLast? = some last ∧ last.action = .kill pipeline.signal ∧
    Trace.signals (last.trace ⟨host, outlet.sink⟩ event) = [pipeline.signal]
  signals : ∃ early, Trace.signals cut.trace = early ++ [pipeline.signal] ∧
    early.Sublist (pipeline.actions.flatMap Action.ownSignals)

theorem signals_trace_kill {κ : Type} (around : Surroundings σ κ) (signal : Signal)
    (world : World σ κ) :
    Trace.signals (Turn.trace around event ⟨.kill signal, world⟩) = [signal] := by
  rw [Turn.trace, ← List.singleton_append, Trace.signals_append, Trace.signals_append,
    Trace.signals_logged, List.append_nil]
  exact Action.signals_sendKill around signal world

variable {outlet} in
theorem isPlain_ofOptions (options : Options) :
    ∀ action ∈ (ofOptions options : Pipeline σ (Bounded φ)).actions,
      action.IsPlain ⟨host, outlet.sink⟩ :=
  fun action haction => .inl (isBuiltIn_ofOptions options action haction)

/-- An output that fills up during a run loses nothing but the tail. -/
theorem runAll_fills_up (pipeline : Pipeline σ (Bounded φ))
    (hplain : ∀ action ∈ pipeline.actions, action.IsPlain ⟨host, outlet.sink⟩)
    (world : World σ (Bounded φ)) (room : Nat) :
    FillsUp host outlet event pipeline room
      ((runAll ⟨host, outlet.sink⟩ pipeline event).run (world.withRoom none))
      ((runAll ⟨host, outlet.sink⟩ pipeline event).run (world.withRoom (some room)))
      (turns ⟨host, outlet.sink⟩ event pipeline (world.withRoom (some room))) := by
  have hall : ∀ action ∈ pipeline.actions ++ [.kill pipeline.signal],
      action.IsPlain ⟨host, outlet.sink⟩ :=
    List.forall_mem_append.mpr ⟨hplain, List.forall_mem_singleton.mpr (.inl trivial)⟩
  obtain ⟨hbytes, hwhole⟩ := Action.trail_withRoom event hall world room
  have hraises := raises_forM_plain ⟨host, outlet.sink⟩ event hplain (world.withRoom (some room))
  rw [Action.run_forM_runAction] at hraises
  rw [run_runAll_eq_trail, run_runAll_eq_trail]
  constructor
  · rfl
  · rfl
  · exact hbytes
  · exact hwhole
  · intro turn hturn
    obtain ⟨hturnPlain, left, hleft⟩ := Action.room_turns event hall rfl turn hturn
    rcases Turn.room_after event turn hturnPlain hleft with
      ⟨hkept, _⟩ | ⟨error, hrefused, hending, _⟩
    · exact .inl hkept
    · exact .inr ⟨error, hrefused, hending, Turn.errors_of_refused event hturnPlain hending⟩
  · exact Action.silent_turns event hall rfl
  · rw [turns_eq, List.getLast?_concat]
    exact ⟨_, rfl, rfl, signals_trace_kill event _ _ _⟩
  · refine ⟨_, ?_, hraises⟩
    rw [Action.trail_append, Trace.signals_append]
    refine congrArg (_ ++ ·) ?_
    refine (congrArg Trace.signals (List.append_nil _)).trans ?_
    exact signals_trace_kill event _ _ _

/-- Every action that options may ask for, and one that panics after it has written. -/
def everyAction : Pipeline InMemory (Bounded Bool) where
  actions := (ofOptions { Options.default with
    heapHistogram := true, threadDump := true, heapDumpPath := some "heap.hprof" }).actions ++
      [.custom "note" fun _ => do
        ["two", "texts"].forM (Surroundings.mk InMemory.host Outlet.limited.sink).write
        endWith (.error (.panicked .noText))]
  signal := .kill

/-- A world whose output cannot be flushed. -/
def unflushable : World InMemory (Bounded Bool) where
  host := .empty
  sink := ⟨none, [], true⟩
  system := .inMemory ⟨[]⟩ "/" (fun _ => none) ⟨⟨1970, 1, 1⟩, 0, 0, 0, 0, .utc⟩

theorem everyAction_fills_up :
    (∀ action ∈ everyAction.actions, action.IsPlain ⟨InMemory.host, Outlet.limited.sink⟩) ∧
      FillsUp InMemory.host Outlet.limited .javaHeap everyAction 40
        ((runAll ⟨InMemory.host, Outlet.limited.sink⟩ everyAction .javaHeap).run
          (unflushable.withRoom none))
        ((runAll ⟨InMemory.host, Outlet.limited.sink⟩ everyAction .javaHeap).run
          (unflushable.withRoom (some 40)))
        (turns ⟨InMemory.host, Outlet.limited.sink⟩ .javaHeap everyAction
          (unflushable.withRoom (some 40))) := by
  have hplain : ∀ action ∈ everyAction.actions,
      action.IsPlain ⟨InMemory.host, Outlet.limited.sink⟩ := by
    intro action haction
    rcases List.mem_append.mp haction with haction | hnote
    · exact isPlain_ofOptions _ _ action haction
    · obtain rfl := List.mem_singleton.mp hnote
      exact .inr ⟨"note", fun _ => ["two", "texts"], fun _ => .error (.panicked .noText), rfl⟩
  exact ⟨hplain, runAll_fills_up _ _ _ _ hplain _ _⟩

end Pipeline

end ExhaustionGuard
