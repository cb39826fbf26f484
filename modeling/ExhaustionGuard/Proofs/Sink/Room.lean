import ExhaustionGuard.Proofs.Action.Emissions
import ExhaustionGuard.Proofs.Effect.Output
import ExhaustionGuard.Proofs.Effect.Signals
import ExhaustionGuard.Sink

/-! # Outputs with room

An output takes bytes for as long as it has room, and refuses the rest of the
write that goes beyond. An effect that runs out of room has then written what
it would have written to an endless output, up to that very byte, and it stops
there. What it would have done next to the output it does not do at all.
-/

namespace ExhaustionGuard

open Effect

variable {σ φ α β : Type}

/-- An output that has room for so many more bytes, or for any number. -/
structure Bounded (φ : Type) where
  room : Option Nat
  /-- The errors with which writes were refused, in order. -/
  refused : List OutputError
  /-- What else there is to the output. -/
  inner : φ

/-- How an output behaves apart from its room. -/
structure Outlet (φ : Type) where
  take : Text.Bytes → φ → φ
  refuse : φ → OutputError × φ
  flush : φ → Option OutputError × φ
  cutting : Cutting

/-- Takes bytes as far as there is room for them and refuses the others. -/
def Outlet.sink (outlet : Outlet φ) : Sink (Bounded φ) where
  write bytes output :=
    match output.room with
    | none => (⟨bytes.length, none⟩, { output with inner := outlet.take bytes output.inner })
    | some room =>
        let inner := outlet.take (bytes.take room) output.inner
        if bytes.length ≤ room then
          (⟨bytes.length, none⟩, ⟨some (room - bytes.length), output.refused, inner⟩)
        else
          (⟨room, some (outlet.refuse inner).1⟩,
            ⟨some 0, output.refused ++ [(outlet.refuse inner).1], (outlet.refuse inner).2⟩)
  flush output :=
    ((outlet.flush output.inner).1, { output with inner := (outlet.flush output.inner).2 })
  cutting := outlet.cutting

namespace Outlet

variable (outlet : Outlet φ) {bytes : Text.Bytes} {output : Bounded φ} {room : Nat}

theorem write_endless (hroom : output.room = none) :
    outlet.sink.write bytes output =
      (⟨bytes.length, none⟩, ⟨none, output.refused, outlet.take bytes output.inner⟩) := by
  cases output with
  | mk here refused inner =>
      obtain rfl : here = none := hroom
      rfl

theorem write_of_le (hroom : output.room = some room) (hfits : bytes.length ≤ room) :
    outlet.sink.write bytes output =
      (⟨bytes.length, none⟩,
        ⟨some (room - bytes.length), output.refused, outlet.take bytes output.inner⟩) := by
  cases output with
  | mk here refused inner =>
      obtain rfl : here = some room := hroom
      refine (if_pos hfits).trans ?_
      rw [List.take_of_length_le hfits]

theorem write_of_lt (hroom : output.room = some room) (hlacks : room < bytes.length) :
    outlet.sink.write bytes output =
      let refusal := outlet.refuse (outlet.take (bytes.take room) output.inner)
      (⟨room, some refusal.1⟩, ⟨some 0, output.refused ++ [refusal.1], refusal.2⟩) := by
  cases output with
  | mk here refused inner =>
      obtain rfl : here = some room := hroom
      exact if_neg (Nat.not_le_of_lt hlacks)

/-- A sink with a limit, whose flushes all fail if `inner` says so. -/
def limited : Outlet Bool where
  take _ inner := inner
  refuse inner := (.sinkFull, inner)
  flush inner := (if inner then some .flushRefused else none, inner)
  cutting := .whole

end Outlet

/-- A world that differs in the room of its output only. -/
def World.withRoom (world : World σ (Bounded φ)) (room : Option Nat) : World σ (Bounded φ) :=
  { world with sink := { world.sink with room } }

@[simp]
theorem World.room_withRoom (world : World σ (Bounded φ)) (room : Option Nat) :
    (world.withRoom room).sink.room = room := rfl

theorem World.withRoom_of_room {world : World σ (Bounded φ)} {room : Option Nat}
    (hroom : world.sink.room = room) : world.withRoom room = world := by
  subst hroom
  rfl

/-- How a run with so much room compares with the same run on an endless output. -/
inductive CutOff (room : Nat) (full : Run (World σ (Bounded φ)) α) :
    Run (World σ (Bounded φ)) α → Prop
  /-- There was room enough, and nothing else is different. -/
  | whole (hfits : (Trace.bytes full.trace).length ≤ room) :
      CutOff room full ⟨full.ending,
        full.state.withRoom (some (room - (Trace.bytes full.trace).length)), full.trace⟩
  /-- The run filled the room and stopped at the write that was refused. -/
  | short {cut : Run (World σ (Bounded φ)) α} (error : OutputError)
      (hroom : room < (Trace.bytes full.trace).length)
      (hbytes : Trace.bytes cut.trace = (Trace.bytes full.trace).take room)
      (hending : cut.ending = .error (.failed (.output error)))
      (hfilled : cut.state.sink.room = some 0)
      (hrefused : cut.state.sink.refused = full.state.sink.refused ++ [error]) :
      CutOff room full cut

namespace CutOff

variable {room : Nat}

/-- What was written before takes its share of the room. -/
theorem after {early : List Event} {full cut : Run (World σ (Bounded φ)) α}
    (hfits : (Trace.bytes early).length ≤ room)
    (hcut : CutOff (room - (Trace.bytes early).length) full cut) :
    CutOff room ⟨full.ending, full.state, early ++ full.trace⟩
      ⟨cut.ending, cut.state, early ++ cut.trace⟩ := by
  cases hcut with
  | whole hlater =>
      have hboth : (Trace.bytes (early ++ full.trace)).length =
          (Trace.bytes early).length + (Trace.bytes full.trace).length := by
        rw [Trace.bytes_append, List.length_append]
      rw [Nat.sub_sub, ← hboth]
      exact .whole (by rw [hboth]; omega)
  | short error hroom hbytes hending hfilled hrefused =>
      refine .short error ?_ ?_ hending hfilled hrefused
      · rw [Trace.bytes_append, List.length_append]
        omega
      · rw [Trace.bytes_append, Trace.bytes_append, hbytes, List.take_append,
          List.take_of_length_le hfits]

end CutOff

/-- An effect that a lack of room cuts off, and changes in no other way. -/
structure RunsDry (effect : WorldEffect σ (Bounded φ) α) : Prop where
  /-- An endless output stays endless and refuses nothing. -/
  endless : ∀ world : World σ (Bounded φ),
    (effect.run (world.withRoom none)).state.sink.room = none ∧
      (effect.run (world.withRoom none)).state.sink.refused = world.sink.refused
  cutOff : ∀ (world : World σ (Bounded φ)) (room : Nat),
    CutOff room (effect.run (world.withRoom none)) (effect.run (world.withRoom (some room)))

namespace RunsDry

/-- What writes nothing and does not look at the room is cut off nowhere. -/
theorem of_silent {effect : WorldEffect σ (Bounded φ) α}
    (hbytes : ∀ world, Trace.bytes (effect.run world).trace = [])
    (hrefused : ∀ world, (effect.run world).state.sink.refused = world.sink.refused)
    (hroom : ∀ world room, effect.run (world.withRoom room) =
      ⟨(effect.run world).ending, (effect.run world).state.withRoom room,
        (effect.run world).trace⟩) : RunsDry effect where
  endless world := by
    rw [hroom]
    exact ⟨rfl, hrefused world⟩
  cutOff world room := by
    have hwhole : CutOff room (effect.run (world.withRoom none)) _ :=
      .whole (by rw [hbytes]; exact Nat.zero_le _)
    rw [hbytes] at hwhole
    rw [hroom] at hwhole ⊢
    rw [hroom world (some room)]
    exact hwhole

theorem bind {effect : WorldEffect σ (Bounded φ) α} {next : α → WorldEffect σ (Bounded φ) β}
    (hfirst : RunsDry effect) (hnext : ∀ value, RunsDry (next value)) :
    RunsDry (effect >>= next) where
  endless world := by
    rw [run_bind]
    obtain ⟨hroom, hrefused⟩ := hfirst.endless world
    split
    next => exact ⟨hroom, hrefused⟩
    next value _ =>
      have hsecond := (hnext value).endless (effect.run (world.withRoom none)).state
      rw [World.withRoom_of_room hroom] at hsecond
      exact ⟨hsecond.1, hsecond.2.trans hrefused⟩
  cutOff world room := by
    have hendless := (hfirst.endless world).1
    have hcut := hfirst.cutOff world room
    rw [run_bind, run_bind]
    cases hfull : effect.run (world.withRoom none) with
    | mk ending state trace =>
        rw [hfull] at hcut hendless
        generalize effect.run (world.withRoom (some room)) = cut at hcut
        cases hcut with
        | whole hfits =>
            cases ending with
            | error stop => exact .whole hfits
            | ok value =>
                have hsecond := (hnext value).cutOff state (room - (Trace.bytes trace).length)
                rw [World.withRoom_of_room hendless] at hsecond
                exact hsecond.after hfits
        | short error hroom hbytes hending hfilled hrefused =>
            rw [hending]
            cases ending with
            | error stop => exact .short error hroom hbytes rfl hfilled hrefused
            | ok value =>
                -- the full run goes on and writes more, all of it beyond the room
                have hlater := (hnext value).endless state
                rw [World.withRoom_of_room hendless] at hlater
                refine .short error ?_ ?_ rfl hfilled ?_
                · rw [Trace.bytes_append, List.length_append]
                  exact Nat.lt_add_right _ hroom
                · rw [hbytes, Trace.bytes_append,
                    List.take_append_of_le_length (Nat.le_of_lt hroom)]
                · rw [hrefused, hlater.2]

end RunsDry

variable (host : Host σ) (outlet : Outlet φ)

theorem runsDry_writeBytes (bytes : Text.Bytes) :
    RunsDry ((Surroundings.mk host outlet.sink).writeBytes bytes) := by
  by_cases hbytes : bytes = []
  · subst hbytes
    exact .of_silent (fun _ => rfl) (fun _ => rfl) fun _ _ => rfl
  have hfull : ∀ world : World σ (Bounded φ),
      ((Surroundings.mk host outlet.sink).writeBytes bytes).run (world.withRoom none) =
        ⟨.ok (), { world with
          sink := ⟨none, world.sink.refused, outlet.take bytes world.sink.inner⟩ },
          [.wrote bytes]⟩ :=
    fun world => Surroundings.run_writeBytes_of_taken _ hbytes (outlet.write_endless rfl)
  have hwrote : ∀ written, Trace.bytes [.wrote written] = written := List.append_nil
  refine ⟨fun world => by rw [hfull]; exact ⟨rfl, rfl⟩, fun world room => ?_⟩
  rw [hfull]
  by_cases hfits : bytes.length ≤ room
  · rw [Surroundings.run_writeBytes_of_taken _ hbytes (outlet.write_of_le rfl hfits)]
    have hwhole : CutOff room (⟨.ok (), { world with
        sink := ⟨none, world.sink.refused, outlet.take bytes world.sink.inner⟩ },
        [.wrote bytes]⟩ : Run (World σ (Bounded φ)) Unit) _ := .whole (by rwa [hwrote])
    rw [hwrote] at hwhole
    exact hwhole
  · have hlacks : room < bytes.length := by omega
    rw [Surroundings.run_writeBytes_of_refused _ hbytes (outlet.write_of_lt rfl hlacks)]
    exact .short _ (by rwa [hwrote]) (by rw [hwrote, hwrote]) rfl rfl rfl

theorem closed_runsDry (may : Event → Prop) : Closed ⟨host, outlet.sink⟩ may RunsDry where
  pure := fun _ => .of_silent (fun _ => rfl) (fun _ => rfl) fun _ _ => rfl
  stop := fun _ => .of_silent (fun _ => rfl) (fun _ => rfl) fun _ _ => rfl
  bind := RunsDry.bind
  get := by
    intro α next hsystem hnext
    -- whoever looks at the system only does not see the room
    have hrun : ∀ (world : World σ (Bounded φ)) (room : Option Nat),
        (Effect.get >>= next).run (world.withRoom room) =
          (next world).run (world.withRoom room) := by
      intro world room
      rw [run_get_bind, hsystem (world.withRoom room) world rfl]
    refine ⟨fun world => ?_, fun world room => ?_⟩
    · rw [hrun]
      exact (hnext world).endless world
    · rw [hrun, hrun]
      exact (hnext world).cutOff world room
  note := by
    intro event hnote _
    refine .of_silent (fun _ => ?_) (fun _ => rfl) fun _ _ => rfl
    cases event <;> first | rfl | exact hnote.elim
  writeBytes := fun _ => runsDry_writeBytes host outlet
  tryFlush := fun _ => .of_silent (fun _ => rfl) (fun _ => rfl) fun _ _ => rfl
  attempt := fun operation => .of_silent (fun world => by rw [World.run_attempt]; rfl)
    (fun world => by rw [World.run_attempt])
    fun world room => by rw [World.run_attempt, World.run_attempt]; rfl
  raise := fun _ => .of_silent (fun world => by rw [World.run_raise]; rfl)
    (fun world => by rw [World.run_raise])
    fun world room => by rw [World.run_raise, World.run_raise]; rfl
  makeDirectory := fun _ steps => .of_silent
    (fun world => by rw [World.run_makeDirectory, Trace.bytes_madeDirectory])
    (fun world => by rw [World.run_makeDirectory])
    fun world room => by rw [World.run_makeDirectory, World.run_makeDirectory]; rfl

end ExhaustionGuard
