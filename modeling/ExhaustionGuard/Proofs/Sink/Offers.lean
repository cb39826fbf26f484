import ExhaustionGuard.Proofs.Action.Composition
import ExhaustionGuard.Proofs.Effect.Output
import ExhaustionGuard.Proofs.Effect.Signals
import ExhaustionGuard.Proofs.Effect.Stages

/-! # Texts in pieces

A text gets to an output in pieces, one write for each, and the first write that
is refused is the last one. However the text is cut, what is taken of it is a
beginning of it, and all of it if nothing is refused.
-/

namespace ExhaustionGuard

open Effect

variable {σ κ : Type}

/-- How an output took the pieces that it was offered one after another. -/
structure Offer (κ : Type) where
  /-- The error with which a piece was refused, if one was. -/
  refusal : Option OutputError
  /-- What was taken of each piece. -/
  taken : List Text.Bytes
  output : κ

namespace Sink

variable (sink : Sink κ)

/-- Offers pieces to an output until one is refused; nothing is asked of it for no bytes. -/
def offer : List Text.Bytes → κ → Offer κ
  | [], output => ⟨none, [], output⟩
  | piece :: rest, output =>
      if piece = [] then offer rest output
      else
        match (sink.write piece output).1.refusal with
        | some error =>
            ⟨some error, [piece.take (sink.write piece output).1.taken],
              (sink.write piece output).2⟩
        | none =>
            let later := offer rest (sink.write piece output).2
            ⟨later.refusal, piece :: later.taken, later.output⟩

/-- The pieces of texts that come one after another. -/
def piecesOf (texts : List String) : List Text.Bytes :=
  texts.flatMap sink.cutting.pieces

/-- However texts are cut, their pieces are their bytes. -/
theorem flatten_piecesOf (texts : List String) :
    (sink.piecesOf texts).flatten = (texts.map Text.encode).flatten := by
  induction texts with
  | nil => rfl
  | cons text rest ih =>
      rw [piecesOf, List.flatMap_cons, List.flatten_append, sink.cutting.flatten_pieces,
        List.map_cons, List.flatten_cons]
      exact congrArg (Text.encode text ++ ·) ih

theorem flatten_taken_prefix (pieces : List Text.Bytes) (output : κ) :
    (sink.offer pieces output).taken.flatten <+: pieces.flatten := by
  fun_induction offer sink pieces output with
  | case1 => exact List.prefix_rfl
  | case2 rest output ih => exact ih
  | case3 piece rest output _ error _ =>
      rw [List.flatten_singleton, List.flatten_cons]
      exact (List.take_prefix _ piece).trans (List.prefix_append _ _)
  | case4 piece rest output _ _ later ih =>
      rw [List.flatten_cons, List.flatten_cons]
      exact (List.prefix_append_right_inj piece).mpr ih

/-- What is not refused is taken as it is. -/
theorem taken_of_refusal_none {pieces : List Text.Bytes} {output : κ}
    (hnone : (sink.offer pieces output).refusal = none) :
    (sink.offer pieces output).taken = pieces.filter (· ≠ []) := by
  fun_induction offer sink pieces output with
  | case1 => rfl
  | case2 rest output ih => simpa using ih hnone
  | case3 => cases hnone
  | case4 piece rest output hpiece _ later ih => simpa [hpiece] using ih hnone

theorem flatten_taken {pieces : List Text.Bytes} {output : κ}
    (hnone : (sink.offer pieces output).refusal = none) :
    (sink.offer pieces output).taken.flatten = pieces.flatten := by
  rw [taken_of_refusal_none sink hnone]
  clear hnone
  induction pieces with
  | nil => rfl
  | cons piece rest ih => by_cases hpiece : piece = [] <;> simpa [hpiece] using ih

end Sink

theorem Trace.bytes_wrote (pieces : List Text.Bytes) :
    bytes (pieces.map .wrote) = pieces.flatten := by
  simp [bytes, Function.comp_def]

namespace Surroundings

variable (around : Surroundings σ κ)

/-- How writing ends if an output took what it was offered like this. -/
def endingOf : Option OutputError → Except Stop Unit
  | none => .ok ()
  | some error => .error (.failed (.output error))

theorem run_forM_writeBytes (pieces : List Text.Bytes) (world : World σ κ) :
    let offer := around.sink.offer pieces world.sink
    (pieces.forM around.writeBytes).run world =
      ⟨endingOf offer.refusal, { world with sink := offer.output }, offer.taken.map .wrote⟩ := by
  dsimp only
  induction pieces generalizing world with
  | nil => rfl
  | cons piece rest ih =>
      change (around.writeBytes piece >>= fun _ => rest.forM around.writeBytes).run world = _
      rw [Sink.offer]
      by_cases hpiece : piece = []
      · subst hpiece
        rw [if_pos rfl, run_bind_of_ok (by rw [run_writeBytes_nil]), run_writeBytes_nil, ih]
        rfl
      · have hwrite := around.run_writeBytes hpiece world
        rw [if_neg hpiece]
        cases hrefusal : (around.sink.write piece world.sink).1.refusal with
        | some error =>
            rw [hrefusal] at hwrite
            rw [run_bind_of_error (by rw [hwrite]), hwrite]
            rfl
        | none =>
            rw [hrefusal] at hwrite
            rw [run_bind_of_ok (by rw [hwrite]), hwrite, ih]
            rfl

/-- Texts are written by writing their pieces. -/
theorem forM_write (texts : List String) :
    texts.forM around.write = (around.sink.piecesOf texts).forM around.writeBytes := by
  have lawful : LawfulMonad (WorldEffect σ κ) := lawfulMonad
  induction texts with
  | nil => rfl
  | cons text rest ih =>
      rw [Sink.piecesOf, List.flatMap_cons]
      exact (congrArg (around.write text >>= fun _ => ·) ih).trans List.forM_append.symm

/-- Texts are offered to the output, and the first refusal ends the writing. -/
theorem run_forM_write (texts : List String) (world : World σ κ) :
    let offer := around.sink.offer (around.sink.piecesOf texts) world.sink
    (texts.forM around.write).run world =
      ⟨endingOf offer.refusal, { world with sink := offer.output }, offer.taken.map .wrote⟩ := by
  rw [forM_write]
  exact around.run_forM_writeBytes _ world

/-- The lines of a heading. -/
def headingLines (title : String) : List String :=
  ["\n", ">>> " ++ title ++ "\n"]

theorem banner_eq (title : String) :
    around.banner title = (headingLines title).forM around.write := by
  have lawful : LawfulMonad (WorldEffect σ κ) := lawfulMonad
  have hblank : around.writeLine "" = around.write "\n" := rfl
  have htitle : around.writeLine (">>> " ++ title) = around.write (">>> " ++ title ++ "\n") := rfl
  simp [banner, hblank, htitle, headingLines]

end Surroundings

end ExhaustionGuard
