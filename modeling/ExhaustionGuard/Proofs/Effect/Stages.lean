import ExhaustionGuard.Effect

/-! # Stages

Effects that follow one another are the stages of one effect. It goes through
them as long as each ends well; the first one that stops ends it, and what comes
later leaves no mark.
-/

namespace ExhaustionGuard.Effect

variable {ω α β γ : Type}

theorem ext_run {left right : Effect ω α} (hrun : ∀ state, left.run state = right.run state) :
    left = right :=
  funext hrun

theorem bind_pure_run (effect : Effect ω α) : effect >>= pure = effect := by
  refine ext_run fun state => ?_
  rw [run_bind]
  obtain ⟨ending, after, trace⟩ := effect.run state
  cases ending with
  | error reason => rfl
  | ok value => simp

theorem bind_assoc_run (effect : Effect ω α) (next : α → Effect ω β) (last : β → Effect ω γ) :
    effect >>= next >>= last = effect >>= fun value => next value >>= last := by
  refine ext_run fun state => ?_
  rw [run_bind, run_bind, run_bind]
  cases (effect.run state).ending with
  | error reason => rfl
  | ok value =>
      dsimp only
      rw [run_bind]
      cases ((next value).run (effect.run state).state).ending with
      | error reason => rfl
      | ok middle => simp

theorem lawfulMonad : LawfulMonad (Effect ω) :=
  LawfulMonad.mk' (Effect ω) bind_pure_run (fun _ _ => rfl) bind_assoc_run

/-- Effects one after another; the first one that stops is the last one. -/
def inOrder : List (Effect ω Unit) → Effect ω Unit
  | [] => pure ()
  | stage :: rest => stage >>= fun _ => inOrder rest

/-- Stages that all end well lead from one state to another, and leave a trace. -/
inductive Passes : List (Effect ω Unit) → ω → ω → List Event → Prop
  | nil (state : ω) : Passes [] state state []
  | cons {stage : Effect ω Unit} {rest : List (Effect ω Unit)} {before middle after : ω}
      {first later : List Event} : stage.run before = ⟨.ok (), middle, first⟩ →
      Passes rest middle after later → Passes (stage :: rest) before after (first ++ later)

/-- What stages come to: all of them end well, or one stops, and its reason ends the run there. -/
inductive Ends : List (Effect ω Unit) → ω → Run ω Unit → Prop
  | passed {stages : List (Effect ω Unit)} {before after : ω} {trace : List Event} :
      Passes stages before after trace → Ends stages before ⟨.ok (), after, trace⟩
  | stopped {earlier : List (Effect ω Unit)} {stage : Effect ω Unit}
      {before middle after : ω} {trace last : List Event} {reason : Stop}
      (later : List (Effect ω Unit)) : Passes earlier before middle trace →
      stage.run middle = ⟨.error reason, after, last⟩ →
      Ends (earlier ++ stage :: later) before ⟨.error reason, after, trace ++ last⟩

theorem ends_inOrder (stages : List (Effect ω Unit)) (before : ω) :
    Ends stages before ((inOrder stages).run before) := by
  induction stages generalizing before with
  | nil => exact .passed (.nil before)
  | cons stage rest ih =>
      rw [inOrder, run_bind]
      cases hstage : stage.run before with
      | mk ending middle trace =>
          cases ending with
          | error reason =>
              have hends : Ends ([] ++ stage :: rest) before ⟨.error reason, middle, [] ++ trace⟩ :=
                .stopped rest (.nil before) hstage
              exact hends
          | ok value =>
              dsimp only
              have hends := ih middle
              cases hrun : (inOrder rest).run middle
              rw [hrun] at hends
              cases hends with
              | passed hpasses => exact .passed (.cons hstage hpasses)
              | stopped later hpasses hstopped =>
                  rw [← List.append_assoc]
                  exact .stopped later (.cons hstage hpasses) hstopped

end ExhaustionGuard.Effect
