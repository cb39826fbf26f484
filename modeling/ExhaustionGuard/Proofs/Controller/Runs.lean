import ExhaustionGuard.Host.InMemory
import ExhaustionGuard.Proofs.Pipeline.Containment
import ExhaustionGuard.Proofs.Window.History
import ExhaustionGuard.Sink

/-! # Whole runs of a controller

The window of a controller hears of every notification before anything can
fail, and nothing that a pipeline does reaches it. So the clock readings alone
tell which notifications set the pipeline off.
-/

namespace ExhaustionGuard

open Effect

variable {σ κ : Type}

/-- An exhaustion event at a clock reading, with the machine and the output that it finds. -/
structure Notification (σ κ : Type) where
  around : Surroundings σ κ
  world : World σ κ
  now : Nat
  event : Exhaustion

namespace Controller

/-- What a controller does about a notification. -/
def answer (controller : Controller σ κ) (notification : Notification σ κ) :
    Run (World σ κ) (Controller σ κ) :=
  (controller.notify notification.around notification.now notification.event).run
    notification.world

/-- What a controller does about one notification after another, as long as it is there. -/
def serve : Controller σ κ → List (Notification σ κ) → List (Run (World σ κ) (Controller σ κ))
  | _, [] => []
  | controller, notification :: rest =>
      controller.answer notification ::
        match (controller.answer notification).ending with
        | .ok next => next.serve rest
        | .error _ => []

/-- The lines that open the answer to a notification, `inside` being the count of the window. -/
def openingLines (options : Options) (inside : Nat) (event : Exhaustion) : List LogLine :=
  eventLines event ++
    [⟨.info, .window, s!"ResourceExhausted! ({inside}/{options.count})", []⟩]

/-- A controller that options asked for, after it has heard of some readings. -/
structure Armed (options : Options) (history : List Nat) (controller : Controller σ κ) :
    Prop where
  heuristic : controller.heuristic =
    .window ((Window.empty options.seconds options.count).after history)
  signal : controller.pipeline.signal = options.signal
  builtIn : ∀ action ∈ controller.pipeline.actions, action.IsBuiltIn
  ownSignals : controller.pipeline.actions.flatMap Action.ownSignals =
    if options.threadDump then [.quit] else []

/-- How a controller answers a notification whose reading is the last one of a history. -/
structure Answers (options : Options) (history : List Nat) (controller : Controller σ κ)
    (notification : Notification σ κ) : Prop where
  /-- The window has heard of the notification, whatever else became of it. -/
  armed : ∃ next, (controller.answer notification).ending = .ok next ∧ next.Armed options history
  /-- Up to the threshold the machine and the output are not even looked at. -/
  quiet : Window.recent options.seconds history notification.now ≤ options.count →
    ∀ around : Surroundings σ κ, ∃ next,
      controller.answer { notification with around := around } =
        ⟨.ok next, notification.world,
          (openingLines options (Window.recent options.seconds history notification.now)
            notification.event ++ quietLines notification.event).map .logged⟩
  /-- Beyond it all actions run, and the final signal is sent once and last. -/
  fired : options.count < Window.recent options.seconds history notification.now →
    let acted := (controller.pipeline.actions.forM
      (Pipeline.runAction notification.around notification.event)).run notification.world
    let killed := (Pipeline.runAction notification.around notification.event
      (.kill options.signal)).run acted.state
    (controller.answer notification).state = killed.state ∧
      (controller.answer notification).trace =
        (openingLines options (options.count + 1) notification.event).map .logged ++
          acted.trace ++ killed.trace ∧
      (Trace.signals acted.trace).Sublist (if options.threadDump then [.quit] else []) ∧
      Trace.signals killed.trace = [options.signal]

/-- The answer to a notification is settled by the decision of the heuristic, which comes first. -/
theorem answer_eq (controller : Controller σ κ) (notification : Notification σ κ) :
    controller.answer notification =
      let decision := controller.heuristic.decide notification.now
      let opening := (eventLines notification.event ++ decision.2.1).map Event.logged
      if decision.1 then
        let ran := (controller.pipeline.runAll notification.around notification.event).run
          notification.world
        ⟨.ok ⟨decision.2.2, controller.pipeline.afterwards⟩, ran.state, opening ++ ran.trace⟩
      else
        ⟨.ok ⟨decision.2.2, controller.pipeline⟩, notification.world,
          opening ++ (quietLines notification.event).map .logged⟩ := by
  unfold answer notify
  rw [run_logAll_bind]
  dsimp only
  rw [run_logAll_bind]
  split
  · rw [run_bind_of_ok (by rw [Pipeline.run_runAll])]
    simp
  · rw [run_logAll_bind]
    simp

namespace Answers

variable {options : Options} {history : List Nat} {controller : Controller σ κ}
  {notification : Notification σ κ}

/-- Up to the threshold no signal is raised. -/
theorem signals_of_few (answers : controller.Answers options history notification)
    (hfew : Window.recent options.seconds history notification.now ≤ options.count) :
    Trace.signals (controller.answer notification).trace = [] := by
  obtain ⟨next, hanswer⟩ := answers.quiet hfew notification.around
  have htrace := congrArg Run.trace hanswer
  exact htrace ▸ Trace.signals_logged _

/-- Beyond it the final signal is raised, after at most the one that asks for a thread dump. -/
theorem signals_of_many (answers : controller.Answers options history notification)
    (hmany : options.count < Window.recent options.seconds history notification.now) :
    ∃ early : List Signal, early.Sublist (if options.threadDump then [.quit] else []) ∧
      Trace.signals (controller.answer notification).trace = early ++ [options.signal] := by
  obtain ⟨_, htrace, hearly, hkill⟩ := answers.fired hmany
  refine ⟨_, hearly, ?_⟩
  rw [htrace, Trace.signals_append, Trace.signals_append, Trace.signals_logged, hkill,
    List.nil_append]

end Answers

theorem armed_ofOptions (options : Options) :
    (ofOptions options : Controller σ κ).Armed options [] where
  heuristic := rfl
  signal := rfl
  builtIn := Pipeline.isBuiltIn_ofOptions options
  ownSignals := Pipeline.ownSignals_ofOptions options

namespace Armed

variable {options : Options} {past history : List Nat} {controller : Controller σ κ}
  {notification : Notification σ κ}

/-- Neither an answer nor what became of it changes what the controller is armed with. -/
theorem afterwards (armed : controller.Armed options past) {heuristic : Heuristic}
    (hheuristic : heuristic =
      .window ((Window.empty options.seconds options.count).after history)) :
    (⟨heuristic, controller.pipeline.afterwards⟩ : Controller σ κ).Armed options history where
  heuristic := hheuristic
  signal := armed.signal
  builtIn := by
    intro action haction
    obtain ⟨before, hbefore, rfl⟩ := List.mem_map.mp haction
    exact Action.isBuiltIn_afterwards (armed.builtIn before hbefore)
  ownSignals := by
    rw [← armed.ownSignals, Pipeline.afterwards, List.flatMap_map]
    simp only [Action.ownSignals_afterwards]

/-- The controller decides by the whole history and logs what it decided by. -/
theorem answer_eq (armed : controller.Armed options past) (notification : Notification σ κ)
    (hcount : options.count < Window.wordMax) (hword : notification.now ≤ Window.wordMax)
    (hascending : (past ++ [notification.now]).Pairwise (· ≤ ·)) :
    controller.answer notification =
      let inside := Window.recent options.seconds (past ++ [notification.now]) notification.now
      let heuristic := Heuristic.window
        ((Window.empty options.seconds options.count).after (past ++ [notification.now]))
      let opening := (openingLines options (min inside (options.count + 1))
        notification.event).map Event.logged
      if options.count < inside then
        let ran := (controller.pipeline.runAll notification.around notification.event).run
          notification.world
        ⟨.ok ⟨heuristic, controller.pipeline.afterwards⟩, ran.state, opening ++ ran.trace⟩
      else
        ⟨.ok ⟨heuristic, controller.pipeline⟩, notification.world,
          opening ++ (quietLines notification.event).map .logged⟩ := by
  have hdecides := Window.decide_after options.seconds hcount hword hascending
  rw [← armed.heuristic] at hdecides
  simp only [Controller.answer_eq, hdecides, decide_eq_true_eq, openingLines]

/-- One notification. -/
theorem answers (armed : controller.Armed options past) (hcount : options.count < Window.wordMax)
    (hword : notification.now ≤ Window.wordMax)
    (hascending : (past ++ [notification.now]).Pairwise (· ≤ ·)) :
    controller.Answers options (past ++ [notification.now]) notification := by
  constructor
  · rw [armed.answer_eq notification hcount hword hascending]
    dsimp only
    split
    · exact ⟨_, rfl, armed.afterwards rfl⟩
    · exact ⟨_, rfl, ⟨rfl, armed.signal, armed.builtIn, armed.ownSignals⟩⟩
  · intro hfew around
    rw [armed.answer_eq { notification with around := around } hcount hword hascending]
    simp only [Nat.not_lt.mpr hfew, if_false, Nat.min_eq_left (Nat.le_succ_of_le hfew),
      List.map_append]
    exact ⟨_, rfl⟩
  · intro hmany acted killed
    have hraises := Pipeline.raises_forM_runAction notification.around notification.event
      armed.builtIn
    rw [armed.ownSignals] at hraises
    rw [armed.answer_eq notification hcount hword hascending, Pipeline.run_runAll, armed.signal]
    simp only [hmany, if_true, Nat.min_eq_right hmany]
    refine ⟨rfl, (List.append_assoc _ _ _).symm, hraises _, ?_⟩
    exact Pipeline.signals_runAction_kill _ _ _ _

/-- One notification after another. -/
theorem serve_answers (armed : controller.Armed options past)
    (hcount : options.count < Window.wordMax) {notifications : List (Notification σ κ)}
    (hword : ∀ notification ∈ notifications, notification.now ≤ Window.wordMax)
    (hascending : (past ++ notifications.map Notification.now).Pairwise (· ≤ ·)) :
    (controller.serve notifications).length = notifications.length ∧
      ∀ place (hplace : place < notifications.length), ∃ before : Controller σ κ,
        (controller.serve notifications)[place]? = some (before.answer notifications[place]) ∧
        before.Answers options (past ++ (notifications.map Notification.now).take (place + 1))
          notifications[place] := by
  -- each answer leaves a controller behind that has heard of one more reading
  induction notifications generalizing controller past with
  | nil => exact ⟨rfl, nofun⟩
  | cons notification rest ih =>
      have hsplit : past ++ (notification :: rest).map Notification.now =
          (past ++ [notification.now]) ++ rest.map Notification.now := by simp
      rw [hsplit] at hascending
      have hanswers : controller.Answers options (past ++ [notification.now]) notification :=
        armed.answers hcount (hword _ List.mem_cons_self) (List.pairwise_append.mp hascending).1
      obtain ⟨next, hnext, harmed⟩ := hanswers.armed
      obtain ⟨hlength, hrest⟩ := ih harmed
        (fun other hother => hword other (List.mem_cons_of_mem _ hother)) hascending
      simp only [serve, hnext]
      refine ⟨congrArg Nat.succ hlength, fun place hplace => ?_⟩
      cases place with
      | zero => exact ⟨controller, rfl, hanswers⟩
      | succ place =>
          obtain ⟨before, hrun, hbefore⟩ := hrest place (Nat.lt_of_succ_lt_succ hplace)
          refine ⟨before, hrun, ?_⟩
          simpa [List.take_succ_cons] using hbefore

end Armed

/-- A controller that options ask for answers every notification of a run, and answers it by how
many of the notifications up to it fall into the window, whatever its actions did before. -/
theorem serve_ofOptions (options : Options) (hcount : options.count < Window.wordMax)
    (notifications : List (Notification σ κ))
    (hword : ∀ notification ∈ notifications, notification.now ≤ Window.wordMax)
    (hascending : (notifications.map Notification.now).Pairwise (· ≤ ·)) :
    ((ofOptions options).serve notifications).length = notifications.length ∧
      ∀ place (hplace : place < notifications.length), ∃ before : Controller σ κ,
        ((ofOptions options).serve notifications)[place]? =
          some (before.answer notifications[place]) ∧
        before.Answers options ((notifications.map Notification.now).take (place + 1))
          notifications[place] :=
  (armed_ofOptions options).serve_answers hcount hword hascending

/-- A window of one second that one event may fall into, and a thread dump before the end. -/
def cautious : Options :=
  { Options.default with count := 1, threadDump := true }

/-- A system that delivers no signal. -/
def deliversNothing : System :=
  .inMemory ⟨[]⟩ "/" (fun _ => some .perm) ⟨⟨1970, 1, 1⟩, 0, 0, 0, 0, .utc⟩

/-- A notification that finds an empty heap and an output without any room. -/
def cramped (now : Nat) : Notification InMemory LimitedSink where
  around := ⟨InMemory.host, LimitedSink.operations⟩
  world := ⟨InMemory.empty, ⟨some 0, true⟩, deliversNothing⟩
  now := now
  event := .javaHeap

/-- The second event falls on the very edge of the window of the first, the third behind it. -/
theorem serve_cautious :
    ∃ first second third : Run (World InMemory LimitedSink) (Controller InMemory LimitedSink),
      (ofOptions cautious).serve [cramped 5, cramped 1005, cramped 2006] =
        [first, second, third] ∧
      Trace.signals first.trace = [] ∧ Trace.signals third.trace = [] ∧
      ∃ early : List Signal, early.Sublist [.quit] ∧
        Trace.signals second.trace = early ++ [.kill] := by
  obtain ⟨hlength, hanswers⟩ := serve_ofOptions cautious (by decide)
    [cramped 5, cramped 1005, cramped 2006] (by decide) (by decide)
  obtain ⟨first, second, third, hserve⟩ := List.length_eq_three.mp hlength
  rw [hserve] at hanswers
  obtain ⟨_, hfirst, hanswersFirst⟩ := hanswers 0 (by decide)
  obtain ⟨_, hsecond, hanswersSecond⟩ := hanswers 1 (by decide)
  obtain ⟨_, hthird, hanswersThird⟩ := hanswers 2 (by decide)
  obtain rfl := Option.some.inj hfirst
  obtain rfl := Option.some.inj hsecond
  obtain rfl := Option.some.inj hthird
  exact ⟨_, _, _, hserve, hanswersFirst.signals_of_few (by decide),
    hanswersThird.signals_of_few (by decide), hanswersSecond.signals_of_many (by decide)⟩

end Controller

end ExhaustionGuard
