import ChainFlow.Proofs.Flow.DryRun
import ChainFlow.Proofs.Flow.LiveRun
import ChainFlow.Proofs.Flow.Settling

/-!
# The steps of a run, one by one

A `Visit` is a step as it was taken: at which location, in which world, and what came of it.
`performVisits` and `quoteVisits` go through a plan as `performSteps` and `quoteSteps` do, and list
their visits. These make a `Tour`: the plan hands out the steps one after the other, each is taken
where the one before has led, and between two of them nothing is sent and no hash is issued.
-/

namespace ChainFlow

variable {σ α : Type}

structure Visit (σ α : Type) where
  step : FlowStep
  location : Location
  before : World σ
  results : List α
  after : World σ

namespace Visit

/-- A step that is taken by one of the two ways of taking steps. -/
def of (take : FlowStep → Location → World σ → List α × World σ) (step : FlowStep)
    (location : Location) (before : World σ) : Visit σ α :=
  ⟨step, location, before, (take step location before).1, (take step location before).2⟩

/-- The calls that were sent for a step. -/
def sent (visit : Visit σ α) : List Call := visit.after.calls.drop visit.before.calls.length

theorem sent_eq {visit : Visit σ α} {calls : List Call}
    (calls_eq : visit.after.calls = visit.before.calls ++ calls) : visit.sent = calls := by
  rw [sent, calls_eq, List.drop_left]

end Visit

/-- Two worlds between which no step was begun, no call sent and no hash issued. -/
structure Idle (before after : World σ) : Prop where
  calls_eq : after.calls = before.calls
  begun_eq : Trace.begun after.journal = Trace.begun before.journal
  issued_eq : after.issued = before.issued

theorem idle_of_journal {before after : World σ} {events : List Event}
    (journal : after.journal = before.journal ++ events)
    (rests : ∀ event ∈ events, event.isWork = false) (issued_eq : after.issued = before.issued) :
    Idle before after := by
  refine ⟨Trace.calls_of_idle journal rests, ?_, issued_eq⟩
  rw [journal, Trace.begun_append, List.append_right_eq_self, Trace.begun, List.filterMap_eq_nil_iff]
  intro event member
  have idle := rests event member
  cases event <;> first | rfl | cases idle

/-! ## Tours -/

inductive Tour (take : FlowStep → Location → World σ → List α × World σ) (edges : List Edge) :
    List Node → Location → World σ → List (Visit σ α) → World σ → Prop
  | ended {rest : List Node} {location : Location} {world final : World σ} :
      Idle world final → Tour take edges rest location world [] final
  | went {mayFuse : Bool} {rest later : List Node} {step : FlowStep} {location : Location}
      {world opened next final : World σ} {visits : List (Visit σ α)} :
      Plan.Issues edges mayFuse rest step later → Idle world opened →
      Idle (Visit.of take step location (opened.log (.began step.ids))).after next →
      Tour take edges later (location.after step.first) next visits final →
      Tour take edges rest location world
        (Visit.of take step location (opened.log (.began step.ids)) :: visits) final

namespace Tour

variable {take : FlowStep → Location → World σ → List α × World σ} {edges : List Edge}
  {rest : List Node} {location : Location} {world final : World σ} {visits : List (Visit σ α)}

theorem taken (tour : Tour take edges rest location world visits final) :
    ∀ visit ∈ visits, visit.step.IsSound ∧
      visit = Visit.of take visit.step visit.location visit.before := by
  induction tour with
  | ended _ => simp
  | went issues _ _ _ ih => exact List.forall_mem_cons.mpr ⟨⟨issues.isSound, rfl⟩, ih⟩

theorem calls_eq (tour : Tour take edges rest location world visits final)
    (sends : ∀ visit ∈ visits, visit.before.calls <+: visit.after.calls) :
    final.calls = world.calls ++ visits.flatMap Visit.sent := by
  induction tour with
  | ended idle => simp [idle.calls_eq]
  | @went mayFuse rest later step location world opened next final visits issues idle telling _ ih =>
      rw [List.forall_mem_cons] at sends
      obtain ⟨calls, sent⟩ := sends.1
      have opening : (opened.log (.began step.ids)).calls = world.calls := by
        rw [log_calls, List.append_nil, idle.calls_eq]
      rw [ih sends.2, telling.calls_eq, List.flatMap_cons, Visit.sent_eq sent.symm, ← sent]
      simp only [Visit.of, opening, List.append_assoc]

theorem issued_eq (tour : Tour take edges rest location world visits final)
    (keeps : ∀ visit ∈ visits, visit.after.issued = visit.before.issued) :
    final.issued = world.issued := by
  induction tour with
  | ended idle => exact idle.issued_eq
  | went issues idle telling _ ih =>
      rw [List.forall_mem_cons] at keeps
      exact (ih keeps.2).trans (telling.issued_eq.trans (keeps.1.trans idle.issued_eq))

theorem begun_eq (tour : Tour take edges rest location world visits final)
    (keeps : ∀ visit ∈ visits, Trace.begun visit.after.journal = Trace.begun visit.before.journal) :
    Trace.begun final.journal = Trace.begun world.journal ++ visits.map (·.step.ids) := by
  induction tour with
  | ended idle => simp [idle.begun_eq]
  | @went mayFuse rest later step location world opened next final visits issues idle telling _ ih =>
      rw [List.forall_mem_cons] at keeps
      have opening : Trace.begun (opened.log (.began step.ids)).journal =
          Trace.begun world.journal ++ [step.ids] := by
        rw [log_journal, Trace.begun_append, idle.begun_eq]
        rfl
      rw [ih keeps.2, telling.begun_eq, keeps.1]
      simp only [Visit.of, opening, List.map_cons, List.append_assoc, List.singleton_append]

end Tour

namespace Engine

variable (engine : Engine σ)

/-! ## Runs -/

/-- `performSteps`, with the visits listed. -/
def performVisits (delay : Int) (observer : Option Observer) :
    Nat → Bool → Plan → Location → FlowRun → World σ → List (Visit σ Outcome) × FlowRun × World σ
  | 0, _, _, _, run, world => ([], run.finish .completed world.clock, world)
  | fuel + 1, first, plan, location, run, world =>
    let (live, world) := engine.probe world
    match plan.next live with
    | (.error fault, _) => ([], run.abortIn fault world)
    | (.ok none, _) => ([], run.finish .completed world.clock, world)
    | (.ok (some step), plan) =>
      let before := (pace delay first world).log (.began step.ids)
      let (outcomes, after) := engine.performStepSafely step location before
      let visit := ⟨step, location, before, outcomes, after⟩
      match FlowRun.recordAll observer (run.begin step.first.id) outcomes after with
      | (some fault, run, world) => ([visit], run.abortIn fault world)
      | (none, run, world) =>
        match plan.complete step with
        | (.error fault, _) => ([visit], run.abortIn fault world)
        | (.ok (), plan) =>
          if outcomes.all (·.success) then
            let (visits, result) :=
              performVisits delay observer fuel false plan (location.after step.first) run world
            (visit :: visits, result)
          else ([visit], run.finish .failed world.clock, world)

/-- `performFlow`, with the visits listed. -/
def performFlowVisits (delay : Int) (observer : Option Observer) (nodes : List Node)
    (edges : List Edge) (world : World σ) : List (Visit σ Outcome) × FlowRun × World σ :=
  let run := FlowRun.start world.clock
  match Graph.requireRunnable nodes with
  | .error cause => ([], run.abortIn (.unrunnable cause) world)
  | .ok (_, start) =>
    let order := Graph.order nodes edges
    engine.performVisits delay observer (order.length + 1) true (.ofOrder order edges)
      (.ofStart start) run world

theorem performVisits_snd (delay : Int) (observer : Option Observer) (fuel : Nat) (first : Bool)
    (plan : Plan) (location : Location) (run : FlowRun) (world : World σ) :
    (engine.performVisits delay observer fuel first plan location run world).2 =
      engine.performSteps delay observer fuel first plan location run world := by
  induction fuel generalizing first plan location run world with
  | zero => rfl
  | succ fuel ih =>
      -- Both put the same questions in the same order; the visits are only carried along.
      unfold performVisits performSteps
      rcases engine.probe world with ⟨live, probed⟩
      dsimp only
      rcases plan.next live with ⟨fault | _ | step, handed⟩
      · rfl
      · rfl
      · dsimp only
        rcases engine.performStepSafely step location
          ((pace delay first probed).log (.began step.ids)) with ⟨outcomes, after⟩
        dsimp only
        rcases FlowRun.recordAll observer (run.begin step.first.id) outcomes after with
          ⟨_ | fault, run', told⟩
        · rcases handed.complete step with ⟨fault | _, done⟩
          · rfl
          · dsimp only
            cases outcomes.all (·.success) with
            | true => exact ih _ _ _ _ _
            | false => rfl
        · rfl

theorem performFlowVisits_snd (delay : Int) (observer : Option Observer) (nodes : List Node)
    (edges : List Edge) (world : World σ) :
    (engine.performFlowVisits delay observer nodes edges world).2 =
      engine.performFlow delay observer nodes edges world := by
  unfold performFlowVisits performFlow
  cases Graph.requireRunnable nodes with
  | error cause => rfl
  | ok found => exact engine.performVisits_snd _ _ _ _ _ _ _ _

theorem performVisits_of_steps {plan handed done : Plan} {step : FlowStep} {world : World σ}
    (steps : plan.Steps (engine.probe world).1 step handed done) (delay : Int)
    (observer : Option Observer) (fuel : Nat) (first : Bool) (location : Location) (run : FlowRun) :
    engine.performVisits delay observer (fuel + 1) first plan location run world =
      let visit := Visit.of engine.performStepSafely step location (engine.opened delay first step world)
      match engine.recordedStep delay observer first step location run world with
      | (some fault, run, world) => ([visit], run.abortIn fault world)
      | (none, run, world') =>
        if visit.results.all (·.success) then
          let rest := engine.performVisits delay observer fuel false done (location.after step.first)
            run world'
          (visit :: rest.1, rest.2)
        else ([visit], run.finish .failed world'.clock, world') := by
  simp only [performVisits, recordedStep, performedStep, opened, steps.next, steps.complete]
  rfl

/-- What the visits of a run tell: how it went, and whose its outcomes are. -/
structure Recounts (plan : Plan) (location : Location) (run : FlowRun) (world : World σ)
    (visits : List (Visit σ Outcome)) (result : FlowRun × World σ) : Prop where
  tour : Tour engine.performStepSafely plan.edges plan.rest location world visits result.2
  told : ∀ outcome ∈ result.1.outcomes, outcome ∈ run.outcomes ∨
    (∃ visit ∈ visits, outcome ∈ visit.results) ∨
    ∃ fault now, outcome = FlowRun.faultOutcome fault now

theorem idle_probe (world : World σ) : Idle world (engine.probe world).2 :=
  idle_of_journal (by rw [List.append_nil, probe_journal]) (by simp) (engine.probe_issued world)

theorem idle_pace (delay : Int) (first : Bool) (world : World σ) :
    Idle world (pace delay first (engine.probe world).2) := by
  obtain ⟨pauses, paced, paused⟩ := pace_journal delay first (engine.probe world).2
  refine idle_of_journal (by rw [paced, probe_journal]) (fun event member => ?_) ?_
  · rw [paused event member]
    rfl
  · unfold pace
    split <;> exact engine.probe_issued world

theorem idle_abort (run : FlowRun) (fault : Fault) (world : World σ) :
    Idle world (run.abortIn fault world).2 :=
  idle_of_journal rfl (List.forall_mem_singleton.mpr rfl) rfl

variable {engine} in
theorem Recounts.of_idle {plan : Plan} {location : Location} {run : FlowRun} {world : World σ}
    {result : FlowRun × World σ} (idle : Idle world result.2)
    (told : ∀ outcome ∈ result.1.outcomes, outcome ∈ run.outcomes ∨
      ∃ fault now, outcome = FlowRun.faultOutcome fault now) :
    engine.Recounts plan location run world [] result :=
  ⟨.ended idle, fun outcome member => (told outcome member).imp_right .inr⟩

/-- A step in front of what the visits after it tell. -/
theorem Recounts.went {delay : Int} {observer : Option Observer} {first : Bool}
    {plan handed done : Plan} {step : FlowStep} {location : Location} {run run' : FlowRun}
    {world world' : World σ} {fault? : Option Fault} {visits : List (Visit σ Outcome)}
    {result : FlowRun × World σ} (steps : plan.Steps (engine.probe world).1 step handed done)
    (answer : engine.recordedStep delay observer first step location run world =
      (fault?, run', world'))
    (rest : engine.Recounts done (location.after step.first) run' world' visits result) :
    engine.Recounts plan location run world
      (Visit.of engine.performStepSafely step location (engine.opened delay first step world) :: visits)
      result := by
  obtain ⟨told, reports, telling⟩ := told_recordAll observer (run.begin step.first.id)
    (engine.performedStep delay first step location world).1
    (engine.performedStep delay first step location world).2
  rw [recordedStep] at answer
  rw [answer] at telling
  have idle := idle_of_journal telling.journal (Trace.idle_of_isReport telling.isReport).2.2
    telling.issued_eq
  refine ⟨.went steps.issues (engine.idle_pace delay first world) idle ?_, fun outcome member => ?_⟩
  · rw [← steps.edges_eq]
    exact rest.tour
  · rcases rest.told outcome member with known | ⟨visit, visited, among⟩ | fault
    · rw [telling.outcomes_eq] at known
      exact (List.mem_append.mp known).imp_right fun own =>
        .inl ⟨_, List.mem_cons_self, telling.told_initial.subset own⟩
    · exact .inr (.inl ⟨visit, List.mem_cons_of_mem _ visited, among⟩)
    · exact .inr (.inr fault)

theorem recounts_performVisits (delay : Int) (observer : Option Observer) (fuel : Nat) (first : Bool)
    {plan : Plan} (location : Location) (run : FlowRun) (world : World σ)
    (ready : Plan.Ready plan.rest plan.states) :
    engine.Recounts plan location run world
      (engine.performVisits delay observer fuel first plan location run world).1
      (engine.performVisits delay observer fuel first plan location run world).2 := by
  induction fuel generalizing first plan location run world with
  | zero => exact .of_idle ⟨rfl, rfl, rfl⟩ fun _ member => .inl member
  | succ fuel ih =>
      rcases Plan.next_of_ready (engine.probe world).1 ready with
        ⟨after, exhausted, _⟩ | ⟨step, handed, done, steps⟩
      · simp only [performVisits, exhausted]
        exact .of_idle (engine.idle_probe world) fun _ member => .inl member
      -- The step has been visited whether the run goes on, fails, or is stopped by its observer.
      · rw [engine.performVisits_of_steps steps]
        rcases answer : engine.recordedStep delay observer first step location run world with
          ⟨_ | fault, run', world'⟩
        · dsimp only
          split
          · exact .went engine steps answer (ih _ _ _ _ steps.ready)
          · exact .went engine steps answer (.of_idle ⟨rfl, rfl, rfl⟩ fun _ member => .inl member)
        · refine .went engine steps answer (.of_idle (idle_abort run' fault world') ?_)
          intro outcome member
          exact (List.mem_append.mp member).imp_right fun last => ⟨fault, _, List.mem_singleton.mp last⟩

theorem recounts_performFlow {nodes : List Node} {node : Node} {start : Start}
    (runnable : Graph.requireRunnable nodes = .ok (node, start)) (delay : Int)
    (observer : Option Observer) (edges : List Edge) (world : World σ) :
    engine.Recounts (.ofOrder (Graph.order nodes edges) edges) (.ofStart start)
      (FlowRun.start world.clock) world
      (engine.performFlowVisits delay observer nodes edges world).1
      (engine.performFlow delay observer nodes edges world) := by
  have ready := Plan.ready_of_runnable runnable edges
  rw [← engine.performFlowVisits_snd]
  simp only [performFlowVisits, runnable]
  exact engine.recounts_performVisits _ _ _ _ _ _ _ ready

/-! ## Dry runs -/

/-- `quoteSteps`, with the visits listed. -/
def quoteVisits : Nat → Plan → Location → Tally → World σ →
    List (Visit σ Quote) × Except Fault Tally × World σ
  | 0, _, _, tally, world => ([], .ok tally, world)
  | fuel + 1, plan, location, tally, world =>
    let (live, world) := engine.probe world
    match plan.next live with
    | (.error fault, _) => ([], .error fault, world)
    | (.ok none, _) => ([], .ok tally, world)
    | (.ok (some step), plan) =>
      let before := world.log (.began step.ids)
      let (quotes, after) := engine.quoteStepSafely step location before
      let visit := ⟨step, location, before, quotes, after⟩
      match addAll tally quotes with
      | (.error fault, _) => ([visit], .error fault, after)
      | (.ok (), tally) =>
        match plan.complete step with
        | (.error fault, _) => ([visit], .error fault, after)
        | (.ok (), plan) =>
          let (visits, result) := quoteVisits fuel plan (location.after step.first) tally after
          (visit :: visits, result)

/-- `quoteFlow`, with the visits listed. -/
def quoteFlowVisits (rate : Binary64) (nodes : List Node) (edges : List Edge) (world : World σ) :
    List (Visit σ Quote) × Except Fault FlowQuote × World σ :=
  match Graph.requireRunnable nodes with
  | .error cause => ([], .error (.unrunnable cause), world)
  | .ok (_, start) =>
    let order := Graph.order nodes edges
    match engine.quoteVisits (order.length + 1) (.ofOrder order edges) (.ofStart start) .empty
        world with
    | (visits, .error fault, world) => (visits, .error fault, world)
    | (visits, .ok tally, world) => (visits, tally.build rate, world)

theorem quoteVisits_snd (fuel : Nat) (plan : Plan) (location : Location) (tally : Tally)
    (world : World σ) : (engine.quoteVisits fuel plan location tally world).2 =
      engine.quoteSteps fuel plan location tally world := by
  induction fuel generalizing plan location tally world with
  | zero => rfl
  | succ fuel ih =>
      unfold quoteVisits quoteSteps
      rcases engine.probe world with ⟨live, probed⟩
      dsimp only
      rcases plan.next live with ⟨fault | _ | step, handed⟩
      · rfl
      · rfl
      · dsimp only
        rcases engine.quoteStepSafely step location (probed.log (.began step.ids)) with ⟨quotes, after⟩
        dsimp only
        rcases addAll tally quotes with ⟨fault | _, total⟩
        · rfl
        · rcases handed.complete step with ⟨fault | _, done⟩
          · rfl
          · exact ih _ _ _ _

theorem quoteFlowVisits_snd (rate : Binary64) (nodes : List Node) (edges : List Edge)
    (world : World σ) : (engine.quoteFlowVisits rate nodes edges world).2 =
      engine.quoteFlow rate nodes edges world := by
  unfold quoteFlowVisits quoteFlow
  cases Graph.requireRunnable nodes with
  | error cause => rfl
  | ok found =>
      dsimp only
      rw [← quoteVisits_snd]
      rcases engine.quoteVisits _ _ _ _ world with ⟨visits, fault | tally, after⟩ <;> rfl

theorem quoteFlowVisits_fst {nodes : List Node} {node : Node} {start : Start}
    (runnable : Graph.requireRunnable nodes = .ok (node, start)) (rate : Binary64)
    (edges : List Edge) (world : World σ) :
    (engine.quoteFlowVisits rate nodes edges world).1 =
      (engine.quoteVisits ((Graph.order nodes edges).length + 1)
        (.ofOrder (Graph.order nodes edges) edges) (.ofStart start) .empty world).1 := by
  simp only [quoteFlowVisits, runnable]
  rcases engine.quoteVisits _ _ _ _ world with ⟨visits, fault | tally, after⟩ <;> rfl

/-- What the visits of a dry run tell: how it went, and which quotes it gives. -/
structure Lists (plan : Plan) (location : Location) (tally : Tally) (world : World σ)
    (visits : List (Visit σ Quote)) (result : Except Fault Tally × World σ) : Prop where
  tour : Tour engine.quoteStepSafely plan.edges plan.rest location world visits result.2
  quotes : ∀ total, result.1 = .ok total →
    total.quotes = tally.quotes ++ visits.flatMap (·.results)

theorem lists_quoteVisits (fuel : Nat) {plan : Plan} (location : Location) (tally : Tally)
    (world : World σ) (ready : Plan.Ready plan.rest plan.states) :
    engine.Lists plan location tally world (engine.quoteVisits fuel plan location tally world).1
      (engine.quoteVisits fuel plan location tally world).2 := by
  induction fuel generalizing plan location tally world with
  | zero =>
      refine ⟨.ended ⟨rfl, rfl, rfl⟩, ?_⟩
      rintro _ ⟨⟩
      exact (List.append_nil _).symm
  | succ fuel ih =>
      rcases Plan.next_of_ready (engine.probe world).1 ready with
        ⟨after, exhausted, _⟩ | ⟨step, handed, done, steps⟩
      · simp only [quoteVisits, exhausted]
        refine ⟨.ended (engine.idle_probe world), ?_⟩
        rintro _ ⟨⟩
        exact (List.append_nil _).symm
      · have opening := engine.idle_probe world
        simp only [quoteVisits, steps.next, steps.complete]
        rcases added : addAll tally (engine.quoteStepSafely step location
          ((engine.probe world).2.log (.began step.ids))).1 with ⟨fault | _, total⟩
        · exact ⟨.went steps.issues opening ⟨rfl, rfl, rfl⟩ (.ended ⟨rfl, rfl, rfl⟩), by rintro _ ⟨⟩⟩
        · have rest := ih (location.after step.first) total (engine.quoteStepSafely step location
            ((engine.probe world).2.log (.began step.ids))).2 steps.ready
          refine ⟨.went steps.issues opening ⟨rfl, rfl, rfl⟩ ?_, fun final ended => ?_⟩
          · rw [← steps.edges_eq]
            exact rest.tour
          · rw [rest.quotes final ended, quotes_addAll added, List.flatMap_cons, List.append_assoc]

theorem tour_quoteFlow {nodes : List Node} {node : Node} {start : Start}
    (runnable : Graph.requireRunnable nodes = .ok (node, start)) (rate : Binary64)
    (edges : List Edge) (world : World σ) :
    Tour engine.quoteStepSafely edges (Graph.order nodes edges) (.ofStart start) world
        (engine.quoteFlowVisits rate nodes edges world).1
        (engine.quoteFlow rate nodes edges world).2 ∧
      ∀ quote, (engine.quoteFlow rate nodes edges world).1 = .ok quote →
        quote.quotes = (engine.quoteFlowVisits rate nodes edges world).1.flatMap (·.results) := by
  have ready := Plan.ready_of_runnable runnable edges
  have lists := engine.lists_quoteVisits ((Graph.order nodes edges).length + 1) (.ofStart start)
    .empty world ready
  rw [← engine.quoteFlowVisits_snd]
  simp only [quoteFlowVisits, runnable]
  rcases visited : engine.quoteVisits ((Graph.order nodes edges).length + 1)
    (.ofOrder (Graph.order nodes edges) edges) (.ofStart start) .empty world with
    ⟨visits, fault | tally, after⟩ <;> rw [visited] at lists
  · exact ⟨lists.tour, by rintro quote ⟨⟩⟩
  · exact ⟨lists.tour, fun quote built => (quotes_build built).trans (lists.quotes tally rfl)⟩

end Engine

end ChainFlow
