import ChainFlow.Proofs.Holdings.Totals
import ChainFlow.Proofs.Sample
import ChainFlow.Proofs.World.Inquiry

/-!
# Holdings that are kept

A service of holdings is asked for statements, for one token and for the worth on each chain, its
holdings are cleared, and the world moves on in between. `Fact` is what the answers depend on: the
reports of the backend that came in, and the clearings. `Serves` says which answer a statement is,
given the facts: the last report, if it is recent and no other is asked for, and otherwise what the
backend says now; `Looking` says the same of the holdings that are kept. The answers of the service
are these, whatever it is asked for (`serving_obeyAll`).
-/

namespace ChainFlow

variable {σ : Type}

/-! ## Asking a service of holdings -/

namespace Holdings

inductive Command (σ : Type) where
  | statement (fresh : Bool)
  | holding (symbol : String)
  | worth
  | clear
  | meanwhile (move : World σ → World σ)

def Command.IsForward : Command σ → Prop
  | meanwhile move => ∀ world, world.clock ≤ (move world).clock
  | _ => True

inductive Told where
  | statement (answer : Except Fault Statement)
  | holding (answer : Except Fault (Option Holding))
  | worth (answer : Except Fault (List (ChainId × Decimal)))
  | nothing

end Holdings

namespace Engine

open Holdings (Command)

def obey (engine : Engine σ) (lifetime : Int) (kept : Option Holdings) (world : World σ) :
    Command σ → Holdings.Told × Option Holdings × World σ
  | .statement fresh =>
    let (answer, kept, world) := engine.holdings lifetime fresh kept world
    (.statement answer, kept, world)
  | .holding symbol =>
    let (answer, kept, world) := engine.holding lifetime symbol kept world
    (.holding answer, kept, world)
  | .worth =>
    let (answer, kept, world) := engine.worthByChain lifetime kept world
    (.worth answer, kept, world)
  | .clear => (.nothing, none, world)
  | .meanwhile move => (.nothing, kept, move world)

def obeyAll (engine : Engine σ) (lifetime : Int) (kept : Option Holdings) (world : World σ) :
    List (Command σ) → List Holdings.Told × Option Holdings × World σ
  | [] => ([], kept, world)
  | command :: rest =>
    let (told, kept, world) := engine.obey lifetime kept world command
    let (others, kept, world) := engine.obeyAll lifetime kept world rest
    (told :: others, kept, world)

end Engine

/-! ## What the answers depend on -/

/-- Assets that a backend reported: the world in which it was asked, the time of its answer, and the
holdings that they amount to. -/
structure Report (σ : Type) where
  asked : World σ
  assets : List Asset
  time : Int
  holdings : Holdings

inductive Fact (σ : Type) where
  | reported (report : Report σ)
  | cleared

namespace Fact

/-- The reports since the last clearing; all lists of facts begin with the last one. -/
def stored : List (Fact σ) → List (Report σ)
  | [] => []
  | reported report :: past => report :: stored past
  | cleared :: _ => []

end Fact

namespace Engine

structure Made (engine : Engine σ) (report : Report σ) (after : World σ) : Prop where
  fetched : engine.assets.runIn report.asked = (.ok report.assets, after)
  time_eq : report.time = after.clock
  totals : Holdings.ofAssets (engine.userIn report.asked) report.time report.assets =
    .ok report.holdings

end Engine

/-- Whether the backend is to be asked: if that is wanted, or if no report is recent. -/
def IsDue (lifetime : Int) (past : List (Fact σ)) (now : Int) (fresh : Bool) : Prop :=
  fresh = true ∨ ∀ report ∈ Fact.stored past, lifetime < now - 1000 * report.holdings.taken

namespace Engine

/-- The answer to a request for a statement, with the world and the facts afterwards. -/
inductive Serves (engine : Engine σ) (lifetime : Int) (past : List (Fact σ)) (world : World σ)
    (fresh : Bool) : Except Fault Statement → World σ → List (Fact σ) → Prop
  | given {report : Report σ} {older : List (Report σ)}
      (spared : ¬ IsDue lifetime past world.clock fresh)
      (latest : Fact.stored past = report :: older)
      (recent : world.clock - 1000 * report.holdings.taken ≤ lifetime)
      -- before the epoch, a time in whole seconds lies after the time itself
      (young : 0 ≤ report.time → world.clock - report.time ≤ lifetime) :
      Serves engine lifetime past world fresh (.ok (.holds report.holdings true)) world past
  | reported {report : Report σ} {after : World σ} (due : IsDue lifetime past world.clock fresh)
      (asked : report.asked = world) (made : engine.Made report after) :
      Serves engine lifetime past world fresh (.ok (.holds report.holdings false)) after
        (.reported report :: past)
  | unavailable {fault : Fault} {after : World σ} (due : IsDue lifetime past world.clock fresh)
      (failed : engine.assets.runIn world = (.error fault, after)) :
      Serves engine lifetime past world fresh
        (.ok (.unavailable (engine.userIn world) fault.message)) after past
  | unpriced {assets : List Asset} {asset : Asset} {fault : Fault} {after : World σ}
      (due : IsDue lifetime past world.clock fresh)
      (fetched : engine.assets.runIn world = (.ok assets, after)) (member : asset ∈ assets)
      (odd : ¬ asset.IsPriced) :
      Serves engine lifetime past world fresh (.error fault) after past

open Holdings (Command)

/-- The answers to all requests. -/
inductive Serving (engine : Engine σ) (lifetime : Int) : List (Fact σ) → World σ →
    List (Command σ) → List Holdings.Told → List (Fact σ) → World σ → Prop
  | done {past : List (Fact σ)} {world : World σ} :
      Serving engine lifetime past world [] [] past world
  | statement {past next last : List (Fact σ)} {world after final : World σ} {fresh : Bool}
      {answer : Except Fault Statement} {commands : List (Command σ)} {told : List Holdings.Told}
      (serves : engine.Serves lifetime past world fresh answer after next)
      (rest : engine.Serving lifetime next after commands told last final) :
      Serving engine lifetime past world (.statement fresh :: commands) (.statement answer :: told)
        last final
  | holding {past next last : List (Fact σ)} {world after final : World σ} {symbol : String}
      {answer : Except Fault Statement} {commands : List (Command σ)} {told : List Holdings.Told}
      (serves : engine.Serves lifetime past world false answer after next)
      (rest : engine.Serving lifetime next after commands told last final) :
      Serving engine lifetime past world (.holding symbol :: commands)
        (.holding (answer.map (·.token? symbol)) :: told) last final
  | worth {past next last : List (Fact σ)} {world after final : World σ}
      {answer : Except Fault Statement} {commands : List (Command σ)} {told : List Holdings.Told}
      (serves : engine.Serves lifetime past world false answer after next)
      (rest : engine.Serving lifetime next after commands told last final) :
      Serving engine lifetime past world (.worth :: commands)
        (.worth (answer.bind (·.byChain)) :: told) last final
  | cleared {past last : List (Fact σ)} {world final : World σ} {commands : List (Command σ)}
      {told : List Holdings.Told}
      (rest : engine.Serving lifetime (.cleared :: past) world commands told last final) :
      Serving engine lifetime past world (.clear :: commands) (.nothing :: told) last final
  | meanwhile {past last : List (Fact σ)} {world final : World σ} {move : World σ → World σ}
      {commands : List (Command σ)} {told : List Holdings.Told}
      (rest : engine.Serving lifetime past (move world) commands told last final) :
      Serving engine lifetime past world (.meanwhile move :: commands) (.nothing :: told) last final

/-! ## Asking the backend -/

variable {engine : Engine σ}

/-- No answer of the backend comes before its question. -/
def IsPrompt (engine : Engine σ) : Prop :=
  ∀ backend, engine.backend = some backend → ∀ call state, 0 ≤ (backend.answer call state).1.elapsed

theorem runIn_askHoldings (engine : Engine σ) (world : World σ) :
    engine.askHoldings.runIn world =
      match engine.assets.runIn world with
      | (.ok assets, after) =>
        ((Holdings.ofAssets (engine.userIn world) after.clock assets).map (.holds · false), after)
      | (.error fault, after) =>
        (.ok (.unavailable (engine.userIn world) fault.message), after) := by
  unfold askHoldings
  refine (Act.runIn_bind_ok rfl _).trans ?_
  rw [Act.runIn_bind_ok (Act.runIn_attempt engine.assets world)]
  rcases engine.assets.runIn world with ⟨fault | assets, after⟩
  · rfl
  · refine (Act.runIn_bind_ok rfl _).trans ?_
    dsimp only
    show (Act.ofExcept (Holdings.ofAssets (engine.userIn world) after.clock assets) >>= _).runIn _ =
      _
    cases totals : Holdings.ofAssets (engine.userIn world) after.clock assets with
    | error fault => rfl
    | ok holdings => rfl

theorem within_assets (prompt : engine.IsPrompt) :
    Act.Within (fun before after => before.clock ≤ after.clock) engine.assets := by
  refine Act.within_bind (fun world => .single ?_) fun live => ?_
  · show world.clock ≤ (engine.probe world).2.clock
    unfold probe
    split <;> exact le_rfl
  refine Act.within_ite (Act.within_bind (fun world => .single ?_) fun _ => Act.within_ofExcept _)
    (Act.within_throw _)
  cases connected : engine.backend with
  | none => simp [send, Act.runIn, connected]
  | some backend =>
      rw [engine.runIn_send connected]
      exact Int.le_add_of_nonneg_right (prompt backend connected _ world.backend)

theorem clock_le_assets (prompt : engine.IsPrompt) (world : World σ) :
    world.clock ≤ (engine.assets.runIn world).2.clock := by
  generalize after_eq : (engine.assets.runIn world).2 = after
  have moves := within_assets prompt world
  rw [after_eq] at moves
  clear after_eq
  induction moves with
  | refl => exact le_rfl
  | tail _ step ih => exact ih.trans step

/-! ## One statement -/

end Engine

namespace Holdings

variable {lifetime now : Int} {fresh : Bool} {kept : Option Holdings} {held : Holdings}

/-- What is left of the holdings that are kept when a statement is asked for. -/
def left (lifetime now : Int) (fresh : Bool) (kept : Option Holdings) : Option Holdings :=
  if fresh then kept else kept.filter fun held => !held.isStale lifetime now

theorem left_eq_some (there : left lifetime now fresh kept = some held) :
    kept = some held ∧ (fresh = false → held.isStale lifetime now = false) := by
  cases fresh with
  | true => exact ⟨there, by rintro ⟨⟩⟩
  | false =>
      obtain ⟨same, recent⟩ := Option.filter_eq_some_iff.mp there
      exact ⟨same, fun _ => by simpa using recent⟩

theorem isStale_of_left (gone : left lifetime now false kept = none) :
    ∀ held ∈ kept, held.isStale lifetime now = true := by
  intro held there
  simpa using Option.filter_eq_none_iff.mp gone held there

end Holdings

namespace Engine

/-- What a request for a statement comes to: what is kept is given, or the backend is asked. -/
inductive Looking (engine : Engine σ) (lifetime : Int) (fresh : Bool) (kept : Option Holdings)
    (world : World σ) : Except Fault Statement × Option Holdings × World σ → Prop
  | given {held : Holdings} (wanted : fresh = false)
      (there : Holdings.left lifetime world.clock fresh kept = some held) :
      Looking engine lifetime fresh kept world (.ok (.holds held true), some held, world)
  | reported {report : Report σ} {after : World σ}
      (due : fresh = true ∨ Holdings.left lifetime world.clock fresh kept = none)
      (asked : report.asked = world) (made : engine.Made report after) :
      Looking engine lifetime fresh kept world
        (.ok (.holds report.holdings false), some report.holdings, after)
  | unavailable {fault : Fault} {after : World σ}
      (due : fresh = true ∨ Holdings.left lifetime world.clock fresh kept = none)
      (failed : engine.assets.runIn world = (.error fault, after)) :
      Looking engine lifetime fresh kept world
        (.ok (.unavailable (engine.userIn world) fault.message),
          Holdings.left lifetime world.clock fresh kept, after)
  | unpriced {assets : List Asset} {asset : Asset} {fault : Fault} {after : World σ}
      (due : fresh = true ∨ Holdings.left lifetime world.clock fresh kept = none)
      (fetched : engine.assets.runIn world = (.ok assets, after)) (member : asset ∈ assets)
      (odd : ¬ asset.IsPriced) :
      Looking engine lifetime fresh kept world
        (.error fault, Holdings.left lifetime world.clock fresh kept, after)

/-- The answer when the backend is asked, with the holdings to keep. -/
def renewed (engine : Engine σ) (kept : Option Holdings) (world : World σ) :
    Except Fault Statement × Option Holdings × World σ :=
  match engine.askHoldings.runIn world with
  | (.ok (.holds held again), world) => (.ok (.holds held again), some held, world)
  | (answer, world) => (answer, kept, world)

theorem holdings_eq (engine : Engine σ) (lifetime : Int) (fresh : Bool) (kept : Option Holdings)
    (world : World σ) : engine.holdings lifetime fresh kept world =
      match Holdings.left lifetime world.clock fresh kept, fresh with
      | some held, false => (.ok (.holds held true), some held, world)
      | left, _ => engine.renewed left world := by
  unfold holdings Holdings.left
  cases (if fresh then kept else kept.filter fun held => !held.isStale lifetime world.clock) <;>
    cases fresh <;> rfl

section
variable {lifetime : Int} {fresh : Bool} {kept : Option Holdings} {world : World σ}

theorem holdings_of_due (engine : Engine σ)
    (due : fresh = true ∨ Holdings.left lifetime world.clock fresh kept = none) :
    engine.holdings lifetime fresh kept world =
      engine.renewed (Holdings.left lifetime world.clock fresh kept) world := by
  rw [holdings_eq]
  split
  · next there =>
      rcases due with wanted | gone
      · cases wanted
      · rw [there] at gone
        cases gone
  · rfl

theorem holdings_of_not_due (engine : Engine σ)
    (spared : ¬ (fresh = true ∨ Holdings.left lifetime world.clock fresh kept = none)) :
    fresh = false ∧ ∃ held, Holdings.left lifetime world.clock fresh kept = some held ∧
      engine.holdings lifetime fresh kept world = (.ok (.holds held true), some held, world) := by
  obtain ⟨wanted, there⟩ := not_or.mp spared
  obtain ⟨held, there⟩ := Option.ne_none_iff_exists'.mp there
  rw [Bool.not_eq_true] at wanted
  subst wanted
  exact ⟨rfl, held, there, by rw [holdings_eq, there]⟩

end

theorem looking_renewed (engine : Engine σ) (lifetime : Int) (fresh : Bool)
    (kept : Option Holdings) (world : World σ)
    (due : fresh = true ∨ Holdings.left lifetime world.clock fresh kept = none) :
    engine.Looking lifetime fresh kept world
      (engine.renewed (Holdings.left lifetime world.clock fresh kept) world) := by
  unfold renewed
  rw [runIn_askHoldings]
  rcases asked : engine.assets.runIn world with ⟨fault | assets, after⟩
  · exact .unavailable due asked
  dsimp only
  cases totals : Holdings.ofAssets (engine.userIn world) after.clock assets with
  | error fault =>
      have odd : ∃ asset ∈ assets, ¬ asset.IsPriced := by
        by_contra none
        push Not at none
        obtain ⟨holdings, priced⟩ :=
          Holdings.ofAssets_of_isPriced none (engine.userIn world) after.clock
        rw [totals] at priced
        cases priced
      obtain ⟨asset, member, odd⟩ := odd
      exact .unpriced due asked member odd
  | ok holdings =>
      have made : engine.Made ⟨world, assets, after.clock, holdings⟩ after := ⟨asked, rfl, totals⟩
      exact .reported due rfl made

theorem looking (engine : Engine σ) (lifetime : Int) (fresh : Bool) (kept : Option Holdings)
    (world : World σ) :
    engine.Looking lifetime fresh kept world (engine.holdings lifetime fresh kept world) := by
  by_cases due : fresh = true ∨ Holdings.left lifetime world.clock fresh kept = none
  · rw [engine.holdings_of_due due]
    exact engine.looking_renewed lifetime fresh kept world due
  · obtain ⟨wanted, held, there, given⟩ := engine.holdings_of_not_due due
    rw [given]
    exact .given wanted there

end Engine

/-! ## What is kept -/

/-- The holdings that are kept with some facts: those of the last report, until they are found too
old. -/
structure Keeps (lifetime : Int) (past : List (Fact σ)) (kept : Option Holdings) (now : Int) :
    Prop where
  latest : ∀ held, kept = some held →
    ∃ report older, Fact.stored past = report :: older ∧ report.holdings = held
  spent : kept = none → ∀ report ∈ Fact.stored past, lifetime < now - 1000 * report.holdings.taken
  dated : ∀ report ∈ Fact.stored past,
    report.holdings.taken = report.time.tdiv 1000 ∧ report.time ≤ now
  ordered : (Fact.stored past).Pairwise fun newer older => older.time ≤ newer.time

namespace Keeps

variable {lifetime now : Int} {past : List (Fact σ)} {kept : Option Holdings}

theorem of_stored_eq_nil (lifetime now : Int) {past : List (Fact σ)}
    (nothing : Fact.stored past = []) : Keeps lifetime past none now where
  latest := by rintro held ⟨⟩
  spent := by simp [nothing]
  dated := by simp [nothing]
  ordered := by simp [nothing]

theorem later (keeps : Keeps lifetime past kept now) {then_ : Int} (after : now ≤ then_) :
    Keeps lifetime past kept then_ where
  latest := keeps.latest
  spent none report stored := by
    have old := keeps.spent none report stored
    omega
  dated report stored := ⟨(keeps.dated report stored).1, (keeps.dated report stored).2.trans after⟩
  ordered := keeps.ordered

/-- If the last report is too old, then so are all before it. -/
theorem spent_of_stale (keeps : Keeps lifetime past kept now)
    (stale : ∀ held ∈ kept, held.isStale lifetime now = true) :
    ∀ report ∈ Fact.stored past, lifetime < now - 1000 * report.holdings.taken := by
  cases same : kept with
  | none => exact keeps.spent same
  | some held =>
      obtain ⟨last, older, stored, rfl⟩ := keeps.latest held same
      have old : lifetime < now - 1000 * last.holdings.taken :=
        of_decide_eq_true (stale _ same)
      have ordered := keeps.ordered
      have dated := keeps.dated
      rw [stored] at ordered dated ⊢
      intro report member
      rcases List.mem_cons.mp member with rfl | before
      · exact old
      · have earlier : report.time ≤ last.time := List.rel_of_pairwise_cons ordered before
        have order := Int.tdiv_le_tdiv (by decide : (0 : Int) < 1000) earlier
        have first := (dated last List.mem_cons_self).1
        have second := (dated report member).1
        omega

theorem left (keeps : Keeps lifetime past kept now) (fresh : Bool) :
    Keeps lifetime past (Holdings.left lifetime now fresh kept) now where
  latest held there := keeps.latest held (Holdings.left_eq_some there).1
  spent gone := by
    cases fresh with
    | true => exact keeps.spent gone
    | false => exact keeps.spent_of_stale (Holdings.isStale_of_left gone)
  dated := keeps.dated
  ordered := keeps.ordered

theorem isDue (keeps : Keeps lifetime past kept now) {fresh : Bool}
    (due : fresh = true ∨ Holdings.left lifetime now fresh kept = none) :
    IsDue lifetime past now fresh :=
  due.imp_right (keeps.left fresh).spent

theorem report (keeps : Keeps lifetime past kept now) {report : Report σ}
    (taken : report.holdings.taken = report.time.tdiv 1000) (time_eq : report.time = now) :
    Keeps lifetime (.reported report :: past) (some report.holdings) now where
  latest held same := ⟨report, Fact.stored past, rfl, Option.some.inj same⟩
  spent none := by cases none
  dated := by
    intro other member
    rcases List.mem_cons.mp member with rfl | before
    · exact ⟨taken, time_eq.le⟩
    · exact keeps.dated other before
  ordered := by
    refine List.pairwise_cons.mpr ⟨?_, keeps.ordered⟩
    intro other before
    rw [time_eq]
    exact (keeps.dated other before).2

end Keeps

namespace Engine

variable {engine : Engine σ} {lifetime : Int} {past : List (Fact σ)} {kept : Option Holdings}
  {world : World σ}

/-! ## One statement, given the facts -/

theorem serves_holdings (prompt : engine.IsPrompt) (keeps : Keeps lifetime past kept world.clock)
    (fresh : Bool) :
    let out := engine.holdings lifetime fresh kept world
    ∃ next, engine.Serves lifetime past world fresh out.1 out.2.2 next ∧
      Keeps lifetime next out.2.1 out.2.2.clock := by
  have looking := looking engine lifetime fresh kept world
  have onward := clock_le_assets prompt world
  generalize engine.holdings lifetime fresh kept world = out at looking
  cases looking with
  | @given held wanted there =>
      obtain ⟨same, recent⟩ := Holdings.left_eq_some there
      obtain ⟨report, older, stored, rfl⟩ := keeps.latest held same
      have member : report ∈ Fact.stored past := by
        rw [stored]
        exact List.mem_cons_self
      have recent : world.clock - 1000 * report.holdings.taken ≤ lifetime := by
        simpa [Holdings.isStale] using recent wanted
      refine ⟨past, .given ?_ stored recent ?_, same ▸ keeps⟩
      · rintro (fresh | all)
        · rw [wanted] at fresh
          cases fresh
        · exact absurd recent (not_le.mpr (all report member))
      · intro past_epoch
        have taken := (keeps.dated report member).1
        rw [Int.tdiv_eq_ediv_of_nonneg past_epoch] at taken
        omega
  | @reported report after due asked made =>
      rw [← asked, made.fetched] at onward
      have taken : report.holdings.taken = report.time.tdiv 1000 :=
        (Holdings.stamped_of_ofAssets made.totals).2
      exact ⟨.reported report :: past, .reported (keeps.isDue due) asked made,
        (keeps.later (asked ▸ onward)).report taken made.time_eq⟩
  | unavailable due failed =>
      rw [failed] at onward
      exact ⟨past, .unavailable (keeps.isDue due) failed, (keeps.left fresh).later onward⟩
  | unpriced due fetched member odd =>
      rw [fetched] at onward
      exact ⟨past, .unpriced (keeps.isDue due) fetched member odd, (keeps.left fresh).later onward⟩

/-! ## All requests -/

theorem serving_of_keeps (prompt : engine.IsPrompt) (keeps : Keeps lifetime past kept world.clock)
    {commands : List (Holdings.Command σ)} (forward : ∀ command ∈ commands, command.IsForward) :
    let out := engine.obeyAll lifetime kept world commands
    ∃ last, engine.Serving lifetime past world commands out.1 last out.2.2 ∧
      Keeps lifetime last out.2.1 out.2.2.clock := by
  induction commands generalizing past kept world with
  | nil => exact ⟨past, .done, keeps⟩
  | cons command rest ih =>
      have others : ∀ other ∈ rest, other.IsForward :=
        fun other member => forward other (List.mem_cons_of_mem command member)
      cases command with
      | statement fresh =>
          obtain ⟨next, serves, keeps⟩ := serves_holdings prompt keeps fresh
          obtain ⟨last, serving, keeps⟩ := ih keeps others
          exact ⟨last, .statement serves serving, keeps⟩
      | holding symbol =>
          obtain ⟨next, serves, keeps⟩ := serves_holdings prompt keeps false
          obtain ⟨last, serving, keeps⟩ := ih keeps others
          exact ⟨last, .holding serves serving, keeps⟩
      | worth =>
          obtain ⟨next, serves, keeps⟩ := serves_holdings prompt keeps false
          obtain ⟨last, serving, keeps⟩ := ih keeps others
          exact ⟨last, .worth serves serving, keeps⟩
      | clear =>
          have emptied : Keeps lifetime (.cleared :: past) none world.clock :=
            .of_stored_eq_nil lifetime _ rfl
          obtain ⟨last, serving, keeps⟩ := ih emptied others
          exact ⟨last, .cleared serving, keeps⟩
      | meanwhile move =>
          have onward := forward _ List.mem_cons_self world
          obtain ⟨last, serving, keeps⟩ := ih (keeps.later onward) others
          exact ⟨last, .meanwhile serving, keeps⟩

/-- The answers of a service of holdings that begins with none: each is what the facts make it,
whatever was asked for before and however the world moved on meanwhile, as long as time did not go
back. -/
theorem serving_obeyAll (prompt : engine.IsPrompt) (lifetime : Int) (world : World σ)
    {commands : List (Holdings.Command σ)} (forward : ∀ command ∈ commands, command.IsForward) :
    let out := engine.obeyAll lifetime none world commands
    ∃ last, engine.Serving lifetime [] world commands out.1 last out.2.2 := by
  have start : Keeps lifetime ([] : List (Fact σ)) none world.clock :=
    .of_stored_eq_nil lifetime _ rfl
  obtain ⟨last, serving, _⟩ := serving_of_keeps prompt start forward
  exact ⟨last, serving⟩

/-- An engine of which the backend reports that the user has five dollars. -/
def fiveDollars : Engine Unit :=
  let answer := Json.arr [.obj [("symbol", .str "USDC"), ("balance", .str "5"),
    ("balanceInFiat", .int 5)]]
  { Sample.engine with
    backend := some { Sample.backend with answer := fun _ state => (⟨.ok answer, 0⟩, state) } }

theorem serving_fiveDollars :
    let commands := [.statement false, .meanwhile (·.advance 20000), .holding "usdc", .clear, .worth]
    fiveDollars.IsPrompt ∧ (∀ command ∈ commands, command.IsForward) ∧
      ∃ last, fiveDollars.Serving 30000 [] (World.fresh 0 ()) commands
          (fiveDollars.obeyAll 30000 none (World.fresh 0 ()) commands).1 last
          (fiveDollars.obeyAll 30000 none (World.fresh 0 ()) commands).2.2 ∧
        (fiveDollars.obeyAll 30000 none (World.fresh 0 ()) commands).2.2.calls.length = 2 := by
  intro commands
  have prompt : fiveDollars.IsPrompt := by
    rintro backend ⟨⟩ call state
    exact le_rfl
  have onward :
      Holdings.Command.IsForward (.meanwhile fun world : World Unit => world.advance 20000) :=
    fun world => Int.le_add_of_nonneg_right (by decide)
  have forward : ∀ command ∈ commands, command.IsForward :=
    List.forall_iff_forall_mem.mp ⟨trivial, onward, trivial, trivial, trivial⟩
  obtain ⟨last, serving⟩ := serving_obeyAll prompt 30000 (World.fresh 0 ()) forward
  exact ⟨prompt, forward, last, serving, by decide +kernel⟩

end Engine

end ChainFlow
