import ChatPlatform.Route.Atomicity
import ChatPlatform.Route.Commit

/-!
# The metrics and the transaction they are about

The metrics of a request are written last, at most once, and not while the session is
in a transaction. The outcome `ok` is recorded before the commit and taken back by
the handlers of exceptions only: a commit that is cancelled before it takes effect
leaves a row that says `ok` about a turn that was never stored.
-/

namespace ChatPlatform

open Program Session

/-- Whether the other side acts at an await. -/
def Fate.takesEffect : Fate → Bool
  | .completes => true
  | .fails _ tookEffect _ => tookEffect
  | .cancels tookEffect _ => tookEffect

namespace ChatRoute

variable {F : Type} [FloatOps F]

/-- The metrics agree with the transaction of the request. -/
structure MetricsAgree (call : ChatCall F) (fates : List Fate) : Prop where
  /-- A row that says `ok` is about a durable turn. -/
  durable : ∀ row ∈ (chat call {} fates).2.1.metrics, row.generationOutcome = .ok →
    call.CompleteTurn (chat call {} fates).2.1.committed
  /-- When the last part of the request begins there is no row, and there is none
  afterwards if the session is in a transaction then. -/
  released : (mainPart call {} fates).2.1.metrics = [] ∧
    ((mainPart call {} fates).2.1.inTransaction = true →
      (chat call {} fates).2.1.metrics = [])
  /-- There is at most one row. -/
  once : (chat call {} fates).2.1.metrics.length ≤ 1

/-- The interruption of a commit that takes no effect, releases the session and is
caught by no handler. -/
def Escapes (call : ChatCall F) (fate : Fate) : Prop :=
  fate = .cancels false false ∨
    call.request.stream = false ∧ fate = .fails .httpNotFound false false

/-- The commit of the turn is interrupted that way, and the metrics are written after
it. -/
def Misreported (call : ChatCall F) (fates : List Fate) : Prop :=
  ∃ world left, AtCommit call fates world left ∧
    Escapes call (left.headD .completes) ∧ call.metricsEnabled = true ∧
    (left.tail.headD .completes).takesEffect = true

/-! ## The last part of a request -/

variable {call : ChatCall F} {unset : GenerationOutcome} {world : World}
  {fates left : List Fate}

/-- The row written about a state. -/
def metricsRow
    (call : ChatCall F)
    (unset : GenerationOutcome)
    (world : World) : MetricsRow where
  tenantId := call.tenantId
  ebm25 := call.settings.ebm25Enabled
  generationOutcome := world.generationOutcome.getD unset
  inputTokens := world.metricsProviderResult.bind (·.inputTokens)
  outputTokens := world.metricsProviderResult.bind (·.outputTokens)
  totalLatencyMs := call.latencyMs
  historyTruncated := call.boundedMemory.truncated
  historyRowCapReached := call.boundedMemory.historyRowCapReached

/-- A best-effort write is done exactly when the other side acts. -/
private theorem bestEffort_world {ρ : Type} {write : World → World} :
    ((bestEffort write : RouteProgram ρ Unit) world fates).2.1 =
      if (fates.headD .completes).takesEffect = true then write world else world := by
  unfold bestEffort suppressed catching Program.await
  dsimp only
  cases fates.headD .completes with
  | completes => rfl
  | fails exception tookEffect leavesOpen => cases tookEffect <;> rfl
  | cancels tookEffect leavesOpen => cases tookEffect <;> rfl

/-- What writing the metrics does to the state. -/
theorem recordMetrics_world :
    ((recordMetrics call unset : RouteProgram Reply Unit) world fates).2.1 =
      if world.inTransaction = false ∧ call.metricsEnabled = true ∧
          (fates.headD .completes).takesEffect = true then
        { world with metrics := world.metrics ++ [metricsRow call unset world] }
      else world := by
  have inspected : (inspect (·.inTransaction) : RouteProgram Reply Bool) world fates =
      (.next world.inTransaction, world, fates) := rfl
  unfold recordMetrics
  change (andThen (inspect _) _ world fates).2.1 = _
  rw [andThen_of_next inspected]
  by_cases busy : world.inTransaction = true
  · rw [if_pos busy, if_neg fun all => absurd busy (Bool.eq_false_iff.mp all.1)]
    rfl
  · rw [if_neg busy]
    by_cases enabled : call.metricsEnabled = true
    · rw [if_pos enabled, bestEffort_world]
      split
      · rename_i acts
        rw [if_pos ⟨Bool.eq_false_iff.mpr busy, enabled, acts⟩]
        rfl
      · rename_i idle
        rw [if_neg fun all => idle all.2.2]
    · rw [if_neg enabled, if_neg fun all => enabled all.2.1]
      rfl

/-- The state in the end, from the state in which the metrics are considered. -/
theorem chat_world :
    (chat call {} fates).2.1 =
      ((recordMetrics call (unsetOutcome call) : RouteProgram Reply Unit)
        (mainPart call {} fates).2.1 (mainPart call {} fates).2.2).2.1 := by
  rw [chat_eq_ensuring]
  exact ensuring_state rfl

omit [FloatOps F] in
/-- The outcome for requests that set none is no answer. -/
theorem unsetOutcome_ne_ok (call : ChatCall F) : unsetOutcome call ≠ .ok := by
  unfold unsetOutcome
  split <;> exact nofun

/-! ## Runs that commit, runs that fail and runs that are interrupted -/

/-- Nothing is written about a request before its last part. -/
private theorem unwritten_mainPart (call : ChatCall F) (fates : List Fate) :
    (mainPart call {} fates).2.1.metrics = [] := by
  by_cases arrives : ∃ world left, AtCommit call fates world left
  · obtain ⟨world, left, reached⟩ := arrives
    obtain ⟨after, isAfter, continues⟩ := reached.mainPart_eq
    have unaffected : Unaffected fun world : World => world.metrics = [] :=
      ⟨fun _ _ _ none => none, fun _ _ none => none, fun _ _ none => none⟩
    have keepsCommit : Keeps (fun world : World => world.metrics = [])
        (commit : RouteProgram Reply Unit) := by
      apply Keeps.await
      intro fate world none
      cases fate <;> exact none
    have keepsMain : Keeps (fun world : World => world.metrics = [])
        (catching (andThen commit fun _ => after) (handlers call)) := by
      apply Keeps.catching (Keeps.andThen keepsCommit fun _ => isAfter.keeps unaffected)
      intro interruption continuation chosen
      exact unaffected.keeps_handlers keepsCommit
        (fun _ _ => Keeps.modify fun _ none => none) chosen
    rw [continues]
    exact keepsMain.after reached.isAnswered.2.1 left
  · have missed : ∀ world left, ¬AtCommit call fates world left :=
      fun world left reached => arrives ⟨world, left, reached⟩
    exact (idle_of_not_reached missed).2.1

/-- The metrics do not touch the durable rows. -/
theorem chat_committed (call : ChatCall F) (fates : List Fate) :
    (chat call {} fates).2.1.committed = (mainPart call {} fates).2.1.committed := by
  rw [chat_world, recordMetrics_world]
  split <;> rfl

/-- After its commit a request stores nothing and raises no exception. -/
private theorem triple_afterCommit
    {after : RouteProgram Reply Unit}
    (isAfter : AfterCommit call after)
    (rows : List StoredRow) :
    Triple (fun world : World => world.committed = rows) after
      ⟨fun _ world => world.committed = rows, fun _ world => world.committed = rows,
        fun interruption world => world.committed = rows ∧
          ∀ exception, interruption ≠ .failure exception⟩ := by
  cases isAfter with
  | streamed stream =>
      exact triple_yieldFrame (fun _ same => same) (fun _ same => ⟨same, nofun⟩)
        fun _ same => ⟨same, nofun⟩
  | answered stream kept content =>
      refine Triple.andThen (fun _ world => world.committed = rows) ?_
        fun _ => Triple.exit fun _ same => same
      cases kept with
      | none => exact Triple.value fun _ same => same
      | some result =>
          exact triple_bestEffort (fun _ same => same) (fun _ same => same)
            fun _ same => ⟨⟨same, nofun⟩, same, nofun⟩

/-- No handler catches a cancellation. -/
private theorem handlers_cancelled (call : ChatCall F) :
    handlers call .cancelled = none ∧ handlers call .generatorExit = none := by
  unfold handlers
  split <;> exact ⟨rfl, rfl⟩

/-- What a commit that takes effect leaves durable stays, and nothing joins it, unless a
handler reports a failure. -/
private theorem committed_of_takesEffect
    (reached : AtCommit call fates world left)
    (acts : (left.headD .completes).takesEffect = true)
    (unreported : ∀ exception tookEffect leavesOpen,
      left.headD .completes = .fails exception tookEffect leavesOpen →
        call.request.stream = false ∧ exception = .httpNotFound) :
    (mainPart call {} fates).2.1.committed = world.committed ++ world.pending := by
  obtain ⟨after, isAfter, continues⟩ := reached.mainPart_eq
  rw [continues]
  cases fate : left.headD .completes with
  | completes =>
      have ran : (commit : RouteProgram Reply Unit) world left =
          (.next (), { world with
            committed := world.committed ++ world.pending
            pending := []
            inTransaction := false }, left.tail) := by
        unfold commit Program.await
        rw [fate]
      have same : catching (andThen commit fun _ => after) (handlers call) world left =
          catching after (handlers call) _ left.tail :=
        catching_congr (andThen_of_next ran)
      rw [same]
      have kept : Keeps (fun held : World => held.committed = world.committed ++ world.pending)
          (catching after (handlers call)) := by
        refine Triple.catching _
          ((triple_afterCommit isAfter (world.committed ++ world.pending)).conclude
            (fun _ _ same => same) (fun _ _ same => same) fun _ _ same => same) ?_ ?_
        · intro interruption handler chosen
          cases interruption with
          | failure exception => exact Triple.unreachable fun _ same => same.2 exception rfl
          | cancelled =>
              rw [(handlers_cancelled call).1] at chosen
              cases chosen
          | generatorExit =>
              rw [(handlers_cancelled call).2] at chosen
              cases chosen
        · exact fun _ _ _ same => same.1
      exact kept.after rfl left.tail
  | fails exception tookEffect leavesOpen =>
      obtain ⟨atOnce, rfl⟩ := unreported exception tookEffect leavesOpen fate
      rw [fate] at acts
      have isEffect : tookEffect = true := acts
      subst isEffect
      have ran : (andThen commit fun _ => after) world left =
          (.raised (.failure .httpNotFound), { world with
            committed := world.committed ++ world.pending
            unconfirmed := world.unconfirmed ++ world.pending
            pending := []
            inTransaction := leavesOpen }, left.tail) := by
        apply andThen_of_raised
        unfold commit Program.await
        rw [fate]
        rfl
      have caught : handlers call (.failure .httpNotFound) =
          some (Program.raise (.failure .httpNotFound)) := by
        unfold handlers
        rw [atOnce, if_neg Bool.noConfusion]
        rfl
      rw [catching_of_caught ran caught]
      rfl
  | cancels tookEffect leavesOpen =>
      rw [fate] at acts
      have isEffect : tookEffect = true := acts
      subst isEffect
      have ran : (andThen commit fun _ => after) world left =
          (.raised .cancelled, { world with
            committed := world.committed ++ world.pending
            pending := []
            inTransaction := leavesOpen }, left.tail) := by
        apply andThen_of_raised
        unfold commit Program.await
        rw [fate]
        rfl
      rw [catching_of_uncaught ran (handlers_cancelled call).1]

/-- A commit that takes effect makes a complete turn durable for good, unless a handler
reports a failure. -/
private theorem completeTurn_of_takesEffect
    (reached : AtCommit call fates world left)
    (acts : (left.headD .completes).takesEffect = true)
    (unreported : ∀ exception tookEffect leavesOpen,
      left.headD .completes = .fails exception tookEffect leavesOpen →
        call.request.stream = false ∧ exception = .httpNotFound) :
    call.CompleteTurn (chat call {} fates).2.1.committed := by
  obtain ⟨content, event, ⟨nothing, rows, -⟩, isTurn⟩ := reached.isTurn
  refine ⟨content, event, ?_, isTurn⟩
  rw [chat_committed, committed_of_takesEffect reached acts unreported, nothing, rows,
    List.nil_append]

/-- A commit that drops its rows. -/
private def dropped (world : World) (leavesOpen : Bool) : World :=
  { world with pending := [], inTransaction := leavesOpen }

omit [FloatOps F] in
/-- A handler that reports a failure takes the answer back. -/
private theorem idle_reportFailure
    (call : ChatCall F)
    (outcome : GenerationOutcome)
    (different : outcome ≠ .ok)
    (shown recorded : Str) :
    Triple (fun world : World => world.metrics = [])
      (reportFailure call outcome shown recorded)
      ⟨fun _ => Idle fun _ => True, fun _ => Idle fun _ => True,
        fun _ => Idle fun _ => True⟩ := by
  have unaffected := Idle.unaffected fun _ => True
  unfold reportFailure
  refine Triple.andThen (fun _ => Idle fun _ => True) ?_ fun _ => ?_
  · exact Triple.modify fun _ none =>
      ⟨trivial, none, fun same => different (Option.some.inj same)⟩
  · exact Keeps.andThen (keeps_suppressed unaffected.keeps_rollback) fun _ =>
      Keeps.andThen
        (keeps_suppressed
          (Keeps.within unaffected.keeps_begin (unaffected.keeps_add _)
            keepsIdle_commit unaffected.keeps_rollback))
        fun _ => Keeps.exit _

/-- A handled exception takes the answer back, but for the refusal of an unknown
conversation. -/
private theorem idle_handlers
    {exception : RouteException}
    {continuation : RouteProgram Reply Unit}
    (chosen : handlers call (.failure exception) = some continuation)
    (notRefusal : call.request.stream = false → exception ≠ .httpNotFound) :
    Triple (fun world : World => world.metrics = []) continuation
      ⟨fun _ => Idle fun _ => True, fun _ => Idle fun _ => True,
        fun _ => Idle fun _ => True⟩ := by
  have unaffected := Idle.unaffected fun _ => True
  unfold handlers at chosen
  split at chosen
  · cases chosen
    refine Triple.andThen (fun _ => Idle fun _ => True) ?_ fun _ => ?_
    · exact Triple.modify fun _ none => ⟨trivial, none, nofun⟩
    · exact Keeps.andThen (unaffected.keeps_yieldFrame _) fun _ => Keeps.exit _
  · rename_i atOnce
    cases exception with
    | httpNotFound => exact absurd rfl (notRefusal (Bool.eq_false_iff.mpr atOnce))
    | providerTimeout message =>
        cases chosen
        exact idle_reportFailure call .timeout nofun _ _
    | providerExecution message =>
        cases chosen
        exact idle_reportFailure call .error nofun _ _
    | providerError error =>
        cases chosen
        exact idle_reportFailure call .error nofun _ _
    | other name message =>
        cases chosen
        exact idle_reportFailure call .error nofun _ _

/-- A commit that raises leaves no answer recorded. -/
private theorem idle_of_fails
    {exception : RouteException}
    {tookEffect leavesOpen : Bool}
    (reached : AtCommit call fates world left)
    (fails : left.headD .completes = .fails exception tookEffect leavesOpen)
    (notRefusal : call.request.stream = false → exception ≠ .httpNotFound) :
    Idle (fun _ => True) (mainPart call {} fates).2.1 := by
  obtain ⟨after, -, continues⟩ := reached.mainPart_eq
  obtain ⟨final, unwritten, ran⟩ : ∃ final : World, final.metrics = [] ∧
      (commit : RouteProgram Reply Unit) world left =
        (.raised (.failure exception), final, left.tail) := by
    unfold commit Program.await
    rw [fails]
    refine ⟨_, ?_, rfl⟩
    exact reached.isAnswered.2.1
  have raised : (andThen commit fun _ => after) world left =
      (.raised (.failure exception), final, left.tail) := andThen_of_raised ran
  obtain ⟨continuation, chosen⟩ : ∃ continuation,
      handlers call (.failure exception) = some continuation := by
    unfold handlers
    split
    · exact ⟨_, rfl⟩
    · cases exception <;> exact ⟨_, rfl⟩
  rw [continues, catching_of_caught raised chosen]
  have ended := idle_handlers chosen notRefusal final left.tail unwritten
  generalize (continuation final left.tail).1 = ending at ended
  cases ending <;> exact ended

/-- A commit interrupted without effect and past every handler leaves the answer
recorded. -/
private theorem mainPart_of_escapes
    {leavesOpen : Bool}
    (reached : AtCommit call fates world left)
    (escapes : left.headD .completes = .cancels false leavesOpen ∨
      call.request.stream = false ∧
        left.headD .completes = .fails .httpNotFound false leavesOpen) :
    (mainPart call {} fates).2 = (dropped world leavesOpen, left.tail) := by
  obtain ⟨after, -, continues⟩ := reached.mainPart_eq
  rw [continues]
  rcases escapes with cancelled | ⟨atOnce, refused⟩
  · have raised : (andThen commit fun _ => after) world left =
        (.raised .cancelled, dropped world leavesOpen, left.tail) := by
      apply andThen_of_raised
      unfold commit Program.await
      rw [cancelled]
      rfl
    have uncaught : handlers call .cancelled = none := by
      unfold handlers
      split <;> rfl
    rw [catching_of_uncaught raised uncaught]
  · have raised : (andThen commit fun _ => after) world left =
        (.raised (.failure .httpNotFound), dropped world leavesOpen, left.tail) := by
      apply andThen_of_raised
      unfold commit Program.await
      rw [refused]
      rfl
    have caught : handlers call (.failure .httpNotFound) =
        some (Program.raise (.failure .httpNotFound)) := by
      unfold handlers
      rw [atOnce, if_neg Bool.noConfusion]
      rfl
    rw [catching_of_caught raised caught]
    rfl

/-- For every request and whatever happens at its awaits: a metrics row that says
`ok` is about a durable turn, none is written while the session is in a transaction,
and there is at most one, exactly when it is not so that the commit of the turn is
interrupted past every handler before it takes effect, and the metrics are written
after it. -/
theorem metrics_agree_iff (call : ChatCall F) (fates : List Fate) :
    MetricsAgree call fates ↔ ¬Misreported call fates := by
  constructor
  · rintro agree ⟨world, left, reached, escapes, enabled, acts⟩
    have main := @mainPart_of_escapes _ _ _ _ _ _ false reached escapes
    have final : (chat call {} fates).2.1 = { dropped world false with
        metrics := (dropped world false).metrics ++
          [metricsRow call (unsetOutcome call) (dropped world false)] } := by
      rw [chat_world, main, recordMetrics_world, if_pos ⟨rfl, enabled, acts⟩]
    have isOk : (metricsRow call (unsetOutcome call)
        (dropped world false)).generationOutcome = .ok := by
      change world.generationOutcome.getD _ = _
      rw [reached.isAnswered.2.2.1]
      rfl
    have written : metricsRow call (unsetOutcome call) (dropped world false) ∈
        (chat call {} fates).2.1.metrics := by
      rw [final]
      exact List.mem_append_right _ (List.mem_singleton_self _)
    obtain ⟨content, event, rows, -⟩ := agree.durable _ written isOk
    have nothing : (chat call {} fates).2.1.committed = [] := by
      rw [final]
      exact reached.isAnswered.1
    rw [nothing] at rows
    exact absurd rows.symm (List.append_ne_nil_of_right_ne_nil _ (List.cons_ne_nil _ _))
  · intro notMisreported
    have none := unwritten_mainPart call fates
    refine ⟨?_, ⟨none, ?_⟩, ?_⟩
    · intro row held isOk
      rw [chat_world, recordMetrics_world] at held
      split at held
      · rename_i writes
        dsimp only at held
        rw [none, List.nil_append] at held
        rw [List.mem_singleton.mp held] at isOk
        have recorded : (mainPart call {} fates).2.1.generationOutcome = some .ok := by
          change (mainPart call {} fates).2.1.generationOutcome.getD _ = _ at isOk
          cases outcome : (mainPart call {} fates).2.1.generationOutcome with
          | none =>
              rw [outcome] at isOk
              exact absurd isOk (unsetOutcome_ne_ok call)
          | some outcome' =>
              rw [outcome] at isOk
              exact congrArg some isOk
        by_cases arrives : ∃ world left, AtCommit call fates world left
        · obtain ⟨world, left, reached⟩ := arrives
          by_cases reported : ∃ exception tookEffect leavesOpen,
              left.headD .completes = .fails exception tookEffect leavesOpen ∧
                ¬(call.request.stream = false ∧ exception = .httpNotFound)
          · obtain ⟨exception, tookEffect, leavesOpen, fate, another⟩ := reported
            exact absurd recorded (idle_of_fails reached fate
              fun atOnce same => another ⟨atOnce, same⟩).2.2
          by_cases acts : (left.headD .completes).takesEffect = true
          · apply completeTurn_of_takesEffect reached acts
            intro exception tookEffect leavesOpen fate
            by_contra another
            exact reported ⟨exception, tookEffect, leavesOpen, fate, another⟩
          · have misreported : ∀ leavesOpen,
                (left.headD .completes = .cancels false leavesOpen ∨
                  call.request.stream = false ∧
                    left.headD .completes = .fails .httpNotFound false leavesOpen) →
                False := by
              intro leavesOpen escapes
              have main := mainPart_of_escapes reached escapes
              rw [main] at writes
              have released : leavesOpen = false := writes.1
              rw [released] at escapes
              exact notMisreported ⟨world, left, reached, escapes, writes.2⟩
            exfalso
            cases fate : left.headD .completes with
            | completes =>
                rw [fate] at acts
                exact acts rfl
            | cancels tookEffect leavesOpen =>
                cases tookEffect with
                | true =>
                    rw [fate] at acts
                    exact acts rfl
                | false => exact misreported leavesOpen (Or.inl fate)
            | fails exception tookEffect leavesOpen =>
                rw [fate] at acts
                have noEffect : tookEffect = false := Bool.eq_false_iff.mpr acts
                by_cases refusal : call.request.stream = false ∧ exception = .httpNotFound
                · rw [refusal.2, noEffect] at fate
                  exact misreported leavesOpen (Or.inr ⟨refusal.1, fate⟩)
                · exact reported ⟨exception, tookEffect, leavesOpen, fate, refusal⟩
        · have missed : ∀ world left, ¬AtCommit call fates world left :=
            fun world left reached => arrives ⟨world, left, reached⟩
          exact absurd recorded (idle_of_not_reached missed).2.2
      · rw [none] at held
        exact absurd held List.not_mem_nil
    · intro busy
      rw [chat_world, recordMetrics_world, if_neg fun writes => absurd busy
        (Bool.eq_false_iff.mp writes.1)]
      exact none
    · rw [chat_world, recordMetrics_world]
      split
      · dsimp only
        rw [none]
        exact Nat.le_refl 1
      · rw [none]
        exact Nat.zero_le 1

/-- The awaits of the sample request up to its commit complete, and the commit is
cancelled before it takes effect. -/
def cancelledFates : List Fate :=
  List.replicate 6 .completes ++ [.cancels false false]

/-- The commit is cancelled before it takes effect: a row says `ok`, and no turn is
durable. -/
theorem cancelled_misreported :
    ((chat (helloCall "stub-1".toList) {} cancelledFates).2.1.metrics.map
        (·.generationOutcome)) = [.ok] ∧
      (chat (helloCall "stub-1".toList) {} cancelledFates).2.1.committed = [] ∧
      ¬MetricsAgree (helloCall "stub-1".toList) cancelledFates := by
  have reported : ((chat (helloCall "stub-1".toList) {} cancelledFates).2.1.metrics.map
      (·.generationOutcome)) = [.ok] := by decide +kernel
  have nothing : (chat (helloCall "stub-1".toList) {} cancelledFates).2.1.committed =
      [] := by decide +kernel
  refine ⟨reported, nothing, ?_⟩
  intro agree
  have listed : GenerationOutcome.ok ∈
      (chat (helloCall "stub-1".toList) {} cancelledFates).2.1.metrics.map
        (·.generationOutcome) := by
    rw [reported]
    exact List.mem_singleton_self _
  obtain ⟨row, held, isOk⟩ := List.mem_map.mp listed
  obtain ⟨content, event, rows, -⟩ := agree.durable row held isOk
  rw [nothing] at rows
  exact absurd rows.symm (List.append_ne_nil_of_right_ne_nil _ (List.cons_ne_nil _ _))

end ChatRoute
end ChatPlatform
