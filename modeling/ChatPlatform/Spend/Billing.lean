import ChatPlatform.Spend.Ceiling
import ChatPlatform.Spend.Client

/-!
# What a completion is charged

A provider may bill every attempt of a completion, whether the client saw an answer or
not. The reservation covers all attempts; the settlement charges what the last answer
reports. So the charge covers what was billed exactly when an answer that reports its
usage reports enough for the attempts before it, too.
-/

namespace ChatPlatform
namespace Spend

open Growth

variable {F : Type} [FloatOps F]

/-! ## What is billed -/

/-- The bound of the tokens read of a request: the bytes of its body. -/
def GenerationClient.maxInputTokens
    (client : GenerationClient)
    (request : GenerationRequest F) : Int :=
  match EventLog.canonicalBytes (.dict (client.body request)) with
  | .error _ => 0
  | .ok rendered => Text.utf8Length rendered

/-- What the endpoint does with every attempt: what the client sees, and the tokens that
are billed, within the bounds of the request. -/
structure Script (client : GenerationClient) (request : GenerationRequest F) where
  /-- What the client sees. -/
  seen : Nat → Seen F
  /-- The tokens read and written that are billed. -/
  billed : Nat → Option (Int × Int)
  /-- The tokens are within the bounds. -/
  within : ∀ attempt tokens, billed attempt = some tokens →
    (0 ≤ tokens.1 ∧ tokens.1 ≤ client.maxInputTokens request) ∧
      0 ≤ tokens.2 ∧ tokens.2 ≤ request.maxOutputTokens

/-- What an attempt costs. -/
def Script.bill
    {client : GenerationClient}
    {request : GenerationRequest F}
    (script : Script client request)
    (guard : SpendGuard)
    (attempt : Nat) : ℚ :=
  match script.billed attempt with
  | none => 0
  | some tokens => guard.pricing.cost tokens.1 tokens.2

/-- What the first attempts cost. -/
def Script.total
    {client : GenerationClient}
    {request : GenerationRequest F}
    (script : Script client request)
    (guard : SpendGuard) : Nat → ℚ
  | 0 => 0
  | attempts + 1 => script.total guard attempts + script.bill guard (attempts + 1)

/-! ## Runs -/

/-- A completion, and what the endpoint does with it. -/
structure Step (F : Type) [FloatOps F] (client : GenerationClient) where
  /-- The request. -/
  request : GenerationRequest F
  /-- What the endpoint does. -/
  script : Script client request

section Runs

variable (sha256 : Str → Fin (2 ^ 256)) (isClean : Str → Bool) {client : GenerationClient}

/-- What a step does. -/
def Step.completion (step : Step F client) (world : World F) : Completion F :=
  client.complete sha256 isClean world step.request step.script.seen

/-- What the client works on after some steps. -/
def worldAfter (steps : List (Step F client)) : World F :=
  steps.foldl (fun world step => (step.completion sha256 isClean world).world) {}

/-- What the ledger charges for a step is at least what was billed. -/
def ChargeCovers (world : World F) (step : Step F client) : Prop :=
  ∃ before after, spentUsd world.ledger = .ok before ∧
    spentUsd (step.completion sha256 isClean world).world.ledger = .ok after ∧
      ∀ guard, client.guard = some guard →
        step.script.total guard (step.completion sha256 isClean world).attempts ≤ after - before

/-- A request is sent: it is not in the cache, it is clean, and the guard reserves it. -/
def GenerationClient.Sends
    (client : GenerationClient)
    (world : World F)
    (request : GenerationRequest F)
    (guard : SpendGuard) : Prop :=
  ∃ key rendered, client.key sha256 request = .ok key ∧ world.cache key = none ∧
    client.offline = false ∧
      EventLog.canonicalBytes (.dict (client.body request)) = .ok rendered ∧
        isClean rendered = true ∧ client.guard = some guard ∧
          client.apiKey.all (· = []) = false ∧
            ∃ decided, guard.decision world.ledger (callOf sha256 request key rendered) =
              .ok decided

end Runs

/-- An answer reports usage that has a price. -/
def Priced (guard : SpendGuard) (seen : Seen F) (cost : ℚ) : Prop :=
  ∃ body text usage, seen = .response 200 body ∧ readAnswer body = .ok (text, some usage) ∧
    Json.finite (.dict usage) = true ∧ guard.reportedCost usage = some cost

/-- A request is tried again after an attempt. -/
def Retried : Seen F → Prop
  | .unanswered _ => True
  | .exception => False
  | .response status _ => status ∈ retryableStatus

/-- Where an answer reports usage that has a price, the price is at least what was billed
for its attempt and for the one before it. -/
def ReportsAll
    {client : GenerationClient}
    {request : GenerationRequest F}
    (guard : SpendGuard)
    (script : Script client request) : Prop :=
  (∀ cost, Priced guard (script.seen 1) cost → script.bill guard 1 ≤ cost) ∧
    ∀ cost, Retried (script.seen 1) → Priced guard (script.seen 2) cost →
      script.bill guard 1 + script.bill guard 2 ≤ cost

/-! ## The attempts -/

/-- An attempt is answered with a text and, perhaps, a usage. -/
def Answered (seen : Seen F) (answer : Value F × Option (Dict F)) : Prop :=
  ∃ body, seen = .response 200 body ∧ readAnswer body = .ok answer

omit [FloatOps F] in
/-- An attempt that is not tried again is answered when its status is 200 and its body can
be read. -/
private theorem respond_eq_ok_iff
    {status : Int}
    {body : Option (Value F)}
    {answer : Value F × Option (Dict F)}
    {attempt attempts : Nat} :
    (if status ≠ 200 then
        ((.error (.generation ("status ".toList ++ Numeral.decimal status)), attempt) :
          Except ClientError (Value F × Option (Dict F)) × Nat)
      else (readAnswer body, attempt)) = (.ok answer, attempts) ↔
      attempts = attempt ∧ Answered (.response status body) answer := by
  unfold Answered
  by_cases isOk : status = 200
  · subst isOk
    simp only [ne_eq, not_true_eq_false, if_false, Prod.mk.injEq, Seen.response.injEq, true_and]
    constructor
    · rintro ⟨isAnswer, rfl⟩
      exact ⟨rfl, body, rfl, isAnswer⟩
    · rintro ⟨rfl, _, rfl, isAnswer⟩
      exact ⟨isAnswer, rfl⟩
  · rw [if_pos isOk]
    constructor
    · nofun
    · rintro ⟨-, _, same, -⟩
      cases same
      exact absurd rfl isOk

omit [FloatOps F] in
/-- The last attempt is answered, or the request is not. -/
private theorem lastAttempt_eq_ok_iff
    {script : Nat → Seen F}
    {last : Str}
    {answer : Value F × Option (Dict F)}
    {attempts : Nat} :
    dispatchFrom script last 2 1 = (.ok answer, attempts) ↔
      attempts = 2 ∧ Answered (script 2) answer := by
  rw [dispatchFrom]
  cases script 2 with
  | unanswered problem =>
      constructor
      · nofun
      · rintro ⟨-, _, same, -⟩
        cases same
  | exception =>
      constructor
      · nofun
      · rintro ⟨-, _, same, -⟩
        cases same
  | response status body =>
      dsimp only
      rw [if_neg fun retried => absurd retried.2 (by decide)]
      exact respond_eq_ok_iff

omit [FloatOps F] in
/-- A request is answered at the first attempt, or at the second one after the first was
not. -/
theorem dispatch_eq_ok_iff
    {script : Nat → Seen F}
    {answer : Value F × Option (Dict F)}
    {attempts : Nat} :
    dispatch script = (.ok answer, attempts) ↔
      (attempts = 1 ∧ Answered (script 1) answer) ∨
        (attempts = 2 ∧ Retried (script 1) ∧ Answered (script 2) answer) := by
  unfold dispatch maxAttempts
  rw [dispatchFrom]
  cases first : script 1 with
  | unanswered problem =>
      dsimp only
      rw [lastAttempt_eq_ok_iff]
      constructor
      · exact fun answered => Or.inr ⟨answered.1, trivial, answered.2⟩
      · rintro (⟨-, _, same, -⟩ | ⟨two, -, answered⟩)
        · cases same
        · exact ⟨two, answered⟩
  | exception =>
      constructor
      · nofun
      · rintro (⟨-, _, same, -⟩ | ⟨-, retried, -⟩)
        · cases same
        · exact absurd retried id
  | response status body =>
      dsimp only
      by_cases retried : status ∈ retryableStatus
      · rw [if_pos ⟨retried, by decide⟩, lastAttempt_eq_ok_iff]
        constructor
        · exact fun answered => Or.inr ⟨answered.1, retried, answered.2⟩
        · rintro (⟨-, _, same, -⟩ | ⟨two, -, answered⟩)
          · cases same
            exact absurd retried (by decide)
          · exact ⟨two, answered⟩
      · rw [if_neg fun both => retried both.1, respond_eq_ok_iff]
        constructor
        · exact fun answered => Or.inl answered
        · rintro (answered | ⟨-, isRetried, -⟩)
          · exact answered
          · exact absurd isRetried retried

omit [FloatOps F] in
/-- A request is tried twice at most. -/
theorem attempts_le (script : Nat → Seen F) : (dispatch script).2 ≤ 2 := by
  have second : ∀ last, (dispatchFrom script last 2 1).2 = 2 := by
    intro last
    rw [dispatchFrom]
    cases script 2 with
    | unanswered problem => rfl
    | exception => rfl
    | response status body =>
        dsimp only
        rw [if_neg fun retried => absurd retried.2 (by decide)]
        split <;> rfl
  unfold dispatch maxAttempts
  rw [dispatchFrom]
  cases script 1 with
  | unanswered problem => exact (second problem).le
  | exception => exact Nat.le_succ 1
  | response status body =>
      dsimp only
      split
      · exact (second _).le
      · split <;> exact Nat.le_succ 1

/-! ## The bound of a bill -/

/-- Tokens within bounds cost at most what the bounds cost. -/
theorem cost_le
    (pricing : Pricing)
    {inputTokens outputTokens maxInput maxOutput : Int}
    (inputWithin : inputTokens ≤ maxInput)
    (outputWithin : outputTokens ≤ maxOutput) :
    pricing.cost inputTokens outputTokens ≤ pricing.cost maxInput maxOutput := by
  unfold Pricing.cost
  have inputPrice : (0 : ℚ) ≤ pricing.inputUsdPerMillion := NNRat.cast_nonneg _
  have outputPrice : (0 : ℚ) ≤ pricing.outputUsdPerMillion := NNRat.cast_nonneg _
  have input : (inputTokens : ℚ) ≤ maxInput := Int.cast_le.mpr inputWithin
  have output : (outputTokens : ℚ) ≤ maxOutput := Int.cast_le.mpr outputWithin
  gcongr

/-- No bill costs more than the bounds of the request. -/
theorem bill_le
    {client : GenerationClient}
    {request : GenerationRequest F}
    (script : Script client request)
    (guard : SpendGuard)
    (inputBound : 0 ≤ client.maxInputTokens request)
    (outputBound : 0 ≤ request.maxOutputTokens)
    (attempt : Nat) :
    script.bill guard attempt ≤
      guard.pricing.cost (client.maxInputTokens request) request.maxOutputTokens := by
  have free : guard.pricing.cost 0 0 = 0 := by
    simp [Pricing.cost]
  unfold Script.bill
  cases billed : script.billed attempt with
  | none =>
      rw [← free]
      exact cost_le _ inputBound outputBound
  | some tokens =>
      obtain ⟨input, output⟩ := script.within attempt tokens billed
      exact cost_le _ input.2 output.2

/-- Two attempts cost at most twice the bounds of the request. -/
theorem total_le
    {client : GenerationClient}
    {request : GenerationRequest F}
    (script : Script client request)
    (guard : SpendGuard)
    (inputBound : 0 ≤ client.maxInputTokens request)
    (outputBound : 0 ≤ request.maxOutputTokens)
    {attempts : Nat}
    (few : attempts ≤ 2) :
    script.total guard attempts ≤
      guard.pricing.cost (client.maxInputTokens request) request.maxOutputTokens * 2 := by
  have bounded := bill_le script guard inputBound outputBound
  have free : guard.pricing.cost 0 0 = 0 := by
    simp [Pricing.cost]
  have positive : 0 ≤
      guard.pricing.cost (client.maxInputTokens request) request.maxOutputTokens := by
    rw [← free]
    exact cost_le _ inputBound outputBound
  rcases Nat.le_succ_iff.mp few with one | rfl
  · rcases Nat.le_one_iff_eq_zero_or_eq_one.mp one with rfl | rfl
    · rw [Script.total]
      linarith
    · have first := bounded 1
      rw [Script.total, Script.total]
      linarith
  · have first := bounded 1
    have second := bounded 2
    rw [Script.total, Script.total, Script.total]
    linarith

/-! ## The charge -/

omit [FloatOps F] in
/-- What is spent according to books. -/
theorem Books.spentUsd
    {ledger : List (Entry F)}
    {tally : Tally}
    (books : Books ledger tally) :
    Spend.spentUsd ledger = .ok (tally.committed + unresolved tally.reserved) := by
  unfold Spend.spentUsd
  rw [books.state]
  rfl

omit [FloatOps F] in
/-- A reservation that was just made charges what it holds. -/
theorem spentUsd_reserved
    {ledger : List (Entry F)}
    {tally : Tally}
    (books : Books ledger tally)
    {callId stage model : Str}
    {call : Call}
    {usd : ℚ}
    (isNext : callId = nextCallId stage tally.ordinal) :
    Spend.spentUsd (ledger ++ [.reservation callId stage call usd model]) =
      .ok (tally.committed + unresolved tally.reserved + usd) := by
  rw [(books.reservation isNext).spentUsd]
  dsimp only
  rw [unresolved_snoc, add_assoc]

omit [FloatOps F] in
/-- A reservation that was just made and settled charges what is reported, or what it
holds. -/
theorem spentUsd_settled
    {ledger : List (Entry F)}
    {tally : Tally}
    (books : Books ledger tally)
    {callId stage model status : Str}
    {call : Call}
    {usd : ℚ}
    {reported : Option ℚ}
    {usage : Option (Dict F)}
    (isNext : callId = nextCallId stage tally.ordinal) :
    InOrder (ledger ++ [.reservation callId stage call usd model])
        (.callResult callId status reported usage) ∧
      Spend.spentUsd (ledger ++ [.reservation callId stage call usd model] ++
          [.callResult callId status reported usage]) =
        .ok (tally.committed + unresolved tally.reserved + reported.getD usd) := by
  have reserved :
      Books (ledger ++ [.reservation callId stage call usd model])
        { tally with
          reserved := tally.reserved ++ [(callId, usd)]
          ordinal := tally.ordinal + 1 } :=
    books.reservation isNext
  have isOpen : (tally.reserved ++ [(callId, usd)]).lookup callId = some usd := by
    have notOpen : callId ∉ tally.reserved.map (·.1) := by
      intro held
      rw [isNext] at held
      exact books.fresh stage (books.opened _ held)
    have missing : tally.reserved.lookup callId = none := by
      refine List.lookup_eq_none_iff.mpr fun held isHeld => ?_
      rw [bne_iff_ne]
      rintro rfl
      exact notOpen (List.mem_map_of_mem isHeld)
    rw [List.lookup_append, missing, Option.none_or, List.lookup_cons_self]
  refine ⟨⟨_, usd, reserved.state, isOpen⟩, ?_⟩
  rw [(reserved.callResult isOpen).spentUsd]
  dsimp only
  rw [unresolved_pop reserved.openDistinct isOpen, unresolved_snoc]
  congr 1
  ring

/-! ## What a completion does to the ledger -/

section Complete

variable {sha256 : Str → Fin (2 ^ 256)} {isClean : Str → Bool} {client : GenerationClient}

/-- What settling a request that was sent does: the attempts are those of the endpoint,
and the ledger has the settlement of its answer, or of none. -/
theorem send_spec
    (sha256 : Str → Fin (2 ^ 256))
    (client : GenerationClient)
    (guard : SpendGuard)
    (world : World F)
    (script : Nat → Seen F)
    (key rendered : Str)
    (reservation : Reservation) :
    (client.send sha256 guard world script key rendered reservation).attempts =
        (dispatch script).2 ∧
      ∃ status usage,
        (client.send sha256 guard world script key rendered reservation).world.ledger =
          (guard.settle world.ledger reservation status usage).2 ∧
        (((∃ raised, (dispatch script).1 = .error raised) ∧ status = "failed".toList ∧
            usage = none) ∨
          ∃ text, (dispatch script).1 = .ok (text, usage) ∧ status = "ok".toList) := by
  unfold GenerationClient.send
  rcases isDispatch : dispatch script with ⟨raised | ⟨text, usage⟩, attempts⟩
  · dsimp only
    rcases isSettled : guard.settle world.ledger reservation "failed".toList none with
      ⟨refusal | charge, ledger⟩
    · exact ⟨rfl, _, _, by rw [isSettled], Or.inl ⟨⟨raised, rfl⟩, rfl, rfl⟩⟩
    · exact ⟨rfl, _, _, by rw [isSettled], Or.inl ⟨⟨raised, rfl⟩, rfl, rfl⟩⟩
  · dsimp only
    rcases isSettled : guard.settle world.ledger reservation "ok".toList usage with
      ⟨refusal | charge, ledger⟩
    · exact ⟨rfl, _, _, by rw [isSettled], Or.inr ⟨text, rfl, rfl⟩⟩
    · exact ⟨rfl, _, _, by rw [isSettled], Or.inr ⟨text, rfl, rfl⟩⟩

/-- A request that is sent is reserved and settled. -/
theorem complete_of_sends
    {world : World F}
    {request : GenerationRequest F}
    {guard : SpendGuard}
    (sends : client.Sends sha256 isClean world request guard)
    (script : Nat → Seen F) :
    ∃ key rendered reservation entry, client.guard = some guard ∧
      EventLog.canonicalBytes (.dict (client.body request)) = .ok rendered ∧
        guard.decision world.ledger (callOf sha256 request key rendered) =
          .ok (reservation, entry) ∧
          client.complete sha256 isClean world request script =
            client.send sha256 guard { world with ledger := world.ledger ++ [entry] } script key
              rendered reservation := by
  obtain ⟨key, rendered, isKey, missing, online, isRendered, clean, isGuard, hasKey,
    ⟨reservation, entry⟩, decided⟩ := sends
  refine ⟨key, rendered, reservation, entry, isGuard, isRendered, decided, ?_⟩
  unfold GenerationClient.complete
  rw [isKey]
  dsimp only
  rw [missing, online, isRendered]
  dsimp only
  rw [if_neg Bool.false_ne_true, clean, isGuard]
  dsimp only
  rw [hasKey, if_neg Bool.false_ne_true, Bool.not_true, if_neg Bool.false_ne_true]
  unfold SpendGuard.reserve
  rw [decided]

/-- A request that is not sent changes nothing in the ledger. -/
theorem complete_of_not_sends
    {world : World F}
    {request : GenerationRequest F}
    (unsent : ∀ guard, ¬ client.Sends sha256 isClean world request guard)
    (script : Nat → Seen F) :
    (client.complete sha256 isClean world request script).attempts = 0 ∧
      (client.complete sha256 isClean world request script).world.ledger = world.ledger := by
  unfold GenerationClient.complete
  split
  · exact ⟨rfl, rfl⟩
  · rename_i key isKey
    split
    · exact ⟨rfl, rfl⟩
    · rename_i missing
      split
      · exact ⟨rfl, rfl⟩
      · rename_i online
        split
        · exact ⟨rfl, rfl⟩
        · rename_i rendered isRendered
          split
          · exact ⟨rfl, rfl⟩
          · rename_i clean
            split
            · exact ⟨rfl, rfl⟩
            · rename_i guard isGuard
              split
              · exact ⟨rfl, rfl⟩
              · rename_i hasKey
                cases decided : guard.decision world.ledger
                    (callOf sha256 request key rendered) with
                | error refusal =>
                    rw [SpendGuard.reserve, decided]
                    exact ⟨rfl, rfl⟩
                | ok decision =>
                    refine absurd ⟨key, rendered, isKey, missing, ?_, isRendered, ?_, isGuard, ?_,
                      decision, decided⟩ (unsent guard)
                    · simpa using online
                    · simpa using clean
                    · simpa using hasKey

/-- Settling appends the settlement, or nothing when the usage cannot be written. -/
theorem settle_cases
    (guard : SpendGuard)
    (ledger : List (Entry F))
    (reservation : Reservation)
    {status : Str}
    (usage : Option (Dict F))
    (isStatus : status ∈ ["ok".toList, "failed".toList]) :
    (usage.all (fun usage => Json.finite (.dict usage)) = true ∧
        (guard.settle ledger reservation status usage).2 =
          ledger ++ [.callResult reservation.callId status (usage.bind guard.reportedCost)
            usage]) ∨
      (usage.all (fun usage => Json.finite (.dict usage)) = false ∧
        (guard.settle ledger reservation status usage).2 = ledger) := by
  unfold SpendGuard.settle SpendGuard.settlement
  rw [if_neg (not_not_intro isStatus)]
  cases finite : usage.all (fun usage => Json.finite (.dict usage)) with
  | false => exact Or.inr ⟨rfl, rfl⟩
  | true => exact Or.inl ⟨rfl, rfl⟩

/-- The price of a usage that can be written and reports integers. -/
def SpendGuard.price (guard : SpendGuard) (usage : Option (Dict F)) : Option ℚ :=
  (usage.filter fun usage => Json.finite (.dict usage)).bind guard.reportedCost

/-- A call that is reserved and settled is charged the price of its usage, or what was
reserved. -/
theorem charge_of_settle
    {guard : SpendGuard}
    {ledger : List (Entry F)}
    {tally : Tally}
    {call : Call}
    {reservation : Reservation}
    {entry : Entry F}
    (inOrder : Grown InOrder ledger)
    (found : Decided guard ledger call tally reservation entry)
    {status : Str}
    (usage : Option (Dict F))
    (isStatus : status ∈ ["ok".toList, "failed".toList]) :
    Grown InOrder (guard.settle (ledger ++ [entry]) reservation status usage).2 ∧
      ∃ before, spentUsd ledger = .ok before ∧
        spentUsd (guard.settle (ledger ++ [entry]) reservation status usage).2 =
          .ok (before + (guard.price usage).getD (guard.proposed call)) := by
  obtain ⟨tally', books⟩ := books_of_grown inOrder
  have sameTally := books.state
  rw [found.state] at sameTally
  cases sameTally
  have reserved : Grown InOrder (ledger ++ [entry]) := by
    rw [found.entry]
    exact grown_snoc.mpr ⟨inOrder, tally, found.state, rfl⟩
  rcases settle_cases guard (ledger ++ [entry]) reservation usage isStatus with
    ⟨isFinite, settled⟩ | ⟨infinite, settled⟩
  · have price : guard.price usage = usage.bind guard.reportedCost := by
      unfold SpendGuard.price
      cases usage with
      | none => rfl
      | some usage =>
          have isFinite : Json.finite (.dict usage) = true := isFinite
          rw [Option.filter_some, if_pos isFinite]
    rw [settled, price, found.entry, found.reservation]
    rw [found.entry] at reserved
    obtain ⟨isNext, spent⟩ := spentUsd_settled books rfl
    exact ⟨grown_snoc.mpr ⟨reserved, isNext⟩, _, books.spentUsd, spent⟩
  · have price : guard.price usage = none := by
      unfold SpendGuard.price
      cases usage with
      | none => rfl
      | some usage =>
          have infinite : Json.finite (.dict usage) = false := infinite
          rw [Option.filter_some, infinite]
          rfl
    rw [settled, price]
    refine ⟨reserved, _, books.spentUsd, ?_⟩
    rw [found.entry]
    exact spentUsd_reserved books rfl

/-- The usage an answer reports. -/
def reportedUsage (answer : Except ClientError (Value F × Option (Dict F))) :
    Option (Dict F) :=
  match answer with
  | .error _ => none
  | .ok (_, usage) => usage

/-- A request that is sent is charged the price of the usage its answer reports, or the
worst case of two attempts. -/
theorem charge_of_sends
    {world : World F}
    {request : GenerationRequest F}
    {guard : SpendGuard}
    (inOrder : Grown InOrder world.ledger)
    (sends : client.Sends sha256 isClean world request guard)
    (script : Nat → Seen F) :
    Grown InOrder (client.complete sha256 isClean world request script).world.ledger ∧
      (client.complete sha256 isClean world request script).attempts = (dispatch script).2 ∧
      (0 ≤ client.maxInputTokens request ∧ 0 ≤ request.maxOutputTokens) ∧
      ∃ before, spentUsd world.ledger = .ok before ∧
        spentUsd (client.complete sha256 isClean world request script).world.ledger =
          .ok (before + (guard.price (reportedUsage (dispatch script).1)).getD
            (guard.pricing.cost (client.maxInputTokens request) request.maxOutputTokens * 2)) := by
  obtain ⟨key, rendered, reservation, entry, isGuard, isRendered, isDecision, completes⟩ :=
    complete_of_sends sends script
  obtain ⟨tally, found⟩ := decided_of_decision isDecision
  have isInput : client.maxInputTokens request = Text.utf8Length rendered := by
    unfold GenerationClient.maxInputTokens
    rw [isRendered]
  have proposed : guard.proposed (callOf sha256 request key rendered) =
      guard.pricing.cost (client.maxInputTokens request) request.maxOutputTokens * 2 := by
    rw [isInput]
    unfold SpendGuard.proposed callOf maxAttempts
    norm_num
  obtain ⟨attempts, status, usage, ledger, answer⟩ := send_spec sha256 client guard
    { world with ledger := world.ledger ++ [entry] } script key rendered reservation
  have isStatus : status ∈ ["ok".toList, "failed".toList] := by
    rcases answer with ⟨-, rfl, -⟩ | ⟨text, -, rfl⟩ <;> simp
  have isUsage : reportedUsage (dispatch script).1 = usage := by
    rcases answer with ⟨⟨raised, isRaised⟩, -, rfl⟩ | ⟨text, isText, -⟩
    · rw [isRaised]
      rfl
    · rw [isText]
      rfl
  rw [completes, attempts, ledger, isUsage, ← proposed]
  obtain ⟨grown, before, isBefore, isAfter⟩ := charge_of_settle inOrder found usage isStatus
  exact ⟨grown, rfl, ⟨isInput ▸ Int.natCast_nonneg _, found.bounds.2⟩, before, isBefore, isAfter⟩

/-- A completion keeps the ledger in order. -/
theorem inOrder_completion
    {world : World F}
    (inOrder : Grown InOrder world.ledger)
    (step : Step F client) :
    Grown InOrder (step.completion sha256 isClean world).world.ledger := by
  by_cases sends : ∃ guard, client.Sends sha256 isClean world step.request guard
  · obtain ⟨guard, sends⟩ := sends
    exact (charge_of_sends inOrder sends step.script.seen).1
  · unfold Step.completion
    rw [(complete_of_not_sends (not_exists.mp sends) step.script.seen).2]
    exact inOrder

/-- The ledger of every run is in order. -/
theorem inOrder_worldAfter (steps : List (Step F client)) :
    Grown InOrder (worldAfter sha256 isClean steps).ledger := by
  induction steps using List.reverseRecOn with
  | nil => exact grown_nil
  | append_singleton steps step inductionHypothesis =>
      unfold worldAfter at inductionHypothesis ⊢
      rw [List.foldl_append]
      exact inOrder_completion inductionHypothesis step

omit [FloatOps F] in
/-- The answer of a request that is answered at the first attempt. -/
private theorem dispatch_first
    {script : Nat → Seen F}
    {answer : Value F × Option (Dict F)}
    (answered : Answered (script 1) answer) : dispatch script = (.ok answer, 1) :=
  dispatch_eq_ok_iff.mpr (Or.inl ⟨rfl, answered⟩)

omit [FloatOps F] in
/-- The answer of a request that is answered at the second attempt. -/
private theorem dispatch_second
    {script : Nat → Seen F}
    {answer : Value F × Option (Dict F)}
    (retried : Retried (script 1))
    (answered : Answered (script 2) answer) : dispatch script = (.ok answer, 2) :=
  dispatch_eq_ok_iff.mpr (Or.inr ⟨rfl, retried, answered⟩)

/-- A priced usage has its price. -/
private theorem price_eq_some_iff
    {guard : SpendGuard}
    {usage : Option (Dict F)}
    {cost : ℚ} :
    guard.price usage = some cost ↔
      ∃ reported, usage = some reported ∧ Json.finite (.dict reported) = true ∧
        guard.reportedCost reported = some cost := by
  unfold SpendGuard.price
  simp only [Option.bind_eq_some_iff, Option.filter_eq_some_iff, and_assoc]

/-- The charge of a request that is sent covers what was billed exactly when priced
answers report enough. -/
theorem total_le_charge_iff
    {request : GenerationRequest F}
    (script : Script client request)
    (guard : SpendGuard)
    (bounds : 0 ≤ client.maxInputTokens request ∧ 0 ≤ request.maxOutputTokens) :
    script.total guard (dispatch script.seen).2 ≤
        (guard.price (reportedUsage (dispatch script.seen).1)).getD
          (guard.pricing.cost (client.maxInputTokens request) request.maxOutputTokens * 2) ↔
      ReportsAll guard script := by
  constructor
  · intro covers
    constructor
    · rintro cost ⟨body, text, usage, isResponse, isAnswer, isFinite, isCost⟩
      have answered : Answered (script.seen 1) (text, some usage) := ⟨body, isResponse, isAnswer⟩
      have price := price_eq_some_iff.mpr ⟨usage, rfl, isFinite, isCost⟩
      rw [dispatch_first answered, reportedUsage, price] at covers
      simpa [Script.total] using covers
    · rintro cost retried ⟨body, text, usage, isResponse, isAnswer, isFinite, isCost⟩
      have answered : Answered (script.seen 2) (text, some usage) := ⟨body, isResponse, isAnswer⟩
      have price := price_eq_some_iff.mpr ⟨usage, rfl, isFinite, isCost⟩
      rw [dispatch_second retried answered, reportedUsage, price] at covers
      simpa [Script.total] using covers
  · rintro ⟨first, second⟩
    cases priced : guard.price (reportedUsage (dispatch script.seen).1) with
    | none => exact total_le script guard bounds.1 bounds.2 (attempts_le script.seen)
    | some cost =>
        obtain ⟨usage, isUsage, isFinite, isCost⟩ := price_eq_some_iff.mp priced
        rcases isDispatch : dispatch script.seen with ⟨raised | ⟨text, reported⟩, attempts⟩
        · rw [isDispatch] at isUsage
          cases isUsage
        · rw [isDispatch] at isUsage
          cases isUsage
          rcases dispatch_eq_ok_iff.mp isDispatch with
            ⟨rfl, body, isResponse, isAnswer⟩ | ⟨rfl, retried, body, isResponse, isAnswer⟩
          · have enough := first cost ⟨body, text, usage, isResponse, isAnswer, isFinite, isCost⟩
            simpa [Script.total] using enough
          · have enough := second cost retried
              ⟨body, text, usage, isResponse, isAnswer, isFinite, isCost⟩
            simpa [Script.total] using enough

/-- After every run, the ledger charges for a completion at least what was billed exactly
when, in case the request is sent, an answer whose usage has a price reports enough for
the attempts before it, too. -/
theorem chargeCovers_iff (steps : List (Step F client)) (step : Step F client) :
    ChargeCovers sha256 isClean (worldAfter sha256 isClean steps) step ↔
      ∀ guard, client.Sends sha256 isClean (worldAfter sha256 isClean steps) step.request guard →
        ReportsAll guard step.script := by
  have inOrder : Grown InOrder (worldAfter sha256 isClean steps).ledger :=
    inOrder_worldAfter steps
  generalize worldAfter sha256 isClean steps = world at inOrder ⊢
  by_cases sent : ∃ guard, client.Sends sha256 isClean world step.request guard
  · obtain ⟨guard, sends⟩ := sent
    have isGuard : client.guard = some guard := by
      obtain ⟨_, _, -, -, -, -, -, isGuard, -⟩ := sends
      exact isGuard
    obtain ⟨-, attempts, bounds, before, isBefore, isAfter⟩ :=
      charge_of_sends inOrder sends step.script.seen
    have covers := total_le_charge_iff step.script guard bounds
    constructor
    · rintro ⟨before', after, isBefore', isAfter', billed⟩ other otherSends
      have same : other = guard := by
        obtain ⟨_, _, -, -, -, -, -, isOther, -⟩ := otherSends
        exact Option.some.inj (isOther.symm.trans isGuard)
      subst same
      unfold Step.completion at isAfter' billed
      rw [isBefore] at isBefore'
      rw [isAfter] at isAfter'
      cases isBefore'
      cases isAfter'
      have total := billed other isGuard
      rw [attempts, add_sub_cancel_left] at total
      exact covers.mp total
    · intro reports
      refine ⟨before, _, isBefore, isAfter, fun other isOther => ?_⟩
      rw [isGuard] at isOther
      cases isOther
      unfold Step.completion
      rw [attempts, add_sub_cancel_left]
      exact covers.mpr (reports guard sends)
  · obtain ⟨attempts, unchanged⟩ :=
      complete_of_not_sends (not_exists.mp sent) step.script.seen
    obtain ⟨tally, books⟩ := books_of_grown inOrder
    constructor
    · exact fun _ guard sends => absurd ⟨guard, sends⟩ sent
    · intro _
      have isAfter : spentUsd (step.completion sha256 isClean world).world.ledger =
          .ok (tally.committed + unresolved tally.reserved) := by
        unfold Step.completion
        rw [unchanged]
        exact books.spentUsd
      refine ⟨_, _, books.spentUsd, isAfter, fun guard _ => ?_⟩
      unfold Step.completion
      rw [attempts, sub_self]
      exact le_refl _

end Complete

/-! ## A timeout -/

/-- A client with a small guard. -/
def smallClient : GenerationClient where
  guard := some smallGuard
  model := "m".toList
  apiKey := some "k".toList
  offline := false

/-- A short request. -/
def shortRequest : GenerationRequest Empty where
  messages := [[("role".toList, "user".toList), ("content".toList, "hi".toList)]]
  tenantId := "tenant".toList
  conversationId := "conversation".toList
  kind := "generation".toList
  label := "step".toList
  maxOutputTokens := 0
  temperature := .int 0
  responseFormat := none

/-- Both attempts are billed, and the client sees an answer to the second one only. -/
def timedOut : Script smallClient shortRequest where
  seen := fun attempt =>
    if attempt = 1 then .unanswered "timeout".toList
    else .response 200 (some (.dict
      [("choices".toList, .list [.dict [("message".toList,
          .dict [("content".toList, .str "ok".toList)])]]),
        ("usage".toList, .dict [("prompt_tokens".toList, .int 20)])]))
  billed := fun _ => some (20, 0)
  within := by
    rintro _ _ ⟨⟩
    decide +kernel

/-- A completion that was billed twice is charged once. -/
theorem not_chargeCovers :
    ¬ ∀ (sha256 : Str → Fin (2 ^ 256)) (isClean : Str → Bool) (client : GenerationClient)
        (steps : List (Step Empty client)) (step : Step Empty client),
      ChargeCovers sha256 isClean (worldAfter sha256 isClean steps) step := by
  intro covers
  obtain ⟨before, after, isBefore, isAfter, billed⟩ :=
    covers (fun _ => 0) (fun _ => true) smallClient [] ⟨shortRequest, timedOut⟩
  have spentBefore : spentUsd (worldAfter (fun _ => 0) (fun _ => true)
      ([] : List (Step Empty smallClient))).ledger = .ok 0 := by
    decide +kernel
  have spentAfter : spentUsd ((⟨shortRequest, timedOut⟩ : Step Empty smallClient).completion
      (fun _ => 0) (fun _ => true) (worldAfter (fun _ => 0) (fun _ => true)
        ([] : List (Step Empty smallClient)))).world.ledger =
      .ok (smallGuard.pricing.cost 20 0) := by
    decide +kernel
  have attempts : ((⟨shortRequest, timedOut⟩ : Step Empty smallClient).completion
      (fun _ => 0) (fun _ => true) (worldAfter (fun _ => 0) (fun _ => true)
        ([] : List (Step Empty smallClient)))).attempts = 2 := by
    decide +kernel
  rw [spentBefore] at isBefore
  rw [spentAfter] at isAfter
  cases isBefore
  cases isAfter
  have total := billed smallGuard rfl
  rw [attempts] at total
  revert total
  decide +kernel

end Spend
end ChatPlatform
