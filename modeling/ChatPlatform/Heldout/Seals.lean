import ChatPlatform.Foundation.Growth
import ChatPlatform.Foundation.Dynamic
import ChatPlatform.Foundation.Text
import Mathlib.Algebra.Order.Ring.Int

/-!
# Seals of the held-out pool

A pool is sealed and its seal is invalidated by events of the event log. Both operations
read the log and append in a later step. One reader keeps a stack of the seals in force,
the other counts them. The pool has no more than one seal exactly as long as, at every
append, as many seals are in force as when the process read the log.
-/

namespace ChatPlatform
namespace Heldout

open Growth CheckThenAppend

variable {F : Type} [FloatOps F]

/-- No trusted sealed bytes can be supplied to the caller. -/
structure HeldoutSealError where
  /-- Why. -/
  message : Str
  deriving DecidableEq

/-- An event of the log. -/
structure PoolEvent (F : Type) where
  /-- Its type. -/
  type : Str
  /-- What it says. -/
  payload : Dict F

/-- The type of a seal. -/
def sealedType : Str := "heldout_pool_sealed".toList

/-- The type of an invalidation. -/
def invalidatedType : Str := "heldout_pool_seal_invalidated".toList

section Pool

variable (shown : Value F → Str) (poolPath : Str)

/-! ## Reading the log -/

/-- Read one event: the digests in force afterwards. -/
def liveStep (live : List Str) (event : PoolEvent F) : Except HeldoutSealError (List Str) :=
  if Dict.getStr event.payload "pool_path".toList ≠ some poolPath then .ok live
  else if event.type = sealedType then
    .ok (live ++
      [Value.asText shown ((Dict.get event.payload "sha256".toList).getD .none)])
  else if event.type = invalidatedType then
    if live = [] then .error ⟨"invalidation without a live seal".toList⟩
    else .ok live.dropLast
  else .ok live

/-- The digests in force. -/
def liveSeals (log : List (PoolEvent F)) : Except HeldoutSealError (List Str) :=
  log.foldlM (liveStep shown poolPath) []

/-- The digest of the seal in force. -/
def sealedDigest (log : List (PoolEvent F)) : Except HeldoutSealError Str :=
  match liveSeals shown poolPath log with
  | .error refusal => .error refusal
  | .ok [digest] => .ok digest
  | .ok _ => .error ⟨"exactly one live seal is required".toList⟩

/-- What an event adds to the number of seals in force. -/
def weight (event : PoolEvent F) : Int :=
  if Dict.getStr event.payload "pool_path".toList ≠ some poolPath then 0
  else if event.type = sealedType then 1
  else if event.type = invalidatedType then -1
  else 0

/-- Seals minus invalidations of the pool. -/
def liveSealCount (log : List (PoolEvent F)) : Int :=
  log.foldl (fun live event => live + weight poolPath event) 0

/-! ## Sealing and invalidating -/

/-- What a process does with the pool. -/
inductive SealOperation
  /-- Seal the bytes that have a digest. -/
  | sealPool (sha256 : Str)
  /-- Retire the seal in force. -/
  | invalidateSeal (reason : Str)

/-- Check that no seal is in force: the event to append, or what is raised. -/
def sealing (log : List (PoolEvent F)) (sha256 : Str) :
    Except HeldoutSealError (PoolEvent F) :=
  if 0 < liveSealCount poolPath log then .error ⟨"pool is already sealed".toList⟩
  else
    .ok ⟨sealedType, [("pool_path".toList, .str poolPath), ("sha256".toList, .str sha256)]⟩

/-- Check that a seal is in force: the event to append, or what is raised. -/
def invalidation (log : List (PoolEvent F)) (reason : Str) :
    Except HeldoutSealError (PoolEvent F) :=
  let reason := Text.strip reason
  if reason.length < 20 then
    .error ⟨"an invalidation needs a substantive reason".toList⟩
  else
    match sealedDigest shown poolPath log with
    | .error refusal => .error refusal
    | .ok digest =>
        .ok ⟨invalidatedType, [("pool_path".toList, .str poolPath),
          ("retired_sha256".toList, .str digest), ("reason".toList, .str reason)]⟩

/-- The event a process decides to append. -/
def sealDecision (log : List (PoolEvent F)) (operation : SealOperation) : Option (PoolEvent F) :=
  match operation with
  | .sealPool sha256 => (sealing poolPath log sha256).toOption
  | .invalidateSeal reason => (invalidation shown poolPath log reason).toOption

/-- An event that neither seals the pool nor invalidates a seal of it. -/
abbrev Elsewhere (F : Type) (poolPath : Str) :=
  { event : PoolEvent F // weight poolPath event = 0 }

/-- Such an event is appended at once. -/
def elsewhere (_ : List (PoolEvent F)) (event : Elsewhere F poolPath) :
    Option (PoolEvent F) :=
  some event.1

/-- A process, and the step it takes. -/
abbrev SealTurn (P F : Type) (poolPath : Str) :=
  P × CheckThenAppend.Move SealOperation (Elsewhere F poolPath)

/-- The log and what the processes are about to append, after a schedule. -/
def sealRun
    {P : Type}
    [DecidableEq P]
    (schedule : List (SealTurn P F poolPath)) :
    State P (PoolEvent F) :=
  run (sealDecision shown poolPath) (elsewhere poolPath) schedule

/-! ## The protocol -/

/-- No prefix of a log has more seals in force than one or fewer than none, and the two
readers agree. -/
structure WellSealed (log : List (PoolEvent F)) : Prop where
  /-- Every prefix has no seal in force or one. -/
  balanced : ∀ before after, log = before ++ after →
    liveSealCount poolPath before = 0 ∨ liveSealCount poolPath before = 1
  /-- No digest is read only where no seal is in force. -/
  raises : ∀ refusal, sealedDigest shown poolPath log = .error refusal →
    liveSealCount poolPath log = 0
  /-- A digest is read exactly where a seal is in force. -/
  agree : (∃ digest, sealedDigest shown poolPath log = .ok digest) ↔
    liveSealCount poolPath log = 1

/-- A process that appends finds as many seals in force as when it read the log. -/
def SameCount
    {P R O : Type}
    (state : State P (PoolEvent F))
    (turn : P × CheckThenAppend.Move R O) : Prop :=
  turn.2 = .write → ∀ seen event, state.pending turn.1 = some (seen, event) →
    liveSealCount poolPath seen = liveSealCount poolPath state.log

end Pool

variable {shown : Value F → Str} {poolPath : Str}

/-! ## The stack and the counter -/

omit [FloatOps F] in
@[simp] theorem liveSealCount_nil : liveSealCount poolPath ([] : List (PoolEvent F)) = 0 := rfl

omit [FloatOps F] in
@[simp] theorem liveSealCount_snoc (log : List (PoolEvent F)) (event : PoolEvent F) :
    liveSealCount poolPath (log ++ [event]) =
      liveSealCount poolPath log + weight poolPath event := by
  unfold liveSealCount
  rw [List.foldl_append]
  rfl

/-- One more event is read after all the others. -/
theorem liveSeals_snoc
    {log : List (PoolEvent F)}
    {live : List Str}
    (event : PoolEvent F)
    (isLive : liveSeals shown poolPath log = .ok live) :
    liveSeals shown poolPath (log ++ [event]) = liveStep shown poolPath live event := by
  unfold liveSeals at isLive ⊢
  rw [List.foldlM_append, isLive]
  show (List.foldlM (liveStep shown poolPath) live [event]) = _
  rw [List.foldlM_cons]
  cases liveStep shown poolPath live event <;> rfl

/-- The stack can be read up to every event. -/
theorem liveSeals_of_snoc
    {log : List (PoolEvent F)}
    {event : PoolEvent F}
    {live : List Str}
    (isLive : liveSeals shown poolPath (log ++ [event]) = .ok live) :
    ∃ earlier, liveSeals shown poolPath log = .ok earlier := by
  cases earlier : liveSeals shown poolPath log with
  | ok stack => exact ⟨stack, rfl⟩
  | error refusal =>
      unfold liveSeals at isLive earlier
      rw [List.foldlM_append, earlier] at isLive
      cases isLive

/-- What one event does to the stack is what it adds to the count. -/
theorem length_of_liveStep
    {live next : List Str}
    {event : PoolEvent F}
    (isNext : liveStep shown poolPath live event = .ok next) :
    (next.length : Int) = live.length + weight poolPath event := by
  unfold liveStep at isNext
  unfold weight
  split at isNext
  · rename_i elsewhere
    cases isNext
    rw [if_pos elsewhere, Int.add_zero]
  · rename_i here
    rw [if_neg here]
    split at isNext
    · rename_i isSeal
      cases isNext
      rw [if_pos isSeal, List.length_append, List.length_singleton, Nat.cast_add, Nat.cast_one]
    · rename_i noSeal
      rw [if_neg noSeal]
      split at isNext
      · rename_i isInvalidation
        rw [if_pos isInvalidation]
        split at isNext
        · cases isNext
        · rename_i some
          cases isNext
          have positive := List.length_pos_of_ne_nil some
          rw [List.length_dropLast]
          omega
      · rename_i noInvalidation
        cases isNext
        rw [if_neg noInvalidation, Int.add_zero]

/-- Where the stack can be read, it is as high as the count. -/
theorem liveSealCount_eq
    {log : List (PoolEvent F)}
    {live : List Str}
    (isLive : liveSeals shown poolPath log = .ok live) :
    liveSealCount poolPath log = live.length := by
  induction log using List.reverseRecOn generalizing live with
  | nil =>
      cases isLive
      rfl
  | append_singleton log event inductionHypothesis =>
      obtain ⟨earlier, isEarlier⟩ := liveSeals_of_snoc isLive
      rw [liveSeals_snoc event isEarlier] at isLive
      rw [liveSealCount_snoc, inductionHypothesis isEarlier, length_of_liveStep isLive]

/-- A digest is read from a stack of one. -/
theorem liveSeals_of_sealedDigest
    {log : List (PoolEvent F)}
    {digest : Str}
    (isDigest : sealedDigest shown poolPath log = .ok digest) :
    liveSeals shown poolPath log = .ok [digest] := by
  unfold sealedDigest at isDigest
  split at isDigest
  · cases isDigest
  · rename_i only isLive
    cases isDigest
    exact isLive
  · cases isDigest

/-- The stack can be extended unless an invalidation finds it empty. -/
theorem liveStep_eq_ok
    (shown : Value F → Str)
    {live : List Str}
    {event : PoolEvent F}
    (enough : 0 ≤ (live.length : Int) + weight poolPath event) :
    ∃ next, liveStep shown poolPath live event = .ok next := by
  unfold weight at enough
  unfold liveStep
  split
  · exact ⟨_, rfl⟩
  · rename_i here
    rw [if_neg here] at enough
    split
    · exact ⟨_, rfl⟩
    · rename_i noSeal
      rw [if_neg noSeal] at enough
      split
      · rename_i isInvalidation
        rw [if_pos isInvalidation] at enough
        split
        · rename_i empty
          rw [empty, List.length_nil] at enough
          omega
        · exact ⟨_, rfl⟩
      · exact ⟨_, rfl⟩

/-! ## Logs in which every event fits -/

/-- A seal finds none in force and an invalidation finds one. -/
def SealFits (poolPath : Str) (before : List (PoolEvent F)) (event : PoolEvent F) : Prop :=
  (weight poolPath event = 1 → liveSealCount poolPath before ≤ 0) ∧
    (weight poolPath event = -1 → liveSealCount poolPath before = 1)

omit [FloatOps F] in
/-- An event seals the pool, invalidates a seal of it, or does neither. -/
theorem weight_cases (poolPath : Str) (event : PoolEvent F) :
    weight poolPath event = 1 ∨ weight poolPath event = -1 ∨ weight poolPath event = 0 := by
  unfold weight
  split
  · exact Or.inr (Or.inr rfl)
  · split
    · exact Or.inl rfl
    · split
      · exact Or.inr (Or.inl rfl)
      · exact Or.inr (Or.inr rfl)

omit [FloatOps F] in
/-- An event that names the pool counts by its type. -/
theorem weight_here (type : Str) (rest : Dict F) :
    weight poolPath ⟨type, ("pool_path".toList, .str poolPath) :: rest⟩ =
      if type = sealedType then 1 else if type = invalidatedType then -1 else 0 := by
  have here : Dict.getStr (F := F) (("pool_path".toList, .str poolPath) :: rest)
      "pool_path".toList = some poolPath := by
    unfold Dict.getStr Dict.get
    rw [List.find?_cons_of_pos (by simp)]
    rfl
  unfold weight
  rw [if_neg (not_not_intro here)]

/-- In a log in which every event fits, the stack can be read and is one high at most. -/
theorem liveSeals_of_grown
    (shown : Value F → Str)
    {log : List (PoolEvent F)}
    (grown : Grown (SealFits poolPath) log) :
    ∃ live, liveSeals shown poolPath log = .ok live ∧ live.length ≤ 1 := by
  induction log using List.reverseRecOn with
  | nil => exact ⟨[], rfl, Nat.zero_le 1⟩
  | append_singleton log event inductionHypothesis =>
      obtain ⟨earlier, seals, invalidates⟩ := grown_snoc.mp grown
      obtain ⟨live, isLive, atMostOne⟩ := inductionHypothesis earlier
      rw [liveSealCount_eq isLive] at seals invalidates
      have enough : 0 ≤ (live.length : Int) + weight poolPath event := by
        rcases weight_cases poolPath event with one | minusOne | zero
        · omega
        · have one := invalidates minusOne
          omega
        · omega
      obtain ⟨next, isNext⟩ := liveStep_eq_ok shown enough
      refine ⟨next, by rw [liveSeals_snoc event isLive, isNext], ?_⟩
      have height := length_of_liveStep isNext
      rcases weight_cases poolPath event with one | minusOne | zero
      · have none := seals one
        omega
      · omega
      · omega

/-- A log in which every event fits is well sealed. -/
theorem wellSealed_of_grown
    {log : List (PoolEvent F)}
    (grown : Grown (SealFits poolPath) log) : WellSealed shown poolPath log := by
  obtain ⟨live, isLive, atMostOne⟩ := liveSeals_of_grown shown grown
  have count := liveSealCount_eq isLive
  refine ⟨fun before after same => ?_, fun refusal refused => ?_, ?_⟩
  · obtain ⟨front, isFront, low⟩ := liveSeals_of_grown shown (grown.before same)
    rw [liveSealCount_eq isFront]
    omega
  · unfold sealedDigest at refused
    rw [isLive] at refused
    rw [count]
    cases live with
    | nil => rfl
    | cons digest rest =>
        cases rest with
        | nil => cases refused
        | cons second others =>
            rw [List.length_cons, List.length_cons] at atMostOne
            omega
  · constructor
    · rintro ⟨digest, isDigest⟩
      rw [liveSealCount_eq (liveSeals_of_sealedDigest isDigest)]
      rfl
    · intro one
      rw [count] at one
      have isOne : live.length = 1 := by omega
      obtain ⟨digest, rfl⟩ := List.length_eq_one_iff.mp isOne
      exact ⟨digest, by unfold sealedDigest; rw [isLive]⟩

/-- What a process decides to append fits the log it read, and seals the pool or
invalidates its seal. -/
theorem sealFits_of_sealDecision
    {log : List (PoolEvent F)}
    {operation : SealOperation}
    {event : PoolEvent F}
    (decided : sealDecision shown poolPath log operation = some event) :
    SealFits poolPath log event ∧ weight poolPath event ≠ 0 := by
  cases operation with
  | sealPool sha256 =>
      unfold sealDecision sealing at decided
      dsimp only at decided
      split at decided
      · cases decided
      · rename_i noSeal
        cases decided
        rw [SealFits, weight_here, if_pos rfl]
        exact ⟨⟨fun _ => not_lt.mp noSeal, nofun⟩, one_ne_zero⟩
  | invalidateSeal reason =>
      unfold sealDecision invalidation at decided
      dsimp only at decided
      split at decided
      · cases decided
      · split at decided
        · cases decided
        · rename_i digest isDigest
          cases decided
          have one := liveSealCount_eq (liveSeals_of_sealedDigest isDigest)
          have notSeal : invalidatedType ≠ sealedType := by decide
          rw [SealFits, weight_here, if_neg notSeal, if_pos rfl]
          exact ⟨⟨nofun, fun _ => one⟩, by decide⟩

/-! ## Runs -/

variable {P : Type} [DecidableEq P]

/-- Where every process finds as many seals in force as when it read the log, every event
fits. -/
theorem grown_of_sameCount
    {schedule : List (SealTurn P F poolPath)}
    (same : Throughout (sealDecision shown poolPath) (elsewhere poolPath) (SameCount poolPath)
      schedule) :
    Grown (SealFits poolPath) (sealRun shown poolPath schedule).log := by
  refine grown_run (fun log operation event decided => (sealFits_of_sealDecision decided).1)
    ?_ ?_ same
  · intro state process seen event met isPending fits
    unfold SealFits at fits ⊢
    rw [met rfl seen event isPending] at fits
    exact fits
  · intro state process event entry met isEntry
    cases isEntry
    unfold SealFits
    rw [event.2]
    exact ⟨nofun, nofun⟩

/-- Every log that a schedule reaches is well sealed exactly when every process that
appends finds as many seals in force as when it read the log. -/
theorem wellSealed_iff_sameCount
    {schedule : List (SealTurn P F poolPath)} :
    (∀ before after, schedule = before ++ after →
      WellSealed shown poolPath (sealRun shown poolPath before).log) ↔
    Throughout (sealDecision shown poolPath) (elsewhere poolPath) (SameCount poolPath)
      schedule := by
  constructor
  · rintro wellSealed before ⟨process, move⟩ after same isWrite seen event isPending
    cases isWrite
    have now := wellSealed before ((process, .write) :: after) same
    have next := wellSealed (before ++ [(process, .write)]) after (by rw [same]; simp)
    have written : (sealRun shown poolPath (before ++ [(process, .write)])).log =
        (sealRun shown poolPath before).log ++ [event] := by
      unfold sealRun
      rw [run_append_singleton]
      unfold step
      dsimp only at isPending ⊢
      rw [isPending]
    obtain ⟨rest, isPrefix⟩ := pending_prefix before process isPending
    have decides : ∀ log operation event,
        sealDecision shown poolPath log operation = some event →
          SealFits poolPath log event ∧ weight poolPath event ≠ 0 :=
      fun _ _ _ => sealFits_of_sealDecision
    obtain ⟨⟨seals, invalidates⟩, counts⟩ := pending_fits decides before process isPending
    have seenCount := now.balanced seen rest isPrefix.symm
    have nowCount := now.balanced _ [] (List.append_nil _).symm
    have nextCount := next.balanced _ [] (List.append_nil _).symm
    rw [written, liveSealCount_snoc] at nextCount
    show liveSealCount poolPath seen = liveSealCount poolPath (sealRun shown poolPath before).log
    rcases weight_cases poolPath event with one | minusOne | zero
    · have none := seals one
      omega
    · have one := invalidates minusOne
      omega
    · exact absurd zero counts
  · rintro same before after rfl
    exact wellSealed_of_grown (grown_of_sameCount same.of_append)

/-- Two processes that seal the pool at once seal it twice. -/
theorem not_wellSealed :
    ¬ ∀ (poolPath : Str) (schedule : List (SealTurn Bool Empty poolPath)),
      WellSealed (fun _ => []) poolPath (sealRun (fun _ => []) poolPath schedule).log := by
  intro wellSealed
  have twice := (wellSealed "pools/heldout.json".toList
    [(true, .read (.sealPool "a".toList)), (false, .read (.sealPool "a".toList)), (true, .write),
      (false, .write)]).balanced _ [] (List.append_nil _).symm
  revert twice
  decide +kernel

end Heldout
end ChatPlatform
