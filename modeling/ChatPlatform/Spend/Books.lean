import ChatPlatform.Foundation.Growth
import ChatPlatform.Spend.Guard
import Mathlib.Data.List.Nodup
import Mathlib.Tactic.Linarith

/-!
# Ledgers in order

A ledger is in order when every reservation has the next identifier and every result
resolves a reservation that is open. Then both loops read it, they agree on what was
spent, and no identifier occurs twice.
-/

namespace ChatPlatform
namespace Spend

open Growth

variable {F : Type}

/-! ## One more entry -/

/-- One more entry is read after all the others. -/
theorem stateFrom_snoc
    {start tally : Tally}
    {ledger : List (Entry F)}
    (entry : Entry F)
    (isTally : stateFrom start ledger = .ok tally) :
    stateFrom start (ledger ++ [entry]) = stateStep tally entry := by
  induction ledger generalizing start with
  | nil =>
      cases isTally
      rw [List.nil_append, stateFrom]
      cases stateStep tally entry <;> rfl
  | cons first rest inductionHypothesis =>
      rw [stateFrom] at isTally
      rw [List.cons_append, stateFrom]
      cases next : stateStep start first with
      | error refusal =>
          rw [next] at isTally
          cases isTally
      | ok middle =>
          rw [next] at isTally
          exact inductionHypothesis isTally

/-- One more entry is replayed after all the others. -/
theorem replayFrom_snoc
    {budget : ℚ}
    {start replay : Replay}
    {ledger : List (Entry F)}
    (entry : Entry F)
    (isReplay : replayFrom budget start ledger = .ok replay) :
    replayFrom budget start (ledger ++ [entry]) = replayStep budget replay entry := by
  induction ledger generalizing start with
  | nil =>
      cases isReplay
      rw [List.nil_append, replayFrom]
      cases replayStep budget replay entry <;> rfl
  | cons first rest inductionHypothesis =>
      rw [replayFrom] at isReplay
      rw [List.cons_append, replayFrom]
      cases next : replayStep budget start first with
      | error refusal =>
          rw [next] at isReplay
          cases isReplay
      | ok middle =>
          rw [next] at isReplay
          exact inductionHypothesis isReplay

/-! ## Open reservations -/

/-- What is open with one more reservation. -/
theorem unresolved_snoc (reserved : List (Str × ℚ)) (callId : Str) (usd : ℚ) :
    unresolved (reserved ++ [(callId, usd)]) = unresolved reserved + usd := by
  simp [unresolved]

/-- What is open without one of the reservations. -/
theorem unresolved_pop
    {reserved : List (Str × ℚ)}
    {callId : Str}
    {usd : ℚ}
    (distinct : (reserved.map (·.1)).Nodup)
    (found : reserved.lookup callId = some usd) :
    unresolved (pop reserved callId) = unresolved reserved - usd := by
  induction reserved with
  | nil => cases found
  | cons held rest inductionHypothesis =>
      obtain ⟨key, value⟩ := held
      rw [List.map_cons, List.nodup_cons] at distinct
      rw [List.lookup_cons] at found
      split at found
      · rename_i same
        cases found
        have same := beq_iff_eq.mp same
        subst same
        have others : rest.filter (fun other => decide (other.1 ≠ callId)) = rest := by
          refine List.filter_eq_self.mpr fun other held => decide_eq_true fun same => ?_
          exact distinct.1 (List.mem_map.mpr ⟨other, held, same⟩)
        unfold pop
        rw [List.filter_cons_of_neg (by simp), others]
        simp [unresolved]
      · rename_i different
        have different : key ≠ callId := fun same => by simp [same] at different
        have rests := inductionHypothesis distinct.2 found
        unfold pop at rests ⊢
        rw [List.filter_cons_of_pos (by simpa using different)]
        unfold unresolved at rests ⊢
        rw [List.map_cons, List.sum_cons, List.map_cons, List.sum_cons, rests]
        ring

/-! ## Identifiers -/

/-- The digits of a number with leading zeros are digits. -/
private theorem isDigit_of_mem_padded
    {width n : Nat}
    {c : Char}
    (held : c ∈ padded width n) : c.isDigit = true := by
  unfold padded at held
  rcases List.mem_append.mp held with zero | digit
  · rw [(List.mem_replicate.mp zero).2]
    decide
  · exact Nat.isDigit_of_mem_toDigits (by decide) (by decide) digit

/-- Leading zeros do not change a number. -/
private theorem ofDigitChars_padded (width n : Nat) :
    Nat.ofDigitChars 10 (padded width n) 0 = n := by
  unfold padded
  rw [Nat.ofDigitChars_append, Nat.ofDigitChars_replicate_zero, Nat.mul_zero,
    Nat.ofDigitChars_ten_toDigits]

/-- The identifier of a call tells its number. -/
theorem nextCallId_injective
    {stage stage' : Str}
    {n m : Nat}
    (same : nextCallId stage n = nextCallId stage' m) : n = m := by
  have noDash : ∀ k, '-' ∉ padded 6 k :=
    fun k held => absurd (isDigit_of_mem_padded held) (by decide)
  have digits := (Text.separated_right (noDash n) (noDash m) same).2
  have values := congrArg (fun text => Nat.ofDigitChars 10 text 0) digits
  simpa only [ofDigitChars_padded] using values

/-- Identifiers stay distinct with a new one. -/
private theorem nodup_snoc
    {ids : List Str}
    {callId : Str}
    (distinct : ids.Nodup)
    (fresh : callId ∉ ids) : (ids ++ [callId]).Nodup := by
  rw [← List.concat_eq_append]
  exact distinct.concat fresh

/-- The identifiers of the reservations of a ledger. -/
def callIds (ledger : List (Entry F)) : List Str :=
  ledger.filterMap fun entry =>
    match entry with
    | .reservation callId _ _ _ _ => some callId
    | .callResult _ _ _ _ => none

/-! ## Order -/

/-- An entry is in order after the ones before it. -/
def InOrder (before : List (Entry F)) : Entry F → Prop
  | .reservation callId stage _ _ _ =>
      ∃ tally, state before = .ok tally ∧ callId = nextCallId stage tally.ordinal
  | .callResult callId _ _ _ =>
      ∃ tally reserved, state before = .ok tally ∧
        tally.reserved.lookup callId = some reserved

/-- What is known of a ledger in order. -/
structure Books (ledger : List (Entry F)) (tally : Tally) : Prop where
  /-- The guard reads it. -/
  state : Spend.state ledger = .ok tally
  /-- The check replays it, with the same result. -/
  replay : ∀ budget, ∃ replay, replayFrom budget {} ledger = .ok replay ∧
    replay.committed = tally.committed ∧ replay.reserved = tally.reserved
  /-- No identifier occurs twice. -/
  distinct : (callIds ledger).Nodup
  /-- Every identifier is the one of an earlier number. -/
  numbered : ∀ callId ∈ callIds ledger, ∃ stage n,
    n < tally.ordinal ∧ callId = nextCallId stage n
  /-- What is open was reserved. -/
  opened : ∀ callId ∈ tally.reserved.map (·.1), callId ∈ callIds ledger
  /-- Nothing is open twice. -/
  openDistinct : (tally.reserved.map (·.1)).Nodup

/-- The next identifier is new. -/
theorem Books.fresh
    {ledger : List (Entry F)}
    {tally : Tally}
    (books : Books ledger tally)
    (stage : Str) : nextCallId stage tally.ordinal ∉ callIds ledger := by
  intro held
  obtain ⟨stage', n, earlier, same⟩ := books.numbered _ held
  rw [nextCallId_injective same] at earlier
  exact Nat.lt_irrefl _ earlier

/-- The books with one more reservation. -/
theorem Books.reservation
    {ledger : List (Entry F)}
    {tally : Tally}
    (books : Books ledger tally)
    {callId stage model : Str}
    {call : Call}
    {usd : ℚ}
    (isNext : callId = nextCallId stage tally.ordinal) :
    Books (ledger ++ [.reservation callId stage call usd model])
      { tally with
        reserved := tally.reserved ++ [(callId, usd)]
        ordinal := tally.ordinal + 1 } := by
  have fresh := books.fresh stage
  rw [← isNext] at fresh
  have notOpen : callId ∉ tally.reserved.map (·.1) := fun held => fresh (books.opened _ held)
  have ids : callIds (ledger ++ [.reservation callId stage call usd model]) =
      callIds ledger ++ [callId] := by
    unfold callIds
    rw [List.filterMap_append]
    rfl
  constructor
  · unfold Spend.state
    rw [stateFrom_snoc _ books.state, stateStep, if_neg notOpen]
  · intro budget
    obtain ⟨replay, replayed, committed, reserved⟩ := books.replay budget
    refine ⟨_, replayFrom_snoc _ replayed, committed, ?_⟩
    dsimp only
    rw [reserved, Keyed.set_of_not_mem usd notOpen]
  · rw [ids]
    exact nodup_snoc books.distinct fresh
  · rw [ids]
    intro held inIds
    rcases List.mem_append.mp inIds with earlier | isLast
    · obtain ⟨heldStage, n, before, same⟩ := books.numbered held earlier
      exact ⟨heldStage, n, Nat.lt_succ_of_lt before, same⟩
    · rw [List.mem_singleton.mp isLast]
      exact ⟨stage, tally.ordinal, Nat.lt_succ_self _, isNext⟩
  · rw [ids]
    intro held isOpen
    rw [List.map_append, List.mem_append] at isOpen
    rcases isOpen with earlier | isLast
    · exact List.mem_append_left _ (books.opened held earlier)
    · exact List.mem_append_right _ isLast
  · rw [List.map_append]
    exact nodup_snoc books.openDistinct notOpen

/-- The books with one more result. -/
theorem Books.callResult
    {ledger : List (Entry F)}
    {tally : Tally}
    (books : Books ledger tally)
    {callId status : Str}
    {usd : Option ℚ}
    {usage : Option (Dict F)}
    {reserved : ℚ}
    (isOpen : tally.reserved.lookup callId = some reserved) :
    Books (ledger ++ [.callResult callId status usd usage])
      { tally with
        committed := tally.committed + usd.getD reserved
        reserved := pop tally.reserved callId } := by
  have ids : callIds (ledger ++ [.callResult callId status usd usage]) = callIds ledger := by
    unfold callIds
    rw [List.filterMap_append]
    exact List.append_nil _
  have fewer : List.Sublist ((pop tally.reserved callId).map (·.1))
      (tally.reserved.map (·.1)) :=
    List.Sublist.map _ List.filter_sublist
  constructor
  · unfold Spend.state
    rw [stateFrom_snoc _ books.state, stateStep, isOpen]
  · intro budget
    obtain ⟨replay, replayed, committed, same⟩ := books.replay budget
    refine ⟨{ replay with
      committed := replay.committed + usd.getD reserved
      reserved := pop replay.reserved callId }, ?_, ?_, ?_⟩
    · rw [replayFrom_snoc _ replayed, replayStep, same, isOpen]
    · dsimp only
      rw [committed]
    · dsimp only
      rw [same]
  · rw [ids]
    exact books.distinct
  · rw [ids]
    exact books.numbered
  · rw [ids]
    exact fun held isOpen => books.opened held (fewer.subset isOpen)
  · exact books.openDistinct.sublist fewer

/-- A ledger in order has books. -/
theorem books_of_grown
    {ledger : List (Entry F)}
    (grown : Grown InOrder ledger) : ∃ tally, Books ledger tally := by
  induction ledger using List.reverseRecOn with
  | nil =>
      refine ⟨{}, rfl, fun _ => ⟨{}, rfl, rfl, rfl⟩, List.nodup_nil, ?_, ?_, List.nodup_nil⟩
      · exact fun _ held => absurd held List.not_mem_nil
      · exact fun _ held => absurd held List.not_mem_nil
  | append_singleton ledger entry inductionHypothesis =>
      obtain ⟨earlier, inOrder⟩ := grown_snoc.mp grown
      obtain ⟨tally, books⟩ := inductionHypothesis earlier
      cases entry with
      | reservation callId stage call usd model =>
          obtain ⟨found, isState, isNext⟩ := inOrder
          rw [books.state] at isState
          cases isState
          exact ⟨_, books.reservation isNext⟩
      | callResult callId status usd usage =>
          obtain ⟨found, reserved, isState, isOpen⟩ := inOrder
          rw [books.state] at isState
          cases isState
          exact ⟨_, books.callResult isOpen⟩

/-! ## Decisions -/

/-- What a decision on a reservation found in the ledger. -/
structure Decided
    (guard : SpendGuard)
    (ledger : List (Entry F))
    (call : Call)
    (tally : Tally)
    (reservation : Reservation)
    (entry : Entry F) : Prop where
  /-- The bounds are not negative. -/
  bounds : 0 ≤ call.maxInputTokens ∧ 0 ≤ call.maxOutputTokens
  /-- The ledger was read. -/
  state : Spend.state ledger = .ok tally
  /-- The worst case fits the budget. -/
  fits : tally.committed + unresolved tally.reserved + guard.proposed call ≤ guard.budget
  /-- It has the next identifier and the worst case. -/
  reservation : reservation =
    ⟨nextCallId guard.stage tally.ordinal, guard.proposed call⟩
  /-- The entry says so. -/
  entry : entry = .reservation (nextCallId guard.stage tally.ordinal) guard.stage call
    (guard.proposed call) guard.pricing.model

/-- A reservation that is decided on was checked. -/
theorem decided_of_decision
    {guard : SpendGuard}
    {ledger : List (Entry F)}
    {call : Call}
    {reservation : Reservation}
    {entry : Entry F}
    (isDecision : guard.decision ledger call = .ok (reservation, entry)) :
    ∃ tally, Decided guard ledger call tally reservation entry := by
  unfold SpendGuard.decision at isDecision
  split at isDecision
  · cases isDecision
  · rename_i bounds
    split at isDecision
    · cases isDecision
    · rename_i tally isTally
      split at isDecision
      · cases isDecision
      · rename_i fits
        cases isDecision
        exact ⟨tally, by omega, isTally, not_lt.mp fits, rfl, rfl⟩

end Spend
end ChatPlatform
