import ChatPlatform.Prompt.Context

/-!
# Packing the recent window

The recent window is a flat sequence of question and answer pairs. Packing drops
the oldest pairs until the characters fit, and cuts the contents of the last pair
when it alone is too long. Roles are never changed.
-/

namespace ChatPlatform

/-- Number of characters of the contents. -/
def windowChars (messages : List ChatMessage) : Nat :=
  (messages.map fun message => message.content.length).sum

/-- The window after packing. -/
structure PackedWindow where
  /-- The messages kept. -/
  messages : List ChatMessage
  /-- Whether anything was dropped or cut. -/
  truncated : Bool
  deriving DecidableEq, Repr

/-- The messages two by two; an odd last message is alone. -/
def turnsOf : List ChatMessage → List (List ChatMessage)
  | [] => []
  | [message] => [[message]]
  | opening :: closing :: rest => [opening, closing] :: turnsOf rest

/-- Number of characters of the turns. -/
def totalChars (turns : List (List ChatMessage)) : Nat :=
  windowChars turns.flatten

/-- Cut the messages of a turn in order until `remaining` characters are used. -/
def truncateTurn (remaining : Int) : List ChatMessage → List ChatMessage
  | [] => []
  | message :: rest =>
      if remaining ≤ 0 then
        { message with content := [] } :: truncateTurn remaining rest
      else if (message.content.length : Int) ≤ remaining then
        message :: truncateTurn (remaining - message.content.length) rest
      else
        { message with content := Text.truncate message.content remaining } ::
          truncateTurn 0 rest

/-- Fit the window into `maxChars` less the characters already reserved. -/
def packRecentWindow
    (messages : List ChatMessage)
    (maxChars reservedChars : Int) : PackedWindow :=
  let budget := maxChars - reservedChars
  if budget ≤ 0 then ⟨[], !messages.isEmpty⟩
  else
    let turns := turnsOf messages
    let kept := Trim.trimFront (fun turns => budget < totalChars turns) turns
    let dropped := decide (kept.length < turns.length)
    match kept with
    | [] => ⟨[], dropped⟩
    | first :: rest =>
        if budget < totalChars (first :: rest) then
          ⟨truncateTurn budget first, true⟩
        else ⟨(first :: rest).flatten, dropped⟩

/-- A user message and the assistant message answering it. -/
def exchange (pair : Str × Str) : List ChatMessage :=
  [⟨.user, pair.1⟩, ⟨.assistant, pair.2⟩]

/-- A flat sequence of exchanges. -/
def exchanges (pairs : List (Str × Str)) : List ChatMessage :=
  pairs.flatMap exchange

@[simp] theorem exchanges_nil : exchanges [] = [] := rfl

@[simp] theorem exchanges_cons (pair : Str × Str) (rest : List (Str × Str)) :
    exchanges (pair :: rest) = exchange pair ++ exchanges rest := rfl

/-- The messages of well-formed units are the exchanges of their contents. -/
theorem exchanges_of_units
    {units : List TurnUnit}
    (wellFormed : ∀ turn ∈ units, turn.isWellFormed = true) :
    ∃ pairs,
      (units.flatMap (·.messages)).map
          (fun message => ChatMessage.mk message.role message.content) =
        exchanges pairs ∧
      List.Forall₂ (fun turn pair => ∃ opening closing,
        turn.messages = [opening, closing] ∧ opening.role = .user ∧
          closing.role = .assistant ∧ pair = (opening.content, closing.content))
        units pairs := by
  induction units with
  | nil => exact ⟨[], rfl, .nil⟩
  | cons turn rest inductionHypothesis =>
      rw [List.forall_mem_cons] at wellFormed
      obtain ⟨pairs, same, paired⟩ := inductionHypothesis wellFormed.2
      obtain ⟨opening, closing, shape, user, assistant⟩ :=
        turn.isWellFormed_iff.mp wellFormed.1
      refine ⟨(opening.content, closing.content) :: pairs, ?_,
        .cons ⟨opening, closing, shape, user, assistant, rfl⟩ paired⟩
      rw [List.flatMap_cons, List.map_append, same, shape, exchanges_cons, exchange,
        ← user, ← assistant]
      rfl

@[simp] theorem windowChars_nil : windowChars [] = 0 := rfl

@[simp] theorem windowChars_append (front back : List ChatMessage) :
    windowChars (front ++ back) = windowChars front + windowChars back := by
  simp [windowChars]

@[simp] theorem windowChars_cons
    (message : ChatMessage)
    (rest : List ChatMessage) :
    windowChars (message :: rest) =
      message.content.length + windowChars rest := by
  simp [windowChars]

/-- What packing may do to a sequence of exchanges: drop the oldest, and cut the
contents of the last one left. -/
inductive IsPackingOf (pairs : List (Str × Str)) : List ChatMessage → Prop
  /-- Whole exchanges are kept from the recent end. -/
  | suffix (kept : List (Str × Str)) (recent : kept <:+ pairs) :
      IsPackingOf pairs (exchanges kept)
  /-- Only the last exchange is left and its contents are cut. -/
  | cut (last : Str × Str) (recent : [last] <:+ pairs) (cutPair : Str × Str)
      (user : cutPair.1 <+: last.1) (assistant : cutPair.2 <+: last.2) :
      IsPackingOf pairs (exchanges [cutPair])

/-- A packing consists of exchanges cut from exchanges of the window. -/
theorem IsPackingOf.exists_exchanges
    {pairs : List (Str × Str)}
    {messages : List ChatMessage}
    (packing : IsPackingOf pairs messages) :
    ∃ kept, messages = exchanges kept ∧ ∀ pair ∈ kept, ∃ whole ∈ pairs,
      pair.1 <+: whole.1 ∧ pair.2 <+: whole.2 := by
  cases packing with
  | suffix kept recent =>
      exact ⟨kept, rfl, fun pair present =>
        ⟨pair, recent.mem present, List.prefix_rfl, List.prefix_rfl⟩⟩
  | cut last recent cutPair user assistant =>
      refine ⟨[cutPair], rfl, ?_⟩
      intro pair present
      rw [List.mem_singleton.mp present]
      exact ⟨last, recent.mem (by simp), user, assistant⟩

/-- The turns of a sequence of exchanges are the exchanges. -/
theorem turnsOf_exchanges (pairs : List (Str × Str)) :
    turnsOf (exchanges pairs) = pairs.map exchange := by
  induction pairs with
  | nil => rfl
  | cons pair rest inductionHypothesis =>
      simp [exchange, turnsOf, inductionHypothesis]

/-- A turn cut to a budget is a cut exchange and fits the budget. -/
theorem truncateTurn_exchange
    {budget : Int}
    (positive : 0 < budget)
    (pair : Str × Str) :
    ∃ cutPair : Str × Str, truncateTurn budget (exchange pair) = exchange cutPair ∧
      cutPair.1 <+: pair.1 ∧ cutPair.2 <+: pair.2 ∧
        (windowChars (exchange cutPair) : Int) ≤ budget := by
  have userFits := Text.length_truncate_le pair.1 (Int.le_of_lt positive)
  simp only [exchange, truncateTurn, if_neg (Int.not_le.mpr positive)]
  by_cases whole : (pair.1.length : Int) ≤ budget
  · rw [if_pos whole]
    by_cases spent : budget - pair.1.length ≤ 0
    · refine ⟨(pair.1, []), by rw [if_pos spent], List.prefix_rfl,
        List.nil_prefix, ?_⟩
      simpa using whole
    · rw [if_neg spent]
      have assistantFits := Text.length_truncate_le pair.2
        (Int.le_of_lt (Int.not_le.mp spent))
      by_cases both : (pair.2.length : Int) ≤ budget - pair.1.length
      · refine ⟨pair, by rw [if_pos both], List.prefix_rfl, List.prefix_rfl, ?_⟩
        simp only [windowChars_cons, windowChars_nil]
        omega
      · refine ⟨(pair.1, Text.truncate pair.2 (budget - pair.1.length)),
          by rw [if_neg both], List.prefix_rfl, Text.truncate_prefix _ _, ?_⟩
        simp only [windowChars_cons, windowChars_nil]
        omega
  · rw [if_neg whole]
    refine ⟨(Text.truncate pair.1 budget, []), rfl, Text.truncate_prefix _ _,
      List.nil_prefix, ?_⟩
    simpa using userFits

/-- Packing a sequence of exchanges keeps its shape, and it either keeps nothing
or meets what the reservation leaves. -/
theorem packRecentWindow_exchanges
    (pairs : List (Str × Str))
    (maxChars reservedChars : Int) :
    IsPackingOf pairs
        (packRecentWindow (exchanges pairs) maxChars reservedChars).messages ∧
      ((packRecentWindow (exchanges pairs) maxChars reservedChars).messages = [] ∨
        (windowChars (packRecentWindow (exchanges pairs) maxChars
          reservedChars).messages : Int) + reservedChars ≤ maxChars) := by
  unfold packRecentWindow
  simp only [turnsOf_exchanges, Trim.trimFront_map]
  by_cases spent : maxChars - reservedChars ≤ 0
  · rw [if_pos spent]
    exact ⟨.suffix [] List.nil_suffix, Or.inl rfl⟩
  rw [if_neg spent]
  have recent := Trim.trimFront_suffix
    (fun rest => decide (maxChars - reservedChars <
      totalChars (rest.map exchange))) pairs
  have stops := Trim.trimFront_stops
    (fun rest => decide (maxChars - reservedChars <
      totalChars (rest.map exchange))) pairs
  generalize Trim.trimFront _ pairs = kept at recent stops
  have flat : (kept.map exchange).flatten = exchanges kept := rfl
  cases kept with
  | nil => exact ⟨.suffix [] List.nil_suffix, Or.inl rfl⟩
  | cons first rest =>
      simp only [List.map_cons] at flat ⊢
      by_cases exceeds : maxChars - reservedChars <
          totalChars (exchange first :: rest.map exchange)
      · rw [if_pos exceeds]
        have single : rest = [] := by
          rcases stops with within | short
          · simp [exceeds] at within
          · exact List.length_eq_zero_iff.mp (by simpa using short)
        subst single
        obtain ⟨cutPair, cut, user, assistant, fits⟩ :=
          truncateTurn_exchange (Int.not_le.mp spent) first
        rw [cut]
        refine ⟨?_, Or.inr (by dsimp only; omega)⟩
        have packing := IsPackingOf.cut first recent cutPair user assistant
        simpa using packing
      · rw [if_neg exceeds, flat]
        refine ⟨.suffix _ recent, Or.inr ?_⟩
        unfold totalChars at exceeds
        rw [flat] at exceeds
        dsimp only
        omega

end ChatPlatform
