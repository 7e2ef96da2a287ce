import ChatPlatform.Trace.Service

/-!
# The pair of messages

What is documented of the pair: the given answer, or else the last one, with the user
message nearest before it. The pair is as documented exactly when the given answer is among
the messages, or none is given and no user message precedes the last answer.
-/

namespace ChatPlatform
namespace Trace

/-! ## What is documented -/

/-- The user message nearest to the end, if there is one. -/
def NearestUser (earlier : List MessageRow) : Option MessageRow → Prop
  | none => ∀ row ∈ earlier, row.role ≠ .user
  | some row =>
      row.role = .user ∧ ∃ before after, earlier = before ++ row :: after ∧
        ∀ later ∈ after, later.role ≠ .user

/-- A pair is an answer and the user message nearest before it. -/
def PairOf (before : List MessageRow) (output : MessageRow) (pair : Reconstruction) : Prop :=
  pair.outputMessage = some (messageOut output) ∧
    ∃ input, NearestUser before input ∧ pair.inputMessage = input.map messageOut

/-- A message is the last answer. -/
def LastAssistant (output : MessageRow) (after : List MessageRow) : Prop :=
  output.role = .assistant ∧ ∀ later ∈ after, later.role ≠ .assistant

/-- The documented pair: of the given answer, or of none when it is not among the messages;
and of the last answer when none is given. -/
def Documented (messages : List MessageRow) (pair : Reconstruction) : Option Uuid → Prop
  | some outputMessageId =>
      (∀ before output after, messages = before ++ output :: after →
        output.id = outputMessageId → (∀ row ∈ before, row.id ≠ outputMessageId) →
          PairOf before output pair) ∧
        ((∀ row ∈ messages, row.id ≠ outputMessageId) → pair.outputMessage = none)
  | none =>
      (∀ before output after, messages = before ++ output :: after →
        LastAssistant output after → PairOf before output pair) ∧
        ((∀ row ∈ messages, row.role ≠ .assistant) → pair.outputMessage = none)

/-- A pair is returned, and it is the documented one. -/
def ReconstructedAsDocumented
    (messages : List MessageRow)
    (outputMessageId : Option Uuid) : Prop :=
  ∃ pair, reconstructPair messages outputMessageId = .ok pair ∧
    Documented messages pair outputMessageId

/-- The given answer is among the messages; or none is given, and no user message precedes
the last answer. -/
def Resolvable (messages : List MessageRow) : Option Uuid → Prop
  | some outputMessageId => ∃ row ∈ messages, row.id = outputMessageId
  | none =>
      ∀ before output after, messages = before ++ output :: after →
        LastAssistant output after → ∀ row ∈ before, row.role ≠ .user

/-! ## The scans -/

/-- The normalized names of roles tell the roles apart. -/
private theorem normStrEnum_roleText (role : Role) :
    (normStrEnum (ResponseCache.roleText role) = "user".toList ↔ role = .user) ∧
      (normStrEnum (ResponseCache.roleText role) = "assistant".toList ↔ role = .assistant) := by
  cases role with
  | system => decide
  | user => decide
  | assistant => decide

/-- The text of a member of the enumeration is never the name of its value. -/
theorem lower_roleMemberText_ne (role : Role) :
    Text.lower (roleMemberText role) ≠ "user".toList := by
  cases role with
  | system => decide
  | user => decide
  | assistant => decide

/-- Scanning backwards finds the nearest user message. -/
theorem nearestUser_find (earlier : List MessageRow) :
    NearestUser earlier (earlier.reverse.find? fun row =>
      normStrEnum (ResponseCache.roleText row.role) = "user".toList) := by
  cases found : earlier.reverse.find? fun row =>
      normStrEnum (ResponseCache.roleText row.role) = "user".toList with
  | none =>
      intro row present isUser
      have missed := List.find?_eq_none.mp found row (List.mem_reverse.mpr present)
      rw [decide_eq_true_eq] at missed
      exact missed ((normStrEnum_roleText row.role).1.mpr isUser)
  | some row =>
      obtain ⟨isUser, after, before, same, others⟩ := List.find?_eq_some_iff_append.mp found
      refine ⟨(normStrEnum_roleText row.role).1.mp (of_decide_eq_true isUser), before.reverse,
        after.reverse, ?_, ?_⟩
      · have whole := congrArg List.reverse same
        rw [List.reverse_reverse, List.reverse_append, List.reverse_cons,
          List.append_assoc] at whole
        exact whole
      · intro later present isLater
        have other := others later (List.mem_reverse.mp present)
        simp [(normStrEnum_roleText later.role).1.mpr isLater] at other

/-! ## The two cases -/

/-- A split at the first row with an identifier is the one that is scanned. -/
private theorem split_at_first
    {before : List MessageRow}
    (after : List MessageRow)
    {output : MessageRow}
    {outputMessageId : Uuid}
    (isOutput : output.id = outputMessageId)
    (others : ∀ row ∈ before, row.id ≠ outputMessageId) :
    ((before ++ output :: after).find? (·.id = outputMessageId) = some output) ∧
      (before ++ output :: after).takeWhile (·.id ≠ outputMessageId) = before := by
  constructor
  · exact List.find?_eq_some_iff_append.mpr ⟨decide_eq_true isOutput, before, after, rfl,
      fun row present => by simp [others row present]⟩
  · rw [List.takeWhile_append_of_pos fun row present => decide_eq_true (others row present),
      List.takeWhile_cons_of_neg (by simp [isOutput]), List.append_nil]

/-- A given answer is reconstructed as documented exactly when it is among the messages. -/
private theorem reconstructed_some_iff
    (messages : List MessageRow)
    (outputMessageId : Uuid) :
    ReconstructedAsDocumented messages (some outputMessageId) ↔
      Resolvable messages (some outputMessageId) := by
  constructor
  · rintro ⟨pair, returned, -⟩
    rw [reconstructPair] at returned
    split at returned
    · cases returned
    · rename_i output found
      have isOutput := List.find?_some found
      exact ⟨output, List.mem_of_find?_eq_some found, of_decide_eq_true isOutput⟩
  · rintro ⟨row, present, isRow⟩
    cases found : messages.find? (·.id = outputMessageId) with
    | none =>
        have missed := List.find?_eq_none.mp found row present
        exact absurd (decide_eq_true isRow) missed
    | some output =>
        refine ⟨⟨((messages.takeWhile (·.id ≠ outputMessageId)).reverse.find? fun row =>
          normStrEnum (ResponseCache.roleText row.role) = "user".toList).map messageOut,
            some (messageOut output)⟩, ?_, ?_, ?_⟩
        · rw [reconstructPair, found]
        · rintro before other after rfl isOther others
          obtain ⟨isFound, taken⟩ := split_at_first after isOther others
          rw [found] at isFound
          cases isFound
          rw [taken]
          exact ⟨rfl, _, nearestUser_find before, rfl⟩
        · intro absent
          exact absurd isRow (absent row present)

/-- There is no answer, or a last one. -/
private theorem noAssistant_or_lastAssistant (messages : List MessageRow) :
    (∀ row ∈ messages, row.role ≠ .assistant) ∨
      ∃ before output after, messages = before ++ output :: after ∧
        LastAssistant output after := by
  induction messages with
  | nil => exact Or.inl fun _ present => absurd present List.not_mem_nil
  | cons row rest inductionHypothesis =>
      rcases inductionHypothesis with none | ⟨before, output, after, rfl, isLast⟩
      · by_cases isAssistant : row.role = .assistant
        · exact Or.inr ⟨[], row, rest, rfl, isAssistant, none⟩
        · refine Or.inl fun other present => ?_
          rcases List.mem_cons.mp present with rfl | inRest
          · exact isAssistant
          · exact none other inRest
      · exact Or.inr ⟨row :: before, output, after, rfl, isLast⟩

/-- A split at the last answer is the one that is scanned. -/
private theorem split_at_last
    (before : List MessageRow)
    {after : List MessageRow}
    {output : MessageRow}
    (isLast : LastAssistant output after) :
    ((before ++ output :: after).reverse.dropWhile fun row =>
      normStrEnum (ResponseCache.roleText row.role) ≠ "assistant".toList) =
        output :: before.reverse := by
  obtain ⟨isAssistant, others⟩ := isLast
  have skipped : ∀ row ∈ after.reverse, (decide (normStrEnum (ResponseCache.roleText row.role) ≠
      "assistant".toList)) = true := by
    intro row present
    refine decide_eq_true fun same => others row (List.mem_reverse.mp present) ?_
    exact (normStrEnum_roleText row.role).2.mp same
  rw [List.reverse_append, List.reverse_cons, List.append_assoc,
    List.dropWhile_append_of_pos skipped]
  exact List.dropWhile_cons_of_neg
    (by simp [(normStrEnum_roleText output.role).2.mpr isAssistant])

/-- Without a given answer, a pair is reconstructed as documented exactly when no user
message precedes the last answer. -/
private theorem reconstructed_none_iff (messages : List MessageRow) :
    ReconstructedAsDocumented messages none ↔ Resolvable messages none := by
  have noInput : ∀ earlier : List MessageRow, (earlier.find? fun row =>
      Text.lower (roleMemberText row.role) = "user".toList) = none := by
    intro earlier
    rw [List.find?_eq_none]
    intro row _ same
    exact lower_roleMemberText_ne row.role (of_decide_eq_true same)
  by_cases answered : ∃ before output after, messages = before ++ output :: after ∧
      LastAssistant output after
  · obtain ⟨before, output, after, rfl, isLast⟩ := answered
    have scanned := split_at_last before isLast
    have returned : reconstructPair (before ++ output :: after) none =
        .ok ⟨none, some (messageOut output)⟩ := by
      rw [reconstructPair, scanned]
      dsimp only
      rw [noInput]
      rfl
    have unique : ∀ before' output' after',
        before ++ output :: after = before' ++ output' :: after' →
          LastAssistant output' after' → output' = output ∧ before' = before := by
      intro before' output' after' same isLast'
      have other := split_at_last before' isLast'
      rw [← same, scanned] at other
      obtain ⟨sameOutput, sameBefore⟩ := List.cons.inj other
      exact ⟨sameOutput.symm, (List.reverse_injective sameBefore).symm⟩
    constructor
    · rintro ⟨pair, isPair, documented, -⟩ before' output' after' same isLast'
      rw [returned] at isPair
      cases isPair
      obtain ⟨-, input, nearest, isInput⟩ := documented before' output' after' same isLast'
      rw [Option.map_eq_none_iff.mp isInput.symm] at nearest
      exact nearest
    · intro resolvable
      refine ⟨_, returned, ?_, ?_⟩
      · intro before' output' after' same isLast'
        obtain ⟨rfl, rfl⟩ := unique before' output' after' same isLast'
        exact ⟨rfl, none, resolvable _ _ _ rfl isLast, rfl⟩
      · intro noAssistant
        exact absurd isLast.1 (noAssistant output
          (List.mem_append_right _ List.mem_cons_self))
  · have noSplit : ∀ before output after, messages = before ++ output :: after →
        ¬LastAssistant output after :=
      fun before output after same isLast => answered ⟨before, output, after, same, isLast⟩
    have noAssistant := (noAssistant_or_lastAssistant messages).resolve_right answered
    have nothing : messages.reverse.dropWhile (fun row =>
        normStrEnum (ResponseCache.roleText row.role) ≠ "assistant".toList) = [] := by
      rw [List.dropWhile_eq_nil_iff]
      intro row present
      refine decide_eq_true fun same => noAssistant row (List.mem_reverse.mp present) ?_
      exact (normStrEnum_roleText row.role).2.mp same
    refine iff_of_true ⟨{}, ?_, ?_, fun _ => rfl⟩ ?_
    · rw [reconstructPair, nothing]
    · exact fun before output after same isLast =>
        absurd isLast (noSplit before output after same)
    · exact fun before output after same isLast =>
        absurd isLast (noSplit before output after same)

/-- A pair is reconstructed as documented if and only if the given answer is among the
messages, or none is given and no user message precedes the last answer. -/
theorem reconstructedAsDocumented_iff
    (messages : List MessageRow)
    (outputMessageId : Option Uuid) :
    ReconstructedAsDocumented messages outputMessageId ↔ Resolvable messages outputMessageId := by
  cases outputMessageId with
  | none => exact reconstructed_none_iff messages
  | some outputMessageId => exact reconstructed_some_iff messages outputMessageId

/-! ## A deleted answer -/

/-- A question and its answer. -/
def questionAndAnswer : List MessageRow :=
  [⟨⟨1⟩, 1, ⟨9⟩, "t".toList, .user, "q".toList⟩,
    ⟨⟨2⟩, 2, ⟨9⟩, "t".toList, .assistant, "a".toList⟩]

/-- An answer that is not among the messages raises, and without an identifier the question
of an answer is not found. -/
theorem not_reconstructedAsDocumented :
    ¬ReconstructedAsDocumented questionAndAnswer (some ⟨3⟩) ∧
      ¬ReconstructedAsDocumented questionAndAnswer none := by
  constructor
  · rintro ⟨pair, returned, -⟩
    cases returned
  · rintro ⟨pair, returned, documented, -⟩
    cases returned
    have isLast : LastAssistant questionAndAnswer[1] [] :=
      ⟨rfl, fun _ held => absurd held List.not_mem_nil⟩
    obtain ⟨-, input, nearest, isInput⟩ := documented [questionAndAnswer[0]] _ _ rfl isLast
    rw [Option.map_eq_none_iff.mp isInput.symm] at nearest
    exact nearest _ List.mem_cons_self rfl

end Trace
end ChatPlatform
