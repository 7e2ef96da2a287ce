import ChatPlatform.Foundation.DecimalArithmetic
import ChatPlatform.Foundation.Text
import ChatPlatform.Foundation.Traversal

/-!
# The cost bound

The worst case of a run is priced in exact rationals, which are converted to decimals when they
are reported. The conversion takes as many digits as the numerator and the denominator have, and
ten more; the value has that few digits only unless its denominator has many more factors of two
than of five, or the other way round.
-/

namespace ChatPlatform
namespace SemanticMemory
namespace CostBounds

open Decimals

/-! ## The input data -/

/-- A cost bound fails. -/
inductive CostBoundError
  /-- A bound is missing or invalid. -/
  | costBoundUnavailable (detail : Str)
  /-- A decimal is out of the range of the context. -/
  | overflow
  /-- A number has more digits than may be printed. -/
  | tooManyDigits
  deriving DecidableEq

/-- What a pool of cases has at most. -/
structure PoolMetadata where
  /-- The steps. -/
  stepsMax : Int
  /-- The turns of the user. -/
  userTurnsMax : Int
  /-- The calls that embed. -/
  embeddingCallsMax : Int
  /-- The bytes of a current message. -/
  maxCurrentMessageBytes : Int
  /-- The bytes of a turn of the user. -/
  maxUserTurnBytes : Int
  /-- The slots of a conversation. -/
  maxSlotsPerConversation : Int
  /-- The bytes of an entry of a slot. -/
  maxSerializedSlotEntryBytes : Int
  /-- The bytes of a turn. -/
  maxTurnBytes : Int
  /-- The cases. -/
  capacity : Int

/-- The limits of a call. -/
structure CallLimits where
  /-- The bytes around the added context. -/
  systemEnvelopeBytes : Int
  /-- The characters of the added context. -/
  addedContextCapChars : Int
  /-- The bytes of the template of an extraction. -/
  extractionTemplateBytes : Int
  /-- The tokens that are generated. -/
  generationMaxTokens : Int
  /-- The tokens that are extracted. -/
  extractionMaxTokens : Int

/-- The prices per million tokens. -/
structure PricingSnapshot where
  /-- Of what is sent to be answered. -/
  generationInputPerMillion : Decimal
  /-- Of what is answered. -/
  generationOutputPerMillion : Decimal
  /-- Of what is sent to be extracted. -/
  extractionInputPerMillion : Decimal
  /-- Of what is extracted. -/
  extractionOutputPerMillion : Decimal
  /-- Of what is embedded. -/
  embeddingInputPerMillion : Decimal
  /-- Where the prices are from. -/
  source : Str
  /-- When they were retrieved. -/
  retrievedOn : Str

/-- The bytes of a call. -/
structure ByteBounds where
  /-- Of a generation. -/
  generation : Int
  /-- Of an extraction. -/
  extraction : Int
  /-- Of an embedding. -/
  embedding : Int

/-- The fields of the metadata. -/
def PoolMetadata.fields (metadata : PoolMetadata) : List (Str × Int) :=
  [("steps_max".toList, metadata.stepsMax), ("user_turns_max".toList, metadata.userTurnsMax),
    ("embedding_calls_max".toList, metadata.embeddingCallsMax),
    ("max_current_message_bytes".toList, metadata.maxCurrentMessageBytes),
    ("max_user_turn_bytes".toList, metadata.maxUserTurnBytes),
    ("max_slots_per_conversation".toList, metadata.maxSlotsPerConversation),
    ("max_serialized_slot_entry_bytes".toList, metadata.maxSerializedSlotEntryBytes),
    ("max_turn_bytes".toList, metadata.maxTurnBytes), ("capacity".toList, metadata.capacity)]

/-- The fields of the limits. -/
def CallLimits.fields (limits : CallLimits) : List (Str × Int) :=
  [("system_envelope_bytes".toList, limits.systemEnvelopeBytes),
    ("added_context_cap_chars".toList, limits.addedContextCapChars),
    ("extraction_template_bytes".toList, limits.extractionTemplateBytes),
    ("generation_max_tokens".toList, limits.generationMaxTokens),
    ("extraction_max_tokens".toList, limits.extractionMaxTokens)]

/-- The first negative field is refused. -/
def integers : List (Str × Int) → Except CostBoundError Unit
  | [] => .ok ()
  | (name, value) :: rest =>
      if value < 0 then .error (.costBoundUnavailable ("invalid ".toList ++ name))
      else integers rest

/-- A price or a budget, exactly. -/
def money
    (value : Option Decimal)
    (name : Str) : Except CostBoundError ℚ :=
  match value with
  | some (.finite decimal) =>
      if decimal.value < 0 then
        .error (.costBoundUnavailable ("missing or invalid ".toList ++ name))
      else .ok decimal.value
  | _ => .error (.costBoundUnavailable ("missing or invalid ".toList ++ name))

/-- The bytes of the calls. -/
def byteBounds
    (metadata : Option PoolMetadata)
    (limits : Option CallLimits) : Except CostBoundError (PoolMetadata × CallLimits × ByteBounds) :=
  match metadata with
  | none => .error (.costBoundUnavailable "missing PoolMetadata".toList)
  | some metadata => do
      integers metadata.fields
      match limits with
      | none => .error (.costBoundUnavailable "missing CallLimits".toList)
      | some limits => do
          integers limits.fields
          if limits.generationMaxTokens = 0 ∨ limits.extractionMaxTokens = 0 then
            .error (.costBoundUnavailable "output token caps must be positive".toList)
          else
            .ok (metadata, limits,
              { generation := limits.systemEnvelopeBytes + 4 * limits.addedContextCapChars +
                  metadata.maxCurrentMessageBytes
                extraction := limits.extractionTemplateBytes + metadata.maxUserTurnBytes +
                  metadata.maxSlotsPerConversation * metadata.maxSerializedSlotEntryBytes
                embedding := max metadata.maxTurnBytes (4 * limits.extractionMaxTokens) })

/-! ## The exact costs -/

/-- The costs in exact rationals. -/
structure ExactCosts where
  /-- The bytes of the calls. -/
  byteBounds : ByteBounds
  /-- Of a generation. -/
  generation : ℚ
  /-- Of an extraction. -/
  extraction : ℚ
  /-- Of an embedding. -/
  embedding : ℚ
  /-- Of a case. -/
  perCase : ℚ
  /-- What may be spent. -/
  budget : ℚ
  /-- The cases that can be paid. -/
  nMax : Int
  /-- The cases of the pool. -/
  capacity : Int

/-- The costs that are converted. -/
def ExactCosts.values (costs : ExactCosts) : List ℚ :=
  [costs.generation, costs.extraction, costs.embedding, costs.perCase, costs.budget]

/-- The costs of two languages, four arms and two attempts per call. -/
def exactCosts
    (metadata : Option PoolMetadata)
    (limits : Option CallLimits)
    (pricing : Option PricingSnapshot)
    (task6SubCap committed unresolvedReservations : Option Decimal) :
    Except CostBoundError ExactCosts := do
  let (metadata, limits, bounds) ← byteBounds metadata limits
  match pricing with
  | none => .error (.costBoundUnavailable "missing pricing snapshot provenance".toList)
  | some pricing =>
      if pricing.source.isEmpty || pricing.retrievedOn.isEmpty then
        .error (.costBoundUnavailable "missing pricing snapshot provenance".toList)
      else do
        let gi ← money (some pricing.generationInputPerMillion)
          "generation_input_per_million".toList
        let go ← money (some pricing.generationOutputPerMillion)
          "generation_output_per_million".toList
        let ei ← money (some pricing.extractionInputPerMillion)
          "extraction_input_per_million".toList
        let eo ← money (some pricing.extractionOutputPerMillion)
          "extraction_output_per_million".toList
        let emb ← money (some pricing.embeddingInputPerMillion)
          "embedding_input_per_million".toList
        let generation : ℚ := (bounds.generation * gi + limits.generationMaxTokens * go) / 1000000
        let extraction : ℚ := (bounds.extraction * ei + limits.extractionMaxTokens * eo) / 1000000
        let embedding : ℚ := bounds.embedding * emb / 1000000
        let perCase : ℚ := 4 * (metadata.stepsMax * 4 * generation +
          metadata.userTurnsMax * extraction + metadata.embeddingCallsMax * embedding)
        let subCap ← money task6SubCap "task6_sub_cap".toList
        let spent ← money committed "committed".toList
        let reserved ← money unresolvedReservations "unresolved_reservations".toList
        let budget := min subCap (10 - spent - reserved)
        if budget < 0 ∨ perCase ≤ 0 then
          .error (.costBoundUnavailable
            "negative remaining budget or non-positive case cost".toList)
        else
          .ok ⟨bounds, generation, extraction, embedding, perCase, budget, ⌊budget / perCase⌋,
            metadata.capacity⟩

/-! ## The conversion -/

/-- What a conversion finds in its surroundings: how numbers are rounded, the range of the
exponents, and how many digits of a whole number may be printed, where zero is no limit. -/
structure Surroundings where
  /-- How numbers are rounded. -/
  rounding : Rounding
  /-- The least exponent. -/
  emin : Int
  /-- The greatest exponent. -/
  emax : Int
  /-- The least exponent is not positive. -/
  eminNonpos : emin ≤ 0
  /-- The greatest exponent is not negative. -/
  emaxNonneg : 0 ≤ emax
  /-- The digits that may be printed. -/
  maxStrDigits : Nat

/-- Whether a number may be printed. -/
def Surroundings.prints
    (surroundings : Surroundings)
    (number : Nat) : Prop :=
  surroundings.maxStrDigits = 0 ∨ digitCount number ≤ surroundings.maxStrDigits

instance
    (surroundings : Surroundings)
    (number : Nat) : Decidable (surroundings.prints number) :=
  inferInstanceAs (Decidable (_ ∨ _))

/-- The digits of a conversion. -/
def precision (value : ℚ) : Nat := digitCount value.num.natAbs + digitCount value.den + 10

/-- The context of a conversion. -/
def conversionContext
    (surroundings : Surroundings)
    (value : ℚ) : Context where
  prec := precision value
  rounding := surroundings.rounding
  emin := surroundings.emin
  emax := surroundings.emax
  precPositive := Nat.succ_pos _
  eminNonpos := surroundings.eminNonpos
  emaxNonneg := surroundings.emaxNonneg

/-- A rational is converted. -/
def decimal
    (surroundings : Surroundings)
    (value : ℚ) : Except CostBoundError FiniteDecimal :=
  if surroundings.prints value.num.natAbs ∧ surroundings.prints value.den then
    match (conversionContext surroundings value).round value with
    | none => .error .overflow
    | some decimal => .ok decimal
  else .error .tooManyDigits

/-- The cost bound as it is reported. -/
structure CostBound where
  /-- The bytes of the calls. -/
  byteBounds : ByteBounds
  /-- Of a generation. -/
  generationCost : FiniteDecimal
  /-- Of an extraction. -/
  extractionCost : FiniteDecimal
  /-- Of an embedding. -/
  embeddingCost : FiniteDecimal
  /-- Of a case. -/
  perCaseWorstCase : FiniteDecimal
  /-- What may be spent. -/
  budget : FiniteDecimal
  /-- The cases that can be paid. -/
  nMax : Int
  /-- The cases that can be paid and that there are. -/
  nCap : Int

/-- The decimals that are reported. -/
def CostBound.values (bound : CostBound) : List ℚ :=
  [bound.generationCost.value, bound.extractionCost.value, bound.embeddingCost.value,
    bound.perCaseWorstCase.value, bound.budget.value]

/-- The cost bound. -/
def computeCostBound
    (surroundings : Surroundings)
    (metadata : Option PoolMetadata)
    (limits : Option CallLimits)
    (pricing : Option PricingSnapshot)
    (task6SubCap committed unresolvedReservations : Option Decimal) :
    Except CostBoundError CostBound := do
  let costs ← exactCosts metadata limits pricing task6SubCap committed unresolvedReservations
  let generationCost ← decimal surroundings costs.generation
  let extractionCost ← decimal surroundings costs.extraction
  let embeddingCost ← decimal surroundings costs.embedding
  let perCaseWorstCase ← decimal surroundings costs.perCase
  let budget ← decimal surroundings costs.budget
  .ok ⟨costs.byteBounds, generationCost, extractionCost, embeddingCost, perCaseWorstCase, budget,
    costs.nMax, min costs.nMax costs.capacity⟩

/-! ## The values that arise -/

/-- The values that arise from finite decimals and whole numbers by sums, differences, products
and division by a million. -/
inductive Arises : ℚ → Prop
  /-- A price. -/
  | price (decimal : FiniteDecimal) : Arises decimal.value
  /-- A count. -/
  | count (number : Int) : Arises number
  /-- A sum. -/
  | add {left right : ℚ} (first : Arises left) (second : Arises right) : Arises (left + right)
  /-- A difference. -/
  | sub {left right : ℚ} (first : Arises left) (second : Arises right) : Arises (left - right)
  /-- A product. -/
  | mul {left right : ℚ} (first : Arises left) (second : Arises right) : Arises (left * right)
  /-- A price per million. -/
  | perMillion {value : ℚ} (total : Arises value) : Arises (value / 1000000)

/-- What arises is terminating. -/
theorem Arises.terminating
    {value : ℚ}
    (arises : Arises value) : Terminating value := by
  induction arises with
  | price decimal => exact terminating_value decimal
  | count number => exact terminating_intCast number
  | add first second firstTerminating secondTerminating =>
      exact firstTerminating.add secondTerminating
  | sub first second firstTerminating secondTerminating =>
      rename_i left right
      rw [show left - right = left + right * ((-1 : Int) : ℚ) by push_cast; ring]
      exact firstTerminating.add (secondTerminating.mul (terminating_intCast (-1)))
  | mul first second firstTerminating secondTerminating =>
      exact firstTerminating.mul secondTerminating
  | perMillion total totalTerminating =>
      rw [div_eq_mul_inv]
      exact totalTerminating.mul ((terminating_iff _).mpr ⟨6, 1, by norm_num⟩)

/-- An amount arises. -/
theorem arises_of_money
    {value : Option Decimal}
    {name : Str}
    {amount : ℚ}
    (paid : money value name = .ok amount) : Arises amount := by
  unfold money at paid
  split at paid
  · split at paid
    · cases paid
    · obtain rfl := Except.ok.inj paid
      exact .price _
  · cases paid

/-! ## When a conversion is exact -/

/-- When a conversion is exact: the value has no more digits than the conversion takes, and it is
in the range of its surroundings. -/
structure Convertible
    (surroundings : Surroundings)
    (value : ℚ) : Prop where
  /-- The digits, of which there are as many as the larger number of factors of two or of five of
  the denominator asks for. -/
  digits : digitCount
      (value.num.natAbs * 10 ^ max (padicValNat 2 value.den) (padicValNat 5 value.den) /
        value.den) ≤
    digitCount value.num.natAbs + digitCount value.den + 10
  /-- The last place. -/
  lastPlace : (max (padicValNat 2 value.den) (padicValNat 5 value.den) : Int) ≤
    (digitCount value.num.natAbs + digitCount value.den + 10) - 1 - surroundings.emin
  /-- The first place. -/
  firstPlace : |value| < 10 ^ (surroundings.emax + 1)
  /-- The numerator and the denominator may be printed. -/
  prints : surroundings.prints value.num.natAbs ∧ surroundings.prints value.den

/-- A value is below the precision of its conversion. -/
theorem abs_lt_precision (value : ℚ) : |value| < 10 ^ precision value := by
  have denominator : (1 : ℚ) ≤ value.den := Nat.one_le_cast.mpr value.den_pos
  have below : |value| ≤ value.num.natAbs := by
    rw [Nat.cast_natAbs, Int.cast_abs, ← Rat.mul_den_eq_num value, abs_mul, Nat.abs_cast]
    exact le_mul_of_one_le_right (abs_nonneg _) denominator
  refine below.trans_lt ?_
  have numerator : (value.num.natAbs : ℚ) < 10 ^ digitCount value.num.natAbs := by
    exact_mod_cast lt_pow_digitCount value.num.natAbs
  refine numerator.trans_le (pow_le_pow_right₀ (by norm_num) ?_)
  rw [precision, Nat.add_assoc]
  exact Nat.le_add_right _ _

/-- A terminating value is converted exactly when it is convertible. -/
theorem decimal_exact_iff
    (surroundings : Surroundings)
    (value : ℚ)
    (terminating : Terminating value) :
    (∃ converted, decimal surroundings value = .ok converted ∧ converted.value = value) ↔
      Convertible surroundings value := by
  have rounds := round_eq_self_iff_digits (conversionContext surroundings value) value terminating
    (abs_lt_precision value)
  have converts : (∃ converted, decimal surroundings value = .ok converted ∧
      converted.value = value) ↔
      (surroundings.prints value.num.natAbs ∧ surroundings.prints value.den) ∧
        ∃ converted, (conversionContext surroundings value).round value = some converted ∧
          converted.value = value := by
    rw [decimal]
    split
    case isTrue prints =>
      rw [and_iff_right prints]
      cases (conversionContext surroundings value).round value with
      | none => simp
      | some converted => simp
    case isFalse unprintable => simp [unprintable]
  rw [converts, rounds]
  constructor
  · rintro ⟨prints, few, last, first⟩
    exact ⟨few, by exact_mod_cast last, first, prints⟩
  · rintro ⟨few, last, first, prints⟩
    exact ⟨prints, few, by exact_mod_cast last, first⟩

/-! ## The costs of a call -/

/-- The smaller of two values that arise. -/
theorem Arises.min
    {left right : ℚ}
    (first : Arises left)
    (second : Arises right) : Arises (min left right) := by
  rcases min_choice left right with isLeft | isRight
  · rwa [isLeft]
  · rwa [isRight]

/-- The costs of a call arise. -/
theorem exactCosts_arise
    {metadata : Option PoolMetadata}
    {limits : Option CallLimits}
    {pricing : Option PricingSnapshot}
    {task6SubCap committed unresolvedReservations : Option Decimal}
    {costs : ExactCosts}
    (priced : exactCosts metadata limits pricing task6SubCap committed unresolvedReservations =
      .ok costs) : ∀ value ∈ costs.values, Arises value := by
  unfold exactCosts at priced
  obtain ⟨⟨metadata, limits, bounds⟩, -, priced⟩ := Traversal.exists_of_bind_eq_ok priced
  cases pricing with
  | none => cases priced
  | some pricing =>
      simp only at priced
      split at priced
      · cases priced
      · obtain ⟨gi, isGi, priced⟩ := Traversal.exists_of_bind_eq_ok priced
        obtain ⟨go, isGo, priced⟩ := Traversal.exists_of_bind_eq_ok priced
        obtain ⟨ei, isEi, priced⟩ := Traversal.exists_of_bind_eq_ok priced
        obtain ⟨eo, isEo, priced⟩ := Traversal.exists_of_bind_eq_ok priced
        obtain ⟨emb, isEmb, priced⟩ := Traversal.exists_of_bind_eq_ok priced
        obtain ⟨subCap, isSubCap, priced⟩ := Traversal.exists_of_bind_eq_ok priced
        obtain ⟨spent, isSpent, priced⟩ := Traversal.exists_of_bind_eq_ok priced
        obtain ⟨reserved, isReserved, priced⟩ := Traversal.exists_of_bind_eq_ok priced
        split at priced
        · cases priced
        · obtain rfl := Except.ok.inj priced
          have generation := (((Arises.count bounds.generation).mul (arises_of_money isGi)).add
            ((Arises.count limits.generationMaxTokens).mul (arises_of_money isGo))).perMillion
          have extraction := (((Arises.count bounds.extraction).mul (arises_of_money isEi)).add
            ((Arises.count limits.extractionMaxTokens).mul (arises_of_money isEo))).perMillion
          have embedding :=
            ((Arises.count bounds.embedding).mul (arises_of_money isEmb)).perMillion
          have four : Arises 4 := by exact_mod_cast Arises.count 4
          have ten : Arises 10 := by exact_mod_cast Arises.count 10
          have perCase := four.mul
            (((((Arises.count metadata.stepsMax).mul four).mul generation).add
              ((Arises.count metadata.userTurnsMax).mul extraction)).add
              ((Arises.count metadata.embeddingCallsMax).mul embedding))
          have budget := (arises_of_money isSubCap).min
            ((ten.sub (arises_of_money isSpent)).sub (arises_of_money isReserved))
          simp only [ExactCosts.values, List.forall_mem_cons]
          exact ⟨generation, extraction, embedding, perCase, budget,
            fun _ held => absurd held List.not_mem_nil⟩

/-- What a call reports was converted from its costs. -/
theorem converted_of_computeCostBound
    {surroundings : Surroundings}
    {metadata : Option PoolMetadata}
    {limits : Option CallLimits}
    {pricing : Option PricingSnapshot}
    {task6SubCap committed unresolvedReservations : Option Decimal}
    {costs : ExactCosts}
    {bound : CostBound}
    (priced : exactCosts metadata limits pricing task6SubCap committed unresolvedReservations =
      .ok costs)
    (reported : computeCostBound surroundings metadata limits pricing task6SubCap committed
      unresolvedReservations = .ok bound) :
    decimal surroundings costs.generation = .ok bound.generationCost ∧
      decimal surroundings costs.extraction = .ok bound.extractionCost ∧
      decimal surroundings costs.embedding = .ok bound.embeddingCost ∧
      decimal surroundings costs.perCase = .ok bound.perCaseWorstCase ∧
      decimal surroundings costs.budget = .ok bound.budget := by
  rw [computeCostBound, priced] at reported
  obtain ⟨same, isSame, reported⟩ := Traversal.exists_of_bind_eq_ok reported
  obtain rfl := Except.ok.inj isSame
  obtain ⟨generation, isGeneration, reported⟩ := Traversal.exists_of_bind_eq_ok reported
  obtain ⟨extraction, isExtraction, reported⟩ := Traversal.exists_of_bind_eq_ok reported
  obtain ⟨embedding, isEmbedding, reported⟩ := Traversal.exists_of_bind_eq_ok reported
  obtain ⟨perCase, isPerCase, reported⟩ := Traversal.exists_of_bind_eq_ok reported
  obtain ⟨budget, isBudget, reported⟩ := Traversal.exists_of_bind_eq_ok reported
  obtain rfl := Except.ok.inj reported
  exact ⟨isGeneration, isExtraction, isEmbedding, isPerCase, isBudget⟩

/-- A call reports its costs exactly when all of them are convertible. -/
theorem computeCostBound_exact_iff
    {surroundings : Surroundings}
    {metadata : Option PoolMetadata}
    {limits : Option CallLimits}
    {pricing : Option PricingSnapshot}
    {task6SubCap committed unresolvedReservations : Option Decimal}
    {costs : ExactCosts}
    (priced : exactCosts metadata limits pricing task6SubCap committed unresolvedReservations =
      .ok costs) :
    (∃ bound, computeCostBound surroundings metadata limits pricing task6SubCap committed
        unresolvedReservations = .ok bound ∧ bound.values = costs.values) ↔
      ∀ value ∈ costs.values, Convertible surroundings value := by
  have arise := exactCosts_arise priced
  have exactly : ∀ value ∈ costs.values, ((∃ converted,
      decimal surroundings value = .ok converted ∧ converted.value = value) ↔
        Convertible surroundings value) :=
    fun value held => decimal_exact_iff surroundings value (arise value held).terminating
  constructor
  · rintro ⟨bound, reported, same⟩ value held
    refine (exactly value held).mp ?_
    obtain ⟨generation, extraction, embedding, perCase, budget⟩ :=
      converted_of_computeCostBound priced reported
    simp only [CostBound.values, ExactCosts.values, List.cons.injEq, and_true] at same
    simp only [ExactCosts.values, List.mem_cons, List.not_mem_nil, or_false] at held
    obtain rfl | rfl | rfl | rfl | rfl := held
    · exact ⟨_, generation, same.1⟩
    · exact ⟨_, extraction, same.2.1⟩
    · exact ⟨_, embedding, same.2.2.1⟩
    · exact ⟨_, perCase, same.2.2.2.1⟩
    · exact ⟨_, budget, same.2.2.2.2⟩
  · intro convertible
    have converted := fun value held => (exactly value held).mpr (convertible value held)
    simp only [ExactCosts.values, List.forall_mem_cons] at converted
    obtain ⟨⟨generation, isGeneration, sameGeneration⟩, ⟨extraction, isExtraction,
      sameExtraction⟩, ⟨embedding, isEmbedding, sameEmbedding⟩, ⟨perCase, isPerCase, samePerCase⟩,
      ⟨budget, isBudget, sameBudget⟩, -⟩ := converted
    refine ⟨⟨costs.byteBounds, generation, extraction, embedding, perCase, budget, costs.nMax,
      min costs.nMax costs.capacity⟩, ?_, ?_⟩
    · rw [computeCostBound, priced]
      simp only [Traversal.ok_bind, isGeneration, isExtraction, isEmbedding, isPerCase, isBudget]
    · simp only [CostBound.values, ExactCosts.values, sameGeneration, sameExtraction,
        sameEmbedding, samePerCase, sameBudget]

/-- Whatever arises is converted exactly when it is convertible, and a call reports its costs
exactly when all of them are. -/
theorem conversions_exact_iff (surroundings : Surroundings) :
    (∀ value, Arises value →
      ((∃ converted, decimal surroundings value = .ok converted ∧ converted.value = value) ↔
        Convertible surroundings value)) ∧
    ∀ metadata limits pricing task6SubCap committed unresolvedReservations costs,
      exactCosts metadata limits pricing task6SubCap committed unresolvedReservations =
        .ok costs →
      (∀ value ∈ costs.values, Arises value) ∧
        ((∃ bound, computeCostBound surroundings metadata limits pricing task6SubCap committed
            unresolvedReservations = .ok bound ∧ bound.values = costs.values) ↔
          ∀ value ∈ costs.values, Convertible surroundings value) := by
  refine ⟨fun value arises => ?_, ?_⟩
  · exact decimal_exact_iff surroundings value arises.terminating
  · intro metadata limits pricing task6SubCap committed unresolvedReservations costs
      priced
    exact ⟨exactCosts_arise priced, computeCostBound_exact_iff priced⟩

/-- The surroundings of a program that changes nothing. -/
def defaultSurroundings : Surroundings where
  rounding := .halfEven
  emin := -999999
  emax := 999999
  eminNonpos := by decide
  emaxNonneg := by decide
  maxStrDigits := 4300

/-! ## A sample -/

/-- A pool with one step. -/
def sampleMetadata : PoolMetadata := ⟨1, 0, 0, 0, 0, 0, 0, 0, 5⟩

/-- One byte is sent. -/
def sampleLimits : CallLimits := ⟨1, 0, 0, 1, 1⟩

/-- The price of a byte is a power of one half. -/
def samplePricing : PricingSnapshot where
  generationInputPerMillion := .finite ⟨false, 3552713678800500929355621337890625, -42⟩
  generationOutputPerMillion := .finite ⟨false, 0, 0⟩
  extractionInputPerMillion := .finite ⟨false, 0, 0⟩
  extractionOutputPerMillion := .finite ⟨false, 0, 0⟩
  embeddingInputPerMillion := .finite ⟨false, 0, 0⟩
  source := "price list".toList
  retrievedOn := "2026-01-01".toList

/-- The costs of the sample. -/
def sampleCosts : Except CostBoundError ExactCosts :=
  exactCosts (some sampleMetadata) (some sampleLimits) (some samplePricing)
    (some (.finite ⟨false, 1, 0⟩)) (some (.finite ⟨false, 0, 0⟩)) (some (.finite ⟨false, 0, 0⟩))

/-- The report of the sample. -/
def sampleBound : Except CostBoundError CostBound :=
  computeCostBound defaultSurroundings (some sampleMetadata) (some sampleLimits)
    (some samplePricing) (some (.finite ⟨false, 1, 0⟩)) (some (.finite ⟨false, 0, 0⟩))
    (some (.finite ⟨false, 0, 0⟩))

/-- Whether a report has a generation cost below the exact one. -/
def reportedTooLow
    (costs : Except CostBoundError ExactCosts)
    (bound : Except CostBoundError CostBound) : Bool :=
  match costs, bound with
  | .ok costs, .ok bound => decide (bound.generationCost.value < costs.generation)
  | _, _ => false

/-- The sample is reported too low. -/
theorem reportedTooLow_sample : reportedTooLow sampleCosts sampleBound = true := by
  decide +kernel

/-- The sample is priced and reported, too low. -/
theorem sample_reported :
    ∃ costs bound, sampleCosts = .ok costs ∧ sampleBound = .ok bound ∧
      bound.generationCost.value < costs.generation := by
  have low := reportedTooLow_sample
  unfold reportedTooLow at low
  split at low
  case h_1 costs bound priced reported =>
    exact ⟨costs, bound, priced, reported, of_decide_eq_true low⟩
  case h_2 => cases low

/-- A price of two and a half per million, and the costs of the sample. -/
theorem conversions_exact_iff_sample :
    ((∃ converted, decimal defaultSurroundings (FiniteDecimal.value ⟨false, 25, -1⟩ / 1000000) =
        .ok converted ∧ converted.value = FiniteDecimal.value ⟨false, 25, -1⟩ / 1000000) ↔
      Convertible defaultSurroundings (FiniteDecimal.value ⟨false, 25, -1⟩ / 1000000)) ∧
    ∃ costs, sampleCosts = .ok costs ∧ (∀ value ∈ costs.values, Arises value) ∧
      ((∃ bound, sampleBound = .ok bound ∧ bound.values = costs.values) ↔
        ∀ value ∈ costs.values, Convertible defaultSurroundings value) := by
  obtain ⟨costs, bound, priced, -⟩ := sample_reported
  exact ⟨(conversions_exact_iff defaultSurroundings).1 _ (.perMillion (.price _)), costs, priced,
    (conversions_exact_iff defaultSurroundings).2 _ _ _ _ _ _ costs priced⟩

/-- A cost arises from a finite price and is reported below itself, so that its conversion is not
exact. -/
theorem sample_not_exact :
    ∃ costs bound, sampleCosts = .ok costs ∧ sampleBound = .ok bound ∧
      Arises costs.generation ∧ bound.generationCost.value < costs.generation ∧
        ¬∃ converted, decimal defaultSurroundings costs.generation = .ok converted ∧
          converted.value = costs.generation := by
  obtain ⟨costs, bound, priced, reported, below⟩ := sample_reported
  refine ⟨costs, bound, priced, reported, exactCosts_arise priced _ List.mem_cons_self, below, ?_⟩
  rintro ⟨converted, isConverted, same⟩
  rw [(converted_of_computeCostBound priced reported).1] at isConverted
  obtain rfl := Except.ok.inj isConverted
  exact below.ne same

end CostBounds
end SemanticMemory
end ChatPlatform
