import ChatPlatform.Foundation.Delimiters
import ChatPlatform.Foundation.KeySort
import ChatPlatform.Foundation.Numeral
import ChatPlatform.Foundation.Rejection
import ChatPlatform.Foundation.Traversal
import Mathlib.Algebra.Order.BigOperators.Group.List

/-!
# Registered draws

Every random number of the experiment is derived from a text that names it: a registered prefix
and the numbers of the draw. An index below `n` is drawn again, with a counter behind the text,
until the derived number is below a multiple of `n`. The confirmatory bound is the 500th smallest
of ten thousand sums of drawn values.
-/

namespace ChatPlatform
namespace LongContext

/-- What a derivation raises. -/
inductive DeterminismError
  /-- An argument is refused. -/
  | value (message : Str)
  /-- An invariant of the derivation failed. -/
  | integrity (message : Str)
  deriving DecidableEq, Repr

/-- The number of 64-bit numbers. -/
def uint64Space : Nat := 2 ^ 64

/-- How often a refused number is derived again. -/
def maxRejectionRehashes : Nat := 1024

/-- The prefix of the uniform numbers of the sanity check. -/
def sanityUniformPrefix : Str := "ORQ-30|mve-v2|selector-normal-power|v1".toList

/-- The prefix of the resampling of the sanity check. -/
def sanityBootstrapPrefix : Str := "ORQ-30|mve-v2|selector-inner-bootstrap|v1".toList

/-- The prefix of the confirmatory resampling. -/
def confirmatoryBootstrapPrefix : Str :=
  "ORQ-30|mve-v2|confirmatory-primary-bootstrap|v1".toList

/-! ## Texts -/

/-- The digits of a number that is not negative. -/
def unsignedDecimal (value : Int) : Except DeterminismError Str :=
  if value < 0 then .error (.value "domain integers must be unsigned integers".toList)
  else .ok (Numeral.decimal value)

/-- A prefix and numbers, with bars between them. -/
def joinDomain (domain : Str) (values : List Int) : Except DeterminismError Str :=
  if domain = [] then .error (.value "domain prefix must be non-empty text".toList)
  else (values.mapM unsignedDecimal).map fun fields => Text.join "|".toList (domain :: fields)

/-- The text that is hashed when some numbers were refused. -/
def rehashed (baseDomain : Str) (rejectionCounter : Nat) : Str :=
  if rejectionCounter = 0 then baseDomain
  else baseDomain ++ "|".toList ++ Numeral.decimal rejectionCounter

/-- The first eight bytes of a digest, as a number. -/
def firstUint64 (sha256 : Str → Fin (2 ^ 256)) (payload : Str) : Nat :=
  (sha256 payload).val / 2 ^ 192

/-! ## Indices -/

section Indices

variable (deriveX : Str → Nat)

/-- The number derived from a text, when it has 64 bits. -/
def derivedUint64 (payload : Str) : Except DeterminismError Nat :=
  if deriveX payload < uint64Space then .ok (deriveX payload)
  else .error (.integrity "SHA-256 derivation returned invalid uint64".toList)

/-- Derive numbers until one is below the limit. -/
def rehash (baseDomain : Str) (n limit : Nat) (rejectionCounter : Nat) :
    Nat → Except DeterminismError Nat
  | 0 =>
      match derivedUint64 deriveX (rehashed baseDomain rejectionCounter) with
      | .error refusal => .error refusal
      | .ok x =>
          if x < limit then .ok (x % n)
          else
            .error (.integrity
              "unbiased index exceeded the registered 1,024 rehash limit".toList)
  | remaining + 1 =>
      match derivedUint64 deriveX (rehashed baseDomain rejectionCounter) with
      | .error refusal => .error refusal
      | .ok x =>
          if x < limit then .ok (x % n)
          else rehash baseDomain n limit (rejectionCounter + 1) remaining

/-- An index below a number. -/
def unbiasedZeroBasedIndex (baseDomain : Str) (n : Int) : Except DeterminismError Nat :=
  if ¬(1 ≤ n ∧ n ≤ uint64Space) then
    .error (.value "n must satisfy 1 <= n <= 2**64".toList)
  else
    rehash deriveX baseDomain n.toNat (uint64Space - uint64Space % n.toNat) 0
      maxRejectionRehashes

/-- An index of the resampling of the sanity check. -/
def sanityBootstrapIndex (n t r j : Int) : Except DeterminismError Nat := do
  let base ← joinDomain sanityBootstrapPrefix [n, t, r, j]
  unbiasedZeroBasedIndex deriveX base n

/-- An index of the confirmatory resampling. -/
def confirmatoryBootstrapIndex (n r j : Int) : Except DeterminismError Nat := do
  let base ← joinDomain confirmatoryBootstrapPrefix [n, r, j]
  unbiasedZeroBasedIndex deriveX base n

/-- The text of a uniform number of the sanity check. -/
def sanityUniformDomain (n t j : Int) : Except DeterminismError Str :=
  joinDomain sanityUniformPrefix [n, t, j]

/-! ## The confirmatory bound -/

/-- The sum of one confirmatory resample. The index is one of the values. -/
def confirmatoryBootstrapIntegerSum (d2Values : List Int) (r : Int) :
    Except DeterminismError Int :=
  let n := d2Values.length
  if n ∉ [48, 64] then
    .error (.value "confirmatory values must contain 48 or 64 conversations".toList)
  else if d2Values.any fun value => value ∉ [-2, -1, 0, 1, 2] then
    .error (.value "confirmatory d2 values must be integers in {-2,-1,0,1,2}".toList)
  else do
    let selected ← (List.range n).mapM fun (j : Nat) => do
      let index ← confirmatoryBootstrapIndex deriveX n r j
      return d2Values.getD index 0
    return selected.sum

/-- The 500th smallest of ten thousand sums. -/
def confirmatoryLowerBoundIntegerSum (replicateSums : List Int) :
    Except DeterminismError Int :=
  if replicateSums.length ≠ 10000 then
    .error (.value "confirmatory bootstrap requires exactly 10,000 sums".toList)
  else .ok ((replicateSums.insertionSort (· ≤ ·)).getD 499 0)

/-- Whether a bound is above the margin. -/
def confirmatoryMarginPasses (selectedIntegerSum n : Int) : Except DeterminismError Bool :=
  if n ∉ [48, 64] then .error (.value "n must be 48 or 64".toList)
  else .ok (decide (n < 10 * selectedIntegerSum))

/-- The confirmatory verdict on some values: the sums, their bound and the margin. The source
defines the three steps and no function that composes them. -/
def confirmatoryPasses (d2Values : List Int) : Except DeterminismError Bool := do
  let replicateSums ← (List.range 10000).mapM fun (r : Nat) =>
    confirmatoryBootstrapIntegerSum deriveX d2Values r
  let bound ← confirmatoryLowerBoundIntegerSum replicateSums
  confirmatoryMarginPasses bound d2Values.length

end Indices

/-! ## Unbiased indices -/

/-- Numbers of 64 bits derived from texts. -/
abbrev Derivation := Str → Fin (2 ^ 64)

/-- The number derived from a text, as the code has it. -/
def Derivation.number (derive : Derivation) (payload : Str) : Nat := (derive payload).val

/-- The first eight bytes of a digest have 64 bits. -/
theorem firstUint64_lt (sha256 : Str → Fin (2 ^ 256)) (payload : Str) :
    firstUint64 sha256 payload < 2 ^ 64 := by
  rw [firstUint64, Nat.div_lt_iff_lt_mul (by decide)]
  exact (sha256 payload).isLt

/-- Numbers derived from the first eight bytes of digests. -/
def Derivation.ofDigest (sha256 : Str → Fin (2 ^ 256)) : Derivation :=
  fun payload => ⟨firstUint64 sha256 payload, firstUint64_lt sha256 payload⟩

/-- The numbers below this one are accepted. -/
def acceptLimit (n : Nat) : Nat := 2 ^ 64 - 2 ^ 64 % n

/-- An index is the residue of the first number that is accepted, and exchanging two indices is
a permutation of the derived numbers. -/
structure Unbiased (baseDomain : Str) (n : Nat) : Prop where
  /-- The first number below the limit decides. -/
  selects : ∀ (derive : Derivation) (index : Nat),
    unbiasedZeroBasedIndex derive.number baseDomain n = .ok index ↔
      ∃ refused ≤ maxRejectionRehashes,
        (∀ earlier < refused, acceptLimit n ≤ (derive (rehashed baseDomain earlier)).val) ∧
          (derive (rehashed baseDomain refused)).val < acceptLimit n ∧
            index = (derive (rehashed baseDomain refused)).val % n
  /-- Nothing is returned only when all 1025 numbers are refused. -/
  givesUp : ∀ derive : Derivation,
    (∃ refusal, unbiasedZeroBasedIndex derive.number baseDomain n = .error refusal) ↔
      ∀ refused ≤ maxRejectionRehashes,
        acceptLimit n ≤ (derive (rehashed baseDomain refused)).val
  /-- At least half of the numbers are accepted. -/
  half : 2 ^ 64 ≤ 2 * acceptLimit n
  /-- No index is preferred to another. -/
  symmetric : ∀ first < n, ∀ second < n, ∃ exchange : Equiv.Perm (Fin (2 ^ 64)),
    ∀ derive : Derivation,
      unbiasedZeroBasedIndex (Derivation.number (exchange ∘ derive)) baseDomain n =
        (unbiasedZeroBasedIndex derive.number baseDomain n).map
          (Equiv.swap first second)

/-- Whether a number is below a limit. -/
def isBelow (limit : Nat) (x : Fin (2 ^ 64)) : Bool := x.val < limit

open Rejection in
/-- The loop returns the residue of the first accepted number. -/
theorem rehash_eq
    (derive : Derivation)
    (baseDomain : Str)
    (n limit counter remaining : Nat) :
    rehash derive.number baseDomain n limit counter remaining =
      match firstAccepted (isBelow limit)
          (fun counter => derive (rehashed baseDomain counter)) counter remaining with
      | some x => .ok (x.val % n)
      | none =>
          .error (.integrity
            "unbiased index exceeded the registered 1,024 rehash limit".toList) := by
  have derived (payload : Str) :
      derivedUint64 derive.number payload = .ok (derive payload).val :=
    if_pos (derive payload).isLt
  induction remaining generalizing counter with
  | zero =>
      unfold rehash firstAccepted
      rw [derived]
      by_cases accepted : (derive (rehashed baseDomain counter)).val < limit
      · simp [isBelow, accepted]
      · simp [isBelow, accepted]
  | succ remaining inductionHypothesis =>
      unfold rehash firstAccepted
      rw [derived, inductionHypothesis]
      by_cases accepted : (derive (rehashed baseDomain counter)).val < limit
      · simp [isBelow, accepted]
      · simp [isBelow, accepted]

/-- The limit is a multiple of the number. -/
theorem dvd_acceptLimit (n : Nat) : n ∣ acceptLimit n := Nat.dvd_sub_mod (2 ^ 64)

/-- At least half of the numbers are below the limit. -/
theorem half_le_acceptLimit {n : Nat} (positive : 0 < n) (fits : n ≤ 2 ^ 64) :
    2 ^ 64 ≤ 2 * acceptLimit n := by
  have split := Nat.div_add_mod (2 ^ 64) n
  have residue := Nat.mod_lt (2 ^ 64) positive
  have block : n * 1 ≤ n * (2 ^ 64 / n) :=
    Nat.mul_le_mul_left n ((Nat.one_le_div_iff positive).mpr fits)
  unfold acceptLimit
  omega

/-- An index is drawn as the loop draws it. -/
theorem unbiasedZeroBasedIndex_eq
    {n : Nat}
    (positive : 0 < n)
    (fits : n ≤ 2 ^ 64)
    (deriveX : Str → Nat)
    (baseDomain : Str) :
    unbiasedZeroBasedIndex deriveX baseDomain n =
      rehash deriveX baseDomain n (acceptLimit n) 0 maxRejectionRehashes := by
  have inside : 1 ≤ (n : Int) ∧ (n : Int) ≤ uint64Space :=
    ⟨Int.ofNat_le.mpr positive, Int.ofNat_le.mpr fits⟩
  unfold unbiasedZeroBasedIndex
  rw [if_neg (not_not.mpr inside)]
  rfl

open Rejection in
/-- Exchanging numbers, accepted ones for accepted ones, relabels the index. -/
theorem unbiasedZeroBasedIndex_comp
    {n : Nat}
    (positive : 0 < n)
    (fits : n ≤ 2 ^ 64)
    {exchange : Fin (2 ^ 64) → Fin (2 ^ 64)}
    {relabel : Nat → Nat}
    (kept : ∀ x, isBelow (acceptLimit n) (exchange x) = isBelow (acceptLimit n) x)
    (relabels : ∀ x, x.val < acceptLimit n → (exchange x).val % n = relabel (x.val % n))
    (derive : Derivation)
    (baseDomain : Str) :
    unbiasedZeroBasedIndex (Derivation.number (exchange ∘ derive)) baseDomain n =
      (unbiasedZeroBasedIndex derive.number baseDomain n).map relabel := by
  have exchanged : firstAccepted (isBelow (acceptLimit n))
      (exchange ∘ fun counter => derive (rehashed baseDomain counter)) 0
        maxRejectionRehashes =
      (firstAccepted (isBelow (acceptLimit n))
        (fun counter => derive (rehashed baseDomain counter)) 0
          maxRejectionRehashes).map exchange := firstAccepted_comp kept
  rw [unbiasedZeroBasedIndex_eq positive fits, unbiasedZeroBasedIndex_eq positive fits,
    rehash_eq, rehash_eq]
  unfold Function.comp at exchanged ⊢
  rw [exchanged]
  cases found : firstAccepted (isBelow (acceptLimit n))
      (fun counter => derive (rehashed baseDomain counter)) 0 maxRejectionRehashes with
  | none => rfl
  | some x =>
      obtain ⟨refused, few, before, accepted, rfl⟩ := firstAccepted_eq_some_iff.mp found
      exact congrArg Except.ok (relabels _ (of_decide_eq_true accepted))

open Rejection in
/-- The first number below the limit decides. -/
theorem unbiasedZeroBasedIndex_eq_ok_iff
    {n : Nat}
    (positive : 0 < n)
    (fits : n ≤ 2 ^ 64)
    (derive : Derivation)
    (baseDomain : Str)
    {index : Nat} :
    unbiasedZeroBasedIndex derive.number baseDomain n = .ok index ↔
      ∃ refused ≤ maxRejectionRehashes,
        (∀ earlier < refused, acceptLimit n ≤ (derive (rehashed baseDomain earlier)).val) ∧
          (derive (rehashed baseDomain refused)).val < acceptLimit n ∧
            index = (derive (rehashed baseDomain refused)).val % n := by
  rw [unbiasedZeroBasedIndex_eq positive fits, rehash_eq]
  constructor
  · intro returned
    split at returned
    · rename_i x found
      obtain ⟨refused, few, before, accepted, rfl⟩ := firstAccepted_eq_some_iff.mp found
      rw [Nat.zero_add] at accepted returned
      refine ⟨refused, few, fun earlier less => ?_, of_decide_eq_true accepted,
        (Except.ok.inj returned).symm⟩
      have isRefused := of_decide_eq_false (before earlier less)
      rwa [Nat.zero_add, not_lt] at isRefused
    · cases returned
  · rintro ⟨refused, few, before, accepted, rfl⟩
    have found : firstAccepted (isBelow (acceptLimit n))
        (fun counter => derive (rehashed baseDomain counter)) 0 maxRejectionRehashes =
          some (derive (rehashed baseDomain refused)) := by
      refine firstAccepted_eq_some_iff.mpr ⟨refused, few, fun earlier less => ?_, ?_, ?_⟩
      · rw [Nat.zero_add]
        exact decide_eq_false (Nat.not_lt.mpr (before earlier less))
      · rw [Nat.zero_add]
        exact decide_eq_true accepted
      · rw [Nat.zero_add]
    rw [found]

open Rejection in
/-- Indices are drawn without bias. -/
theorem unbiased {n : Nat} (positive : 0 < n) (fits : n ≤ 2 ^ 64) (baseDomain : Str) :
    Unbiased baseDomain n where
  selects := fun derive _ => unbiasedZeroBasedIndex_eq_ok_iff positive fits derive baseDomain
  givesUp := by
    intro derive
    rw [unbiasedZeroBasedIndex_eq positive fits, rehash_eq]
    constructor
    · rintro ⟨refusal, raised⟩ refused few
      split at raised
      · cases raised
      · rename_i nothing
        have isRefused := of_decide_eq_false (firstAccepted_eq_none_iff.mp nothing refused few)
        rwa [Nat.zero_add, not_lt] at isRefused
    · intro refused
      have nothing : firstAccepted (isBelow (acceptLimit n))
          (fun counter => derive (rehashed baseDomain counter)) 0 maxRejectionRehashes =
            none := by
        refine firstAccepted_eq_none_iff.mpr fun earlier few => ?_
        rw [Nat.zero_add]
        exact decide_eq_false (Nat.not_lt.mpr (refused earlier few))
      rw [nothing]
      exact ⟨_, rfl⟩
  half := half_le_acceptLimit positive fits
  symmetric := by
    intro first isFirst second isSecond
    refine ⟨residueSwap (dvd_acceptLimit n) (Nat.sub_le _ _) isFirst isSecond, fun derive => ?_⟩
    refine unbiasedZeroBasedIndex_comp positive fits (fun x => ?_) (fun x accepted => ?_) derive
      baseDomain
    · exact decide_eq_decide.mpr
        (exchangeResidues_lt_iff (dvd_acceptLimit n) isFirst isSecond)
    · exact exchangeResidues_mod isFirst isSecond accepted

/-- Sixty-four conversations are drawn without bias. -/
theorem unbiased_sixtyFour : Unbiased confirmatoryBootstrapPrefix 64 :=
  unbiased (by decide) (by decide) confirmatoryBootstrapPrefix

/-! ## The texts of draws -/

/-- A number that is derived: a uniform number of the sanity check, or an index of one of the two
resamplings after some were refused. -/
inductive Draw
  /-- A uniform number of the sanity check. -/
  | sanityUniform (n t j : Nat)
  /-- An index of the resampling of the sanity check. -/
  | sanityBootstrap (n t r j rejectionCounter : Nat)
  /-- An index of the confirmatory resampling. -/
  | confirmatoryBootstrap (n r j rejectionCounter : Nat)
  deriving DecidableEq

/-- The text that is hashed for a draw. -/
def Draw.payload : Draw → Except DeterminismError Str
  | .sanityUniform n t j => sanityUniformDomain n t j
  | .sanityBootstrap n t r j rejectionCounter =>
      (joinDomain sanityBootstrapPrefix [n, t, r, j]).map (rehashed · rejectionCounter)
  | .confirmatoryBootstrap n r j rejectionCounter =>
      (joinDomain confirmatoryBootstrapPrefix [n, r, j]).map (rehashed · rejectionCounter)

/-- The prefix of a draw. -/
def Draw.domain : Draw → Str
  | .sanityUniform .. => sanityUniformPrefix
  | .sanityBootstrap .. => sanityBootstrapPrefix
  | .confirmatoryBootstrap .. => confirmatoryBootstrapPrefix

/-- A counter is not written before the first number is refused. -/
def counterField (rejectionCounter : Nat) : List Nat :=
  if rejectionCounter = 0 then [] else [rejectionCounter]

/-- The numbers behind the prefix. -/
def Draw.fields : Draw → List Nat
  | .sanityUniform n t j => [n, t, j]
  | .sanityBootstrap n t r j rejectionCounter => [n, t, r, j] ++ counterField rejectionCounter
  | .confirmatoryBootstrap n r j rejectionCounter => [n, r, j] ++ counterField rejectionCounter

/-- The digits of a natural number. -/
def digits (value : Nat) : Str := Numeral.decimal value

/-- A prefix and natural numbers are joined. -/
theorem joinDomain_eq
    {domain : Str}
    (nonempty : domain ≠ [])
    (values : List Nat) :
    joinDomain domain (values.map Int.ofNat) =
      .ok (Text.join "|".toList (domain :: values.map digits)) := by
  have fields : (values.map Int.ofNat).mapM unsignedDecimal = .ok (values.map digits) := by
    refine Traversal.mapM_map_eq_ok fun value _ => ?_
    exact if_neg (Int.not_lt.mpr (Int.natCast_nonneg value))
  rw [joinDomain, if_neg nonempty, fields]
  rfl

/-- A counter is one more field. -/
theorem rehashed_join (domain : Str) (values : List Nat) (rejectionCounter : Nat) :
    rehashed (Text.join "|".toList (domain :: values.map digits)) rejectionCounter =
      Text.join "|".toList
        (domain :: (values ++ counterField rejectionCounter).map digits) := by
  unfold rehashed counterField
  split
  · rw [List.append_nil]
  · rw [List.map_append, ← List.cons_append]
    exact (Text.join_concat "|".toList (List.cons_ne_nil _ _) _).symm

/-- The text of a draw is its prefix and its numbers. -/
theorem payload_eq (draw : Draw) :
    draw.payload = .ok (Text.join "|".toList (draw.domain :: draw.fields.map digits)) := by
  cases draw with
  | sanityUniform n t j =>
      have nonempty : sanityUniformPrefix ≠ [] := by decide
      exact joinDomain_eq nonempty [n, t, j]
  | sanityBootstrap n t r j rejectionCounter =>
      have nonempty : sanityBootstrapPrefix ≠ [] := by decide
      have joined : joinDomain sanityBootstrapPrefix [(n : Int), t, r, j] = _ :=
        joinDomain_eq nonempty [n, t, r, j]
      simp only [Draw.payload, joined]
      exact congrArg Except.ok (rehashed_join sanityBootstrapPrefix [n, t, r, j] _)
  | confirmatoryBootstrap n r j rejectionCounter =>
      have nonempty : confirmatoryBootstrapPrefix ≠ [] := by decide
      have joined : joinDomain confirmatoryBootstrapPrefix [(n : Int), r, j] = _ :=
        joinDomain_eq nonempty [n, r, j]
      simp only [Draw.payload, joined]
      exact congrArg Except.ok (rehashed_join confirmatoryBootstrapPrefix [n, r, j] _)

/-- The text of a draw is split into the pieces of its prefix and its numbers. -/
theorem splitAt_payload (draw : Draw) :
    Text.splitAt '|' (Text.join "|".toList (draw.domain :: draw.fields.map digits)) =
      Text.splitAt '|' draw.domain ++ draw.fields.map digits := by
  have whole (value : Nat) : Text.splitAt '|' (digits value) = [digits value] :=
    Text.splitAt_of_not_mem (Numeral.notMem_decimal value '|' (by decide))
  have fields : (draw.fields.map digits).flatMap (Text.splitAt '|') = draw.fields.map digits := by
    rw [List.flatMap_map]
    simp only [whole]
    exact List.flatMap_pure_eq_map digits draw.fields
  rw [show "|".toList = ['|'] from rfl, Text.splitAt_join '|' (List.cons_ne_nil _ _),
    List.flatMap_cons, fields]

/-- All prefixes have four pieces. -/
theorem length_splitAt_domain (draw : Draw) :
    (Text.splitAt '|' draw.domain).length = 4 := by
  cases draw with
  | sanityUniform =>
      show (Text.splitAt '|' sanityUniformPrefix).length = 4
      decide
  | sanityBootstrap =>
      show (Text.splitAt '|' sanityBootstrapPrefix).length = 4
      decide
  | confirmatoryBootstrap =>
      show (Text.splitAt '|' confirmatoryBootstrapPrefix).length = 4
      decide

/-- A counter is told by its field. -/
theorem counterField_inj {one other : Nat} (same : counterField one = counterField other) :
    one = other := by
  unfold counterField at same
  split at same <;> split at same <;> simp_all

/-- Draws with one prefix and one list of numbers are the same. -/
theorem draw_eq
    {one other : Draw}
    (domain : one.domain = other.domain)
    (fields : one.fields = other.fields) : one = other := by
  have power : sanityUniformPrefix ≠ sanityBootstrapPrefix := by decide
  have primary : sanityUniformPrefix ≠ confirmatoryBootstrapPrefix := by decide
  have inner : sanityBootstrapPrefix ≠ confirmatoryBootstrapPrefix := by decide
  cases one with
  | sanityUniform n t j =>
      cases other with
      | sanityUniform n' t' j' => simpa [Draw.fields] using fields
      | sanityBootstrap => exact absurd domain power
      | confirmatoryBootstrap => exact absurd domain primary
  | sanityBootstrap n t r j rejectionCounter =>
      cases other with
      | sanityUniform => exact absurd domain.symm power
      | sanityBootstrap n' t' r' j' rejectionCounter' =>
          obtain ⟨numbers, counters⟩ := List.append_inj fields rfl
          obtain rfl := counterField_inj counters
          simpa using numbers
      | confirmatoryBootstrap => exact absurd domain inner
  | confirmatoryBootstrap n r j rejectionCounter =>
      cases other with
      | sanityUniform => exact absurd domain.symm primary
      | sanityBootstrap => exact absurd domain.symm inner
      | confirmatoryBootstrap n' r' j' rejectionCounter' =>
          obtain ⟨numbers, counters⟩ := List.append_inj fields rfl
          obtain rfl := counterField_inj counters
          simpa using numbers

/-- Every draw has a text, and different draws have different texts. -/
theorem payload_injective :
    ∃ text : Draw → Str, (∀ draw, Draw.payload draw = .ok (text draw)) ∧
      Function.Injective text := by
  refine ⟨_, payload_eq, fun one other same => ?_⟩
  have pieces := congrArg (Text.splitAt '|') same
  rw [splitAt_payload, splitAt_payload] at pieces
  obtain ⟨domains, fields⟩ := List.append_inj pieces
    ((length_splitAt_domain one).trans (length_splitAt_domain other).symm)
  refine draw_eq ?_ (List.map_injective_iff.mpr (fun _ _ => Numeral.decimal_inj) fields)
  rw [← Text.join_splitAt '|' one.domain, domains, Text.join_splitAt]

/-! ## Indices of the resamplings -/

/-- The number that is derived for a draw. -/
def Draw.number (sha256 : Str → Fin (2 ^ 256)) (draw : Draw) : Nat :=
  firstUint64 sha256 (Text.join "|".toList (draw.domain :: draw.fields.map digits))

/-- An index is the residue of the first of its draws that is below the limit. -/
theorem index_eq_ok_iff
    (sha256 : Str → Fin (2 ^ 256))
    {n : Nat}
    (positive : 0 < n)
    (fits : n ≤ 2 ^ 64)
    {domain : Str}
    (nonempty : domain ≠ [])
    {values : List Nat}
    {draw : Nat → Draw}
    (isDraw : ∀ counter, (draw counter).domain = domain ∧
      (draw counter).fields = values ++ counterField counter)
    {index : Nat} :
    (do
      let base ← joinDomain domain (values.map Int.ofNat)
      unbiasedZeroBasedIndex (firstUint64 sha256) base n) = .ok index ↔
        ∃ refused ≤ maxRejectionRehashes,
          (∀ earlier < refused, acceptLimit n ≤ (draw earlier).number sha256) ∧
            (draw refused).number sha256 < acceptLimit n ∧
              index = (draw refused).number sha256 % n := by
  have drawn (counter : Nat) : (draw counter).number sha256 = firstUint64 sha256
      (rehashed (Text.join "|".toList (domain :: values.map digits)) counter) := by
    rw [Draw.number, (isDraw counter).1, (isDraw counter).2, rehashed_join]
  rw [joinDomain_eq nonempty, Traversal.ok_bind]
  simp only [drawn]
  exact unbiasedZeroBasedIndex_eq_ok_iff positive fits (Derivation.ofDigest sha256) _

/-- An index of the resampling of the sanity check. -/
theorem sanityBootstrapIndex_eq_ok_iff
    (sha256 : Str → Fin (2 ^ 256))
    {n : Nat}
    (positive : 0 < n)
    (fits : n ≤ 2 ^ 64)
    (t r j : Nat)
    {index : Nat} :
    sanityBootstrapIndex (firstUint64 sha256) n t r j = .ok index ↔
      ∃ refused ≤ maxRejectionRehashes,
        (∀ earlier < refused,
          acceptLimit n ≤ (Draw.sanityBootstrap n t r j earlier).number sha256) ∧
          (Draw.sanityBootstrap n t r j refused).number sha256 < acceptLimit n ∧
            index = (Draw.sanityBootstrap n t r j refused).number sha256 % n :=
  @index_eq_ok_iff sha256 n positive fits sanityBootstrapPrefix (by decide) [n, t, r, j]
    (Draw.sanityBootstrap n t r j) (fun _ => ⟨rfl, rfl⟩) index

/-- An index of the confirmatory resampling. -/
theorem confirmatoryBootstrapIndex_eq_ok_iff
    (sha256 : Str → Fin (2 ^ 256))
    {n : Nat}
    (positive : 0 < n)
    (fits : n ≤ 2 ^ 64)
    (r j : Nat)
    {index : Nat} :
    confirmatoryBootstrapIndex (firstUint64 sha256) n r j = .ok index ↔
      ∃ refused ≤ maxRejectionRehashes,
        (∀ earlier < refused,
          acceptLimit n ≤ (Draw.confirmatoryBootstrap n r j earlier).number sha256) ∧
          (Draw.confirmatoryBootstrap n r j refused).number sha256 < acceptLimit n ∧
            index = (Draw.confirmatoryBootstrap n r j refused).number sha256 % n :=
  @index_eq_ok_iff sha256 n positive fits confirmatoryBootstrapPrefix (by decide) [n, r, j]
    (Draw.confirmatoryBootstrap n r j) (fun _ => ⟨rfl, rfl⟩) index

/-! ## The verdict -/

/-- The values that a conversation may have. -/
def Admissible (d2Values : List Int) : Prop :=
  d2Values.length ∈ [48, 64] ∧ ∀ value ∈ d2Values, value ∈ [-2, -1, 0, 1, 2]

/-- The verdict on some values: it passes exactly when fewer than five hundred of the ten
thousand sums are within the margin, and larger values pass where smaller ones do. -/
structure Verdict (deriveX : Str → Nat) (d2Values : List Int) : Prop where
  /-- Few sums are within the margin. -/
  passes : confirmatoryPasses deriveX d2Values = .ok true ↔
    ∃ sums : List Int,
      (List.range 10000).mapM (fun r : Nat =>
        confirmatoryBootstrapIntegerSum deriveX d2Values r) = .ok sums ∧
      sums.countP (fun sum => 10 * sum ≤ (d2Values.length : Int)) < 500
  /-- Larger values pass, too. -/
  monotone : ∀ larger : List Int, List.Forall₂ (· ≤ ·) d2Values larger → Admissible larger →
    confirmatoryPasses deriveX d2Values = .ok true →
      confirmatoryPasses deriveX larger = .ok true

/-- The sum of admissible values is the one of those that are drawn. -/
theorem confirmatoryBootstrapIntegerSum_of_admissible
    {d2Values : List Int}
    (admissible : Admissible d2Values)
    (deriveX : Str → Nat)
    (r : Int) :
    confirmatoryBootstrapIntegerSum deriveX d2Values r = do
      let selected ← (List.range d2Values.length).mapM fun (j : Nat) => do
        let index ← confirmatoryBootstrapIndex deriveX d2Values.length r j
        return d2Values.getD index 0
      return selected.sum := by
  have known : (d2Values.any fun value => value ∉ [-2, -1, 0, 1, 2]) = false := by
    rw [List.any_eq_false]
    intro value held
    rw [decide_eq_true_eq, not_not]
    exact admissible.2 value held
  unfold confirmatoryBootstrapIntegerSum
  dsimp only
  rw [if_neg (not_not.mpr admissible.1), known, if_neg Bool.false_ne_true]

/-- What has a sum is admissible. -/
theorem admissible_of_sum
    {deriveX : Str → Nat}
    {d2Values : List Int}
    {r sum : Int}
    (isSum : confirmatoryBootstrapIntegerSum deriveX d2Values r = .ok sum) :
    Admissible d2Values := by
  unfold confirmatoryBootstrapIntegerSum at isSum
  dsimp only at isSum
  split at isSum
  · cases isSum
  · rename_i sized
    split at isSum
    · cases isSum
    · rename_i known
      refine ⟨not_not.mp sized, fun value held => ?_⟩
      have isKnown := List.any_eq_false.mp (Bool.eq_false_iff.mpr known) value held
      rwa [decide_eq_true_eq, not_not] at isKnown

/-- Larger values are larger at every place. -/
theorem getD_le_getD
    {d2Values larger : List Int}
    (grown : List.Forall₂ (· ≤ ·) d2Values larger)
    (index : Nat) : d2Values.getD index 0 ≤ larger.getD index 0 := by
  induction grown generalizing index with
  | nil => exact le_refl _
  | cons least _ inductionHypothesis =>
      cases index with
      | zero => exact least
      | succ index => exact inductionHypothesis index

/-- Larger values have larger sums. -/
theorem exists_sum_le
    {deriveX : Str → Nat}
    {d2Values larger : List Int}
    (grown : List.Forall₂ (· ≤ ·) d2Values larger)
    (admissible : Admissible larger)
    {r sum : Int}
    (isSum : confirmatoryBootstrapIntegerSum deriveX d2Values r = .ok sum) :
    ∃ largerSum, confirmatoryBootstrapIntegerSum deriveX larger r = .ok largerSum ∧
      sum ≤ largerSum := by
  rw [confirmatoryBootstrapIntegerSum_of_admissible (admissible_of_sum isSum)] at isSum
  obtain ⟨selected, traversed, same⟩ := Traversal.exists_of_bind_eq_ok isSum
  cases same
  have relates : ∀ (j : Nat) (value : Int),
      (do
        let index ← confirmatoryBootstrapIndex deriveX d2Values.length r j
        return d2Values.getD index 0) = .ok value →
      ∃ other : Int,
        (do
          let index ← confirmatoryBootstrapIndex deriveX d2Values.length r j
          return larger.getD index 0) = .ok other ∧ value ≤ other := by
    intro j value isValue
    obtain ⟨index, isIndex, same⟩ := Traversal.exists_of_bind_eq_ok isValue
    cases same
    rw [isIndex]
    exact ⟨_, rfl, getD_le_getD grown index⟩
  obtain ⟨others, traversedOthers, below⟩ := Traversal.exists_mapM_related relates traversed
  rw [confirmatoryBootstrapIntegerSum_of_admissible admissible, ← grown.length_eq,
    traversedOthers]
  exact ⟨_, rfl, below.sum_le_sum⟩

/-- Where the sums are known, so is the verdict. -/
theorem confirmatoryPasses_eq_ok_iff {deriveX : Str → Nat} {d2Values : List Int} :
    confirmatoryPasses deriveX d2Values = .ok true ↔
      ∃ sums : List Int,
        (List.range 10000).mapM (fun r : Nat =>
          confirmatoryBootstrapIntegerSum deriveX d2Values r) = .ok sums ∧
        sums.countP (fun sum => 10 * sum ≤ (d2Values.length : Int)) < 500 := by
  have verdict : ∀ sums : List Int, sums.length = 10000 → Admissible d2Values →
      ((do
        let bound ← confirmatoryLowerBoundIntegerSum sums
        confirmatoryMarginPasses bound d2Values.length) = .ok true ↔
          sums.countP (fun sum => 10 * sum ≤ (d2Values.length : Int)) < 500) := by
    intro sums length admissible
    have sized : (d2Values.length : Int) ∈ [48, 64] := by
      have := admissible.1
      simp only [List.mem_cons, List.not_mem_nil, or_false] at this ⊢
      omega
    have inside : 499 < (sums.insertionSort (· ≤ ·)).length := by
      rw [List.length_insertionSort, length]
      decide
    have counted : sums.countP (fun sum => 10 * sum ≤ (d2Values.length : Int)) =
        sums.countP fun sum => sum ≤ (d2Values.length : Int) / 10 := by
      congr 1
      funext sum
      refine decide_eq_decide.mpr ?_
      omega
    have above := KeySort.lt_getElem_insertionSort_iff inside ((d2Values.length : Int) / 10)
    rw [← counted] at above
    rw [confirmatoryLowerBoundIntegerSum, if_neg (not_not.mpr length), Traversal.ok_bind,
      confirmatoryMarginPasses, if_neg (not_not.mpr sized), List.getD_eq_getElem?_getD,
      List.getElem?_eq_getElem inside, Option.getD_some, Except.ok.injEq, decide_eq_true_eq]
    constructor
    · intro passes
      exact Nat.lt_succ_of_le (above.mp (by omega))
    · intro few
      have := above.mpr (Nat.le_of_lt_succ few)
      omega
  have first {sums : List Int}
      (traversed : (List.range 10000).mapM (fun r : Nat =>
        confirmatoryBootstrapIntegerSum deriveX d2Values r) = .ok sums) :
      sums.length = 10000 ∧ Admissible d2Values := by
    have paired := Traversal.forall₂_of_mapM traversed
    have length := paired.length_eq
    rw [List.length_range] at length
    refine ⟨length.symm, ?_⟩
    obtain ⟨sum, -, isSum⟩ := Traversal.exists_left_of_mem paired.flip
      (List.mem_range.mpr (by decide : 0 < 10000))
    exact admissible_of_sum isSum
  unfold confirmatoryPasses
  constructor
  · intro passes
    obtain ⟨sums, traversed, passes⟩ := Traversal.exists_of_bind_eq_ok passes
    obtain ⟨length, admissible⟩ := first traversed
    exact ⟨sums, traversed, (verdict sums length admissible).mp passes⟩
  · rintro ⟨sums, traversed, few⟩
    obtain ⟨length, admissible⟩ := first traversed
    rw [traversed]
    exact (verdict sums length admissible).mpr few

/-- Fewer larger sums are within the margin. -/
theorem countP_le_of_larger
    {sums larger : List Int}
    (grown : List.Forall₂ (· ≤ ·) sums larger)
    (margin : Int) :
    larger.countP (fun sum => 10 * sum ≤ margin) ≤
      sums.countP (fun sum => 10 * sum ≤ margin) := by
  induction grown with
  | nil => exact le_refl _
  | @cons sum other sums larger least _ inductionHypothesis =>
      rw [List.countP_cons, List.countP_cons]
      refine Nat.add_le_add inductionHypothesis ?_
      split
      · rename_i within
        rw [if_pos]
        rw [decide_eq_true_eq] at within ⊢
        omega
      · exact Nat.zero_le _

/-- The verdict is read off the number of sums within the margin, and it is monotone. -/
theorem confirmatory_verdict (deriveX : Str → Nat) (d2Values : List Int) :
    Verdict deriveX d2Values where
  passes := confirmatoryPasses_eq_ok_iff
  monotone := by
    intro larger grown admissible passes
    obtain ⟨sums, traversed, few⟩ := confirmatoryPasses_eq_ok_iff.mp passes
    obtain ⟨others, traversedOthers, below⟩ := Traversal.exists_mapM_related
      (fun (r : Nat) sum isSum => exists_sum_le grown admissible isSum) traversed
    refine confirmatoryPasses_eq_ok_iff.mpr ⟨others, traversedOthers, ?_⟩
    rw [← grown.length_eq]
    exact (countP_le_of_larger below _).trans_lt few

end LongContext
end ChatPlatform
