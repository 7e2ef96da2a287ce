import ChatPlatform.Foundation.Scanning

/-!
# What a pattern takes

What stands between a place and an end of a pattern is a text of the pattern's language. A
class of characters that is repeated takes the longest run first.
-/

namespace ChatPlatform
namespace Pattern

/-- A text that a pattern may take. -/
def Takes : Pattern → Str → Prop
  | one accepts => fun taken => ∃ c, taken = [c] ∧ accepts c = true
  | look _ => fun taken => taken = []
  | seq first second => fun taken =>
      ∃ front back, taken = front ++ back ∧ Takes first front ∧ Takes second back
  | alt first second => fun taken => Takes first taken ∨ Takes second taken
  | many limit body => fun taken =>
      ∃ parts : List Str, taken = parts.flatten ∧ (∀ part ∈ parts, Takes body part) ∧
        ∀ most ∈ limit, parts.length ≤ most

/-- Repeated steps that take texts of a kind take several of them. -/
private theorem takes_greedy
    {step : Place → List Place}
    {taking : Str → Prop}
    (takes : ∀ {place stop : Place}, stop ∈ step place →
      ∃ taken, place.2 = taken ++ stop.2 ∧ taking taken)
    {count : Nat}
    {place stop : Place}
    (present : stop ∈ greedy step count place) :
    ∃ parts : List Str, place.2 = parts.flatten ++ stop.2 ∧ (∀ part ∈ parts, taking part) ∧
      parts.length ≤ count := by
  induction count generalizing place with
  | zero =>
      rw [greedy, List.mem_singleton] at present
      rw [present]
      exact ⟨[], rfl, fun _ none => absurd none List.not_mem_nil, le_rfl⟩
  | succ count inductionHypothesis =>
      rcases List.mem_append.mp present with further | here
      · obtain ⟨next, isNext, later⟩ := List.mem_flatMap.mp further
        obtain ⟨taken, isTaken, holds⟩ := takes isNext
        obtain ⟨parts, isParts, each, few⟩ := inductionHypothesis later
        refine ⟨taken :: parts, ?_, ?_, Nat.succ_le_succ few⟩
        · rw [isTaken, isParts, List.flatten_cons, List.append_assoc]
        · exact List.forall_mem_cons.mpr ⟨holds, each⟩
      · rw [List.mem_singleton.mp here]
        exact ⟨[], rfl, fun _ none => absurd none List.not_mem_nil, Nat.zero_le _⟩

/-- A pattern ends after a text of its language. -/
theorem takes_of_mem_ends
    {pattern : Pattern}
    {place stop : Place}
    (present : stop ∈ pattern.ends place) :
    ∃ taken, place.2 = taken ++ stop.2 ∧ pattern.Takes taken := by
  induction pattern generalizing place stop with
  | one accepts =>
      obtain ⟨before, text⟩ := place
      cases text with
      | nil => cases present
      | cons c rest =>
          simp only [ends, takeOne] at present
          split at present
          · rename_i accepted
            rw [List.mem_singleton.mp present]
            exact ⟨[c], rfl, c, rfl, accepted⟩
          · cases present
  | look holds =>
      simp only [ends] at present
      split at present
      · rw [List.mem_singleton.mp present]
        exact ⟨[], rfl, rfl⟩
      · cases present
  | seq first second firstHypothesis secondHypothesis =>
      obtain ⟨middle, isMiddle, isStop⟩ := List.mem_flatMap.mp present
      obtain ⟨front, isFront, takesFront⟩ := firstHypothesis isMiddle
      obtain ⟨back, isBack, takesBack⟩ := secondHypothesis isStop
      refine ⟨front ++ back, ?_, front, back, rfl, takesFront, takesBack⟩
      rw [isFront, isBack, List.append_assoc]
  | alt first second firstHypothesis secondHypothesis =>
      rcases List.mem_append.mp present with left | right
      · obtain ⟨taken, isTaken, takes⟩ := firstHypothesis left
        exact ⟨taken, isTaken, Or.inl takes⟩
      · obtain ⟨taken, isTaken, takes⟩ := secondHypothesis right
        exact ⟨taken, isTaken, Or.inr takes⟩
  | many limit body inductionHypothesis =>
      obtain ⟨parts, isParts, each, few⟩ :=
        takes_greedy (fun isStop => inductionHypothesis isStop) present
      refine ⟨parts.flatten, isParts, parts, rfl, each, fun most isMost => ?_⟩
      rw [Option.mem_def] at isMost
      rwa [isMost] at few

/-- A match of a pattern is a text of its language. -/
theorem takes_of_mem_finditer
    {pattern : Pattern}
    {text : Str}
    {span : Nat × Nat}
    (present : span ∈ finditer pattern text) :
    ∃ front taken back, text = front ++ (taken ++ back) ∧
      span = (front.length, front.length + taken.length) ∧ pattern.Takes taken := by
  obtain ⟨found, isFound, rfl⟩ := List.mem_map.mp present
  obtain ⟨front, rest, length, rfl, -, same, -, isMatch⟩ :=
    mem_scanFrom (bounded_matcher pattern) isFound
  obtain ⟨other, isOther, equal⟩ := Option.map_eq_some_iff.mp isMatch
  obtain ⟨stop, isStop, isLength⟩ := Option.map_eq_some_iff.mp isOther
  obtain ⟨taken, isTaken, takes⟩ := takes_of_mem_ends (List.mem_of_head? isStop)
  dsimp only at isTaken isLength
  refine ⟨front, taken, stop.2, by rw [isTaken], ?_, takes⟩
  have long := congrArg Prod.fst equal
  dsimp only at long
  rw [isTaken, List.length_append, Nat.add_sub_cancel, long] at isLength
  rw [same, isLength, Nat.zero_add]

/-! ## Common patterns -/

theorem takes_literal
    {text taken : Str}
    (takes : (literal text).Takes taken) : taken = text := by
  induction text generalizing taken with
  | nil => exact takes
  | cons c rest inductionHypothesis =>
      obtain ⟨front, back, rfl, ⟨d, rfl, same⟩, later⟩ := takes
      rw [inductionHypothesis later, of_decide_eq_true same]
      rfl

/-- A class of characters that is repeated takes characters of the class. -/
theorem takes_many_one
    {limit : Option Nat}
    {accepts : Char → Bool}
    {taken : Str}
    (takes : (many limit (one accepts)).Takes taken) :
    (∀ c ∈ taken, accepts c = true) ∧ ∀ most ∈ limit, taken.length ≤ most := by
  obtain ⟨parts, rfl, each, few⟩ := takes
  have singles : (parts.flatten).length = parts.length ∧
      ∀ c ∈ parts.flatten, accepts c = true := by
    clear few
    induction parts with
    | nil => exact ⟨rfl, fun _ none => absurd none List.not_mem_nil⟩
    | cons part parts inductionHypothesis =>
        obtain ⟨⟨c, rfl, accepted⟩, rest⟩ := List.forall_mem_cons.mp each
        obtain ⟨same, all⟩ := inductionHypothesis rest
        refine ⟨?_, List.forall_mem_cons.mpr ⟨accepted, all⟩⟩
        rw [List.flatten_cons, List.singleton_append, List.length_cons, List.length_cons, same]
  exact ⟨singles.2, fun most isMost => singles.1.le.trans (few most isMost)⟩

/-- A class of characters a number of times takes as many characters of the class. -/
theorem takes_times_one
    {accepts : Char → Bool}
    {count : Nat}
    {taken : Str}
    (takes : (times (one accepts) count).Takes taken) :
    taken.length = count ∧ ∀ c ∈ taken, accepts c = true := by
  induction count generalizing taken with
  | zero =>
      obtain rfl : taken = [] := takes
      exact ⟨rfl, fun _ none => absurd none List.not_mem_nil⟩
  | succ count inductionHypothesis =>
      obtain ⟨front, back, rfl, ⟨c, rfl, accepted⟩, later⟩ := takes
      obtain ⟨same, all⟩ := inductionHypothesis later
      exact ⟨congrArg (· + 1) same, List.forall_mem_cons.mpr ⟨accepted, all⟩⟩

/-- A class of characters a number of times or more takes characters of the class. -/
theorem takes_between_one
    {accepts : Char → Bool}
    {low high : Nat}
    {taken : Str}
    (takes : (between low high (one accepts)).Takes taken) : ∀ c ∈ taken, accepts c = true := by
  obtain ⟨front, back, rfl, first, second⟩ := takes
  exact List.forall_mem_append.mpr ⟨(takes_times_one first).2, (takes_many_one second).1⟩

/-- What takes a character of a class each time takes as many of them as there are times. -/
theorem le_countP_of_takes_times
    {body : Pattern}
    {test : Char → Bool}
    (each : ∀ {part : Str}, body.Takes part → 1 ≤ part.countP test)
    {count : Nat}
    {taken : Str}
    (takes : (times body count).Takes taken) : count ≤ taken.countP test := by
  induction count generalizing taken with
  | zero => exact Nat.zero_le _
  | succ count inductionHypothesis =>
      obtain ⟨front, back, rfl, first, later⟩ := takes
      have early := each first
      have late := inductionHypothesis later
      rw [List.countP_append]
      omega

/-! ## The longest run -/

/-- Without a limit a class of characters takes the longest run first. -/
private theorem head?_greedy_one
    (accepts : Char → Bool)
    {count : Nat}
    {place : Place}
    (enough : place.2.length ≤ count) :
    ∃ before, (greedy (ends (one accepts)) count place).head? =
      some (before, place.2.dropWhile accepts) := by
  obtain ⟨before, text⟩ := place
  induction text generalizing before count with
  | nil =>
      refine ⟨before, ?_⟩
      cases count with
      | zero => rfl
      | succ count => rfl
  | cons c rest inductionHypothesis =>
      obtain ⟨count, rfl⟩ := Nat.exists_eq_add_of_le' ((Nat.succ_pos _).trans_le enough)
      rw [greedy, List.dropWhile_cons]
      by_cases accepted : accepts c = true
      · obtain ⟨last, isLast⟩ := inductionHypothesis (some c) (Nat.le_of_succ_le_succ enough)
        refine ⟨last, ?_⟩
        rw [if_pos accepted, List.head?_append]
        have single : ends (one accepts) (before, c :: rest) = [(some c, rest)] := if_pos accepted
        rw [single, List.flatMap_singleton, isLast, Option.some_or]
      · refine ⟨before, ?_⟩
        have none : ends (one accepts) (before, c :: rest) = [] := if_neg accepted
        rw [if_neg accepted, none]
        rfl

/-- What comes first of several lists comes first in one of them. -/
theorem exists_of_head?_flatMap
    {α β : Type}
    {next : α → List β}
    {found : β}
    {list : List α}
    (isHead : (list.flatMap next).head? = some found) :
    ∃ item ∈ list, (next item).head? = some found := by
  induction list with
  | nil => cases isHead
  | cons item list inductionHypothesis =>
      rw [List.flatMap_cons, List.head?_append] at isHead
      cases here : (next item).head? with
      | none =>
          rw [here, Option.none_or] at isHead
          obtain ⟨later, present, found⟩ := inductionHypothesis isHead
          exact ⟨later, List.mem_cons_of_mem _ present, found⟩
      | some other =>
          rw [here, Option.some_or] at isHead
          exact ⟨item, List.mem_cons_self, here.trans isHead⟩

/-- A class of characters takes the whole run first, if the run is long enough. -/
theorem run_of_head?_ends
    {accepts : Char → Bool}
    {count : Nat}
    {place stop : Place}
    (isHead : ((atLeast count (one accepts)).ends place).head? = some stop) :
    stop.2 = place.2.dropWhile accepts ∧ count ≤ (place.2.takeWhile accepts).length := by
  obtain ⟨middle, isMiddle, isStop⟩ := exists_of_head?_flatMap isHead
  obtain ⟨before, isLast⟩ := head?_greedy_one accepts (le_refl middle.2.length)
  obtain rfl := Option.some.inj (isLast.symm.trans isStop)
  obtain ⟨taken, isTaken, takes⟩ := takes_of_mem_ends isMiddle
  obtain ⟨same, all⟩ := takes_times_one takes
  rw [isTaken, List.dropWhile_append_of_pos all, List.takeWhile_append_of_pos all,
    List.length_append, same]
  exact ⟨rfl, Nat.le_add_right _ _⟩

end Pattern
end ChatPlatform
