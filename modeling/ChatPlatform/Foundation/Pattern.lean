import ChatPlatform.Foundation.Text
import Mathlib.Data.List.Forall2

/-!
# Patterns matched by backtracking

A pattern is tried at a place of a text: it has an end for every way to match, in the order
in which backtracking tries them, and its match is the first.

A pattern that never takes a gap and looks at a gap as it looks at the end of the text has
the same ends where the text ends and where surroundings follow after a gap. A pattern that
takes gaps may run on into the surroundings, but it still ends where it could.
-/

namespace ChatPlatform

/-- A pattern. -/
inductive Pattern where
  /-- One character. -/
  | one (accepts : Char → Bool)
  /-- A condition on the characters before and after a place. -/
  | look (holds : Option Char → Option Char → Bool)
  /-- One pattern after another. -/
  | seq (first second : Pattern)
  /-- One pattern, or else another. -/
  | alt (first second : Pattern)
  /-- As many matches in a row as possible, up to a limit if there is one. -/
  | many (limit : Option Nat) (body : Pattern)

namespace Pattern

/-- A place of a text: the character before it and the text from there on. -/
abbrev Place := Option Char × Str

/-- Take one character. -/
def takeOne (accepts : Char → Bool) : Place → List Place
  | (_, []) => []
  | (_, c :: rest) => if accepts c then [(some c, rest)] else []

/-- Take as many steps as possible, then fewer. -/
def greedy (step : Place → List Place) : Nat → Place → List Place
  | 0, place => [place]
  | count + 1, place => (step place).flatMap (greedy step count) ++ [place]

/-- Where a pattern may end, in the order in which the ways are tried. -/
def ends : Pattern → Place → List Place
  | one accepts => takeOne accepts
  | look holds => fun place => if holds place.1 place.2.head? then [place] else []
  | seq first second => fun place => (ends first place).flatMap (ends second)
  | alt first second => fun place => ends first place ++ ends second place
  | many limit body => fun place => greedy (ends body) (limit.getD place.2.length) place

/-! ## Common patterns -/

/-- Nothing. -/
def nothing : Pattern := look fun _ _ => true

/-- A given text. -/
def literal : Str → Pattern
  | [] => nothing
  | c :: rest => seq (one (· = c)) (literal rest)

/-- A number of matches in a row. -/
def times (body : Pattern) : Nat → Pattern
  | 0 => nothing
  | count + 1 => seq body (times body count)

/-- At least a number of matches in a row. -/
def atLeast (count : Nat) (body : Pattern) : Pattern := seq (times body count) (many none body)

/-- A number of matches in a row, or more up to another number. -/
def between (low high : Nat) (body : Pattern) : Pattern :=
  seq (times body low) (many (some (high - low)) body)

/-- A match or none. -/
def optional (body : Pattern) : Pattern := many (some 1) body

/-- A change between word characters and others. -/
def wordBoundary (isWord : Char → Bool) : Pattern :=
  look fun before after => before.any isWord != after.any isWord

/-- The character before is none of some. -/
def notBehind (refused : Char → Bool) : Pattern := look fun before _ => !before.any refused

/-- The character after is none of some. -/
def notAhead (refused : Char → Bool) : Pattern := look fun _ after => !after.any refused

/-! ## Matches -/

/-- The length of the match at a place. -/
def matchAt (pattern : Pattern) (place : Place) : Option Nat :=
  (pattern.ends place).head?.map fun stop => place.2.length - stop.2.length

/-- Whether a pattern matches a whole text. -/
def fullmatch (pattern : Pattern) (text : Str) : Bool :=
  (pattern.ends (none, text)).any fun stop => stop.2.isEmpty

/-! ## Places in surroundings -/

variable (isGap : Char → Bool)

/-- The end of a text and a gap look the same. -/
def blur (c : Option Char) : Option Char := if c.all isGap then none else c

/-- A text that is empty or begins with a gap. -/
def Begins (text : Str) : Prop := text.head?.all isGap = true

/-- A text that is empty or ends with a gap. -/
def Ends (text : Str) : Prop := text.getLast?.all isGap = true

instance (text : Str) : Decidable (Begins isGap text) := inferInstanceAs (Decidable (_ = true))

instance (text : Str) : Decidable (Ends isGap text) := inferInstanceAs (Decidable (_ = true))

/-- A place that is the same but for what stands around. -/
def Alike (suffix : Str) (inner outer : Place) : Prop :=
  blur isGap inner.1 = blur isGap outer.1 ∧ outer.2 = inner.2 ++ suffix

/-- How many characters a pattern takes at least. -/
def least : Pattern → Nat
  | one _ => 1
  | look _ => 0
  | seq first second => least first + least second
  | alt first second => min (least first) (least second)
  | many _ _ => 0

/-- Gaps look like the end of the text, and what is repeated without a limit takes something. -/
def Blurred : Pattern → Prop
  | one _ => True
  | look holds => ∀ before after,
      holds (blur isGap before) (blur isGap after) = holds before after
  | seq first second => Blurred first ∧ Blurred second
  | alt first second => Blurred first ∧ Blurred second
  | many limit body => Blurred body ∧ (limit = none → 0 < least body)

/-- No gap is taken. -/
def Avoids : Pattern → Prop
  | one accepts => ∀ c, isGap c = true → accepts c = false
  | look _ => True
  | seq first second => Avoids first ∧ Avoids second
  | alt first second => Avoids first ∧ Avoids second
  | many _ body => Avoids body

variable {isGap}

/-- A step takes characters from the front. -/
private theorem length_greedy
    {step : Place → List Place}
    (shrinks : ∀ place, ∀ stop ∈ step place, stop.2.length ≤ place.2.length)
    (count : Nat)
    (place : Place) : ∀ stop ∈ greedy step count place, stop.2.length ≤ place.2.length := by
  induction count generalizing place with
  | zero =>
      intro stop present
      rw [greedy, List.mem_singleton] at present
      rw [present]
  | succ count inductionHypothesis =>
      intro stop present
      rcases List.mem_append.mp present with further | here
      · obtain ⟨next, isNext, later⟩ := List.mem_flatMap.mp further
        exact (inductionHypothesis next stop later).trans (shrinks place next isNext)
      · rw [List.mem_singleton.mp here]

/-- A pattern takes at least so many characters. -/
theorem length_ends (pattern : Pattern) (place : Place) :
    ∀ stop ∈ pattern.ends place, stop.2.length + pattern.least ≤ place.2.length := by
  induction pattern generalizing place with
  | one accepts =>
      obtain ⟨before, text⟩ := place
      cases text with
      | nil => exact fun _ present => absurd present List.not_mem_nil
      | cons c rest =>
          intro stop present
          simp only [ends, takeOne] at present
          split at present
          · rw [List.mem_singleton.mp present]
            exact le_rfl
          · cases present
  | look holds =>
      intro stop present
      simp only [ends] at present
      split at present
      · rw [List.mem_singleton.mp present]
        exact le_rfl
      · cases present
  | seq first second firstHypothesis secondHypothesis =>
      intro stop present
      obtain ⟨middle, isMiddle, isStop⟩ := List.mem_flatMap.mp present
      have early := firstHypothesis place middle isMiddle
      have late := secondHypothesis middle stop isStop
      rw [least]
      omega
  | alt first second firstHypothesis secondHypothesis =>
      intro stop present
      rw [least]
      rcases List.mem_append.mp present with left | right
      · have bound := firstHypothesis place stop left
        omega
      · have bound := secondHypothesis place stop right
        omega
  | many limit body inductionHypothesis =>
      have shrinks : ∀ place, ∀ stop ∈ body.ends place, stop.2.length ≤ place.2.length :=
        fun place stop present =>
          (Nat.le_add_right _ _).trans (inductionHypothesis place stop present)
      exact length_greedy shrinks _ place

/-- Without steps nothing is taken. -/
private theorem greedy_of_nil
    {step : Place → List Place}
    {place : Place}
    (none : step place = [])
    (count : Nat) : greedy step count place = [place] := by
  cases count with
  | zero => rfl
  | succ count => rw [greedy, none, List.flatMap_nil, List.nil_append]

/-- Steps that take something come to an end. -/
private theorem greedy_eq
    {step : Place → List Place}
    (shrinks : ∀ place, ∀ stop ∈ step place, stop.2.length < place.2.length)
    {first second : Nat}
    {place : Place}
    (enoughFirst : place.2.length ≤ first)
    (enoughSecond : place.2.length ≤ second) :
    greedy step first place = greedy step second place := by
  induction first generalizing place second with
  | zero =>
      have none : step place = [] := List.eq_nil_iff_forall_not_mem.mpr fun stop present =>
        absurd ((shrinks place stop present).trans_le enoughFirst) (Nat.not_lt_zero _)
      rw [greedy_of_nil none, greedy_of_nil none]
  | succ first inductionHypothesis =>
      cases second with
      | zero =>
          have none : step place = [] := List.eq_nil_iff_forall_not_mem.mpr fun stop present =>
            absurd ((shrinks place stop present).trans_le enoughSecond) (Nat.not_lt_zero _)
          rw [greedy_of_nil none, greedy_of_nil none]
      | succ second =>
          rw [greedy, greedy]
          congr 1
          refine List.flatMap_congr fun next present => ?_
          have shorter := shrinks place next present
          exact inductionHypothesis (by omega) (by omega)

/-- Results that correspond one by one, followed by results that do. -/
private theorem forall₂_flatMap
    {related : Place → Place → Prop}
    {inner outer : List Place}
    (each : List.Forall₂ related inner outer)
    {innerNext outerNext : Place → List Place}
    (next : ∀ first second, related first second →
      List.Forall₂ related (innerNext first) (outerNext second)) :
    List.Forall₂ related (inner.flatMap innerNext) (outer.flatMap outerNext) := by
  induction each with
  | nil => exact List.Forall₂.nil
  | cons here _ inductionHypothesis =>
      rw [List.flatMap_cons, List.flatMap_cons]
      exact List.rel_append (next _ _ here) inductionHypothesis

/-- Repeated steps that correspond one by one. -/
private theorem greedy_alike
    {related : Place → Place → Prop}
    {step : Place → List Place}
    (each : ∀ inner outer, related inner outer →
      List.Forall₂ related (step inner) (step outer))
    (count : Nat)
    {inner outer : Place}
    (alike : related inner outer) :
    List.Forall₂ related (greedy step count inner) (greedy step count outer) := by
  induction count generalizing inner outer with
  | zero => exact List.Forall₂.cons alike List.Forall₂.nil
  | succ count inductionHypothesis =>
      rw [greedy, greedy]
      exact List.rel_append
        (forall₂_flatMap (each inner outer alike) fun _ _ => inductionHypothesis)
        (List.Forall₂.cons alike List.Forall₂.nil)

/-- The next character of a text and of a text with surroundings look the same. -/
private theorem blur_head?_append
    {suffix : Str}
    (begins : Begins isGap suffix)
    (text : Str) : blur isGap (text ++ suffix).head? = blur isGap text.head? := by
  cases text with
  | nil =>
      exact if_pos begins
  | cons c rest => rfl

/-- A condition holds at a place and in surroundings alike. -/
private theorem look_alike
    {suffix : Str}
    (begins : Begins isGap suffix)
    {holds : Option Char → Option Char → Bool}
    (blurred : ∀ before after, holds (blur isGap before) (blur isGap after) = holds before after)
    {inner outer : Place}
    (alike : Alike isGap suffix inner outer) :
    holds outer.1 outer.2.head? = holds inner.1 inner.2.head? := by
  rw [← blurred outer.1, ← blurred inner.1, alike.1, alike.2, blur_head?_append begins]

/-- A pattern that takes no gap has the same ends in any surroundings. -/
theorem ends_alike
    {suffix : Str}
    (begins : Begins isGap suffix)
    {pattern : Pattern}
    (blurred : pattern.Blurred isGap)
    (avoids : pattern.Avoids isGap)
    {inner outer : Place}
    (alike : Alike isGap suffix inner outer) :
    List.Forall₂ (Alike isGap suffix) (pattern.ends inner) (pattern.ends outer) := by
  induction pattern generalizing inner outer with
  | one accepts =>
      obtain ⟨before, text⟩ := inner
      obtain ⟨otherBefore, otherText⟩ := outer
      obtain ⟨-, same⟩ := alike
      dsimp only at same
      rw [same]
      cases text with
      | nil =>
          cases suffix with
          | nil => exact List.Forall₂.nil
          | cons c suffix =>
              have refused : accepts c = false := avoids c begins
              simp only [ends, takeOne, List.nil_append, refused, Bool.false_eq_true, if_false]
              exact List.Forall₂.nil
      | cons c rest =>
          simp only [ends, takeOne, List.cons_append]
          split
          · exact List.Forall₂.cons ⟨rfl, rfl⟩ List.Forall₂.nil
          · exact List.Forall₂.nil
  | look holds =>
      simp only [ends, look_alike begins blurred alike]
      split
      · exact List.Forall₂.cons alike List.Forall₂.nil
      · exact List.Forall₂.nil
  | seq first second firstHypothesis secondHypothesis =>
      exact forall₂_flatMap (firstHypothesis blurred.1 avoids.1 alike) fun _ _ =>
        secondHypothesis blurred.2 avoids.2
  | alt first second firstHypothesis secondHypothesis =>
      exact List.rel_append (firstHypothesis blurred.1 avoids.1 alike)
        (secondHypothesis blurred.2 avoids.2 alike)
  | many limit body inductionHypothesis =>
      have each := fun inner outer alike =>
        @inductionHypothesis blurred.1 avoids inner outer alike
      simp only [ends]
      cases limit with
      | some limit => exact greedy_alike each limit alike
      | none =>
          have shrinks : ∀ place, ∀ stop ∈ body.ends place, stop.2.length < place.2.length := by
            intro place stop present
            have bound := length_ends body place stop present
            have takes := blurred.2 rfl
            omega
          have longer : inner.2.length ≤ outer.2.length := by
            rw [alike.2, List.length_append]
            exact Nat.le_add_right _ _
          rw [Option.getD_none, Option.getD_none, greedy_eq shrinks le_rfl longer]
          exact greedy_alike each outer.2.length alike

/-- Fewer repeated steps are among more. -/
private theorem mem_greedy_of_le
    {step : Place → List Place}
    {first second : Nat}
    (order : first ≤ second)
    {place stop : Place}
    (present : stop ∈ greedy step first place) : stop ∈ greedy step second place := by
  induction first generalizing place second with
  | zero =>
      rw [greedy, List.mem_singleton] at present
      rw [present]
      cases second with
      | zero => exact List.mem_singleton_self _
      | succ second => exact List.mem_append_right _ (List.mem_singleton_self _)
  | succ first inductionHypothesis =>
      obtain ⟨second, rfl⟩ := Nat.exists_eq_add_of_le' order
      rcases List.mem_append.mp present with further | here
      · obtain ⟨next, isNext, later⟩ := List.mem_flatMap.mp further
        exact List.mem_append_left _ (List.mem_flatMap.mpr ⟨next, isNext,
          inductionHypothesis (Nat.le_add_left first second) later⟩)
      · exact List.mem_append_right _ here

/-- Repeated steps that have a counterpart each. -/
private theorem greedy_persists
    {related : Place → Place → Prop}
    {step : Place → List Place}
    (each : ∀ inner outer, related inner outer → ∀ stop ∈ step inner,
      ∃ other ∈ step outer, related stop other)
    (count : Nat)
    {inner outer : Place}
    (alike : related inner outer) :
    ∀ stop ∈ greedy step count inner, ∃ other ∈ greedy step count outer, related stop other := by
  induction count generalizing inner outer with
  | zero =>
      intro stop present
      rw [greedy, List.mem_singleton] at present
      exact ⟨outer, List.mem_singleton_self _, present ▸ alike⟩
  | succ count inductionHypothesis =>
      intro stop present
      rcases List.mem_append.mp present with further | here
      · obtain ⟨next, isNext, later⟩ := List.mem_flatMap.mp further
        obtain ⟨otherNext, isOther, alikeNext⟩ := each inner outer alike next isNext
        obtain ⟨other, isLater, alikeStop⟩ := inductionHypothesis alikeNext stop later
        exact ⟨other, List.mem_append_left _ (List.mem_flatMap.mpr ⟨otherNext, isOther, isLater⟩),
          alikeStop⟩
      · rw [List.mem_singleton.mp here]
        exact ⟨outer, List.mem_append_right _ (List.mem_singleton_self _), alike⟩

/-- A pattern can end in any surroundings where it can end without them. -/
theorem ends_persist
    {suffix : Str}
    (begins : Begins isGap suffix)
    {pattern : Pattern}
    (blurred : pattern.Blurred isGap)
    {inner outer : Place}
    (alike : Alike isGap suffix inner outer) :
    ∀ stop ∈ pattern.ends inner, ∃ other ∈ pattern.ends outer, Alike isGap suffix stop other := by
  induction pattern generalizing inner outer with
  | one accepts =>
      obtain ⟨before, text⟩ := inner
      obtain ⟨otherBefore, otherText⟩ := outer
      obtain ⟨-, same⟩ := alike
      dsimp only at same
      rw [same]
      intro stop present
      cases text with
      | nil => cases present
      | cons c rest =>
          simp only [ends, takeOne] at present
          split at present
          · rename_i accepted
            rw [List.mem_singleton.mp present]
            refine ⟨(some c, rest ++ suffix), ?_, rfl, rfl⟩
            simp only [ends, takeOne, List.cons_append, accepted, if_true]
            exact List.mem_singleton_self _
          · cases present
  | look holds =>
      intro stop present
      simp only [ends] at present
      split at present
      · rename_i held
        rw [List.mem_singleton.mp present]
        refine ⟨outer, ?_, alike⟩
        simp only [ends, look_alike begins blurred alike, held, if_true]
        exact List.mem_singleton_self _
      · cases present
  | seq first second firstHypothesis secondHypothesis =>
      intro stop present
      obtain ⟨middle, isMiddle, isStop⟩ := List.mem_flatMap.mp present
      obtain ⟨otherMiddle, isOther, alikeMiddle⟩ :=
        firstHypothesis blurred.1 alike middle isMiddle
      obtain ⟨other, isLater, alikeStop⟩ := secondHypothesis blurred.2 alikeMiddle stop isStop
      exact ⟨other, List.mem_flatMap.mpr ⟨otherMiddle, isOther, isLater⟩, alikeStop⟩
  | alt first second firstHypothesis secondHypothesis =>
      intro stop present
      rcases List.mem_append.mp present with left | right
      · obtain ⟨other, isOther, alikeStop⟩ := firstHypothesis blurred.1 alike stop left
        exact ⟨other, List.mem_append_left _ isOther, alikeStop⟩
      · obtain ⟨other, isOther, alikeStop⟩ := secondHypothesis blurred.2 alike stop right
        exact ⟨other, List.mem_append_right _ isOther, alikeStop⟩
  | many limit body inductionHypothesis =>
      have each := fun inner outer alike =>
        @inductionHypothesis blurred.1 inner outer alike
      intro stop present
      simp only [ends] at present ⊢
      cases limit with
      | some limit => exact greedy_persists each limit alike stop present
      | none =>
          have longer : inner.2.length ≤ outer.2.length := by
            rw [alike.2, List.length_append]
            exact Nat.le_add_right _ _
          exact greedy_persists each outer.2.length alike stop
            (mem_greedy_of_le longer present)

/-! ## Patterns without gaps -/

theorem blurred_one (accepts : Char → Bool) : (one accepts).Blurred isGap := trivial

theorem avoids_literal
    {text : Str}
    (noGap : ∀ c ∈ text, isGap c = false) : (literal text).Avoids isGap := by
  induction text with
  | nil => trivial
  | cons c rest inductionHypothesis =>
      refine ⟨fun d gap => decide_eq_false ?_,
        inductionHypothesis fun d present => noGap d (List.mem_cons_of_mem _ present)⟩
      rintro rfl
      rw [noGap d List.mem_cons_self] at gap
      cases gap

theorem blurred_literal (text : Str) : (literal text).Blurred isGap := by
  induction text with
  | nil => exact fun _ _ => rfl
  | cons c rest inductionHypothesis => exact ⟨trivial, inductionHypothesis⟩

theorem avoids_times
    {body : Pattern}
    (avoids : body.Avoids isGap)
    (count : Nat) : (times body count).Avoids isGap := by
  induction count with
  | zero => trivial
  | succ count inductionHypothesis => exact ⟨avoids, inductionHypothesis⟩

theorem blurred_times
    {body : Pattern}
    (blurred : body.Blurred isGap)
    (count : Nat) : (times body count).Blurred isGap := by
  induction count with
  | zero => exact fun _ _ => rfl
  | succ count inductionHypothesis => exact ⟨blurred, inductionHypothesis⟩

theorem blurred_atLeast
    {body : Pattern}
    (blurred : body.Blurred isGap)
    (takes : 0 < body.least)
    (count : Nat) : (atLeast count body).Blurred isGap :=
  ⟨blurred_times blurred count, blurred, fun _ => takes⟩

theorem avoids_atLeast
    {body : Pattern}
    (avoids : body.Avoids isGap)
    (count : Nat) : (atLeast count body).Avoids isGap :=
  ⟨avoids_times avoids count, avoids⟩

theorem blurred_between
    {body : Pattern}
    (blurred : body.Blurred isGap)
    (low high : Nat) : (between low high body).Blurred isGap :=
  ⟨blurred_times blurred low, blurred, fun unlimited => absurd unlimited (Option.some_ne_none _)⟩

theorem avoids_between
    {body : Pattern}
    (avoids : body.Avoids isGap)
    (low high : Nat) : (between low high body).Avoids isGap :=
  ⟨avoids_times avoids low, avoids⟩

theorem blurred_optional
    {body : Pattern}
    (blurred : body.Blurred isGap) : (optional body).Blurred isGap :=
  ⟨blurred, fun unlimited => absurd unlimited (Option.some_ne_none _)⟩

/-- A test that gaps fail does not tell a gap from the end of the text. -/
theorem any_blur
    {test : Char → Bool}
    (noGap : ∀ c, isGap c = true → test c = false)
    (c : Option Char) : (blur isGap c).any test = c.any test := by
  cases c with
  | none => rfl
  | some c =>
      unfold blur
      split
      · rename_i gap
        exact (noGap c gap).symm
      · rfl

theorem blurred_wordBoundary
    {isWord : Char → Bool}
    (noGap : ∀ c, isGap c = true → isWord c = false) : (wordBoundary isWord).Blurred isGap := by
  intro before after
  dsimp only
  rw [any_blur noGap, any_blur noGap]

theorem blurred_notBehind
    {refused : Char → Bool}
    (noGap : ∀ c, isGap c = true → refused c = false) : (notBehind refused).Blurred isGap := by
  intro before after
  dsimp only
  rw [any_blur noGap]

theorem blurred_notAhead
    {refused : Char → Bool}
    (noGap : ∀ c, isGap c = true → refused c = false) : (notAhead refused).Blurred isGap := by
  intro before after
  dsimp only
  rw [any_blur noGap]

end Pattern
end ChatPlatform
