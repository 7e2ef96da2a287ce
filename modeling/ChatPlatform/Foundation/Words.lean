import ChatPlatform.Foundation.Text

/-!
# Collapsing white space

The words of a text joined with single blanks. Nothing but white space changes: the text has
the same other characters, no white space at its ends, and white space after it makes no
difference.
-/

namespace ChatPlatform
namespace Text

/-- The words of a text with single blanks between them. -/
def collapse (s : Str) : Str := join [' '] (words s)

/-- The characters of a text that are not white space. -/
def ink (s : Str) : Str := s.filter fun c => !isSpace c

theorem ink_append (s t : Str) : ink (s ++ t) = ink s ++ ink t := List.filter_append s t

theorem ink_eq_nil_iff (s : Str) : ink s = [] ↔ ∀ c ∈ s, isSpace c = true := by
  unfold ink
  rw [List.filter_eq_nil_iff]
  simp only [Bool.not_eq_true', Bool.not_eq_false]

private theorem ink_join_runsFrom (word s : Str) :
    ink (join [' '] (runsFrom isSpace word s)) = ink (word ++ s) := by
  induction s generalizing word with
  | nil =>
      unfold runsFrom
      by_cases empty : word = []
      · rw [if_pos empty, empty]
        rfl
      · rw [if_neg empty, join_singleton, List.append_nil]
  | cons c rest inductionHypothesis =>
      unfold runsFrom
      cases isGap : isSpace c with
      | true =>
          have blank : ink [c] = [] := by
            rw [ink_eq_nil_iff]
            intro d held
            rw [List.mem_singleton.mp held, isGap]
          have later := inductionHypothesis []
          rw [List.nil_append] at later
          have split : ink (word ++ c :: rest) = ink word ++ ink rest := by
            rw [← List.singleton_append, ink_append, ink_append, blank, List.nil_append]
          rw [if_pos rfl, split]
          by_cases empty : word = []
          · rw [if_pos empty, later, empty]
            rfl
          · rw [if_neg empty]
            by_cases last : runsFrom isSpace [] rest = []
            · rw [last] at later
              rw [last, join_singleton, ← later]
              exact (List.append_nil _).symm
            · rw [join_cons_of_ne_nil _ _ last, ink_append, ink_append, later,
                List.append_assoc]
              rfl
      | false =>
          rw [if_neg Bool.false_ne_true, inductionHypothesis, List.append_assoc,
            List.singleton_append]

/-- Collapsing leaves what is not white space. -/
@[simp] theorem ink_collapse (s : Str) : ink (collapse s) = ink s :=
  ink_join_runsFrom [] s

/-- Runs are not empty and hold no gap. -/
theorem of_mem_runsFrom
    {isGap : Char → Bool}
    {word s found : Str}
    (noGap : ∀ c ∈ word, isGap c = false)
    (present : found ∈ runsFrom isGap word s) :
    found ≠ [] ∧ ∀ c ∈ found, isGap c = false := by
  induction s generalizing word with
  | nil =>
      unfold runsFrom at present
      by_cases empty : word = []
      · rw [if_pos empty] at present
        cases present
      · rw [if_neg empty, List.mem_singleton] at present
        exact present ▸ ⟨empty, noGap⟩
  | cons c rest inductionHypothesis =>
      unfold runsFrom at present
      have fresh : ∀ d ∈ ([] : Str), isGap d = false := nofun
      cases isC : isGap c with
      | true =>
          rw [if_pos isC] at present
          by_cases empty : word = []
          · rw [if_pos empty] at present
            exact inductionHypothesis fresh present
          · rw [if_neg empty, List.mem_cons] at present
            rcases present with rfl | inRest
            · exact ⟨empty, noGap⟩
            · exact inductionHypothesis fresh inRest
      | false =>
          rw [if_neg (by simp [isC])] at present
          refine inductionHypothesis (fun d held => ?_) present
          rcases List.mem_append.mp held with early | last
          · exact noGap d early
          · exact List.mem_singleton.mp last ▸ isC

/-- Joined words have no white space at their ends. -/
theorem isTrimmed_join
    {pieces : List Str}
    (areWords : ∀ piece ∈ pieces, piece ≠ [] ∧ ∀ c ∈ piece, isSpace c = false) :
    IsTrimmed (join [' '] pieces) := by
  induction pieces with
  | nil => exact ⟨nofun, nofun⟩
  | cons piece rest inductionHypothesis =>
      obtain ⟨held, noGap⟩ := areWords piece List.mem_cons_self
      have tail := inductionHypothesis fun other inRest =>
        areWords other (List.mem_cons_of_mem _ inRest)
      by_cases last : rest = []
      · rw [last, join_singleton]
        exact ⟨fun c isHead => noGap c (List.mem_of_mem_head? isHead),
          fun c isLast => noGap c (List.mem_of_getLast? isLast)⟩
      · rw [join_cons_of_ne_nil _ _ last]
        have more : join [' '] rest ≠ [] := by
          obtain ⟨next, others, rfl⟩ := List.exists_cons_of_ne_nil last
          have nextHeld := (areWords next (by simp)).1
          by_cases single : others = []
          · rw [single, join_singleton]
            exact nextHeld
          · rw [join_cons_of_ne_nil _ _ single, List.append_assoc]
            exact List.append_ne_nil_of_left_ne_nil nextHeld _
        constructor
        · intro c isHead
          rw [List.append_assoc, List.head?_append_of_ne_nil _ held] at isHead
          exact noGap c (List.mem_of_mem_head? isHead)
        · intro c isLast
          rw [List.getLast?_append_of_ne_nil _ more] at isLast
          exact tail.2 c isLast

/-- A collapsed text has no white space at its ends. -/
theorem strip_collapse (s : Str) : strip (collapse s) = collapse s :=
  (strip_eq_self_iff _).mpr (isTrimmed_join fun _ present =>
    of_mem_runsFrom (fun _ inside => absurd inside List.not_mem_nil) present)

/-- White space after a text makes no difference to its words. -/
theorem words_append_of_isSpace
    {t : Str}
    (blank : ∀ c ∈ t, isSpace c = true)
    (s : Str) : words (s ++ t) = words s := by
  have trailing : ∀ word : Str, runsFrom isSpace word t = runsFrom isSpace word [] := by
    induction t with
    | nil => exact fun word => rfl
    | cons c rest inductionHypothesis =>
        have later := inductionHypothesis fun d held => blank d (List.mem_cons_of_mem _ held)
        intro word
        have step : runsFrom isSpace word (c :: rest) =
            if word = [] then runsFrom isSpace [] rest
            else word :: runsFrom isSpace [] rest := by
          rw [runsFrom, if_pos (blank c List.mem_cons_self)]
        rw [step, later]
        rfl
  have whole : ∀ word : Str, runsFrom isSpace word (s ++ t) = runsFrom isSpace word s := by
    induction s with
    | nil => exact trailing
    | cons c rest inductionHypothesis =>
        intro word
        rw [List.cons_append, runsFrom, runsFrom, inductionHypothesis, inductionHypothesis]
  exact whole []

end Text
end ChatPlatform
