import Mathlib.Data.List.Forall2

/-!
# Traversals that may fail

A sequence of steps that succeeds does so at every step. A traversal of a list that
succeeds gave a result for every element, in the order of the elements.
-/

namespace ChatPlatform
namespace Traversal

variable {α β γ δ ε : Type}

/-- After a step that succeeds the rest goes on with its result. -/
theorem ok_bind (value : α) (rest : α → Except ε β) :
    (Except.ok value >>= rest) = rest value := rfl

/-- A sequence of steps that succeeds does so at every step. -/
theorem exists_of_bind_eq_ok
    {first : Except ε α}
    {rest : α → Except ε β}
    {result : β}
    (succeeds : first >>= rest = .ok result) :
    ∃ value, first = .ok value ∧ rest value = .ok result := by
  cases first with
  | error exception => cases succeeds
  | ok value => exact ⟨value, rfl, succeeds⟩

/-- A sequence of steps that fails does so at one of them. -/
theorem error_of_bind_eq_error
    {first : Except ε α}
    {rest : α → Except ε β}
    {exception : ε}
    (fails : first >>= rest = .error exception) :
    first = .error exception ∨
      ∃ value, first = .ok value ∧ rest value = .error exception := by
  cases first with
  | error other =>
      cases fails
      exact Or.inl rfl
  | ok value => exact Or.inr ⟨value, rfl, fails⟩

/-- A successful traversal pairs the elements with their results. -/
theorem forall₂_of_mapM
    {step : α → Except ε β}
    {items : List α}
    {results : List β}
    (ran : items.mapM step = .ok results) :
    List.Forall₂ (fun item result => step item = .ok result) items results := by
  induction items generalizing results with
  | nil =>
      cases ran
      exact .nil
  | cons item rest inductionHypothesis =>
      rw [List.mapM_cons] at ran
      cases first : step item with
      | error problem =>
          rw [first] at ran
          cases ran
      | ok result =>
          cases others : rest.mapM step with
          | error problem =>
              rw [first, others] at ran
              cases ran
          | ok remaining =>
              rw [first, others] at ran
              cases ran
              exact .cons first (inductionHypothesis others)

/-- A traversal whose every step succeeds does. -/
theorem exists_mapM_eq_ok
    {step : α → Except ε β}
    {items : List α}
    (succeeds : ∀ item ∈ items, ∃ result, step item = .ok result) :
    ∃ results, items.mapM step = .ok results := by
  induction items with
  | nil => exact ⟨[], rfl⟩
  | cons item rest inductionHypothesis =>
      obtain ⟨result, first⟩ := succeeds item List.mem_cons_self
      obtain ⟨results, others⟩ := inductionHypothesis fun other held =>
        succeeds other (List.mem_cons_of_mem _ held)
      refine ⟨result :: results, ?_⟩
      rw [List.mapM_cons, first, others]
      rfl

/-- A traversal whose steps have known results has these results. -/
theorem mapM_map_eq_ok
    {step : β → Except ε γ}
    {view : α → β}
    {result : α → γ}
    {items : List α}
    (succeeds : ∀ item ∈ items, step (view item) = .ok (result item)) :
    (items.map view).mapM step = .ok (items.map result) := by
  induction items with
  | nil => rfl
  | cons item rest inductionHypothesis =>
      have others := inductionHypothesis fun other held =>
        succeeds other (List.mem_cons_of_mem _ held)
      rw [List.map_cons, List.mapM_cons, succeeds item List.mem_cons_self, others]
      rfl

/-- The same for the elements themselves. -/
theorem mapM_eq_ok_map
    {step : α → Except ε β}
    {result : α → β}
    {items : List α}
    (succeeds : ∀ item ∈ items, step item = .ok (result item)) :
    items.mapM step = .ok (items.map result) := by
  have mapped : (items.map id).mapM step = .ok (items.map result) := mapM_map_eq_ok succeeds
  rwa [List.map_id] at mapped

/-- A traversal of the first elements gives the first results. -/
theorem mapM_take
    {step : α → Except ε β}
    {items : List α}
    {results : List β}
    (ran : items.mapM step = .ok results)
    (count : Nat) : (items.take count).mapM step = .ok (results.take count) := by
  induction items generalizing results count with
  | nil =>
      have none : results = [] := (Except.ok.inj ran).symm
      rw [none, List.take_nil, List.take_nil]
      rfl
  | cons item rest inductionHypothesis =>
      rw [List.mapM_cons] at ran
      obtain ⟨result, first, ran⟩ := exists_of_bind_eq_ok ran
      obtain ⟨others, later, ran⟩ := exists_of_bind_eq_ok ran
      cases ran
      cases count with
      | zero => rfl
      | succ count =>
          rw [List.take_succ_cons, List.take_succ_cons, List.mapM_cons, first,
            inductionHypothesis later]
          rfl

/-- A traversal whose steps fail in one way fails in this way when one of them does. -/
theorem mapM_eq_error
    {step : α → Except ε β}
    {items : List α}
    {exception : ε}
    (oneWay : ∀ item ∈ items, ∀ other, step item = .error other → other = exception)
    (fails : ∃ item ∈ items, step item = .error exception) :
    items.mapM step = .error exception := by
  induction items with
  | nil =>
      obtain ⟨item, held, _⟩ := fails
      cases held
  | cons item rest inductionHypothesis =>
      rw [List.mapM_cons]
      cases first : step item with
      | error other =>
          rw [oneWay item List.mem_cons_self other first]
          rfl
      | ok result =>
          have later : ∃ item ∈ rest, step item = .error exception := by
            obtain ⟨failing, held, failed⟩ := fails
            rcases List.mem_cons.mp held with rfl | inRest
            · rw [first] at failed
              cases failed
            · exact ⟨failing, inRest, failed⟩
          rw [inductionHypothesis (fun other held => oneWay other
            (List.mem_cons_of_mem _ held)) later]
          rfl

/-- Where every element and its partner have a view in common, so do the lists. -/
theorem map_eq_of_forall₂
    {relation : α → β → Prop}
    {items : List α}
    {results : List β}
    {before : α → γ}
    {after : β → γ}
    (keeps : ∀ item result, relation item result → after result = before item)
    (paired : List.Forall₂ relation items results) :
    results.map after = items.map before := by
  induction paired with
  | nil => rfl
  | cons first _ inductionHypothesis =>
      rw [List.map_cons, List.map_cons, keeps _ _ first, inductionHypothesis]

/-- Lists paired with a third one in turn are paired with each other. -/
theorem forall₂_comp
    {first : α → β → Prop}
    {second : β → δ → Prop}
    {both : α → δ → Prop}
    (compose : ∀ item middle result, first item middle → second middle result →
      both item result)
    {items : List α}
    {middles : List β}
    {results : List δ}
    (early : List.Forall₂ first items middles)
    (late : List.Forall₂ second middles results) :
    List.Forall₂ both items results := by
  induction early generalizing results with
  | nil =>
      cases late
      exact .nil
  | cons one _ inductionHypothesis =>
      cases late with
      | cons other others => exact .cons (compose _ _ _ one other) (inductionHypothesis others)

/-- Every element of the second list has a partner in the first. -/
theorem exists_left_of_mem
    {relation : α → β → Prop}
    {items : List α}
    {results : List β}
    (paired : List.Forall₂ relation items results)
    {result : β}
    (held : result ∈ results) : ∃ item ∈ items, relation item result := by
  induction paired with
  | nil => cases held
  | cons first _ inductionHypothesis =>
      rcases List.mem_cons.mp held with rfl | inRest
      · exact ⟨_, List.mem_cons_self, first⟩
      · obtain ⟨item, present, related⟩ := inductionHypothesis inRest
        exact ⟨item, List.mem_cons_of_mem _ present, related⟩

/-- Where every step succeeds with a related result, the traversal does. -/
theorem exists_mapM_related
    {step : α → Except ε β}
    {other : α → Except ε γ}
    {related : β → γ → Prop}
    (relates : ∀ item result, step item = .ok result →
      ∃ otherResult, other item = .ok otherResult ∧ related result otherResult)
    {items : List α}
    {results : List β}
    (traversed : items.mapM step = .ok results) :
    ∃ others, items.mapM other = .ok others ∧ List.Forall₂ related results others := by
  induction items generalizing results with
  | nil =>
      cases traversed
      exact ⟨[], rfl, .nil⟩
  | cons item rest inductionHypothesis =>
      rw [List.mapM_cons] at traversed
      obtain ⟨result, isResult, traversed⟩ := exists_of_bind_eq_ok traversed
      obtain ⟨later, isLater, same⟩ := exists_of_bind_eq_ok traversed
      cases same
      obtain ⟨otherResult, isOther, isRelated⟩ := relates item result isResult
      obtain ⟨others, traversedOthers, areRelated⟩ := inductionHypothesis isLater
      refine ⟨otherResult :: others, ?_, .cons isRelated areRelated⟩
      rw [List.mapM_cons, isOther, traversedOthers]
      rfl

end Traversal
end ChatPlatform
