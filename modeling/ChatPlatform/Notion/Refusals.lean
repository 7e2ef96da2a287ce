import ChatPlatform.Foundation.Occurrences
import ChatPlatform.Notion.Service

/-!
# The class of a refusal

A refusal is told to be one of access by a word in its message. The message quotes
identifiers, field names and values, so the class is right exactly when none of the texts
that are quoted after the access check holds the word.
-/

namespace ChatPlatform
namespace Notion

variable {F : Type} [FloatOps F]

/-- A text holds the word that marks a refusal of access. -/
def mentions (text : Str) : Bool := Text.contains "allowlist".toList (Text.lower text)

/-! ## Causes -/

section Causes

variable (runtime : Runtime F) (service : NotionWriteService F)

/-- Check the value of a page update against the schema of its field. -/
def pageCheck (fields : Dict F) (update : Str × Value F) : Check :=
  match NotionWriteService.fieldSchema fields update.1 with
  | .error fault => .error fault
  | .ok schema =>
      NotionWriteValidator.validateFieldValue runtime update.1 update.2 (.dict schema)

/-- Check the value of a row update against the schema of its field. -/
def rowCheck (fields : Dict F) (update : Str × Value F) : Check :=
  NotionWriteValidator.validateFieldValue runtime update.1 update.2
    ((Dict.get fields update.1).getD (.dict []))

/-- Check a property of a new row against the template. -/
def propertyCheck (template : Dict F) (property : Str × Value F) : Check :=
  match Dict.get template property.1 with
  | none =>
      .ok (.invalid ("Field '".toList ++ property.1 ++
        "' not in template for this database".toList))
  | some schema =>
      NotionWriteValidator.validateFieldValue runtime property.1 property.2 schema

omit [FloatOps F] in
/-- The check of access. -/
def accessCheck : Operation F → Check
  | .writePage pageId _ => service.validator.validatePageId (normalizeId pageId)
  | .createRow databaseId _ => service.validator.validateDatabaseId (normalizeId databaseId)
  | .updateRow databaseId _ _ => service.validator.validateDatabaseId (normalizeId databaseId)

/-- The checks after the check of access. -/
def laterChecks : Operation F → Check
  | .writePage pageId updates =>
      (service.validator.validateFields (normalizeId pageId) (Dict.keys updates)).andAlso
        (Check.each
          (pageCheck runtime (NotionWriteService.configured service.validator.editableFields
            (normalizeId pageId)))
          updates)
  | .createRow databaseId properties =>
      service.validator.validateRowCreate runtime (normalizeId databaseId) properties
  | .updateRow databaseId rowId updates =>
      service.validator.validateRowUpdate runtime (normalizeId databaseId) rowId updates

/-- What the checks of an operation say. -/
def verdict (operation : Operation F) : Check :=
  (accessCheck service operation).andAlso (laterChecks runtime service operation)

omit [FloatOps F] in
/-- The target of an operation without white space and dashes, and the allowlist it is
looked up in. -/
def target : Operation F → Str × List Str
  | .writePage pageId _ => (normalizeId pageId, service.validator.allowedPages)
  | .createRow databaseId _ => (normalizeId databaseId, service.validator.allowedDatabases)
  | .updateRow databaseId _ _ => (normalizeId databaseId, service.validator.allowedDatabases)

omit [FloatOps F] in
/-- The target is named and not in its allowlist. -/
def Unlisted (operation : Operation F) : Prop :=
  (target service operation).1 ≠ [] ∧
    (target service operation).1 ∉ (target service operation).2

/-- A refusal is one of access exactly when the target is not in its allowlist, and one of
validation exactly when another check fails. -/
def ClassifiedByCause (operation : Operation F) : Prop :=
  ((∃ message, (NotionWriteService.perform runtime service operation).result =
      .error (.blocked message)) ↔ Unlisted service operation) ∧
    ((∃ message, (NotionWriteService.perform runtime service operation).result =
        .error (.validation message)) ↔
      ¬Unlisted service operation ∧
        ∃ message, verdict runtime service operation = .ok (.invalid message))

/-! ## What is quoted -/

/-- The first item that a check refuses. -/
def FirstRefused {α : Type} (check : α → Check) (items : List α) (item : α) : Prop :=
  ∃ before after message, items = before ++ item :: after ∧
    (∀ earlier ∈ before, check earlier = .ok .valid) ∧ check item = .ok (.invalid message)

/-- The first item that is refused is one of the items. -/
theorem FirstRefused.mem
    {α : Type}
    {check : α → Check}
    {items : List α}
    {item : α}
    (isFirst : FirstRefused check items item) : item ∈ items := by
  obtain ⟨before, after, message, rfl, -⟩ := isFirst
  exact List.mem_append_right _ List.mem_cons_self

/-- A field that cannot be edited is quoted, and else the first update that is refused, with
its value. -/
def UpdatesUnmarked
    (fields : Dict F)
    (check : Str × Value F → Check)
    (updates : Dict F) : Prop :=
  (∀ name ∈ Dict.keys updates, name ∉ Dict.keys fields → mentions name = false) ∧
    ((∀ name ∈ Dict.keys updates, name ∈ Dict.keys fields) →
      ∀ update, FirstRefused check updates update →
        mentions update.1 = false ∧ mentions (update.2.asText runtime.shown) = false)

/-- A required field that is missing is quoted, and else the first property that is refused,
with its value where the template has it. -/
def PropertiesUnmarked (template properties : Dict F) : Prop :=
  ∀ missing, NotionWriteValidator.missingFields properties template = .ok missing →
    (∀ name ∈ missing, mentions name = false) ∧
      (missing = [] →
        ∀ property, FirstRefused (propertyCheck runtime template) properties property →
          mentions property.1 = false ∧
            (property.1 ∈ Dict.keys template →
              mentions (property.2.asText runtime.shown) = false))

/-- No text that is quoted by the check that refuses, after the check of access, holds the
word: the target where nothing is configured for it, the fields that cannot be edited or
are missing, and the name and the value of the first update that is refused. -/
def Unmarked : Operation F → Prop
  | .writePage pageId updates =>
      match service.validator.editableFields.lookup (normalizeId pageId) with
      | none => mentions (normalizeId pageId) = false
      | some fields => UpdatesUnmarked runtime fields (pageCheck runtime fields) updates
  | .createRow databaseId properties =>
      match service.validator.databaseTemplates.lookup (normalizeId databaseId) with
      | none => mentions (normalizeId databaseId) = false
      | some template => PropertiesUnmarked runtime template properties
  | .updateRow databaseId _ updates =>
      match service.validator.editableFields.lookup
          (NotionWriteValidator.rowResourceId (normalizeId databaseId)) with
      | none => mentions (normalizeId databaseId) = false
      | some fields => UpdatesUnmarked runtime fields (rowCheck runtime fields) updates

/-- The target is in its allowlist. -/
def Listed (operation : Operation F) : Prop :=
  (target service operation).1 ≠ [] ∧
    (target service operation).1 ∈ (target service operation).2

end Causes

/-! ## The word -/

/-- Texts that are put together are put in lower case one by one. -/
private theorem lower_append (left right : Str) :
    Text.lower (left ++ right) = Text.lower left ++ Text.lower right := List.flatMap_append

/-- A mark that is not in the word separates what holds it. -/
theorem mentions_append
    {mark : Char}
    (isMark : mark ∈ ['\'', ':', ',', ' '])
    (left right : Str) :
    mentions (left ++ mark :: right) = (mentions left || mentions right) := by
  have table : ∀ mark ∈ ['\'', ':', ',', ' '],
      Text.lower [mark] = [mark] ∧ mark ∉ "allowlist".toList := by decide
  obtain ⟨kept, absent⟩ := table mark isMark
  unfold mentions
  rw [← List.singleton_append, lower_append, lower_append, kept, List.singleton_append,
    Text.contains_append_separator (by decide) absent]

/-- A text between quotation marks is what a message around it holds the word through. -/
theorem mentions_quoted
    (front back : Str)
    (frontPlain : mentions front = false)
    (backPlain : mentions back = false)
    (quoted : Str) :
    mentions (front ++ '\'' :: (quoted ++ '\'' :: back)) = mentions quoted := by
  rw [mentions_append (by decide), mentions_append (by decide), frontPlain, backPlain,
    Bool.false_or, Bool.or_false]

/-- Joined names hold the word when one of them does. -/
theorem mentions_join (names : List Str) :
    mentions (Text.join ", ".toList names) = names.any mentions := by
  induction names with
  | nil => decide
  | cons name rest inductionHypothesis =>
      by_cases last : rest = []
      · subst last
        rw [Text.join_singleton, List.any_cons, List.any_nil, Bool.or_false]
      · have split : Text.join ", ".toList (name :: rest) =
            name ++ ',' :: ([] ++ ' ' :: Text.join ", ".toList rest) := by
          rw [Text.join_cons_of_ne_nil _ _ last, List.append_assoc]
          rfl
        have empty : mentions [] = false := by decide
        rw [split, mentions_append (by decide), mentions_append (by decide), empty,
          Bool.false_or, inductionHypothesis, List.any_cons]

/-- Names after a plain text hold the word when one of them does. -/
theorem mentions_listed
    (front : Str)
    (frontPlain : mentions front = false)
    (names : List Str) :
    mentions ((front ++ [' ']) ++ Text.join ", ".toList names) = false ↔
      ∀ name ∈ names, mentions name = false := by
  rw [List.append_assoc, List.singleton_append, mentions_append (by decide), frontPlain,
    Bool.false_or, mentions_join, List.any_eq_false]
  simp only [Bool.not_eq_true]

/-- A message that quotes a name and a value holds the word through one of them. -/
private theorem mentions_both
    {front middle back : Str}
    (frontPlain : mentions front = false)
    (middlePlain : mentions middle = false)
    (backPlain : mentions back = false)
    (first second : Str) :
    mentions (front ++ '\'' :: (first ++ '\'' :: (middle ++ '\'' ::
      (second ++ '\'' :: back)))) = (mentions first || mentions second) := by
  rw [mentions_append (by decide), mentions_append (by decide),
    mentions_quoted _ _ middlePlain backPlain, frontPlain, Bool.false_or]

/-- A check against options refuses with its own message. -/
private theorem eq_of_validateOption_eq_invalid
    {options : Option (Value F)}
    {value : Value F}
    {error message : Str}
    (refused : NotionWriteValidator.validateOption options value error =
      .ok (.invalid message)) : message = error := by
  unfold NotionWriteValidator.validateOption at refused
  cases options with
  | none => cases refused
  | some given =>
      dsimp only at refused
      split at refused
      · cases isIn : value.isIn given with
        | error fault =>
            rw [isIn] at refused
            cases refused
        | ok allowed =>
            rw [isIn] at refused
            cases allowed with
            | true => cases refused
            | false =>
                cases refused
                rfl
      · cases refused

/-- The refusal of a value quotes the name of its field and the value. -/
theorem mentions_of_validateFieldValue
    {runtime : Runtime F}
    {fieldName message : Str}
    {value fieldConfig : Value F}
    (refused : NotionWriteValidator.validateFieldValue runtime fieldName value fieldConfig =
      .ok (.invalid message)) :
    mentions message = (mentions fieldName || mentions (value.asText runtime.shown)) := by
  unfold NotionWriteValidator.validateFieldValue at refused
  extract_lets config shown forField at refused
  clear_value config
  have valueFirst : ∀ front middle : Str, mentions front = false → mentions middle = false →
      mentions (front ++ '\'' :: (value.asText runtime.shown ++ '\'' :: (middle ++ '\'' ::
        (fieldName ++ '\'' :: [])))) =
          (mentions fieldName || mentions (value.asText runtime.shown)) := by
    intro front middle frontPlain middlePlain
    rw [mentions_both frontPlain middlePlain (by decide), Bool.or_comm]
  have nameFirst : ∀ front : Str, mentions front = false →
      mentions (front ++ '\'' :: (fieldName ++ '\'' :: (":".toList ++
        ' ' :: value.asText runtime.shown))) =
          (mentions fieldName || mentions (value.asText runtime.shown)) := by
    intro front frontPlain
    have colon : mentions ":".toList = false := by decide
    rw [mentions_append (by decide), mentions_append (by decide), mentions_append (by decide),
      frontPlain, colon, Bool.false_or, Bool.false_or]
  cases isType : config.getAttribute "type".toList with
  | error fault =>
      rw [isType] at refused
      cases refused
  | ok fieldType =>
      rw [isType] at refused
      dsimp only [bind, Except.bind] at refused
      split at refused
      · rename_i kind _
        have optioned : ∀ (key : Str) (error : Str),
            ((config.getAttribute key).bind fun options =>
              NotionWriteValidator.validateOption options value error) =
                .ok (.invalid message) → message = error := by
          intro key error isRefused
          cases held : config.getAttribute key with
          | error fault =>
              rw [held] at isRefused
              cases isRefused
          | ok options =>
              rw [held] at isRefused
              exact eq_of_validateOption_eq_invalid isRefused
        split at refused
        · rw [optioned _ _ refused]
          simpa [shown, forField] using valueFirst "Invalid value ".toList " for field ".toList
            (by decide) (by decide)
        · split at refused
          · split at refused
            · cases refused
            · cases refused
              simpa [shown] using nameFirst "Invalid date format for field ".toList (by decide)
          · split at refused
            · split at refused
              · cases refused
              · cases refused
                simpa [shown] using nameFirst "Invalid number for field ".toList (by decide)
            · split at refused
              · rw [optioned _ _ refused]
                simpa [shown, forField] using valueFirst "Invalid enum value ".toList
                  " for field ".toList (by decide) (by decide)
              · split at refused
                · rw [optioned _ _ refused]
                  simpa [shown, forField] using valueFirst "Invalid value ".toList
                    " for status field ".toList (by decide) (by decide)
                · cases refused
      · cases refused

/-! ## The checks of an operation -/

/-- Checks one after the other raise what the first of them raises. -/
private theorem validateOrRaise_andAlso (first next : Check) :
    validateOrRaise (first.andAlso next) =
      (validateOrRaise first).bind fun _ => validateOrRaise next := by
  match first with
  | .error fault => rfl
  | .ok .valid => rfl
  | .ok (.invalid message) =>
      show validateOrRaise (.ok (.invalid message)) = _
      unfold validateOrRaise
      dsimp only
      split <;> rfl

/-- A refusal is told by the word in its message. -/
private theorem validateOrRaise_eq_blocked_iff {check : Check} {message : Str} :
    validateOrRaise check = .error (.blocked message) ↔
      check = .ok (.invalid message) ∧ mentions message = true := by
  match check with
  | .error fault => exact iff_of_false nofun fun held => nomatch held.1
  | .ok .valid => exact iff_of_false nofun fun held => nomatch held.1
  | .ok (.invalid other) =>
      rw [validateOrRaise]
      split
      · rename_i holds
        constructor
        · rintro ⟨⟩
          exact ⟨rfl, holds⟩
        · rintro ⟨⟨⟩, -⟩
          rfl
      · rename_i plain
        refine iff_of_false nofun ?_
        rintro ⟨⟨⟩, holds⟩
        exact plain holds

/-- A refusal without the word is one of validation. -/
private theorem validateOrRaise_eq_validation_iff {check : Check} {message : Str} :
    validateOrRaise check = .error (.validation message) ↔
      check = .ok (.invalid message) ∧ mentions message = false := by
  match check with
  | .error fault => exact iff_of_false nofun fun held => nomatch held.1
  | .ok .valid => exact iff_of_false nofun fun held => nomatch held.1
  | .ok (.invalid other) =>
      rw [validateOrRaise]
      split
      · rename_i holds
        refine iff_of_false nofun ?_
        rintro ⟨⟨⟩, plain⟩
        exact Bool.noConfusion (holds.symm.trans plain)
      · rename_i plain
        constructor
        · rintro ⟨⟩
          exact ⟨rfl, Bool.eq_false_iff.mpr plain⟩
        · rintro ⟨⟨⟩, -⟩
          rfl

section Operations

variable {runtime : Runtime F} {service : NotionWriteService F}

/-- The values of a page update are checked one after the other. -/
private theorem checkPageValues_eq (pageId : Str) (updates : Dict F) :
    NotionWriteService.checkPageValues runtime service pageId updates =
      validateOrRaise (Check.each
        (pageCheck runtime (NotionWriteService.configured service.validator.editableFields
          pageId)) updates) := by
  induction updates with
  | nil => rfl
  | cons update rest inductionHypothesis =>
      obtain ⟨fieldName, value⟩ := update
      rw [NotionWriteService.checkPageValues, Check.each, validateOrRaise_andAlso,
        ← inductionHypothesis]
      unfold pageCheck
      dsimp only
      cases NotionWriteService.fieldSchema (NotionWriteService.configured
          service.validator.editableFields pageId) fieldName with
      | error fault => rfl
      | ok schema => rfl

/-- Where writes are enabled, the checks of an operation raise what its verdict says. -/
theorem checks_eq_validateOrRaise
    (enabled : service.enabled = true)
    (operation : Operation F) :
    NotionWriteService.checks runtime service operation =
      validateOrRaise (verdict runtime service operation) := by
  have allowed : NotionWriteService.ensureEnabled service = .ok () := by
    rw [NotionWriteService.ensureEnabled, enabled]
    rfl
  unfold verdict
  rw [validateOrRaise_andAlso]
  cases operation with
  | writePage pageId updates =>
      rw [laterChecks, validateOrRaise_andAlso, ← checkPageValues_eq, NotionWriteService.checks,
        allowed]
      rfl
  | createRow databaseId properties =>
      rw [NotionWriteService.checks, allowed]
      rfl
  | updateRow databaseId rowId updates =>
      rw [NotionWriteService.checks, allowed]
      rfl

/-- An operation whose checks pass does not end in a refusal. -/
private theorem execute_result_ne
    {operation targetType targetId fallbackId : Str}
    {reported : Str → Option Str}
    {properties : Except ValueFault (Dict F)}
    {call : Dict F → ClientCall F}
    {raised : NotionWriteError}
    (notExecution : ∀ cause, raised ≠ .execution cause) :
    (NotionWriteService.execute runtime service operation targetType targetId fallbackId reported
      properties call).result ≠ .error raised := by
  unfold NotionWriteService.execute
  split
  · exact fun same => notExecution _ (Except.error.inj same).symm
  · dsimp only
    split
    · exact fun same => notExecution _ (Except.error.inj same).symm
    · exact nofun

/-- An operation ends in a refusal exactly when its checks do. -/
theorem result_eq_error_iff
    {raised : NotionWriteError}
    (notExecution : ∀ cause, raised ≠ .execution cause)
    (operation : Operation F) :
    (NotionWriteService.perform runtime service operation).result = .error raised ↔
      NotionWriteService.checks runtime service operation = .error raised := by
  cases operation with
  | writePage pageId updates =>
      rw [NotionWriteService.perform, NotionWriteService.writePage]
      split
      · rename_i failed
        rw [failed]
        exact ⟨fun same => congrArg Except.error (Except.error.inj same),
          fun same => congrArg Except.error (Except.error.inj same)⟩
      · rename_i passed
        rw [passed]
        split
        · exact iff_of_false nofun nofun
        · exact iff_of_false (execute_result_ne notExecution) nofun
  | createRow databaseId properties =>
      rw [NotionWriteService.perform, NotionWriteService.createRow]
      split
      · rename_i failed
        rw [failed]
        exact ⟨fun same => congrArg Except.error (Except.error.inj same),
          fun same => congrArg Except.error (Except.error.inj same)⟩
      · rename_i passed
        rw [passed]
        exact iff_of_false (execute_result_ne notExecution) nofun
  | updateRow databaseId rowId updates =>
      rw [NotionWriteService.perform, NotionWriteService.updateRow]
      split
      · rename_i failed
        rw [failed]
        exact ⟨fun same => congrArg Except.error (Except.error.inj same),
          fun same => congrArg Except.error (Except.error.inj same)⟩
      · rename_i passed
        rw [passed]
        split
        · exact iff_of_false nofun nofun
        · exact iff_of_false (execute_result_ne notExecution) nofun

end Operations

/-! ## What decides the class -/

/-- The message of a refusal is free of the word exactly under a condition, which holds
where nothing is refused. -/
def Decides (check : Check) (condition : Prop) : Prop :=
  (∀ message, check = .ok (.invalid message) → (mentions message = false ↔ condition)) ∧
    ((∀ message, check ≠ .ok (.invalid message)) → condition)

/-- Items are refused with the message of the first that is. -/
private theorem each_eq_of_firstRefused
    {α : Type}
    {check : α → Check}
    {before after : List α}
    {item : α}
    {message : Str}
    (valid : ∀ earlier ∈ before, check earlier = .ok .valid)
    (refused : check item = .ok (.invalid message)) :
    Check.each check (before ++ item :: after) = .ok (.invalid message) := by
  induction before with
  | nil =>
      rw [List.nil_append, Check.each, refused]
      rfl
  | cons first before inductionHypothesis =>
      rw [List.cons_append, Check.each, valid first List.mem_cons_self]
      exact inductionHypothesis fun earlier held => valid earlier (List.mem_cons_of_mem _ held)

/-- Items that are refused have a first one that is. -/
private theorem exists_firstRefused
    {α : Type}
    {check : α → Check}
    {items : List α}
    {message : Str}
    (refused : Check.each check items = .ok (.invalid message)) :
    ∃ item, FirstRefused check items item ∧ check item = .ok (.invalid message) := by
  induction items with
  | nil => cases refused
  | cons first rest inductionHypothesis =>
      rw [Check.each] at refused
      match isFirst : check first with
      | .error fault =>
          rw [isFirst] at refused
          cases refused
      | .ok (.invalid other) =>
          rw [isFirst] at refused
          cases refused
          exact ⟨first, ⟨[], rest, message, rfl, fun _ held => absurd held List.not_mem_nil,
            isFirst⟩, isFirst⟩
      | .ok .valid =>
          rw [isFirst] at refused
          obtain ⟨item, ⟨before, after, told, same, valid, isTold⟩, isItem⟩ :=
            inductionHypothesis refused
          refine ⟨item, ⟨first :: before, after, told, by rw [same]; rfl, ?_, isTold⟩, isItem⟩
          intro earlier held
          rcases List.mem_cons.mp held with rfl | inBefore
          · exact isFirst
          · exact valid earlier inBefore

/-- Checks of items that quote are decided by what the first that is refused quotes. -/
theorem decides_each
    {α : Type}
    (check : α → Check)
    {quoted : α → Bool}
    (quotes : ∀ item message, check item = .ok (.invalid message) →
      mentions message = quoted item)
    (items : List α) :
    Decides (Check.each check items)
      (∀ item, FirstRefused check items item → quoted item = false) := by
  constructor
  · intro message refused
    constructor
    · rintro plain item ⟨before, after, told, rfl, valid, isTold⟩
      rw [each_eq_of_firstRefused valid isTold] at refused
      cases refused
      rw [← quotes item message isTold]
      exact plain
    · intro plain
      obtain ⟨item, isFirst, isTold⟩ := exists_firstRefused refused
      rw [quotes item message isTold]
      exact plain item isFirst
  · rintro accepted item ⟨before, after, told, rfl, valid, isTold⟩
    exact absurd (each_eq_of_firstRefused valid isTold) (accepted told)

/-- A refusal that quotes one text is decided by it. -/
theorem decides_invalid
    {message : Str}
    {condition : Prop}
    (quotes : mentions message = false ↔ condition) :
    Decides (.ok (.invalid message)) condition := by
  refine ⟨?_, fun accepted => absurd rfl (accepted message)⟩
  rintro other ⟨⟩
  exact quotes

section Operations

variable {runtime : Runtime F} {service : NotionWriteService F}

/-- A check after one that accepts decides. -/
private theorem decides_andAlso
    {next : Check}
    {condition : Prop}
    (decides : Decides next condition) : Decides (Check.andAlso (.ok .valid) next) condition :=
  decides

/-- The checks of updates are decided by the fields that cannot be edited, and else by the
first update that is refused. -/
private theorem decides_updates
    {resourceId : Str}
    {fields : Dict F}
    (check : Str × Value F → Check)
    (configured : service.validator.editableFields.lookup resourceId = some fields)
    (quotes : ∀ update message, check update = .ok (.invalid message) →
      mentions message = (mentions update.1 || mentions (update.2.asText runtime.shown)))
    (updates : Dict F) :
    Decides ((service.validator.validateFields resourceId (Dict.keys updates)).andAlso
        (Check.each check updates)) (UpdatesUnmarked runtime fields check updates) := by
  unfold NotionWriteValidator.validateFields
  rw [configured]
  dsimp only
  cases isRest : (Dict.keys updates).filter (· ∉ Dict.keys fields) with
  | nil =>
      have editable : ∀ name ∈ Dict.keys updates, name ∈ Dict.keys fields := by
        intro name held
        by_contra other
        have inRest : name ∈ (Dict.keys updates).filter (· ∉ Dict.keys fields) :=
          List.mem_filter.mpr ⟨held, decide_eq_true other⟩
        rw [isRest] at inRest
        exact absurd inRest List.not_mem_nil
      have rest := decides_each check quotes updates
      have same : UpdatesUnmarked runtime fields check updates ↔
          ∀ update, FirstRefused check updates update →
            (mentions update.1 || mentions (update.2.asText runtime.shown)) = false := by
        unfold UpdatesUnmarked
        simp only [Bool.or_eq_false_iff]
        exact ⟨fun unmarked => unmarked.2 editable,
          fun unmarked => ⟨fun name held other => absurd (editable name held) other,
            fun _ => unmarked⟩⟩
      exact decides_andAlso ⟨fun message refused => (rest.1 message refused).trans same.symm,
        fun accepted => same.mpr (rest.2 accepted)⟩
  | cons first others =>
      have isFirst : first ∈ (Dict.keys updates).filter (· ∉ Dict.keys fields) := by
        rw [isRest]
        exact List.mem_cons_self
      obtain ⟨held, other⟩ := List.mem_filter.mp isFirst
      have plain := mentions_listed "Fields not editable:".toList (by decide)
        (first :: others)
      have spaced : "Fields not editable: ".toList = "Fields not editable:".toList ++ [' '] := by
        decide
      rw [← spaced] at plain
      refine decides_invalid (plain.trans ?_)
      rw [← isRest]
      constructor
      · intro unmarked
        refine ⟨fun name isName notEditable => unmarked name
          (List.mem_filter.mpr ⟨isName, decide_eq_true notEditable⟩), fun editable => ?_⟩
        exact absurd (editable first held) (of_decide_eq_true other)
      · intro unmarked name isName
        obtain ⟨inUpdates, notEditable⟩ := List.mem_filter.mp isName
        exact unmarked.1 name inUpdates (of_decide_eq_true notEditable)

/-- A message that quotes the target alone is decided by it. -/
private theorem decides_quoted
    (front back : Str)
    (frontPlain : mentions front = false)
    (backPlain : mentions back = false)
    {quoted message : Str}
    (same : message = front ++ '\'' :: (quoted ++ '\'' :: back)) :
    Decides (.ok (.invalid message)) (mentions quoted = false) := by
  refine decides_invalid ?_
  rw [same, mentions_quoted _ _ frontPlain backPlain]

/-- The checks of a page update after the check of access. -/
private theorem decides_writePage (pageId : Str) (updates : Dict F) :
    Decides (laterChecks runtime service (.writePage pageId updates))
      (Unmarked runtime service (.writePage pageId updates)) := by
  rw [laterChecks, Unmarked]
  cases configured : service.validator.editableFields.lookup (normalizeId pageId) with
  | none =>
      have refused : service.validator.validateFields (normalizeId pageId) (Dict.keys updates) =
          .ok (.invalid ("No editable fields defined for resource '".toList ++
            normalizeId pageId ++ "'".toList)) := by
        unfold NotionWriteValidator.validateFields
        rw [configured]
      rw [refused]
      exact decides_quoted "No editable fields defined for resource ".toList []
        (by decide) (by decide) (by simp)
  | some fields =>
      have same : NotionWriteService.configured service.validator.editableFields
          (normalizeId pageId) = fields := by
        rw [NotionWriteService.configured, configured]
        rfl
      rw [same]
      refine decides_updates (pageCheck runtime fields) configured
        (fun update message refused => ?_) updates
      unfold pageCheck at refused
      split at refused
      · cases refused
      · exact mentions_of_validateFieldValue refused

/-- The checks of a row update after the check of access. -/
private theorem decides_updateRow
    {databaseId : Str}
    (accepted : service.validator.validateDatabaseId (normalizeId databaseId) = .ok .valid)
    (rowId : Str)
    (updates : Dict F) :
    Decides (laterChecks runtime service (.updateRow databaseId rowId updates))
      (Unmarked runtime service (.updateRow databaseId rowId updates)) := by
  rw [laterChecks, Unmarked, NotionWriteValidator.validateRowUpdate, accepted]
  refine decides_andAlso ?_
  cases configured : service.validator.editableFields.lookup
      (NotionWriteValidator.rowResourceId (normalizeId databaseId)) with
  | none =>
      exact decides_quoted "Rows in database ".toList " are not editable".toList
        (by decide) (by decide) (by simp)
  | some fields =>
      exact decides_updates (rowCheck runtime fields) configured
        (fun update message refused => mentions_of_validateFieldValue refused) updates

/-- The refusal of a property quotes its name, and its value where the template has it. -/
private theorem mentions_of_propertyCheck
    {template : Dict F}
    {property : Str × Value F}
    {message : Str}
    (refused : propertyCheck runtime template property = .ok (.invalid message)) :
    mentions message = (mentions property.1 || (decide (property.1 ∈ Dict.keys template) &&
      mentions (property.2.asText runtime.shown))) := by
  unfold propertyCheck at refused
  split at refused
  · rename_i absent
    cases refused
    have notKey : property.1 ∉ Dict.keys template := by
      intro isKey
      obtain ⟨entry, isEntry, same⟩ := List.mem_map.mp isKey
      have notFound := List.find?_eq_none.mp (Option.map_eq_none_iff.mp absent) entry isEntry
      exact notFound (decide_eq_true same)
    rw [decide_eq_false notKey, Bool.false_and, Bool.or_false]
    have quoted := mentions_quoted "Field ".toList
      " not in template for this database".toList (by decide) (by decide) property.1
    rw [← quoted]
    simp
  · rename_i schema found
    have isKey : property.1 ∈ Dict.keys template := by
      obtain ⟨entry, isEntry, -⟩ := Option.map_eq_some_iff.mp found
      have same := List.find?_some isEntry
      rw [← of_decide_eq_true same]
      exact List.mem_map_of_mem (List.mem_of_find?_eq_some isEntry)
    rw [mentions_of_validateFieldValue refused, decide_eq_true isKey, Bool.true_and]

/-- The checks of a new row after the check of access. -/
private theorem decides_createRow
    {databaseId : Str}
    (accepted : service.validator.validateDatabaseId (normalizeId databaseId) = .ok .valid)
    (properties : Dict F) :
    Decides (laterChecks runtime service (.createRow databaseId properties))
      (Unmarked runtime service (.createRow databaseId properties)) := by
  rw [laterChecks, Unmarked, NotionWriteValidator.validateRowCreate, accepted]
  refine decides_andAlso ?_
  cases configured : service.validator.databaseTemplates.lookup (normalizeId databaseId) with
  | none =>
      exact decides_quoted "No template defined for database ".toList [] (by decide)
        (by decide) (by simp)
  | some template =>
      dsimp only
      unfold PropertiesUnmarked
      cases isMissing : NotionWriteValidator.missingFields properties template with
      | error fault => exact ⟨nofun, fun _ _ found => nomatch found⟩
      | ok missing =>
          cases missing with
          | nil =>
              have rest := decides_each (propertyCheck runtime template)
                (fun property message => mentions_of_propertyCheck) properties
              have same : (∀ missing : List Str,
                  (.ok [] : Except ValueFault (List Str)) = .ok missing →
                    (∀ name ∈ missing, mentions name = false) ∧ (missing = [] →
                      ∀ property,
                        FirstRefused (propertyCheck runtime template) properties property →
                          mentions property.1 = false ∧ (property.1 ∈ Dict.keys template →
                            mentions (property.2.asText runtime.shown) = false))) ↔
                  ∀ property, FirstRefused (propertyCheck runtime template) properties property →
                    (mentions property.1 || (decide (property.1 ∈ Dict.keys template) &&
                      mentions (property.2.asText runtime.shown))) = false := by
                simp only [Bool.or_eq_false_iff, Bool.and_eq_false_imp, decide_eq_true_eq]
                constructor
                · intro unmarked
                  exact (unmarked [] rfl).2 rfl
                · rintro unmarked missing ⟨⟩
                  exact ⟨fun name held => absurd held List.not_mem_nil, fun _ => unmarked⟩
              exact ⟨fun message refused => (rest.1 message refused).trans same.symm,
                fun accepted => same.mpr (rest.2 accepted)⟩
          | cons first others =>
              have plain := mentions_listed "Required fields missing:".toList (by decide)
                (first :: others)
              have spaced : "Required fields missing: ".toList =
                  "Required fields missing:".toList ++ [' '] := by
                decide
              rw [← spaced] at plain
              refine decides_invalid (plain.trans ?_)
              constructor
              · rintro unmarked missing ⟨⟩
                exact ⟨unmarked, fun none => absurd none (List.cons_ne_nil _ _)⟩
              · intro unmarked
                exact (unmarked (first :: others) rfl).1

omit [FloatOps F] in
/-- The check of access of a listed operation accepts. -/
private theorem accessCheck_of_listed
    {operation : Operation F}
    (listed : Listed service operation) : accessCheck service operation = .ok .valid := by
  obtain ⟨named, allowed⟩ := listed
  cases operation with
  | writePage pageId updates => exact (if_neg named).trans (if_pos allowed)
  | createRow databaseId properties => exact (if_neg named).trans (if_pos allowed)
  | updateRow databaseId rowId updates => exact (if_neg named).trans (if_pos allowed)

/-- The checks of a listed operation are decided by what they quote. -/
theorem decides_laterChecks
    {operation : Operation F}
    (listed : Listed service operation) :
    Decides (laterChecks runtime service operation) (Unmarked runtime service operation) := by
  have accepted := accessCheck_of_listed listed
  cases operation with
  | writePage pageId updates => exact decides_writePage pageId updates
  | createRow databaseId properties => exact decides_createRow accepted properties
  | updateRow databaseId rowId updates => exact decides_updateRow accepted rowId updates

omit [FloatOps F] in
/-- The check of access refuses an operation that is not listed, with the word exactly where
its target is named. -/
private theorem accessCheck_of_not_listed
    {operation : Operation F}
    (notListed : ¬Listed service operation) :
    ∃ message, accessCheck service operation = .ok (.invalid message) ∧
      (mentions message = true ↔ Unlisted service operation) := by
  have refusal : ∀ (id : Str) (allowlist : List Str) (empty outside : Str),
      mentions empty = false → mentions outside = true → ¬(id ≠ [] ∧ id ∈ allowlist) →
        ∃ message, (if id = [] then .ok (.invalid empty)
            else if id ∈ allowlist then .ok .valid else .ok (.invalid outside) : Check) =
              .ok (.invalid message) ∧
          (mentions message = true ↔ id ≠ [] ∧ id ∉ allowlist) := by
    intro id allowlist empty outside plain word notAllowed
    by_cases named : id = []
    · refine ⟨empty, if_pos named, ?_⟩
      rw [plain]
      exact iff_of_false Bool.false_ne_true fun held => held.1 named
    · have absent : id ∉ allowlist := fun held => notAllowed ⟨named, held⟩
      exact ⟨outside, (if_neg named).trans (if_neg absent), iff_of_true word ⟨named, absent⟩⟩
  have word : ∀ front id : Str,
      mentions (front ++ '\'' :: (id ++ '\'' :: " not in allowlist".toList)) = true := by
    intro front id
    have last : mentions " not in allowlist".toList = true := by decide
    rw [mentions_append (by decide), mentions_append (by decide), last, Bool.or_true,
      Bool.or_true]
  have page : ∀ id : Str, mentions ("Page '".toList ++ id ++ "' not in allowlist".toList) =
      true := by
    intro id
    simpa using word "Page ".toList id
  have database : ∀ id : Str,
      mentions ("Database '".toList ++ id ++ "' not in allowlist".toList) = true := by
    intro id
    simpa using word "Database ".toList id
  cases operation with
  | writePage pageId updates =>
      exact refusal (normalizeId pageId) service.validator.allowedPages _ _ (by decide)
        (page (normalizeId pageId)) notListed
  | createRow databaseId properties =>
      exact refusal (normalizeId databaseId) service.validator.allowedDatabases _ _ (by decide)
        (database (normalizeId databaseId)) notListed
  | updateRow databaseId rowId updates =>
      exact refusal (normalizeId databaseId) service.validator.allowedDatabases _ _ (by decide)
        (database (normalizeId databaseId)) notListed

/-- Where writes are enabled, a refusal is classified by its cause if and only if, for a
listed target, no text that is quoted holds the word. -/
theorem classifiedByCause_iff
    (enabled : service.enabled = true)
    (operation : Operation F) :
    ClassifiedByCause runtime service operation ↔
      (Listed service operation → Unmarked runtime service operation) := by
  have blocked : ∀ message, (NotionWriteService.perform runtime service operation).result =
      .error (.blocked message) ↔
        verdict runtime service operation = .ok (.invalid message) ∧ mentions message = true := by
    intro message
    rw [result_eq_error_iff (by nofun), checks_eq_validateOrRaise enabled,
      validateOrRaise_eq_blocked_iff]
  have validation : ∀ message, (NotionWriteService.perform runtime service operation).result =
      .error (.validation message) ↔
        verdict runtime service operation = .ok (.invalid message) ∧
          mentions message = false := by
    intro message
    rw [result_eq_error_iff (by nofun), checks_eq_validateOrRaise enabled,
      validateOrRaise_eq_validation_iff]
  unfold ClassifiedByCause
  simp only [blocked, validation]
  by_cases listed : Listed service operation
  · have notUnlisted : ¬Unlisted service operation := fun held => held.2 listed.2
    have said : verdict runtime service operation = laterChecks runtime service operation := by
      rw [verdict, accessCheck_of_listed listed]
      rfl
    have decides : Decides (laterChecks runtime service operation)
        (Unmarked runtime service operation) := decides_laterChecks listed
    obtain ⟨refusing, accepting⟩ := decides
    rw [said]
    simp only [listed, notUnlisted, forall_const, iff_false, not_false_eq_true, true_and]
    by_cases refused : ∃ message, laterChecks runtime service operation =
        .ok (.invalid message)
    · obtain ⟨message, isMessage⟩ := refused
      rw [← refusing message isMessage, isMessage]
      constructor
      · intro classified
        by_contra holds
        exact classified.1 ⟨message, rfl, by simpa using holds⟩
      · intro plain
        refine ⟨?_, iff_of_true ⟨message, rfl, plain⟩ ⟨message, rfl⟩⟩
        rintro ⟨other, ⟨⟩, holds⟩
        exact Bool.noConfusion (plain.symm.trans holds)
    · have none := not_exists.mp refused
      refine iff_of_true ⟨?_, ?_⟩ (accepting none)
      · rintro ⟨message, isMessage, -⟩
        exact none message isMessage
      · exact iff_of_false (fun ⟨message, isMessage, _⟩ => none message isMessage) refused
  · obtain ⟨message, isMessage, word⟩ := accessCheck_of_not_listed listed
    have said : verdict runtime service operation = .ok (.invalid message) := by
      rw [verdict, isMessage]
      rfl
    rw [said]
    refine iff_of_true ⟨?_, ?_⟩ fun held => absurd held listed
    · constructor
      · rintro ⟨other, ⟨⟩, holds⟩
        exact word.mp holds
      · exact fun unlisted => ⟨message, rfl, word.mpr unlisted⟩
    · constructor
      · rintro ⟨other, ⟨⟩, plain⟩
        refine ⟨fun unlisted => ?_, message, rfl⟩
        exact Bool.noConfusion (plain.symm.trans (word.mpr unlisted))
      · rintro ⟨notUnlisted, -⟩
        exact ⟨message, rfl, Bool.eq_false_iff.mpr fun holds => notUnlisted (word.mp holds)⟩

end Operations

/-! ## A value that holds the word -/

/-- A service that allows one page with a number field. -/
def numberService : NotionWriteService Empty where
  enabled := true
  validator :=
    { allowedPages := ["p".toList]
      allowedDatabases := []
      editableFields := [("p".toList,
        [("count".toList, .dict [("type".toList, .str "number".toList)])])]
      databaseTemplates := [] }
  respond := fun _ => .ok []

/-- An update of the number field with a text. -/
def updateCount (text : Str) : Operation Empty :=
  .writePage "p".toList [("count".toList, .str text)]

/-- The refusal of a text without the word is one of validation. -/
theorem classifiedByCause_iff_many :
    ClassifiedByCause ⟨fun _ => [], fun _ => false⟩ numberService
      (updateCount "many".toList) := by
  refine (classifiedByCause_iff rfl _).mpr fun _ => ⟨by decide, ?_⟩
  intro editable update isFirst
  rw [List.mem_singleton.mp isFirst.mem]
  decide

/-- The refusal of a text with the word is one of access, though the page is listed. -/
theorem not_classifiedByCause_allowlist :
    ¬ClassifiedByCause ⟨fun _ => [], fun _ => false⟩ numberService
      (updateCount "allowlist".toList) := by
  intro classified
  have unlisted := classified.1.mp ⟨"Invalid number for field 'count': allowlist".toList, rfl⟩
  exact absurd unlisted.2 (by decide)

end Notion
end ChatPlatform
