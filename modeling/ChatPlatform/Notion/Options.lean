import ChatPlatform.Notion.Service

/-!
# Options that are written

The validator tells field types apart as they are spelled, and the service in lower case.
The names of options that an accepted value is written with are configured exactly under
a condition on the spelling of the type and on the value.
-/

namespace ChatPlatform
namespace Notion

variable {F : Type} [FloatOps F] (runtime : Runtime F)

/-! ## What is configured and what is written -/

/-- The items of the list under a key. -/
def listUnder (config : Dict F) (key : String) : List (Value F) :=
  match Dict.get config key.toList with
  | some (.list items) => items
  | _ => []

/-- The configured options or values of a field. -/
def configuredOptions (config : Dict F) : List (Value F) :=
  listUnder config "options" ++ listUnder config "values"

/-- Their names. -/
def configuredNames (config : Dict F) : List Str :=
  (configuredOptions config).map fun option => option.asText runtime.shown

/-- The type of a field as the serializer reads it. -/
def writtenType (config : Dict F) : Str :=
  Text.lower (((Dict.get config "type".toList).getD (.str "string".toList)).asText
    runtime.shown)

/-- The names of options in a Notion property of type select, status or multi_select. -/
def optionNames (property : Dict F) : List Str :=
  ["select", "status"].filterMap
      (fun kind => (Dict.getDict property kind.toList).bind fun option =>
        Dict.getStr option "name".toList) ++
    (listUnder property "multi_select").filterMap fun
      | .dict option => Dict.getStr option "name".toList
      | _ => none

/-- The names of options that a value is written with. -/
def writtenNames (fieldName : Str) (value : Value F) (config : Dict F) : List Str :=
  (NotionWriteService.serializeValue runtime fieldName value config).flatMap fun
    | (_, .dict property) => optionNames property
    | _ => []

/-- An accepted value is written with configured options only, and it is a number and no
truth value where the field is one. -/
def WrittenAsConfigured (fieldName : Str) (value : Value F) (config : Dict F) : Prop :=
  NotionWriteValidator.validateFieldValue runtime fieldName value (.dict config) =
      .ok .valid →
    (∀ name ∈ writtenNames runtime fieldName value config,
        name ∈ configuredNames runtime config) ∧
      (writtenType runtime config = "number".toList →
        NotionWriteValidator.isNumber value = true ∧ ∀ held, value ≠ .bool held)

/-! ## The condition -/

/-- The type of a field as it is spelled, when it is a text. -/
def spelledType (config : Dict F) : Option Str :=
  match (Dict.get config "type".toList).getD (.str "string".toList) with
  | .str kind => some kind
  | _ => none

/-- The options that the validator looks at: only for types that are spelled in lower case,
and never for `multi_select`. -/
def checkedOptions (config : Dict F) : Option (Value F) :=
  if spelledType config = some "select".toList ∨ spelledType config = some "status".toList then
    Dict.get config "options".toList
  else if spelledType config = some "enum".toList then Dict.get config "values".toList
  else none

/-- The validator looks at options, and the value is not among them. -/
def OutsideOptions (config : Dict F) (value : Value F) : Prop :=
  ∃ options, checkedOptions config = some options ∧ options.truthy = true ∧
    value.isIn options ≠ .ok true

/-- The spelling of the type and the value fit the configured options: a value of one
option names a configured one or is outside of the options that are looked at; every item
of a `multi_select` that is written names a configured one; and a value of a number field
is a number and no truth value, or the type is spelled in lower case and the value is no
number at all. -/
def Fits (config : Dict F) (value : Value F) : Prop :=
  (writtenType runtime config ∈ ["select".toList, "enum".toList, "status".toList] →
      value.asText runtime.shown ∈ configuredNames runtime config ∨
        OutsideOptions config value) ∧
    (writtenType runtime config = "multi_select".toList →
      ∀ item ∈ NotionWriteService.itemsOf value,
        Text.strip (item.asText runtime.shown) ≠ [] →
          item.asText runtime.shown ∈ configuredNames runtime config) ∧
    (writtenType runtime config = "number".toList →
      (NotionWriteValidator.isNumber value = true ∧ ∀ held, value ≠ .bool held) ∨
        (spelledType config = some "number".toList ∧
          NotionWriteValidator.isNumber value = false))

/-! ## What is written -/

/-- The types that are serialized in a way of their own. -/
private def knownTypes : List Str :=
  ["title".toList, "string".toList, "text".toList, "rich_text".toList, "select".toList,
    "enum".toList, "status".toList, "multi_select".toList, "date".toList, "number".toList,
    "bool".toList, "checkbox".toList, "person".toList, "url".toList, "email".toList,
    "phone_number".toList]

omit [FloatOps F] in
/-- The names in the entries of a list property are their texts. -/
private theorem filterMap_entries (texts : List Str) :
    (texts.map fun text => (.dict [("name".toList, .str text)] : Value F)).filterMap (fun
      | .dict option => Dict.getStr option "name".toList
      | _ => none) = texts := by
  rw [List.filterMap_map]
  exact List.filterMap_some

/-- The names that a value is written with. -/
theorem writtenNames_eq (fieldName : Str) (value : Value F) (config : Dict F) :
    writtenNames runtime fieldName value config =
      if writtenType runtime config ∈ ["select".toList, "enum".toList, "status".toList] then
        [value.asText runtime.shown]
      else if writtenType runtime config = "multi_select".toList then
        ((NotionWriteService.itemsOf value).map fun item => item.asText runtime.shown).filter
          fun text => Text.strip text ≠ []
      else [] := by
  unfold writtenNames NotionWriteService.serializeValue
  have isType : Text.lower (((Dict.get config "type".toList).getD
      (.str "string".toList)).asText runtime.shown) = writtenType runtime config := rfl
  rw [isType]
  generalize writtenType runtime config = type
  by_cases known : type ∈ knownTypes
  · simp only [knownTypes, List.mem_cons, List.not_mem_nil, or_false] at known
    rcases known with rfl | rfl | rfl | rfl | rfl | rfl | rfl | rfl | rfl | rfl | rfl | rfl |
      rfl | rfl | rfl | rfl
    case inr.inr.inr.inr.inr.inr.inr.inl => exact (List.append_nil _).trans (filterMap_entries _)
    all_goals rfl
  · simp only [knownTypes, List.mem_cons, List.not_mem_nil, or_false, not_or] at known
    obtain ⟨title, string, text, richText, select, enum, status, multiSelect, date, number, bool,
      checkbox, person, url, email, phoneNumber⟩ := known
    simp only [List.mem_cons, List.not_mem_nil, title, string, text, richText, select,
      enum, status, multiSelect, date, number, bool, checkbox, person, url, email, phoneNumber,
      if_false, or_self]
    rfl

/-! ## What is accepted -/

/-- The types that are validated. -/
private def validatedTypes : List Str :=
  ["select".toList, "date".toList, "number".toList, "enum".toList, "status".toList]

/-- A type that is spelled as a text is written in lower case. -/
private theorem writtenType_of_spelledType
    {config : Dict F}
    {kind : Str}
    (spelled : spelledType config = some kind) : writtenType runtime config = Text.lower kind := by
  unfold spelledType at spelled
  unfold writtenType
  split at spelled
  · rename_i held isText
    cases spelled
    rw [isText]
    rfl
  · cases spelled

/-- A validated type is one whose spelling is the type it is written as. -/
private theorem spelledType_of_validated
    {config : Dict F}
    {kind : Str}
    (spelled : spelledType config = some kind)
    (validated : kind ∈ validatedTypes) : writtenType runtime config = kind := by
  have table : ∀ kind ∈ validatedTypes, Text.lower kind = kind := by decide
  rw [writtenType_of_spelledType runtime spelled, table kind validated]

/-- A value whose type is not validated is accepted. -/
private theorem validateFieldValue_of_not_validated
    (fieldName : Str)
    (value : Value F)
    {config : Dict F}
    (free : ∀ kind, spelledType config = some kind → kind ∉ validatedTypes) :
    NotionWriteValidator.validateFieldValue runtime fieldName value (.dict config) =
      .ok .valid := by
  unfold spelledType at free
  show (match (Dict.get config "type".toList).getD (.str "string".toList) with
    | .str kind => _
    | _ => _) = _
  split
  · rename_i kind isText
    rw [isText] at free
    have notValidated := free kind rfl
    simp only [validatedTypes, List.mem_cons, List.not_mem_nil, or_false, not_or] at notValidated
    obtain ⟨select, date, number, enum, status⟩ := notValidated
    rw [if_neg select, if_neg date, if_neg number, if_neg enum, if_neg status]
  · rfl

/-- A check against options accepts unless the value is outside of them. -/
private theorem validateOption_eq_valid_iff
    (options : Option (Value F))
    (value : Value F)
    (error : Str) :
    NotionWriteValidator.validateOption options value error = .ok .valid ↔
      ¬∃ given, options = some given ∧ given.truthy = true ∧ value.isIn given ≠ .ok true := by
  unfold NotionWriteValidator.validateOption
  cases options with
  | none => exact iff_of_true rfl fun ⟨_, isGiven, _⟩ => nomatch isGiven
  | some given =>
      dsimp only
      by_cases truthy : given.truthy = true
      · rw [if_pos truthy]
        cases isIn : value.isIn given with
        | error fault =>
            refine iff_of_false nofun (not_not_intro ⟨given, rfl, truthy, ?_⟩)
            rw [isIn]
            exact nofun
        | ok allowed =>
            cases allowed with
            | true =>
                refine iff_of_true rfl ?_
                rintro ⟨other, ⟨⟩, -, outside⟩
                exact outside isIn
            | false =>
                refine iff_of_false nofun (not_not_intro ⟨given, rfl, truthy, ?_⟩)
                rw [isIn]
                exact nofun
      · rw [if_neg truthy]
        refine iff_of_true rfl ?_
        rintro ⟨other, ⟨⟩, isTruthy, -⟩
        exact truthy isTruthy

/-- A value of one option is accepted unless it is outside of the options that are looked
at. -/
theorem accepted_iff_of_option
    (fieldName : Str)
    (value : Value F)
    {config : Dict F}
    (isOption : writtenType runtime config ∈
      ["select".toList, "enum".toList, "status".toList]) :
    NotionWriteValidator.validateFieldValue runtime fieldName value (.dict config) =
        .ok .valid ↔ ¬OutsideOptions config value := by
  by_cases free : ∀ kind, spelledType config = some kind → kind ∉ validatedTypes
  · refine iff_of_true (validateFieldValue_of_not_validated runtime fieldName value free) ?_
    rintro ⟨options, isChecked, -⟩
    have apart : ∀ kind ∈ validatedTypes, spelledType config ≠ some kind :=
      fun kind validated spelled => free kind spelled validated
    unfold checkedOptions at isChecked
    rw [if_neg (not_or.mpr ⟨apart _ (by decide), apart _ (by decide)⟩),
      if_neg (apart _ (by decide))] at isChecked
    cases isChecked
  · simp only [not_forall, not_not, exists_prop] at free
    obtain ⟨kind, spelled, validated⟩ := free
    have isKind := spelledType_of_validated runtime spelled validated
    rw [isKind] at isOption
    have isText : (Dict.get config "type".toList).getD (.str "string".toList) = .str kind := by
      unfold spelledType at spelled
      split at spelled
      · rename_i held isHeld
        cases spelled
        exact isHeld
      · cases spelled
    have checked : NotionWriteValidator.validateFieldValue runtime fieldName value
        (.dict config) = .ok .valid ↔
          ¬∃ given, checkedOptions config = some given ∧ given.truthy = true ∧
            value.isIn given ≠ .ok true := by
      unfold checkedOptions
      rw [spelled]
      show (match (Dict.get config "type".toList).getD (.str "string".toList) with
        | .str kind => _
        | _ => _) = _ ↔ _
      rw [isText]
      simp only [List.mem_cons, List.not_mem_nil, or_false] at isOption
      rcases isOption with rfl | rfl | rfl
      · exact validateOption_eq_valid_iff _ _ _
      · exact validateOption_eq_valid_iff _ _ _
      · exact validateOption_eq_valid_iff _ _ _
    exact checked

/-- A value of several options is accepted. -/
theorem accepted_of_multiSelect
    (fieldName : Str)
    (value : Value F)
    {config : Dict F}
    (isMulti : writtenType runtime config = "multi_select".toList) :
    NotionWriteValidator.validateFieldValue runtime fieldName value (.dict config) =
      .ok .valid := by
  refine validateFieldValue_of_not_validated runtime fieldName value ?_
  intro kind spelled validated
  rw [spelledType_of_validated runtime spelled validated] at isMulti
  rw [isMulti] at validated
  exact absurd validated (by decide)

/-- A value of a number field is accepted unless the type is spelled in lower case and the
value is no number. -/
theorem accepted_iff_of_number
    (fieldName : Str)
    (value : Value F)
    {config : Dict F}
    (isNumber : writtenType runtime config = "number".toList) :
    NotionWriteValidator.validateFieldValue runtime fieldName value (.dict config) =
        .ok .valid ↔
      ¬(spelledType config = some "number".toList ∧
        NotionWriteValidator.isNumber value = false) := by
  by_cases free : ∀ kind, spelledType config = some kind → kind ∉ validatedTypes
  · refine iff_of_true (validateFieldValue_of_not_validated runtime fieldName value free) ?_
    rintro ⟨spelled, -⟩
    exact free _ spelled (by decide)
  · simp only [not_forall, not_not, exists_prop] at free
    obtain ⟨kind, spelled, validated⟩ := free
    have isKind := spelledType_of_validated runtime spelled validated
    rw [isKind] at isNumber
    subst isNumber
    have isText : (Dict.get config "type".toList).getD (.str "string".toList) =
        .str "number".toList := by
      unfold spelledType at spelled
      split at spelled
      · rename_i held isHeld
        cases spelled
        exact isHeld
      · cases spelled
    have checked : NotionWriteValidator.validateFieldValue runtime fieldName value
        (.dict config) = if NotionWriteValidator.isNumber value then .ok .valid
          else .ok (.invalid ("Invalid number for field '".toList ++ fieldName ++
            "': ".toList ++ value.asText runtime.shown)) := by
      show (match (Dict.get config "type".toList).getD (.str "string".toList) with
        | .str kind => _
        | _ => _) = _
      rw [isText]
      rfl
    rw [checked]
    cases NotionWriteValidator.isNumber value with
    | true => exact iff_of_true rfl fun refused => nomatch refused.2
    | false => exact iff_of_false nofun (not_not_intro ⟨spelled, rfl⟩)

/-! ## The equivalence -/

/-- A value that is accepted is written as configured if and only if the spelling of the
type and the value fit the configured options. -/
theorem writtenAsConfigured_iff_fits (fieldName : Str) (value : Value F) (config : Dict F) :
    WrittenAsConfigured runtime fieldName value config ↔ Fits runtime config value := by
  have apart : ∀ type ∈ ["select".toList, "enum".toList, "status".toList],
      type ≠ "multi_select".toList ∧ type ≠ "number".toList := by decide
  unfold WrittenAsConfigured Fits
  rw [writtenNames_eq]
  by_cases isOption : writtenType runtime config ∈
      ["select".toList, "enum".toList, "status".toList]
  · obtain ⟨notMulti, notNumber⟩ := apart _ isOption
    rw [accepted_iff_of_option runtime fieldName value isOption, if_pos isOption]
    constructor
    · intro asConfigured
      refine ⟨fun _ => ?_, fun isMulti => absurd isMulti notMulti,
        fun isNumber => absurd isNumber notNumber⟩
      by_cases outside : OutsideOptions config value
      · exact Or.inr outside
      · exact Or.inl ((asConfigured outside).1 _ List.mem_cons_self)
    · rintro ⟨fits, -, -⟩ notOutside
      refine ⟨fun name isName => ?_, fun isNumber => absurd isNumber notNumber⟩
      rw [List.mem_singleton.mp isName]
      exact (fits isOption).resolve_right notOutside
  · rw [if_neg isOption]
    by_cases isMulti : writtenType runtime config = "multi_select".toList
    · have notNumber : writtenType runtime config ≠ "number".toList := by
        rw [isMulti]
        decide
      rw [if_pos isMulti]
      constructor
      · intro asConfigured
        refine ⟨fun held => absurd held isOption, fun _ item isItem isWritten => ?_,
          fun isNumber => absurd isNumber notNumber⟩
        refine (asConfigured (accepted_of_multiSelect runtime fieldName value isMulti)).1 _ ?_
        exact List.mem_filter.mpr ⟨List.mem_map_of_mem isItem, decide_eq_true isWritten⟩
      · rintro ⟨-, fits, -⟩ -
        refine ⟨fun name isName => ?_, fun isNumber => absurd isNumber notNumber⟩
        obtain ⟨held, isWritten⟩ := List.mem_filter.mp isName
        obtain ⟨item, isItem, rfl⟩ := List.mem_map.mp held
        exact fits isMulti item isItem (of_decide_eq_true isWritten)
    · rw [if_neg isMulti]
      by_cases isNumber : writtenType runtime config = "number".toList
      · rw [accepted_iff_of_number runtime fieldName value isNumber]
        constructor
        · intro asConfigured
          refine ⟨fun held => absurd held isOption, fun held => absurd held isMulti, fun _ => ?_⟩
          by_cases refused : spelledType config = some "number".toList ∧
              NotionWriteValidator.isNumber value = false
          · exact Or.inr refused
          · exact Or.inl ((asConfigured refused).2 isNumber)
        · rintro ⟨-, -, fits⟩ accepted
          exact ⟨fun name isName => absurd isName List.not_mem_nil,
            fun _ => (fits isNumber).resolve_right accepted⟩
      · refine iff_of_true (fun _ => ⟨fun name isName => absurd isName List.not_mem_nil,
          fun held => absurd held isNumber⟩) ?_
        exact ⟨fun held => absurd held isOption, fun held => absurd held isMulti,
          fun held => absurd held isNumber⟩

/-- A type `select` that is spelled in lower case, with options that are texts, fits every
text. -/
theorem fits_of_select
    {config : Dict F}
    (spelled : Dict.get config "type".toList = some (.str "select".toList))
    {texts : List Str}
    (held : texts ≠ [])
    (configured : Dict.get config "options".toList = some (.list (texts.map .str)))
    (text : Str) : Fits runtime config (.str text) := by
  have isSpelled : spelledType config = some "select".toList := by
    unfold spelledType
    rw [spelled]
    rfl
  have isType : writtenType runtime config = "select".toList :=
    writtenType_of_spelledType runtime isSpelled
  refine ⟨fun _ => ?_, fun isMulti => ?_, fun isNumber => ?_⟩
  · by_cases isText : text ∈ texts
    · refine Or.inl (List.mem_map.mpr ⟨.str text, List.mem_append_left _ ?_, rfl⟩)
      unfold listUnder
      rw [configured]
      exact List.mem_map_of_mem isText
    · refine Or.inr ⟨.list (texts.map .str), ?_, ?_, ?_⟩
      · unfold checkedOptions
        rw [if_pos (Or.inl isSpelled), configured]
      · cases texts with
        | nil => exact absurd rfl held
        | cons first others => rfl
      · intro isIn
        have some : ((texts.map Value.str).any fun item =>
            Value.equal item (Value.str (F := F) text)) = true := Except.ok.inj isIn
        obtain ⟨item, isItem, same⟩ := List.any_eq_true.mp some
        obtain ⟨other, isOther, rfl⟩ := List.mem_map.mp isItem
        have isSame : other = text := by simpa [Value.equal] using same
        exact isText (isSame ▸ isOther)
  · rw [isType] at isMulti
    exact absurd isMulti (by decide)
  · rw [isType] at isNumber
    exact absurd isNumber (by decide)

/-! ## Accepted and not configured -/

/-- The texts and dates of the example. -/
def plainRuntime : Runtime Empty := ⟨fun _ => [], fun _ => false⟩

/-- A field of several options, of which one is configured. -/
def severalOptions : Dict Empty :=
  [("type".toList, .str "multi_select".toList),
    ("options".toList, .list [.str "todo".toList])]

/-- A number field that also has options. -/
def numberField : Dict Empty :=
  [("type".toList, .str "number".toList), ("options".toList, .list [.int 1])]

/-- An option that is not configured is accepted and written, and so is a truth value for a
number. -/
theorem not_writtenAsConfigured :
    ¬WrittenAsConfigured plainRuntime "tags".toList (.str "done".toList) severalOptions ∧
      ¬WrittenAsConfigured plainRuntime "count".toList (.bool true) numberField := by
  constructor
  · intro asConfigured
    exact absurd ((asConfigured rfl).1 "done".toList (by decide)) (by decide)
  · intro asConfigured
    exact ((asConfigured rfl).2 (by decide)).2 true rfl

end Notion
end ChatPlatform
