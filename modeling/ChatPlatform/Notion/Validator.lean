import ChatPlatform.Foundation.Dynamic

/-!
# Static validation of Notion writes

A write is checked against the allowlists, the editable fields and the row
templates before anything is sent. The checks only look at the identifiers and the
values they are given.
-/

namespace ChatPlatform
namespace Notion

/-- The verdict of a check. -/
inductive ValidationResult
  | valid
  /-- The reason of the refusal. -/
  | invalid (error : Str)
  deriving DecidableEq

/-- How texts and dates are read and written. -/
structure Runtime (F : Type) where
  /-- `str` of a list or a dictionary. -/
  shown : Value F → Str
  /-- Whether `datetime.fromisoformat` accepts a text. -/
  fromIsoFormat : Str → Bool

/-- Schemas by field name, for each resource. -/
abbrev FieldSchemas (F : Type) := List (Str × Dict F)

/-- What the validator is configured with. -/
structure NotionWriteValidator (F : Type) where
  /-- Pages that can be edited. -/
  allowedPages : List Str
  /-- Databases whose rows can be created and edited. -/
  allowedDatabases : List Str
  /-- Editable fields of each resource. -/
  editableFields : FieldSchemas F
  /-- Row templates of each database. -/
  databaseTemplates : FieldSchemas F

/-- The verdict of a check, unless the check itself fails. -/
abbrev Check := Except ValueFault ValidationResult

/-- Go on with the next check when one accepts. -/
def Check.andAlso (first : Check) (next : Check) : Check :=
  match first with
  | .error fault => .error fault
  | .ok (.invalid error) => .ok (.invalid error)
  | .ok .valid => next

/-- Check every item in turn. -/
def Check.each {α : Type} (check : α → Check) : List α → Check
  | [] => .ok .valid
  | item :: rest => (check item).andAlso (Check.each check rest)

namespace NotionWriteValidator

variable {F : Type} (validator : NotionWriteValidator F)

/-- Check that a page may be edited. -/
def validatePageId (pageId : Str) : Check :=
  if pageId = [] then .ok (.invalid "Page ID cannot be empty".toList)
  else if pageId ∈ validator.allowedPages then .ok .valid
  else .ok (.invalid ("Page '".toList ++ pageId ++ "' not in allowlist".toList))

/-- Check that a database may be written to. -/
def validateDatabaseId (databaseId : Str) : Check :=
  if databaseId = [] then .ok (.invalid "Database ID cannot be empty".toList)
  else if databaseId ∈ validator.allowedDatabases then .ok .valid
  else
    .ok (.invalid ("Database '".toList ++ databaseId ++ "' not in allowlist".toList))

/-- Check that all fields of a resource are editable. -/
def validateFields (resourceId : Str) (fieldNames : List Str) : Check :=
  match validator.editableFields.lookup resourceId with
  | none =>
      .ok (.invalid ("No editable fields defined for resource '".toList ++
        resourceId ++ "'".toList))
  | some fields =>
      match fieldNames.filter (· ∉ Dict.keys fields) with
      | [] => .ok .valid
      | invalidFields =>
          .ok (.invalid ("Fields not editable: ".toList ++
            Text.join ", ".toList invalidFields))

variable [FloatOps F] (runtime : Runtime F)

/-- Check a value against the options of its field; without options anything is
allowed. -/
def validateOption
    (options : Option (Value F))
    (value : Value F)
    (error : Str) : Check :=
  match options with
  | none => .ok .valid
  | some options =>
      if options.truthy then do
        let allowed ← value.isIn options
        .ok (if allowed then .valid else .invalid error)
      else .ok .valid

/-- Whether a value is the text of a date. -/
def isValidIso8601 : Value F → Bool
  | .str text =>
      runtime.fromIsoFormat
        (text.flatMap fun c => if c = 'Z' then "+00:00".toList else [c])
  | _ => false

/-- Whether a value counts as a number. -/
def isNumber : Value F → Bool
  | .bool _ | .int _ | .float _ => true
  | .none | .str _ | .list _ | .dict _ => false

/-- Check a value against the schema of its field. -/
def validateFieldValue
    (fieldName : Str)
    (value : Value F)
    (fieldConfig : Value F) : Check := do
  let config : Value F :=
    match fieldConfig with
    | .none => .dict []
    | config => config
  let fieldType ← config.getAttribute "type".toList
  let shown := value.asText runtime.shown
  let forField := "' for field '".toList ++ fieldName ++ "'".toList
  match fieldType.getD (.str "string".toList) with
  | .str kind =>
      if kind = "select".toList then do
        let options ← config.getAttribute "options".toList
        validateOption options value ("Invalid value '".toList ++ shown ++ forField)
      else if kind = "date".toList then
        if isValidIso8601 runtime value then .ok .valid
        else
          .ok (.invalid ("Invalid date format for field '".toList ++ fieldName ++
            "': ".toList ++ shown))
      else if kind = "number".toList then
        if isNumber value then .ok .valid
        else
          .ok (.invalid ("Invalid number for field '".toList ++ fieldName ++
            "': ".toList ++ shown))
      else if kind = "enum".toList then do
        let options ← config.getAttribute "values".toList
        validateOption options value
          ("Invalid enum value '".toList ++ shown ++ forField)
      else if kind = "status".toList then do
        let options ← config.getAttribute "options".toList
        validateOption options value
          ("Invalid value '".toList ++ shown ++ "' for status field '".toList ++
            fieldName ++ "'".toList)
      else .ok .valid
  | _ => .ok .valid

/-- The names of the required fields of a template that are missing. -/
def missingFields (properties : Dict F) : Dict F → Except ValueFault (List Str)
  | [] => .ok []
  | (fieldName, fieldDef) :: rest => do
      let required ← fieldDef.getAttribute "required".toList
      let missing ← missingFields properties rest
      .ok (if (required.getD (.bool false)).truthy ∧
          fieldName ∉ Dict.keys properties then fieldName :: missing
        else missing)

/-- Check the row to be created in a database. -/
def validateRowCreate (databaseId : Str) (properties : Dict F) : Check :=
  (validator.validateDatabaseId databaseId).andAlso
    (match validator.databaseTemplates.lookup databaseId with
    | none =>
        .ok (.invalid ("No template defined for database '".toList ++ databaseId ++
          "'".toList))
    | some template => do
        match ← missingFields properties template with
        | [] =>
            Check.each
              (fun property =>
                match Dict.get template property.1 with
                | none =>
                    .ok (.invalid ("Field '".toList ++ property.1 ++
                      "' not in template for this database".toList))
                | some schema =>
                    validateFieldValue runtime property.1 property.2 schema)
              properties
        | missing =>
            .ok (.invalid ("Required fields missing: ".toList ++
              Text.join ", ".toList missing)))

/-- The resource under which the editable fields of the rows of a database are
configured. -/
def rowResourceId (databaseId : Str) : Str := "row_in_".toList ++ databaseId

/-- Check the fields of a row to be updated. The row itself is not looked at. -/
def validateRowUpdate
    (rowDatabaseId _rowId : Str)
    (updates : Dict F) : Check :=
  (validator.validateDatabaseId rowDatabaseId).andAlso
    (match validator.editableFields.lookup (rowResourceId rowDatabaseId) with
    | none =>
        .ok (.invalid ("Rows in database '".toList ++ rowDatabaseId ++
          "' are not editable".toList))
    | some fields =>
        (validator.validateFields (rowResourceId rowDatabaseId)
          (Dict.keys updates)).andAlso
          (Check.each
            (fun update =>
              validateFieldValue runtime update.1 update.2
                ((Dict.get fields update.1).getD (.dict [])))
            updates))

end NotionWriteValidator
end Notion
end ChatPlatform
