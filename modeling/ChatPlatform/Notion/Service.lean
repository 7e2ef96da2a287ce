import ChatPlatform.Notion.Validator

/-!
# The Notion write service

Three operations: updating the properties of a page, creating a row in a database
and updating the fields of a row. Each validates the identifiers without their
dashes, and sends the identifiers as they were given.
-/

namespace ChatPlatform
namespace Notion

/-- A call of the Notion client. -/
inductive ClientCall (F : Type)
  /-- `PATCH /pages/{page_id}`. -/
  | updatePage (pageId : Str) (properties : Dict F)
  /-- `POST /pages` with the database as the parent. -/
  | createRow (databaseId : Str) (properties : Dict F)
  /-- `PATCH /pages/{row_id}`. -/
  | updateRow (rowId : Str) (properties : Dict F)

/-- Why a call could not be executed. -/
inductive ExecutionCause
  /-- The properties could not be written. -/
  | payload (fault : ValueFault)
  /-- The client failed. -/
  | client (message : Str)
  deriving DecidableEq

/-- An exception of the service. -/
inductive NotionWriteError
  /-- Writes are disabled. -/
  | disabled
  /-- An allowlist check failed. -/
  | blocked (message : Str)
  /-- Another check failed. -/
  | validation (message : Str)
  /-- The call failed. -/
  | execution (cause : ExecutionCause)
  /-- A check itself failed. -/
  | unhandled (fault : ValueFault)
  deriving DecidableEq

/-- Whether something was written. -/
inductive WriteStatus
  | success
  | noop
  deriving DecidableEq

/-- What an operation returns. -/
structure NotionWriteResult where
  /-- Name of the operation. -/
  operation : Str
  /-- Kind of the target. -/
  targetType : Str
  /-- The target as the caller named it. -/
  targetId : Str
  /-- The object Notion reports. -/
  notionObjectId : Option Str
  /-- Whether something was written. -/
  status : WriteStatus
  deriving DecidableEq

/-- What an operation did: the client calls it made and how it ended. -/
structure Attempt (F : Type) where
  /-- The calls, in order. -/
  calls : List (ClientCall F)
  /-- The result or the exception. -/
  result : Except NotionWriteError NotionWriteResult

/-- An operation a caller asks for. -/
inductive Operation (F : Type)
  | writePage (pageId : Str) (updates : Dict F)
  | createRow (databaseId : Str) (properties : Dict F)
  | updateRow (databaseId rowId : Str) (updates : Dict F)

/-- An identifier without surrounding white space and dashes. -/
def normalizeId (value : Str) : Str := Text.remove '-' (Text.strip value)

/-- Turn a verdict into an exception. -/
def validateOrRaise : Check → Except NotionWriteError Unit
  | .error fault => .error (.unhandled fault)
  | .ok .valid => .ok ()
  | .ok (.invalid message) =>
      if Text.contains "allowlist".toList (Text.lower message) then
        .error (.blocked message)
      else .error (.validation message)

/-- The service: its settings, its validator and its client. -/
structure NotionWriteService (F : Type) where
  /-- Whether writes are enabled. -/
  enabled : Bool
  /-- The validator. -/
  validator : NotionWriteValidator F
  /-- The response of the client to a call, or its failure. -/
  respond : ClientCall F → Except Str (Dict F)

namespace NotionWriteService

variable {F : Type} [FloatOps F] (runtime : Runtime F) (service : NotionWriteService F)

/-- Refuse when writes are disabled. -/
def ensureEnabled : Except NotionWriteError Unit :=
  if service.enabled then .ok () else .error .disabled

/-- The schema of a field; an unknown field has an empty one. -/
def fieldSchema
    (schemaByField : Dict F)
    (fieldName : Str) : Except ValueFault (Dict F) :=
  ((Dict.get schemaByField fieldName).getD (.dict [])).asDict

/-- The name of a field at Notion: the first configured name that counts as true,
if it is a text, and else the name of the field. -/
def notionPropertyKey
    (fieldName : Str)
    (fieldConfig : Dict F) : Str :=
  let configured := ["notion_property_key", "property_key", "notion_name",
    "property_name", "notion_property_name"].filterMap fun key =>
      (Dict.get fieldConfig key.toList).filter Value.truthy
  match configured.head? with
  | some (.str explicitKey) =>
      if Text.strip explicitKey = [] then fieldName else Text.strip explicitKey
  | _ => fieldName

/-- The items of a list, or the value itself. -/
def itemsOf : Value F → List (Value F)
  | .list items => items
  | value => [value]

/-- The Notion property of a value. -/
def serializeValue
    (fieldName : Str)
    (value : Value F)
    (fieldConfig : Dict F) : Dict F :=
  let text := value.asText runtime.shown
  let fieldType := Text.lower
    (((Dict.get fieldConfig "type".toList).getD (.str "string".toList)).asText
      runtime.shown)
  let content : Value F :=
    .list [.dict [("text".toList, .dict [("content".toList, .str text)])]]
  let entries (key : String) : Value F :=
    .list ((((itemsOf value).map fun item => item.asText runtime.shown).filter
      fun text => Text.strip text ≠ []).map
        fun text => .dict [(key.toList, .str text)])
  let named (key : String) (property : Value F) : Dict F :=
    [(notionPropertyKey fieldName fieldConfig, .dict [(key.toList, property)])]
  if fieldType = "title".toList then named "title" content
  else if fieldType ∈ ["string".toList, "text".toList, "rich_text".toList] then
    named "rich_text" content
  else if fieldType ∈ ["select".toList, "enum".toList] then
    named "select" (.dict [("name".toList, .str text)])
  else if fieldType = "status".toList then
    named "status" (.dict [("name".toList, .str text)])
  else if fieldType = "multi_select".toList then named "multi_select" (entries "name")
  else if fieldType = "date".toList then
    named "date" (.dict [("start".toList, .str text)])
  else if fieldType = "number".toList then named "number" value
  else if fieldType ∈ ["bool".toList, "checkbox".toList] then
    named "checkbox" (.bool value.truthy)
  else if fieldType = "person".toList then named "people" (entries "id")
  else if fieldType = "url".toList then named "url" (.str text)
  else if fieldType = "email".toList then named "email" (.str text)
  else if fieldType = "phone_number".toList then named "phone_number" (.str text)
  else named "rich_text" content

/-- The properties of a call, one field after the other over the ones before. -/
def buildPropertiesPayload
    (schemaByField : Dict F)
    (payload : Dict F) : Dict F → Except ValueFault (Dict F)
  | [] => .ok payload
  | (fieldName, value) :: rest => do
      let fieldConfig ← fieldSchema schemaByField fieldName
      buildPropertiesPayload schemaByField
        (Dict.merge payload (serializeValue runtime fieldName value fieldConfig)) rest

/-- The fields configured for a resource. -/
def configured (schemas : FieldSchemas F) (resourceId : Str) : Dict F :=
  (schemas.lookup resourceId).getD []

/-- The object identifier of a response: its own, or the given one. -/
def objectId (response : Dict F) (fallback : Str) : Str :=
  match (Dict.get response "id".toList).filter Value.truthy with
  | some id => id.asText runtime.shown
  | none => fallback

/-- Send a call whose properties are written first; `reported` is what the result says
of the object identifier. -/
def execute
    (operation targetType targetId fallbackId : Str)
    (reported : Str → Option Str)
    (properties : Except ValueFault (Dict F))
    (call : Dict F → ClientCall F) : Attempt F :=
  match properties with
  | .error fault => ⟨[], .error (.execution (.payload fault))⟩
  | .ok properties =>
      { calls := [call properties]
        result :=
          match service.respond (call properties) with
          | .error message => .error (.execution (.client message))
          | .ok response =>
              .ok
                { operation
                  targetType
                  targetId
                  notionObjectId := reported (objectId runtime response fallbackId)
                  status := .success } }

/-- Nothing to write. -/
def noop (operation targetType targetId : Str) : Attempt F :=
  ⟨[], .ok ⟨operation, targetType, targetId, some targetId, .noop⟩⟩

/-- The checks of a page update, value by value. -/
def checkPageValues
    (pageId : Str) : Dict F → Except NotionWriteError Unit
  | [] => .ok ()
  | (fieldName, value) :: rest => do
      match fieldSchema (configured service.validator.editableFields pageId)
          fieldName with
      | .error fault => .error (.unhandled fault)
      | .ok schema =>
          validateOrRaise (NotionWriteValidator.validateFieldValue runtime fieldName
            value (.dict schema))
          checkPageValues pageId rest

/-- Everything an operation checks before it calls the client. -/
def checks : Operation F → Except NotionWriteError Unit
  | .writePage pageId updates => do
      ensureEnabled service
      validateOrRaise (service.validator.validatePageId (normalizeId pageId))
      validateOrRaise (service.validator.validateFields (normalizeId pageId)
        (Dict.keys updates))
      checkPageValues runtime service (normalizeId pageId) updates
  | .createRow databaseId properties => do
      ensureEnabled service
      validateOrRaise (service.validator.validateDatabaseId (normalizeId databaseId))
      validateOrRaise (service.validator.validateRowCreate runtime
        (normalizeId databaseId) properties)
  | .updateRow databaseId rowId updates => do
      ensureEnabled service
      validateOrRaise (service.validator.validateDatabaseId (normalizeId databaseId))
      validateOrRaise (service.validator.validateRowUpdate runtime
        (normalizeId databaseId) rowId updates)

/-- The properties an operation sends. -/
def payload : Operation F → Except ValueFault (Dict F)
  | .writePage pageId updates =>
      buildPropertiesPayload runtime
        (configured service.validator.editableFields (normalizeId pageId)) [] updates
  | .createRow databaseId properties =>
      buildPropertiesPayload runtime
        (configured service.validator.databaseTemplates (normalizeId databaseId)) []
        properties
  | .updateRow databaseId _ updates =>
      buildPropertiesPayload runtime
        (configured service.validator.editableFields
          (NotionWriteValidator.rowResourceId (normalizeId databaseId))) [] updates

/-- Update the properties of a page. -/
def writePage (pageId : Str) (updates : Dict F) : Attempt F :=
  match checks runtime service (.writePage pageId updates) with
  | .error error => ⟨[], .error error⟩
  | .ok () =>
      if updates = [] then noop "page_update".toList "page".toList pageId
      else
        execute runtime service "page_update".toList "page".toList pageId pageId
          some (payload runtime service (.writePage pageId updates))
          (.updatePage pageId)

/-- Create a row in a database. -/
def createRow (databaseId : Str) (properties : Dict F) : Attempt F :=
  match checks runtime service (.createRow databaseId properties) with
  | .error error => ⟨[], .error error⟩
  | .ok () =>
      execute runtime service "row_create".toList "database".toList databaseId []
        (fun id => if id = [] then none else some id)
        (payload runtime service (.createRow databaseId properties))
        (.createRow databaseId)

/-- Update the fields of a row. -/
def updateRow (databaseId rowId : Str) (updates : Dict F) : Attempt F :=
  match checks runtime service (.updateRow databaseId rowId updates) with
  | .error error => ⟨[], .error error⟩
  | .ok () =>
      if updates = [] then noop "row_update".toList "row".toList rowId
      else
        execute runtime service "row_update".toList "row".toList rowId rowId
          some (payload runtime service (.updateRow databaseId rowId updates))
          (.updateRow rowId)

/-- Do what the caller asks for. -/
def perform : Operation F → Attempt F
  | .writePage pageId updates => writePage runtime service pageId updates
  | .createRow databaseId properties => createRow runtime service databaseId properties
  | .updateRow databaseId rowId updates =>
      updateRow runtime service databaseId rowId updates

end NotionWriteService
end Notion
end ChatPlatform
