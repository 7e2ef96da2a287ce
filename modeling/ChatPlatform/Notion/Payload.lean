import ChatPlatform.Foundation.Keyed
import ChatPlatform.Notion.Allowlist

/-!
# The properties of a call

Every update is written as one Notion property, and the properties are stored one after
the other. An update is lost exactly when another one is written under the same property.
-/

namespace ChatPlatform
namespace Notion

/-- The updates of an operation. -/
def Operation.updates {F : Type} : Operation F → Dict F
  | .writePage _ updates => updates
  | .createRow _ properties => properties
  | .updateRow _ _ updates => updates

/-- The properties of a call. -/
def ClientCall.properties {F : Type} : ClientCall F → Dict F
  | .updatePage _ properties => properties
  | .createRow _ properties => properties
  | .updateRow _ properties => properties

namespace NotionWriteService

variable {F : Type} [FloatOps F] (runtime : Runtime F)

/-- The schema of a field, as far as it is a dictionary. -/
def schemaOf (schemaByField : Dict F) (fieldName : Str) : Dict F :=
  match fieldSchema schemaByField fieldName with
  | .ok fieldConfig => fieldConfig
  | .error _ => []

/-- The name of an update at Notion. -/
def propertyKey (schemaByField : Dict F) (fieldName : Str) : Str :=
  notionPropertyKey fieldName (schemaOf schemaByField fieldName)

/-- The properties of some updates, before one is stored over another. -/
def serialized (schemaByField updates : Dict F) : Dict F :=
  updates.flatMap fun update =>
    serializeValue runtime update.1 update.2 (schemaOf schemaByField update.1)

/-- A payload has one entry for each update, and what each update was serialized to is
under its own key. -/
def LosesNothing (schemaByField updates payload : Dict F) : Prop :=
  payload.length = updates.length ∧
    ∀ update ∈ updates,
      ∀ entry ∈ serializeValue runtime update.1 update.2 (schemaOf schemaByField update.1),
        entry.1 = propertyKey schemaByField update.1 ∧
          Dict.get payload entry.1 = some entry.2

variable {runtime}

omit [FloatOps F] in
/-- Two ways to write one property under a name are one. -/
private theorem exists_eq_ite
    {key : Str}
    {condition : Prop}
    [Decidable condition]
    {first second : Dict F}
    (isFirst : ∃ property, first = [(key, property)])
    (isSecond : ∃ property, second = [(key, property)]) :
    ∃ property, (if condition then first else second) = [(key, property)] := by
  split
  · exact isFirst
  · exact isSecond

/-- A value is written as one property, under the name of its field at Notion. -/
theorem exists_serializeValue_eq
    (runtime : Runtime F)
    (fieldName : Str)
    (value : Value F)
    (fieldConfig : Dict F) :
    ∃ property, serializeValue runtime fieldName value fieldConfig =
      [(notionPropertyKey fieldName fieldConfig, property)] := by
  unfold serializeValue
  dsimp only
  repeat' apply exists_eq_ite
  all_goals exact ⟨_, rfl⟩

/-- A payload that is built holds the properties of the updates, one stored after the
other. -/
theorem buildPropertiesPayload_eq
    {schemaByField payload updates built : Dict F}
    (isBuilt : buildPropertiesPayload runtime schemaByField payload updates = .ok built) :
    built = (serialized runtime schemaByField updates).foldl
      (fun entries entry => Dict.set entries entry.1 entry.2) payload := by
  induction updates generalizing payload with
  | nil => exact (Except.ok.inj isBuilt).symm
  | cons update rest inductionHypothesis =>
      obtain ⟨fieldName, value⟩ := update
      rw [buildPropertiesPayload] at isBuilt
      cases found : fieldSchema schemaByField fieldName with
      | error fault =>
          rw [found] at isBuilt
          cases isBuilt
      | ok fieldConfig =>
          rw [found] at isBuilt
          have isSchema : schemaOf schemaByField fieldName = fieldConfig := by
            rw [schemaOf, found]
          rw [inductionHypothesis isBuilt]
          unfold serialized
          rw [List.flatMap_cons, List.foldl_append, isSchema]
          rfl

omit [FloatOps F] in
/-- An entry is stored as in any other dictionary. -/
private theorem set_eq_keyedSet (entries : Dict F) (key : Str) (value : Value F) :
    Dict.set entries key value = Keyed.set entries key value := by
  unfold Dict.set Keyed.set Dict.keys
  congr

/-- A payload that is built is the comprehension of the properties of the updates. -/
theorem buildPropertiesPayload_eq_ofList
    {schemaByField updates built : Dict F}
    (isBuilt : buildPropertiesPayload runtime schemaByField [] updates = .ok built) :
    built = Keyed.ofList (serialized runtime schemaByField updates) := by
  rw [buildPropertiesPayload_eq isBuilt]
  unfold Keyed.ofList
  simp only [set_eq_keyedSet]

/-- The properties of some updates have the names of their fields at Notion. -/
theorem map_serialized (runtime : Runtime F) (schemaByField updates : Dict F) :
    (serialized runtime schemaByField updates).map (·.1) =
      updates.map fun update => propertyKey schemaByField update.1 := by
  induction updates with
  | nil => rfl
  | cons update rest inductionHypothesis =>
      obtain ⟨property, same⟩ := exists_serializeValue_eq runtime update.1 update.2
        (schemaOf schemaByField update.1)
      unfold serialized at inductionHypothesis ⊢
      rw [List.flatMap_cons, same, List.map_append, inductionHypothesis, List.map_cons]
      rfl

/-- A payload that is built loses nothing if and only if no two updates have the same name
at Notion. -/
theorem losesNothing_iff_nodup_propertyKey
    {schemaByField updates built : Dict F}
    (isBuilt : buildPropertiesPayload runtime schemaByField [] updates = .ok built) :
    LosesNothing runtime schemaByField updates built ↔
      (updates.map fun update => propertyKey schemaByField update.1).Nodup := by
  have names := map_serialized runtime schemaByField updates
  have counts : (serialized runtime schemaByField updates).length = updates.length := by
    have lengths := congrArg List.length names
    rwa [List.length_map, List.length_map] at lengths
  rw [buildPropertiesPayload_eq_ofList isBuilt, ← names]
  unfold LosesNothing
  rw [← counts, Keyed.length_ofList_eq_iff]
  refine ⟨fun lossless => lossless.1, fun distinct => ⟨distinct, ?_⟩⟩
  intro update isUpdate entry isEntry
  obtain ⟨property, same⟩ := exists_serializeValue_eq runtime update.1 update.2
    (schemaOf schemaByField update.1)
  refine ⟨?_, ?_⟩
  · rw [same] at isEntry
    rw [List.mem_singleton.mp isEntry]
    rfl
  · rw [Keyed.ofList_of_nodup distinct]
    exact Keyed.find_of_mem distinct (List.mem_flatMap.mpr ⟨update, isUpdate, isEntry⟩)

/-! ## Operations -/

/-- The schemas an operation serializes its updates with. -/
def schemasFor (service : NotionWriteService F) : Operation F → Dict F
  | .writePage pageId _ => configured service.validator.editableFields (normalizeId pageId)
  | .createRow databaseId _ =>
      configured service.validator.databaseTemplates (normalizeId databaseId)
  | .updateRow databaseId _ _ =>
      configured service.validator.editableFields
        (NotionWriteValidator.rowResourceId (normalizeId databaseId))

/-- The properties of a call that an operation makes are built from its updates. -/
theorem buildPropertiesPayload_of_mem_calls
    {service : NotionWriteService F}
    {operation : Operation F}
    {call : ClientCall F}
    (made : call ∈ (perform runtime service operation).calls) :
    buildPropertiesPayload runtime (schemasFor service operation) [] operation.updates =
      .ok call.properties := by
  cases operation with
  | writePage pageId updates =>
      rw [perform, writePage] at made
      split at made
      · exact absurd made List.not_mem_nil
      · split at made
        · exact absurd made List.not_mem_nil
        · obtain ⟨written, isBuilt, rfl⟩ := mem_calls_execute.mp made
          exact isBuilt
  | createRow databaseId properties =>
      rw [perform, createRow] at made
      split at made
      · exact absurd made List.not_mem_nil
      · obtain ⟨written, isBuilt, rfl⟩ := mem_calls_execute.mp made
        exact isBuilt
  | updateRow databaseId rowId updates =>
      rw [perform, updateRow] at made
      split at made
      · exact absurd made List.not_mem_nil
      · split at made
        · exact absurd made List.not_mem_nil
        · obtain ⟨written, isBuilt, rfl⟩ := mem_calls_execute.mp made
          exact isBuilt

/-- A payload loses nothing if and only if no two updates have the same name at Notion:
every payload that is built, and the payload of every call that an operation makes. -/
theorem losesNothing_iff (runtime : Runtime F) :
    (∀ schemaByField updates built : Dict F,
      buildPropertiesPayload runtime schemaByField [] updates = .ok built →
        (LosesNothing runtime schemaByField updates built ↔
          (updates.map fun update => propertyKey schemaByField update.1).Nodup)) ∧
      ∀ (service : NotionWriteService F) (operation : Operation F),
        ∀ call ∈ (perform runtime service operation).calls,
          (LosesNothing runtime (schemasFor service operation) operation.updates
              call.properties ↔
            (operation.updates.map fun update =>
              propertyKey (schemasFor service operation) update.1).Nodup) := by
  constructor
  · exact fun _ _ _ isBuilt => losesNothing_iff_nodup_propertyKey isBuilt
  · exact fun _ _ _ made =>
      losesNothing_iff_nodup_propertyKey (buildPropertiesPayload_of_mem_calls made)

/-! ## Two fields with one name -/

/-- A service that allows one page and two fields of it. -/
def twoFields (firstName secondName : Str) : NotionWriteService Empty where
  enabled := true
  validator :=
    { allowedPages := ["p".toList]
      allowedDatabases := []
      editableFields := [("p".toList,
        [("a".toList, .dict [("property_key".toList, .str firstName)]),
          ("b".toList, .dict [("notion_name".toList, .str secondName)])])]
      databaseTemplates := [] }
  respond := fun _ => .ok []

/-- An update of both fields. -/
def updateBoth : Operation Empty :=
  .writePage "p".toList [("a".toList, .str "1".toList), ("b".toList, .str "2".toList)]

/-- Under two names both updates are written. -/
theorem losesNothing_iff_apart :
    ∀ call ∈ (perform exampleRuntime (twoFields "N".toList "M".toList) updateBoth).calls,
      LosesNothing exampleRuntime (schemasFor (twoFields "N".toList "M".toList) updateBoth)
        updateBoth.updates call.properties :=
  fun call made => ((losesNothing_iff exampleRuntime).2 _ _ call made).mpr (by decide)

/-- Under one name the second update is written over the first, and the operation
succeeds. -/
theorem not_losesNothing_same_name :
    ∃ properties,
      perform exampleRuntime (twoFields "N".toList " N ".toList) updateBoth =
          ⟨[.updatePage "p".toList properties],
            .ok ⟨"page_update".toList, "page".toList, "p".toList, some "p".toList, .success⟩⟩ ∧
        ¬LosesNothing exampleRuntime
          (schemasFor (twoFields "N".toList " N ".toList) updateBoth) updateBoth.updates
          properties := by
  refine ⟨_, rfl, fun lossless => ?_⟩
  exact absurd lossless.1 (by decide)

end NotionWriteService
end Notion
end ChatPlatform
