import ChatPlatform.Foundation.Traversal
import ChatPlatform.Notion.Service

/-!
# What a Notion write may touch

A page update and a row creation only touch what is allowlisted. A row update sends
a row identifier that no check relates to the database it is checked under, so it
stays inside the allowlist exactly when the row does.
-/

namespace ChatPlatform
namespace Notion

/-- What Notion makes of identifiers. Dashes do not matter, no identifier has white
space at an end, and a row lies in one database. -/
structure Workspace (Resource : Type) where
  /-- The resource an identifier names, if there is one. -/
  named : Str → Option Resource
  /-- Dashes do not matter. -/
  named_remove_dashes : ∀ id, named (Text.remove '-' id) = named id
  /-- No identifier begins or ends with white space. -/
  trimmed_of_named : ∀ {id resource}, named id = some resource → Text.IsTrimmed id
  /-- The database of a row; a page outside databases has none. -/
  databaseOf : Resource → Option Resource

namespace Workspace

variable {F Resource : Type} (workspace : Workspace Resource)

/-- An entry of the allowlist names the resource. -/
def Allowlisted (allowlist : List Str) (resource : Resource) : Prop :=
  ∃ id ∈ allowlist, workspace.named id = some resource

/-- Whatever row the identifier names lies in an allowlisted database. -/
def RowAllowlisted (validator : NotionWriteValidator F) (rowId : Str) : Prop :=
  ∀ row, workspace.named rowId = some row →
    ∃ database, workspace.databaseOf row = some database ∧
      workspace.Allowlisted validator.allowedDatabases database

/-- What Notion modifies on a call is allowlisted: the page of a page update, and
the database of a row otherwise. -/
def CallAllowlisted (validator : NotionWriteValidator F) : ClientCall F → Prop
  | .updatePage pageId _ => ∀ page, workspace.named pageId = some page →
      workspace.Allowlisted validator.allowedPages page
  | .createRow databaseId _ => ∀ database, workspace.named databaseId = some database →
      workspace.Allowlisted validator.allowedDatabases database
  | .updateRow rowId _ => workspace.RowAllowlisted validator rowId

/-- An identifier and its normal form name the same resource. -/
theorem named_normalizeId
    {id : Str}
    {resource : Resource}
    (found : workspace.named id = some resource) :
    workspace.named (normalizeId id) = some resource := by
  unfold normalizeId
  rw [(Text.strip_eq_self_iff id).mpr (workspace.trimmed_of_named found),
    workspace.named_remove_dashes, found]

/-- What an identifier names is allowlisted when its normal form is. -/
theorem allowlisted_of_normalizeId
    {allowlist : List Str}
    {id : Str}
    (listed : normalizeId id ∈ allowlist) :
    ∀ resource, workspace.named id = some resource →
      workspace.Allowlisted allowlist resource :=
  fun _ found => ⟨normalizeId id, listed, workspace.named_normalizeId found⟩

end Workspace

/-- A verdict that raises nothing accepts. -/
theorem valid_of_validateOrRaise
    {check : Check}
    (passed : validateOrRaise check = .ok ()) : check = .ok .valid := by
  match check, passed with
  | .ok .valid, _ => rfl
  | .ok (.invalid message), passed =>
      simp only [validateOrRaise] at passed
      split at passed <;> simp at passed

namespace NotionWriteValidator

variable {F : Type} {validator : NotionWriteValidator F}

/-- An accepted page is allowlisted. -/
theorem mem_of_validatePageId
    {pageId : Str}
    (accepted : validator.validatePageId pageId = .ok .valid) :
    pageId ∈ validator.allowedPages := by
  unfold validatePageId at accepted
  split at accepted
  · cases accepted
  · split at accepted
    · assumption
    · cases accepted

/-- An accepted database is allowlisted. -/
theorem mem_of_validateDatabaseId
    {databaseId : Str}
    (accepted : validator.validateDatabaseId databaseId = .ok .valid) :
    databaseId ∈ validator.allowedDatabases := by
  unfold validateDatabaseId at accepted
  split at accepted
  · cases accepted
  · split at accepted
    · assumption
    · cases accepted

end NotionWriteValidator

namespace NotionWriteService

variable {F Resource : Type} [FloatOps F] {runtime : Runtime F}
  {service : NotionWriteService F} {workspace : Workspace Resource}

/-- The page of an update that passes its checks is allowlisted. -/
private theorem mem_of_checks_writePage
    {pageId : Str}
    {updates : Dict F}
    (passed : checks runtime service (.writePage pageId updates) = .ok ()) :
    normalizeId pageId ∈ service.validator.allowedPages := by
  obtain ⟨_, -, passed⟩ := Traversal.exists_of_bind_eq_ok passed
  obtain ⟨_, accepted, -⟩ := Traversal.exists_of_bind_eq_ok passed
  exact NotionWriteValidator.mem_of_validatePageId (valid_of_validateOrRaise accepted)

/-- The database of a row creation that passes its checks is allowlisted. -/
private theorem mem_of_checks_createRow
    {databaseId : Str}
    {properties : Dict F}
    (passed : checks runtime service (.createRow databaseId properties) = .ok ()) :
    normalizeId databaseId ∈ service.validator.allowedDatabases := by
  obtain ⟨_, -, passed⟩ := Traversal.exists_of_bind_eq_ok passed
  obtain ⟨_, accepted, -⟩ := Traversal.exists_of_bind_eq_ok passed
  exact NotionWriteValidator.mem_of_validateDatabaseId (valid_of_validateOrRaise accepted)

/-- A call is made exactly when its properties can be written. -/
theorem mem_calls_execute
    {operation targetType targetId fallbackId : Str}
    {reported : Str → Option Str}
    {properties : Except ValueFault (Dict F)}
    {call : Dict F → ClientCall F}
    {made : ClientCall F} :
    made ∈ (execute runtime service operation targetType targetId fallbackId reported
        properties call).calls ↔
      ∃ written, properties = .ok written ∧ made = call written := by
  cases properties with
  | error fault => simp [execute]
  | ok written => simp [execute]

/-- A failed check is followed by no call. -/
theorem calls_of_checks_error
    {operation : Operation F}
    {error : NotionWriteError}
    (failed : checks runtime service operation = .error error) :
    (perform runtime service operation).calls = [] := by
  cases operation with
  | writePage pageId updates => simp [perform, writePage, failed]
  | createRow databaseId properties => simp [perform, createRow, failed]
  | updateRow databaseId rowId updates => simp [perform, updateRow, failed]

/-- The calls of a page update. -/
private theorem mem_calls_writePage
    {pageId : Str}
    {updates : Dict F}
    {made : ClientCall F}
    (present : made ∈ (writePage runtime service pageId updates).calls) :
    normalizeId pageId ∈ service.validator.allowedPages ∧
      ∃ written, made = .updatePage pageId written := by
  unfold writePage at present
  split at present
  · simp at present
  case h_2 passed =>
    split at present
    · simp [noop] at present
    · obtain ⟨written, -, rfl⟩ := mem_calls_execute.mp present
      exact ⟨mem_of_checks_writePage passed, written, rfl⟩

/-- The calls of a row creation. -/
private theorem mem_calls_createRow
    {databaseId : Str}
    {properties : Dict F}
    {made : ClientCall F}
    (present : made ∈ (createRow runtime service databaseId properties).calls) :
    normalizeId databaseId ∈ service.validator.allowedDatabases ∧
      ∃ written, made = .createRow databaseId written := by
  unfold createRow at present
  split at present
  · simp at present
  case h_2 passed =>
    obtain ⟨written, -, rfl⟩ := mem_calls_execute.mp present
    exact ⟨mem_of_checks_createRow passed, written, rfl⟩

/-- The calls of a row update. -/
private theorem mem_calls_updateRow
    {databaseId rowId : Str}
    {updates : Dict F}
    {made : ClientCall F} :
    made ∈ (updateRow runtime service databaseId rowId updates).calls ↔
      checks runtime service (.updateRow databaseId rowId updates) = .ok () ∧
        updates ≠ [] ∧ ∃ written,
          payload runtime service (.updateRow databaseId rowId updates) = .ok written ∧
            made = .updateRow rowId written := by
  unfold updateRow
  split
  case h_1 error failed => simp [failed]
  case h_2 passed =>
    by_cases nothing : updates = []
    · simp [nothing, noop]
    · rw [if_neg nothing, mem_calls_execute]
      simp [passed, nothing]

variable (runtime service workspace)

/-- Every call stays inside the allowlists, and failed checks make none. -/
def Contained (operation : Operation F) : Prop :=
  (∀ call ∈ (perform runtime service operation).calls,
      workspace.CallAllowlisted service.validator call) ∧
    ∀ error, checks runtime service operation = .error error →
      (perform runtime service operation).calls = []

/-- A row update that passes its checks and has something to write names a row of an
allowlisted database. -/
def RowsInside : Operation F → Prop
  | .writePage _ _ => True
  | .createRow _ _ => True
  | .updateRow databaseId rowId updates =>
      checks runtime service (.updateRow databaseId rowId updates) = .ok () →
        updates ≠ [] →
        (∃ written, payload runtime service (.updateRow databaseId rowId updates) =
          .ok written) →
        workspace.RowAllowlisted service.validator rowId

/-- For every configuration and every operation: the calls stay inside the allowlists
exactly when a row update names a row that lies in an allowlisted database. -/
theorem contained_iff_rowsInside (operation : Operation F) :
    Contained runtime service workspace operation ↔
      RowsInside runtime service workspace operation := by
  have quiet : ∀ error, checks runtime service operation = .error error →
      (perform runtime service operation).calls = [] :=
    fun _ failed => calls_of_checks_error failed
  unfold Contained
  rw [and_iff_left quiet]
  cases operation with
  | writePage pageId updates =>
      refine iff_of_true (fun call present => ?_) trivial
      obtain ⟨listed, written, rfl⟩ := mem_calls_writePage present
      exact workspace.allowlisted_of_normalizeId listed
  | createRow databaseId properties =>
      refine iff_of_true (fun call present => ?_) trivial
      obtain ⟨listed, written, rfl⟩ := mem_calls_createRow present
      exact workspace.allowlisted_of_normalizeId listed
  | updateRow databaseId rowId updates =>
      constructor
      · rintro inside passed some ⟨written, ready⟩
        exact inside _ (mem_calls_updateRow.mpr ⟨passed, some, written, ready, rfl⟩)
      · intro inside call present
        obtain ⟨passed, some, written, ready, rfl⟩ := mem_calls_updateRow.mp present
        exact inside passed some ⟨written, ready⟩

/-! ## A row of another database -/

/-- A workspace with an allowlisted database, another database, and a row in it. -/
def exampleIds : List Str :=
  ["dbxyz789".toList, "dbother".toList, "row456".toList]

/-- What an identifier of the example names: itself without dashes. -/
def exampleNamed (id : Str) : Option Str :=
  if Text.remove '-' id ∈ exampleIds then some (Text.remove '-' id) else none

/-- An identifier that names something in the example has no white space. -/
private theorem exampleNamed_trimmed
    {id resource : Str}
    (found : exampleNamed id = some resource) : Text.IsTrimmed id := by
  have plain : ∀ c ∈ id, Text.isSpace c = false := by
    intro c present
    unfold exampleNamed at found
    split at found
    case isTrue listed =>
      by_cases dash : c = '-'
      · rw [dash]
        decide
      · have kept : c ∈ Text.remove '-' id :=
          List.mem_filter.mpr ⟨present, decide_eq_true dash⟩
        have clean : exampleIds.all (fun text => text.all fun c => !Text.isSpace c) := by
          decide
        simpa using List.all_eq_true.mp (List.all_eq_true.mp clean _ listed) c kept
    case isFalse => cases found
  exact ⟨fun c first => plain c (List.mem_of_mem_head? first),
    fun c last => plain c (List.mem_of_mem_getLast? last)⟩

/-- The workspace of the example: the row lies in the database that is not
allowlisted. -/
def exampleWorkspace : Workspace Str where
  named := exampleNamed
  named_remove_dashes id := by simp [exampleNamed, Text.remove]
  trimmed_of_named := exampleNamed_trimmed
  databaseOf resource :=
    if resource = "row456".toList then some "dbother".toList else none

/-- A service that allows one database and one field of its rows. -/
def exampleService : NotionWriteService Empty where
  enabled := true
  validator :=
    { allowedPages := []
      allowedDatabases := ["dbxyz789".toList]
      editableFields :=
        [("row_in_dbxyz789".toList,
          [("status".toList, .dict
            [("type".toList, .str "status".toList),
              ("options".toList,
                .list [.str "todo".toList, .str "done".toList])])])]
      databaseTemplates := [] }
  respond := fun _ => .ok []

/-- The texts and dates of the example. -/
def exampleRuntime : Runtime Empty := ⟨fun _ => [], fun _ => false⟩

/-- Naming the allowlisted database next to a row of the other one updates that row. -/
theorem not_contained_foreign_row :
    ¬ Contained exampleRuntime exampleService exampleWorkspace
      (.updateRow "db-xyz-789".toList "row-456".toList
        [("status".toList, .str "done".toList)]) := by
  intro contained
  have passed : checks exampleRuntime exampleService
      (.updateRow "db-xyz-789".toList "row-456".toList
        [("status".toList, .str "done".toList)]) = .ok () := by rfl
  have call : ClientCall.updateRow "row-456".toList
      [("status".toList, .dict [("status".toList,
        .dict [("name".toList, .str "done".toList)])])] ∈
      (perform exampleRuntime exampleService
        (.updateRow "db-xyz-789".toList "row-456".toList
          [("status".toList, .str "done".toList)])).calls :=
    mem_calls_updateRow.mpr ⟨passed, nofun, _, rfl, rfl⟩
  obtain ⟨database, inside, id, listed, named⟩ :=
    contained.1 _ call "row456".toList (by decide)
  obtain rfl : "dbother".toList = database := Option.some.inj inside
  obtain rfl : id = "dbxyz789".toList := by simpa [exampleService] using listed
  exact absurd named (by decide)

end NotionWriteService
end Notion
end ChatPlatform
