import ChatPlatform.Store.Database

/-!
# The usage events route

The audit read of the usage events: filters, an order by time and identifier, a page.
It is not limited to a tenant.
-/

namespace ChatPlatform

/-- A usage event as the database holds it. -/
structure UsageEventRecord where
  /-- What the chat route stored. -/
  row : UsageEventRow
  /-- When it was stored. -/
  timestamp : Int
  /-- What the user thought of the answer. -/
  feedback : Option Str := none
  /-- When the user said so. -/
  feedbackUpdatedAt : Option Int := none
  deriving DecidableEq

/-- Direction of the listing. -/
inductive ListingOrder
  | asc
  | desc
  deriving DecidableEq, Repr

/-- The parameters of the listing. -/
structure UsageEventQuery where
  /-- Length of the page. -/
  limit : Nat := 50
  /-- A page has an event at least and 200 at most. -/
  limitFits : 1 ≤ limit ∧ limit ≤ 200 := by decide
  /-- Where the page begins. -/
  offset : Nat := 0
  /-- Direction. -/
  order : ListingOrder := .desc
  /-- Not before this time. -/
  fromDt : Option Int := none
  /-- Not after this time. -/
  toDt : Option Int := none
  /-- Of this provider. -/
  provider : Option Str := none
  /-- Of this model. -/
  modelVersion : Option Str := none
  /-- Of this request. -/
  requestId : Option Uuid := none
  /-- Of this conversation. -/
  conversationId : Option Uuid := none
  /-- With this status. -/
  status : Option ChatStatus := none

namespace UsageEventQuery

/-- The event passes every filter that is given; a comparison with a column that is
null passes none. -/
def selects (query : UsageEventQuery) (event : UsageEventRecord) : Bool :=
  query.fromDt.all (· ≤ event.timestamp) &&
    query.toDt.all (event.timestamp ≤ ·) &&
    query.provider.all (event.row.provider = ·) &&
    query.modelVersion.all (event.row.modelVersion = ·) &&
    query.requestId.all (event.row.requestId = ·) &&
    query.conversationId.all (event.row.conversationId = some ·) &&
    query.status.all (event.row.status = ·)

/-- One event is listed before another one: by time, then by identifier. -/
def precedes (query : UsageEventQuery) (left right : UsageEventRecord) : Prop :=
  match query.order with
  | .asc =>
      left.timestamp < right.timestamp ∨
        left.timestamp = right.timestamp ∧ left.row.id.value ≤ right.row.id.value
  | .desc =>
      right.timestamp < left.timestamp ∨
        left.timestamp = right.timestamp ∧ right.row.id.value ≤ left.row.id.value

instance (query : UsageEventQuery) : DecidableRel query.precedes := by
  intro left right
  unfold precedes
  cases query.order <;> infer_instance

end UsageEventQuery

/-- List usage events; `none` refuses a range that ends before it begins. -/
def listUsageEvents
    (query : UsageEventQuery)
    (events : List UsageEventRecord) : Option (List UsageEventRecord) :=
  if query.fromDt.any (fun first => query.toDt.any (· < first)) then none
  else some
    ((((events.filter query.selects).insertionSort query.precedes).drop
      query.offset).take query.limit)

/-- A map that keeps what filters and order read commutes with the listing. -/
theorem listUsageEvents_map
    {query : UsageEventQuery}
    {change : UsageEventRecord → UsageEventRecord}
    (sameSelection : ∀ event, query.selects (change event) = query.selects event)
    (sameOrder : ∀ left right,
      query.precedes (change left) (change right) ↔ query.precedes left right)
    (events : List UsageEventRecord) :
    listUsageEvents query (events.map change) =
      (listUsageEvents query events).map (·.map change) := by
  unfold listUsageEvents
  split
  · rfl
  · have selected : (events.map change).filter query.selects =
        (events.filter query.selects).map change := by
      rw [List.filter_map]
      congr 1
      exact List.filter_congr fun event _ => sameSelection event
    have sorted : ((events.filter query.selects).map change).insertionSort
        query.precedes =
          ((events.filter query.selects).insertionSort query.precedes).map change :=
      (List.map_insertionSort _ _ _ _ fun left _ right _ =>
        (sameOrder left right).symm).symm
    rw [selected, sorted, Option.map_some, List.map_take, List.map_drop]

end ChatPlatform
