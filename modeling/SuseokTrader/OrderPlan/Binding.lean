import SuseokTrader.Gateway.Ledger
import SuseokTrader.LiveSim.Orders

/-!
# Bindings of order plans

A plan row is upserted under an identifier derived from its key, so a caller that
means one version of it passes a binding: the identifiers of the row and the digest
of its canonical snapshot, under a digest of their own.
-/

namespace SuseokTrader

/-- A row of `order_plan_drafts`. -/
structure OrderPlanDraft where
  orderPlanId : String
  idempotencyKey : String
  tradeDate : String
  candidateInstanceId : String
  code : String
  name : String
  side : String
  status : String
  setupType : String
  entryTimingState : String
  priceLocationState : String
  themeId : Option String
  themeName : Option String
  themeState : Option String
  themeRank : Option Int
  stockRole : Option String
  priorityScore : Option Rat
  currentPrice : Rat
  limitPrice : Rat
  limitPriceSource : String
  limitPriceOffsetTicks : Int
  suggestedQuantity : Int
  suggestedNotional : Rat
  maxNotional : Rat
  riskBudgetSource : String
  expiresAt : String
  reasonCodes : List String
  evidence : Payload
  observeOnly : Bool
  notOrderIntent : Bool
  createdAt : String
  entryTimingEvaluationId : Option String
  strategyObservationId : Option String
  riskObservationId : Option String
  sourceRunId : Option String
  sourceWatermark : Payload
  sourceWatermarkHash : Option String
  sourceEventId : Option String
  sourceObservedAt : Option String
  dataAgeSec : Option Rat
  generatedBy : Option String

instance : Keyed OrderPlanDraft String := ⟨OrderPlanDraft.orderPlanId⟩

/-- The execution binding of one version of a plan. -/
structure OrderPlanBinding where
  contract : String
  orderPlanId : String
  idempotencyKey : String
  tradeDate : String
  candidateInstanceId : String
  entryTimingEvaluationId : String
  strategyObservationId : String
  riskObservationId : String
  sourceRunId : String
  sourceWatermarkHash : String
  expiresAt : String
  orderPlanSnapshotSha256 : String
  bindingSha256 : String

def orderPlanBindingContract : String := "live-sim-order-plan-binding.v1"

/-! ## Snapshots -/

def integerOrNull (value : Option Int) : Json :=
  (value.map Json.int).getD .null

variable (host : LiveSimHost)

def realOrNull (value : Option Rat) : Json :=
  (value.map fun value => Json.float (host.priceText value)).getD .null

def normalizedTimestamp (value fieldName : String) : Checked String := do
  let instant ← parseTimestamp (.str value) fieldName
  return datetimeToWire instant

def optionalNormalizedTimestamp (value : Option String) (fieldName : String) :
    Checked (Option String) :=
  match value with
  | none => .ok none
  | some value => do
      let text ← normalizedTimestamp value fieldName
      return some text

def canonicalOrderPlanSnapshot (plan : OrderPlanDraft) :
    Checked Payload := do
  let expiresAt ← normalizedTimestamp plan.expiresAt "expires_at"
  let createdAt ← normalizedTimestamp plan.createdAt "created_at"
  let sourceObservedAt ← optionalNormalizedTimestamp plan.sourceObservedAt "source_observed_at"
  return [("order_plan_id", .str plan.orderPlanId),
    ("idempotency_key", .str plan.idempotencyKey), ("trade_date", .str plan.tradeDate),
    ("candidate_instance_id", .str plan.candidateInstanceId), ("code", .str plan.code),
    ("name", .str plan.name), ("side", .str plan.side), ("status", .str plan.status),
    ("setup_type", .str plan.setupType), ("entry_timing_state", .str plan.entryTimingState),
    ("price_location_state", .str plan.priceLocationState), ("theme_id", textOrNull plan.themeId),
    ("theme_name", textOrNull plan.themeName), ("theme_state", textOrNull plan.themeState),
    ("theme_rank", integerOrNull plan.themeRank), ("stock_role", textOrNull plan.stockRole),
    ("priority_score", realOrNull host plan.priorityScore),
    ("current_price", realOrNull host plan.currentPrice),
    ("limit_price", realOrNull host plan.limitPrice),
    ("limit_price_source", .str plan.limitPriceSource),
    ("limit_price_offset_ticks", .int plan.limitPriceOffsetTicks),
    ("suggested_quantity", .int plan.suggestedQuantity),
    ("suggested_notional", realOrNull host plan.suggestedNotional),
    ("max_notional", realOrNull host plan.maxNotional),
    ("risk_budget_source", .str plan.riskBudgetSource), ("expires_at", .str expiresAt),
    ("observe_only", .bool plan.observeOnly), ("not_order_intent", .bool plan.notOrderIntent),
    ("created_at", .str createdAt),
    ("entry_timing_evaluation_id", textOrNull plan.entryTimingEvaluationId),
    ("strategy_observation_id", textOrNull plan.strategyObservationId),
    ("risk_observation_id", textOrNull plan.riskObservationId),
    ("source_run_id", textOrNull plan.sourceRunId),
    ("source_watermark_hash", textOrNull plan.sourceWatermarkHash),
    ("source_event_id", textOrNull plan.sourceEventId),
    ("source_observed_at", textOrNull sourceObservedAt),
    ("data_age_sec", realOrNull host plan.dataAgeSec),
    ("generated_by", textOrNull plan.generatedBy),
    ("reason_codes", .arr (plan.reasonCodes.map .str)), ("evidence_json", .obj plan.evidence),
    ("source_watermark", .obj plan.sourceWatermark)]

def sha256Mapping (mapping : Payload) : String :=
  hashPayloadJson (canonicalJson mapping)

/-! ## Bindings -/

def requiredText (value : Option String) (fieldName : String) : Checked String :=
  match value with
  | none => Checked.invalid (fieldName ++ " is required")
  | some value =>
      if Text.strip value = "" then Checked.invalid (fieldName ++ " is required") else .ok value

namespace OrderPlanBinding

/-- What the digest of a binding covers. -/
def payload (binding : OrderPlanBinding) : Payload :=
  [("contract", .str binding.contract), ("order_plan_id", .str binding.orderPlanId),
    ("idempotency_key", .str binding.idempotencyKey), ("trade_date", .str binding.tradeDate),
    ("candidate_instance_id", .str binding.candidateInstanceId),
    ("entry_timing_evaluation_id", .str binding.entryTimingEvaluationId),
    ("strategy_observation_id", .str binding.strategyObservationId),
    ("risk_observation_id", .str binding.riskObservationId),
    ("source_run_id", .str binding.sourceRunId),
    ("source_watermark_hash", .str binding.sourceWatermarkHash),
    ("expires_at", .str binding.expiresAt),
    ("order_plan_snapshot_sha256", .str binding.orderPlanSnapshotSha256)]

def sealed (binding : OrderPlanBinding) : OrderPlanBinding :=
  { binding with bindingSha256 := sha256Mapping binding.payload }

end OrderPlanBinding

def buildOrderPlanBinding (plan : OrderPlanDraft) :
    Checked OrderPlanBinding := do
  let orderPlanId ← requiredText plan.orderPlanId "order_plan_id"
  let idempotencyKey ← requiredText plan.idempotencyKey "idempotency_key"
  let tradeDate ← requiredText plan.tradeDate "trade_date"
  let candidateId ← requiredText plan.candidateInstanceId "candidate_instance_id"
  let evaluationId ← requiredText plan.entryTimingEvaluationId "entry_timing_evaluation_id"
  let strategyId ← requiredText plan.strategyObservationId "strategy_observation_id"
  let riskId ← requiredText plan.riskObservationId "risk_observation_id"
  let sourceRunId ← requiredText plan.sourceRunId "source_run_id"
  let watermarkHash ← requiredText plan.sourceWatermarkHash "source_watermark_hash"
  if !isSha256 watermarkHash then
    Checked.invalid "source_watermark_hash must be a lowercase SHA-256"
  else
    let expiresAt ← normalizedTimestamp plan.expiresAt "expires_at"
    let snapshot ← canonicalOrderPlanSnapshot host plan
    return OrderPlanBinding.sealed {
      contract := orderPlanBindingContract
      orderPlanId := orderPlanId
      idempotencyKey := idempotencyKey
      tradeDate := tradeDate
      candidateInstanceId := candidateId
      entryTimingEvaluationId := evaluationId
      strategyObservationId := strategyId
      riskObservationId := riskId
      sourceRunId := sourceRunId
      sourceWatermarkHash := watermarkHash
      expiresAt := expiresAt
      orderPlanSnapshotSha256 := sha256Mapping snapshot
      bindingSha256 := "" }

def bindingsMatch (first second : OrderPlanBinding) : Bool :=
  first.bindingSha256 ≠ "" && first.bindingSha256 = second.bindingSha256 &&
    first.orderPlanSnapshotSha256 = second.orderPlanSnapshotSha256 &&
    first.orderPlanId = second.orderPlanId

end SuseokTrader
