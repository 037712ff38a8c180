import SuseokTrader.LiveSim.Runs
import SuseokTrader.OrderPlan.Eligibility

/-!
# Intents from order plans

Each statement of a creation reads or writes on its own, so between two of them
other calls may read and write too. A creation that runs inside the transaction of
its caller is one whose statements follow each other. Queueing holds the write lock
from its second look at the intent to the commit, so it is one step.
-/

namespace SuseokTrader

/-! ## Calls -/

structure CreateRequest where
  orderPlanId : String
  expected : Option OrderPlanBinding

inductive CreateCall where
  | idle
  | begun (request : CreateRequest)
  | looked (request : CreateRequest)
  | planRead (request : CreateRequest) (plan : OrderPlanDraft)
  | built (request : CreateRequest) (planned : PlannedIntent)
  | unheld (request : CreateRequest) (planned : PlannedIntent)

structure PlanStore where
  store : LiveSimStore
  plans : Table OrderPlanDraft
  planIntents : Table PlanIntent
  calls : String → CreateCall

inductive PlanOutcome where
  | pending
  | created (planned : PlannedIntent)
  | returned (intent : LiveSimIntent)
  /-- An intent that is not stored, with the reasons against it. -/
  | rejected (reasons : List String)
  | refused (message : String)
  | crashed (message : String)
  | queued

namespace PlanStore

def live (state : PlanStore) : LiveSimTables :=
  state.store.live

variable (state : PlanStore)

def goOn (call : String) (phase : CreateCall) : PlanStore × PlanOutcome :=
  ({ state with calls := Function.update state.calls call phase }, .pending)

/-- The call is over and has written nothing. Rows of rejections and errors are a log of their
own that no check reads. -/
def finish (call : String) (outcome : PlanOutcome) :
    PlanStore × PlanOutcome :=
  ({ state with calls := Function.update state.calls call .idle }, outcome)

def intentColumnsByPlan (orderPlanId : String) : Option PlanIntent :=
  state.planIntents.rows.find? fun columns => columns.orderPlanId = orderPlanId

def findLiveSimIntentByOrderPlan (orderPlanId : String) :
    Option PlannedIntent := do
  let columns ← state.intentColumnsByPlan orderPlanId
  let intent ← state.live.intents.find? columns.liveSimIntentId
  return ⟨intent, columns⟩

def intentByIdempotencyKey (key : String) : Option LiveSimIntent :=
  state.live.intents.rows.find? fun intent => intent.idempotencyKey = key

end PlanStore

/-! ## The statements of a creation -/

def bindingInvalid : String := "ORDER_PLAN_BINDING_INVALID"

variable (state : PlanStore)

/-- The checks on the request. The reasons are those of the validation of its binding. -/
def beginCreate (call orderPlanId : String)
    (expected : Option OrderPlanBinding) (validationReasons : List String) :
    PlanStore × PlanOutcome :=
  match requireNonEmptyStr (.str orderPlanId) "order_plan_id" with
  | .error failure => state.finish call (.refused failure.text)
  | .ok planId =>
      match expected with
      | none => state.goOn call (.begun ⟨planId, none⟩)
      | some binding =>
          if validationReasons ≠ [] then
            state.finish call
              (.refused (String.intercalate "," (bindingInvalid :: validationReasons)))
          else if Text.strip binding.orderPlanId ≠ orderPlanId then
            state.finish call (.refused bindingInvalid)
          else state.goOn call (.begun ⟨planId, some binding⟩)

variable (host : LiveSimHost)

/-- An active intent of the plan is returned, unless it froze another binding. -/
def lookForIntent (state : PlanStore) (call : String) :
    PlanStore × PlanOutcome :=
  match state.calls call with
  | .begun request =>
      match state.findLiveSimIntentByOrderPlan request.orderPlanId with
      | none => state.goOn call (.looked request)
      | some existing =>
          if existing.intent.status = .created ∨ existing.intent.status = .commandQueued then
            match request.expected with
            | none => state.finish call (.returned existing.intent)
            | some binding =>
                if intentBindingMatches host existing.columns binding then
                  state.finish call (.returned existing.intent)
                else state.finish call (.refused bindingInvalid)
          else state.goOn call (.looked request)
  | _ => (state, .pending)

def readPlan (call : String) (gateReasons : List String) :
    PlanStore × PlanOutcome :=
  match state.calls call with
  | .looked request =>
      match state.plans.find? request.orderPlanId with
      | none =>
          state.finish call (.rejected (mergeReasons (gateReasons ++ ["ORDER_PLAN_NOT_FOUND"])))
      | some plan => state.goOn call (.planRead request plan.asRead)
  | _ => (state, .pending)

variable (settings : LiveSimPlanSettings)

/-- The intent of an eligible plan, if its binding is the expected one. -/
def buildPlannedIntent (request : CreateRequest) (plan : OrderPlanDraft) (readings : PlanReadings) :
    Checked PlannedIntent := do
  let binding ← buildOrderPlanBinding host plan
  match request.expected with
  | some expected =>
      if bindingsMatch binding expected then
        buildIntentFromEligibility host settings plan binding readings
      else Checked.invalid bindingInvalid
  | none => buildIntentFromEligibility host settings plan binding readings

def checkPlan (state : PlanStore)
    (call : String) (readings : PlanReadings) : PlanStore × PlanOutcome :=
  match state.calls call with
  | .planRead request plan =>
      let isDuplicate := (state.intentColumnsByPlan request.orderPlanId).isSome
      match evaluateLiveSimOrderPlanEligibility host settings plan isDuplicate none readings with
      | .error failure => state.finish call (.refused failure.text)
      | .ok (reason :: reasons) => state.finish call (.rejected (reason :: reasons))
      | .ok [] =>
          match buildPlannedIntent host settings request plan readings with
          | .error failure => state.finish call (.refused failure.text)
          | .ok planned => state.goOn call (.built request planned)
  | _ => (state, .pending)

/-- An intent that holds the key is returned as it is. -/
def lookForKey (call : String) : PlanStore × PlanOutcome :=
  match state.calls call with
  | .built request planned =>
      match state.intentByIdempotencyKey planned.intent.idempotencyKey with
      | some existing => state.finish call (.returned existing)
      | none => state.goOn call (.unheld request planned)
  | _ => (state, .pending)

/-- The row of the intent: identifier, key and plan are unique. -/
def insertPlannedIntent (planned : PlannedIntent) : Option PlanStore :=
  if (state.intentColumnsByPlan planned.columns.orderPlanId).isSome then none
  else do
    let intents ← insertIntent state.live.intents planned.intent
    let planIntents ← state.planIntents.insert? planned.columns
    return { state with
      store := { state.store with live := { state.live with intents := intents } }
      planIntents := planIntents }

def insertCreated (call : String) : PlanStore × PlanOutcome :=
  match state.calls call with
  | .unheld _ planned =>
      match insertPlannedIntent state planned with
      | some written => written.finish call (.created planned)
      | none => state.finish call (.crashed "UNIQUE constraint failed: live_sim_intents")
  | _ => (state, .pending)

/-! ## Queueing -/

def rejectedIntent (intent : LiveSimIntent) : LiveSimIntent :=
  if intent.status = .created then { intent with status := .rejected } else intent

theorem key_rejectedIntent (intent : LiveSimIntent) :
    Keyed.key (rejectedIntent intent) = Keyed.key intent := by
  rw [rejectedIntent]
  split <;> rfl

def reachesBinding (settings : LiveSimBuySettings) (tables : LiveSimTables)
    (intent : LiveSimIntent) (readings : BuyReadings) : Bool :=
  intent.status = .created && intent.side = .buy &&
    orderQueueReasons settings tables intent readings = [] &&
    queueBoundaryReasons intent readings = []

/-- Queueing, where the reasons of the plan's binding reject the intent for good. -/
def queueBoundOrder (store : LiveSimStore)
    (liveSimIntentId : String) (readings : BuyReadings) (bindingReasons : List String) :
    LiveSimStore × Checked Unit :=
  match store.live.intents.find? liveSimIntentId with
  | none => (store, Checked.invalid ("LIVE_SIM intent not found: " ++ liveSimIntentId))
  | some intent =>
      if reachesBinding settings.toLiveSimBuySettings store.live intent readings &&
          bindingReasons ≠ [] then
        let rejected :=
          store.live.updateIntent liveSimIntentId rejectedIntent key_rejectedIntent
        let reasons := mergeReasons (bindingInvalid :: bindingReasons)
        ({ store with live := rejected }, Checked.invalid (String.intercalate "," reasons))
      else
        queueLiveSimOrderCommand host settings.toLiveSimBuySettings store liveSimIntentId readings

def queueOutcome : Checked Unit → PlanOutcome
  | .ok () => .queued
  | .error (.invalid message) => .refused message
  | .error (.crash message) => .crashed message

/-! ## The system -/

/-- The statements of all calls, and the rows that the entry timing saves. -/
inductive PlanOp where
  | savePlan (plan : OrderPlanDraft)
  | begin (call orderPlanId : String) (expected : Option OrderPlanBinding)
      (validationReasons : List String)
  | look (call : String)
  | readPlan (call : String) (gateReasons : List String)
  | check (call : String) (settings : LiveSimPlanSettings) (readings : PlanReadings)
  | lookKey (call : String)
  | insert (call : String)
  | queue (liveSimIntentId : String) (settings : LiveSimPlanSettings) (readings : BuyReadings)
      (bindingReasons : List String)

def planStep (host : LiveSimHost) (state : PlanStore) : PlanOp → PlanStore × PlanOutcome
  | .savePlan plan => ({ state with plans := state.plans.upsert plan }, .pending)
  | .begin call orderPlanId expected validationReasons =>
      beginCreate state call orderPlanId expected validationReasons
  | .look call => lookForIntent host state call
  | .readPlan call gateReasons => readPlan state call gateReasons
  | .check call settings readings => checkPlan host settings state call readings
  | .lookKey call => lookForKey state call
  | .insert call => insertCreated state call
  | .queue liveSimIntentId settings readings bindingReasons =>
      let result := queueBoundOrder host settings state.store liveSimIntentId readings
        bindingReasons
      ({ state with store := result.1 }, queueOutcome result.2)

def planSystem : System PlanStore PlanOp PlanOutcome where
  step := planStep host

end SuseokTrader
