import SuseokTrader.Lib.Slots
import SuseokTrader.Lib.Sorting
import SuseokTrader.OrderPlan.Races

/-!
# Which plans a pilot cycle reaches

A cycle of the pilot pipeline ranks the ready plans, cuts the ranking at the
limit, and only then asks of each plan whether it is eligible. So a plan that is
not eligible holds a slot, and the next cycle finds it in the same place.
-/

namespace SuseokTrader

/-! ## The selection -/

/-- The place in the ranking: the highest priority first, then the newest. -/
def OrderPlanDraft.place (plan : OrderPlanDraft) : ℚ ×ₗ Stringᵒᵈ ×ₗ String :=
  toLex (-plan.priorityScore.getD 0, toLex (OrderDual.toDual plan.createdAt, plan.orderPlanId))

def rankedPlans (plans : List OrderPlanDraft) : List OrderPlanDraft :=
  plans.insertionSort fun first second => first.place ≤ second.place

variable (latest : Table OrderPlanDraft) (tradeDate : Option String)

def plansOfDay :
    List OrderPlanDraft :=
  latest.rows.filter fun plan => tradeDate.all fun day => plan.tradeDate = day

def isPlanReady (now : Instant) (plan : OrderPlanDraft) : Bool :=
  plan.status = "PLAN_READY" && datetimeToWire now < plan.expiresAt

/-- `_bounded_limit` -/
def boundedPlanLimit (limit : Int) : Int :=
  min (max limit 1) 500

def selectLiveSimOrderPlanCandidates (limit : Int) (now : Instant) : List OrderPlanDraft :=
  (rankedPlans ((plansOfDay latest tradeDate).filter (isPlanReady now))).take
    (boundedPlanLimit limit).toNat

/-- `limit or settings.live_sim_order_plan_max_plans_per_run` -/
def chosenLimit (limit : Option Int) (maxPlansPerRun : Int) : Int :=
  match limit with
  | none => maxPlansPerRun
  | some limit => if limit = 0 then maxPlansPerRun else limit

/-! ## The cycle -/

/-- What a cycle is called with and reads beside its plans: the readings of an eligibility, and
the intent to queue with those of the queueing, if it queues. -/
structure PilotCall where
  settings : LiveSimPlanSettings
  maxPlansPerRun : Int
  tradeDate : Option String
  limit : Option Int
  now : Instant
  readings : PlanStore → OrderPlanDraft → PlanReadings
  queues : PlanStore → OrderPlanDraft → Option (String × BuyReadings)

/-- The stored plans, and those of them that are the latest of their candidates. -/
structure PilotState where
  state : PlanStore
  latest : Table OrderPlanDraft

namespace PilotCall

variable (call : PilotCall)

def planLimit : Int :=
  chosenLimit call.limit call.maxPlansPerRun

def planReadings (latest : Table OrderPlanDraft) (state : PlanStore)
    (plan : OrderPlanDraft) : PlanReadings :=
  { call.readings state plan with
    seen := state.live
    isLatest := (latest.find? plan.orderPlanId).isSome }

variable (host : LiveSimHost)

variable (call : PilotCall)

def isEligible (latest : Table OrderPlanDraft)
    (state : PlanStore) (plan : OrderPlanDraft) : Bool :=
  match requireNonEmptyStr (.str plan.orderPlanId) "order_plan_id" with
  | .error _ => false
  | .ok planId =>
      match state.plans.find? planId with
      | none => false
      | some stored =>
          match evaluateLiveSimOrderPlanEligibility host call.settings stored.asRead
            (state.intentColumnsByPlan planId).isSome none
            (call.planReadings latest state plan) with
          | .ok [] => true
          | _ => false

/-- The statements that follow for an eligible plan. -/
def statements (latest : Table OrderPlanDraft) (state : PlanStore)
    (plan : OrderPlanDraft) : List PlanOp :=
  let readings := call.planReadings latest state plan
  [.begin "pilot" plan.orderPlanId none [], .look "pilot", .readPlan "pilot" readings.gateReasons,
    .check "pilot" call.settings readings, .lookKey "pilot", .insert "pilot"] ++
  match call.queues state plan with
  | none => []
  | some (intentId, queueReadings) => [.queue intentId call.settings queueReadings []]

def createIntent (latest : Table OrderPlanDraft)
    (state : PlanStore) (plan : OrderPlanDraft) : PlanStore :=
  (planSystem host).run state (call.statements latest state plan)

def selected (latest : Table OrderPlanDraft) : List OrderPlanDraft :=
  selectLiveSimOrderPlanCandidates latest call.tradeDate call.planLimit call.now

/-- The plans a cycle submits, and the store it leaves. -/
def run (pilot : PilotState) :
    List OrderPlanDraft × PlanStore :=
  serve (call.isEligible host pilot.latest) (call.createIntent host pilot.latest) pilot.state
    (call.selected pilot.latest)

def firstEligible (pilot : PilotState) :
    List OrderPlanDraft :=
  serveFirst (call.isEligible host pilot.latest) (call.createIntent host pilot.latest)
    call.planLimit.toNat pilot.state (rankedPlans (plansOfDay pilot.latest call.tradeDate))

end PilotCall

/-- The cycles, and whatever else writes the tables between them. -/
inductive PilotOp where
  | cycle (call : PilotCall)
  | elsewhere (after : PilotState)

variable (host : LiveSimHost)

def pilotSystem : System PilotState PilotOp (List OrderPlanDraft) where
  step pilot op :=
    match op with
    | .cycle call => ({ pilot with state := (call.run host pilot).2 }, (call.run host pilot).1)
    | .elsewhere after => (after, [])

/-! ## The law -/

/-- A cycle submits the first eligible plans. -/
def SubmitsFirstEligible (pilot : PilotState) : PilotOp → Prop
  | .cycle call => (call.run host pilot).1 = call.firstEligible host pilot
  | .elsewhere _ => True

/-- Each of the first eligible plans is among the first that are ready; and a cycle that may
submit no plan finds no eligible one in its slot. -/
def PilotSlotsSuffice (pilot : PilotState) : PilotOp → Prop
  | .cycle call =>
      (∀ plan ∈ call.firstEligible host pilot, plan ∈ call.selected pilot.latest) ∧
        (call.planLimit < 1 → ∀ plan ∈ call.selected pilot.latest,
          call.isEligible host pilot.latest pilot.state plan = false)
  | .elsewhere _ => True

theorem nodup_rankedPlans :
    (rankedPlans (plansOfDay latest tradeDate)).Nodup := by
  have distinct : latest.rows.Nodup := latest.nodup.of_map _
  exact (List.perm_insertionSort _ _).nodup_iff.mpr (distinct.filter _)

theorem PilotCall.selected_sublist (call : PilotCall) (latest : Table OrderPlanDraft) :
    (call.selected latest).Sublist (rankedPlans (plansOfDay latest call.tradeDate)) := by
  have stable := filter_insertionSort (fun first second => le_total first.place second.place)
    (fun _ _ _ first second => first.trans second) (isPlanReady call.now)
  apply (List.take_sublist _ _).trans
  rw [rankedPlans, ← stable]
  exact List.filter_sublist

def sellingPlan : OrderPlanDraft :=
  { samplePlan with orderPlanId := "plan-0", side := "SELL", priorityScore := some 1 }

def sellingPlanFirst : PilotState where
  state := { onePlanStored with plans := onePlanStored.plans.upsert sellingPlan }
  latest := onePlanStored.plans.upsert sellingPlan

def pilotCall : PilotCall where
  settings := samplePlanSettings
  maxPlansPerRun := 3
  tradeDate := none
  limit := some 1
  now := 63900000002000000
  readings := fun _ _ => samplePlanReadings "intent-1"
  queues := fun _ _ => none

end SuseokTrader
