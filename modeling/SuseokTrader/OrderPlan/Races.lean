import SuseokTrader.LiveSim.OrderLimits
import SuseokTrader.LiveSim.QueueLaws
import SuseokTrader.OrderPlan.Intents

/-!
# One order for a plan

The table of intents takes one row for a plan, and an intent is queued once, so a
plan has at most one order however the calls interleave. What a call answers that
loses the race depends on where it loses: a look-up returns the intent of the winner,
and the insert raises.
-/

namespace SuseokTrader

/-! ## The law -/

def isOrderFor (key : String) (row : CommandRow) : Bool :=
  row.commandType = "send_order" && row.idempotencyKey = some key

namespace PlanStore

def intentsOfPlan (state : PlanStore) (orderPlanId : String) : List PlanIntent :=
  state.planIntents.rows.filter fun columns => columns.orderPlanId = orderPlanId

def ordersOfPlan (state : PlanStore) (orderPlanId : String) : List CommandRow :=
  state.store.gateway.commands.rows.filter fun row =>
    (state.intentsOfPlan orderPlanId).any fun columns =>
      (state.live.intents.find? columns.liveSimIntentId).any fun intent =>
        isOrderFor intent.idempotencyKey row

def OneOrderPerPlan (state : PlanStore) : Prop :=
  ∀ orderPlanId, (state.intentsOfPlan orderPlanId).length ≤ 1 ∧
    (state.ordersOfPlan orderPlanId).length ≤ 1

def SameRows (state after : PlanStore) : Prop :=
  after.store = state.store ∧ after.planIntents = state.planIntents

structure IsIntentOf (host : LiveSimHost) (state : PlanStore) (request : CreateRequest)
    (planned : PlannedIntent) : Prop where
  found : state.findLiveSimIntentByOrderPlan request.orderPlanId = some planned
  bound : ∀ binding ∈ request.expected, intentBindingMatches host planned.columns binding

/-- The answers of a creation: its own intent, the intent that is there, or a refusal. -/
def Answers (host : LiveSimHost) (state after : PlanStore) (request : CreateRequest) :
    PlanOutcome → Prop
  | .pending | .rejected _ | .refused _ => SameRows state after
  | .created planned => after.IsIntentOf host request planned
  | .returned intent =>
      SameRows state after ∧ ∃ columns, state.IsIntentOf host request ⟨intent, columns⟩
  | .crashed _ | .queued => False

end PlanStore

def CreateCall.request? : CreateCall → Option CreateRequest
  | .idle => none
  | .begun request | .looked request | .planRead request _ | .built request _ |
      .unheld request _ => some request

variable (host : LiveSimHost)

/-- What a step answers to its caller. -/
def StepAnswers (state : PlanStore) (op : PlanOp) : Prop :=
  let after := (planSystem host).next state op
  let outcome := (planSystem host).output state op
  match op with
  | .savePlan _ => True
  | .begin .. => state.SameRows after
  | .look call | .readPlan call _ | .check call _ _ | .lookKey call | .insert call =>
      ∀ request ∈ (state.calls call).request?, state.Answers host after request outcome
  | .queue liveSimIntentId _ _ _ =>
      ∀ intent ∈ state.live.intents.find? liveSimIntentId, intent.status ≠ .created →
        state.SameRows after ∧ ∃ message, outcome = .refused message

def OnePlanOneOrder (state : PlanStore) (op : PlanOp) : Prop :=
  ((planSystem host).next state op).OneOrderPerPlan ∧ StepAnswers host state op

/-- An insert meets no row that was written since the look-ups of its call, and a row that holds
the key of a call is that of its plan, under the binding it expects. -/
def LosesAtLookUps (state : PlanStore) : PlanOp → Prop
  | .insert call =>
      match state.calls call with
      | .unheld _ planned =>
          state.intentColumnsByPlan planned.columns.orderPlanId = none ∧
            state.intentByIdempotencyKey planned.intent.idempotencyKey = none ∧
            state.live.intents.find? planned.intent.liveSimIntentId = none
      | _ => True
  | .lookKey call =>
      match state.calls call with
      | .built request planned =>
          ∀ existing ∈ state.intentByIdempotencyKey planned.intent.idempotencyKey,
            ∃ columns, state.IsIntentOf host request ⟨existing, columns⟩
      | _ => True
  | _ => True

/-! ## What every run keeps -/

def IsPlanKey (key : String) : Prop :=
  ∃ parts, key = Text.strip (String.intercalate ":" ("live_sim" :: "order_plan" :: parts))

/-- The intent that a call has built answers its request. -/
structure PlannedIntent.Answers (host : LiveSimHost) (planned : PlannedIntent)
    (request : CreateRequest) : Prop where
  orderPlanId : planned.columns.orderPlanId = request.orderPlanId
  liveSimIntentId : planned.columns.liveSimIntentId = planned.intent.liveSimIntentId
  stripped : Stripped planned.intent.idempotencyKey
  isPlanKey : IsPlanKey planned.intent.idempotencyKey
  bound : ∀ binding ∈ request.expected, intentBindingMatches host planned.columns binding

def CreateCall.Sound : CreateCall → Prop
  | .idle => True
  | .begun request | .looked request => Stripped request.orderPlanId
  | .planRead request plan =>
      Stripped request.orderPlanId ∧ plan.orderPlanId = request.orderPlanId
  | .built request planned | .unheld request planned => planned.Answers host request

structure PlanStore.Sound (host : LiveSimHost) (state : PlanStore) : Prop where
  plans : (state.planIntents.rows.map PlanIntent.orderPlanId).Nodup
  stored : ∀ columns ∈ state.planIntents.rows, ∃ intent ∈ state.live.intents.rows,
    intent.liveSimIntentId = columns.liveSimIntentId ∧ IsPlanKey intent.idempotencyKey
  keys : (state.live.intents.rows.map LiveSimIntent.idempotencyKey).Nodup
  stripped : ∀ intent ∈ state.live.intents.rows, Stripped intent.idempotencyKey
  owned : ∀ row ∈ state.store.gateway.commands.rows, ∀ key, IsPlanKey key → isOrderFor key row →
    ∃ intent ∈ state.live.intents.rows, intent.idempotencyKey = key ∧ intent.status ≠ .created
  single : ∀ key, IsPlanKey key →
    state.store.gateway.commands.rows.countP (isOrderFor key) ≤ 1
  calls : ∀ call, (state.calls call).Sound host

variable {host : LiveSimHost} {state : PlanStore}

theorem PlanStore.Sound.oneOrderPerPlan (sound : state.Sound host) : state.OneOrderPerPlan := by
  intro orderPlanId
  have single : (state.intentsOfPlan orderPlanId).length ≤ 1 := by
    have count := List.nodup_iff_count_le_one.mp sound.plans orderPlanId
    rw [PlanStore.intentsOfPlan, ← List.countP_eq_length_filter]
    rw [List.count, List.countP_map] at count
    exact count
  cases isPlan : state.intentsOfPlan orderPlanId with
  | nil => simp [PlanStore.ordersOfPlan, isPlan]
  | cons columns rest =>
      have only : rest = [] := by
        rw [isPlan, List.length_cons] at single
        exact List.length_eq_zero_iff.mp (by omega)
      have present : columns ∈ state.planIntents.rows := by
        have member : columns ∈ state.intentsOfPlan orderPlanId := by simp [isPlan]
        exact (List.mem_filter.mp member).1
      rcases sound.stored columns present with ⟨intent, isIntent, sameId, isKey⟩
      have found : state.live.intents.find? columns.liveSimIntentId = some intent := by
        rw [← sameId]
        exact Table.find?_of_mem isIntent
      have count := sound.single intent.idempotencyKey isKey
      rw [PlanStore.ordersOfPlan, isPlan, only, ← List.countP_eq_length_filter]
      simpa [found] using count

/-! ## Creations -/

section

variable {host : LiveSimHost} {state after : PlanStore} {call : String} {outcome : PlanOutcome}

structure PlanStore.MovesCall (host : LiveSimHost) (state after : PlanStore) (call : String) :
    Prop where
  rows : state.SameRows after
  phase : ∃ phase : CreateCall, phase.Sound host ∧
    after.calls = Function.update state.calls call phase

theorem PlanStore.movesCall_goOn (state : PlanStore) (call : String) {phase : CreateCall}
    (isSound : phase.Sound host) : state.MovesCall host (state.goOn call phase).1 call :=
  ⟨⟨rfl, rfl⟩, phase, isSound, rfl⟩

theorem PlanStore.movesCall_finish (state : PlanStore) (call : String) (outcome : PlanOutcome) :
    state.MovesCall host (state.finish call outcome).1 call :=
  ⟨⟨rfl, rfl⟩, .idle, trivial, rfl⟩

theorem PlanStore.Sound.movesCall_refl (sound : state.Sound host) (call : String) :
    state.MovesCall host state call :=
  ⟨⟨rfl, rfl⟩, state.calls call, sound.calls call, (Function.update_eq_self call _).symm⟩

theorem PlanStore.Sound.movesCall (sound : state.Sound host)
    (moves : state.MovesCall host after call) : after.Sound host := by
  rcases moves with ⟨⟨sameStore, sameIntents⟩, phase, isSound, calls⟩
  have sameLive : after.live = state.live := congrArg LiveSimStore.live sameStore
  constructor
  · rw [sameIntents]
    exact sound.plans
  · rw [sameIntents, sameLive]
    exact sound.stored
  · rw [sameLive]
    exact sound.keys
  · rw [sameLive]
    exact sound.stripped
  · rw [sameStore, sameLive]
    exact sound.owned
  · rw [sameStore]
    exact sound.single
  · intro other
    rw [calls]
    by_cases same : other = call
    · subst same
      rw [Function.update_self]
      exact isSound
    · rw [Function.update_of_ne same]
      exact sound.calls other

theorem beginCreate_moves (state : PlanStore) (call orderPlanId : String)
    (expected : Option OrderPlanBinding) (validationReasons : List String) :
    state.MovesCall host (beginCreate state call orderPlanId expected validationReasons).1
      call := by
  rw [beginCreate]
  split
  · exact state.movesCall_finish call _
  · next planId accepted =>
      have isStripped : Stripped planId := stripped_of_requireNonEmptyStr accepted
      split
      · apply state.movesCall_goOn
        exact isStripped
      · split
        · exact state.movesCall_finish call _
        · split
          · exact state.movesCall_finish call _
          · apply state.movesCall_goOn
            exact isStripped

structure PlanStore.LooksUp (host : LiveSimHost) (state : PlanStore) (call : String)
    (result : PlanStore × PlanOutcome) : Prop where
  moves : state.MovesCall host result.1 call
  answers : ∀ request ∈ (state.calls call).request?,
    state.Answers host result.1 request result.2

theorem PlanStore.Sound.looksUp_refl (sound : state.Sound host) (call : String) :
    state.LooksUp host call (state, .pending) :=
  ⟨sound.movesCall_refl call, fun _ _ => ⟨rfl, rfl⟩⟩

theorem PlanStore.looksUp_goOn (state : PlanStore) (call : String) {phase : CreateCall}
    (isSound : phase.Sound host) : state.LooksUp host call (state.goOn call phase) :=
  ⟨state.movesCall_goOn call isSound, fun _ _ => ⟨rfl, rfl⟩⟩

theorem PlanStore.looksUp_refused (state : PlanStore) (call message : String) :
    state.LooksUp host call (state.finish call (.refused message)) :=
  ⟨state.movesCall_finish call _, fun _ _ => ⟨rfl, rfl⟩⟩

theorem PlanStore.looksUp_rejected (state : PlanStore) (call : String) (reasons : List String) :
    state.LooksUp host call (state.finish call (.rejected reasons)) :=
  ⟨state.movesCall_finish call _, fun _ _ => ⟨rfl, rfl⟩⟩

variable {request : CreateRequest} {planned : PlannedIntent} {intent : LiveSimIntent}

theorem PlanStore.looksUp_returned (asked : (state.calls call).request? = some request)
    (isIntent : state.IsIntentOf host request planned) :
    state.LooksUp host call (state.finish call (.returned planned.intent)) := by
  refine ⟨state.movesCall_finish call _, ?_⟩
  intro other isRequest
  rw [asked, Option.mem_some] at isRequest
  subst isRequest
  exact ⟨⟨rfl, rfl⟩, planned.columns, isIntent⟩

theorem lookForIntent_looksUp (sound : state.Sound host) (call : String) :
    state.LooksUp host call (lookForIntent host state call) := by
  have here := sound.calls call
  rw [lookForIntent]
  split
  · next request isCall =>
      have asked : (state.calls call).request? = some request := by rw [isCall]; rfl
      rw [isCall] at here
      split
      · exact state.looksUp_goOn call here
      · next existing found =>
          split
          · split
            · next unbound =>
                refine state.looksUp_returned asked ⟨found, ?_⟩
                simp [unbound]
            · next binding isExpected =>
                split
                · next holds =>
                    refine state.looksUp_returned asked ⟨found, ?_⟩
                    simpa [isExpected] using holds
                · exact state.looksUp_refused call _
          · exact state.looksUp_goOn call here
  · exact sound.looksUp_refl call

theorem readPlan_looksUp (sound : state.Sound host) (call : String) (gateReasons : List String) :
    state.LooksUp host call (readPlan state call gateReasons) := by
  have here := sound.calls call
  rw [readPlan]
  split
  · next request isCall =>
      rw [isCall] at here
      split
      · exact state.looksUp_rejected call _
      · next plan found =>
          apply state.looksUp_goOn
          exact ⟨here, Table.key_of_find? found⟩
  · exact sound.looksUp_refl call

theorem eq_strip_of_requireNonEmptyStr {value fieldName text : String}
    (accepted : requireNonEmptyStr (.str value) fieldName = .ok text) :
    text = Text.strip value := by
  rw [requireNonEmptyStr] at accepted
  split at accepted
  · cases accepted
  · rw [Except.ok.injEq] at accepted
    exact accepted.symm

theorem isPlanKey_of_liveSimOrderPlanIdempotencyKey
    {tradeDate accountId orderPlanId code side key : String} {limitPrice : Rat} {quantity : Int}
    (success : liveSimOrderPlanIdempotencyKey host tradeDate accountId orderPlanId code side
      limitPrice quantity = .ok key) : IsPlanKey (Text.strip key) := by
  rcases Checked.bind_eq_ok.mp success with ⟨code, _, success⟩
  simp only [pure, Except.pure, Except.ok.injEq] at success
  subst success
  exact ⟨_, rfl⟩

theorem buildIntentFromEligibility_answers {settings : LiveSimPlanSettings}
    {plan : OrderPlanDraft} {binding : OrderPlanBinding} {readings : PlanReadings}
    (isStripped : Stripped request.orderPlanId)
    (samePlan : plan.orderPlanId = request.orderPlanId)
    (bound : ∀ expected ∈ request.expected, bindingsMatch binding expected)
    (success : buildIntentFromEligibility host settings plan binding readings = .ok planned) :
    planned.Answers host request := by
  rcases Checked.bind_eq_ok.mp success with ⟨code, _, success⟩
  rcases Checked.bind_eq_ok.mp success with ⟨planExpiry, _, success⟩
  rcases Checked.bind_eq_ok.mp success with ⟨key, isKey, success⟩
  rcases Checked.bind_eq_ok.mp success with ⟨intentId, _, success⟩
  rcases Checked.bind_eq_ok.mp success with ⟨candidateId, _, success⟩
  rcases Checked.bind_eq_ok.mp success with ⟨tradeDate, _, success⟩
  rcases Checked.bind_eq_ok.mp success with ⟨accountId, _, success⟩
  rcases Checked.bind_eq_ok.mp success with ⟨name, _, success⟩
  rcases Checked.bind_eq_ok.mp success with ⟨stored, isStored, success⟩
  rcases Checked.bind_eq_ok.mp success with ⟨orderPlanId, isPlanId, success⟩
  simp only [pure, Except.pure, Except.ok.injEq] at success
  subst success
  constructor
  · rw [eq_strip_of_requireNonEmptyStr isPlanId, samePlan]
    exact isStripped.strip_eq
  · rfl
  · exact stripped_of_requireNonEmptyStr isStored
  · rw [eq_strip_of_requireNonEmptyStr isStored]
    exact isPlanKey_of_liveSimOrderPlanIdempotencyKey isKey
  · exact bound

theorem buildPlannedIntent_answers {settings : LiveSimPlanSettings} {plan : OrderPlanDraft}
    {readings : PlanReadings} (isStripped : Stripped request.orderPlanId)
    (samePlan : plan.orderPlanId = request.orderPlanId)
    (success : buildPlannedIntent host settings request plan readings = .ok planned) :
    planned.Answers host request := by
  rcases Checked.bind_eq_ok.mp success with ⟨binding, _, success⟩
  split at success
  · next expected isExpected =>
      split at success
      · next holds =>
          refine buildIntentFromEligibility_answers isStripped samePlan ?_ success
          simpa [isExpected] using holds
      · cases success
  · next unbound =>
      refine buildIntentFromEligibility_answers isStripped samePlan ?_ success
      simp [unbound]

theorem checkPlan_looksUp (sound : state.Sound host) (settings : LiveSimPlanSettings)
    (call : String) (readings : PlanReadings) :
    state.LooksUp host call (checkPlan host settings state call readings) := by
  have here := sound.calls call
  rw [checkPlan]
  split
  · next request plan isCall =>
      rw [isCall] at here
      rcases here with ⟨isStripped, samePlan⟩
      dsimp only
      split
      · exact state.looksUp_refused call _
      · exact state.looksUp_rejected call _
      · split
        · exact state.looksUp_refused call _
        · next planned success =>
            apply state.looksUp_goOn
            exact buildPlannedIntent_answers isStripped samePlan success
  · exact sound.looksUp_refl call

/-! ## The look-up by key and the insert -/

theorem lookForKey_moves (sound : state.Sound host) (call : String) :
    state.MovesCall host (lookForKey state call).1 call := by
  have here := sound.calls call
  rw [lookForKey]
  split
  · next request planned isCall =>
      rw [isCall] at here
      split
      · exact state.movesCall_finish call _
      · exact state.movesCall_goOn call here
  · exact sound.movesCall_refl call

theorem lookForKey_answers_iff (call : String) :
    (∀ request ∈ (state.calls call).request?,
        state.Answers host (lookForKey state call).1 request (lookForKey state call).2) ↔
      LosesAtLookUps host state (.lookKey call) := by
  rw [lookForKey, LosesAtLookUps.eq_def]
  dsimp only
  cases isCall : state.calls call with
  | built request planned =>
      simp only [CreateCall.request?, Option.mem_some, forall_eq']
      cases found : state.intentByIdempotencyKey planned.intent.idempotencyKey with
      | none =>
          simp only [Option.mem_def, reduceCtorEq, false_imp_iff, implies_true, iff_true]
          exact ⟨rfl, rfl⟩
      | some existing =>
          simp only [Option.mem_some, forall_eq']
          constructor
          · intro answers
            exact answers.2
          · intro isIntent
            exact ⟨⟨rfl, rfl⟩, isIntent⟩
  | idle | begun request | looked request | planRead request plan | unheld request planned =>
      simp only [iff_true]
      intro request asked
      exact ⟨rfl, rfl⟩

/-- What the insert of a row needs of the tables, and what it makes of them. -/
structure PlanStore.Inserts (state after : PlanStore) (planned : PlannedIntent) : Prop where
  freshPlan : state.intentColumnsByPlan planned.columns.orderPlanId = none
  freshKey : state.intentByIdempotencyKey planned.intent.idempotencyKey = none
  intents : state.live.intents.insert? planned.intent = some after.live.intents
  columns : state.planIntents.insert? planned.columns = some after.planIntents
  gateway : after.store.gateway = state.store.gateway
  calls : after.calls = state.calls

theorem insertIntent_eq_some {intents after : Table LiveSimIntent} :
    insertIntent intents intent = some after ↔
      (intents.rows.find? fun other => other.idempotencyKey = intent.idempotencyKey) = none ∧
        intents.insert? intent = some after := by
  rw [insertIntent, List.find?_eq_none]
  split
  · next taken =>
      simp only [reduceCtorEq, false_iff, not_and]
      intro free
      rcases List.any_eq_true.mp taken with ⟨other, present, same⟩
      exact absurd same (free other present)
  · next untaken =>
      rw [Bool.not_eq_true, List.any_eq_false] at untaken
      exact ⟨fun inserted => ⟨untaken, inserted⟩, And.right⟩

theorem PlanStore.inserts_of_insertPlannedIntent
    (success : insertPlannedIntent state planned = some after) : state.Inserts after planned := by
  rw [insertPlannedIntent] at success
  split at success
  · cases success
  · next fresh =>
      rcases Option.bind_eq_some_iff.mp success with ⟨intents, isInserted, success⟩
      rcases Option.bind_eq_some_iff.mp success with ⟨columns, isColumns, success⟩
      rw [Option.pure_def, Option.some.injEq] at success
      subst success
      rcases insertIntent_eq_some.mp isInserted with ⟨freshKey, inserted⟩
      rw [Bool.not_eq_true, Option.isSome_eq_false_iff, Option.isNone_iff_eq_none] at fresh
      exact ⟨fresh, freshKey, inserted, isColumns, rfl, rfl⟩

theorem PlanStore.Sound.insertPlannedIntent_isSome_iff (sound : state.Sound host)
    (sameId : planned.columns.liveSimIntentId = planned.intent.liveSimIntentId) :
    (insertPlannedIntent state planned).isSome ↔
      state.intentColumnsByPlan planned.columns.orderPlanId = none ∧
        state.intentByIdempotencyKey planned.intent.idempotencyKey = none ∧
        state.live.intents.find? planned.intent.liveSimIntentId = none := by
  constructor
  · intro success
    rcases Option.isSome_iff_exists.mp success with ⟨after, success⟩
    have inserts := inserts_of_insertPlannedIntent success
    have free := Table.insert?_isSome_iff.mp (Option.isSome_of_eq_some inserts.intents)
    exact ⟨inserts.freshPlan, inserts.freshKey, free⟩
  · rintro ⟨freshPlan, freshKey, freshId⟩
    have inserts : (state.live.intents.insert? planned.intent).isSome :=
      Table.insert?_isSome_iff.mpr freshId
    rcases Option.isSome_iff_exists.mp inserts with ⟨intents, inserted⟩
    have freshColumns : state.planIntents.find? planned.columns.liveSimIntentId = none := by
      rw [Table.find?_eq_none]
      intro columns present same
      -- the row of the columns would hold the identifier of the intent
      rcases sound.stored columns present with ⟨intent, isIntent, isId, _⟩
      have free := Table.find?_eq_none.mp freshId intent isIntent
      exact free (isId.trans (same.trans sameId))
    have insertsColumns : (state.planIntents.insert? planned.columns).isSome :=
      Table.insert?_isSome_iff.mpr freshColumns
    rcases Option.isSome_iff_exists.mp insertsColumns with ⟨columns, isColumns⟩
    have isInserted := insertIntent_eq_some.mpr ⟨freshKey, inserted⟩
    simp [insertPlannedIntent, freshPlan, isInserted, isColumns]

theorem PlanStore.Sound.inserts (sound : state.Sound host)
    (answers : planned.Answers host request) (inserts : state.Inserts after planned) :
    after.Sound host := by
  have intentRows := Table.rows_of_insert? inserts.intents
  have columnRows := Table.rows_of_insert? inserts.columns
  constructor
  · rw [columnRows, List.map_append, List.map_singleton, ← List.concat_eq_append]
    refine sound.plans.concat ?_
    intro taken
    rcases List.mem_map.mp taken with ⟨columns, present, same⟩
    have free := List.find?_eq_none.mp inserts.freshPlan columns present
    simp [same] at free
  · intro columns present
    rw [intentRows]
    rw [columnRows, List.mem_append, List.mem_singleton] at present
    rcases present with before | rfl
    · rcases sound.stored columns before with ⟨intent, isIntent, sameId, isKey⟩
      exact ⟨intent, List.mem_append_left _ isIntent, sameId, isKey⟩
    · exact ⟨planned.intent, by simp, answers.liveSimIntentId.symm, answers.isPlanKey⟩
  · rw [intentRows, List.map_append, List.map_singleton, ← List.concat_eq_append]
    refine sound.keys.concat ?_
    intro taken
    rcases List.mem_map.mp taken with ⟨intent, present, same⟩
    have free := List.find?_eq_none.mp inserts.freshKey intent present
    simp [same] at free
  · intro intent present
    rw [intentRows, List.mem_append, List.mem_singleton] at present
    rcases present with before | rfl
    · exact sound.stripped intent before
    · exact answers.stripped
  · intro row present key isKey isOrder
    rw [inserts.gateway] at present
    rcases sound.owned row present key isKey isOrder with ⟨intent, isIntent, sameKey, queued⟩
    rw [intentRows]
    exact ⟨intent, List.mem_append_left _ isIntent, sameKey, queued⟩
  · rw [inserts.gateway]
    exact sound.single
  · rw [inserts.calls]
    exact sound.calls

theorem PlanStore.Inserts.isIntentOf (answers : planned.Answers host request)
    (inserts : state.Inserts after planned) :
    after.IsIntentOf host request planned where
  found := by
    have isColumns : after.intentColumnsByPlan request.orderPlanId = some planned.columns := by
      have fresh := inserts.freshPlan
      rw [answers.orderPlanId, intentColumnsByPlan] at fresh
      rw [intentColumnsByPlan, Table.rows_of_insert? inserts.columns, List.find?_append, fresh]
      simp [answers.orderPlanId]
    have isIntent := Table.find?_of_insert?_self inserts.intents
    rw [findLiveSimIntentByOrderPlan, isColumns, Option.bind_eq_bind, Option.bind_some,
      answers.liveSimIntentId]
    have isKey : Keyed.key planned.intent = planned.intent.liveSimIntentId := rfl
    rw [isKey] at isIntent
    rw [isIntent]
    rfl
  bound := answers.bound

theorem insertCreated_sound (sound : state.Sound host) (call : String) :
    (insertCreated state call).1.Sound host := by
  have here := sound.calls call
  rw [insertCreated]
  split
  · next request planned isCall =>
      rw [isCall] at here
      split
      · next written success =>
          have stored := sound.inserts here (PlanStore.inserts_of_insertPlannedIntent success)
          exact stored.movesCall (written.movesCall_finish call _)
      · exact sound.movesCall (state.movesCall_finish call _)
  · exact sound

theorem insertCreated_answers_iff (sound : state.Sound host) (call : String) :
    (∀ request ∈ (state.calls call).request?,
        state.Answers host (insertCreated state call).1 request (insertCreated state call).2) ↔
      LosesAtLookUps host state (.insert call) := by
  have here := sound.calls call
  rw [insertCreated, LosesAtLookUps.eq_def]
  dsimp only
  cases isCall : state.calls call with
  | unheld request planned =>
      rw [isCall] at here
      have room := sound.insertPlannedIntent_isSome_iff here.liveSimIntentId
      dsimp only
      rw [← room]
      simp only [CreateCall.request?, Option.mem_some, forall_eq']
      cases success : insertPlannedIntent state planned with
      | none =>
          simp only [Option.isSome_none, Bool.false_eq_true, iff_false]
          exact id
      | some written =>
          have inserts := PlanStore.inserts_of_insertPlannedIntent success
          have isIntent := inserts.isIntentOf here
          simp only [Option.isSome_some, iff_true]
          exact ⟨isIntent.found, isIntent.bound⟩
  | idle | begun request | looked request | planRead request plan | built request planned =>
      simp only [iff_true]
      intro request asked
      exact ⟨rfl, rfl⟩

/-! ## Queueing -/

/-- What queueing does to the intent: nothing, a rejection for good, or an order. -/
inductive BoundQueueEffect (host : LiveSimHost) (settings : LiveSimPlanSettings)
    (store : LiveSimStore) (liveSimIntentId : String) : LiveSimStore → Prop
  | nothing : BoundQueueEffect host settings store liveSimIntentId store
  | rejects : BoundQueueEffect host settings store liveSimIntentId
      ⟨store.gateway,
        store.live.updateIntent liveSimIntentId rejectedIntent key_rejectedIntent⟩
  | queues {after : LiveSimStore} (intent : LiveSimIntent) (readings : QueueReadings)
      (found : store.live.intents.find? liveSimIntentId = some intent)
      (created : intent.status = .created)
      (enqueued : ∃ result, enqueueOrder host settings.toLiveSimSettings store.gateway intent
        readings = .ok (result, after.gateway) ∧ result.accepted = true)
      (intents : after.live.intents = store.live.intents.update liveSimIntentId
        (queuedIntent readings.commandId) (key_queuedIntent _)) :
      BoundQueueEffect host settings store liveSimIntentId after

theorem boundQueueEffect (host : LiveSimHost) (settings : LiveSimPlanSettings)
    (store : LiveSimStore) (liveSimIntentId : String) (readings : BuyReadings)
    (bindingReasons : List String) :
    BoundQueueEffect host settings store liveSimIntentId
      (queueBoundOrder host settings store liveSimIntentId readings bindingReasons).1 := by
  rw [queueBoundOrder]
  split
  · exact .nothing
  · split
    · exact .rejects
    · have effect := orderQueueEffect host settings.toLiveSimBuySettings store liveSimIntentId
        readings
      generalize (queueLiveSimOrderCommand host settings.toLiveSimBuySettings store
        liveSimIntentId readings).1 = after at effect ⊢
      cases effect with
      | nothing => exact .nothing
      | queues intent found queues enqueued written =>
          have sameId : intent.liveSimIntentId = liveSimIntentId := Table.key_of_find? found
          have intents := written.intents
          rw [sameId] at intents
          exact .queues intent readings.toQueueReadings found queues.created enqueued intents

theorem commands_of_enqueueOrder {settings : LiveSimSettings} {gateway written : Database}
    {readings : QueueReadings} {result : EnqueueCommandResult}
    (enqueued : enqueueOrder host settings gateway intent readings = .ok (result, written))
    (accepted : result.accepted = true) :
    ∃ row, gateway.commands.insert? row = some written.commands ∧
      row.idempotencyKey = some (Text.strip intent.idempotencyKey) := by
  rcases Checked.bind_eq_ok.mp enqueued with ⟨command, isCommand, enqueued⟩
  rcases Checked.bind_eq_ok.mp enqueued with ⟨expiresAt, _, enqueued⟩
  rcases commands_of_enqueueCommand enqueued with ⟨_, inserted⟩ | ⟨refused, _⟩
  · exact ⟨_, inserted, (liveSimCommand_texts isCommand).2.2⟩
  · rw [accepted] at refused
    cases refused

/-- Changes of one intent that keep its key, beside changes of the commands. -/
theorem PlanStore.Sound.changesIntent (sound : state.Sound host) {store : LiveSimStore}
    (id : String) (change : LiveSimIntent → LiveSimIntent)
    (keeps : ∀ intent, Keyed.key (change intent) = Keyed.key intent)
    (sameKey : ∀ intent, (change intent).idempotencyKey = intent.idempotencyKey)
    (leaves : ∀ intent, (change intent).status ≠ .created ∨ (change intent) = intent)
    (intents : store.live.intents = state.live.intents.update id change keeps)
    (owned : ∀ row ∈ store.gateway.commands.rows, row ∈ state.store.gateway.commands.rows ∨
      ∀ key, isOrderFor key row → ∃ intent ∈ state.live.intents.rows,
        Keyed.key intent = id ∧ intent.idempotencyKey = key ∧
          (change intent).status ≠ .created)
    (single : ∀ key, IsPlanKey key →
      store.gateway.commands.rows.countP (isOrderFor key) ≤ 1) :
    ({ state with store := store } : PlanStore).Sound host := by
  have rows : store.live.intents.rows = state.live.intents.rows.map fun intent =>
      if Keyed.key intent = id then change intent else intent := by
    rw [intents, Table.update]
    simp
  have present : ∀ intent ∈ state.live.intents.rows,
      (if Keyed.key intent = id then change intent else intent) ∈ store.live.intents.rows := by
    intro intent isIntent
    rw [rows]
    exact List.mem_map_of_mem isIntent
  have sameKeys : store.live.intents.rows.map LiveSimIntent.idempotencyKey =
      state.live.intents.rows.map LiveSimIntent.idempotencyKey := by
    rw [rows, List.map_map]
    apply List.map_congr_left
    intro intent _
    rw [Function.comp_apply]
    split
    · exact sameKey intent
    · rfl
  constructor
  · exact sound.plans
  · intro columns isColumns
    rcases sound.stored columns isColumns with ⟨intent, isIntent, sameId, isKey⟩
    refine ⟨_, present intent isIntent, ?_⟩
    split
    · exact ⟨(keeps intent).trans sameId, by rw [sameKey]; exact isKey⟩
    · exact ⟨sameId, isKey⟩
  · change (store.live.intents.rows.map LiveSimIntent.idempotencyKey).Nodup
    rw [sameKeys]
    exact sound.keys
  · intro intent isIntent
    change intent ∈ store.live.intents.rows at isIntent
    rw [rows] at isIntent
    rcases List.mem_map.mp isIntent with ⟨old, isOld, rfl⟩
    split
    · rw [sameKey]
      exact sound.stripped old isOld
    · exact sound.stripped old isOld
  · intro row isRow key isKey isOrder
    rcases owned row isRow with before | new
    · rcases sound.owned row before key isKey isOrder with ⟨intent, isIntent, isOwner, queued⟩
      refine ⟨_, present intent isIntent, ?_⟩
      split
      · rcases leaves intent with left | same
        · exact ⟨(sameKey intent).trans isOwner, left⟩
        · rw [same]
          exact ⟨isOwner, queued⟩
      · exact ⟨isOwner, queued⟩
    · rcases new key isOrder with ⟨intent, isIntent, sameId, isOwner, queued⟩
      have changed := present intent isIntent
      rw [if_pos sameId] at changed
      exact ⟨_, changed, (sameKey intent).trans isOwner, queued⟩
  · exact single
  · exact sound.calls

theorem queueBoundOrder_sound (sound : state.Sound host) (settings : LiveSimPlanSettings)
    (liveSimIntentId : String) (readings : BuyReadings) (bindingReasons : List String) :
    ({ state with store := (queueBoundOrder host settings state.store liveSimIntentId readings
      bindingReasons).1 } : PlanStore).Sound host := by
  have effect := boundQueueEffect host settings state.store liveSimIntentId readings
    bindingReasons
  generalize (queueBoundOrder host settings state.store liveSimIntentId readings
    bindingReasons).1 = after at effect ⊢
  cases effect with
  | nothing => exact sound
  | rejects =>
      refine sound.changesIntent liveSimIntentId rejectedIntent key_rejectedIntent ?_ ?_ rfl
        (fun row isRow => Or.inl isRow) sound.single
      · intro intent
        rw [rejectedIntent]
        split <;> rfl
      · intro intent
        rw [rejectedIntent]
        split
        · exact Or.inl (by simp)
        · exact Or.inr rfl
  | queues intent readings found created enqueued intents =>
      rcases enqueued with ⟨result, enqueued, accepted⟩
      rcases commands_of_enqueueOrder enqueued accepted with ⟨row, inserted, isKey⟩
      have isIntent := Table.mem_of_find? found
      rw [(sound.stripped intent isIntent).strip_eq] at isKey
      have rows := Table.rows_of_insert? inserted
      refine sound.changesIntent liveSimIntentId (queuedIntent readings.commandId)
        (key_queuedIntent _) (fun _ => rfl) (fun _ => Or.inl ?_) intents ?_ ?_
      · simp [queuedIntent]
      · intro other isRow
        rw [rows, List.mem_append, List.mem_singleton] at isRow
        rcases isRow with before | rfl
        · exact Or.inl before
        · refine Or.inr ?_
          intro key isOrder
          simp only [isOrderFor, isKey, Option.some.injEq, Bool.and_eq_true,
            decide_eq_true_eq] at isOrder
          exact ⟨intent, isIntent, Table.key_of_find? found, isOrder.2, by simp [queuedIntent]⟩
      · intro key isPlanKey
        rw [rows, List.countP_append]
        by_cases same : key = intent.idempotencyKey
        · have none : state.store.gateway.commands.rows.countP (isOrderFor key) = 0 := by
            rw [List.countP_eq_zero]
            intro other isRow isOrder
            rcases sound.owned other isRow key isPlanKey isOrder with
              ⟨owner, isOwner, ownsKey, queued⟩
            have sameIntent := List.inj_on_of_nodup_map sound.keys isOwner isIntent
              (ownsKey.trans same)
            rw [sameIntent] at queued
            exact queued created
          rw [none, Nat.zero_add]
          exact List.countP_le_length
        · have other : isOrderFor key row = false := by
            simp [isOrderFor, isKey, Ne.symm same]
          rw [List.countP_singleton, other]
          exact sound.single key isPlanKey

theorem queueBoundOrder_lost (host : LiveSimHost) {store : LiveSimStore}
    {liveSimIntentId : String} (settings : LiveSimPlanSettings) (readings : BuyReadings)
    (bindingReasons : List String)
    (found : store.live.intents.find? liveSimIntentId = some intent)
    (taken : intent.status ≠ .created) :
    queueBoundOrder host settings store liveSimIntentId readings bindingReasons =
      (store, Checked.invalid
        ("LIVE_SIM intent cannot be queued from status: " ++ intent.status.value)) := by
  simp [queueBoundOrder, found, reachesBinding, taken, queueLiveSimOrderCommand]

/-! ## Along runs -/

theorem PlanStore.Sound.next (sound : state.Sound host) (op : PlanOp) :
    ((planSystem host).next state op).Sound host := by
  cases op with
  | savePlan plan => exact ⟨sound.plans, sound.stored, sound.keys, sound.stripped, sound.owned,
      sound.single, sound.calls⟩
  | begin call orderPlanId expected validationReasons =>
      exact sound.movesCall (beginCreate_moves state call orderPlanId expected validationReasons)
  | look call => exact sound.movesCall (lookForIntent_looksUp sound call).moves
  | readPlan call gateReasons => exact sound.movesCall (readPlan_looksUp sound call _).moves
  | check call settings readings => exact sound.movesCall (checkPlan_looksUp sound _ call _).moves
  | lookKey call => exact sound.movesCall (lookForKey_moves sound call)
  | insert call => exact insertCreated_sound sound call
  | queue liveSimIntentId settings readings bindingReasons =>
      exact queueBoundOrder_sound sound settings liveSimIntentId readings bindingReasons

theorem PlanStore.Sound.stepAnswers_iff (sound : state.Sound host) (op : PlanOp) :
    StepAnswers host state op ↔ LosesAtLookUps host state op := by
  rw [StepAnswers.eq_def, System.next, System.output, planSystem]
  cases op with
  | savePlan plan => exact Iff.rfl
  | begin call orderPlanId expected validationReasons =>
      have moves : state.MovesCall host _ call :=
        beginCreate_moves state call orderPlanId expected validationReasons
      exact iff_of_true moves.rows trivial
  | look call => exact iff_of_true (lookForIntent_looksUp sound call).answers trivial
  | readPlan call gateReasons => exact iff_of_true (readPlan_looksUp sound call _).answers trivial
  | check call settings readings =>
      exact iff_of_true (checkPlan_looksUp sound _ call _).answers trivial
  | lookKey call => exact lookForKey_answers_iff call
  | insert call => exact insertCreated_answers_iff sound call
  | queue liveSimIntentId settings readings bindingReasons =>
      refine iff_of_true ?_ trivial
      dsimp only [planStep]
      intro intent found taken
      have lost := queueBoundOrder_lost host settings readings bindingReasons found taken
      rw [lost]
      exact ⟨⟨rfl, rfl⟩, _, rfl⟩

end

def samplePlanSettings : LiveSimPlanSettings :=
  { sampleBuySettings with
    orderPlanAllowed := true
    orderPlanRoutingEnabled := true
    orderPlanAllowMarketOrder := false
    orderPlanMinNotional := 0
    orderPlanMaxNotional := 600000
    orderPlanMaxPriceDriftPct := 1
    entryTimingMaxSpreadTicks := 5 }

def samplePlan : OrderPlanDraft where
  orderPlanId := "plan-1"
  idempotencyKey := "plan-key-1"
  tradeDate := "2026-07-17"
  candidateInstanceId := "candidate-1"
  code := "005930"
  name := "sample"
  side := "BUY"
  status := "PLAN_READY"
  setupType := "PULLBACK"
  entryTimingState := "GOOD_PULLBACK"
  priceLocationState := "ABOVE_VWAP"
  themeId := none
  themeName := none
  themeState := none
  themeRank := none
  stockRole := none
  priorityScore := none
  currentPrice := 1000
  limitPrice := 1000
  limitPriceSource := "CURRENT_PRICE"
  limitPriceOffsetTicks := 0
  suggestedQuantity := 600
  suggestedNotional := 600000
  maxNotional := 600000
  riskBudgetSource := "DEFAULT"
  expiresAt := "2026-07-17T01:00:00Z"
  reasonCodes := []
  evidence := []
  observeOnly := true
  notOrderIntent := true
  createdAt := "2026-07-17T00:00:00Z"
  entryTimingEvaluationId := some "evaluation-1"
  strategyObservationId := some "strategy-1"
  riskObservationId := some "risk-1"
  sourceRunId := some "run-1"
  sourceWatermark := []
  sourceWatermarkHash := some "0123456789abcdef0123456789abcdef0123456789abcdef0123456789abcdef"
  sourceEventId := none
  sourceObservedAt := none
  dataAgeSec := none
  generatedBy := none

def samplePlanReadings (intentId : String) : PlanReadings where
  seen := .empty
  gateReasons := []
  isLatest := true
  admissionReasons := []
  latestPrice := some 1000
  spreadTicks := 1
  lineagePasses := true
  reconcileBlocks := false
  lifecycleErrors := false
  strategyObservationId := "strategy-1"
  riskObservationId := "risk-1"
  dryRunIntentId := none
  dryRunOrderId := none
  intentId := intentId
  now := 63900000002000000

def onePlanStored : PlanStore where
  store := emptyStore
  plans := Table.empty.upsert samplePlan
  planIntents := .empty
  calls := fun _ => .idle

theorem onePlanStored_sound (host : LiveSimHost) : onePlanStored.Sound host where
  plans := List.nodup_nil
  stored := by simp [onePlanStored]
  keys := List.nodup_nil
  stripped := by simp [onePlanStored, PlanStore.live, emptyStore, LiveSimTables.empty]
  owned := by simp [onePlanStored, emptyStore, freshStore, Database.empty]
  single := by simp [onePlanStored, emptyStore, freshStore, Database.empty]
  calls := fun _ => trivial

def looksUp (call intentId : String) : List PlanOp :=
  [.begin call "plan-1" none [], .look call, .readPlan call [],
    .check call samplePlanSettings (samplePlanReadings intentId), .lookKey call]

/-- Both calls have looked for an intent when the first one inserts its own. -/
def bothLookedUp : List PlanOp :=
  looksUp "first" "intent-1" ++ looksUp "second" "intent-2" ++ [.insert "first"]

def PlanOutcome.isCrash : PlanOutcome → Bool
  | .crashed _ => true
  | _ => false

theorem second_insert_crashes :
    ((planSystem sampleLiveSimHost).output
      ((planSystem sampleLiveSimHost).run onePlanStored bothLookedUp)
        (.insert "second")).isCrash ∧
    (((planSystem sampleLiveSimHost).run onePlanStored bothLookedUp).calls
      "second").request?.isSome := by
  decide +kernel

/-- The second call comes after the first one has inserted and queued its intent. -/
def oneAfterTheOther : List PlanOp :=
  looksUp "first" "intent-1" ++
    [.insert "first", .queue "intent-1" samplePlanSettings (buyReadings "command-1") [],
      .begin "second" "plan-1" none [], .look "second",
      .queue "intent-1" samplePlanSettings (buyReadings "command-2") []]

def PlanOutcome.isReturned : PlanOutcome → Bool
  | .returned _ => true
  | _ => false

theorem losesAtLookUps_of_unreturned {call : String}
    (goesOn : (lookForKey state call).2.isReturned = false) :
    LosesAtLookUps host state (.lookKey call) := by
  rw [LosesAtLookUps.eq_def]
  dsimp only
  cases isCall : state.calls call with
  | built request planned =>
      intro existing found
      rw [Option.mem_def] at found
      simp [lookForKey, isCall, found, PlanStore.finish, PlanOutcome.isReturned] at goesOn
  | idle | begun _ | looked _ | planRead _ _ | unheld _ _ => exact True.intro

theorem PlanStore.Sound.losesAtLookUps_of_uncrashed (sound : state.Sound host) {call : String}
    (goesOn : (insertCreated state call).2.isCrash = false) :
    LosesAtLookUps host state (.insert call) := by
  have here := sound.calls call
  rw [LosesAtLookUps.eq_def]
  dsimp only
  cases isCall : state.calls call with
  | unheld request planned =>
      rw [isCall] at here
      refine (sound.insertPlannedIntent_isSome_iff here.liveSimIntentId).mp ?_
      by_contra missing
      rw [Option.not_isSome_iff_eq_none] at missing
      simp [insertCreated, isCall, missing, PlanStore.finish, PlanOutcome.isCrash] at goesOn
  | idle | begun _ | looked _ | planRead _ _ | built _ _ => exact True.intro

theorem firstCall_goesOn :
    (lookForKey ((planSystem sampleLiveSimHost).run onePlanStored
      ((looksUp "first" "intent-1").take 4)) "first").2.isReturned = false ∧
    (insertCreated ((planSystem sampleLiveSimHost).run onePlanStored
      (looksUp "first" "intent-1")) "first").2.isCrash = false := by
  decide +kernel

end SuseokTrader
