import SuseokTrader.LiveSim.KeptRows

/-!
# Account limits along runs

Only a fill makes an order one that has bought. So until the first BUY fill the
tables hold nothing, and with it the exposure counts the order beside the
position.
-/

namespace SuseokTrader

variable {before after tables : LiveSimTables} {settings : LiveSimBuySettings} {now : Instant}
  {order : LiveSimOrder} {status : LiveSimOrderStatus} {report : ExecutionReport}
  {host : LiveSimHost} {store : LiveSimStore} {op : AccountOp}

/-! ## Purchases have a price -/

theorem notional_of_eligible {view : AdmissionView} {price : Rat}
    (priced : view.price = some price)
    (eligible : evaluateLiveSimEligibility settings tables view now = []) :
    0 < liveSimBuyLimitPrice settings price * liveSimQuantity settings
      (liveSimBuyLimitPrice settings price) view.dryRunNotional := by
  have checked := mergeReasons_eq_nil eligible "MAX_ORDER_NOTIONAL_EXCEEDED"
  by_contra nonpositive
  rw [not_lt] at nonpositive
  refine absurd (checked ?_) (by decide +kernel)
  simp [reasonsWhere, priced, nonpositive]

structure PricedPurchases (tables : LiveSimTables) : Prop where
  intents : ∀ intent ∈ tables.intents.rows, intent.side = .buy ∧ 0 < intent.notional
  orders : ∀ order ∈ tables.orders.rows, order.side = .buy → 0 < order.notional

theorem PricedPurchases.of_keeps (law : PricedPurchases before) (keeps : KeepsTerms before after) :
    PricedPurchases after where
  intents := by
    intro intent present
    rcases keeps.intents intent present with ⟨old, isOld, side, notional⟩
    rw [side, notional]
    exact law.intents old isOld
  orders := by
    intro order present
    rcases keeps.orders order present with ⟨old, isOld, side, notional⟩
    rw [side, notional]
    exact law.orders old isOld

theorem PricedPurchases.createIntent {view : AdmissionView} {suffix : Option String}
    {intentId : String} (law : PricedPurchases tables)
    (success : createLiveSimIntent settings tables view suffix intentId now = .ok after) :
    PricedPurchases after := by
  rw [createLiveSimIntent] at success
  split at success
  · rw [Except.ok.injEq] at success
    subst success
    exact law
  · next eligible =>
      rw [not_not] at eligible
      split at success
      · next tradeDate code name strategyId riskId price _ _ _ priced =>
          rcases Checked.bind_eq_ok.mp success with ⟨intent, isIntent, success⟩
          have positive := notional_of_eligible priced eligible
          simp only [newLiveSimIntent, Checked.bind_eq_ok, pure, Except.pure,
            Except.ok.injEq] at isIntent
          rcases isIntent with ⟨_, _, _, _, _, _, _, _, _, _, _, _, _, _, rfl⟩
          split at success
          · next intents inserted =>
              simp only [pure, Except.pure, Except.ok.injEq] at success
              subst success
              refine ⟨?_, law.orders⟩
              intro intent present
              rw [insertIntent] at inserted
              split at inserted
              · cases inserted
              · rw [Table.rows_of_insert? inserted, List.mem_append, List.mem_singleton] at present
                rcases present with before | rfl
                · exact law.intents intent before
                · exact ⟨rfl, positive⟩
          · cases success
      · cases success

theorem PricedPurchases.queues {intent : LiveSimIntent} {readings : QueueReadings}
    (law : PricedPurchases tables) (present : intent ∈ tables.intents.rows)
    (written : WritesOrder tables after intent readings) :
    PricedPurchases after where
  intents := by
    have derives : Table.Derives LaterIntent tables.intents after.intents := by
      rw [written.intents]
      exact Table.derives_update (fun _ => ⟨rfl, rfl⟩) (fun _ => ⟨rfl, rfl⟩) _ _ _
    intro other isOther
    rcases derives other isOther with ⟨old, isOld, side, notional⟩
    rw [side, notional]
    exact law.intents old isOld
  orders := by
    intro order isOrder buys
    rw [rows_of_insertOrder written.orders, List.mem_append, List.mem_singleton] at isOrder
    rcases isOrder with before | rfl
    · exact law.orders order before buys
    · exact (law.intents intent present).2

/-! ## What a step does -/

def LiveSimOrderStatus.isBought (status : LiveSimOrderStatus) : Bool :=
  status = .partiallyFilled || status = .filled

theorem commandStatus_unbought {host : Host} {payload : Payload} {kind : CommandEvent}
    (names : commandStatus host tables order payload kind = .ok status) :
    status.isBought = false := by
  cases kind with
  | started =>
      rw [commandStatus, Except.ok.injEq] at names
      subst names
      split <;> rfl
  | acked =>
      simp only [commandStatus, Checked.bind_eq_ok, pure, Except.pure, Except.ok.injEq] at names
      rcases names with ⟨ack, _, rfl⟩
      split <;> rfl
  | failed =>
      simp only [commandStatus, Checked.bind_eq_ok] at names
      rcases names with ⟨_, _, names⟩
      split at names
      · rcases Checked.bind_eq_ok.mp names with ⟨_, _, names⟩
        simp only [pure, Except.pure, Except.ok.injEq] at names
        subst names
        rfl
      · simp only [pure, Except.pure, Except.ok.injEq] at names
        subst names
        rfl

theorem cancelStatus_unbought {host : Host} {payload : Payload} {kind : CommandEvent}
    (names : cancelStatus host payload kind = some status) :
    status.isBought = false := by
  cases kind with
  | started => cases names
  | acked =>
      rw [cancelStatus] at names
      split at names
      · rw [Option.some.injEq] at names
        subst names
        split <;> rfl
      · cases names
  | failed =>
      rw [cancelStatus] at names
      split at names
      · rw [Option.some.injEq] at names
        subst names
        rfl
      · cases names

theorem ok_of_toOption {α : Type} {checked : Checked α} {value : α}
    (isValue : checked.toOption = some value) : checked = .ok value := by
  cases checked with
  | ok other => simpa [Except.toOption] using isValue
  | error failure => cases isValue

theorem noticeOf_unbought {host : Host} {event : GatewayEvent}
    (noticed : noticeOf host tables event = some (order, status)) : status.isBought = false := by
  rw [noticeOf] at noticed
  split at noticed
  · rcases Option.bind_eq_some_iff.mp noticed with ⟨commandId, _, noticed⟩
    split at noticed
    · rcases Option.bind_eq_some_iff.mp noticed with ⟨named, names, noticed⟩
      rcases noticed with ⟨rfl, rfl⟩
      exact commandStatus_unbought (ok_of_toOption names)
    · rcases Option.bind_eq_some_iff.mp noticed with ⟨intent, _, noticed⟩
      rcases Option.bind_eq_some_iff.mp noticed with ⟨named, _, noticed⟩
      rcases Option.bind_eq_some_iff.mp noticed with ⟨status', names, noticed⟩
      rcases noticed with ⟨rfl, rfl⟩
      exact cancelStatus_unbought names
  · next kind _ =>
      rw [lifecycleNotice] at noticed
      split at noticed
      · rcases Option.bind_eq_some_iff.mp noticed with ⟨named, _, noticed⟩
        rcases Option.bind_eq_some_iff.mp noticed with ⟨status', names, noticed⟩
        rcases noticed with ⟨rfl, rfl⟩
        exact cancelStatus_unbought names
      · split at noticed
        · rcases noticed with ⟨_, rfl⟩
          cases kind <;> rfl
        · cases noticed
  all_goals cases noticed

structure Quiet (before after : LiveSimTables) : Prop where
  terms : KeepsTerms before after
  positions : after.positions = before.positions
  executions : after.executions = before.executions
  bought : ∀ order ∈ after.orders.rows, hasBought order →
    ∃ old ∈ before.orders.rows, hasBought old

structure QuietCall (before after : LiveSimTables) : Prop
    extends Quiet before after, KeepsRecords True before after

theorem quietCall_refl (tables : LiveSimTables) : QuietCall tables tables where
  terms := keepsTerms_refl tables
  positions := rfl
  executions := rfl
  bought order present bought := ⟨order, present, bought⟩
  numbers := fun _ => keepsNumbers_refl _
  cancels := .same

theorem QuietCall.of_same {middle : LiveSimTables} (quiet : QuietCall before middle)
    (orders : after.orders = middle.orders) (intents : after.intents = middle.intents)
    (positions : after.positions = middle.positions)
    (executions : after.executions = middle.executions)
    (cancels : CancelsEffect before.cancelIntents after.cancelIntents) :
    QuietCall before after where
  terms := quiet.terms.of_same orders intents
  positions := positions.trans quiet.positions
  executions := executions.trans quiet.executions
  bought := by
    rw [orders]
    exact quiet.bought
  numbers := by
    rw [orders]
    exact quiet.numbers
  cancels := cancels

theorem QuietCall.updateOrder (quiet : QuietCall before tables)
    {change : LiveSimOrder → LiveSimOrder}
    (key : ∀ order, Keyed.key (change order) = Keyed.key order) (id : String)
    (changes : ∀ order, LaterOrder order (change order))
    (unbought : ∀ order, (change order).status.isBought = false)
    (same : ∀ order, (change order).brokerOrderNo = order.brokerOrderNo) :
    QuietCall before (tables.updateOrder id change key) where
  terms := quiet.terms.updateOrder key id changes
  positions := quiet.positions
  executions := quiet.executions
  bought := by
    intro order present bought
    rcases List.mem_map.mp present with ⟨old, isOld, rfl⟩
    split at bought
    · have notBought := unbought old
      simp only [LiveSimOrderStatus.isBought] at notBought
      simp [hasBought, notBought] at bought
    · exact quiet.bought old isOld bought
  numbers := fun holds => (quiet.numbers holds).trans (keepsNumbers_update _ id key same)
  cancels := quiet.cancels

theorem QuietCall.updateIntent (quiet : QuietCall before tables)
    {change : LiveSimIntent → LiveSimIntent}
    (key : ∀ intent, Keyed.key (change intent) = Keyed.key intent) (id : String)
    (changes : ∀ intent, LaterIntent intent (change intent)) :
    QuietCall before (tables.updateIntent id change key) where
  terms := quiet.terms.updateIntent key id changes
  positions := quiet.positions
  executions := quiet.executions
  bought := quiet.bought
  numbers := quiet.numbers
  cancels := quiet.cancels

theorem quiet_notice (unbought : status.isBought = false) (terms : KeepsTerms tables after)
    (writes : WritesStatus tables after order status) :
    Quiet tables after where
  terms := terms
  positions := writes.positions
  executions := writes.executions
  bought := by
    intro row present bought
    have here : after.orders.find? row.liveSimOrderId = some row := Table.find?_of_mem present
    by_cases same : row.liveSimOrderId = order.liveSimOrderId
    · rcases writes.written with ⟨written, isWritten, hasStatus, _⟩
      rw [same, isWritten, Option.some.injEq] at here
      subst here
      simp only [LiveSimOrderStatus.isBought] at unbought
      simp [hasBought, hasStatus, unbought] at bought
    · rw [writes.others _ same] at here
      exact ⟨row, Table.mem_of_find? here, bought⟩

theorem quietCall_expire (now : String) (orders : List LiveSimOrder)
    (quiet : QuietCall before tables) : QuietCall before (orders.foldl (expireOrder now) tables) := by
  induction orders generalizing tables with
  | nil => exact quiet
  | cons order orders ih =>
      apply ih
      apply (quiet.updateOrder (key_expiredOrder now) order.liveSimOrderId
        (fun _ => ⟨rfl, rfl⟩) (fun _ => rfl) fun _ => rfl).updateIntent key_expiredIntent
      intro intent
      rw [expiredIntent]
      split <;> exact ⟨rfl, rfl⟩

/-- What a step does: nothing to the holdings, a fill, a new intent, or a new order. -/
inductive AccountEffect (host : LiveSimHost) (settings : LiveSimBuySettings)
    (store : LiveSimStore) : AccountOp → LiveSimTables → Prop
  | quiet {op : AccountOp} {after : LiveSimTables} (quiet : Quiet store.live after) :
      AccountEffect host settings store op after
  | fills {delivery : Delivery} {after : LiveSimTables} (order : LiveSimOrder)
      (report : ExecutionReport)
      (reported : fillOf host.toHost settings.toLiveSimSettings store.live delivery.event =
        some (order, report))
      (terms : KeepsTerms store.live after)
      (applies : AppliesFill settings.toLiveSimSettings store.live after order report delivery.ids
        (datetimeToWire delivery.now)) :
      AccountEffect host settings store (.live (.trade (.deliver delivery))) after
  | intends {op : AccountOp} {after : LiveSimTables} (priced : PricedPurchases store.live →
        PricedPurchases after) (frame : ∃ intents, after = { store.live with intents := intents }) :
      AccountEffect host settings store op after
  | buys {op : AccountOp} {after : LiveSimTables} (intent : LiveSimIntent)
      (readings : QueueReadings) (present : intent ∈ store.live.intents.rows)
      (written : WritesOrder store.live after intent readings) :
      AccountEffect host settings store op after
  | exits {exitIntentId : String} {readings : QueueReadings} {after : LiveSimTables}
      (intent : ExitIntent) (position : LiveSimPosition)
      (held : store.live.positions.find? intent.positionId = some position)
      (terms : after.intents = store.live.intents)
      (written : WritesExit store.live after position intent readings) :
      AccountEffect host settings store (.live (.trade (.queueExit exitIntentId readings))) after

theorem intents_writeQueuedExit {position : LiveSimPosition} {intent : ExitIntent}
    {readings : QueueReadings}
    (written : writeQueuedExit tables position intent readings = some after) :
    after.intents = tables.intents ∧ after.cancelIntents = tables.cancelIntents := by
  rcases Option.bind_eq_some_iff.mp written with ⟨orders, _, rows⟩
  rw [Option.pure_def, Option.some.injEq] at rows
  rw [← rows]
  exact ⟨rfl, rfl⟩

theorem quietCall_createExit {settings : LiveSimSettings} {positionId exitIntentId : String}
    {exitSignalId : Option String}
    (success : createLiveSimExitIntent settings tables positionId exitSignalId exitIntentId =
      .ok after) : QuietCall tables after := by
  rw [createLiveSimExitIntent] at success
  split at success
  · cases success
  · split at success
    · cases success
    · split at success
      · cases success
      · split at success
        · cases success
        · rw [Except.ok.injEq] at success
          subst success
          exact (quietCall_refl tables).of_same rfl rfl rfl rfl .same

theorem quietCall_createCancel {orderId reason cancelIntentId : String}
    (success : createLiveSimCancelIntent tables orderId reason cancelIntentId now = .ok after) :
    QuietCall tables after := by
  rw [createLiveSimCancelIntent] at success
  split at success
  · cases success
  · next order _ =>
      split at success
      · cases success
      · split at success
        · cases success
        · split at success
          · cases success
          · next inserted =>
              rw [Except.ok.injEq] at success
              subst success
              exact ((quietCall_refl tables).updateOrder (key_cancellingOrder _ _) orderId
                (fun _ => ⟨rfl, rfl⟩) (fun _ => rfl) fun _ => rfl).of_same rfl rfl rfl rfl
                (.creates order reason cancelIntentId inserted)

theorem quietCall_queueCancel (host : LiveSimHost) (settings : LiveSimSettings)
    (store : LiveSimStore) (cancelIntentId : String) (readings : QueueReadings) :
    QuietCall store.live
      (queueLiveSimCancelCommand host settings store cancelIntentId readings).1.live := by
  have start := quietCall_refl store.live
  rw [queueLiveSimCancelCommand]
  split
  · exact start
  · split
    · exact start
    · next order _ =>
        split
        · exact start.of_same rfl rfl rfl rfl (.marks _ _)
        · split
          · exact start
          · rw [queueCancelCommand]
            split
            · exact start
            · split
              · exact (start.updateOrder (key_cancellingOrder _ _) order.liveSimOrderId
                  (fun _ => ⟨rfl, rfl⟩) (fun _ => rfl) fun _ => rfl).of_same rfl rfl rfl rfl
                  (.queues _ _)
              · exact start.of_same rfl rfl rfl rfl (.marks _ _)

theorem QuietCall.effect {numbered : Prop} (quiet : QuietCall store.live after) :
    AccountEffect host settings store op after ∧ KeepsRecords numbered store.live after :=
  ⟨.quiet quiet.toQuiet, quiet.toKeepsRecords.mono fun _ => trivial⟩

/-- Every step has one of the effects, and only a delivery moves numbers. -/
theorem accountEffect_records (host : LiveSimHost) (settings : LiveSimBuySettings)
    (store : LiveSimStore) (op : AccountOp) :
    AccountEffect host settings store op (accountStep host settings store op).live ∧
      KeepsRecords (∀ delivery, op ≠ .live (.trade (.deliver delivery))) store.live
        (accountStep host settings store op).live := by
  have start := quietCall_refl store.live
  cases op with
  | createCancel orderId reason cancelIntentId now =>
      dsimp only [accountStep, tablesAfterCreateCancel]
      split
      · next success => exact (quietCall_createCancel success).effect
      · exact start.effect
  | queueCancel cancelIntentId readings => exact (quietCall_queueCancel _ _ _ _ _).effect
  | live op =>
      cases op with
      | createIntent view suffix intentId now =>
          dsimp only [accountStep, liveSimStep, tablesAfterCreateIntent]
          split
          · next success =>
              have frame := orders_of_createIntent success
              refine ⟨.intends (fun law => law.createIntent success) frame, ?_⟩
              rcases frame with ⟨intents, rfl⟩
              exact ⟨fun _ => keepsNumbers_refl _, .same⟩
          · exact start.effect
      | queueOrder liveSimIntentId readings =>
          have effect := orderQueueEffect host settings store liveSimIntentId readings
          dsimp only [accountStep, liveSimStep]
          generalize (queueLiveSimOrderCommand host settings store liveSimIntentId readings).1 =
            after at effect ⊢
          cases effect with
          | nothing => exact start.effect
          | queues intent found queues enqueued written =>
              refine ⟨.buys intent readings.toQueueReadings (Table.mem_of_find? found) written,
                fun _ => keepsNumbers_insert written.orders rfl, ?_⟩
              rw [written.frame]
              exact .same
      | sweep limit now => exact (quietCall_expire _ _ start).effect
      | gateway op => exact start.effect
      | trade op =>
          cases op with
          | deliver delivery =>
              have effect := effect_of_event host.toHost settings.toLiveSimSettings store.live
                delivery.event delivery.ids delivery.now
              have rows := keepsRows_event host.toHost settings.toLiveSimSettings store.live
                delivery.event delivery.ids delivery.now
              dsimp only [accountStep, liveSimStep, tradingStep]
              generalize tablesAfterEvent host.toHost settings.toLiveSimSettings store.live
                delivery.event delivery.ids delivery.now = after at effect rows ⊢
              refine ⟨?_, rows.toKeepsRecords.mono fun undelivered => absurd rfl (undelivered _)⟩
              cases effect with
              | nothing => exact .quiet start.toQuiet
              | notice order status noticed writes =>
                  exact .quiet (quiet_notice (noticeOf_unbought noticed) rows.toKeepsTerms writes)
              | fill order report reported applies =>
                  exact .fills order report reported rows.toKeepsTerms applies
          | signal positionId trigger exitSignalId createdAt =>
              rcases signalled_frame store.live positionId trigger exitSignalId createdAt
                with ⟨exitSignals, same⟩
              dsimp only [accountStep, liveSimStep, tradingStep]
              rw [same]
              exact QuietCall.effect (start.of_same rfl rfl rfl rfl .same)
          | createExit positionId exitSignalId exitIntentId =>
              dsimp only [accountStep, liveSimStep, tradingStep, tablesAfterCreateExit]
              split
              · next success => exact (quietCall_createExit success).effect
              · exact start.effect
          | queueExit exitIntentId readings =>
              have effect := exitQueueEffect host settings.toLiveSimSettings store exitIntentId
                readings
              dsimp only [accountStep, liveSimStep, tradingStep]
              generalize (queueLiveSimExitOrderCommand host settings.toLiveSimSettings store
                exitIntentId readings).1.live = after at effect ⊢
              cases effect with
              | nothing => exact start.effect
              | rejects intent found =>
                  exact QuietCall.effect (start.of_same rfl rfl rfl rfl .same)
              | queues intent position found held allowed written =>
                  rcases intents_writeQueuedExit written with ⟨intents, cancelIntents⟩
                  refine ⟨.exits intent position held intents (writesExit written),
                    fun _ => keepsNumbers_insert (writesExit written).orders rfl, ?_⟩
                  rw [cancelIntents]
                  exact .same

theorem accountEffect (host : LiveSimHost) (settings : LiveSimBuySettings) (store : LiveSimStore)
    (op : AccountOp) :
    AccountEffect host settings store op (accountStep host settings store op).live :=
  (accountEffect_records host settings store op).1

/-! ## Fills -/

/-- A fill of a BUY order that the tables take is applied. -/
theorem applied_of_takesFill {host : Host} {settings : LiveSimSettings} {delivery : Delivery}
    (reported : fillOf host settings tables delivery.event = some (order, report))
    (buys : order.side = .buy) (takes : takesFill tables order report delivery.ids = true) :
    ∃ reply, handleLiveSimGatewayEvent host settings tables delivery.event delivery.ids
      delivery.now = .ok (tablesAfterEvent host settings tables delivery.event delivery.ids
        delivery.now, reply) ∧
      AppliesFill settings tables (tablesAfterEvent host settings tables delivery.event
        delivery.ids delivery.now) order report delivery.ids (datetimeToWire delivery.now) := by
  have handles : handleLiveSimGatewayEvent host settings tables delivery.event delivery.ids
      delivery.now = applyExecution settings tables order report delivery.ids
        (datetimeToWire delivery.now) ∧
      tables.orders.find? order.liveSimOrderId = some order := by
    rw [fillOf] at reported
    rw [handleLiveSimGatewayEvent]
    split at reported
    · next kindOf =>
        have read := fresh_of_fill reported
        simp only [kindOf, read]
        exact ⟨rfl, present_of_fresh read⟩
    · next kindOf =>
        have read := fresh_of_fill reported
        simp only [kindOf, read]
        exact ⟨rfl, present_of_fresh_chejan read⟩
    all_goals cases reported
  rcases handles with ⟨handles, present⟩
  simp only [takesFill, Bool.and_eq_true, Bool.or_eq_true] at takes
  rcases Option.isSome_iff_exists.mp takes.1 with ⟨executions, recorded⟩
  have success : ∃ after reply, applyExecution settings tables order report delivery.ids
      (datetimeToWire delivery.now) = .ok (after, reply) := by
    simp only [applyExecution, recorded, applyFill, buys, applyBuyFill, recordFill]
    split
    · next missing =>
        have room : tables.positions.find? delivery.ids.positionId = none := by
          rcases takes.2 with found | room
          · rw [missing] at found
            cases found
          · exact Option.isNone_iff_eq_none.mp room
        have inserts : (tables.positions.insert? (openedPosition settings order
            delivery.ids.positionId report.quantity report.price report.executedAtText)).isSome :=
          Table.insert?_isSome_iff.mpr room
        rcases Option.isSome_iff_exists.mp inserts with ⟨positions, inserted⟩
        rw [inserted]
        exact ⟨_, _, rfl⟩
    · exact ⟨_, _, rfl⟩
  rcases success with ⟨after, reply, success⟩
  have isAfter : tablesAfterEvent host settings tables delivery.event delivery.ids delivery.now =
      after := by
    rw [tablesAfterEvent, handles, success]
  rw [isAfter]
  exact ⟨reply, handles.trans success, appliesFill present success⟩

theorem takesFill_of_applies {settings : LiveSimSettings} {ids : FreshIds} {now : String}
    (buys : order.side = .buy) (applies : AppliesFill settings tables after order report ids now) :
    takesFill tables order report ids = true := by
  rw [takesFill, applies.recorded]
  have moves := applies.position
  generalize after.positions = positions at moves
  cases moves with
  | opens _ missing inserted =>
      have room := Table.insert?_isSome_iff.mp (Option.isSome_of_eq_some inserted)
      have free : tables.positions.find? ids.positionId = none := room
      simp [free]
  | increases position _ found => simp [found]
  | misses sells | mismatches _ sells | reduces _ sells =>
      rw [buys] at sells
      cases sells

theorem bought_of_applies {settings : LiveSimSettings} {ids : FreshIds} {now : String}
    (buys : order.side = .buy) (applies : AppliesFill settings tables after order report ids now) :
    ∃ bought ∈ after.orders.rows, hasBought bought := by
  refine ⟨_, Table.mem_of_find? applies.written, ?_⟩
  have unended : endsExit tables order report = false := by simp [endsExit, buys]
  have status : statusAfterFill tables order report =
      statusOfRemaining (report.remaining order) := by
    rw [statusAfterFill, unended, if_neg Bool.false_ne_true]
  simp only [hasBought, orderAfterFill, filledOrder, status, statusOfRemaining]
  split <;> simp [buys]

/-! ## The law along runs -/

structure NothingBought (tables : LiveSimTables) : Prop extends PricedPurchases tables where
  positions : tables.positions = .empty
  executions : tables.executions = .empty
  unsold : ∀ order ∈ tables.orders.rows, order.side = .buy ∧ hasBought order = false

theorem PricedPurchases.step (op : AccountOp) (law : PricedPurchases store.live) :
    PricedPurchases (accountStep host settings store op).live := by
  have effect := accountEffect host settings store op
  cases effect with
  | quiet quiet => exact law.of_keeps quiet.terms
  | fills order report reported terms applies => exact law.of_keeps terms
  | intends priced frame => exact priced law
  | buys intent readings present written => exact law.queues present written
  | exits intent position held terms written =>
      refine ⟨?_, ?_⟩
      · rw [terms]
        exact law.intents
      · intro order present buys
        rw [rows_of_insertOrder written.orders, List.mem_append, List.mem_singleton] at present
        rcases present with before | rfl
        · exact law.orders order before buys
        · cases buys

theorem NothingBought.limits (nothing : NothingBought tables) : LimitsFollowHoldings tables := by
  have law := netOfFills_of_empty nothing.positions nothing.executions
  have unbought : ∀ order ∈ tables.orders.rows, hasBought order = false :=
    fun order present => (nothing.unsold order present).2
  have held : ∀ order ∈ tables.orders.rows, hasBought order → 0 < netHolding tables order.code := by
    intro order present bought
    rw [unbought order present] at bought
    cases bought
  refine ⟨(countsHeldCodes_iff law).mpr held, (opensHeldCodes_iff law).mpr held,
    (countsFillsOnce_iff nothing.orders).mpr unbought, countsPurchases_iff.mpr ?_⟩
  intro order present tradeDate
  simp [isSaleOf, (nothing.unsold order present).1]

theorem NothingBought.step (nothing : NothingBought store.live)
    (without : BuysNoShares host settings store op) :
    NothingBought (accountStep host settings store op).live := by
  have priced : PricedPurchases (accountStep host settings store op).live :=
    nothing.toPricedPurchases.step op
  have effect := accountEffect host settings store op
  generalize (accountStep host settings store op).live = after at effect priced ⊢
  cases effect with
  | quiet quiet =>
      refine ⟨priced, quiet.positions.trans nothing.positions,
        quiet.executions.trans nothing.executions, ?_⟩
      intro order present
      rcases quiet.terms.orders order present with ⟨old, isOld, side, _⟩
      refine ⟨side.trans (nothing.unsold old isOld).1, ?_⟩
      by_contra bought
      rw [Bool.not_eq_false] at bought
      rcases quiet.bought order present bought with ⟨older, isOlder, wasBought⟩
      rw [(nothing.unsold older isOlder).2] at wasBought
      cases wasBought
  | fills order report reported terms applies =>
      -- the order is one of the table, so it buys
      have buys := (nothing.unsold order (Table.mem_of_find? applies.present)).1
      have sells := without (order, report) reported (takesFill_of_applies buys applies)
      rw [buys] at sells
      cases sells
  | intends _ frame =>
      rcases frame with ⟨intents, rfl⟩
      exact ⟨priced, nothing.positions, nothing.executions, nothing.unsold⟩
  | buys intent readings present written =>
      have frame := written.frame
      refine ⟨priced, ?_, ?_, ?_⟩
      · rw [frame]
        exact nothing.positions
      · rw [frame]
        exact nothing.executions
      · intro order isOrder
        rw [rows_of_insertOrder written.orders, List.mem_append, List.mem_singleton] at isOrder
        rcases isOrder with before | rfl
        · exact nothing.unsold order before
        · exact ⟨(nothing.intents intent present).1, by simp [hasBought, queuedOrder]⟩
  | exits intent position held _ _ =>
      rw [nothing.positions] at held
      cases held

theorem live_deliver (host : LiveSimHost) (settings : LiveSimBuySettings) (store : LiveSimStore)
    (delivery : Delivery) :
    (accountStep host settings store (.live (.trade (.deliver delivery)))).live =
      tablesAfterEvent host.toHost settings.toLiveSimSettings store.live delivery.event
        delivery.ids delivery.now := by
  dsimp only [accountStep, liveSimStep, tradingStep]

theorem NothingBought.needed (nothing : NothingBought store.live)
    (limits : LimitsFollowHoldings (accountStep host settings store op).live) :
    BuysNoShares host settings store op := by
  have priced : PricedPurchases (accountStep host settings store op).live :=
    nothing.toPricedPurchases.step op
  have unbought := (countsFillsOnce_iff priced.orders).mp limits.exposure
  rw [BuysNoShares.eq_def]
  split
  · rw [live_deliver] at unbought
    rintro ⟨order, report⟩ reported takes
    by_contra notSells
    have buys : order.side = .buy := by
      cases side : order.side with
      | buy => rfl
      | sell => exact absurd side notSells
    rcases applied_of_takesFill reported buys takes with ⟨_, _, applies⟩
    rcases bought_of_applies buys applies with ⟨bought, present, isBought⟩
    have notBought := unbought bought present
    rw [isBought] at notBought
    cases notBought
  · trivial

theorem AccountEffect.still (effect : AccountEffect host settings store op after)
    (untraded : ∀ trade, op ≠ .live (.trade trade)) :
    after.positions = store.live.positions ∧ after.executions = store.live.executions := by
  cases effect with
  | quiet quiet => exact ⟨quiet.positions, quiet.executions⟩
  | fills | exits => exact absurd rfl (untraded _)
  | intends _ frame =>
      rcases frame with ⟨intents, rfl⟩
      exact ⟨rfl, rfl⟩
  | buys intent readings present written =>
      have frame := written.frame
      rw [frame]
      exact ⟨rfl, rfl⟩

theorem NetOfFills.accountStep (law : NetOfFills store.live)
    (balances : AccountBalances host settings store op) :
    NetOfFills (accountStep host settings store op).live := by
  by_cases traded : ∃ trade, op = .live (.trade trade)
  · rcases traded with ⟨trade, rfl⟩
    have kept := NetOfFills.step law balances
    exact kept
  · push Not at traded
    rcases (accountEffect host settings store op).still traded with ⟨positions, executions⟩
    exact law.of_same positions executions

/-! ## The law -/

def noHoldings (gateway : Database) : LiveSimStore where
  gateway := gateway
  live := .empty

theorem nothingBought_empty : NothingBought .empty where
  intents := by simp [LiveSimTables.empty]
  orders := by simp [LiveSimTables.empty]
  positions := rfl
  executions := rfl
  unsold := by simp [LiveSimTables.empty]

/-- The bookkeeping follows the holdings in every state exactly when nothing is bought. Of its
parts, each holds in a state of a balanced run exactly when no order there speaks against it. -/
theorem limits_follow_holdings_iff (host : LiveSimHost) (settings : LiveSimBuySettings)
    (gateway : Database) (ops : List AccountOp) :
    ((accountSystem host settings).Throughout (fun store => LimitsFollowHoldings store.live)
        (noHoldings gateway) ops ↔
      (accountSystem host settings).Along (BuysNoShares host settings) (noHoldings gateway) ops) ∧
    ((accountSystem host settings).Along (AccountBalances host settings) (noHoldings gateway) ops →
      (accountSystem host settings).Throughout (fun store => HoldsWhen store.live)
        (noHoldings gateway) ops) := by
  constructor
  · exact @System.throughout_iff_along _ _ _ (accountSystem host settings)
      (fun store => NothingBought store.live) _ _
      (fun _ nothing => nothing.limits) (fun _ _ nothing without => nothing.step without)
      (fun _ _ nothing limits => nothing.needed limits) _ nothingBought_empty ops
  · intro balances
    have parts : ∀ store : LiveSimStore, NetOfFills store.live ∧ PricedPurchases store.live →
        HoldsWhen store.live := fun store law =>
      { activePositions := countsHeldCodes_iff law.1
        openPositions := opensHeldCodes_iff law.1
        exposure := countsFillsOnce_iff law.2.orders
        daily := countsPurchases_iff }
    have start : NetOfFills (noHoldings gateway).live ∧ PricedPurchases (noHoldings gateway).live :=
      ⟨netOfFills_of_empty rfl rfl, nothingBought_empty.toPricedPurchases⟩
    refine (System.throughout_iff _ _ ops).mpr ⟨parts _ start, ?_⟩
    refine System.Along.imp (fun store => NetOfFills store.live ∧ PricedPurchases store.live)
      ?_ ?_ start balances
    · rintro store op ⟨law, priced⟩ balances
      exact ⟨law.accountStep balances, priced.step op⟩
    · rintro store op ⟨law, priced⟩ balances
      exact parts _ ⟨law.accountStep balances, priced.step op⟩

/-! ## A sale -/

theorem stripped_thirdCommand : StrippedOption (some "command-3") := by
  have stripped : Stripped "command-3" := by decide
  intro text isText
  cases isText
  exact stripped

/-- The only order of a day is bought, sold and closed. -/
def boughtAndSold : List AccountOp :=
  [.live (createsIntent "candidate-1" "005930" "intent-1"),
    .live (.queueOrder "intent-1" (buyReadings "command-1")),
    .live (.trade (.deliver (deliveredAt (commandEventOf "event-1" "execution_event"
      (fillPayload "" "e1" "BUY" 600 .null) stripped_firstExecution) "1")))] ++
    (exitSteps "signal-1" "exit-1" "command-3").map (fun op => .live (.trade op)) ++
    [.live (.trade (.deliver (deliveredAt { commandEventOf "event-2" "execution_event"
      (fillPayload "" "e2" "SELL" 600 .null) stripped_secondExecution with
        commandId := some "command-3", commandId_stripped := stripped_thirdCommand } "2")))]

def soldStore : LiveSimStore :=
  (accountSystem sampleLiveSimHost sampleBuySettings).run (noHoldings freshStore) boughtAndSold

theorem soldStore_counts :
    soldStore.live.activePositionCount = 1 ∧ heldCodes soldStore.live = [] ∧
      soldStore.live.openPositionCountForCode "005930" = 1 ∧
      netHolding soldStore.live "005930" = 0 ∧
      soldStore.live.liveSimTotalExposure = 600000 ∧ heldNotional soldStore.live = 0 ∧
      (liveSimAccountLimitEvidence soldStore.live "2026-07-17" "005930").dailyOrderCount = 2 ∧
      soldStore.live.dailyOrderCount "2026-07-17" = 1 := by
  decide +kernel

/-- Everything was sold, and every part of the bookkeeping still counts the purchase. -/
theorem sold_purchase_still_counts :
    ¬ CountsHeldCodes soldStore.live ∧ ¬ OpensHeldCodes soldStore.live ∧
      ¬ CountsFillsOnce soldStore.live ∧ ¬ CountsPurchases soldStore.live ∧
      ¬ (accountSystem sampleLiveSimHost sampleBuySettings).Throughout
        (fun store => LimitsFollowHoldings store.live) (noHoldings freshStore) boughtAndSold := by
  rcases soldStore_counts with
    ⟨active, held, opened, net, exposure, cost, gateCount, eligibleCount⟩
  have notHeld : ¬ CountsHeldCodes soldStore.live := by
    rintro ⟨same, _⟩
    rw [active, held] at same
    cases same
  refine ⟨notHeld, ?_, ?_, ?_, ?_⟩
  · intro opens
    have positive := (opens "005930").1.mp (by omega)
    omega
  · intro once
    rw [CountsFillsOnce, exposure, cost] at once
    exact absurd once (by decide +kernel)
  · intro counts
    have day := counts "2026-07-17" "005930"
    have same := day.1.trans day.2.1.symm
    omega
  · intro holds
    exact notHeld (holds boughtAndSold [] (List.append_nil _).symm).activePositions

theorem boughtAndSold_balances :
    (accountSystem sampleLiveSimHost sampleBuySettings).Along
      (AccountBalances sampleLiveSimHost sampleBuySettings) (noHoldings freshStore)
      boughtAndSold := by
  refine ⟨trivial, trivial, ?_, trivial, trivial, trivial, ?_, trivial⟩
  · rw [AccountBalances]
    decide +kernel
  · rw [AccountBalances]
    decide +kernel

/-- In the run of the sale each part fails for the orders named in its condition only. -/
theorem sale_parts_hold_when :
    (accountSystem sampleLiveSimHost sampleBuySettings).Along
        (AccountBalances sampleLiveSimHost sampleBuySettings) (noHoldings freshStore)
        boughtAndSold ∧
      (accountSystem sampleLiveSimHost sampleBuySettings).Throughout
        (fun store => HoldsWhen store.live) (noHoldings freshStore) boughtAndSold :=
  ⟨boughtAndSold_balances, (limits_follow_holdings_iff sampleLiveSimHost sampleBuySettings
    freshStore boughtAndSold).2 boughtAndSold_balances⟩

end SuseokTrader
