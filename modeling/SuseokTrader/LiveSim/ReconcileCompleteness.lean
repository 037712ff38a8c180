import SuseokTrader.Gateway.KiwoomChejan
import SuseokTrader.LiveSim.OrderStatus
import SuseokTrader.LiveSim.Reconcile

/-!
# What a clean reconciliation leaves open

A reconciliation without a mismatch has compared the newest rows of the tables
with the rows of the snapshot that could be read, each broker number and each
code once. The sides of the orders are not compared, of several rows with one
number only the last is, and a row that cannot be read is left out.
-/

namespace SuseokTrader

/-! ## Normalized codes -/

theorem validateStockCode_again {value : Json} {code : String}
    (validated : validateStockCode value = .ok code) :
    validateStockCode (.str code) = .ok code := by
  rcases validateStockCode_digits validated with ⟨six, areDigits⟩
  have stripped : Text.strip code = code :=
    Text.strip_eq_self fun c present => (digit_apart (areDigits c present)).1
  have raised : Text.upper code = code := by
    rw [Text.upper]
    have same : code.toList.map Char.toUpper = code.toList.map id :=
      List.map_congr_left fun c present => (digit_apart (areDigits c present)).2.1
    rw [same, List.map_id, String.ofList_toList]
  have nonempty : code ≠ "" := by
    rintro rfl
    cases six
  have required : requireNonEmptyStr (.str code) "code" = .ok code := by
    rw [requireNonEmptyStr, stripped, if_neg nonempty]
  rw [validateStockCode, required]
  simp only [Bind.bind, Except.bind, raised]
  split
  · next rest shape =>
      exact absurd rfl (digit_apart (areDigits 'A' (by simp [shape]))).2.2
  · rw [if_pos ⟨six, List.all_eq_true.mpr areDigits⟩]

theorem validateStockCode_of_optionalStockCode {host : Host} {value : Json} {code : String}
    (found : value.optionalStockCode host = some code) :
    validateStockCode (.str code) = .ok code := by
  rw [Json.optionalStockCode] at found
  split at found
  · cases found
  · split at found
    · next validated =>
        cases found
        exact validateStockCode_again validated
    · cases found

variable {α : Type}

/-! ## The two sides -/

namespace LocalState

def dayOrders (state : LocalState) (tradeDate : String) : List LiveSimOrder :=
  state.tables.orders.rows.filter fun order =>
    order.tradeDate = tradeDate && order.status.isActive

/-- The active positions, of which a reconciliation lists the newest. -/
def heldPositions (state : LocalState) : List LiveSimPosition :=
  state.tables.positions.rows.filter fun position => position.status.isActive

def executedOf (state : LocalState) (tradeDate number : String) : Int :=
  (((state.numberedExecutions tradeDate).filter fun row => row.1.1 = number).map
    fun row => row.2.quantity).sum

end LocalState

variable (host : ReconcileHost)

def heldCode (position : LiveSimPosition) : String :=
  ((Json.str position.code).optionalStockCode host.toHost).getD position.code

def quantityHeld (positions : List LiveSimPosition) (code : String) : Int :=
  ((positions.filter fun position => heldCode host position = code).map
    LiveSimPosition.quantity).sum

def brokerQuantity (rows : List BrokerHolding) (code : String) : Int :=
  ((rows.filter fun row => row.code = code).map BrokerHolding.quantity).sum

/-! ## The law -/

def numberOf (order : LiveSimOrder) : String :=
  strippedNumber order.brokerOrderNo

def BrokerOpenOrder.number (row : BrokerOpenOrder) : String :=
  strippedNumber row.brokerOrderNo

structure MatchesRow (order : LiveSimOrder) (row : BrokerOpenOrder) : Prop where
  number : row.number = numberOf order
  code : row.code = some order.code
  side : row.side = order.side.value
  quantity : row.quantity = order.quantity
  remaining : row.remainingQuantity = order.remainingQuantity

/-- The orders of both sides correspond one to one by their numbers. -/
structure OrdersCorrespond (orders : List LiveSimOrder) (rows : List BrokerOpenOrder) : Prop where
  ours_distinct : (orders.map numberOf).Nodup
  theirs_distinct : (rows.map BrokerOpenOrder.number).Nodup
  named : ∀ order ∈ orders, numberOf order ≠ ""
  theirs : ∀ order ∈ orders, ∃ row ∈ rows, MatchesRow order row
  ours : ∀ row ∈ rows, ∃ order ∈ orders, MatchesRow order row

def ParsedBy (normalize : Payload → Checked (Option α)) (entry : Json) : Prop :=
  ∃ fields row, entry.asObject = some fields ∧ normalize fields = .ok (some row)

def rawRows (root : Payload) (keys : List String) : List Json :=
  (firstPresent root keys).sequenceValues

/-- Every entry of the lists of the snapshot has a normalized form. -/
structure RowsParsed (host : ReconcileHost) (root : Payload) : Prop where
  openOrders : ∀ entry ∈ rawRows root
    ["open_orders", "unfilled_orders", "orders", "open_order_snapshots"],
    ParsedBy (normalizeBrokerOpenOrder host) entry
  positions : ∀ entry ∈ rawRows root ["positions", "holdings", "position_snapshots", "balances"],
    ParsedBy (normalizeBrokerPosition host) entry
  executions : ∀ entry ∈ rawRows root ["executions", "fills", "execution_snapshots"],
    ParsedBy (normalizeBrokerExecution host) entry

/-- The tables and the snapshot say the same. -/
structure SidesAgree (host : ReconcileHost) (state : LocalState) (tradeDate : String)
    (root : Payload) (snapshot : BrokerSnapshot) : Prop where
  orders : OrdersCorrespond (state.dayOrders tradeDate) snapshot.openOrders
  holdings : ∀ code,
    quantityHeld host state.heldPositions code = brokerQuantity snapshot.positions code
  executions : ∀ number, Text.strip number ≠ "" →
    state.executedOf tradeDate number = brokerExecutionOf snapshot.executions number
  parsed : RowsParsed host root

variable (settings : ReconcileSettings)

/-- The status of the reconciliation is OK. -/
def ReconcilesOk (state : LocalState)
    (snapshot : Option Payload) (clocks : ReconcileClocks) : Prop :=
  ∃ result, reconcile host settings state snapshot clocks = .ok result ∧ result.status = "OK"

/-- The root of the snapshot and its normalized form. -/
def NormalizesTo (payload : Option Payload)
    (clocks : ReconcileClocks) (root : Payload) (snapshot : BrokerSnapshot) : Prop :=
  ∃ given, payload = some given ∧ brokerSnapshotRoot host given = .ok root ∧
    normalizeRoot host settings root clocks = .ok (some snapshot)

/-! ## What is compared -/

def ReadAlike (left right : Int) : Prop :=
  ∃ ours theirs, (Json.int left).optionalIntValue host.toHost = .ok ours ∧
    (Json.int right).optionalIntValue host.toHost = .ok theirs ∧ differ ours theirs = false

/-- The last row of the broker with the number of the order is like it. -/
def PairsUp (rows : List BrokerOpenOrder) (order : LiveSimOrder) : Prop :=
  numberOf order ≠ "" ∧
    ∃ row, (rows.reverse.find? fun row => row.brokerOrderNo = some (numberOf order)) = some row ∧
      row.code = some order.code ∧
      ReadAlike host order.remainingQuantity row.remainingQuantity ∧
      ReadAlike host order.quantity row.quantity ∧
      (canonicalBrokerStatus row = "" ∨ canonicalLocalStatus order = canonicalBrokerStatus row)

/-- The holdings of a code are alike on both sides. -/
structure HoldingAlike (host : ReconcileHost) (tolerance : Rat) (ours theirs : List Holding)
    (code : String) : Prop where
  quantity : Holding.quantityOf ours code = Holding.quantityOf theirs code
  available : differ (Holding.availableOf ours code) (Holding.availableOf theirs code) = false
  price : priceFindings host tolerance code (Holding.averageOf host ours code)
    (Holding.averageOf host theirs code) = []

/-- The tables have no mismatch among themselves. -/
structure TablesSound (host : ReconcileHost) (settings : ReconcileSettings) (state : LocalState)
    (clocks : ReconcileClocks) : Prop where
  orders : ∀ order ∈ state.openOrders (marketToday clocks.today),
    mismatchCount (orderFindings state order) = 0
  positions : ∀ position ∈ state.positions, ∃ found,
    positionFindings host settings state position = .ok found ∧ mismatchCount found = 0
  stale : state.staleOpenOrderCount settings clocks.staleCutoff = 0

/-- What a reconciliation compares agrees. -/
structure ComparedAlike (host : ReconcileHost) (settings : ReconcileSettings)
    (state : LocalState) (clocks : ReconcileClocks) (snapshot : BrokerSnapshot) : Prop where
  tables : TablesSound host settings state clocks
  usable : qualityReasons snapshot (maskAccountId host settings.accountId)
    (marketToday clocks.today) = []
  orders : ∀ order ∈ state.openOrders (marketToday clocks.today),
    PairsUp host snapshot.openOrders order
  listed : ∀ row ∈ snapshot.openOrders, row.number ≠ "" ∧
    ∃ order ∈ state.openOrders (marketToday clocks.today), order.brokerOrderNo = some row.number
  holdings : ∀ code,
    HoldingAlike host settings.notionalTolerance (state.positions.filterMap (localHolding host))
      (snapshot.positions.filterMap (brokerHolding host)) code
  named : ∀ trade ∈ snapshot.executions, strippedNumber trade.brokerOrderNo ≠ ""
  executions : ∀ number, Text.strip number ≠ "" →
    localExecutionOf (state.executionSummaries (marketToday clocks.today)) number =
      brokerExecutionOf snapshot.executions number

/-! ## What is not compared -/

/-- What a reconciliation does not compare agrees. -/
structure RestAgrees (host : ReconcileHost) (state : LocalState) (tradeDate : String)
    (root : Payload) (snapshot : BrokerSnapshot) : Prop where
  /-- No more orders are open than a reconciliation lists. -/
  all_listed : ∀ order ∈ state.dayOrders tradeDate, order ∈ state.openOrders tradeDate
  ours_distinct : ((state.dayOrders tradeDate).map numberOf).Nodup
  theirs_distinct : (snapshot.openOrders.map BrokerOpenOrder.number).Nodup
  /-- Orders of one number have one side, and their quantities are equal. -/
  paired : ∀ order ∈ state.dayOrders tradeDate, ∀ row ∈ snapshot.openOrders,
    row.number = numberOf order → row.side = order.side.value ∧
      row.quantity = order.quantity ∧ row.remainingQuantity = order.remainingQuantity
  /-- The positions that are not listed add up to nothing. -/
  holdings : ∀ code,
    quantityHeld host state.heldPositions code = quantityHeld host state.positions code
  /-- Orders of several codes have no number in common, or nothing was executed for them. -/
  executions : ∀ number, Text.strip number ≠ "" →
    state.executedOf tradeDate number =
      localExecutionOf (state.executionSummaries tradeDate) number
  parsed : RowsParsed host root

/-! ## Counting findings -/

theorem mismatchCount_append (first second : List Finding) :
    mismatchCount (first ++ second) = mismatchCount first + mismatchCount second := by
  simp [mismatchCount]

theorem mismatchCount_flatMap_eq_zero (items : List α) (found : α → List Finding) :
    mismatchCount (items.flatMap found) = 0 ↔ ∀ item ∈ items, mismatchCount (found item) = 0 := by
  induction items with
  | nil => simp [mismatchCount]
  | cons item items ih =>
      rw [List.flatMap_cons, mismatchCount_append, Nat.add_eq_zero_iff, ih, List.forall_mem_cons]

theorem mismatchCount_findingIf_counted (found : Bool) (entry : Payload) :
    mismatchCount (findingIf found (counted entry)) = 0 ↔ found = false := by
  cases found <;> simp [mismatchCount, findingIf, counted]

theorem mismatchCount_mapM_eq_zero (items : List α) (found : α → Checked (List Finding)) :
    (∃ results, items.mapM found = .ok results ∧ mismatchCount results.flatten = 0) ↔
      ∀ item ∈ items, ∃ result, found item = .ok result ∧ mismatchCount result = 0 := by
  induction items with
  | nil =>
      constructor
      · rintro _ item ⟨⟩
      · intro _
        exact ⟨[], rfl, rfl⟩
  | cons item items ih =>
      rw [List.forall_mem_cons, ← ih]
      constructor
      · rintro ⟨results, all, none⟩
        rw [List.mapM_cons] at all
        rcases Checked.bind_eq_ok.mp all with ⟨first, isFirst, rest⟩
        rcases Checked.bind_eq_ok.mp rest with ⟨others, areOthers, same⟩
        cases same
        rw [List.flatten_cons, mismatchCount_append, Nat.add_eq_zero_iff] at none
        exact ⟨⟨first, isFirst, none.1⟩, others, areOthers, none.2⟩
      · rintro ⟨⟨first, isFirst, noFirst⟩, others, areOthers, noOthers⟩
        refine ⟨first :: others, ?_, ?_⟩
        · simp only [List.mapM_cons, isFirst, areOthers, Bind.bind, Except.bind, pure, Except.pure]
        · rw [List.flatten_cons, mismatchCount_append, noFirst, noOthers]

section Comparison

variable {host : ReconcileHost} {settings : ReconcileSettings} {state : LocalState}
  {clocks : ReconcileClocks} {snapshot : BrokerSnapshot}

theorem strippedNumber_idem (number : Option String) :
    strippedNumber (some (strippedNumber number)) = strippedNumber number :=
  Text.strip_strip _

theorem pairsUp_of_unfound {rows : List BrokerOpenOrder} {order : LiveSimOrder}
    {found : List Finding} (success : localOrderFindings host rows order = .ok found)
    (none : mismatchCount found = 0) : PairsUp host rows order := by
  rw [localOrderFindings] at success
  by_cases nameless : strippedNumber order.brokerOrderNo = ""
  · rw [if_pos nameless] at success
    cases success
    cases none
  · rw [if_neg nameless] at success
    refine ⟨nameless, ?_⟩
    split at success
    · cases success
      cases none
    · next row paired =>
        rcases Checked.bind_eq_ok.mp success with ⟨ourRemaining, isOurs, success⟩
        rcases Checked.bind_eq_ok.mp success with ⟨theirRemaining, areTheirs, success⟩
        rcases Checked.bind_eq_ok.mp success with ⟨ourQuantity, isQuantity, success⟩
        rcases Checked.bind_eq_ok.mp success with ⟨theirQuantity, areQuantity, success⟩
        cases success
        simp only [aboutNumber, mismatchCount_append, Nat.add_eq_zero_iff,
          mismatchCount_findingIf_counted] at none
        rcases none with ⟨⟨⟨code, remaining⟩, quantity⟩, status⟩
        refine ⟨row, paired, by simpa using code, ⟨_, _, isOurs, areTheirs, remaining⟩,
          ⟨_, _, isQuantity, areQuantity, quantity⟩, ?_⟩
        by_cases unknown : canonicalBrokerStatus row = ""
        · exact .inl unknown
        · exact .inr (by simpa [unknown] using status)

theorem unfound_of_pairsUp {rows : List BrokerOpenOrder} {order : LiveSimOrder}
    (pairs : PairsUp host rows order) :
    ∃ found, localOrderFindings host rows order = .ok found ∧ mismatchCount found = 0 := by
  rcases pairs with ⟨nameless, row, paired, code, ⟨ourRemaining, theirRemaining, isOurs,
    areTheirs, remaining⟩, ⟨ourQuantity, theirQuantity, isQuantity, areQuantity, quantity⟩, status⟩
  rw [numberOf] at nameless paired
  rw [localOrderFindings, if_neg nameless, paired]
  dsimp only
  rw [isOurs, areTheirs, isQuantity, areQuantity]
  refine ⟨_, rfl, ?_⟩
  simp only [aboutNumber, mismatchCount_append, Nat.add_eq_zero_iff,
    mismatchCount_findingIf_counted]
  refine ⟨⟨⟨by simpa using code, remaining⟩, quantity⟩, ?_⟩
  rcases status with unknown | same
  · simp [unknown]
  · simp [same]

theorem listed_iff (orders : List LiveSimOrder) (row : BrokerOpenOrder) :
    mismatchCount (brokerOrderFindings host orders row) = 0 ↔
      row.number ≠ "" ∧ ∃ order ∈ orders, order.brokerOrderNo = some row.number := by
  rw [brokerOrderFindings, mismatchCount_findingIf_counted, BrokerOpenOrder.number]
  by_cases nameless : strippedNumber row.brokerOrderNo = ""
  · simp [nameless]
  · simp only [nameless, decide_false, Bool.false_or, Bool.not_eq_false', List.any_eq_true,
      Bool.and_eq_true, decide_eq_true_eq, not_false_eq_true, ne_eq, true_and]
    constructor
    · rintro ⟨order, held, _, same⟩
      exact ⟨order, held, same⟩
    · rintro ⟨order, held, same⟩
      refine ⟨order, held, ?_, same⟩
      rw [same, strippedNumber_idem]
      exact nameless

theorem mismatchCount_priceFindings {tolerance : Rat} {code : String}
    {ours theirs : Option Float64} :
    mismatchCount (priceFindings host tolerance code ours theirs) = 0 ↔
      priceFindings host tolerance code ours theirs = [] := by
  cases ours with
  | none => simp [priceFindings, mismatchCount]
  | some left =>
      cases theirs with
      | none => simp [priceFindings, mismatchCount]
      | some right =>
          simp only [priceFindings, mismatchCount_findingIf_counted]
          cases ReconcileHost.exceeds _ _ <;> simp [findingIf]

variable (tolerance : Rat)

theorem holdingAlike_iff (ours theirs : List Holding) (code : String) :
    mismatchCount (holdingFindings host tolerance ours theirs code) = 0 ↔
      HoldingAlike host tolerance ours theirs code := by
  rw [holdingFindings]
  by_cases same : Holding.quantityOf ours code = Holding.quantityOf theirs code
  · simp only [same, ne_eq, not_true_eq_false, if_false, mismatchCount_append,
      Nat.add_eq_zero_iff, mismatchCount_findingIf_counted, mismatchCount_priceFindings]
    constructor
    · rintro ⟨available, price⟩
      exact ⟨same, available, price⟩
    · rintro ⟨_, available, price⟩
      exact ⟨available, price⟩
  · simp only [same, ne_eq, not_false_eq_true, if_true, mismatchCount, counted, List.map_cons,
      List.map_nil, List.sum_cons, List.sum_nil]
    constructor
    · intro impossible
      cases impossible
    · rintro ⟨alike, _, _⟩
      exact absurd alike same

theorem mem_distinctTexts {text : String} {texts : List String} :
    text ∈ distinctTexts texts ↔ text ∈ texts := by
  simp [distinctTexts]

theorem holdingAlike_of_absent {ours theirs : List Holding} {code : String}
    (absent : code ∉ (ours ++ theirs).map Holding.code) :
    HoldingAlike host tolerance ours theirs code := by
  have filtered : ∀ holdings : List Holding,
      (∀ holding ∈ holdings, holding ∈ ours ++ theirs) →
      (holdings.filter fun holding => holding.code = code) = [] := by
    intro holdings among
    apply List.filter_eq_nil_iff.mpr
    intro holding held same
    exact absent (List.mem_map.mpr ⟨holding, among holding held, of_decide_eq_true same⟩)
  have noOurs := filtered ours fun holding held => List.mem_append_left theirs held
  have noTheirs := filtered theirs fun holding held => List.mem_append_right ours held
  constructor
  · rw [Holding.quantityOf, Holding.quantityOf, noOurs, noTheirs]
  · simp [Holding.availableOf, noOurs, noTheirs, differ]
  · simp [Holding.averageOf, noOurs, noTheirs, priceFindings]

theorem holdings_iff (ours theirs : List Holding) :
    mismatchCount ((distinctTexts ((ours ++ theirs).map Holding.code)).flatMap
      (holdingFindings host tolerance ours theirs)) = 0 ↔
      ∀ code, HoldingAlike host tolerance ours theirs code := by
  simp only [mismatchCount_flatMap_eq_zero, holdingAlike_iff, mem_distinctTexts]
  constructor
  · intro alike code
    by_cases present : code ∈ (ours ++ theirs).map Holding.code
    · exact alike code present
    · exact holdingAlike_of_absent tolerance present
  · intro alike code _
    exact alike code

variable {number : String}

theorem localExecutionOf_named (summaries : List ExecutionSummary)
    (hasText : Text.strip number ≠ "") :
    localExecutionOf (summaries.filter fun summary => Text.strip summary.brokerOrderNo ≠ "")
      number = localExecutionOf summaries number := by
  rw [localExecutionOf, ← List.filter_reverse, List.find?_filter]
  congr 3
  funext summary
  by_cases same : summary.brokerOrderNo = number
  · simp [same, hasText]
  · simp [same]

theorem localExecutionOf_absent {summaries : List ExecutionSummary}
    (absent : number ∉ summaries.map ExecutionSummary.brokerOrderNo) :
    localExecutionOf summaries number = 0 := by
  have missing : (summaries.reverse.find? fun summary => summary.brokerOrderNo = number) =
      none := by
    simp only [List.find?_eq_none, List.mem_reverse, decide_eq_true_eq]
    intro summary held same
    exact absent (List.mem_map.mpr ⟨summary, held, same⟩)
  rw [localExecutionOf, missing]
  rfl

theorem brokerExecutionOf_absent {trades : List BrokerTrade}
    (absent : number ∉ trades.map fun trade => strippedNumber trade.brokerOrderNo) :
    brokerExecutionOf trades number = 0 := by
  have missing : (trades.filter fun trade => strippedNumber trade.brokerOrderNo = number) =
      [] := by
    simp only [List.filter_eq_nil_iff, decide_eq_true_eq]
    intro trade held same
    exact absent (List.mem_map.mpr ⟨trade, held, same⟩)
  rw [brokerExecutionOf, missing]
  rfl

theorem executions_iff (summaries : List ExecutionSummary) (trades : List BrokerTrade) :
    mismatchCount (executionFindings host summaries trades) = 0 ↔
      (∀ trade ∈ trades, strippedNumber trade.brokerOrderNo ≠ "") ∧
        ∀ number, Text.strip number ≠ "" →
          localExecutionOf summaries number = brokerExecutionOf trades number := by
  simp only [executionFindings, namelessFindings, mismatchCount_append, Nat.add_eq_zero_iff,
    mismatchCount_flatMap_eq_zero, mismatchCount_findingIf_counted, mem_distinctTexts,
    decide_eq_false_iff_not, not_not]
  refine and_congr_right fun _ => ?_
  constructor
  · intro alike number hasText
    by_cases present : number ∈
        (summaries.filter fun summary => Text.strip summary.brokerOrderNo ≠ "").map
            ExecutionSummary.brokerOrderNo ++
          (trades.map fun trade => strippedNumber trade.brokerOrderNo).filter (· ≠ "")
    · rw [← localExecutionOf_named summaries hasText]
      exact alike number present
    · rw [List.mem_append, not_or] at present
      have nonempty : number ≠ "" := by
        rintro rfl
        exact hasText (by decide)
      rw [← localExecutionOf_named summaries hasText, localExecutionOf_absent present.1,
        brokerExecutionOf_absent fun among =>
          present.2 (List.mem_filter.mpr ⟨among, decide_eq_true nonempty⟩)]
  · intro alike number present
    have hasText : Text.strip number ≠ "" := by
      rcases List.mem_append.mp present with ours | theirs
      · rcases List.mem_map.mp ours with ⟨summary, held, rfl⟩
        exact of_decide_eq_true (List.mem_filter.mp held).2
      · rcases List.mem_filter.mp theirs with ⟨held, nonempty⟩
        rcases List.mem_map.mp held with ⟨trade, _, rfl⟩
        rw [strippedNumber, Text.strip_strip]
        exact of_decide_eq_true nonempty
    rw [localExecutionOf_named summaries hasText]
    exact alike number hasText

theorem usable_iff (account tradeDate : String) :
    mismatchCount (qualityFindings host snapshot account tradeDate) = 0 ↔
      qualityReasons snapshot account tradeDate = [] := by
  have counts : ∀ reasons : List String, ∀ entry : String → Payload,
      mismatchCount (reasons.map fun reason => counted (entry reason)) = reasons.length := by
    simp [mismatchCount, counted, Function.comp_def]
  rw [qualityFindings, counts, List.length_eq_zero_iff]

/-- The findings on a snapshot, when no check fails, count nothing exactly when what is compared
with the tables agrees. -/
theorem brokerAlike_iff (orders : List LiveSimOrder) (positions : List LiveSimPosition)
    (summaries : List ExecutionSummary) :
    (∃ found, brokerFindings host settings orders positions summaries snapshot = .ok found ∧
      mismatchCount found = 0) ↔
      (∀ order ∈ orders, PairsUp host snapshot.openOrders order) ∧
      (∀ row ∈ snapshot.openOrders, row.number ≠ "" ∧
        ∃ order ∈ orders, order.brokerOrderNo = some row.number) ∧
      (∀ code, HoldingAlike host settings.notionalTolerance
        (positions.filterMap (localHolding host))
        (snapshot.positions.filterMap (brokerHolding host)) code) ∧
      (∀ trade ∈ snapshot.executions, strippedNumber trade.brokerOrderNo ≠ "") ∧
      ∀ number, Text.strip number ≠ "" →
        localExecutionOf summaries number = brokerExecutionOf snapshot.executions number := by
  rw [← @executions_iff host, ← holdings_iff]
  simp only [brokerFindings, Checked.bind_eq_ok, pure, Except.pure, Except.ok.injEq]
  have paired : (∀ order ∈ orders, PairsUp host snapshot.openOrders order) ↔
      ∃ results, orders.mapM (localOrderFindings host snapshot.openOrders) = .ok results ∧
        mismatchCount results.flatten = 0 := by
    rw [mismatchCount_mapM_eq_zero]
    refine forall₂_congr fun order _ => ?_
    constructor
    · exact unfound_of_pairsUp
    · rintro ⟨found, success, none⟩
      exact pairsUp_of_unfound success none
  have listed : (∀ row ∈ snapshot.openOrders, row.number ≠ "" ∧
      ∃ order ∈ orders, order.brokerOrderNo = some row.number) ↔
      mismatchCount (snapshot.openOrders.flatMap (brokerOrderFindings host orders)) = 0 := by
    rw [mismatchCount_flatMap_eq_zero]
    exact forall₂_congr fun row _ => (listed_iff orders row).symm
  rw [paired, listed]
  constructor
  · rintro ⟨_, ⟨results, all, rfl⟩, none⟩
    simp only [mismatchCount_append, Nat.add_eq_zero_iff] at none
    rcases none with ⟨⟨⟨ours, theirs⟩, holdings⟩, executions⟩
    exact ⟨⟨results, all, ours⟩, theirs, holdings, executions⟩
  · rintro ⟨⟨results, all, ours⟩, theirs, holdings, executions⟩
    refine ⟨_, ⟨results, all, rfl⟩, ?_⟩
    simp only [mismatchCount_append, Nat.add_eq_zero_iff]
    exact ⟨⟨⟨ours, theirs⟩, holdings⟩, executions⟩

theorem stale_iff (stale : Nat) : mismatchCount (staleFindings stale) = 0 ↔ stale = 0 := by
  cases stale <;> simp [staleFindings, findingIf, mismatchCount]

theorem status_eq_ok {result : Reconciliation} :
    result.status = "OK" ↔
      mismatchCount result.findings = 0 ∧ result.brokerSnapshot.isSome = true := by
  rw [Reconciliation.status]
  by_cases none : mismatchCount result.findings = 0
  · cases present : result.brokerSnapshot <;> simp [none]
  · simp [none]

theorem normalizesTo_iff {payload : Option Payload} :
    normalizeBrokerSnapshot host settings payload clocks = .ok (some snapshot) ↔
      ∃ root, NormalizesTo host settings payload clocks root snapshot := by
  cases payload with
  | none => simp [normalizeBrokerSnapshot, NormalizesTo]
  | some payload => simp [normalizeBrokerSnapshot, NormalizesTo, Checked.bind_eq_ok]

end Comparison

/-- The status is OK exactly when a snapshot came and what is compared agrees. -/
theorem reconcilesOk_iff
    (state : LocalState) (payload : Option Payload) (clocks : ReconcileClocks) :
    ReconcilesOk host settings state payload clocks ↔
      ∃ root snapshot, NormalizesTo host settings payload clocks root snapshot ∧
        ComparedAlike host settings state clocks snapshot := by
  constructor
  · rintro ⟨result, success, isOk⟩
    rcases status_eq_ok.mp isOk with ⟨none, present⟩
    simp only [reconcile, Checked.bind_eq_ok, pure, Except.pure, Except.ok.injEq] at success
    rcases success with ⟨aboutPositions, positions, given, normalized, aboutSnapshot, compared, rfl⟩
    rcases Option.isSome_iff_exists.mp present with ⟨snapshot, rfl⟩
    rcases normalizesTo_iff.mp normalized with ⟨root, normalizes⟩
    simp only [snapshotFindings, Checked.bind_eq_ok, pure, Except.pure,
      Except.ok.injEq] at compared
    rcases compared with ⟨found, compared, rfl⟩
    simp only [mismatchCount_append, Nat.add_eq_zero_iff, mismatchCount_flatMap_eq_zero,
      stale_iff, usable_iff] at none
    rcases none with ⟨⟨⟨orders, sound⟩, stale⟩, usable, alike⟩
    rcases (brokerAlike_iff _ _ _).mp ⟨found, compared, alike⟩ with
      ⟨paired, listed, holdings, named, executions⟩
    exact ⟨root, snapshot, normalizes, ⟨orders,
      (mismatchCount_mapM_eq_zero _ _).mp ⟨aboutPositions, positions, sound⟩, stale⟩, usable,
      paired, listed, holdings, named, executions⟩
  · rintro ⟨root, snapshot, normalizes, alike⟩
    rcases (mismatchCount_mapM_eq_zero _ _).mpr alike.tables.positions with
      ⟨aboutPositions, positions, sound⟩
    rcases (brokerAlike_iff _ _ _).mpr ⟨alike.orders, alike.listed, alike.holdings, alike.named,
      alike.executions⟩ with ⟨found, compared, none⟩
    have normalized := normalizesTo_iff.mpr ⟨root, normalizes⟩
    have aboutSnapshot : snapshotFindings host settings (marketToday clocks.today)
        (state.openOrders (marketToday clocks.today)) state.positions
        (state.executionSummaries (marketToday clocks.today)) (some snapshot) =
        .ok (qualityFindings host snapshot (maskAccountId host settings.accountId)
          (marketToday clocks.today) ++ found) := by
      simp only [snapshotFindings, compared, Bind.bind, Except.bind, pure, Except.pure]
    simp only [ReconcilesOk, reconcile, Checked.bind_eq_ok]
    refine ⟨_, ⟨aboutPositions, positions, some snapshot, normalized, _, aboutSnapshot, rfl⟩,
      status_eq_ok.mpr ⟨?_, rfl⟩⟩
    simp only [mismatchCount_append, Nat.add_eq_zero_iff, mismatchCount_flatMap_eq_zero,
      stale_iff, usable_iff]
    exact ⟨⟨⟨alike.tables.orders, sound⟩, alike.tables.stale⟩, alike.usable, none⟩

/-! ## What is not compared, and the law -/

section Rest

variable {host : ReconcileHost} {settings : ReconcileSettings} {state : LocalState}
  {clocks : ReconcileClocks} {root : Payload} {snapshot : BrokerSnapshot}

variable {order : LiveSimOrder}

theorem mem_dayOrders {tradeDate : String} (listed : order ∈ state.openOrders tradeDate) :
    order ∈ state.dayOrders tradeDate :=
  (List.perm_insertionSort _ _).mem_iff.mp (List.mem_of_mem_take listed)

theorem eq_of_number {number : α → String} {items : List α}
    (distinct : (items.map number).Nodup) {first second : α} (isFirst : first ∈ items)
    (isSecond : second ∈ items) (same : number first = number second) : first = second :=
  List.inj_on_of_nodup_map distinct isFirst isSecond same

theorem row_of_pairsUp {rows : List BrokerOpenOrder} (pairs : PairsUp host rows order) :
    ∃ row ∈ rows, row.number = numberOf order ∧ row.code = some order.code := by
  rcases pairs with ⟨_, row, found, code, _⟩
  refine ⟨row, List.mem_reverse.mp (List.mem_of_find?_eq_some found), ?_, code⟩
  have same := List.find?_some found
  rw [decide_eq_true_eq] at same
  rw [BrokerOpenOrder.number, same, numberOf, strippedNumber_idem]

theorem numberOf_of_listed {row : BrokerOpenOrder} (same : order.brokerOrderNo = some row.number) :
    numberOf order = row.number := by
  rw [numberOf, same, BrokerOpenOrder.number, strippedNumber_idem]

theorem ordersCorrespond_iff
    (alike : ComparedAlike host settings state clocks snapshot) :
    OrdersCorrespond (state.dayOrders (marketToday clocks.today)) snapshot.openOrders ↔
      (∀ order ∈ state.dayOrders (marketToday clocks.today),
        order ∈ state.openOrders (marketToday clocks.today)) ∧
      ((state.dayOrders (marketToday clocks.today)).map numberOf).Nodup ∧
      (snapshot.openOrders.map BrokerOpenOrder.number).Nodup ∧
      ∀ order ∈ state.dayOrders (marketToday clocks.today), ∀ row ∈ snapshot.openOrders,
        row.number = numberOf order → row.side = order.side.value ∧
          row.quantity = order.quantity ∧ row.remainingQuantity = order.remainingQuantity := by
  constructor
  · rintro ⟨oursDistinct, theirsDistinct, named, theirs, ours⟩
    refine ⟨?_, oursDistinct, theirsDistinct, ?_⟩
    · intro order held
      rcases theirs order held with ⟨row, isRow, same⟩
      rcases (alike.listed row isRow).2 with ⟨other, listed, number⟩
      have equal : other = order :=
        eq_of_number oursDistinct (mem_dayOrders listed) held
          (by rw [numberOf_of_listed number, same.number])
      rw [← equal]
      exact listed
    · intro order held row isRow sameNumber
      rcases theirs order held with ⟨other, isOther, same⟩
      have equal : other = row :=
        eq_of_number theirsDistinct isOther isRow (by rw [same.number, sameNumber])
      rw [← equal]
      exact ⟨same.side, same.quantity, same.remaining⟩
  · rintro ⟨allListed, oursDistinct, theirsDistinct, paired⟩
    have sameOf : ∀ order ∈ state.dayOrders (marketToday clocks.today),
        ∃ row ∈ snapshot.openOrders, MatchesRow order row := by
      intro order held
      rcases row_of_pairsUp (alike.orders order (allListed order held)) with
        ⟨row, isRow, number, code⟩
      rcases paired order held row isRow number with ⟨side, quantity, remaining⟩
      exact ⟨row, isRow, number, code, side, quantity, remaining⟩
    refine ⟨oursDistinct, theirsDistinct, ?_, sameOf, ?_⟩
    · intro order held
      exact (alike.orders order (allListed order held)).1
    · intro row isRow
      rcases (alike.listed row isRow).2 with ⟨order, listed, number⟩
      rcases sameOf order (mem_dayOrders listed) with ⟨other, isOther, same⟩
      have equal : other = row :=
        eq_of_number theirsDistinct isOther isRow
          (by rw [same.number, numberOf_of_listed number])
      rw [← equal]
      exact ⟨order, mem_dayOrders listed, same⟩

theorem optionalStockCode_of_validated {text code : String}
    (validated : validateStockCode (.str text) = .ok code) :
    (Json.str text).optionalStockCode host.toHost = some code := by
  have nonempty : Text.strip text ≠ "" := by
    intro empty
    simp [validateStockCode, requireNonEmptyStr, empty, Bind.bind, Except.bind,
      Checked.invalid] at validated
  have printed : (Json.str text).text host.toHost = text := rfl
  have present : (Json.str text).isNull = false := rfl
  rw [Json.optionalStockCode, printed, present]
  simp [nonempty, validated]

theorem quantityOf_filterMap (read : α → Option Holding) (code : α → String)
    (quantity : α → Int) {items : List α}
    (readable : ∀ item ∈ items, ∃ holding, read item = some holding ∧
      holding.code = code item ∧ holding.quantity = quantity item) (wanted : String) :
    Holding.quantityOf (items.filterMap read) wanted =
      ((items.filter fun item => code item = wanted).map quantity).sum := by
  induction items with
  | nil => rfl
  | cons item items ih =>
      rcases readable item List.mem_cons_self with ⟨holding, isHolding, sameCode, sameQuantity⟩
      have rest := ih fun item held => readable item (List.mem_cons_of_mem _ held)
      rw [Holding.quantityOf] at rest ⊢
      by_cases same : code item = wanted
      · simp [isHolding, sameCode, sameQuantity, same, rest]
      · simp [isHolding, sameCode, same, rest]

theorem quantityHeld_listed (alike : ComparedAlike host settings state clocks snapshot)
    (code : String) :
    Holding.quantityOf (state.positions.filterMap (localHolding host)) code =
      quantityHeld host state.positions code := by
  apply quantityOf_filterMap
  intro position listed
  rcases alike.tables.positions position listed with ⟨found, success, _⟩
  rcases Checked.bind_eq_ok.mp success with ⟨code, validated, _⟩
  have read := @optionalStockCode_of_validated host _ _ validated
  rw [localHolding, heldCode, read]
  exact ⟨_, rfl, rfl, rfl⟩

theorem normalized_positions (normalized : normalizeRoot host settings root clocks =
    .ok (some snapshot)) {row : BrokerHolding} (isRow : row ∈ snapshot.positions) :
    ∃ fields, normalizeBrokerPosition host fields = .ok (some row) := by
  rw [normalizeRoot] at normalized
  split at normalized
  · cases normalized
  · simp only [Checked.bind_eq_ok, pure, Except.pure, Except.ok.injEq,
      Option.some.injEq] at normalized
    rcases normalized with ⟨_, _, _, _, positions, all, _, _, rfl⟩
    rcases List.mem_filterMap.mp isRow with ⟨kept, isKept, same⟩
    rcases (Checked.mem_mapM all).mp isKept with ⟨fields, _, reads⟩
    obtain rfl : kept = some row := same
    exact ⟨fields, reads⟩

theorem brokerQuantity_eq
    (normalized : normalizeRoot host settings root clocks = .ok (some snapshot))
    (code : String) :
    Holding.quantityOf (snapshot.positions.filterMap (brokerHolding host)) code =
      brokerQuantity snapshot.positions code := by
  apply quantityOf_filterMap
  intro row isRow
  rcases normalized_positions normalized isRow with ⟨fields, reads⟩
  have validated : validateStockCode (.str row.code) = .ok row.code := by
    rw [normalizeBrokerPosition] at reads
    split at reads
    · cases reads
    · next code found =>
        simp only [Checked.bind_eq_ok, pure, Except.pure, Except.ok.injEq,
          Option.some.injEq] at reads
        rcases reads with ⟨_, _, _, _, rfl⟩
        exact validateStockCode_of_optionalStockCode found
  have read := @optionalStockCode_of_validated host _ _ validated
  rw [brokerHolding, read]
  exact ⟨_, rfl, rfl, rfl⟩

theorem sidesAgree_iff (normalized : normalizeRoot host settings root clocks = .ok (some snapshot))
    (alike : ComparedAlike host settings state clocks snapshot) :
    SidesAgree host state (marketToday clocks.today) root snapshot ↔
      RestAgrees host state (marketToday clocks.today) root snapshot := by
  have held : ∀ code, quantityHeld host state.positions code =
      brokerQuantity snapshot.positions code := by
    intro code
    rw [← quantityHeld_listed alike, (alike.holdings code).quantity, brokerQuantity_eq normalized]
  constructor
  · rintro ⟨orders, holdings, executions, parsed⟩
    rcases (ordersCorrespond_iff alike).mp orders with
      ⟨allListed, oursDistinct, theirsDistinct, paired⟩
    refine ⟨allListed, oursDistinct, theirsDistinct, paired, ?_, ?_, parsed⟩
    · intro code
      rw [holdings code, held code]
    · intro number hasText
      rw [executions number hasText, alike.executions number hasText]
  · rintro ⟨allListed, oursDistinct, theirsDistinct, paired, holdings, executions, parsed⟩
    refine ⟨(ordersCorrespond_iff alike).mpr ⟨allListed, oursDistinct, theirsDistinct, paired⟩,
      ?_, ?_, parsed⟩
    · intro code
      rw [holdings code, held code]
    · intro number hasText
      rw [executions number hasText, alike.executions number hasText]

theorem NormalizesTo.unique {payload : Option Payload} {otherRoot : Payload}
    {other : BrokerSnapshot} (first : NormalizesTo host settings payload clocks root snapshot)
    (second : NormalizesTo host settings payload clocks otherRoot other) :
    otherRoot = root ∧ other = snapshot := by
  rcases first with ⟨given, rfl, isRoot, normalized⟩
  rcases second with ⟨_, ⟨⟩, isOther, alsoNormalized⟩
  rw [isRoot] at isOther
  cases isOther
  rw [normalized] at alsoNormalized
  cases alsoNormalized
  exact ⟨rfl, rfl⟩

end Rest

/-- A reconciliation with the status OK is complete unless all that it compares agrees and
something that it does not compare differs. -/
theorem reconcile_complete_iff
    (state : LocalState) (payload : Option Payload) (clocks : ReconcileClocks) :
    (ReconcilesOk host settings state payload clocks →
      ∀ root snapshot, NormalizesTo host settings payload clocks root snapshot →
        SidesAgree host state (marketToday clocks.today) root snapshot) ↔
    ∀ root snapshot, NormalizesTo host settings payload clocks root snapshot →
      ComparedAlike host settings state clocks snapshot →
      RestAgrees host state (marketToday clocks.today) root snapshot := by
  constructor
  · intro complete root snapshot normalizes alike
    have isOk := (reconcilesOk_iff host settings state payload clocks).mpr
      ⟨root, snapshot, normalizes, alike⟩
    rcases normalizes with ⟨given, isGiven, isRoot, normalized⟩
    exact (sidesAgree_iff normalized alike).mp
      (complete isOk root snapshot ⟨given, isGiven, isRoot, normalized⟩)
  · intro rest isOk root snapshot normalizes
    rcases (reconcilesOk_iff host settings state payload clocks).mp isOk with
      ⟨_, _, others, alike⟩
    rcases normalizes.unique others with ⟨rfl, rfl⟩
    have normalized := normalizes
    rcases normalized with ⟨_, _, _, normalized⟩
    exact (sidesAgree_iff normalized alike).mpr (rest _ _ normalizes alike)

/-! ## An order of the other side -/

def wholeText (value : Nat) : String :=
  String.ofList (Nat.toDigits 10 value ++ '.' :: ['0'])

def readWhole (text : String) : Nat :=
  Nat.ofDigitChars 10 (text.toList.takeWhile Char.isDigit) 0

theorem readWhole_wholeText (value : Nat) : readWhole (wholeText value) = value := by
  have digits : ∀ d ∈ Nat.toDigits 10 value, d.isDigit = true :=
    fun _ => Json.isDigit_of_mem_toDigits
  rw [readWhole, wholeText, String.toList_ofList, List.takeWhile_append_of_pos digits]
  simp

theorem floatText_wholeText (value : Nat) :
    Json.FloatText (fun text => wholeText (readWhole text)) (wholeText value) :=
  Json.floatText_decimal value (List.cons_ne_nil _ _) (by simp) rfl
    (by rw [readWhole_wholeText])

def wholeHost : ReconcileHost where
  floatRepr text := wholeText (readWhole text)
  float text :=
    if (text.toList.head?.map Char.isDigit).getD false then some (.finite (readWhole text))
    else none
  floatOfInt value := some (.finite value)
  reprText := id
  database := none
  round := .finite
  print
    | .finite value => wholeText value.num.toNat
    | _ => wholeText 0
  print_floatText value := by
    cases value <;> exact floatText_wholeText _
  floatRepr_floatText text := floatText_wholeText _
  isAlphanumeric := Char.isAlphanum

def reconciledAt : ReconcileClocks :=
  ⟨63919846800000000, 63919846800000000, 63919846800000000, 63919846800000000,
    63919846800000000, 63919846800000000⟩

def reconcileSettings : ReconcileSettings where
  liveSimAccountId := some "SIM-1"
  notionalTolerance := 1
  blockNewBuyOnMismatch := true
  allowExitOnMismatch := true
  staleOrderSec := 86400
  brokerSnapshotStaleSec := 60

/-- One BUY order of ten shares is open. -/
def oneOpenBuy : LocalState where
  tables := tablesOfOrders [{ dispatchedBuy with status := .brokerAcked }] (by decide)
  commandStatus _ := some "ACKED"

/-- The broker holds it as a SELL order. -/
def soldAtBroker : Payload :=
  [("open_orders", .arr [.obj [("order_no", .str "1001"), ("code", .str "005930"),
    ("side", .str "SELL"), ("quantity", .int 10), ("unfilled_quantity", .int 10)]])]

theorem soldAtBroker_status :
    (reconcile wholeHost reconcileSettings oneOpenBuy (some soldAtBroker)
      reconciledAt).toOption.map Reconciliation.status = some "OK" := by
  decide +kernel

theorem soldAtBroker_sides :
    (normalizeBrokerSnapshot wholeHost reconcileSettings (some soldAtBroker)
        reconciledAt).toOption.map (Option.map fun snapshot =>
      snapshot.openOrders.map BrokerOpenOrder.side) = some (some ["SELL"]) := by
  decide +kernel

/-- The reconciliation is OK although the order is a purchase here and a sale there. -/
theorem sold_order_reconciles :
    ¬ (ReconcilesOk wholeHost reconcileSettings oneOpenBuy (some soldAtBroker) reconciledAt →
      ∀ root snapshot,
        NormalizesTo wholeHost reconcileSettings (some soldAtBroker) reconciledAt root snapshot →
        SidesAgree wholeHost oneOpenBuy (marketToday reconciledAt.today) root snapshot) := by
  intro complete
  have isOk : ReconcilesOk wholeHost reconcileSettings oneOpenBuy (some soldAtBroker)
      reconciledAt := by
    have status := soldAtBroker_status
    cases result : reconcile wholeHost reconcileSettings oneOpenBuy (some soldAtBroker)
        reconciledAt with
    | error failure =>
        rw [result] at status
        cases status
    | ok reconciliation =>
        rw [result] at status
        rw [Except.toOption, Option.map_some, Option.some.injEq] at status
        exact ⟨reconciliation, result, status⟩
  rcases (reconcilesOk_iff _ _ _ _ _).mp isOk with ⟨root, snapshot, normalizes, _⟩
  have agree := complete isOk root snapshot normalizes
  have sides := soldAtBroker_sides
  rw [normalizesTo_iff.mpr ⟨root, normalizes⟩] at sides
  have sold : snapshot.openOrders.map BrokerOpenOrder.side = ["SELL"] :=
    Option.some_injective _ (Option.some_injective _ sides)
  have bought : ∃ order ∈ oneOpenBuy.dayOrders (marketToday reconciledAt.today),
      order.side.value = "BUY" := by
    decide +kernel
  rcases bought with ⟨order, held, buys⟩
  rcases agree.orders.theirs order held with ⟨row, isRow, same⟩
  have among : row.side ∈ snapshot.openOrders.map BrokerOpenOrder.side :=
    List.mem_map_of_mem isRow
  rw [sold, List.mem_singleton, same.side, buys] at among
  exact absurd among (by decide)

end SuseokTrader
