import SuseokTrader.LiveSim.FillAccounting
import SuseokTrader.LiveSim.OrderNumbers

/-!
# Which order a fill goes to

An execution names its order by the number of the broker or by a command. The
number is looked up first, among the orders of all days, accounts and codes, and
only the order that comes first in the table is seen. What else the event says
of its order is not compared.
-/

namespace SuseokTrader

/-! ## What an execution names -/

variable (host : Host)

def lookupText (value : Json) : Option String :=
  if value.truthy then some (Text.strip (Json.text host value)) else none

def numberField (payload : Payload) : Json :=
  (payload.get "broker_order_id").orElse (payload.get "broker_order_no")

def commandField (commandId : Option String) (metadata : Payload) : Json :=
  match commandId with
  | some commandId => .str commandId
  | none => Json.get metadata "gateway_command_id"

structure ExecutionNames where
  number : Option String
  command : Option String

/-- What an execution or a conclusion notice names. -/
def namesOf (event : GatewayEvent) : Option ExecutionNames :=
  match executionPayload host event with
  | .ok (some payload) =>
      match (payload.get "metadata").toObject host with
      | .ok metadata =>
          some ⟨lookupText host (numberField payload),
            lookupText host (commandField event.commandId metadata)⟩
      | .error _ => none
  | _ => none

variable (tables : LiveSimTables)

/-- The order that an execution or a conclusion notice is looked up to. -/
def orderNamed (event : GatewayEvent) :
    Checked (Option LiveSimOrder) := do
  let payload ← executionPayload host event
  match payload with
  | none => return none
  | some payload => do
      let metadata ← (payload.get "metadata").toObject host
      orderOfExecution host tables (numberField payload) (commandField event.commandId metadata)

def LiveSimTables.orderOfNames (names : ExecutionNames) :
    Option LiveSimOrder :=
  (names.number.bind tables.orderByBrokerOrderNo).or
    (names.command.bind tables.orderByCommandId)

/-! ## The law -/

/-- The order is the one that the event is about. -/
structure IsOrderOf (tables : LiveSimTables) (names : ExecutionNames) (report : ExecutionReport)
    (order : LiveSimOrder) : Prop where
  number : ∀ number ∈ names.number, order.brokerOrderNo = some number
  command : ∀ commandId ∈ names.command, ∀ other ∈ tables.orderByCommandId commandId,
    order = other
  code : order.code = report.code
  side : order.side = report.side

/-- The order and the number that an event carries together. -/
def carriedBy (event : GatewayEvent) :
    Option (LiveSimOrder × String) :=
  match ackOf host tables event with
  | some (order, ack) =>
      ack.brokerOrderNo.bind fun number =>
        if Text.strip number = "" then none else some (order, Text.strip number)
  | none =>
      (namesOf host event).bind fun names =>
        (names.command.bind tables.orderByCommandId).bind fun order =>
          names.number.bind fun number => if number = "" then none else some (order, number)

structure TracedStore where
  store : LiveSimStore
  carried : List (String × String)

def carriedIn (host : LiveSimHost) (store : LiveSimStore) : AccountOp → List (String × String)
  | .live (.trade (.deliver delivery)) =>
      ((carriedBy host.toHost store.live delivery.event).map fun (order, number) =>
        (order.liveSimOrderId, number)).toList
  | _ => []

def tracedSystem (host : LiveSimHost) (settings : LiveSimBuySettings) :
    System TracedStore AccountOp Unit :=
  .ofStep fun traced op =>
    ⟨accountStep host settings traced.store op,
      traced.carried ++ carriedIn host traced.store op⟩

/-- The fills of an event go to the order that the event is about. An event with nothing but a
number finds the order that an earlier event carried the number with. Without a fill an execution
changes nothing. -/
structure AttributesFill (host : Host) (settings : LiveSimSettings) (traced : TracedStore)
    (delivery : Delivery) : Prop where
  attributed : ∀ fill ∈ fillOf host settings traced.store.live delivery.event,
    ∀ names ∈ namesOf host delivery.event, IsOrderOf traced.store.live names fill.2 fill.1
  found : ∀ names ∈ namesOf host delivery.event, names.command = none →
    ∀ number ∈ names.number, ∀ id, (id, number) ∈ traced.carried →
      ∃ order, orderNamed host traced.store.live delivery.event = .ok (some order) ∧
        order.liveSimOrderId = id
  unchanged : liveSimEventOf delivery.event.eventType = .execution ∨
      liveSimEventOf delivery.event.eventType = .chejan →
    fillOf host settings traced.store.live delivery.event = none →
      tablesAfterEvent host settings traced.store.live delivery.event delivery.ids
        delivery.now = traced.store.live

def StepAttributesFill (host : LiveSimHost) (settings : LiveSimBuySettings)
    (traced : TracedStore) : AccountOp → Prop
  | .live (.trade (.deliver delivery)) =>
      AttributesFill host.toHost settings.toLiveSimSettings traced delivery
  | _ => True

/-! ## The conditions -/

def IsAboutFirst (names : ExecutionNames) (report : ExecutionReport) :
    Prop :=
  ∃ before order after, tables.orders.rows = before ++ order :: after ∧
    IsOrderOf tables names report order ∧
    ∀ number ∈ names.number, ∀ earlier ∈ before, earlier.brokerOrderNo ≠ some number

def FillIsAboutFirst (settings : LiveSimSettings) (tables : LiveSimTables)
    (event : GatewayEvent) : Prop :=
  ∀ fill ∈ fillOf host settings tables event, ∀ names ∈ namesOf host event,
    IsAboutFirst tables names fill.2

/-- A number belongs to one order and an order has one number, which its acknowledgement brings
before an execution does. -/
structure RecordsNumber (host : Host) (tables : LiveSimTables) (event : GatewayEvent) : Prop where
  kept : ∀ acked ∈ ackOf host tables event, ∀ number ∈ acked.2.brokerOrderNo,
    ∀ recorded ∈ acked.1.brokerOrderNo, recorded = number
  stripped : ∀ acked ∈ ackOf host tables event, ∀ number ∈ acked.2.brokerOrderNo,
    Text.strip number = number
  onRecord : ackOf host tables event = none → ∀ carried ∈ carriedBy host tables event,
    carried.1.brokerOrderNo = some carried.2
  unshared : ∀ carried ∈ carriedBy host tables event, ∀ other ∈ tables.orders.rows,
    other.brokerOrderNo = some carried.2 → other.liveSimOrderId = carried.1.liveSimOrderId

def StepRecordsNumber (host : LiveSimHost) (traced : TracedStore) : AccountOp → Prop
  | .live (.trade (.deliver delivery)) =>
      RecordsNumber host.toHost traced.store.live delivery.event
  | _ => True

def StepIsAboutFirst (host : LiveSimHost) (settings : LiveSimBuySettings)
    (traced : TracedStore) : AccountOp → Prop
  | .live (.trade (.deliver delivery)) =>
      FillIsAboutFirst host.toHost settings.toLiveSimSettings traced.store.live delivery.event
  | _ => True

/-! ## The lookups -/

section Lookups

variable {host : Host} {settings : LiveSimSettings} {tables : LiveSimTables}

theorem requireNonEmptyStr_eq_ok {value fieldName text : String}
    (read : requireNonEmptyStr (.str value) fieldName = .ok text) : text = Text.strip value := by
  rw [requireNonEmptyStr] at read
  split at read
  · cases read
  · exact (Except.ok.inj read).symm

theorem lookup_command {command : Json} {found : Option LiveSimOrder}
    (lookup : (if command.truthy then (do
        let commandId ← requireNonEmptyStr (.str (Json.text host command)) "command_id"
        return tables.orderByCommandId commandId)
      else return none) = Except.ok found) :
    (lookupText host command).bind tables.orderByCommandId = found := by
  rw [lookupText]
  split at lookup
  · next truthy =>
      simp only [Checked.bind_eq_ok, pure, Except.pure, Except.ok.injEq] at lookup
      rcases lookup with ⟨text, read, found⟩
      rw [if_pos truthy, Option.bind_some, ← requireNonEmptyStr_eq_ok read, found]
  · next falsy =>
      cases lookup
      rw [if_neg falsy]
      rfl

theorem orderOfNames_of_lookup {number command : Json} {found : Option LiveSimOrder}
    (lookup : orderOfExecution host tables number command = .ok found) :
    tables.orderOfNames ⟨lookupText host number, lookupText host command⟩ = found := by
  rw [LiveSimTables.orderOfNames]
  rw [orderOfExecution] at lookup
  split at lookup
  · next truthy =>
      simp only [Checked.bind_eq_ok, pure, Except.pure, Except.ok.injEq] at lookup
      rcases lookup with ⟨text, read, byNumber, rfl, lookup⟩
      have isText : lookupText host number = some text := by
        rw [lookupText, if_pos truthy, requireNonEmptyStr_eq_ok read]
      rw [isText, Option.bind_some]
      split at lookup
      · next order named =>
          cases lookup
          rw [named]
          rfl
      · next missing =>
          rw [missing]
          exact lookup_command lookup
  · next falsy =>
      simp only [Checked.bind_eq_ok, pure, Except.pure, Except.ok.injEq] at lookup
      rcases lookup with ⟨_, rfl, lookup⟩
      have noText : lookupText host number = none := by
        rw [lookupText, if_neg falsy]
      rw [noText]
      exact lookup_command lookup

theorem order_of_named {payload metadata : Payload} {commandId : Option String} {ts : Instant}
    {named : NamedExecution} (isMetadata : (payload.get "metadata").toObject host = .ok metadata)
    (name : nameExecution host settings tables payload commandId ts = .ok (.ok named)) :
    orderOfExecution host tables (numberField payload) (commandField commandId metadata) =
      .ok (some named.order) := by
  simp only [nameExecution, Checked.bind_eq_ok] at name
  rcases name with ⟨metadata', read, name⟩
  obtain rfl : metadata = metadata' := Except.ok.inj (isMetadata.symm.trans read)
  split at name
  · simp [Checked.bind_eq_ok, pure, Except.pure] at name
  · simp only [Checked.bind_eq_ok] at name
    rcases name with ⟨found, isFound, name⟩
    split at name
    · simp [Checked.bind_eq_ok, pure, Except.pure] at name
    · simp only [pure, Except.pure, Except.ok.injEq] at name
      subst name
      exact isFound

variable {order : LiveSimOrder} {report : ExecutionReport} {names : ExecutionNames}

theorem named_of_fresh {payload : Payload} {commandId : Option String} {ts : Instant}
    (read : readExecutionEvent host settings tables payload commandId ts =
      .ok (.fresh order report)) :
    ∃ named, nameExecution host settings tables payload commandId ts = .ok (.ok named) ∧
      named.order = order := by
  simp only [readExecutionEvent, Checked.bind_eq_ok] at read
  rcases read with ⟨name, isName, read⟩
  split at read
  · simp [pure, Except.pure] at read
  · next named =>
      simp only [Checked.bind_eq_ok] at read
      rcases read with ⟨applied, _, read⟩
      split at read
      · simp [pure, Except.pure] at read
      · simp only [Checked.bind_eq_ok, pure, Except.pure, Except.ok.injEq,
          ExecutionReading.fresh.injEq] at read
        rcases read with ⟨_, _, rfl, _⟩
        exact ⟨named, isName, rfl⟩

theorem payload_of_names {event : GatewayEvent} (named : namesOf host event = some names) :
    ∃ payload metadata, executionPayload host event = .ok (some payload) ∧
      (payload.get "metadata").toObject host = .ok metadata ∧
      names = ⟨lookupText host (numberField payload),
        lookupText host (commandField event.commandId metadata)⟩ := by
  rw [namesOf] at named
  split at named
  · next payload isPayload =>
      split at named
      · next metadata isMetadata => exact ⟨payload, metadata, isPayload, isMetadata,
          (Option.some.inj named).symm⟩
      · cases named
  · cases named

theorem orderOfNames_of_fill {event : GatewayEvent}
    (reported : fillOf host settings tables event = some (order, report))
    (named : namesOf host event = some names) : tables.orderOfNames names = some order := by
  rcases payload_of_names named with ⟨payload, metadata, isPayload, isMetadata, rfl⟩
  have fills := (@handle_of_payload host settings tables payload ⟨"", ""⟩ 0 event isPayload).2
  rw [reported] at fills
  rcases named_of_fresh (fresh_of_fill fills.symm) with ⟨found, isNamed, rfl⟩
  exact orderOfNames_of_lookup (order_of_named isMetadata isNamed)

/-- A fill goes to the right order exactly if the event is about the first order with its
number. -/
theorem isOrderOf_iff (found : tables.orderOfNames names = some order) :
    IsOrderOf tables names report order ↔ IsAboutFirst tables names report := by
  constructor
  · intro isOrder
    have present : order ∈ tables.orders.rows := by
      rw [LiveSimTables.orderOfNames, Option.or_eq_some_iff] at found
      rcases found with byNumber | ⟨_, byCommand⟩
      · rcases Option.bind_eq_some_iff.mp byNumber with ⟨number, _, here⟩
        exact List.mem_of_find?_eq_some here
      · rcases Option.bind_eq_some_iff.mp byCommand with ⟨commandId, _, here⟩
        exact List.mem_of_find?_eq_some here
    cases isNumber : names.number with
    | none =>
        rcases List.append_of_mem present with ⟨before, after, split⟩
        refine ⟨before, order, after, split, isOrder, ?_⟩
        rw [isNumber]
        rintro number ⟨⟩
    | some number =>
        have recorded := isOrder.number number isNumber
        have byNumber : tables.orderByBrokerOrderNo number = some order := by
          rw [LiveSimTables.orderOfNames, isNumber, Option.bind_some] at found
          cases first : tables.orderByBrokerOrderNo number with
          | some other =>
              rw [first] at found
              exact found
          | none =>
              rw [LiveSimTables.orderByBrokerOrderNo, List.find?_eq_none] at first
              have none := first order present
              simp [recorded] at none
        rcases List.find?_eq_some_iff_append.mp byNumber with ⟨_, before, after, split, earlier⟩
        refine ⟨before, order, after, split, isOrder, ?_⟩
        rw [isNumber]
        rintro number ⟨⟩ other isEarlier same
        have unlike := earlier other isEarlier
        simp [same] at unlike
  · rintro ⟨before, other, after, split, isOrder, first⟩
    have same : other = order := by
      rw [LiveSimTables.orderOfNames] at found
      cases isNumber : names.number with
      | some number =>
          have byNumber : tables.orderByBrokerOrderNo number = some other := by
            refine List.find?_eq_some_iff_append.mpr ⟨?_, before, after, split, ?_⟩
            · simpa using isOrder.number number isNumber
            · intro earlier isEarlier
              simpa using first number isNumber earlier isEarlier
          rw [isNumber, Option.bind_some, byNumber] at found
          exact Option.some.inj found
      | none =>
          rw [isNumber] at found
          rcases Option.bind_eq_some_iff.mp found with ⟨commandId, isCommand, here⟩
          exact isOrder.command commandId isCommand order here
    rw [← same]
    exact isOrder

end Lookups

/-! ## Numbers that events have carried -/

variable (orders : Table LiveSimOrder)

def idOfNumber (number : String) : Option String :=
  ((orders.rows.map numberFace).find? fun face => face.2 = some number).map Prod.fst

def NumbersKnown (carried : List (String × String)) : Prop :=
  ∀ id number, (id, number) ∈ carried →
    number ≠ "" ∧ Text.strip number = number ∧ idOfNumber orders number = some id

section Numbers

variable {host : Host} {settings : LiveSimSettings} {tables : LiveSimTables}

theorem idOfNumber_eq (tables : LiveSimTables) (number : String) :
    idOfNumber tables.orders number =
      (tables.orderByBrokerOrderNo number).map LiveSimOrder.liveSimOrderId := by
  rw [idOfNumber, List.find?_map, Option.map_map]
  rfl

variable {number id : String} {order : LiveSimOrder} {event : GatewayEvent} {ack : AckDetails}

theorem idOfNumber_of_keeps {before after : Table LiveSimOrder}
    (keeps : KeepsNumbers before after) (found : idOfNumber before number = some id) :
    idOfNumber after number = some id := by
  rcases keeps with ⟨added, _, rows⟩
  rcases Option.map_eq_some_iff.mp found with ⟨face, isFace, isId⟩
  rw [idOfNumber, rows, List.find?_append, isFace]
  exact congrArg some isId

theorem order_of_face {orders : List LiveSimOrder} {face : String × Option String}
    (found : (orders.map numberFace).find? (fun face => face.2 = some number) = some face) :
    ∃ order ∈ orders, face = numberFace order ∧ order.brokerOrderNo = some number := by
  rcases List.mem_map.mp (List.mem_of_find?_eq_some found) with ⟨order, present, rfl⟩
  have numbered := List.find?_some found
  exact ⟨order, present, rfl, of_decide_eq_true numbered⟩

theorem idOfNumber_of_unshared {orders : Table LiveSimOrder} (present : order ∈ orders.rows)
    (numbered : order.brokerOrderNo = some number)
    (unshared : ∀ other ∈ orders.rows, other.brokerOrderNo = some number →
      other.liveSimOrderId = id) : idOfNumber orders number = some id := by
  rw [idOfNumber]
  cases first : (orders.rows.map numberFace).find? (fun face => face.2 = some number) with
  | none =>
      rw [List.find?_eq_none] at first
      have unlike := first (numberFace order) (List.mem_map_of_mem present)
      simp [numberFace, numbered] at unlike
  | some face =>
      rcases order_of_face first with ⟨other, isOther, rfl, isNumber⟩
      exact congrArg some (unshared other isOther isNumber)

theorem mem_of_ackOf (acked : ackOf host tables event = some (order, ack)) :
    order ∈ tables.orders.rows := by
  rw [ackOf] at acked
  split at acked
  · rcases Option.bind_eq_some_iff.mp acked with ⟨found, named, read⟩
    rcases Option.bind_eq_some_iff.mp named with ⟨commandId, _, isFound⟩
    rcases Option.map_eq_some_iff.mp read with ⟨_, _, same⟩
    rw [Prod.mk.injEq] at same
    rw [← same.1]
    exact List.mem_of_find?_eq_some isFound
  · cases acked

def ackedFace (order : LiveSimOrder) (ack : AckDetails) (row : LiveSimOrder) :
    String × Option String :=
  if row.liveSimOrderId = order.liveSimOrderId then
    (row.liveSimOrderId, ack.brokerOrderNo.or row.brokerOrderNo)
  else numberFace row

theorem numberFace_acked (order : LiveSimOrder) (ack : AckDetails)
    (now : String) :
    (orders.update order.liveSimOrderId (ackedOrder ack now)
        (key_ackedOrder ack now)).rows.map numberFace =
      orders.rows.map (ackedFace order ack) := by
  rw [Table.update, Table.rows_updateWhere, List.map_map]
  apply List.map_congr_left
  intro row _
  simp only [decide_eq_true_eq, ackedFace]
  change numberFace (if row.liveSimOrderId = order.liveSimOrderId then _ else row) = _
  split
  · rfl
  · rfl

theorem fst_ackedFace (order : LiveSimOrder) (ack : AckDetails) (row : LiveSimOrder) :
    (ackedFace order ack row).1 = row.liveSimOrderId := by
  rw [ackedFace]
  split
  · rfl
  · rfl

theorem eq_of_same_id {other : LiveSimOrder} (present : order ∈ tables.orders.rows)
    (isOther : other ∈ tables.orders.rows) (same : other.liveSimOrderId = order.liveSimOrderId) :
    other = order := by
  have here : tables.orders.find? order.liveSimOrderId = some order := Table.find?_of_mem present
  have there : tables.orders.find? other.liveSimOrderId = some other :=
    Table.find?_of_mem isOther
  rw [same, here] at there
  exact (Option.some.inj there).symm

/-- An acknowledgement that records a number of its own leaves the known ones. -/
theorem idOfNumber_acked {now : String} (acked : ackOf host tables event = some (order, ack))
    (records : RecordsNumber host tables event) (nonempty : number ≠ "")
    (found : idOfNumber tables.orders number = some id) :
    idOfNumber (tables.orders.update order.liveSimOrderId (ackedOrder ack now)
      (key_ackedOrder ack now)) number = some id := by
  have present := mem_of_ackOf acked
  have same : ∀ row ∈ tables.orders.rows,
      row.liveSimOrderId = order.liveSimOrderId →
      (ack.brokerOrderNo.or row.brokerOrderNo = some number ↔
        row.brokerOrderNo = some number) := by
    intro row isRow sameId
    obtain rfl := eq_of_same_id present isRow sameId
    cases isAck : ack.brokerOrderNo with
    | none => rw [Option.none_or]
    | some new =>
        have kept := records.kept (row, ack) acked new isAck
        have stripped := records.stripped (row, ack) acked new isAck
        constructor
        · rintro ⟨⟩
          -- the order that has the number already is the one that is acknowledged
          have carried : carriedBy host tables event = some (row, number) := by
            simp [carriedBy, acked, isAck, stripped, nonempty]
          rcases Option.map_eq_some_iff.mp found with ⟨face, isFace, _⟩
          rcases order_of_face isFace with ⟨other, isOther, _, numbered⟩
          have isRow := eq_of_same_id present isOther
            (records.unshared (row, number) carried other isOther numbered)
          rw [← isRow]
          exact numbered
        · intro numbered
          exact congrArg some (kept number numbered).symm
  have sameNumber : ∀ row ∈ tables.orders.rows,
      decide ((ackedFace order ack row).2 = some number) =
        decide ((numberFace row).2 = some number) := by
    intro row isRow
    rw [decide_eq_decide, ackedFace]
    split
    · next sameId => exact same row isRow sameId
    · exact Iff.rfl
  have sameId : Prod.fst ∘ ackedFace order ack = Prod.fst ∘ numberFace :=
    funext fun row => fst_ackedFace order ack row
  rw [idOfNumber, List.find?_map, Option.map_map] at found
  rw [idOfNumber, numberFace_acked, List.find?_map, Option.map_map, sameId, ← found]
  exact congrArg (Option.map (Prod.fst ∘ numberFace)) (List.find?_congr sameNumber)

theorem lookupText_stripped {value : Json} {text : String}
    (isText : lookupText host value = some text) : Text.strip text = text := by
  rw [lookupText] at isText
  split at isText
  · cases isText
    exact Text.strip_strip _
  · cases isText

theorem carriedBy_of_names (unacked : ackOf host tables event = none)
    (carried : carriedBy host tables event = some (order, number)) :
    order ∈ tables.orders.rows ∧ number ≠ "" ∧ Text.strip number = number := by
  rw [carriedBy, unacked] at carried
  rcases Option.bind_eq_some_iff.mp carried with ⟨names, isNames, carried⟩
  rcases Option.bind_eq_some_iff.mp carried with ⟨found, named, carried⟩
  rcases Option.bind_eq_some_iff.mp named with ⟨commandId, _, isFound⟩
  rcases Option.bind_eq_some_iff.mp carried with ⟨text, isText, carried⟩
  split at carried
  · cases carried
  · next nonempty =>
      cases carried
      rcases payload_of_names isNames with ⟨payload, metadata, _, _, rfl⟩
      exact ⟨List.mem_of_find?_eq_some isFound, nonempty, lookupText_stripped isText⟩

theorem carriedBy_of_ack {acked : LiveSimOrder}
    (isAcked : ackOf host tables event = some (acked, ack))
    (records : RecordsNumber host tables event)
    (carried : carriedBy host tables event = some (order, number)) :
    order = acked ∧ ack.brokerOrderNo = some number ∧ number ≠ "" := by
  rw [carriedBy, isAcked] at carried
  rcases Option.bind_eq_some_iff.mp carried with ⟨text, isText, carried⟩
  split at carried
  · cases carried
  · next nonempty =>
      have stripped := records.stripped (acked, ack) isAcked text isText
      cases carried
      rw [stripped] at nonempty ⊢
      exact ⟨rfl, isText, nonempty⟩

theorem idOfNumber_carried {after : Table LiveSimOrder}
    (carried : carriedBy host tables event = some (order, number))
    (records : RecordsNumber host tables event) (effect : NumbersEffect host tables event after) :
    number ≠ "" ∧ Text.strip number = number ∧
      idOfNumber after number = some order.liveSimOrderId := by
  have unshared := records.unshared (order, number) carried
  cases effect with
  | keeps unacked keeps =>
      rcases carriedBy_of_names unacked carried with ⟨present, nonempty, stripped⟩
      have numbered := records.onRecord unacked (order, number) carried
      exact ⟨nonempty, stripped,
        idOfNumber_of_keeps keeps (idOfNumber_of_unshared present numbered unshared)⟩
  | acks acked ack now isAcked =>
      rcases carriedBy_of_ack isAcked records carried with ⟨rfl, isNumber, nonempty⟩
      have present := mem_of_ackOf isAcked
      have found : tables.orders.find? order.liveSimOrderId = some order :=
        Table.find?_of_mem present
      refine ⟨nonempty, records.stripped (order, ack) isAcked number isNumber,
        idOfNumber_of_unshared (Table.mem_of_find? (Table.find?_update_self found)) ?_ ?_⟩
      · rw [ackedOrder, isNumber, Option.some_or]
      · intro other isOther numbered
        rcases List.mem_map.mp isOther with ⟨before, isBefore, rfl⟩
        by_cases same : Keyed.key before = order.liveSimOrderId
        · rw [if_pos (decide_eq_true same)]
          exact same
        · rw [if_neg (by simpa using same)] at numbered ⊢
          exact unshared before isBefore numbered

/-- The step lemma: a step that records its number keeps all numbers known. -/
theorem NumbersKnown.step {host : LiveSimHost} {settings : LiveSimBuySettings}
    {traced : TracedStore} {op : AccountOp}
    (known : NumbersKnown traced.store.live.orders traced.carried)
    (records : StepRecordsNumber host traced op) :
    NumbersKnown (accountStep host settings traced.store op).live.orders
      (traced.carried ++ carriedIn host traced.store op) := by
  by_cases delivered : ∃ delivery, op = .live (.trade (.deliver delivery))
  · rcases delivered with ⟨delivery, rfl⟩
    have effect := numbersEffect host.toHost settings.toLiveSimSettings traced.store.live
      delivery.event delivery.ids delivery.now
    dsimp only [accountStep, liveSimStep, tradingStep, carriedIn]
    generalize (tablesAfterEvent host.toHost settings.toLiveSimSettings traced.store.live
      delivery.event delivery.ids delivery.now).orders = after at effect ⊢
    intro id number present
    rcases List.mem_append.mp present with before | new
    · rcases known id number before with ⟨nonempty, stripped, found⟩
      refine ⟨nonempty, stripped, ?_⟩
      cases effect with
      | keeps unacked keeps => exact idOfNumber_of_keeps keeps found
      | acks order ack now acked => exact idOfNumber_acked acked records nonempty found
    · rw [Option.mem_toList] at new
      rcases Option.map_eq_some_iff.mp new with ⟨⟨order, carriedNumber⟩, carried, same⟩
      cases same
      exact idOfNumber_carried carried records effect
  · have undelivered : ∀ delivery, op ≠ .live (.trade (.deliver delivery)) :=
      fun delivery isDelivery => delivered ⟨delivery, isDelivery⟩
    have nothing : carriedIn host traced.store op = [] := by
      rw [carriedIn.eq_def]
      split
      · next delivery => exact absurd rfl (undelivered delivery)
      · rfl
    rw [nothing, List.append_nil]
    intro id number present
    rcases known id number present with ⟨nonempty, stripped, found⟩
    exact ⟨nonempty, stripped,
      idOfNumber_of_keeps (keepsNumbers_step host settings traced.store op undelivered) found⟩

end Numbers

/-! ## Runs -/

section Runs

variable {host : Host} {settings : LiveSimSettings}

theorem requireNonEmptyStr_of_strip {value text : String} (fieldName : String)
    (stripped : Text.strip value = text) (nonempty : text ≠ "") :
    requireNonEmptyStr (.str value) fieldName = .ok text := by
  rw [requireNonEmptyStr, stripped, if_neg nonempty]

theorem orderNamed_of_known {tables : LiveSimTables} {event : GatewayEvent}
    {names : ExecutionNames} {number id : String} (named : namesOf host event = some names)
    (isNumber : names.number = some number) (nonempty : number ≠ "")
    (found : idOfNumber tables.orders number = some id) :
    ∃ order, orderNamed host tables event = .ok (some order) ∧ order.liveSimOrderId = id := by
  rw [idOfNumber_eq] at found
  rcases Option.map_eq_some_iff.mp found with ⟨order, byNumber, isId⟩
  refine ⟨order, ?_, isId⟩
  rcases payload_of_names named with ⟨payload, metadata, isPayload, isMetadata, rfl⟩
  rw [lookupText] at isNumber
  split at isNumber
  · next truthy =>
      have read := requireNonEmptyStr_of_strip "broker_order_no" (Option.some.inj isNumber)
        nonempty
      simp only [orderNamed, isPayload, isMetadata, bind, Except.bind, orderOfExecution,
        if_pos truthy, read, pure, Except.pure, byNumber]
  · cases isNumber

theorem unchanged_of_unfilled {tables : LiveSimTables} {event : GatewayEvent} {ids : FreshIds}
    {now : Instant}
    (kind : liveSimEventOf event.eventType = .execution ∨
      liveSimEventOf event.eventType = .chejan)
    (unfilled : fillOf host settings tables event = none) :
    tablesAfterEvent host settings tables event ids now = tables := by
  have effect := effect_of_event host settings tables event ids now
  generalize tablesAfterEvent host settings tables event ids now = after at effect ⊢
  cases effect with
  | nothing => rfl
  | notice order status noticed writes =>
      rw [noticeOf] at noticed
      rcases kind with kind | kind
      · rw [kind] at noticed
        cases noticed
      · rw [kind] at noticed
        cases noticed
  | fill order report reported applies =>
      rw [unfilled] at reported
      cases reported

/-- When the numbers are known, a fill that is about the first order with its number is
attributed. -/
theorem attributesFill_of_known {traced : TracedStore} {delivery : Delivery}
    (known : NumbersKnown traced.store.live.orders traced.carried)
    (about : FillIsAboutFirst host settings traced.store.live delivery.event) :
    AttributesFill host settings traced delivery := by
  constructor
  · rintro ⟨order, report⟩ reported names named
    exact (isOrderOf_iff (orderOfNames_of_fill reported named)).mpr
      (about (order, report) reported names named)
  · intro names named _ number isNumber id carried
    rcases known id number carried with ⟨nonempty, _, found⟩
    exact orderNamed_of_known named isNumber nonempty found
  · exact unchanged_of_unfilled

end Runs

theorem isAboutFirst_of_attributes {host : LiveSimHost} {settings : LiveSimBuySettings}
    {traced : TracedStore} {op : AccountOp}
    (law : StepAttributesFill host settings traced op) :
    StepIsAboutFirst host settings traced op := by
  rw [StepIsAboutFirst.eq_def]
  split
  · rintro ⟨order, report⟩ reported names named
    exact (isOrderOf_iff (orderOfNames_of_fill reported named)).mp
      (law.attributed (order, report) reported names named)
  · trivial

theorem attributes_of_isAboutFirst {host : LiveSimHost} {settings : LiveSimBuySettings}
    {traced : TracedStore} {op : AccountOp}
    (known : NumbersKnown traced.store.live.orders traced.carried)
    (about : StepIsAboutFirst host settings traced op) :
    StepAttributesFill host settings traced op := by
  rw [StepAttributesFill.eq_def]
  split
  · exact attributesFill_of_known known about
  · trivial

def reusedNumber : LiveSimOrder :=
  { dispatchedBuy with
    liveSimOrderId := "order-2", liveSimIntentId := "intent-2"
    gatewayCommandId := some "command-2", tradeDate := "2026-07-20", code := "000660"
    brokerOrderNo := some "1001", idempotencyKey := "buy-2" }

def numberedTwice : LiveSimStore where
  gateway := freshStore
  live := tablesOfOrders [dispatchedBuy, reusedNumber] (by decide)

/-- The fill of the later order, with its command and its code. -/
def laterFill : Delivery :=
  deliveredAt
    { commandEventOf "event-1" "execution_event"
        (withFields (fillPayload "1001" "e1" "BUY" 10 .null) [("code", .str "000660")])
        stripped_firstExecution with
      commandId := some "command-2", commandId_stripped := by decide +kernel } "1"

theorem laterFill_reported :
    (fillOf sampleHost sampleLiveSimSettings numberedTwice.live laterFill.event).map
        (fun fill => (fill.1.liveSimOrderId, fill.1.code, fill.2.code)) =
      some ("order-1", "005930", "000660") ∧ (namesOf sampleHost laterFill.event).isSome := by
  decide +kernel

end SuseokTrader
