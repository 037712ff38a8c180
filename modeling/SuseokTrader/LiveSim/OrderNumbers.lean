import SuseokTrader.LiveSim.AccountRuns

/-!
# Order numbers on record

An order gets the number of the broker from the acknowledgement of its command
and from nowhere else. New orders have none, and all other calls leave the
numbers as they are.
-/

namespace SuseokTrader

/-! ## Events -/

section Events

variable {host : Host} {settings : LiveSimSettings} {tables handled : LiveSimTables}

/-- What an event does to the numbers. -/
inductive NumbersEffect (host : Host) (tables : LiveSimTables) (event : GatewayEvent) :
    Table LiveSimOrder → Prop
  | keeps {after : Table LiveSimOrder} (unacked : ackOf host tables event = none)
      (keeps : KeepsNumbers tables.orders after) : NumbersEffect host tables event after
  | acks (order : LiveSimOrder) (ack : AckDetails) (now : String)
      (acked : ackOf host tables event = some (order, ack)) :
      NumbersEffect host tables event
        (tables.orders.update order.liveSimOrderId (ackedOrder ack now) (key_ackedOrder ack now))

variable {event : GatewayEvent} {order : LiveSimOrder} {ack : AckDetails}

theorem orders_of_ackOf (isAcked : ackOf host tables event = some (order, ack))
    (settings : LiveSimSettings) (ids : FreshIds) (now : Instant) :
    (tablesAfterEvent host settings tables event ids now).orders =
      tables.orders.update order.liveSimOrderId (ackedOrder ack (datetimeToWire now))
        (key_ackedOrder ack (datetimeToWire now)) := by
  rw [ackOf] at isAcked
  split at isAcked
  · next kind =>
      rcases Option.bind_eq_some_iff.mp isAcked with ⟨found, named, isAck⟩
      rcases Option.bind_eq_some_iff.mp named with ⟨commandId, isCommand, isNamed⟩
      rcases Option.map_eq_some_iff.mp isAck with ⟨read, isRead, same⟩
      cases same
      have reads : readAck host event.payload = .ok ack := ok_of_toOption isRead
      have handles : ∃ handled reply, handleLiveSimGatewayEvent host settings tables event ids
          now = .ok (handled, reply) ∧ handled.orders =
            tables.orders.update order.liveSimOrderId (ackedOrder ack (datetimeToWire now))
              (key_ackedOrder ack (datetimeToWire now)) := by
        simp only [handleLiveSimGatewayEvent, kind, handleCommandEvent, isCommand, isNamed,
          handleOrderCommandEvent, reads]
        refine ⟨_, _, rfl, ?_⟩
        split <;> rfl
      rcases handles with ⟨handled, reply, success, orders⟩
      rw [tablesAfterEvent, success]
      exact orders
  · cases isAcked

theorem numbersEffect (host : Host) (settings : LiveSimSettings) (tables : LiveSimTables)
    (event : GatewayEvent) (ids : FreshIds) (now : Instant) :
    NumbersEffect host tables event
      (tablesAfterEvent host settings tables event ids now).orders := by
  cases acked : ackOf host tables event with
  | none => exact .keeps acked ((keepsRows_event host settings tables event ids now).numbers acked)
  | some both =>
      rcases both with ⟨order, ack⟩
      rw [orders_of_ackOf acked settings ids now]
      exact .acks order ack (datetimeToWire now) acked

end Events

theorem keepsNumbers_step (host : LiveSimHost) (settings : LiveSimBuySettings)
    (store : LiveSimStore) (op : AccountOp)
    (undelivered : ∀ delivery, op ≠ .live (.trade (.deliver delivery))) :
    KeepsNumbers store.live.orders (accountStep host settings store op).live.orders :=
  (accountEffect_records host settings store op).2.numbers undelivered

end SuseokTrader
