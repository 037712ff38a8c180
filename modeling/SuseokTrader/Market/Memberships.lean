import SuseokTrader.Broker.TimeReading
import SuseokTrader.Lib.Newest
import SuseokTrader.Market.Retries

/-!
# Market memberships

A symbols event tells for each of its codes to which market it belongs, and the
membership row of a code takes what the last applied event tells. Whether an
event was applied is read off the rows that still carry its identifier, so an
event whose rows were all taken over is applied again. The rows are those of
the newest events exactly along the runs in which no event is applied after a
newer one that names a code of it.
-/

namespace SuseokTrader

/-! ## The symbols of an event -/

structure MarketSymbol where
  code : String
  market : String
  name : Option String
  metadata : Payload

instance : Keyed MarketSymbol String := ⟨MarketSymbol.code⟩

variable (host : Host)

def normalizeMarket (value : Json) : Checked String :=
  let market := Text.upper (Text.strip (value.text host))
  let market := if market = "0" then "KOSPI" else if market = "10" then "KOSDAQ" else market
  if market ∈ ["KOSPI", "KOSDAQ"] then .ok market
  else Checked.invalid "market must be one of: KOSDAQ, KOSPI"

/-- The code, the name and the metadata of a symbol item. -/
def symbolFields : Json → Checked (Json × Option String × Payload)
  | .str code => .ok (.str code, none, [])
  | .obj item =>
      .ok (((Payload.get item "code").orElse (Payload.get item "stock_code")).orElse
          (Payload.get item "종목코드"),
        (((Payload.get item "name").orElse (Payload.get item "stock_name")).orElse
          (Payload.get item "종목명")).optionalText host,
        Payload.mapping item "metadata")
  | _ => Checked.invalid "market symbol item must be a code string or object"

def normalizeSymbol (market item : Json) : Checked MarketSymbol := do
  let market ← normalizeMarket host market
  let (code, name, metadata) ← symbolFields host item
  let code ← validateStockCode code
  return { code := code, market := market, name := name, metadata := metadata }

/-- The items of a collection of symbols. In an object the code of an item is its field name, and
a value that is no object is its name. -/
def symbolItems : Json → List Json
  | .obj symbols => symbols.map fun (code, value) =>
      match value with
      | .obj fields => .obj (setFields [("code", .str code)] fields)
      | value => .obj [("code", .str code), ("name", value)]
  | .arr items => items
  | _ => []

def symbolsForMarket (market symbols : Json) : Checked (List MarketSymbol) := do
  let market ← normalizeMarket host market
  (symbolItems symbols).mapM (normalizeSymbol host (.str market))

def collectSymbols {α : Type} (read : α → Checked (List MarketSymbol)) (items : List α) :
    Checked (List MarketSymbol) := do
  let listed ← items.mapM read
  return listed.flatten

def itemMarket (item : Payload) : Json :=
  (item.get "market").orElse (item.get "market_code")

def symbolsOfMarketItem : Json → Checked (List MarketSymbol)
  | .obj item =>
      if (itemMarket item).isNull || (Payload.get item "symbols").isNull then .ok []
      else symbolsForMarket host (itemMarket item) (Payload.get item "symbols")
  | _ => .ok []

/-- The symbols of the field `markets`. -/
def marketsSymbols : Json → Checked (List MarketSymbol)
  | .obj markets =>
      collectSymbols (fun (market, symbols) => symbolsForMarket host (.str market) symbols) markets
  | .arr items => collectSymbols (symbolsOfMarketItem host) items
  | _ => .ok []

def fieldSymbols (payload : Payload) (market : String) :
    Checked (List MarketSymbol) :=
  if payload.has market then symbolsForMarket host (.str market) (payload.get market) else .ok []

def singleSymbol : Json → Checked (List MarketSymbol)
  | .obj item =>
      if (itemMarket item).isNull then .ok []
      else do
        let symbol ← normalizeSymbol host (itemMarket item) (.obj item)
        return [symbol]
  | _ => .ok []

/-- The symbols of the field `symbols`. -/
def singleSymbols : Json → Checked (List MarketSymbol)
  | .arr items => collectSymbols (singleSymbol host) items
  | _ => .ok []

variable (kospiFirst : Bool)

def supportedMarkets : List String :=
  if kospiFirst then ["KOSPI", "KOSDAQ"] else ["KOSDAQ", "KOSPI"]

def dedupeSymbols (symbols : List MarketSymbol) : Table MarketSymbol :=
  Table.empty.upsertAll symbols

def extractMemberships (payload : Payload) :
    Checked (Table MarketSymbol) := do
  let listed ← marketsSymbols host (payload.get "markets")
  let fields ← collectSymbols (fieldSymbols host payload) (supportedMarkets kospiFirst)
  let single ← singleSymbols host (payload.get "symbols")
  return dedupeSymbols (listed ++ fields ++ single)

/-! ## The membership rows -/

structure SymbolMembership where
  code : String
  market : String
  name : Option String
  eventId : String
  eventTs : String
  receivedAt : String
  source : String
  metadataJson : String
  updatedAt : String

instance : Keyed SymbolMembership String := ⟨SymbolMembership.code⟩

/-- A stored gateway event with the time at which it was received. Its own time is a datetime. -/
structure ReceivedEvent extends StoredEvent where
  receivedAt : String
  inCalendar : Time.InCalendar event.ts

instance : Keyed ReceivedEvent String := ⟨fun row => row.event.eventId⟩

abbrev MarketReferenceProcessResult := MarketDataProcessResult

structure ReferenceCall where
  now : Instant
  kospiFirst : Bool
  fault : Option DatabaseFault

def membershipExists (memberships : Table SymbolMembership) (eventId : String) : Bool :=
  memberships.rows.any fun row => row.eventId = eventId

variable (events : Table ReceivedEvent)

/-- `_event_store_times` -/
def receivedTimes (event : GatewayEvent) (now : Instant) :
    String × String :=
  match events.find? event.eventId with
  | some received => (datetimeToWire received.event.ts, received.receivedAt)
  | none => (datetimeToWire event.ts, datetimeToWire now)

def membershipRow (event : GatewayEvent) (times : String × String) (now : Instant)
    (symbol : MarketSymbol) : SymbolMembership where
  code := symbol.code
  market := symbol.market
  name := symbol.name
  eventId := event.eventId
  eventTs := times.1
  receivedAt := times.2
  source := event.source
  metadataJson := canonicalJson symbol.metadata
  updatedAt := datetimeToWire now

variable (memberships : Table SymbolMembership)

variable (event : GatewayEvent)

def writeMemberships (symbols : Table MarketSymbol) (now : Instant) :
    Table SymbolMembership :=
  memberships.upsertAll
    (symbols.rows.map (membershipRow event (receivedTimes events event now) now))

def processMarketSymbolsEvent (call : ReferenceCall) :
    Table SymbolMembership × Checked MarketReferenceProcessResult :=
  if normalizeEventType event.eventType ≠ "market_symbols" then
    (memberships, .ok (passedOver .ignored))
  else if membershipExists memberships event.eventId then
    (memberships, .ok (passedOver .duplicate))
  else
    match extractMemberships host call.kospiFirst event.payload with
    | .error failure => (memberships, .ok (erroneous failure.text))
    | .ok symbols =>
        if symbols.rows.isEmpty then (memberships, .ok (passedOver .ignored))
        else
          match call.fault with
          | some .locked => (memberships, .error (.crash "database is locked"))
          | some (.failed message) => (memberships, .ok (erroneous message))
          | none =>
              (writeMemberships events memberships event symbols call.now,
                .ok (appliedRows symbols.rows.length))

/-! ## The worker -/

def payloadHasSymbols (payload : Payload) : Bool :=
  match extractMemberships host kospiFirst payload with
  | .ok symbols => !symbols.rows.isEmpty
  | .error _ => false

def verifyMarketReference : Verification :=
  if membershipExists memberships event.eventId then .applied
  else if payloadHasSymbols host kospiFirst event.payload then
    .failed "MARKET_REFERENCE_SYMBOL_MEMBERSHIP_MISSING"
      ("market_symbol_memberships missing for event_id=" ++ event.eventId)
  else .skipped "MARKET_REFERENCE_NO_SYMBOLS"

def applyMarketReferenceProjection (call : ReferenceCall) :
    Table SymbolMembership × Verification :=
  match verifyMarketReference host call.kospiFirst memberships event with
  | .applied => (memberships, .applied)
  | .skipped reason => (memberships, .skipped reason)
  | .failed _ _ =>
      match processMarketSymbolsEvent host events memberships event call with
      | (written, .error failure) =>
          (written, .failed "MARKET_REFERENCE_APPLY_EXCEPTION" failure.text)
      | (written, .ok result) =>
          if result.status = .error then
            (written,
              .failed "MARKET_REFERENCE_APPLY_FAILED" (result.errorMessage.getD "ERROR"))
          else (written, verifyMarketReference host call.kospiFirst written event)

/-- An attempt of the worker at a job of this projection. -/
def workOnMarketReference (job : ProjectionJob) (applies : Bool)
    (call : ReferenceCall) : Table SymbolMembership × Verification :=
  match events.find? (Text.strip job.eventId) with
  | none => (memberships, .failed "SOURCE_GATEWAY_EVENT_MISSING"
      ("gateway_event not found: " ++ Text.strip job.eventId))
  | some received =>
      if !received.accepted then (memberships, .skipped "SKIPPED_SOURCE_NOT_ACCEPTED")
      else if !applies then
        (memberships, verifyMarketReference host call.kospiFirst memberships received.event)
      else if normalizeEventType job.eventType ≠ "market_symbols" then
        (memberships, .skipped "MARKET_REFERENCE_APPLY_EVENT_TYPE_UNSUPPORTED")
      else applyMarketReferenceProjection host events memberships received.event call

/-! ## Codes of an event -/

theorem collectSymbols_pair {α : Type} {read : α → Checked (List MarketSymbol)} {first second : α}
    {symbols : List MarketSymbol} :
    collectSymbols read [first, second] = .ok symbols ↔
      ∃ earlier later, read first = .ok earlier ∧ read second = .ok later ∧
        symbols = earlier ++ later := by
  simp only [collectSymbols, List.mapM_cons, List.mapM_nil, Checked.bind_eq_ok, pure, Except.pure,
    Except.ok.injEq]
  constructor
  · rintro ⟨_, ⟨earlier, isEarlier, _, ⟨later, isLater, _, rfl, rfl⟩, rfl⟩, rfl⟩
    exact ⟨earlier, later, isEarlier, isLater, by simp⟩
  · rintro ⟨earlier, later, isEarlier, isLater, rfl⟩
    exact ⟨_, ⟨earlier, isEarlier, _, ⟨later, isLater, _, rfl, rfl⟩, rfl⟩, by simp⟩

theorem collectSymbols_supportedMarkets {read : String → Checked (List MarketSymbol)}
    {kospiFirst : Bool} {symbols : List MarketSymbol}
    (success : collectSymbols read (supportedMarkets kospiFirst) = .ok symbols)
    (otherFirst : Bool) :
    ∃ others, collectSymbols read (supportedMarkets otherFirst) = .ok others ∧
      others.Perm symbols := by
  cases kospiFirst <;> cases otherFirst
  · exact ⟨symbols, success, List.Perm.refl symbols⟩
  · rcases collectSymbols_pair.mp success with ⟨kosdaq, kospi, isKosdaq, isKospi, rfl⟩
    exact ⟨kospi ++ kosdaq, collectSymbols_pair.mpr ⟨kospi, kosdaq, isKospi, isKosdaq, rfl⟩,
      List.perm_append_comm⟩
  · rcases collectSymbols_pair.mp success with ⟨kospi, kosdaq, isKospi, isKosdaq, rfl⟩
    exact ⟨kosdaq ++ kospi, collectSymbols_pair.mpr ⟨kosdaq, kospi, isKosdaq, isKospi, rfl⟩,
      List.perm_append_comm⟩
  · exact ⟨symbols, success, List.Perm.refl symbols⟩

theorem isSome_dedupeSymbols {symbols : List MarketSymbol} {code : String} :
    ((dedupeSymbols symbols).find? code).isSome ↔ code ∈ symbols.map MarketSymbol.code := by
  rw [dedupeSymbols, Table.isSome_find?_upsertAll]
  simp [Keyed.key]

def Names (code : String) : Prop :=
  ∃ kospiFirst symbols, extractMemberships host kospiFirst event.payload = .ok symbols ∧
    (symbols.find? code).isSome

theorem isSome_extracted_iff {host : Host} {event : GatewayEvent} {kospiFirst : Bool}
    {symbols : Table MarketSymbol} {code : String}
    (success : extractMemberships host kospiFirst event.payload = .ok symbols) :
    (symbols.find? code).isSome ↔ Names host event code := by
  constructor
  · intro named
    exact ⟨kospiFirst, symbols, success, named⟩
  · rintro ⟨otherFirst, others, otherSuccess, named⟩
    simp only [extractMemberships, Checked.bind_eq_ok, pure, Except.pure, Except.ok.injEq]
      at success otherSuccess
    rcases success with ⟨listed, isListed, fields, isFields, single, isSingle, rfl⟩
    rcases otherSuccess with ⟨listed', isListed', fields', isFields', single', isSingle', rfl⟩
    obtain rfl : listed' = listed := Except.ok.inj (isListed'.symm.trans isListed)
    obtain rfl : single' = single := Except.ok.inj (isSingle'.symm.trans isSingle)
    rcases collectSymbols_supportedMarkets isFields' kospiFirst with ⟨again, isAgain, perm⟩
    obtain rfl : again = fields := Except.ok.inj (isAgain.symm.trans isFields)
    rw [isSome_dedupeSymbols] at named ⊢
    simp only [List.map_append, List.mem_append] at named ⊢
    have sameCodes : code ∈ again.map MarketSymbol.code ↔ code ∈ fields'.map MarketSymbol.code :=
      (perm.map MarketSymbol.code).mem_iff
    rcases named with (named | named) | named
    · exact Or.inl (Or.inl named)
    · exact Or.inl (Or.inr (sameCodes.mpr named))
    · exact Or.inr named

/-! ## What a call does -/

def MarketReferenceProcessResult.completed : Checked MarketReferenceProcessResult → Bool
  | .ok result => result.status = .applied || result.status = .duplicate
  | .error _ => false

def Verification.isApplied : Verification → Bool
  | .applied => true
  | _ => false

/-- The call comes to its transaction and this goes through. -/
structure Applies (host : Host) (memberships : Table SymbolMembership) (event : GatewayEvent)
    (call : ReferenceCall) (symbols : Table MarketSymbol) : Prop where
  isSymbols : normalizeEventType event.eventType = "market_symbols"
  unmarked : membershipExists memberships event.eventId = false
  extracted : extractMemberships host call.kospiFirst event.payload = .ok symbols
  nonempty : symbols.rows.isEmpty = false
  noFault : call.fault = none

section Calls

variable {host : Host} {events : Table ReceivedEvent} {memberships : Table SymbolMembership}
  {event : GatewayEvent} {call : ReferenceCall} {symbols : Table MarketSymbol}

theorem processMarketSymbolsEvent_of_applies
    (applies : Applies host memberships event call symbols) :
    processMarketSymbolsEvent host events memberships event call =
      (writeMemberships events memberships event symbols call.now,
        .ok (appliedRows symbols.rows.length)) := by
  simp [processMarketSymbolsEvent, applies.isSymbols, applies.unmarked, applies.extracted,
    applies.nonempty, applies.noFault]

/-- A call that does not come so far leaves the rows, and reports an event as processed only where
a row carries its identifier. -/
theorem processMarketSymbolsEvent_of_idle
    (idle : ∀ symbols, ¬ Applies host memberships event call symbols) :
    (processMarketSymbolsEvent host events memberships event call).1 = memberships ∧
      (MarketReferenceProcessResult.completed
          (processMarketSymbolsEvent host events memberships event call).2 = true →
        membershipExists memberships event.eventId = true) := by
  rw [processMarketSymbolsEvent]
  split
  · exact ⟨rfl, by simp [MarketReferenceProcessResult.completed, passedOver]⟩
  · next isSymbols =>
      rw [not_not] at isSymbols
      split
      · next marked => exact ⟨rfl, fun _ => marked⟩
      · next unmarked =>
          rw [Bool.not_eq_true] at unmarked
          cases extracted : extractMemberships host call.kospiFirst event.payload with
          | error failure =>
              exact ⟨rfl, by simp [MarketReferenceProcessResult.completed, erroneous]⟩
          | ok symbols =>
              dsimp only
              split
              · exact ⟨rfl, by simp [MarketReferenceProcessResult.completed, passedOver]⟩
              · next nonempty =>
                  rw [Bool.not_eq_true] at nonempty
                  cases isFault : call.fault with
                  | none =>
                      exact absurd ⟨isSymbols, unmarked, extracted, nonempty, isFault⟩
                        (idle symbols)
                  | some fault =>
                      cases fault with
                      | locked => exact ⟨rfl, by simp [MarketReferenceProcessResult.completed]⟩
                      | failed message =>
                          exact ⟨rfl, by simp [MarketReferenceProcessResult.completed, erroneous]⟩

theorem membershipExists_writeMemberships {now : Instant}
    (nonempty : symbols.rows.isEmpty = false) :
    membershipExists (writeMemberships events memberships event symbols now) event.eventId =
      true := by
  obtain ⟨symbol, isSymbol⟩ := List.exists_mem_of_ne_nil symbols.rows (by simpa using nonempty)
  have distinct : ((symbols.rows.map
      (membershipRow event (receivedTimes events event now) now)).map Keyed.key).Nodup := by
    rw [List.map_map]
    exact symbols.nodup
  have found := Table.find?_upsertAll_of_mem memberships distinct
    (List.mem_map_of_mem isSymbol)
  rw [membershipExists, List.any_eq_true]
  exact ⟨_, Table.mem_of_find? found, by simp [membershipRow]⟩

theorem verifyMarketReference_of_marked {kospiFirst : Bool}
    (marked : membershipExists memberships event.eventId = true) :
    verifyMarketReference host kospiFirst memberships event = .applied := by
  rw [verifyMarketReference, if_pos marked]

theorem marked_of_verified {kospiFirst : Bool} {verification : Verification}
    (verified : verifyMarketReference host kospiFirst memberships event = verification)
    (applied : verification.isApplied = true) :
    membershipExists memberships event.eventId = true := by
  rw [verifyMarketReference] at verified
  split at verified
  · next marked => exact marked
  · split at verified
    all_goals
      subst verified
      cases applied

theorem applyMarketReferenceProjection_of_applies
    (applies : Applies host memberships event call symbols) :
    applyMarketReferenceProjection host events memberships event call =
      (writeMemberships events memberships event symbols call.now, .applied) := by
  have hasSymbols : payloadHasSymbols host call.kospiFirst event.payload = true := by
    simp [payloadHasSymbols, applies.extracted, applies.nonempty]
  have missing : verifyMarketReference host call.kospiFirst memberships event =
      .failed "MARKET_REFERENCE_SYMBOL_MEMBERSHIP_MISSING"
        ("market_symbol_memberships missing for event_id=" ++ event.eventId) := by
    simp [verifyMarketReference, applies.unmarked, hasSymbols]
  have marked := @verifyMarketReference_of_marked host _ event call.kospiFirst
    (@membershipExists_writeMemberships events memberships event symbols call.now applies.nonempty)
  simp only [applyMarketReferenceProjection, missing, processMarketSymbolsEvent_of_applies applies,
    marked]
  simp [appliedRows]

theorem applyMarketReferenceProjection_of_idle
    (idle : ∀ symbols, ¬ Applies host memberships event call symbols) :
    (applyMarketReferenceProjection host events memberships event call).1 = memberships ∧
      ((applyMarketReferenceProjection host events memberships event call).2.isApplied = true →
        membershipExists memberships event.eventId = true) := by
  rw [applyMarketReferenceProjection]
  cases verified : verifyMarketReference host call.kospiFirst memberships event with
  | applied => exact ⟨rfl, marked_of_verified verified⟩
  | skipped reason => exact ⟨rfl, fun applied => by cases applied⟩
  | failed reason message =>
      have same := (@processMarketSymbolsEvent_of_idle host events _ _ _ idle).1
      cases processed : processMarketSymbolsEvent host events memberships event call with
      | mk written returned =>
          rw [processed] at same
          subst same
          cases returned with
          | error failure => exact ⟨rfl, fun applied => by cases applied⟩
          | ok result =>
              dsimp only
              split
              · exact ⟨rfl, fun applied => by cases applied⟩
              · exact ⟨rfl, marked_of_verified rfl⟩

end Calls

end SuseokTrader
