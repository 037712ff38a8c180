import SuseokTrader.Market.Memberships
import SuseokTrader.Market.Results

/-!
# Membership rows over whole runs

The request path processes an event when it arrives, and the worker processes
it again for the job that is left of it, each any number of times and in any
order. The rows stay those of the newest events as long as every event that is
applied is at least as new as each processed event that shares a code with it.
-/

namespace SuseokTrader

/-! ## Runs -/

structure ReferenceState where
  memberships : Table SymbolMembership
  processed : List GatewayEvent

def ReferenceState.after (state : ReferenceState) (event : GatewayEvent)
    (memberships : Table SymbolMembership) (completed : Bool) : ReferenceState where
  memberships := memberships
  processed := if completed then event :: state.processed else state.processed

/-- A call on the request path, or an attempt of the worker at a job. -/
inductive ReferenceOp where
  | inline (eventId : String) (call : ReferenceCall)
  | work (job : ProjectionJob) (applies : Bool) (call : ReferenceCall)

namespace ReferenceOp

def eventId : ReferenceOp → String
  | inline eventId _ => eventId
  | work job _ _ => Text.strip job.eventId

def call : ReferenceOp → ReferenceCall
  | inline _ call => call
  | work _ _ call => call

def reaches (received : ReceivedEvent) : ReferenceOp → Bool
  | inline _ _ => received.accepted
  | work job applies _ =>
      received.accepted && applies && normalizeEventType job.eventType = "market_symbols"

end ReferenceOp

variable (host : Host)

variable (events : Table ReceivedEvent)

variable (state : ReferenceState)

def referenceNext :
    ReferenceOp → ReferenceState
  | .inline eventId call =>
      match events.find? eventId with
      | none => state
      | some received =>
          if received.accepted then
            let (written, result) :=
              processMarketSymbolsEvent host events state.memberships received.event call
            state.after received.event written (MarketReferenceProcessResult.completed result)
          else state
  | .work job applies call =>
      match events.find? (Text.strip job.eventId) with
      | none => state
      | some received =>
          let (written, verification) :=
            workOnMarketReference host events state.memberships job applies call
          state.after received.event written verification.isApplied

def referenceSystem :
    System ReferenceState ReferenceOp Unit :=
  .ofStep (referenceNext host events)

def noMemberships : ReferenceState where
  memberships := .empty
  processed := []

/-- The row says of its code what the event says of it. -/
structure Tells (host : Host) (event : GatewayEvent) (row : SymbolMembership) : Prop where
  eventId : row.eventId = event.eventId
  eventTs : row.eventTs = datetimeToWire event.ts
  source : row.source = event.source
  symbol : ∃ kospiFirst symbols symbol,
    extractMemberships host kospiFirst event.payload = .ok symbols ∧
      symbols.find? row.code = some symbol ∧ row.market = symbol.market ∧
      row.name = symbol.name ∧ row.metadataJson = canonicalJson symbol.metadata

/-- A code that a processed event names has a row, and a row is that of a processed event that no
processed event naming the code is newer than. -/
structure NewestWins (host : Host) (state : ReferenceState) : Prop where
  present : ∀ event ∈ state.processed, ∀ code, Names host event code →
    (state.memberships.find? code).isSome
  newest : ∀ code row, state.memberships.find? code = some row →
    ∃ event ∈ state.processed, Tells host event row ∧
      ∀ other ∈ state.processed, Names host other code → other.ts ≤ event.ts

def goesThrough (memberships : Table SymbolMembership) (event : GatewayEvent)
    (call : ReferenceCall) : Bool :=
  normalizeEventType event.eventType = "market_symbols" &&
    !membershipExists memberships event.eventId &&
    payloadHasSymbols host call.kospiFirst event.payload && call.fault.isNone

def appliedEvent (op : ReferenceOp) : Option GatewayEvent :=
  ((events.find? op.eventId).filter fun received =>
    op.reaches received && goesThrough host state.memberships received.event op.call).map
      fun received => received.event

/-- An event whose rows are written is as new as each processed event that shares a code. -/
def SymbolsInOrder (op : ReferenceOp) : Prop :=
  ∀ event ∈ appliedEvent host events state op, ∀ other ∈ state.processed, ∀ code,
    Names host event code → Names host other code → other.ts ≤ event.ts

/-! ## What a step does -/

theorem goesThrough_iff {host : Host} {memberships : Table SymbolMembership}
    {event : GatewayEvent} {call : ReferenceCall} :
    goesThrough host memberships event call = true ↔
      ∃ symbols, Applies host memberships event call symbols := by
  simp only [goesThrough, Bool.and_eq_true, decide_eq_true_eq, Bool.not_eq_true',
    Option.isNone_iff_eq_none]
  constructor
  · rintro ⟨⟨⟨isSymbols, unmarked⟩, hasSymbols⟩, noFault⟩
    rw [payloadHasSymbols] at hasSymbols
    split at hasSymbols
    · next symbols extracted =>
        exact ⟨symbols, isSymbols, unmarked, extracted, by simpa using hasSymbols, noFault⟩
    · cases hasSymbols
  · rintro ⟨symbols, isSymbols, unmarked, extracted, nonempty, noFault⟩
    refine ⟨⟨⟨isSymbols, unmarked⟩, ?_⟩, noFault⟩
    simp [payloadHasSymbols, extracted, nonempty]

def IsStoredEvent (event : GatewayEvent) : Prop :=
  ∃ received, events.find? event.eventId = some received ∧ received.event = event

/-- What a step does to the rows and the processed events, and which event it applies. -/
inductive ReferenceEffect (host : Host) (events : Table ReceivedEvent) (state : ReferenceState) :
    ReferenceState → Option GatewayEvent → Prop where
  | kept : ReferenceEffect host events state state none
  | seen (event : GatewayEvent) (stored : IsStoredEvent events event)
      (marked : membershipExists state.memberships event.eventId = true) :
      ReferenceEffect host events state
        { state with processed := event :: state.processed } none
  | applied (event : GatewayEvent) (call : ReferenceCall) (symbols : Table MarketSymbol)
      (stored : IsStoredEvent events event)
      (applies : Applies host state.memberships event call symbols) :
      ReferenceEffect host events state
        { memberships := writeMemberships events state.memberships event symbols call.now
          processed := event :: state.processed } (some event)

section Steps

variable {host : Host} {events : Table ReceivedEvent} {state : ReferenceState}

theorem ReferenceEffect.of_kept {event : GatewayEvent} {written : Table SymbolMembership}
    {completed : Bool} (stored : IsStoredEvent events event)
    (kept : written = state.memberships ∧
      (completed = true → membershipExists state.memberships event.eventId = true)) :
    ReferenceEffect host events state (state.after event written completed) none := by
  rcases kept with ⟨rfl, marked⟩
  cases completed with
  | false => exact .kept
  | true => exact .seen event stored (marked rfl)

theorem referenceNext_effect (op : ReferenceOp) :
    ReferenceEffect host events state (referenceNext host events state op)
      (appliedEvent host events state op) := by
  cases found : events.find? op.eventId with
  | none =>
      have noEvent : appliedEvent host events state op = none := by
        rw [appliedEvent, found]
        rfl
      rw [noEvent]
      cases op with
      | inline eventId call =>
          rw [ReferenceOp.eventId] at found
          simp only [referenceNext, found]
          exact .kept
      | work job applies call =>
          rw [ReferenceOp.eventId] at found
          simp only [referenceNext, found]
          exact .kept
  | some received =>
      have stored : IsStoredEvent events received.event := by
        refine ⟨received, ?_, rfl⟩
        exact Table.find?_of_mem (Table.mem_of_find? found)
      have noEvent : (op.reaches received &&
          goesThrough host state.memberships received.event op.call) = false →
            appliedEvent host events state op = none := by
        intro stops
        rw [appliedEvent, found, Option.filter_some, stops]
        rfl
      have anEvent : op.reaches received = true →
          goesThrough host state.memberships received.event op.call = true →
            appliedEvent host events state op = some received.event := by
        intro reaches through
        rw [appliedEvent, found]
        simp [reaches, through]
      cases op with
      | inline eventId call =>
          rw [ReferenceOp.eventId] at found
          simp only [ReferenceOp.reaches, ReferenceOp.call] at noEvent anEvent
          simp only [referenceNext, found]
          cases accepted : received.accepted with
          | false =>
              rw [noEvent (by simp [accepted])]
              exact .kept
          | true =>
              cases through : goesThrough host state.memberships received.event call with
              | false =>
                  rw [noEvent (by simp [through])]
                  have idle : ∀ symbols,
                      ¬ Applies host state.memberships received.event call symbols := by
                    intro symbols applies
                    simp [goesThrough_iff.mpr ⟨symbols, applies⟩] at through
                  exact .of_kept stored (processMarketSymbolsEvent_of_idle idle)
              | true =>
                  rw [anEvent accepted through]
                  rcases goesThrough_iff.mp through with ⟨symbols, applies⟩
                  rw [if_pos rfl, processMarketSymbolsEvent_of_applies applies]
                  exact .applied received.event call symbols stored applies
      | work job applies call =>
          rw [ReferenceOp.eventId] at found
          simp only [ReferenceOp.reaches, ReferenceOp.call] at noEvent anEvent
          simp only [referenceNext, workOnMarketReference, found]
          cases accepted : received.accepted with
          | false =>
              rw [noEvent (by simp [accepted])]
              exact .of_kept stored ⟨rfl, fun applied => by cases applied⟩
          | true =>
              simp only [Bool.not_true, Bool.false_eq_true, if_false]
              cases applies with
              | false =>
                  rw [noEvent (by simp)]
                  exact .of_kept stored ⟨rfl, marked_of_verified rfl⟩
              | true =>
                  simp only [Bool.not_true, Bool.false_eq_true, if_false]
                  by_cases isType : normalizeEventType job.eventType = "market_symbols"
                  · rw [if_neg (not_not.mpr isType)]
                    cases through : goesThrough host state.memberships received.event call with
                    | false =>
                        rw [noEvent (by simp [through])]
                        have idle : ∀ symbols,
                            ¬ Applies host state.memberships received.event call symbols := by
                          intro symbols applies
                          simp [goesThrough_iff.mpr ⟨symbols, applies⟩] at through
                        exact .of_kept stored (applyMarketReferenceProjection_of_idle idle)
                    | true =>
                        rw [anEvent (by simp [accepted, isType]) through]
                        rcases goesThrough_iff.mp through with ⟨symbols, applies⟩
                        rw [applyMarketReferenceProjection_of_applies applies]
                        exact .applied received.event call symbols stored applies
                  · rw [if_pos isType, noEvent (by simp [isType])]
                    exact .of_kept stored ⟨rfl, fun applied => by cases applied⟩

end Steps

/-! ## The events of the rows -/

def processedUnder (event : GatewayEvent)
    (code : String) : Prop :=
  event ∈ state.processed ∧ Names host event code

def heldEvent (memberships : Table SymbolMembership)
    (code : String) : Option GatewayEvent :=
  (memberships.find? code).bind fun row =>
    (events.find? row.eventId).map fun received => received.event

structure ReferenceInvariant (host : Host) (events : Table ReceivedEvent)
    (state : ReferenceState) : Prop where
  stored : ∀ event ∈ state.processed, IsStoredEvent events event
  told : ∀ code row, state.memberships.find? code = some row →
    ∃ event ∈ state.processed, Tells host event row

section Rows

variable {host : Host} {events : Table ReceivedEvent} {state : ReferenceState}

theorem Tells.names {event : GatewayEvent} {row : SymbolMembership} (tells : Tells host event row) :
    Names host event row.code := by
  rcases tells.symbol with ⟨kospiFirst, symbols, symbol, extracted, found, _⟩
  exact ⟨kospiFirst, symbols, extracted, by simp [found]⟩

theorem IsStoredEvent.unique {event other : GatewayEvent} (stored : IsStoredEvent events event)
    (otherStored : IsStoredEvent events other) (same : event.eventId = other.eventId) :
    event = other := by
  rcases stored with ⟨received, found, rfl⟩
  rcases otherStored with ⟨others, otherFound, rfl⟩
  rw [same, otherFound, Option.some.injEq] at found
  rw [found]

variable {code : String} {memberships : Table SymbolMembership}

theorem heldEvent_of_tells {event : GatewayEvent} {row : SymbolMembership}
    (stored : IsStoredEvent events event) (found : memberships.find? code = some row)
    (tells : Tells host event row) :
    heldEvent events memberships code = some event := by
  rcases stored with ⟨received, isReceived, rfl⟩
  rw [heldEvent, found, Option.bind_some, tells.eventId, isReceived]
  rfl

theorem newestWins_iff (invariant : ReferenceInvariant host events state) :
    NewestWins host state ↔
      HoldsNewest GatewayEvent.ts (processedUnder host state)
        (heldEvent events state.memberships) := by
  constructor
  · intro newest
    refine ⟨?_, ?_⟩
    · rintro event code ⟨isProcessed, names⟩
      rcases Option.isSome_iff_exists.mp (newest.present event isProcessed code names) with
        ⟨row, found⟩
      rcases invariant.told code row found with ⟨told, isTold, tells⟩
      rw [heldEvent_of_tells (invariant.stored told isTold) found tells]
      rfl
    · intro code event isHeld
      rcases Option.bind_eq_some_iff.mp isHeld with ⟨row, found, _⟩
      rcases newest.newest code row found with ⟨told, isTold, tells, notNewer⟩
      have same := heldEvent_of_tells (invariant.stored told isTold) found tells
      obtain rfl : told = event := Option.some.inj (same.symm.trans isHeld)
      have isCode : row.code = code := Table.key_of_find? found
      exact ⟨⟨isTold, isCode ▸ tells.names⟩,
        fun other otherUnder => notNewer other otherUnder.1 otherUnder.2⟩
  · intro holds
    refine ⟨?_, ?_⟩
    · intro event isProcessed code names
      rcases Option.isSome_iff_exists.mp (holds.present event code ⟨isProcessed, names⟩) with
        ⟨held, isHeld⟩
      rcases Option.bind_eq_some_iff.mp isHeld with ⟨row, found, _⟩
      rw [found]
      rfl
    · intro code row found
      rcases invariant.told code row found with ⟨told, isTold, tells⟩
      have isHeld := heldEvent_of_tells (invariant.stored told isTold) found tells
      exact ⟨told, isTold, tells, fun other isProcessed names =>
        (holds.newest code told isHeld).2 other ⟨isProcessed, names⟩⟩

/-! ## Steps -/

variable {event : GatewayEvent} {call : ReferenceCall} {symbols : Table MarketSymbol}

theorem find?_writeMemberships_of_some {now : Instant} {symbol : MarketSymbol}
    (found : symbols.find? code = some symbol) :
    (writeMemberships events memberships event symbols now).find? code =
      some (membershipRow event (receivedTimes events event now) now symbol) := by
  have distinct : ((symbols.rows.map
      (membershipRow event (receivedTimes events event now) now)).map Keyed.key).Nodup := by
    rw [List.map_map]
    exact symbols.nodup
  have isCode : symbol.code = code := Table.key_of_find? found
  rw [← isCode]
  exact Table.find?_upsertAll_of_mem memberships distinct
    (List.mem_map_of_mem (Table.mem_of_find? found))

theorem find?_writeMemberships_of_none {now : Instant} (missing : symbols.find? code = none) :
    (writeMemberships events memberships event symbols now).find? code =
      memberships.find? code := by
  apply Table.find?_upsertAll_of_notMem
  rw [List.map_map]
  intro present
  rcases List.mem_map.mp present with ⟨symbol, isSymbol, isCode⟩
  exact Table.find?_eq_none.mp missing symbol isSymbol isCode

theorem tells_membershipRow (stored : IsStoredEvent events event)
    (extracted : extractMemberships host call.kospiFirst event.payload = .ok symbols)
    {symbol : MarketSymbol} (found : symbols.find? code = some symbol) :
    Tells host event
      (membershipRow event (receivedTimes events event call.now) call.now symbol) := by
  have isCode : symbol.code = code := Table.key_of_find? found
  rcases stored with ⟨received, isReceived, rfl⟩
  refine ⟨rfl, ?_, rfl, call.kospiFirst, symbols, symbol, extracted, ?_, rfl, rfl, rfl⟩
  · simp [membershipRow, receivedTimes, isReceived]
  · exact (congrArg symbols.find? isCode).trans found

theorem ReferenceInvariant.step (invariant : ReferenceInvariant host events state)
    {after : ReferenceState} {applied : Option GatewayEvent}
    (effect : ReferenceEffect host events state after applied) :
    ReferenceInvariant host events after := by
  cases effect with
  | kept => exact invariant
  | seen event stored marked =>
      refine ⟨?_, ?_⟩
      · intro other isProcessed
        rcases List.mem_cons.mp isProcessed with rfl | earlier
        · exact stored
        · exact invariant.stored other earlier
      · intro code row found
        rcases invariant.told code row found with ⟨told, isTold, tells⟩
        exact ⟨told, List.mem_cons_of_mem event isTold, tells⟩
  | applied event call symbols stored applies =>
      refine ⟨?_, ?_⟩
      · intro other isProcessed
        rcases List.mem_cons.mp isProcessed with rfl | earlier
        · exact stored
        · exact invariant.stored other earlier
      · intro code row found
        cases named : symbols.find? code with
        | none =>
            rw [find?_writeMemberships_of_none named] at found
            rcases invariant.told code row found with ⟨told, isTold, tells⟩
            exact ⟨told, List.mem_cons_of_mem event isTold, tells⟩
        | some symbol =>
            rw [find?_writeMemberships_of_some named, Option.some.injEq] at found
            subst found
            exact ⟨event, List.mem_cons_self, tells_membershipRow stored applies.extracted named⟩

theorem ReferenceInvariant.processed_of_marked (invariant : ReferenceInvariant host events state)
    (stored : IsStoredEvent events event)
    (marked : membershipExists state.memberships event.eventId = true) :
    event ∈ state.processed := by
  rcases List.any_eq_true.mp marked with ⟨row, isRow, isEvent⟩
  rcases invariant.told _ row (Table.find?_of_mem isRow) with ⟨told, isTold, tells⟩
  have same : told.eventId = event.eventId := tells.eventId.symm.trans (of_decide_eq_true isEvent)
  rw [← (invariant.stored told isTold).unique stored same]
  exact isTold

theorem newestWins_seen_iff (invariant : ReferenceInvariant host events state)
    (stored : IsStoredEvent events event)
    (marked : membershipExists state.memberships event.eventId = true) :
    NewestWins host { state with processed := event :: state.processed } ↔
      NewestWins host state := by
  have before := invariant.processed_of_marked stored marked
  have same : ∀ other, other ∈ event :: state.processed ↔ other ∈ state.processed := by
    intro other
    rw [List.mem_cons]
    exact or_iff_right_of_imp fun isEvent => isEvent ▸ before
  constructor
  · intro newest
    refine ⟨?_, ?_⟩
    · intro other isProcessed
      exact newest.present other ((same other).mpr isProcessed)
    · intro code row found
      rcases newest.newest code row found with ⟨told, isTold, tells, notNewer⟩
      exact ⟨told, (same told).mp isTold, tells,
        fun other isProcessed => notNewer other ((same other).mpr isProcessed)⟩
  · intro newest
    refine ⟨?_, ?_⟩
    · intro other isProcessed
      exact newest.present other ((same other).mp isProcessed)
    · intro code row found
      rcases newest.newest code row found with ⟨told, isTold, tells, notNewer⟩
      exact ⟨told, (same told).mpr isTold, tells,
        fun other isProcessed => notNewer other ((same other).mp isProcessed)⟩

/-- The rows of an applied event leave the newest there exactly when it is in order. -/
theorem newestWins_applied_iff (invariant : ReferenceInvariant host events state)
    (newest : NewestWins host state) (stored : IsStoredEvent events event)
    (applies : Applies host state.memberships event call symbols) :
    NewestWins host
        { memberships := writeMemberships events state.memberships event symbols call.now
          processed := event :: state.processed } ↔
      NotOvertaken GatewayEvent.ts (processedUnder host state) event (Names host event) := by
  have afterInvariant := invariant.step (.applied event call symbols stored applies)
  rw [newestWins_iff afterInvariant]
  have own : ∀ code, Names host event code → heldEvent events
      (writeMemberships events state.memberships event symbols call.now) code = some event := by
    intro code names
    rcases Option.isSome_iff_exists.mp ((isSome_extracted_iff applies.extracted).mpr names) with
      ⟨symbol, named⟩
    exact heldEvent_of_tells stored (find?_writeMemberships_of_some named)
      (tells_membershipRow stored applies.extracted named)
  have others : ∀ code, ¬ Names host event code → heldEvent events
      (writeMemberships events state.memberships event symbols call.now) code =
        heldEvent events state.memberships code := by
    intro code unnamed
    have missing : symbols.find? code = none := by
      rw [← Option.not_isSome_iff_eq_none, isSome_extracted_iff applies.extracted]
      exact unnamed
    rw [heldEvent, heldEvent, find?_writeMemberships_of_none missing]
  rw [← holdsNewest_overwrite_iff ((newestWins_iff invariant).mp newest) own others]
  have same : ∀ other code, processedUnder host
      { memberships := writeMemberships events state.memberships event symbols call.now
        processed := event :: state.processed } other code ↔
      arriveUnder (processedUnder host state) event (Names host event) other code := by
    intro other code
    simp only [processedUnder, List.mem_cons]
    constructor
    · rintro ⟨rfl | earlier, names⟩
      · exact Or.inr ⟨rfl, names⟩
      · exact Or.inl ⟨earlier, names⟩
    · rintro (⟨earlier, names⟩ | ⟨rfl, names⟩)
      · exact ⟨Or.inr earlier, names⟩
      · exact ⟨Or.inl rfl, names⟩
  constructor
  · exact fun holds => holds.congr fun other code => (same other code).symm
  · exact fun holds => holds.congr same

end Rows

theorem newestWins_noMemberships : NewestWins host noMemberships where
  present _ isProcessed := absurd isProcessed List.not_mem_nil
  newest _ _ found := by cases found

variable (events : Table ReceivedEvent)

theorem referenceInvariant_noMemberships :
    ReferenceInvariant host events noMemberships where
  stored _ isProcessed := absurd isProcessed List.not_mem_nil
  told _ _ found := by cases found

theorem referenceInvariant_run (ops : List ReferenceOp) :
    ReferenceInvariant host events ((referenceSystem host events).run noMemberships ops) := by
  apply System.run_invariant
  · exact fun state op invariant => invariant.step (referenceNext_effect op)
  · exact referenceInvariant_noMemberships host events

theorem newestWins_next_iff {host : Host} {events : Table ReceivedEvent} {state : ReferenceState}
    (invariant : ReferenceInvariant host events state) (newest : NewestWins host state)
    (op : ReferenceOp) :
    NewestWins host (referenceNext host events state op) ↔
      SymbolsInOrder host events state op := by
  have effect := @referenceNext_effect host events state op
  rw [SymbolsInOrder]
  generalize appliedEvent host events state op = applied at effect ⊢
  generalize referenceNext host events state op = after at effect ⊢
  cases effect with
  | kept => simpa using newest
  | seen event stored marked => simpa [newestWins_seen_iff invariant stored marked] using newest
  | applied event call symbols stored applies =>
      rw [newestWins_applied_iff invariant newest stored applies]
      constructor
      · rintro notOvertaken _ ⟨⟩ other isProcessed code names otherNames
        exact notOvertaken other code names ⟨isProcessed, otherNames⟩
      · intro inOrder other code names under
        exact inOrder event rfl other under.1 code names under.2

theorem newest_membership_wins_iff (ops : List ReferenceOp) :
    (referenceSystem host events).Throughout (NewestWins host) noMemberships ops ↔
      (referenceSystem host events).Along (SymbolsInOrder host events) noMemberships ops := by
  apply System.throughout_iff_along fun state =>
    ReferenceInvariant host events state ∧ NewestWins host state
  · exact fun _ holds => holds.2
  · rintro state op ⟨invariant, newest⟩ inOrder
    exact ⟨invariant.step (referenceNext_effect op),
      (newestWins_next_iff invariant newest op).mpr inOrder⟩
  · rintro state op ⟨invariant, newest⟩ after
    exact (newestWins_next_iff invariant newest op).mp after
  · exact ⟨referenceInvariant_noMemberships host events, newestWins_noMemberships host⟩

/-! ## A superseded event -/

theorem stripped_marketSymbols : Stripped "market_symbols" := by decide

/-- An event that lists one stock in one market. -/
def listingEvent (eventId : String) (stripped : Stripped eventId) (market : String)
    (seconds : Nat) : GatewayEvent where
  eventId := eventId
  eventType := "market_symbols"
  source := "kiwoom"
  ts := seconds * Time.microsPerSecond
  payload := [("markets", .obj [(market, .arr [.str "005930"])])]
  commandId := none
  idempotencyKey := none
  eventId_stripped := stripped
  eventType_stripped := stripped_marketSymbols
  source_stripped := stripped_kiwoom
  commandId_stripped := strippedOption_none
  idempotencyKey_stripped := strippedOption_none

def earlierListing : GatewayEvent := listingEvent "evt-earlier" (by decide) "KOSPI" 1

def laterListing : GatewayEvent := listingEvent "evt-later" (by decide) "KOSDAQ" 2

/-- A stock that moves from one market to the other. -/
def movedListing : Table ReceivedEvent where
  rows := [
    { event := earlierListing, accepted := true, receivedAt := datetimeToWire 3000000,
      inCalendar := by decide },
    { event := laterListing, accepted := true, receivedAt := datetimeToWire 4000000,
      inCalendar := by decide }]
  nodup := by decide

def plainReferenceCall : ReferenceCall where
  now := 5000000
  kospiFirst := true
  fault := none

/-- Both events are processed when they arrive, and the worker comes to the job of the first. -/
def replayedListing : List ReferenceOp :=
  [.inline "evt-earlier" plainReferenceCall, .inline "evt-later" plainReferenceCall,
    .work (pendingJob earlierListing none (datetimeToWire 3000000) (jobSpec "market_reference"))
      true plainReferenceCall]

theorem replayedListing_end :
    let ended := (referenceSystem wholeNumberHost movedListing).run noMemberships replayedListing
    (ended.memberships.find? "005930").map SymbolMembership.eventId = some "evt-earlier" ∧
      ended.processed.map (fun event => (event.eventId, event.ts)) =
        [("evt-earlier", 1000000), ("evt-later", 2000000), ("evt-earlier", 1000000)] := by
  decide +kernel

theorem names_laterListing : Names wholeNumberHost laterListing "005930" := by
  have found : ((extractMemberships wholeNumberHost true laterListing.payload).toOption.bind
      fun symbols => (symbols.find? "005930").map MarketSymbol.market) = some "KOSDAQ" := by
    decide +kernel
  rcases Option.bind_eq_some_iff.mp found with ⟨symbols, extracted, found⟩
  refine ⟨true, symbols, ?_, ?_⟩
  · cases read : extractMemberships wholeNumberHost true laterListing.payload with
    | error failure => rw [read] at extracted; cases extracted
    | ok others => rw [read] at extracted; cases extracted; rfl
  · rw [← Option.isSome_map, found]
    rfl

theorem superseded_listing_is_replayed :
    ¬ (referenceSystem wholeNumberHost movedListing).Throughout (NewestWins wholeNumberHost)
      noMemberships replayedListing := by
  intro throughout
  have newest := throughout replayedListing [] (List.append_nil _).symm
  have invariant := referenceInvariant_run wholeNumberHost movedListing replayedListing
  rcases replayedListing_end with ⟨isHeld, processed⟩
  generalize (referenceSystem wholeNumberHost movedListing).run noMemberships replayedListing =
    ended at newest invariant isHeld processed
  have isProcessed : laterListing ∈ ended.processed := by
    have listed : ("evt-later", 2000000) ∈
        ended.processed.map fun event => (event.eventId, event.ts) := by
      rw [processed]
      decide
    rcases List.mem_map.mp listed with ⟨event, isEvent, same⟩
    have isLater : event.eventId = laterListing.eventId := congrArg Prod.fst same
    have stored : IsStoredEvent movedListing laterListing :=
      ⟨_, rfl, rfl⟩
    rw [← (invariant.stored event isEvent).unique stored isLater]
    exact isEvent
  rcases Option.map_eq_some_iff.mp isHeld with ⟨row, found, isRow⟩
  rcases newest.newest _ row found with ⟨told, isTold, tells, notNewer⟩
  have bound := notNewer laterListing isProcessed names_laterListing
  have listed : (told.eventId, told.ts) ∈
      ended.processed.map fun event => (event.eventId, event.ts) :=
    List.mem_map_of_mem isTold
  rw [processed, ← tells.eventId, isRow] at listed
  have toldAt : told.ts = 1000000 := by simpa using listed
  rw [toldAt] at bound
  exact absurd bound (by decide)

end SuseokTrader
