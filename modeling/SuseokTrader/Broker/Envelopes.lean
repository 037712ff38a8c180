import SuseokTrader.Broker.Utils

/-!
# Command and event envelopes

The objects that cross the gateway boundary. Their constructor strips every
text and refuses empty ones, so an envelope carries the proof that its texts
are stripped and not empty.
-/

namespace SuseokTrader

/-- A text that is not empty and has no surrounding white space. -/
structure Stripped (s : String) : Prop where
  strip_eq : Text.strip s = s
  ne_empty : s ≠ ""

instance (s : String) : Decidable (Stripped s) :=
  decidable_of_iff (Text.strip s = s ∧ s ≠ "")
    ⟨fun ⟨stripped, nonempty⟩ => ⟨stripped, nonempty⟩,
      fun ⟨stripped, nonempty⟩ => ⟨stripped, nonempty⟩⟩

def StrippedOption (s : Option String) : Prop :=
  ∀ text, s = some text → Stripped text

instance (s : Option String) : Decidable (StrippedOption s) :=
  match s with
  | none => .isTrue (by intro text absent; cases absent)
  | some text =>
      decidable_of_iff (Stripped text)
        ⟨fun stripped _ same => by cases same; exact stripped,
          fun stripped => stripped text rfl⟩

/-! ### Texts that are stripped -/

theorem Stripped.of_val (text : {text : String // Stripped text}) : Stripped text.val :=
  text.property

theorem StrippedOption.of_val (text : {text : String // Stripped text}) :
    StrippedOption (some text.val) := by
  intro other same
  cases same
  exact text.property

theorem strippedOption_none : StrippedOption none := by decide

theorem stripped_kiwoom : Stripped "kiwoom" := by decide

theorem stripped_kiwoomGateway : Stripped "kiwoom_gateway" := by decide

theorem stripped_liveSim : Stripped "live_sim" := by decide

theorem stripped_core : Stripped "core" := by decide

theorem stripped_priceTick : Stripped "price_tick" := by decide

theorem stripped_sendOrder : Stripped "send_order" := by decide

theorem stripped_firstTick : Stripped "tick-1" := by decide

theorem stripped_firstEvent : Stripped "event-1" := by decide

theorem stripped_secondEvent : Stripped "event-2" := by decide

theorem stripped_firstCommand : Stripped "cmd-1" := by decide

theorem strippedOption_firstCommand : StrippedOption (some "cmd-1") := by decide

theorem strippedOption_thirdCommand : StrippedOption (some "command-3") := by decide +kernel

theorem strippedOption_firstKey : StrippedOption (some "key-1") := by decide

theorem stripped_firstExecution : Stripped "event-1" ∧ Stripped "execution_event" := by decide

theorem stripped_secondExecution : Stripped "event-2" ∧ Stripped "execution_event" := by decide

theorem stripped_of_requireNonEmptyStr {value : Json} {fieldName text : String}
    (accepted : requireNonEmptyStr value fieldName = .ok text) : Stripped text := by
  cases value with
  | str s =>
      simp only [requireNonEmptyStr] at accepted
      split at accepted
      · cases accepted
      · next nonempty =>
          cases accepted
          exact ⟨Text.strip_strip s, nonempty⟩
  | _ => cases accepted

structure GatewayCommand where
  commandId : String
  commandType : String
  source : String
  ts : Instant
  payload : Payload
  idempotencyKey : Option String
  commandId_stripped : Stripped commandId
  commandType_stripped : Stripped commandType
  source_stripped : Stripped source
  idempotencyKey_stripped : StrippedOption idempotencyKey

/-- An observation from the gateway to Core. -/
structure GatewayEvent where
  eventId : String
  eventType : String
  source : String
  ts : Instant
  payload : Payload
  commandId : Option String
  idempotencyKey : Option String
  eventId_stripped : Stripped eventId
  eventType_stripped : Stripped eventType
  source_stripped : Stripped source
  commandId_stripped : StrippedOption commandId
  idempotencyKey_stripped : StrippedOption idempotencyKey

def strippedText (value fieldName : String) : Checked {text : String // Stripped text} :=
  match accepted : requireNonEmptyStr (.str value) fieldName with
  | .ok text => .ok ⟨text, stripped_of_requireNonEmptyStr accepted⟩
  | .error failure => .error failure

def strippedOption (value : Option String) (fieldName : String) :
    Checked {text : Option String // StrippedOption text} :=
  match value with
  | none => .ok ⟨none, by intro text absent; cases absent⟩
  | some value => do
      let text ← strippedText value fieldName
      return ⟨some text.val, .of_val text⟩

namespace GatewayCommand

/-- The constructor of a command: it normalizes every text and refuses blank ones. -/
def make (commandId commandType source : String) (ts : Instant) (payload : Payload)
    (idempotencyKey : Option String) : Checked GatewayCommand := do
  let commandId ← strippedText commandId "command_id"
  let commandType ← strippedText commandType "command_type"
  let source ← strippedText source "source"
  let idempotencyKey ← strippedOption idempotencyKey "idempotency_key"
  return {
    commandId := commandId.val
    commandType := commandType.val
    source := source.val
    ts := ts
    payload := payload
    idempotencyKey := idempotencyKey.val
    commandId_stripped := .of_val commandId
    commandType_stripped := .of_val commandType
    source_stripped := .of_val source
    idempotencyKey_stripped := idempotencyKey.property }

end GatewayCommand

end SuseokTrader
