import SuseokTrader.Gateway.StoreRuns
import SuseokTrader.LiveSim.CloseOnly
import SuseokTrader.LiveSim.OrderLimits
import SuseokTrader.LiveSim.QueueCuts

/-!
# All or nothing

After a cut, a command waits for the intent of the call exactly when the intent
is recorded as queued with it. A purchase keeps this. An exit and a cancellation
keep it when the intent's own row is among those that survive.
-/

namespace SuseokTrader

/-! ## The law -/

def IsQueuedFor (gateway : Database) (idempotencyKey commandId : String) : Prop :=
  ∃ row, gateway.commands.find? commandId = some row ∧
    row.status = GatewayCommandStatus.queued.value ∧
    (row.commandType = "send_order" ∨ row.commandType = "cancel_order") ∧
    row.idempotencyKey = some (Text.strip idempotencyKey)

def QueueCall.idempotencyKey (live : LiveSimTables) : QueueCall → Option String
  | .exit exitIntentId _ =>
      (live.exitIntents.find? exitIntentId).map ExitIntent.idempotencyKey
  | .cancel cancelIntentId _ =>
      (live.cancelIntents.find? cancelIntentId).map CancelIntent.idempotencyKey
  | .order liveSimIntentId _ _ =>
      (live.intents.find? liveSimIntentId).map LiveSimIntent.idempotencyKey

def QueueCall.commandId : QueueCall → String
  | .exit _ readings | .cancel _ readings => readings.commandId
  | .order _ readings _ => readings.commandId

def hasOrderOf (live : LiveSimTables) (commandId : String) : Prop :=
  ∃ order ∈ live.orders.rows, order.gatewayCommandId = some commandId

/-- The intent of the call is recorded as queued with the command. -/
def IsRecorded (live : LiveSimTables) (call : QueueCall) (commandId : String) : Prop :=
  match call with
  | .exit exitIntentId _ =>
      ∃ intent, live.exitIntents.find? exitIntentId = some intent ∧
        intent.status = .commandQueued ∧ intent.gatewayCommandId = some commandId ∧
        hasOrderOf live commandId
  | .cancel cancelIntentId _ =>
      ∃ intent, live.cancelIntents.find? cancelIntentId = some intent ∧
        intent.status = .commandQueued ∧ intent.gatewayCommandId = some commandId
  | .order liveSimIntentId _ _ =>
      ∃ intent, live.intents.find? liveSimIntentId = some intent ∧
        intent.status = .commandQueued ∧ intent.gatewayCommandId = some commandId ∧
        hasOrderOf live commandId

/-- A command waits for the intent exactly when the intent is recorded as queued with it. -/
def QueuedTogether (call : QueueCall) (store : LiveSimStore) : Prop :=
  ∀ key ∈ call.idempotencyKey store.live, ∀ commandId, commandId ≠ "" →
    (IsQueuedFor store.gateway key commandId ↔ IsRecorded store.live call commandId)

def HasQueued (store : LiveSimStore) (call : QueueCall) : Prop :=
  ∃ key ∈ call.idempotencyKey store.live, ∃ commandId, commandId ≠ "" ∧
    IsQueuedFor store.gateway key commandId

/-! ## The condition -/

/-- A cut that leaves the command and the rows together: nothing survives, or so many of the
rows that the intent is among them. -/
def QueueWay.CutsWhole (before hasQueued : Prop) (needed count : Nat) (cutOff : CutOff) :
    QueueWay → Prop
  | .nothing => before
  | .refuses _ =>
      if (Session.survivingChanges 0 false count cutOff).isSome then ¬ hasQueued else before
  | .sends _ rows =>
      before ∧ ∀ kept ∈ Session.survivingChanges (rows.getD []).length rows.isSome count cutOff,
        rows.isSome ∧ needed ≤ kept

def CutsWhole (host : LiveSimHost) (settings : LiveSimBuySettings) (store : LiveSimStore)
    (call : QueueCall) (count : Nat) (cutOff : CutOff) : Prop :=
  match call with
  | .exit exitIntentId readings =>
      (exitWay host settings.toLiveSimSettings store exitIntentId readings).CutsWhole
        (QueuedTogether call store) (HasQueued store call) 2 count cutOff
  | .cancel cancelIntentId readings =>
      (cancelWay host settings.toLiveSimSettings store cancelIntentId readings).CutsWhole
        (QueuedTogether call store) (HasQueued store call) 1 count cutOff
  | .order .. => QueuedTogether call store

theorem QueueWay.cutAfter_nothing_iff (law : LiveSimStore → Prop) (store : LiveSimStore)
    (hasQueued : Prop) (needed count : Nat) (cutOff : CutOff) :
    law ((Session.start store).cutAfter nothing.statements count cutOff) ↔
      nothing.CutsWhole (law store) hasQueued needed count cutOff := by
  rw [statements, Session.cutAfter, List.take_nil]
  cases cutOff <;> exact Iff.rfl

variable {store : LiveSimStore} {way : QueueWay} {db : Database} {command : GatewayCommand}
  {now : Instant} {result : EnqueueCommandResult}
  {commandId key exitIntentId cancelIntentId : String} {host : LiveSimHost} {call : QueueCall}
  {live : LiveSimTables} {readings : QueueReadings} {intent : ExitIntent}
  {rows : List (LiveSimTables → LiveSimTables)} {settings : LiveSimSettings}

theorem QueueWay.cutAfter_iff {law : LiveSimStore → Prop} {hasQueued : Prop} {needed : Nat}
    (refuses : ∀ first, way = .refuses first → (law (first store) ↔ ¬ hasQueued))
    (sends : ∀ gateway rows, way = .sends gateway rows → ∀ kept,
      (law (Session.applyAll (((rows.getD []).map onLive).take kept) (onGateway gateway store)) ↔
        law store ∧ rows.isSome ∧ needed ≤ kept)) (count : Nat) (cutOff : CutOff) :
    law ((Session.start store).cutAfter way.statements count cutOff) ↔
      way.CutsWhole (law store) hasQueued needed count cutOff := by
  cases way with
  | nothing => exact cutAfter_nothing_iff law store hasQueued needed count cutOff
  | refuses first =>
      rw [statements, Session.cutAfter_committingFirst, CutsWhole]
      cases Session.survivingChanges 0 false count cutOff with
      | none => exact Iff.rfl
      | some kept =>
          simp only [List.take_nil]
          exact refuses first rfl
  | sends gateway rows =>
      rw [statements, Session.cutAfter_committingFirst, CutsWhole, List.length_map]
      cases Session.survivingChanges (rows.getD []).length rows.isSome count cutOff with
      | none => simp only [Option.mem_def, reduceCtorEq, false_imp_iff, implies_true, and_true]
      | some kept =>
          simp only [Option.mem_def, Option.some.injEq, forall_eq']
          exact sends gateway rows rfl kept

/-! ## The command -/

theorem commands_of_enqueueCommand {host : Host} {written : Database} {expiresAt : Option Instant}
    (success : enqueueCommand host db command expiresAt now = .ok (result, written)) :
    (result.accepted = true ∧
      db.commands.insert? (queuedCommandRow command (expiresAt.map datetimeToWire)) =
        some written.commands) ∨
    (result.accepted = false ∧ written.commands = db.commands) := by
  simp only [enqueueCommand] at success
  split at success
  · rcases success with ⟨rfl, rfl⟩
    exact Or.inr ⟨rfl, rfl⟩
  · split at success
    · split at success
      · cases success
      · rcases success with ⟨rfl, rfl⟩
        exact Or.inr ⟨rfl, rfl⟩
    · rcases Checked.bind_eq_ok.mp success with ⟨⟨refusal, cleared⟩, looked, stores⟩
      have onlyKeys := dedupeError_database looked
      have sameCommands : cleared.commands = db.commands := by rw [onlyKeys]
      cases refusal with
      | some message =>
          rcases stores with ⟨rfl, rfl⟩
          exact Or.inr ⟨rfl, sameCommands⟩
      | none =>
          rw [storeCommand] at stores
          split at stores
          · rcases stores with ⟨rfl, rfl⟩
            exact Or.inr ⟨rfl, rfl⟩
          · next inserted inserts =>
              rcases stores with ⟨rfl, rfl⟩
              rcases insertCommand_database inserts with ⟨commands, isInserted, same⟩
              rw [sameCommands] at isInserted
              refine Or.inl ⟨rfl, ?_⟩
              rw [isInserted, same]

theorem checkedText_strip {value fieldName : String} {text : {text : String // Stripped text}}
    (checked : checkedText (.str value) fieldName = .ok text) : text.val = Text.strip value := by
  rw [checkedText] at checked
  split at checked
  · next accepted =>
      rw [Except.ok.injEq] at checked
      subst checked
      rw [requireNonEmptyStr] at accepted
      split at accepted
      · cases accepted
      · rw [Except.ok.injEq] at accepted
        exact accepted.symm
  · cases checked

theorem liveSimCommand_texts {commandType : LiveSimCommandType} {payload : Payload} {ts : Instant}
    (success : liveSimCommand commandType commandId payload key ts = .ok command) :
    command.commandId = Text.strip commandId ∧ command.commandType = commandType.value ∧
      command.idempotencyKey = some (Text.strip key) := by
  rcases Checked.bind_eq_ok.mp success with ⟨id, isId, success⟩
  rcases Checked.bind_eq_ok.mp success with ⟨text, isText, success⟩
  simp only [pure, Except.pure, Except.ok.injEq] at success
  subst success
  exact ⟨checkedText_strip isId, rfl, congrArg some (checkedText_strip isText)⟩

theorem isQueuedFor_of_accepted {written : Database} {commandType : LiveSimCommandType}
    {payload : Payload} {ts : Instant} {expiresAt : Option Instant} (fresh : Stripped commandId)
    (isCommand : liveSimCommand commandType commandId payload key ts = .ok command)
    (enqueued : enqueueCommand host.toHost db command expiresAt now = .ok (result, written))
    (accepted : result.accepted = true) :
    ¬ IsQueuedFor db key commandId ∧
      ∀ id, IsQueuedFor written key id ↔ id = commandId ∨ IsQueuedFor db key id := by
  rcases liveSimCommand_texts isCommand with ⟨sameId, sameType, sameKey⟩
  rw [fresh.strip_eq] at sameId
  rcases commands_of_enqueueCommand enqueued with ⟨_, inserted⟩ | ⟨refused, _⟩
  · have isRow : Keyed.key (queuedCommandRow command (expiresAt.map datetimeToWire)) =
        commandId := sameId
    have missing : db.commands.find? commandId = none := by
      rw [← isRow]
      exact Table.insert?_isSome_iff.mp (by rw [inserted]; rfl)
    have absent : ¬ IsQueuedFor db key commandId := by
      rintro ⟨row, found, _⟩
      rw [missing] at found
      cases found
    refine ⟨absent, ?_⟩
    intro id
    by_cases same : id = commandId
    · subst same
      have found := Table.find?_of_insert?_self inserted
      rw [isRow] at found
      refine iff_of_true ⟨_, found, rfl, ?_, sameKey⟩ (Or.inl rfl)
      simp only [queuedCommandRow, sameType]
      cases commandType with
      | sendOrder => exact Or.inl (by decide +kernel)
      | cancelOrder => exact Or.inr (by decide +kernel)
    · have kept : written.commands.find? id = db.commands.find? id :=
        Table.find?_of_insert?_of_ne inserted (by rw [isRow]; exact fun other => same other.symm)
      rw [IsQueuedFor, kept]
      exact ⟨Or.inr, fun either => either.resolve_left same⟩
  · rw [accepted] at refused
    cases refused

theorem isQueuedFor_congr {other : Database} (same : other.commands = db.commands)
    (key commandId : String) : IsQueuedFor other key commandId ↔ IsQueuedFor db key commandId := by
  rw [IsQueuedFor, IsQueuedFor, same]

theorem wayOfCommand_cases {gateway : Database} {command : Checked GatewayCommand}
    {reject : LiveSimTables → LiveSimTables}
    {rows : Option (List (LiveSimTables → LiveSimTables))}
    (isWay : wayOfCommand host gateway command now reject rows = way) :
    way = .nothing ∨
    (∃ written, way = .refuses (fun store => onLive reject (onGateway written store)) ∧
      written.commands = gateway.commands) ∨
    ∃ sent result written, command = .ok sent ∧
      enqueueCommand host.toHost gateway sent none now = .ok (result, written) ∧
      result.accepted = true ∧ way = .sends written rows := by
  rw [wayOfCommand.eq_def] at isWay
  split at isWay
  · exact Or.inl isWay.symm
  · next sent =>
      split at isWay
      · exact Or.inl isWay.symm
      · next result written enqueued =>
          split at isWay
          · next accepted =>
              exact Or.inr (Or.inr ⟨sent, result, written, rfl, enqueued, accepted, isWay.symm⟩)
          · next refused =>
              refine Or.inr (Or.inl ⟨written, isWay.symm, ?_⟩)
              rcases commands_of_enqueueCommand enqueued with ⟨accepted, _⟩ | ⟨_, same⟩
              · exact absurd accepted refused
              · exact same

/-! ## One intent -/

theorem queuedTogether_iff (isKey : call.idempotencyKey store.live = some key) :
    QueuedTogether call store ↔ ∀ commandId, commandId ≠ "" →
      (IsQueuedFor store.gateway key commandId ↔ IsRecorded store.live call commandId) := by
  rw [QueuedTogether, isKey]
  simp only [Option.mem_def, Option.some.injEq, forall_eq']

theorem queuedTogether_of_unrecorded (isKey : call.idempotencyKey store.live = some key)
    (unrecorded : ∀ commandId, commandId ≠ "" → ¬ IsRecorded store.live call commandId) :
    QueuedTogether call store ↔
      ∀ commandId, commandId ≠ "" → ¬ IsQueuedFor store.gateway key commandId := by
  rw [queuedTogether_iff isKey]
  refine forall₂_congr ?_
  intro commandId named
  rw [iff_false_right (unrecorded commandId named)]

theorem not_hasQueued_iff (isKey : call.idempotencyKey store.live = some key) :
    ¬ HasQueued store call ↔
      ∀ commandId, commandId ≠ "" → ¬ IsQueuedFor store.gateway key commandId := by
  rw [HasQueued, isKey]
  simp only [Option.mem_def, Option.some.injEq, exists_eq_left', not_exists, not_and]

theorem queuedTogether_of_rejected {after : LiveSimStore}
    (isKey : call.idempotencyKey store.live = some key)
    (keeps : call.idempotencyKey after.live = some key)
    (commands : after.gateway.commands = store.gateway.commands)
    (unrecorded : ∀ commandId, ¬ IsRecorded after.live call commandId) :
    QueuedTogether call after ↔ ¬ HasQueued store call := by
  rw [queuedTogether_of_unrecorded keeps fun commandId _ => unrecorded commandId,
    not_hasQueued_iff isKey]
  refine forall₂_congr ?_
  intro commandId _
  rw [isQueuedFor_congr commands]

/-- After the command is sent the law holds exactly when it did before and the rows speak of the
command. -/
theorem queuedTogether_of_sent {after : LiveSimStore} {whole : Prop} (named : commandId ≠ "")
    (isKey : call.idempotencyKey store.live = some key)
    (keeps : call.idempotencyKey after.live = some key)
    (unrecorded : ∀ id, id ≠ "" → ¬ IsRecorded store.live call id)
    (absent : ¬ IsQueuedFor store.gateway key commandId)
    (queued : ∀ id, IsQueuedFor after.gateway key id ↔
      id = commandId ∨ IsQueuedFor store.gateway key id)
    (recorded : ∀ id, id ≠ "" → (IsRecorded after.live call id ↔ whole ∧ id = commandId)) :
    QueuedTogether call after ↔ QueuedTogether call store ∧ whole := by
  rw [queuedTogether_iff keeps, queuedTogether_of_unrecorded isKey unrecorded]
  constructor
  · intro law
    have isRecorded := (law commandId named).mp ((queued commandId).mpr (Or.inl rfl))
    refine ⟨?_, ((recorded commandId named).mp isRecorded).1⟩
    intro id idNamed waited
    have isNew := (recorded id idNamed).mp ((law id idNamed).mp ((queued id).mpr (Or.inr waited)))
    exact absent (isNew.2 ▸ waited)
  · rintro ⟨none, isWhole⟩ id idNamed
    rw [queued id, recorded id idNamed]
    exact ⟨fun either => ⟨isWhole, either.resolve_right (none id idNamed)⟩,
      fun both => Or.inl both.2⟩

theorem applyAll_onLive (rows : List (LiveSimTables → LiveSimTables)) (store : LiveSimStore) :
    Session.applyAll (rows.map onLive) store = onLive (Session.applyAll rows) store := by
  induction rows generalizing store with
  | nil => rfl
  | cons row rows ih =>
      exact ih (onLive row store)

/-- The rows of a call for an intent that is recorded with no command: so many of them record
its new command. -/
structure RecordsCommand (live : LiveSimTables) (call : QueueCall) (key : String) (needed : Nat)
    (rows : Option (List (LiveSimTables → LiveSimTables))) : Prop where
  unrecorded : ∀ commandId, commandId ≠ "" → ¬ IsRecorded live call commandId
  keeps : ∀ written ∈ rows, ∀ kept,
    call.idempotencyKey (Session.applyAll (written.take kept) live) = some key
  recorded : ∀ written ∈ rows, ∀ kept commandId, commandId ≠ "" →
    (IsRecorded (Session.applyAll (written.take kept) live) call commandId ↔
      needed ≤ kept ∧ commandId = call.commandId)

/-- A call for an intent that it rejects or sends a command for. -/
structure QueuesIntent (host : LiveSimHost) (store : LiveSimStore) (call : QueueCall)
    (way : QueueWay) (needed : Nat) (key : String) (reject : LiveSimTables → LiveSimTables)
    (command : Checked GatewayCommand) (now : Instant)
    (rows : Option (List (LiveSimTables → LiveSimTables))) : Prop where
  isKey : call.idempotencyKey store.live = some key
  isCommand : ∃ commandType payload ts,
    command = liveSimCommand commandType call.commandId payload key ts
  rejectedKey : call.idempotencyKey (reject store.live) = some key
  rejected : ∀ commandId, ¬ IsRecorded (reject store.live) call commandId
  goes : way = .refuses (onLive reject) ∨
    RecordsCommand store.live call key needed rows ∧
      wayOfCommand host store.gateway command now reject rows = way

/-- A call that enqueues its command on its own leaves the law exactly when its cut is whole. -/
theorem QueuesIntent.cut_iff {needed : Nat} {reject : LiveSimTables → LiveSimTables}
    {command : Checked GatewayCommand} {rows : Option (List (LiveSimTables → LiveSimTables))}
    (queues : QueuesIntent host store call way needed key reject command now rows)
    (fresh : Stripped call.commandId) (count : Nat) (cutOff : CutOff) :
    QueuedTogether call ((Session.start store).cutAfter way.statements count cutOff) ↔
      way.CutsWhole (QueuedTogether call store) (HasQueued store call) needed count cutOff := by
  apply QueueWay.cutAfter_iff
  · rintro first rfl
    have isRejection : (first store).live = reject store.live ∧
        (first store).gateway.commands = store.gateway.commands := by
      rcases queues.goes with refused | ⟨_, sent⟩
      · rw [QueueWay.refuses.injEq] at refused
        subst refused
        exact ⟨rfl, rfl⟩
      · rcases wayOfCommand_cases sent with nothing | ⟨written, refused, same⟩ |
          ⟨_, _, _, _, _, _, sends⟩
        · cases nothing
        · rw [QueueWay.refuses.injEq] at refused
          subst refused
          exact ⟨rfl, same⟩
        · cases sends
    exact queuedTogether_of_rejected queues.isKey (by rw [isRejection.1]; exact queues.rejectedKey)
      isRejection.2 (by rw [isRejection.1]; exact queues.rejected)
  · rintro gateway rows rfl kept
    rcases queues.goes with refused | ⟨records, sent⟩
    · cases refused
    · rcases wayOfCommand_cases sent with nothing | ⟨_, refused, _⟩ |
        ⟨command, result, written, isSent, enqueued, accepted, sends⟩
      · cases nothing
      · cases refused
      · rcases sends with ⟨rfl, rfl⟩
        rcases queues.isCommand with ⟨commandType, payload, ts, isCommand⟩
        rcases isQueuedFor_of_accepted fresh (isCommand.symm.trans isSent) enqueued accepted with
          ⟨absent, queued⟩
        rw [← List.map_take, applyAll_onLive]
        cases isRows : rows with
        | none =>
            simp only [Option.getD_none, List.take_nil]
            refine queuedTogether_of_sent fresh.ne_empty queues.isKey queues.isKey
              records.unrecorded absent queued ?_
            intro id named
            rw [Option.isSome_none]
            simp only [Bool.false_eq_true, false_and, iff_false]
            exact records.unrecorded id named
        | some rows =>
            refine queuedTogether_of_sent fresh.ne_empty queues.isKey
              (records.keeps rows isRows kept) records.unrecorded absent queued ?_
            intro id named
            rw [Option.isSome_some]
            simp only [true_and]
            exact records.recorded rows isRows kept id named

/-! ## Exits -/

theorem exit_key (found : live.exitIntents.find? exitIntentId = some intent) :
    (QueueCall.exit exitIntentId readings).idempotencyKey live = some intent.idempotencyKey := by
  rw [QueueCall.idempotencyKey, found, Option.map_some]

theorem find?_rejectExit (found : live.exitIntents.find? exitIntentId = some intent) :
    (rejectExit intent live).exitIntents.find? exitIntentId =
      some (setExitIntentStatus .rejected intent) := by
  have isId : intent.exitIntentId = exitIntentId := Table.key_of_find? found
  rw [rejectExit, LiveSimTables.rejectExitIntent, isId, Table.find?_update_self found]

theorem exitRows_kept {position : LiveSimPosition}
    (isRows : exitRows live position intent readings = some rows) (kept : Nat) :
    (Session.applyAll (rows.take kept) live).exitIntents = (if 2 ≤ kept then
      live.exitIntents.update intent.exitIntentId
        (queuedExitIntent readings.commandId readings.orderId) (key_queuedExitIntent _ _)
      else live.exitIntents) ∧
    (2 ≤ kept → insertOrder live.orders (exitOrder position intent readings) =
      some (Session.applyAll (rows.take kept) live).orders) := by
  rw [exitRows, Option.map_eq_some_iff] at isRows
  rcases isRows with ⟨orders, inserted, rfl⟩
  rw [inserted]
  rcases kept with _ | _ | _ | _ | kept
  · exact ⟨rfl, fun enough => absurd enough (by decide)⟩
  · exact ⟨rfl, fun enough => absurd enough (by decide)⟩
  · exact ⟨rfl, fun _ => rfl⟩
  · exact ⟨rfl, fun _ => rfl⟩
  · cases kept <;> exact ⟨rfl, fun _ => rfl⟩

theorem find?_exitRows {position : LiveSimPosition}
    (found : live.exitIntents.find? exitIntentId = some intent)
    (isRows : exitRows live position intent readings = some rows) (kept : Nat) :
    (Session.applyAll (rows.take kept) live).exitIntents.find? exitIntentId = some
      (if 2 ≤ kept then queuedExitIntent readings.commandId readings.orderId intent else intent) := by
  have isId : intent.exitIntentId = exitIntentId := Table.key_of_find? found
  rw [(exitRows_kept isRows kept).1, isId]
  split
  · rw [Table.find?_update_self found]
  · exact found

theorem unrecorded_exit (found : live.exitIntents.find? exitIntentId = some intent)
    (unqueued : intent.gatewayCommandId.getD "" = "") (commandId : String)
    (named : commandId ≠ "") : ¬ IsRecorded live (.exit exitIntentId readings) commandId := by
  rintro ⟨other, isOther, _, isCommand, _⟩
  rw [found, Option.some.injEq] at isOther
  subst isOther
  rw [isCommand] at unqueued
  exact named unqueued

theorem recordsCommand_exit (found : live.exitIntents.find? exitIntentId = some intent)
    (unqueued : intent.gatewayCommandId.getD "" = "") (position : LiveSimPosition) :
    RecordsCommand live (.exit exitIntentId readings) intent.idempotencyKey 2
      (exitRows live position intent readings) where
  unrecorded := unrecorded_exit found unqueued
  keeps := by
    intro rows isRows kept
    rw [exit_key (find?_exitRows found isRows kept)]
    split <;> rfl
  recorded := by
    intro rows isRows kept commandId named
    have present := find?_exitRows found isRows kept
    by_cases enough : 2 ≤ kept
    · rw [if_pos enough] at present
      have hasOrder : hasOrderOf (Session.applyAll (rows.take kept) live) readings.commandId :=
        ⟨exitOrder position intent readings,
          by simp [rows_of_insertOrder ((exitRows_kept isRows kept).2 enough)], rfl⟩
      constructor
      · rintro ⟨other, isOther, _, isCommand, _⟩
        rw [present, Option.some.injEq] at isOther
        subst isOther
        exact ⟨enough, (Option.some.inj isCommand).symm⟩
      · rintro ⟨_, rfl⟩
        exact ⟨_, present, rfl, rfl, hasOrder⟩
    · rw [if_neg enough] at present
      exact iff_of_false (unrecorded_exit present unqueued commandId named)
        fun few => enough few.1

theorem exit_queuesIntent (isWay : exitWay host settings store exitIntentId readings = way) :
    way = .nothing ∨ ∃ key reject command now rows,
      QueuesIntent host store (.exit exitIntentId readings) way 2 key reject command now rows := by
  rw [exitWay] at isWay
  split at isWay
  · exact Or.inl isWay.symm
  · next intent found =>
      split at isWay
      · exact Or.inl isWay.symm
      · next position held =>
          refine Or.inr ⟨intent.idempotencyKey, rejectExit intent,
            exitCommand host settings position intent readings, readings.enqueuedAt,
            exitRows store.live position intent readings, exit_key found, ⟨_, _, _, rfl⟩,
            by rw [exit_key (find?_rejectExit found)]; rfl, ?_, ?_⟩
          · rintro commandId ⟨other, isOther, status, _⟩
            rw [find?_rejectExit found, Option.some.injEq] at isOther
            subst isOther
            cases status
          · split at isWay
            · exact Or.inl isWay.symm
            · next allowed =>
                have unqueued := (exitAllowed_of_reasons (not_not.mp allowed)).unqueued
                exact Or.inr ⟨recordsCommand_exit found unqueued position, isWay⟩

/-! ## Cancellations -/

theorem cancel_key {intent : CancelIntent}
    (found : live.cancelIntents.find? cancelIntentId = some intent) :
    (QueueCall.cancel cancelIntentId readings).idempotencyKey live =
      some intent.idempotencyKey := by
  rw [QueueCall.idempotencyKey, found, Option.map_some]

theorem find?_rejectCancel {intent : CancelIntent}
    (found : live.cancelIntents.find? cancelIntentId = some intent) :
    (rejectCancel intent live).cancelIntents.find? cancelIntentId =
      some (setCancelIntentStatus .rejected intent) := by
  have isId : intent.cancelIntentId = cancelIntentId := Table.key_of_find? found
  rw [rejectCancel, LiveSimTables.updateCancelIntent, isId, Table.find?_update_self found]

theorem find?_cancelRows {intent : CancelIntent} (order : LiveSimOrder) (readings : QueueReadings)
    (found : live.cancelIntents.find? cancelIntentId = some intent) (kept : Nat) :
    (Session.applyAll ((cancelRows order intent readings).take kept) live).cancelIntents.find?
      cancelIntentId =
        some (if 1 ≤ kept then queuedCancelIntent readings.commandId intent else intent) := by
  have isId : intent.cancelIntentId = cancelIntentId := Table.key_of_find? found
  have queued : (live.cancelIntents.update intent.cancelIntentId
      (queuedCancelIntent readings.commandId) (key_queuedCancelIntent _)).find? cancelIntentId =
        some (queuedCancelIntent readings.commandId intent) := by
    rw [isId, Table.find?_update_self found]
  rcases kept with _ | _ | kept
  · exact found
  · exact queued
  · cases kept <;> exact queued

theorem unrecorded_cancel {intent : CancelIntent}
    (found : live.cancelIntents.find? cancelIntentId = some intent)
    (unqueued : intent.gatewayCommandId.getD "" = "") (commandId : String)
    (named : commandId ≠ "") : ¬ IsRecorded live (.cancel cancelIntentId readings) commandId := by
  rintro ⟨other, isOther, _, isCommand⟩
  rw [found, Option.some.injEq] at isOther
  subst isOther
  rw [isCommand] at unqueued
  exact named unqueued

theorem recordsCommand_cancel {intent : CancelIntent}
    (found : live.cancelIntents.find? cancelIntentId = some intent)
    (unqueued : intent.gatewayCommandId.getD "" = "") (order : LiveSimOrder) :
    RecordsCommand live (.cancel cancelIntentId readings) intent.idempotencyKey 1
      (some (cancelRows order intent readings)) where
  unrecorded := unrecorded_cancel found unqueued
  keeps := by
    rintro rows ⟨⟩ kept
    rw [cancel_key (find?_cancelRows order readings found kept)]
    split <;> rfl
  recorded := by
    rintro rows ⟨⟩ kept commandId named
    have present := find?_cancelRows order readings found kept
    by_cases enough : 1 ≤ kept
    · rw [if_pos enough] at present
      constructor
      · rintro ⟨other, isOther, _, isCommand⟩
        rw [present, Option.some.injEq] at isOther
        subst isOther
        exact ⟨enough, (Option.some.inj isCommand).symm⟩
      · rintro ⟨_, rfl⟩
        exact ⟨_, present, rfl, rfl⟩
    · rw [if_neg enough] at present
      exact iff_of_false (unrecorded_cancel present unqueued commandId named)
        fun few => enough few.1

theorem unqueued_of_cancelSafetyReasons {order : LiveSimOrder} {intent : CancelIntent}
    (allowed : cancelSafetyReasons settings order intent readings = []) :
    intent.gatewayCommandId.getD "" = "" := by
  have duplicate := check_of_mergeReasons_eq_nil allowed
    ((intent.gatewayCommandId.getD "") ≠ "") "LIVE_SIM_CANCEL_DUPLICATE" (by simp)
    (by decide +kernel)
  simpa using duplicate

theorem cancel_queuesIntent (isWay : cancelWay host settings store cancelIntentId readings = way) :
    way = .nothing ∨ ∃ key reject command now rows,
      QueuesIntent host store (.cancel cancelIntentId readings) way 1 key reject command now
        rows := by
  rw [cancelWay] at isWay
  split at isWay
  · exact Or.inl isWay.symm
  · next intent found =>
      split at isWay
      · exact Or.inl isWay.symm
      · next order placed =>
          refine Or.inr ⟨intent.idempotencyKey, rejectCancel intent,
            cancelCommand settings order intent readings, readings.enqueuedAt,
            some (cancelRows order intent readings), cancel_key found, ⟨_, _, _, rfl⟩,
            by rw [cancel_key (find?_rejectCancel found)]; rfl, ?_, ?_⟩
          · rintro commandId ⟨other, isOther, status, _⟩
            rw [find?_rejectCancel found, Option.some.injEq] at isOther
            subst isOther
            cases status
          · split at isWay
            · exact Or.inl isWay.symm
            · next allowed =>
                have unqueued := unqueued_of_cancelSafetyReasons (not_not.mp allowed)
                exact Or.inr ⟨recordsCommand_cancel found unqueued order, isWay⟩

/-! ## Orders -/

theorem order_key {liveSimIntentId : String} {readings : BuyReadings} {callerTransaction : Bool}
    {intent : LiveSimIntent} (found : live.intents.find? liveSimIntentId = some intent) :
    (QueueCall.order liveSimIntentId readings callerTransaction).idempotencyKey live =
      some intent.idempotencyKey := by
  rw [QueueCall.idempotencyKey, found, Option.map_some]

/-- The store after all writes of an order keeps the law as it was. -/
theorem queuedTogether_of_order {liveSimIntentId : String} {readings : BuyReadings}
    {callerTransaction : Bool} {intent : LiveSimIntent} {gateway : Database}
    (fresh : Stripped readings.commandId)
    (found : store.live.intents.find? liveSimIntentId = some intent)
    (created : intent.status = .created)
    (enqueued : enqueueOrder host settings store.gateway intent readings.toQueueReadings =
      .ok (result, gateway)) (accepted : result.accepted = true)
    (isRows : orderRows store.live intent readings.toQueueReadings = some rows) :
    QueuedTogether (.order liveSimIntentId readings callerTransaction)
        (Session.applyAll (onGateway gateway :: rows.map onLive) store) ↔
      QueuedTogether (.order liveSimIntentId readings callerTransaction) store := by
  rcases Checked.bind_eq_ok.mp enqueued with ⟨command, isCommand, enqueued⟩
  rcases Checked.bind_eq_ok.mp enqueued with ⟨expiresAt, isExpiry, enqueued⟩
  rcases isQueuedFor_of_accepted fresh isCommand enqueued accepted with ⟨absent, queued⟩
  rw [orderRows, Option.map_eq_some_iff] at isRows
  rcases isRows with ⟨orders, inserted, rfl⟩
  have isId : intent.liveSimIntentId = liveSimIntentId := Table.key_of_find? found
  have unrecorded : ∀ id, id ≠ "" →
      ¬ IsRecorded store.live (.order liveSimIntentId readings callerTransaction) id := by
    rintro id _ ⟨other, isOther, status, _⟩
    rw [found, Option.some.injEq] at isOther
    subst isOther
    rw [created] at status
    cases status
  have queuedRow : (store.live.intents.update intent.liveSimIntentId
      (queuedIntent readings.commandId) (key_queuedIntent _)).find? liveSimIntentId =
        some (queuedIntent readings.commandId intent) := by
    rw [isId, Table.find?_update_self found]
  rw [Session.applyAll]
  generalize isAfter : List.foldl _ _ _ = after
  have present : after.live.intents.find? liveSimIntentId =
      some (queuedIntent readings.commandId intent) := by
    rw [← isAfter]
    exact queuedRow
  have hasOrder : hasOrderOf after.live readings.commandId := by
    rw [← isAfter]
    exact ⟨queuedOrder intent readings.toQueueReadings,
      by simp [onLive, rows_of_insertOrder inserted], rfl⟩
  have sameGateway : after.gateway = gateway := by
    rw [← isAfter]
    rfl
  have recorded : ∀ id, id ≠ "" → (IsRecorded after.live
      (.order liveSimIntentId readings callerTransaction) id ↔ True ∧ id = readings.commandId) := by
    intro id named
    rw [true_and]
    constructor
    · rintro ⟨other, isOther, _, isCommand, _⟩
      rw [present, Option.some.injEq] at isOther
      subst isOther
      exact (Option.some.inj isCommand).symm
    · rintro rfl
      exact ⟨_, present, rfl, rfl, hasOrder⟩
  have law := queuedTogether_of_sent fresh.ne_empty (order_key found)
    (by rw [order_key present]; rfl) unrecorded absent (by rw [sameGateway]; exact queued) recorded
  exact law.trans (and_iff_left trivial)

/-- A cut leaves nothing of an order, or all of it. -/
theorem order_cut_iff (host : LiveSimHost) (settings : LiveSimBuySettings) (store : LiveSimStore)
    (liveSimIntentId : String) (readings : BuyReadings) (callerTransaction : Bool)
    (fresh : Stripped readings.commandId) (count : Nat) (cutOff : CutOff) :
    QueuedTogether (.order liveSimIntentId readings callerTransaction)
        ((Session.start store).cutAfter
          (orderStatements host settings store liveSimIntentId readings callerTransaction)
          count cutOff) ↔
      QueuedTogether (.order liveSimIntentId readings callerTransaction) store := by
  have nothing : (Session.start store).cutAfter [] count cutOff = store := by
    rw [Session.cutAfter, List.take_nil]
    cases cutOff <;> rfl
  rw [orderStatements]
  split
  · rw [nothing]
  · next intent found =>
      split
      · rw [nothing]
      · next allowed =>
          rw [not_or, not_not] at allowed
          rw [submitStatements]
          split
          · rw [nothing]
          · next result gateway enqueued =>
              split
              · next accepted =>
                  split
                  · have kept : (Session.start store).cutAfter
                        [.savepoint, .write (onGateway gateway)] count cutOff = store := by
                      rcases count with _ | _ | count <;> cases cutOff <;>
                        simp [Session.cutAfter, Session.survivor, Session.execute, Session.start]
                    rw [kept]
                  · next rows isRows =>
                      have survives := Session.cutAfter_savepoint
                        (show (Session.start store).saved = none from rfl)
                        (onGateway gateway :: rows.map onLive)
                        (if callerTransaction then [.release] else [.release, .commit])
                        (by cases callerTransaction <;> simp) count cutOff
                      simp only [List.mem_cons, List.not_mem_nil, or_false] at survives
                      rcases survives with same | same | whole
                      · rw [same, Session.start]
                      · rw [same, Session.start]
                      · rw [whole]
                        exact queuedTogether_of_order fresh found allowed.1 enqueued accepted
                          isRows
              · rw [nothing]

/-! ## Every call -/

/-- The law after a cut, for every store, call and point: a purchase leaves it as it was, and an
exit or a cancellation as the condition on its cut says. -/
theorem queuedTogether_after_cut_iff (host : LiveSimHost) (settings : LiveSimBuySettings)
    (store : LiveSimStore) (call : QueueCall) (fresh : Stripped call.commandId) (count : Nat)
    (cutOff : CutOff) :
    QueuedTogether call
        ((Session.start store).cutAfter (call.statements host settings store) count cutOff) ↔
      CutsWhole host settings store call count cutOff := by
  cases call with
  | exit exitIntentId readings =>
      rw [QueueCall.statements, CutsWhole]
      generalize isWay : exitWay host settings.toLiveSimSettings store exitIntentId readings = way
      rcases exit_queuesIntent isWay with rfl | ⟨_, _, _, _, _, queues⟩
      · exact QueueWay.cutAfter_nothing_iff _ store _ _ count cutOff
      · exact queues.cut_iff fresh count cutOff
  | cancel cancelIntentId readings =>
      rw [QueueCall.statements, CutsWhole]
      generalize isWay :
        cancelWay host settings.toLiveSimSettings store cancelIntentId readings = way
      rcases cancel_queuesIntent isWay with rfl | ⟨_, _, _, _, _, queues⟩
      · exact QueueWay.cutAfter_nothing_iff _ store _ _ count cutOff
      · exact queues.cut_iff fresh count cutOff
  | order liveSimIntentId readings callerTransaction =>
      exact order_cut_iff host settings store liveSimIntentId readings callerTransaction fresh
        count cutOff

/-! ## An exit that is cut off after its command -/

/-- A position with an exit intent that is not queued yet. -/
def exitCreated : LiveSimStore :=
  (tradingSystem sampleLiveSimHost sampleLiveSimSettings).run twoBuyOrders
    (buyFill "1001" "e1" 10 "1" :: (exitSteps "signal-1" "exit-1" "command-3").take 2)

def queuesExit : QueueCall :=
  .exit "exit-1" (exitReadings "command-3" [])

def exitCutOff : LiveSimStore :=
  (Session.start exitCreated).cutAfter
    (queuesExit.statements sampleLiveSimHost sampleBuySettings exitCreated) 2 .crashed

def exitRecord (store : LiveSimStore) : Option (ExitIntentStatus × Option String × String) :=
  (store.live.exitIntents.find? "exit-1").map fun intent =>
    (intent.status, intent.gatewayCommandId, intent.idempotencyKey)

theorem unrecorded_of_exitRecord {status : ExitIntentStatus}
    (record : exitRecord store = some (status, none, key)) :
    queuesExit.idempotencyKey store.live = some key ∧
      ∀ commandId, ¬ IsRecorded store.live queuesExit commandId := by
  rw [exitRecord, Option.map_eq_some_iff] at record
  rcases record with ⟨intent, found, same⟩
  simp only [Prod.mk.injEq] at same
  rcases same with ⟨_, unqueued, rfl⟩
  refine ⟨exit_key found, ?_⟩
  rintro commandId ⟨other, isOther, _, isCommand, _⟩
  rw [found, Option.some.injEq] at isOther
  subst isOther
  rw [unqueued] at isCommand
  cases isCommand

theorem exitCreated_record :
    exitCreated.gateway.commands.rows = [] ∧
      exitRecord exitCreated = some (.created, none, "live_sim_exit:position-1:signal-1:STOP_LOSS") := by
  decide +kernel

theorem exitCutOff_record :
    (exitCutOff.gateway.commands.find? "command-3").map
        (fun row => (row.status, row.commandType, row.idempotencyKey)) =
      some ("QUEUED", "send_order", some "live_sim_exit:position-1:signal-1:STOP_LOSS") ∧
      exitRecord exitCutOff = some (.created, none, "live_sim_exit:position-1:signal-1:STOP_LOSS") := by
  decide +kernel

theorem exitCreated_queuedTogether : QueuedTogether queuesExit exitCreated := by
  rcases exitCreated_record with ⟨noCommand, record⟩
  rcases unrecorded_of_exitRecord record with ⟨isKey, unrecorded⟩
  rw [queuedTogether_of_unrecorded isKey fun id _ => unrecorded id]
  rintro commandId _ ⟨row, found, _⟩
  have present := Table.mem_of_find? found
  cases present

/-- The command waits, and no row speaks of it. -/
theorem crash_strands_exit_command :
    QueuedTogether queuesExit exitCreated ∧
      ¬ QueuedTogether queuesExit ((Session.start exitCreated).cutAfter
        (queuesExit.statements sampleLiveSimHost sampleBuySettings exitCreated) 2 .crashed) := by
  refine ⟨exitCreated_queuedTogether, ?_⟩
  rw [← exitCutOff]
  rcases exitCutOff_record with ⟨waits, record⟩
  rcases unrecorded_of_exitRecord record with ⟨isKey, unrecorded⟩
  rw [queuedTogether_of_unrecorded isKey fun id _ => unrecorded id]
  intro none
  rw [Option.map_eq_some_iff] at waits
  rcases waits with ⟨row, found, same⟩
  simp only [Prod.mk.injEq] at same
  rcases same with ⟨queued, ofType, ofKey⟩
  have stripped : Text.strip "live_sim_exit:position-1:signal-1:STOP_LOSS" =
      "live_sim_exit:position-1:signal-1:STOP_LOSS" := by decide +kernel
  exact none "command-3" (by decide)
    ⟨row, found, queued, Or.inl ofType, by rw [ofKey, stripped]⟩

theorem crash_before_commit_is_whole :
    QueuedTogether queuesExit ((Session.start exitCreated).cutAfter
      (queuesExit.statements sampleLiveSimHost sampleBuySettings exitCreated) 1 .crashed) := by
  refine (queuedTogether_after_cut_iff sampleLiveSimHost sampleBuySettings exitCreated queuesExit
    (by decide +kernel) 1 .crashed).mpr ?_
  dsimp only [CutsWhole, queuesExit]
  have law := exitCreated_queuedTogether
  rw [queuesExit] at law
  cases exitWay sampleLiveSimHost sampleBuySettings.toLiveSimSettings exitCreated "exit-1"
      (exitReadings "command-3" []) with
  | nothing => exact law
  | refuses first => exact law
  | sends gateway rows => exact ⟨law, fun kept some => nomatch some⟩

end SuseokTrader
