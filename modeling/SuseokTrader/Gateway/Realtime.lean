import SuseokTrader.Gateway.KiwoomChejan
import SuseokTrader.Lib.Run

/-!
# Realtime registrations

The runtime keeps the stock codes it has registered, and the client keeps the
codes of each screen, with the suffix of the exchange they are registered at.
Registrations go to the broker in chunks of a hundred, each of which it may
refuse.
-/

namespace SuseokTrader

/-! ## Codes -/

inductive RealtimeExchange where
  | krx
  | nxt
  | all
deriving DecidableEq

def RealtimeExchange.suffix : RealtimeExchange → String
  | krx => ""
  | nxt => "_NX"
  | all => "_AL"

def normalizeRealtimeExchange (value : String) : Checked RealtimeExchange :=
  let text := Text.upper (Text.strip (if value = "" then "KRX" else value))
  if text ∈ ["", "K", "KRX"] then .ok .krx
  else if text ∈ ["N", "NX", "NXT"] then .ok .nxt
  else if text ∈ ["A", "AL", "ALL", "SOR", "INTEGRATED"] then .ok .all
  else Checked.invalid ("unsupported realtime exchange: " ++ value)

structure KiwoomRealtimeCode where
  baseCode : StockCode
  exchange : RealtimeExchange
deriving DecidableEq

def KiwoomRealtimeCode.kiwoomCode (code : KiwoomRealtimeCode) : String :=
  code.baseCode.val ++ code.exchange.suffix

def splitExchange (text : String) : String × RealtimeExchange :=
  match text.toList.reverse with
  | 'X' :: 'N' :: '_' :: rest => (String.ofList rest.reverse, .nxt)
  | 'L' :: 'A' :: '_' :: rest => (String.ofList rest.reverse, .all)
  | 'R' :: 'K' :: '_' :: rest => (String.ofList rest.reverse, .krx)
  | _ => (text, .krx)

def parseKiwoomRealtimeCode (value : String) : Checked KiwoomRealtimeCode := do
  let (text, exchange) := splitExchange (Text.upper (Text.strip value))
  let baseCode ← stockCode text
  return ⟨baseCode, exchange⟩

inductive MarketIndex where
  | kospi
  | kosdaq
deriving DecidableEq

def kiwoomMarketIndex (value : String) : Checked MarketIndex :=
  let text := Text.upper (Text.strip value)
  if text = "KOSPI" ∨ text = "001" then .ok .kospi
  else if text = "KOSDAQ" ∨ text = "101" then .ok .kosdaq
  else if text = "KOSPI200" then
    Checked.invalid ("Kiwoom market index code mapping is not configured: " ++ text)
  else Checked.invalid "index_code must be one of: KOSDAQ, KOSPI, KOSPI200"

/-! ## The client -/

inductive RealtimeFailure where
  | invalid (failure : Failure)
  | setRealReg (resultCode : Int)
  | maxTotalExceeded (projected maxTotal : Nat)

structure KiwoomClient where
  screenCodes : Finset (String × KiwoomRealtimeCode)
  indexScreenCodes : Finset (String × MarketIndex)
  indexCodes : Finset MarketIndex
deriving DecidableEq

def realtimeChunkSize : Nat := 100

def chunkScreen (screenNo : Option String) (chunk : Nat) : String :=
  match screenNo with
  | some screenNo => if screenNo = "" then toString (5000 + chunk) else screenNo
  | none => toString (5000 + chunk)

def chunkCodes (codes : List KiwoomRealtimeCode) (screenNo : Option String) (chunk : Nat) :
    List (String × KiwoomRealtimeCode) :=
  ((codes.drop (realtimeChunkSize * chunk)).take realtimeChunkSize).map
    (chunkScreen screenNo chunk, ·)

def chunkCount (codes : List KiwoomRealtimeCode) : Nat :=
  (codes.length + (realtimeChunkSize - 1)) / realtimeChunkSize

/-- The chunks go to `SetRealReg` one after the other, until it refuses one. -/
def registerChunks (codes : List KiwoomRealtimeCode) (screenNo : Option String)
    (results : Nat → Int) :
    List Nat → Finset (String × KiwoomRealtimeCode) →
      Finset (String × KiwoomRealtimeCode) × Option RealtimeFailure
  | [], screenCodes => (screenCodes, none)
  | chunk :: chunks, screenCodes =>
      if results chunk < 0 then (screenCodes, some (.setRealReg (results chunk)))
      else registerChunks codes screenNo results chunks
        (screenCodes ∪ (chunkCodes codes screenNo chunk).toFinset)

namespace KiwoomClient

variable (client : KiwoomClient)

def registerRealtime (codes : List String) (screenNo : Option String)
    (results : Nat → Int) : KiwoomClient × Option RealtimeFailure :=
  match (codes.filter fun code => Text.strip code ≠ "").mapM parseKiwoomRealtimeCode with
  | .error failure => (client, some (.invalid failure))
  | .ok codes =>
      let (screenCodes, failure) := registerChunks codes screenNo results
        (List.range (chunkCount codes)) client.screenCodes
      ({ client with screenCodes := screenCodes }, failure)

def targetScreen (screenNo : Option String) : String :=
  match screenNo with
  | some screenNo => if screenNo = "" then "ALL" else screenNo
  | none => "ALL"

def discard (screenNo : Option String) (code : StockCode) : KiwoomClient :=
  let target := targetScreen screenNo
  { client with
    screenCodes := client.screenCodes.filter fun placed =>
      ¬ ((target = "ALL" ∨ placed.1 = target) ∧ placed.2.kiwoomCode = code.val) }

def removeRealtime (codes : List StockCode) (screenNo : Option String) :
    KiwoomClient :=
  codes.foldl (fun client code => client.discard screenNo code) client

def removeAllRealtime (_ : KiwoomClient) : KiwoomClient :=
  ⟨∅, ∅, ∅⟩

def registerMarketIndexRealtime (codes : List String) (screenNo : String)
    (result : Int) : KiwoomClient × Except RealtimeFailure (List MarketIndex) :=
  match (codes.filter fun code => Text.strip code ≠ "").mapM kiwoomMarketIndex with
  | .error failure => (client, .error (.invalid failure))
  | .ok [] => (client, .ok [])
  | .ok codes =>
      if result < 0 then (client, .error (.setRealReg result))
      else
        ({ client with
          indexScreenCodes := client.indexScreenCodes ∪ (codes.map (screenNo, ·)).toFinset
          indexCodes := client.indexCodes ∪ codes.toFinset }, .ok codes)

end KiwoomClient

/-! ## The runtime -/

structure RealtimeConfig where
  realtimeExchange : String
  realtimeMaxTotal : Nat
  marketIndexScreenNo : String

structure RealtimeState where
  registeredCodes : Finset StockCode
  registeredIndices : Finset MarketIndex
  client : KiwoomClient
deriving DecidableEq

def orderedUniqueCodes (codes : List String) : Checked (List StockCode) := do
  let codes ← (codes.filter fun code => Text.strip code ≠ "").mapM stockCode
  return codes.eraseDups

namespace RealtimeState

variable (config : RealtimeConfig)

variable (state : RealtimeState)

/-- The codes that a call registers: with `force` all of them, else the new ones within the
budget. -/
def plannedCodes (codes : List StockCode)
    (force : Bool) : List StockCode :=
  if force then codes
  else (codes.filter (· ∉ state.registeredCodes)).take
    (config.realtimeMaxTotal - state.registeredCodes.card)

variable (codes : List String)

def registerRealtimeCodes
    (force : Bool) (results : Nat → Int) : RealtimeState × Option RealtimeFailure :=
  match orderedUniqueCodes codes with
  | .error failure => (state, some (.invalid failure))
  | .ok codes =>
      match state.plannedCodes config codes force with
      | [] => (state, none)
      | planned =>
          match normalizeRealtimeExchange config.realtimeExchange with
          | .error failure => (state, some (.invalid failure))
          | .ok exchange =>
              let kiwoomCodes := planned.map fun code =>
                (KiwoomRealtimeCode.mk code exchange).kiwoomCode
              match state.client.registerRealtime kiwoomCodes none results with
              | (client, some failure) => ({ state with client := client }, some failure)
              | (client, none) =>
                  ({ state with
                    registeredCodes := state.registeredCodes ∪ planned.toFinset
                    client := client }, none)

variable (order : List StockCode)

def commandCodes : Checked (List StockCode) := do
  let codes ← orderedUniqueCodes codes
  return if order.Perm codes then order else codes

def registerCommand (screenNo : Option String) (results : Nat → Int) :
    RealtimeState × Option RealtimeFailure :=
  match commandCodes codes order with
  | .error failure => (state, some (.invalid failure))
  | .ok codes =>
      let projected := (state.registeredCodes ∪ codes.toFinset).card
      if config.realtimeMaxTotal < projected then
        (state, some (.maxTotalExceeded projected config.realtimeMaxTotal))
      else
        match state.client.registerRealtime (codes.map Subtype.val) screenNo results with
        | (client, some failure) => ({ state with client := client }, some failure)
        | (client, none) =>
            ({ state with
              registeredCodes := state.registeredCodes ∪ codes.toFinset
              client := client }, none)

def removeCommand (screenNo : Option String) : RealtimeState × Option RealtimeFailure :=
  match commandCodes codes order with
  | .error failure => (state, some (.invalid failure))
  | .ok codes =>
      ({ state with
        registeredCodes := state.registeredCodes \ codes.toFinset
        client := state.client.removeRealtime codes screenNo }, none)

def registerMarketIndices (result : Int) : RealtimeState × Option RealtimeFailure :=
  let screenNo := if config.marketIndexScreenNo = "" then "5700" else config.marketIndexScreenNo
  match state.client.registerMarketIndexRealtime codes screenNo result with
  | (client, .error failure) => ({ state with client := client }, some failure)
  | (client, .ok codes) =>
      ({ state with
        registeredIndices := state.registeredIndices ∪ codes.toFinset
        client := client }, none)

abbrev codesInOrder : List StockCode :=
  state.registeredCodes.sort (· ≤ ·)

def recoverRealtime (results : Nat → Int) :
    RealtimeState × Option RealtimeFailure :=
  if state.registeredCodes = ∅ then (state, none)
  else
    let codes := state.registeredCodes.sort (· ≤ ·)
    registerRealtimeCodes config { state with client := state.client.removeAllRealtime }
      (codes.map Subtype.val) true results

def initial : RealtimeState where
  registeredCodes := ∅
  registeredIndices := ∅
  client := ⟨∅, ∅, ∅⟩

end RealtimeState

/-! ## The system -/

/-- What may happen to the registrations, with the results of `SetRealReg` for each chunk. -/
inductive RealtimeOp where
  | registerCodes (codes : List String) (force : Bool) (results : Nat → Int)
  | registerCommand (codes : List String) (order : List StockCode) (screenNo : Option String)
      (results : Nat → Int)
  | removeCommand (codes : List String) (order : List StockCode) (screenNo : Option String)
  | registerMarketIndices (codes : List String) (result : Int)
  | recover (results : Nat → Int)

def realtimeSystem (config : RealtimeConfig) :
    System RealtimeState RealtimeOp (Option RealtimeFailure) where
  step state
    | .registerCodes codes force results =>
        state.registerRealtimeCodes config codes force results
    | .registerCommand codes order screenNo results =>
        state.registerCommand config codes order screenNo results
    | .removeCommand codes order screenNo => state.removeCommand codes order screenNo
    | .registerMarketIndices codes result => state.registerMarketIndices config codes result
    | .recover results => state.recoverRealtime config results

end SuseokTrader
