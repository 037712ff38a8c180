import SuseokTrader.Lib.Run
import SuseokTrader.Lib.Table
import SuseokTrader.Lib.Text

/-!
# The TR runner

A TR request waits under the key of its screen, its name and its code until a
response is found for it or its timer fires. The broker may answer while the
request is still being handed over, and whoever waits for a result may submit
the next page at once, so handing over is two steps here.
-/

namespace SuseokTrader

/-! ## Results -/

structure TrResponseMeta where
  screenNo : String
  rqName : String
  trCode : String
  recordName : String
  prevNext : String
  errorCode : String
  message : String
  splmMsg : String
deriving DecidableEq

abbrev TrRow := List (String × String)

structure TrPage where
  header : TrResponseMeta
  rows : List TrRow
deriving DecidableEq

structure TrRequestResult where
  requestId : String
  trCode : String
  requestName : String
  pages : List TrPage
  requestCount : Nat
  warnings : List String
  errors : List String
deriving DecidableEq

def defaultTrFields (trCode : String) : List String :=
  if trCode = "OPT10001" then
    ["종목코드", "종목명", "현재가", "등락율", "거래량", "거래대금", "시가", "고가", "저가", "상장주식"]
  else []

inductive RowMode where
  | auto
  | single
  | multi
deriving DecidableEq

def RowMode.ofText (text : String) : Option RowMode :=
  if text = "auto" then some auto
  else if text = "single" then some single
  else if text = "multi" then some multi
  else none

/-! ## Rows -/

/-- What the control answers while a response is in hand; `none` is an exception. -/
structure TrData where
  repeatCount : String → String → Option Int
  commData : String → String → Int → String → Option String

namespace TrData

def dedupe (values : List String) : List String :=
  (values.filter (· ≠ "")).eraseDups

def safeGetCommData (data : TrData) (trCode recordName : String) (index : Int)
    (fieldName : String) : String :=
  ((data.commData trCode recordName index fieldName).map Text.strip).getD ""

def firstRepeated (data : TrData) (trCode : String) : List String → Option (String × Int)
  | [] => none
  | recordName :: others =>
      match data.repeatCount trCode recordName with
      | some count =>
          if 0 < count then some (recordName, count) else data.firstRepeated trCode others
      | none => data.firstRepeated trCode others

def rowAt (data : TrData) (trCode recordName : String) (index : Int) (fields : List String) :
    TrRow :=
  fields.eraseDups.map fun fieldName =>
    (fieldName, data.safeGetCommData trCode recordName index fieldName)

def extractSingleRow (data : TrData) (trCode : String) (recordNames fields : List String) :
    Option TrRow :=
  (recordNames.map fun recordName => data.rowAt trCode recordName 0 fields).find? fun row =>
    row.any (·.2 ≠ "")

/-- The rows of a response, and a warning. -/
def extractRows (data : TrData) (result : TrRequestResult) (header : TrResponseMeta)
    (fields : List String) (rowMode : RowMode) (outputRecordName : String) :
    List TrRow × Option String :=
  let trCode := if header.trCode = "" then result.trCode else header.trCode
  let recordNames := dedupe
    [outputRecordName, header.recordName, header.rqName, result.requestName, result.trCode]
  let pageEmpty := "TR_PAGE_EMPTY:" ++ result.trCode ++ ":" ++ result.requestName
  if fields = [] then
    ([], some ("TR_FIELDS_EMPTY:" ++ result.trCode ++ ":" ++ result.requestName))
  else if rowMode = .single then
    match data.extractSingleRow trCode recordNames fields with
    | some row => ([row], some ("TR_SINGLE_ROW_EXPLICIT:" ++ result.trCode))
    | none => ([], some pageEmpty)
  else
    match data.firstRepeated trCode recordNames with
    | some (recordName, count) =>
        ((List.range count.toNat).map fun index => data.rowAt trCode recordName index fields,
          none)
    | none =>
        if rowMode = .multi then ([], some ("TR_MULTI_ROW_EMPTY:" ++ result.trCode))
        else
          match data.extractSingleRow trCode recordNames fields with
          | some row => ([row], some ("TR_SINGLE_ROW_FALLBACK:" ++ result.trCode))
          | none => ([], some pageEmpty)

end TrData

/-! ## The runner -/

structure TrRequest where
  requestId : String
  trCode : String
  requestName : String
  params : List (String × String)
  continuationKey : String
  fields : List String
  screenNo : String
  rowMode : String
  outputRecordName : String
  scheduleTimeout : Bool

structure PendingTr where
  key : String
  submission : Nat
  fields : List String
  trCode : String
  requestName : String
  screenNo : String
  rowMode : RowMode
  outputRecordName : String

instance : Keyed PendingTr String := ⟨PendingTr.key⟩

/-- Why `on_complete` was called: for the rows of a response, which answers a submission or none,
or for a timeout. -/
inductive TrCause where
  | response (answers : Option Nat) (page : TrPage)
  | timeout
deriving DecidableEq

structure TrCompletion where
  completedAt : Nat
  cause : TrCause
deriving DecidableEq

/-- A submission, and the calls of its `on_complete`. The code is there once `comm_rq_data` has
returned. -/
structure TrSubmission where
  key : String
  result : TrRequestResult
  submittedAt : Nat
  requestCode : Option Int
  scheduleTimeout : Bool
  cancelled : Bool
  completions : List TrCompletion
deriving DecidableEq

structure TrTimer where
  key : String
  dueAt : Nat
  submission : Nat

structure TrRunner where
  now : Nat
  pending : Table PendingTr
  timers : List TrTimer
  submissions : Nat → Option TrSubmission
  count : Nat

structure CommRqData where
  inputValues : List (String × String)
  requestName : String
  trCode : String
  prevNext : Int
  screenNo : String

def orDefault (text default : String) : String :=
  if text = "" then default else text

def pendingKey (screenNo requestName trCode : String) : String :=
  screenNo ++ "|" ++ requestName ++ "|" ++ Text.upper trCode

namespace TrRunner

def initial : TrRunner where
  now := 0
  pending := Table.empty
  timers := []
  submissions _ := none
  count := 0

variable (runner : TrRunner)

def setSubmission (id : Nat) (submission : TrSubmission) : TrRunner :=
  { runner with submissions := Function.update runner.submissions id (some submission) }

/-- `_pending_requests.pop(key, None)` -/
def pop (key : String) : TrRunner :=
  { runner with pending := runner.pending.deleteWhere fun pending => pending.key = key }

/-- A submission up to the call of `comm_rq_data`. -/
def submit (request : TrRequest) : TrRunner × Option CommRqData :=
  let trCode := Text.upper request.trCode
  let requestName := orDefault request.requestName (orDefault trCode "KIWOOM_TR")
  let screenNo := orDefault request.screenNo "8700"
  let result : TrRequestResult := ⟨request.requestId, trCode, requestName, [], 0, [], []⟩
  let fields := if request.fields = [] then defaultTrFields trCode else request.fields
  let rowMode := Text.lower (Text.strip (orDefault request.rowMode "auto"))
  let runner := { runner with count := runner.count + 1 }
  let id := runner.count - 1
  match RowMode.ofText rowMode with
  | none =>
      (runner.setSubmission id
        { key := ""
          result := { result with errors := ["TR_ROW_MODE_INVALID:" ++ rowMode] }
          submittedAt := runner.now
          requestCode := some (-1)
          scheduleTimeout := request.scheduleTimeout
          cancelled := false
          completions := [] }, none)
  | some rowMode =>
      let key := pendingKey screenNo requestName trCode
      let submitted := runner.setSubmission id
        { key := key
          result := result
          submittedAt := runner.now
          requestCode := none
          scheduleTimeout := request.scheduleTimeout
          cancelled := false
          completions := [] }
      ({ submitted with
        pending := runner.pending.upsert
          { key := key
            submission := id
            fields := fields
            trCode := trCode
            requestName := requestName
            screenNo := screenNo
            rowMode := rowMode
            outputRecordName := Text.strip request.outputRecordName } },
        some
          { inputValues := request.params
            requestName := requestName
            trCode := trCode
            prevNext := if Text.strip request.continuationKey = "2" then 2 else 0
            screenNo := screenNo })

def timeoutMs (timeoutSec : ℚ) : Nat :=
  max (timeoutSec * 1000).floor.toNat 1

/-- The rest of a submission, once `comm_rq_data` has returned. -/
def returned (timeoutSec : ℚ) (runner : TrRunner) (id : Nat) (requestCode : Int) : TrRunner :=
  match runner.submissions id with
  | none => runner
  | some submission =>
      if submission.requestCode.isSome then runner
      else
        let result := { submission.result with
          requestCount := submission.result.requestCount + 1 }
        if requestCode < 0 then
          let message := "TR_REQUEST_FAILED:" ++ result.trCode ++ ":" ++ toString requestCode
          (runner.setSubmission id { submission with
            requestCode := some requestCode
            result := { result with errors := result.errors ++ [message] } }).pop submission.key
        else
          let accepted := runner.setSubmission id { submission with
            requestCode := some requestCode
            result := result }
          if (runner.pending.find? submission.key).isSome && submission.scheduleTimeout then
            { accepted with
              timers := ⟨submission.key, runner.now + timeoutMs timeoutSec, id⟩ :: runner.timers }
          else accepted

def cancel (id : Nat) : TrRunner :=
  match runner.submissions id with
  | none => runner
  | some submission =>
      (runner.setSubmission id { submission with cancelled := true }).pop submission.key

def findPending (header : TrResponseMeta) : Option PendingTr :=
  match runner.pending.find? (pendingKey header.screenNo header.rqName header.trCode) with
  | some pending => some pending
  | none => runner.pending.rows.find? fun pending => pending.requestName = header.rqName

/-- `on_complete` is called with the result. -/
def complete (id : Nat) (change : TrRequestResult → TrRequestResult)
    (cause : TrCause) : TrRunner :=
  match runner.submissions id with
  | none => runner
  | some submission => runner.setSubmission id { submission with
      result := change submission.result
      completions := ⟨runner.now, cause⟩ :: submission.completions }

def handleTrData (answers : Option Nat) (header : TrResponseMeta)
    (data : TrData) : TrRunner :=
  match runner.findPending header with
  | none => runner
  | some pending =>
      match runner.submissions pending.submission with
      | none => runner
      | some submission =>
          let (rows, warning) := data.extractRows submission.result header pending.fields
            pending.rowMode pending.outputRecordName
          let page : TrPage := ⟨header, rows⟩
          (runner.pop pending.key).complete pending.submission
            (fun result => { result with
              pages := result.pages ++ [page]
              warnings := result.warnings ++ warning.toList })
            (.response answers page)

def timeoutRequest (key : String) : TrRunner :=
  match runner.pending.find? key with
  | none => runner
  | some pending =>
      (runner.pop key).complete pending.submission
        (fun result => { result with
          errors := result.errors ++
            ["TR_TIMEOUT:" ++ result.trCode ++ ":" ++ result.requestName] })
        .timeout

def fire (index : Nat) : TrRunner :=
  match runner.timers[index]? with
  | none => runner
  | some timer =>
      if timer.dueAt ≤ runner.now then
        ({ runner with timers := runner.timers.eraseIdx index }).timeoutRequest timer.key
      else runner

end TrRunner

/-! ## The system -/

inductive TrOp where
  | submit (request : TrRequest)
  | returned (id : Nat) (requestCode : Int)
  | cancel (id : Nat)
  | respond (answers : Option Nat) (header : TrResponseMeta) (data : TrData)
  | fire (index : Nat)
  | wait (milliseconds : Nat)

def trSystem (timeoutSec : ℚ) : System TrRunner TrOp (Option CommRqData) where
  step runner
    | .submit request => runner.submit request
    | .returned id requestCode => (runner.returned timeoutSec id requestCode, none)
    | .cancel id => (runner.cancel id, none)
    | .respond answers header data => (runner.handleTrData answers header data, none)
    | .fire index => (runner.fire index, none)
    | .wait milliseconds => ({ runner with now := runner.now + milliseconds }, none)

end SuseokTrader
