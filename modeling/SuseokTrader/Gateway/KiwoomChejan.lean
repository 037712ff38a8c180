import SuseokTrader.Market.Ticks

/-!
# Conclusion notices of the broker

The broker calls back for every change of an order, with its fields as texts.
The gateway reads one notice event from them, and for a fill an execution event
as well.
-/

namespace SuseokTrader

/-! ## Texts of a callback -/

structure OrderCallback where
  itemCount : Int
  requestedFids : List Int
  rawFids : List (String × String)
  now : Instant

variable (callback : OrderCallback)

def OrderCallback.raw : List (String × String) :=
  callback.rawFids.map fun (fid, value) => (fid, Text.strip value)

def OrderCallback.text (fid : Nat) : String :=
  Text.strip ((callback.raw.lookup (toString fid)).getD "")

/-- The size of the number in a text; a text that is no number counts as zero. -/
def parseFidInt (host : Host) (value : String) : Checked Nat :=
  match String.ofList ((Text.strip value).toList.filter fun c => c ≠ ',' ∧ c ≠ '+') with
  | "" => .ok 0
  | text =>
      match host.float text with
      | some (.finite value) => .ok (Json.truncate value).natAbs
      | some .posInf | some .negInf =>
          .error (.crash "cannot convert float infinity to integer")
      | some .nan | none => .ok 0

def isDigitChar (c : Char) : Bool :=
  (decimalValue c).isSome

def zeroFill (length : Nat) (digits : List Char) : List Char :=
  List.replicate (length - digits.length) '0' ++ digits

/-- The last six digits of a code. -/
def normalizeCode (value : String) : Checked String :=
  let text := Text.upper (Text.strip value)
  let text := match text.toList with
    | 'A' :: rest => if rest.length = 6 then rest else 'A' :: rest
    | other => other
  match text.filter isDigitChar with
  | [] => validateStockCode (.str (String.ofList text))
  | digits => .ok (String.ofList (zeroFill 6 (digits.drop (digits.length - 6))))

theorem digit_apart {c : Char} (isDigit : isDigitChar c = true) :
    Text.isSpace c = false ∧ c.toUpper = c ∧ c ≠ 'A' := by
  have zeros : ∀ first ∈ decimalZeros, first = 0x30 ∨ 0x660 ≤ first := by decide
  have spaces : ∀ first ∈ decimalZeros, first + 10 ≤ 0x85 ∨ 0xa1 ≤ first ∧
      (first + 10 ≤ 0x1680 ∨ 0x1681 ≤ first ∧
        (first + 10 ≤ 0x2000 ∨ 0x3001 ≤ first)) := by decide
  rw [isDigitChar, decimalValue, Option.isSome_map, List.find?_isSome] at isDigit
  rcases isDigit with ⟨first, isZero, within⟩
  rw [Bool.and_eq_true, decide_eq_true_eq, decide_eq_true_eq] at within
  have zero := zeros first isZero
  have space := spaces first isZero
  refine ⟨?_, ?_, ?_⟩
  · simp only [Text.isSpace, Bool.or_eq_false_iff, Bool.and_eq_false_iff, decide_eq_false_iff_not]
    omega
  · rw [Char.toUpper, dif_neg]
    rintro ⟨low, high⟩
    have low : 97 ≤ c.toNat := UInt32.le_iff_toNat_le.mp low
    have high : c.toNat ≤ 122 := UInt32.le_iff_toNat_le.mp high
    omega
  · rintro rfl
    have letter : 'A'.toNat = 65 := rfl
    omega

theorem zeroFill_digits {digits : List Char} (areDigits : ∀ c ∈ digits, isDigitChar c = true)
    (length : Nat) : ∀ c ∈ zeroFill length digits, isDigitChar c = true := by
  intro c present
  rcases List.mem_append.mp present with zero | digit
  · rw [List.eq_of_mem_replicate zero]
    decide
  · exact areDigits c digit

theorem normalizeCode_digits {digits : List Char} (areDigits : ∀ c ∈ digits, isDigitChar c = true)
    (six : digits.length = 6) :
    normalizeCode (String.ofList digits) = .ok (String.ofList digits) := by
  have stripped : Text.strip (String.ofList digits) = String.ofList digits := by
    refine Text.strip_eq_self ?_
    intro c present
    rw [String.toList_ofList] at present
    exact (digit_apart (areDigits c present)).1
  have raised : Text.upper (String.ofList digits) = String.ofList digits := by
    rw [Text.upper, String.toList_ofList]
    have same : digits.map Char.toUpper = digits.map id :=
      List.map_congr_left fun c present => (digit_apart (areDigits c present)).2.1
    rw [same, List.map_id]
  have kept : digits.filter isDigitChar = digits := List.filter_eq_self.mpr areDigits
  rw [normalizeCode, stripped, raised, String.toList_ofList]
  rcases digits with _ | ⟨first, rest⟩
  · cases six
  · have notLetter : first ≠ 'A' := (digit_apart (areDigits first List.mem_cons_self)).2.2
    have asItStands : (match first :: rest with
        | 'A' :: rest => if rest.length = 6 then rest else 'A' :: rest
        | other => other) = first :: rest := by
      split
      · next same => exact absurd (List.cons.inj same).1 notLetter
      · rfl
    rw [asItStands, kept]
    dsimp only
    rw [six, List.drop_zero, zeroFill, six, List.replicate_zero, List.nil_append]

theorem sixDigits_of_ok {text code message : String}
    (valid : (if text.toList.length = 6 ∧ text.toList.all fun c => (decimalValue c).isSome
      then .ok text else Checked.invalid message) = Except.ok code) :
    code.toList.length = 6 ∧ ∀ c ∈ code.toList, isDigitChar c = true := by
  split at valid
  · next sixDigits =>
      cases valid
      exact ⟨sixDigits.1, List.all_eq_true.mp sixDigits.2⟩
  · cases valid

theorem validateStockCode_digits {value : Json} {code : String}
    (valid : validateStockCode value = .ok code) :
    code.toList.length = 6 ∧ ∀ c ∈ code.toList, isDigitChar c = true := by
  rw [validateStockCode, Checked.bind_eq_ok] at valid
  rcases valid with ⟨text, -, valid⟩
  exact sixDigits_of_ok valid

theorem digits_of_normalizeCode {value code : String} (normal : normalizeCode value = .ok code) :
    code.toList.length = 6 ∧ ∀ c ∈ code.toList, isDigitChar c = true := by
  rw [normalizeCode] at normal
  generalize (match (Text.upper (Text.strip value)).toList with
    | 'A' :: rest => if rest.length = 6 then rest else 'A' :: rest
    | other => other) = text at normal
  have areDigits : ∀ c ∈ text.filter isDigitChar, isDigitChar c = true :=
    fun c present => (List.mem_filter.mp present).2
  split at normal
  · exact validateStockCode_digits normal
  · cases normal
    rw [String.toList_ofList]
    constructor
    · rw [zeroFill, List.length_append, List.length_replicate, List.length_drop]
      omega
    · apply zeroFill_digits
      intro c present
      exact areDigits c (List.mem_of_mem_drop present)

theorem normalizeCode_normal {value code : String} (normal : normalizeCode value = .ok code) :
    normalizeCode code = .ok code := by
  rcases digits_of_normalizeCode normal with ⟨six, areDigits⟩
  have same := normalizeCode_digits areDigits six
  rwa [String.ofList_toList] at same

abbrev StockCode := {code : String // normalizeCode code = .ok code}

def stockCode (value : String) : Checked StockCode :=
  match normal : normalizeCode value with
  | .ok code => .ok ⟨code, normalizeCode_normal normal⟩
  | .error failure => .error failure

def normalizeOrderSide (sideCode orderGubun : String) : String :=
  let text := Text.upper (sideCode ++ " " ++ orderGubun)
  if Text.strip sideCode = "2" ∨ Text.contains text "매수" ∨ Text.contains text "BUY" then "BUY"
  else if Text.strip sideCode = "1" ∨ Text.contains text "매도" ∨ Text.contains text "SELL" then
    "SELL"
  else ""

/-! ## Times -/

def digitsValue (digits : List Char) : Nat :=
  digits.foldl (fun value digit => value * 10 + (decimalValue digit).getD 0) 0

/-- A time of day of the market, on the day of the clock. -/
def parseKiwoomTradeTime (now : Instant) (digits : List Char) : Checked Instant :=
  let padded := zeroFill 6 digits
  let hour := digitsValue (padded.take 2)
  let minute := digitsValue ((padded.drop 2).take 2)
  let second := digitsValue ((padded.drop 4).take 2)
  if 23 < hour then Checked.invalid "hour must be in 0..23"
  else if 59 < minute then Checked.invalid "minute must be in 0..59"
  else if 59 < second then Checked.invalid "second must be in 0..59"
  else
    let offset := 9 * 3600 * Time.microsPerSecond
    let day := (now + offset) / Time.microsPerDay * Time.microsPerDay
    .ok (day + (hour * 3600 + minute * 60 + second : Nat) * Time.microsPerSecond - offset)

def kiwoomEventTimestamp (now : Instant) (value : String) : Checked String :=
  let digits := (Text.strip value).toList
  if digits.all isDigitChar ∧ 1 ≤ digits.length ∧ digits.length ≤ 6 then do
    let time ← parseKiwoomTradeTime now digits
    return datetimeToWire time
  else .ok (datetimeToWire now)

/-! ## The notice -/

inductive OrderEventKind where
  | orderFill
  | orderStatusSnapshot
  | orderRejected
  | orderCancelled
deriving DecidableEq

def OrderEventKind.value : OrderEventKind → String
  | orderFill => "order_fill"
  | orderStatusSnapshot => "order_status_snapshot"
  | orderRejected => "order_rejected"
  | orderCancelled => "order_cancelled"

structure OrderChejan where
  callback : OrderCallback
  code : String
  code_normal : code ≠ "" → normalizeCode code = .ok code
  executionPrice : Nat
  executionQuantity : Nat
  orderQuantity : Nat
  orderPrice : Nat
  remainingQuantity : Nat
  timestamp : String

def rawObject (raw : List (String × String)) : Json :=
  .obj (raw.map fun (fid, value) => (fid, .str value))

def chejanCommon : Payload :=
  [("gubun", .str "0"), ("item_count", .int callback.itemCount),
    ("requested_fids", .arr (callback.requestedFids.map .int)),
    ("raw_fids", rawObject callback.raw), ("source", .str "KIWOOM_CHEJAN"),
    ("parser_version", .str "kiwoom_chejan_v2_adapter"),
    ("parsed_at", .str (datetimeToWire callback.now))]

/-- `first or second` of numbers -/
def natOr (first second : Nat) : Nat :=
  if first = 0 then second else first

def orderEventKind (executionQuantity executionPrice : Nat) (orderStatus rejectReason : String) :
    OrderEventKind :=
  if Text.contains orderStatus "거부" ∨ Text.contains orderStatus "거절" ∨
      rejectReason.toList.any (fun c => c ≠ '0' ∧ c ≠ ' ') then .orderRejected
  else if Text.contains orderStatus "취소" then .orderCancelled
  else if (0 < executionQuantity ∧ 0 < executionPrice) ∨ Text.contains orderStatus "체결" then
    .orderFill
  else .orderStatusSnapshot

def chejanCode (text : String) :
    Checked {code : String // code ≠ "" → normalizeCode code = .ok code} :=
  if text = "" then .ok ⟨"", fun nonempty => absurd rfl nonempty⟩
  else do
    let code ← stockCode text
    return ⟨code.val, fun _ => code.property⟩

def parseOrderChejan (host : Host) (callback : OrderCallback) : Checked OrderChejan := do
  let code ← chejanCode (callback.text 9001)
  let executionPrice ← parseFidInt host (callback.text 910)
  let unitQuantity ← parseFidInt host (callback.text 915)
  let executionQuantity ←
    if unitQuantity = 0 then parseFidInt host (callback.text 911) else .ok unitQuantity
  let orderQuantity ← parseFidInt host (callback.text 900)
  let remainingQuantity ← parseFidInt host (callback.text 902)
  let timestamp ← kiwoomEventTimestamp callback.now (callback.text 908)
  let orderPrice ← parseFidInt host (callback.text 901)
  return {
    callback := callback
    code := code.val
    code_normal := code.property
    executionPrice := executionPrice
    executionQuantity := executionQuantity
    orderQuantity := orderQuantity
    orderPrice := orderPrice
    remainingQuantity := remainingQuantity
    timestamp := timestamp }

namespace OrderChejan

variable (chejan : OrderChejan)

def account : String :=
  chejan.callback.text 9201

def orderNo : String :=
  chejan.callback.text 9203

def orderStatus : String :=
  chejan.callback.text 913

def rejectReason : String :=
  chejan.callback.text 919

def eventTime : String :=
  chejan.callback.text 908

def executionId : String :=
  chejan.callback.text 909

def side : String :=
  normalizeOrderSide (chejan.callback.text 907) (chejan.callback.text 905)

def eventKind : OrderEventKind :=
  orderEventKind chejan.executionQuantity chejan.executionPrice chejan.orderStatus
    chejan.rejectReason

/-- The payload of the notice event. -/
def payload : Payload :=
  let complete := chejan.code ≠ "" ∧ chejan.orderNo ≠ ""
  chejanCommon chejan.callback ++
    [("event_kind", .str chejan.eventKind.value), ("account_id", .str chejan.account),
      ("account", .str chejan.account), ("code", .str chejan.code),
      ("name", .str (chejan.callback.text 302)),
      ("order_no", .str chejan.orderNo), ("broker_order_no", .str chejan.orderNo),
      ("broker_order_id", .str chejan.orderNo),
      ("original_order_no", .str (chejan.callback.text 904)),
      ("order_status", .str chejan.orderStatus),
      ("order_gubun", .str (chejan.callback.text 905)),
      ("side", .str chejan.side), ("side_code", .str (chejan.callback.text 907)),
      ("quantity", .int (natOr chejan.orderQuantity chejan.executionQuantity)),
      ("order_quantity", .int chejan.orderQuantity), ("order_price", .int chejan.orderPrice),
      ("remaining_quantity", .int chejan.remainingQuantity),
      ("execution_id", .str chejan.executionId),
      ("execution_price", .int chejan.executionPrice),
      ("execution_quantity", .int chejan.executionQuantity),
      ("price", .int (natOr chejan.executionPrice chejan.orderPrice)),
      ("event_time", .str chejan.eventTime), ("timestamp", .str chejan.timestamp),
      ("reject_reason", .str chejan.rejectReason),
      ("parser_status", .str (if complete then "OK" else "DEGRADED")),
      ("parser_warning_codes",
        .arr (if complete then [] else [.str "REQUIRED_FIELD_MISSING"]))]

def fillId : String :=
  if chejan.executionId = "" then "kiwoom-" ++ chejan.orderNo ++ "-" ++ chejan.eventTime
  else chejan.executionId

def fillSide : String :=
  if chejan.side = "" then "BUY" else chejan.side

def isFill : Bool :=
  chejan.code ≠ "" && chejan.orderNo ≠ "" && 0 < chejan.executionQuantity &&
    0 < chejan.executionPrice

/-- The payload of the execution event of a fill. -/
def executionPayload : Option Payload :=
  if chejan.isFill then
    some
      [("execution_id", .str chejan.fillId), ("broker_order_id", .str chejan.orderNo),
        ("broker_order_no", .str chejan.orderNo), ("account_id", .str chejan.account),
        ("code", .str chejan.code), ("side", .str chejan.fillSide),
        ("quantity", .int chejan.executionQuantity), ("price", .int chejan.executionPrice),
        ("remaining_quantity", .int chejan.remainingQuantity),
        ("executed_at", .str chejan.timestamp),
        ("metadata", .obj [("source", .str "KIWOOM_CHEJAN"),
          ("event_kind", .str chejan.eventKind.value),
          ("parser_version", .str "kiwoom_chejan_v2_adapter"),
          ("raw_fids", rawObject chejan.callback.raw)])]
  else none

end OrderChejan

end SuseokTrader
