import SuseokTrader.Broker.Time
import SuseokTrader.Lib.Json
import SuseokTrader.Lib.Sha256

/-!
# Broker contract helpers

Values come in as JSON. This file gives the readings the contract objects and
the store take of them: the printed form of a value, its truth value, optional
texts, and the parsers that raise a validation error.

Floating-point arithmetic, the printable form of a text inside a container and
the identity of the database file belong to the machine the program runs on.
They are the fields of `Host`.
-/

namespace SuseokTrader

inductive Float64 where
  | nan
  | negInf
  | posInf
  | finite (value : Rat)

inductive DatabaseFile where
  | file (normalizedPath : String) (device inode : Int)
  | memory (connectionIdentity : String)

/-- What the program takes from the machine it runs on. -/
structure Host where
  /-- The shortest text of the number that a JSON fraction denotes. -/
  floatRepr : String → String
  /-- The number a text denotes, if it denotes one. -/
  float : String → Option Float64
  /-- The number nearest to an integer, if there is one. -/
  floatOfInt : Int → Option Float64
  /-- The quoted form of a text inside a printed container. -/
  reprText : String → String
  /-- The main database, when its file can be resolved. -/
  database : Option DatabaseFile

/-- A JSON object as the program holds it. -/
abbrev Payload := List (String × Json)

inductive Failure where
  | invalid (message : String)
  | crash (message : String)

/-- `str(exc)` -/
def Failure.text : Failure → String
  | .invalid message | .crash message => message

/-! ## Readings of a value -/

namespace Json

def truthy : Json → Bool
  | .null => false
  | .bool value => value
  | .int value => value ≠ 0
  | .float repr => repr ≠ "0.0" && repr ≠ "-0.0"
  | .str value => value ≠ ""
  | .arr items => !items.isEmpty
  | .obj fields => !fields.isEmpty

/-- `first or second` -/
def orElse (first second : Json) : Json :=
  if first.truthy then first else second

def isTrue : Json → Bool
  | .bool true => true
  | _ => false

def isFalse : Json → Bool
  | .bool false => true
  | _ => false

def isNull : Json → Bool
  | .null => true
  | _ => false

mutual

/-- The printed form of a value inside a container. -/
def repr (host : Host) : Json → String
  | .null => "None"
  | .bool true => "True"
  | .bool false => "False"
  | .int value => String.ofList (renderInt value)
  | .float repr => repr
  | .str value => host.reprText value
  | .arr [] => "[]"
  | .arr (item :: items) => "[" ++ repr host item ++ reprItems host items
  | .obj [] => "\x7b\x7d"
  | .obj ((key, value) :: fields) =>
      "\x7b" ++ host.reprText key ++ ": " ++ repr host value ++ reprFields host fields
termination_by structural value => value

def reprItems (host : Host) : List Json → String
  | [] => "]"
  | item :: items => ", " ++ repr host item ++ reprItems host items
termination_by structural items => items

def reprFields (host : Host) : List (String × Json) → String
  | [] => "\x7d"
  | (key, value) :: fields =>
      ", " ++ host.reprText key ++ ": " ++ repr host value ++ reprFields host fields
termination_by structural fields => fields

end

/-- The printed form of a value: a text prints as itself. -/
def text (host : Host) : Json → String
  | .str value => value
  | value => repr host value

def textOrEmpty (host : Host) (value : Json) : String :=
  if value.truthy then text host value else ""

def optionalText (host : Host) : Json → Option String
  | .null => none
  | value => Text.optionalText (some (text host value))

def firstText (host : Host) : List Json → Option String
  | [] => none
  | value :: values => (optionalText host value).or (firstText host values)

end Json

namespace Payload

def get (payload : Payload) (key : String) : Json :=
  Json.get payload key

def has (payload : Payload) (key : String) : Bool :=
  (payload.lookup key).isSome

def getOr (payload : Payload) (key : String) (default : Json) : Json :=
  (payload.lookup key).getD default

def mapping (payload : Payload) (key : String) : Payload :=
  ((payload.get key).asObject).getD []

end Payload

def canonicalJson (payload : Payload) : String :=
  Json.dumps (.obj payload)

def hashPayloadJson (payloadJson : String) : String :=
  Sha256.hexdigest payloadJson

/-! ## Parsers of contract fields -/

abbrev Checked (α : Type) := Except Failure α

namespace Checked

def invalid {α : Type} (message : String) : Checked α :=
  .error (.invalid message)

theorem bind_eq_ok {α β : Type} {first : Checked α} {rest : α → Checked β} {result : β} :
    (first >>= rest) = .ok result ↔ ∃ value, first = .ok value ∧ rest value = .ok result := by
  cases first with
  | ok value => simp [bind, Except.bind]
  | error failure => simp [bind, Except.bind]

theorem toOption_isSome {α : Type} {result : Checked α} :
    result.toOption.isSome = true ↔ ∃ value, result = .ok value := by
  cases result with
  | ok value => simp [Except.toOption]
  | error failure => simp [Except.toOption]

section Lists

variable {α β γ : Type} {read : α → Checked β} {items : List α} {results : List β}

theorem mem_mapM (all : items.mapM read = .ok results) {result : β} :
    result ∈ results ↔ ∃ item ∈ items, read item = .ok result := by
  induction items generalizing results with
  | nil =>
      cases all
      simp
  | cons item items ih =>
      rw [List.mapM_cons] at all
      rcases bind_eq_ok.mp all with ⟨first, isFirst, rest⟩
      rcases bind_eq_ok.mp rest with ⟨others, areOthers, same⟩
      cases same
      simp only [List.mem_cons, exists_eq_or_imp, ih areOthers, isFirst, Except.ok.injEq]
      rw [eq_comm]

theorem exists_mapM (each : ∀ item ∈ items, ∃ result, read item = .ok result) :
    ∃ results, items.mapM read = .ok results := by
  induction items with
  | nil => exact ⟨[], rfl⟩
  | cons item items ih =>
      rcases List.forall_mem_cons.mp each with ⟨⟨first, isFirst⟩, later⟩
      rcases ih later with ⟨others, areOthers⟩
      refine ⟨first :: others, ?_⟩
      rw [List.mapM_cons, isFirst, areOthers]
      rfl

theorem mapM_filter (all : items.mapM read = .ok results) {select : α → Bool} {selects : β → Bool}
    (same : ∀ item result, read item = .ok result → selects result = select item) :
    (items.filter select).mapM read = .ok (results.filter selects) := by
  induction items generalizing results with
  | nil =>
      cases all
      rfl
  | cons item items ih =>
      rw [List.mapM_cons] at all
      rcases bind_eq_ok.mp all with ⟨first, isFirst, rest⟩
      rcases bind_eq_ok.mp rest with ⟨others, areOthers, isAll⟩
      cases isAll
      rw [List.filter_cons, List.filter_cons, same item first isFirst]
      split
      · rw [List.mapM_cons, isFirst, ih areOthers]
        rfl
      · exact ih areOthers

theorem map_of_mapM (all : items.mapM read = .ok results) {view : β → γ} {source : α → γ}
    (same : ∀ item result, read item = .ok result → view result = source item) :
    results.map view = items.map source := by
  induction items generalizing results with
  | nil =>
      cases all
      rfl
  | cons item items ih =>
      rw [List.mapM_cons] at all
      rcases bind_eq_ok.mp all with ⟨first, isFirst, rest⟩
      rcases bind_eq_ok.mp rest with ⟨others, areOthers, isAll⟩
      cases isAll
      rw [List.map_cons, List.map_cons, ih areOthers, same item first isFirst]

variable {choose : α → Checked (Option β)}

theorem mem_filterMapM (all : items.filterMapM choose = .ok results) {result : β} :
    result ∈ results ↔ ∃ item ∈ items, choose item = .ok (some result) := by
  induction items generalizing results with
  | nil =>
      cases all
      simp
  | cons item items ih =>
      rw [List.filterMapM_cons] at all
      rcases bind_eq_ok.mp all with ⟨first, isFirst, rest⟩
      cases first with
      | none => simp [ih rest, isFirst]
      | some first =>
          rcases bind_eq_ok.mp rest with ⟨others, areOthers, same⟩
          cases same
          simp only [List.mem_cons, exists_eq_or_imp, ih areOthers, isFirst, Except.ok.injEq,
            Option.some.injEq]
          rw [eq_comm]

theorem exists_filterMapM (each : ∀ item ∈ items, ∃ result, choose item = .ok result) :
    ∃ results, items.filterMapM choose = .ok results := by
  induction items with
  | nil => exact ⟨[], rfl⟩
  | cons item items ih =>
      rcases List.forall_mem_cons.mp each with ⟨⟨first, isFirst⟩, later⟩
      rcases ih later with ⟨others, areOthers⟩
      rw [List.filterMapM_cons, isFirst]
      cases first with
      | none => exact ⟨others, areOthers⟩
      | some first =>
          refine ⟨first :: others, ?_⟩
          change (do let rest ← items.filterMapM choose; return first :: rest) = _
          rw [areOthers]
          rfl

end Lists

end Checked

/-- The first code points of the blocks of ten decimal digits. -/
def decimalZeros : List Nat :=
  [0x30, 0x660, 0x6f0, 0x7c0, 0x966, 0x9e6, 0xa66, 0xae6, 0xb66, 0xbe6, 0xc66, 0xce6, 0xd66,
    0xde6, 0xe50, 0xed0, 0xf20, 0x1040, 0x1090, 0x17e0, 0x1810, 0x1946, 0x19d0, 0x1a80, 0x1a90,
    0x1b50, 0x1bb0, 0x1c40, 0x1c50, 0xa620, 0xa8d0, 0xa900, 0xa9d0, 0xa9f0, 0xaa50, 0xabf0,
    0xff10, 0x104a0, 0x10d30, 0x11066, 0x110f0, 0x11136, 0x111d0, 0x112f0, 0x11450, 0x114d0,
    0x11650, 0x116c0, 0x11730, 0x118e0, 0x11950, 0x11c50, 0x11d50, 0x11da0, 0x16a60, 0x16ac0,
    0x16b50, 0x1d7ce, 0x1d7d8, 0x1d7e2, 0x1d7ec, 0x1d7f6, 0x1e140, 0x1e2f0, 0x1e950, 0x1fbf0]

def decimalValue (c : Char) : Option Nat :=
  (decimalZeros.find? fun first => first ≤ c.toNat && c.toNat < first + 10).map (c.toNat - ·)

/-- The integer an optionally signed text of decimal digits denotes. -/
def integerText (s : String) : Option Int := do
  let (negative, digits) := match s.toList with
    | '+' :: digits => (false, digits)
    | '-' :: digits => (true, digits)
    | digits => (false, digits)
  let values ← digits.mapM decimalValue
  if values = [] then none
  else
    let magnitude : Int := values.foldl (fun value digit => value * 10 + digit) 0
    some (if negative then -magnitude else magnitude)

def removeCommas (s : String) : String :=
  String.ofList (s.toList.filter (· ≠ ','))

def requireFields (data : Payload) (fields : List String) (modelName : String) :
    Checked Unit :=
  let missing := fields.filter fun field => !data.has field
  if missing = [] then .ok ()
  else Checked.invalid
    (modelName ++ " missing required field(s): " ++ String.intercalate ", " missing)

variable (value : Json) (fieldName : String)

def requireNonEmptyStr : Checked String :=
  match value with
  | .str value =>
      if Text.strip value = "" then Checked.invalid (fieldName ++ " must not be empty")
      else .ok (Text.strip value)
  | _ => Checked.invalid (fieldName ++ " must be a string")

def optionalNonEmptyStr : Checked (Option String) :=
  if value.isNull then .ok none
  else do
    let value ← requireNonEmptyStr value fieldName
    return some value

def validateStockCode : Checked String := do
  let code ← requireNonEmptyStr value "code"
  let code := Text.upper code
  let code := match code.toList with
    | 'A' :: rest => if rest.length = 6 then String.ofList rest else code
    | _ => code
  if code.toList.length = 6 ∧ code.toList.all fun c => (decimalValue c).isSome then .ok code
  else Checked.invalid "code must be a 6-digit domestic stock code"

def parseTimestamp : Checked Instant :=
  match value with
  | .str value =>
      if Text.strip value = "" then Checked.invalid (fieldName ++ " must not be empty")
      else
        match Time.fromIsoformat (Text.strip value) with
        | some instant => .ok instant
        | none => Checked.invalid (fieldName ++ " must be an ISO-8601 timestamp")
  | _ => Checked.invalid (fieldName ++ " must be a datetime or ISO-8601 string")

def notAnInteger {α : Type} (fieldName : String) : Checked α :=
  Checked.invalid (fieldName ++ " must be an integer")

def parseInt (host : Host) (value : Json) (fieldName : String) (minValue : Option Int) :
    Checked Int := do
  let parsed ← match value with
    | .int value => .ok value
    | .float repr =>
        match host.float repr with
        | some (.finite value) =>
            if value.den = 1 then .ok value.num else notAnInteger fieldName
        | _ => notAnInteger fieldName
    | .str value =>
        match integerText (removeCommas (Text.strip value)) with
        | some parsed => .ok parsed
        | none => notAnInteger fieldName
    | _ => notAnInteger fieldName
  match minValue with
  | some bound =>
      if parsed < bound then
        Checked.invalid (fieldName ++ " must be >= " ++ String.ofList (Json.renderInt bound))
      else .ok parsed
  | none => .ok parsed

def notANumber {α : Type} (fieldName : String) : Checked α :=
  Checked.invalid (fieldName ++ " must be a number")

def dropPercent (s : String) : String :=
  match s.toList.reverse with
  | '%' :: rest => Text.strip (String.ofList rest.reverse)
  | _ => s

/-- A number, with zero as its least value where one is asked for. -/
def parseFloat (host : Host) (value : Json) (fieldName : String) (nonNegative : Bool) :
    Checked Rat := do
  let parsed ← match value with
    | .int value =>
        match host.floatOfInt value with
        | some parsed => .ok parsed
        | none => .error (.crash "int too large to convert to float")
    | .float repr =>
        match host.float repr with
        | some parsed => .ok parsed
        | none => notANumber fieldName
    | .str value =>
        match host.float (dropPercent (removeCommas (Text.strip value))) with
        | some parsed => .ok parsed
        | none => notANumber fieldName
    | _ => notANumber fieldName
  match parsed with
  | .finite parsed =>
      if nonNegative ∧ parsed < 0 then Checked.invalid (fieldName ++ " must be >= 0.0")
      else .ok parsed
  | _ => Checked.invalid (fieldName ++ " must be finite")

/-- The member of a list of enumeration values that a text names in any case. -/
def parseStrEnum (members : List String) (fieldName : String) : Checked String :=
  let refusal := fieldName ++ " must be one of: " ++ String.intercalate ", " members
  match value with
  | .str value =>
      if Text.upper (Text.strip value) ∈ members then .ok (Text.upper (Text.strip value))
      else Checked.invalid refusal
  | _ => Checked.invalid refusal

def parseBool : Checked Bool :=
  match value with
  | .bool value => .ok value
  | _ => Checked.invalid (fieldName ++ " must be a boolean")

def normalizePayload : Checked Payload :=
  match value with
  | .obj fields => .ok fields
  | _ => Checked.invalid "payload must normalize to a JSON object"

end SuseokTrader
