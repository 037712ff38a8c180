import Mathlib

/-!
# JSON values and their canonical text

The writer is the one of a canonical dump: sorted keys, no blanks, only the
escapes that JSON requires. The reader accepts any JSON text, with white space,
escapes, fractions and repeated keys. A fraction is kept as the text that the
host prints for it, so no floating-point arithmetic enters.

The main result is `floatText_decimal`: the reader returns a decimal fraction
from its text, whatever separator follows.
-/

namespace SuseokTrader

/-- A JSON value. A `float` holds the text the host prints for the number. -/
inductive Json where
  | null
  | bool (value : Bool)
  | int (value : Int)
  | float (repr : String)
  | str (value : String)
  | arr (items : List Json)
  | obj (fields : List (String × Json))

namespace Json

/-! ## Writing -/

def hexDigit (n : Nat) : Char :=
  if n < 10 then Char.ofNat (48 + n) else Char.ofNat (87 + n)

/-- The text of one character inside a JSON string. -/
def escape (c : Char) : List Char :=
  if c = '"' then ['\\', '"']
  else if c = '\\' then ['\\', '\\']
  else if c = '\n' then ['\\', 'n']
  else if c = '\r' then ['\\', 'r']
  else if c = '\t' then ['\\', 't']
  else if c.toNat = 8 then ['\\', 'b']
  else if c.toNat = 12 then ['\\', 'f']
  else if c.toNat < 32 then
    ['\\', 'u', '0', '0', hexDigit (c.toNat / 16), hexDigit (c.toNat % 16)]
  else [c]

def renderText (s : String) : List Char :=
  '"' :: (s.toList.flatMap escape ++ ['"'])

def renderInt : Int → List Char
  | .ofNat n => Nat.toDigits 10 n
  | .negSucc n => '-' :: Nat.toDigits 10 (n + 1)

def renderFloat (repr : String) : String :=
  if repr = "nan" then "NaN"
  else if repr = "inf" then "Infinity"
  else if repr = "-inf" then "-Infinity"
  else repr

mutual

def render : Json → List Char
  | .null => ['n', 'u', 'l', 'l']
  | .bool true => ['t', 'r', 'u', 'e']
  | .bool false => ['f', 'a', 'l', 's', 'e']
  | .int value => renderInt value
  | .float repr => (renderFloat repr).toList
  | .str value => renderText value
  | .arr [] => ['[', ']']
  | .arr (item :: items) => '[' :: (render item ++ renderItems items)
  | .obj [] => ['{', '}']
  | .obj ((key, value) :: fields) =>
      '{' :: (renderText key ++ ':' :: (render value ++ renderFields fields))
termination_by structural value => value

def renderItems : List Json → List Char
  | [] => [']']
  | item :: items => ',' :: (render item ++ renderItems items)
termination_by structural items => items

def renderFields : List (String × Json) → List Char
  | [] => ['}']
  | (key, value) :: fields =>
      ',' :: (renderText key ++ ':' :: (render value ++ renderFields fields))
termination_by structural fields => fields

end

mutual

def sortKeys : Json → Json
  | .arr items => .arr (sortItems items)
  | .obj fields => .obj ((sortFields fields).insertionSort fun left right => left.1 ≤ right.1)
  | .null => .null
  | .bool value => .bool value
  | .int value => .int value
  | .float repr => .float repr
  | .str value => .str value
termination_by structural value => value

def sortItems : List Json → List Json
  | [] => []
  | item :: items => sortKeys item :: sortItems items
termination_by structural items => items

def sortFields : List (String × Json) → List (String × Json)
  | [] => []
  | (key, value) :: fields => (key, sortKeys value) :: sortFields fields
termination_by structural fields => fields

end

def dumps (value : Json) : String :=
  String.ofList (render (sortKeys value))

/-! ## Reading -/

def isBlank (c : Char) : Bool :=
  c = ' ' || c = '\t' || c = '\n' || c = '\r'

def skipBlanks (cs : List Char) : List Char :=
  cs.dropWhile isBlank

def hexValue (c : Char) : Option Nat :=
  if c.isDigit then some (c.toNat - 48)
  else if 'a' ≤ c && c ≤ 'f' then some (c.toNat - 87)
  else if 'A' ≤ c && c ≤ 'F' then some (c.toNat - 55)
  else none

def hexQuad (a b c d : Char) : Option Nat := do
  let a ← hexValue a
  let b ← hexValue b
  let c ← hexValue c
  let d ← hexValue d
  return ((a * 16 + b) * 16 + c) * 16 + d

def unescape (c : Char) : Option Char :=
  if c = '"' || c = '\\' || c = '/' then some c
  else if c = 'n' then some '\n'
  else if c = 'r' then some '\r'
  else if c = 't' then some '\t'
  else if c = 'b' then some (Char.ofNat 8)
  else if c = 'f' then some (Char.ofNat 12)
  else none

/-- The character and the rest of the text after `\u`; a lone surrogate is no character. -/
def parseUnicode : List Char → Option (Char × Nat)
  | a :: b :: c :: d :: rest => do
      let code ← hexQuad a b c d
      if 0xd800 ≤ code ∧ code < 0xdc00 then
        match rest with
        | '\\' :: 'u' :: e :: f :: g :: h :: _ => do
            let low ← hexQuad e f g h
            if 0xdc00 ≤ low ∧ low < 0xe000 then
              return (Char.ofNat (0x10000 + (code - 0xd800) * 0x400 + (low - 0xdc00)), 10)
            else none
        | _ => none
      else if 0xdc00 ≤ code ∧ code < 0xe000 then none
      else return (Char.ofNat code, 4)
  | _ => none

/-- The characters up to the closing quote. The fuel bounds their number. -/
def parseText : Nat → List Char → Option (List Char × List Char)
  | 0, _ => none
  | _, [] => none
  | fuel + 1, c :: cs =>
      if c = '"' then some ([], cs)
      else if c = '\\' then
        match cs with
        | [] => none
        | e :: cs =>
            if e = 'u' then do
              let (c, used) ← parseUnicode cs
              let (text, rest) ← parseText fuel (cs.drop used)
              return (c :: text, rest)
            else do
              let c ← unescape e
              let (text, rest) ← parseText fuel cs
              return (c :: text, rest)
      else if c.toNat < 32 then none
      else do
        let (text, rest) ← parseText fuel cs
        return (c :: text, rest)

def wholePart (cs : List Char) : List Char :=
  if cs.head? = some '0' then ['0'] else cs.takeWhile Char.isDigit

def fracPart : List Char → List Char
  | '.' :: cs => if cs.takeWhile Char.isDigit = [] then [] else '.' :: cs.takeWhile Char.isDigit
  | _ => []

def signPart : List Char → List Char
  | c :: _ => if c = '+' ∨ c = '-' then [c] else []
  | [] => []

def expPart : List Char → List Char
  | c :: cs =>
      if c = 'e' ∨ c = 'E' then
        let digits := (cs.drop (signPart cs).length).takeWhile Char.isDigit
        if digits = [] then [] else c :: (signPart cs ++ digits)
      else []
  | [] => []

/-- The number with the given sign and integer part, its fraction and exponent to be read. -/
def finishNumber (floatRepr : String → String) (sign whole rest : List Char) :
    Json × List Char :=
  let frac := fracPart rest
  let exp := expPart (rest.drop frac.length)
  if frac = [] ∧ exp = [] then
    let magnitude : Int := Nat.ofDigitChars 10 whole 0
    (.int (if sign = [] then magnitude else -magnitude), rest)
  else
    (.float (floatRepr (String.ofList (sign ++ whole ++ frac ++ exp))),
      rest.drop (frac.length + exp.length))

def parseMagnitude (floatRepr : String → String) (sign body : List Char) :
    Option (Json × List Char) :=
  if wholePart body = [] then none
  else some (finishNumber floatRepr sign (wholePart body) (body.drop (wholePart body).length))

def parseNumber (floatRepr : String → String) (cs : List Char) : Option (Json × List Char) :=
  if cs.head? = some '-' then parseMagnitude floatRepr ['-'] cs.tail
  else parseMagnitude floatRepr [] cs

def words : List (List Char × Json) :=
  [(['n', 'u', 'l', 'l'], .null),
    (['t', 'r', 'u', 'e'], .bool true),
    (['f', 'a', 'l', 's', 'e'], .bool false),
    (['N', 'a', 'N'], .float "nan"),
    (['I', 'n', 'f', 'i', 'n', 'i', 't', 'y'], .float "inf"),
    (['-', 'I', 'n', 'f', 'i', 'n', 'i', 't', 'y'], .float "-inf")]

def parseWord (cs : List Char) : Option (Json × List Char) :=
  words.findSome? fun (word, value) =>
    if word.isPrefixOf cs then some (value, cs.drop word.length) else none

def setField (key : String) (value : Json) : List (String × Json) → List (String × Json)
  | [] => [(key, value)]
  | (other, old) :: fields =>
      if other = key then (key, value) :: fields
      else (other, old) :: setField key value fields

def dictOf (fields : List (String × Json)) : List (String × Json) :=
  fields.foldl (fun dict (key, value) => setField key value dict) []

mutual

/-- The value at the start of the text and the rest. The fuel bounds the depth of the calls. -/
def parseValue (floatRepr : String → String) : Nat → List Char → Option (Json × List Char)
  | 0, _ => none
  | _, [] => none
  | fuel + 1, c :: cs =>
      if c = '"' then do
        let (text, rest) ← parseText (cs.length + 1) cs
        return (.str (String.ofList text), rest)
      else if c = '[' then
        if (skipBlanks cs).head? = some ']' then some (.arr [], (skipBlanks cs).tail)
        else do
          let (items, rest) ← parseItems floatRepr fuel (skipBlanks cs)
          return (.arr items, rest)
      else if c = '{' then
        if (skipBlanks cs).head? = some '}' then some (.obj [], (skipBlanks cs).tail)
        else do
          let (fields, rest) ← parseFields floatRepr fuel (skipBlanks cs)
          return (.obj (dictOf fields), rest)
      else (parseWord (c :: cs)).or (parseNumber floatRepr (c :: cs))

def parseItems (floatRepr : String → String) : Nat → List Char → Option (List Json × List Char)
  | 0, _ => none
  | fuel + 1, cs => do
      let (item, rest) ← parseValue floatRepr fuel cs
      match skipBlanks rest with
      | ']' :: rest => return ([item], rest)
      | ',' :: rest => do
          let (items, rest) ← parseItems floatRepr fuel (skipBlanks rest)
          return (item :: items, rest)
      | _ => none

def parseFields (floatRepr : String → String) :
    Nat → List Char → Option (List (String × Json) × List Char)
  | 0, _ => none
  | fuel + 1, '"' :: cs => do
      let (key, rest) ← parseText (cs.length + 1) cs
      match skipBlanks rest with
      | ':' :: rest => do
          let (value, rest) ← parseValue floatRepr fuel (skipBlanks rest)
          match skipBlanks rest with
          | '}' :: rest => return ([(String.ofList key, value)], rest)
          | ',' :: rest => do
              let (fields, rest) ← parseFields floatRepr fuel (skipBlanks rest)
              return ((String.ofList key, value) :: fields, rest)
          | _ => none
      | _ => none
  | _, _ => none

end

/-- The value a text denotes. `floatRepr` is the host's reprint of a fraction. -/
def loads (floatRepr : String → String) (text : String) : Option Json := do
  let cs := skipBlanks text.toList
  let (value, rest) ← parseValue floatRepr cs.length cs
  if skipBlanks rest = [] then some value else none

/-! ## Texts that are read back -/

/-- The text goes on with a separator, a closing bracket or not at all. -/
def Ends (rest : List Char) : Prop :=
  rest = [] ∨ ∃ c cs, rest = c :: cs ∧ (c = ',' ∨ c = ']' ∨ c = '}')

def Opens (c : Char) : Prop :=
  isBlank c = false ∧ c ≠ ']' ∧ c ≠ '}'

def Reads (floatRepr : String → String) (value : Json) : Prop :=
  ∀ (rest : List Char) (fuel : Nat), Ends rest → (render value).length ≤ fuel →
    parseValue floatRepr fuel (render value ++ rest) = some (value, rest)

structure FloatText (floatRepr : String → String) (repr : String) : Prop where
  opens : ∃ c cs, render (.float repr) = c :: cs ∧ Opens c
  reads : Reads floatRepr (.float repr)

/-! ## Digits -/

def Stops (rest : List Char) : Prop :=
  ∀ c ∈ rest.head?, c.isDigit = false

theorem stops_of_ends {rest : List Char} (ends : Ends rest) : Stops rest := by
  intro c first
  rcases ends with rfl | ⟨d, cs, rfl, closing⟩
  · cases first
  · rw [List.head?_cons, Option.mem_some] at first
    subst first
    rcases closing with rfl | rfl | rfl <;> decide

theorem takeWhile_digits_append {ds rest : List Char} (digits : ∀ d ∈ ds, d.isDigit = true)
    (stops : Stops rest) : (ds ++ rest).takeWhile Char.isDigit = ds := by
  rw [List.takeWhile_append_of_pos digits]
  have nothing : rest.takeWhile Char.isDigit = [] := by
    cases rest with
    | nil => rfl
    | cons c cs => simp [stops c (by simp)]
  rw [nothing, List.append_nil]

theorem expPart_of_ends {rest : List Char} (ends : Ends rest) : expPart rest = [] := by
  rcases ends with rfl | ⟨c, cs, rfl, rfl | rfl | rfl⟩ <;> simp [expPart]

theorem isDigit_of_mem_toDigits {n : Nat} {d : Char} (present : d ∈ Nat.toDigits 10 n) :
    d.isDigit = true :=
  Nat.isDigit_of_mem_toDigits (by omega) (by omega) present

theorem head?_toDigits_eq_zero (n : Nat) (zero : (Nat.toDigits 10 n).head? = some '0') :
    n = 0 := by
  induction n using Nat.strongRecOn with
  | ind n ih =>
      rw [Nat.toDigits_eq_if (by omega)] at zero
      by_cases small : n < 10
      · rw [if_pos small] at zero
        have every : ∀ n : Fin 10, [Nat.digitChar n].head? = some '0' → n.val = 0 := by decide
        exact every ⟨n, small⟩ zero
      · rw [if_neg small] at zero
        have head : (Nat.toDigits 10 (n / 10)).head? = some '0' := by
          cases digits : Nat.toDigits 10 (n / 10) with
          | nil => exact absurd digits Nat.toDigits_ne_nil
          | cons d ds =>
              rw [digits] at zero
              simpa using zero
        have := ih (n / 10) (by omega) head
        omega

theorem wholePart_toDigits (n : Nat) {rest : List Char} (stops : Stops rest) :
    wholePart (Nat.toDigits 10 n ++ rest) = Nat.toDigits 10 n := by
  have digits : ∀ d ∈ Nat.toDigits 10 n, d.isDigit = true := fun _ => isDigit_of_mem_toDigits
  unfold wholePart
  split
  · next zero =>
      have head : (Nat.toDigits 10 n).head? = some '0' := by
        cases shape : Nat.toDigits 10 n with
        | nil => exact absurd shape Nat.toDigits_ne_nil
        | cons d ds =>
            rw [shape] at zero
            simpa using zero
      rw [head?_toDigits_eq_zero n head, Nat.toDigits_zero]
  · exact takeWhile_digits_append digits stops

theorem head?_toDigits_ne_minus (n : Nat) (rest : List Char) :
    (Nat.toDigits 10 n ++ rest).head? ≠ some '-' := by
  cases shape : Nat.toDigits 10 n with
  | nil => exact absurd shape Nat.toDigits_ne_nil
  | cons d ds =>
      have digit := isDigit_of_mem_toDigits (n := n) (d := d) (by simp [shape])
      intro minus
      simp only [List.cons_append, List.head?_cons, Option.some.injEq] at minus
      subst minus
      simp at digit

theorem ne_of_isDigit {c d : Char} (digit : d.isDigit = true) (other : c.isDigit = false) :
    c ≠ d := by
  rintro rfl
  rw [digit] at other
  cases other

theorem parseWord_of_isDigit {d : Char} (digit : d.isDigit = true) (cs : List Char) :
    parseWord (d :: cs) = none := by
  have notDigit (c : Char) (other : c.isDigit = false) : c ≠ d := ne_of_isDigit digit other
  simp [parseWord, words, notDigit]

theorem opens_of_isDigit {d : Char} (digit : d.isDigit = true) :
    Opens d ∧ d ≠ '"' ∧ d ≠ '[' ∧ d ≠ '{' := by
  have notDigit (c : Char) (other : c.isDigit = false) : d ≠ c := (ne_of_isDigit digit other).symm
  simp [Opens, isBlank, notDigit]

/-! ## Decimal fractions -/

theorem fracPart_decimal {digits rest : List Char} (nonempty : digits ≠ [])
    (areDigits : ∀ d ∈ digits, d.isDigit = true) (ends : Ends rest) :
    fracPart ('.' :: (digits ++ rest)) = '.' :: digits := by
  rw [fracPart, takeWhile_digits_append areDigits (stops_of_ends ends), if_neg nonempty]

theorem parseNumber_decimal (floatRepr : String → String) (whole : Nat) {digits rest : List Char}
    (nonempty : digits ≠ []) (areDigits : ∀ d ∈ digits, d.isDigit = true) (ends : Ends rest) :
    parseNumber floatRepr (Nat.toDigits 10 whole ++ '.' :: (digits ++ rest)) =
      some (.float (floatRepr (String.ofList (Nat.toDigits 10 whole ++ '.' :: digits))), rest) := by
  have stops : Stops ('.' :: (digits ++ rest)) := by
    intro c first
    rw [List.head?_cons, Option.mem_some] at first
    subst first
    decide
  have noExp : expPart (('.' :: (digits ++ rest)).drop ('.' :: digits).length) = [] := by
    rw [← List.cons_append, List.drop_left]
    exact expPart_of_ends ends
  rw [parseNumber, if_neg (head?_toDigits_ne_minus whole _), parseMagnitude,
    wholePart_toDigits whole stops, if_neg Nat.toDigits_ne_nil, List.drop_left]
  simp only [finishNumber, fracPart_decimal nonempty areDigits ends, noExp]
  rw [if_neg (by simp), ← List.cons_append]
  simp only [List.length_nil, Nat.add_zero, List.drop_left, List.nil_append, List.append_nil]

theorem floatText_decimal {floatRepr : String → String} (whole : Nat) {digits : List Char}
    (nonempty : digits ≠ []) (areDigits : ∀ d ∈ digits, d.isDigit = true) {repr : String}
    (shape : repr = String.ofList (Nat.toDigits 10 whole ++ '.' :: digits))
    (kept : floatRepr repr = repr) : FloatText floatRepr repr := by
  obtain ⟨d, ds, head, digit⟩ : ∃ d ds, Nat.toDigits 10 whole = d :: ds ∧ d.isDigit = true := by
    cases written : Nat.toDigits 10 whole with
    | nil => exact absurd written Nat.toDigits_ne_nil
    | cons d ds => exact ⟨d, ds, rfl, isDigit_of_mem_toDigits (n := whole) (by simp [written])⟩
  have chars : repr.toList = d :: (ds ++ '.' :: digits) := by
    rw [shape, String.toList_ofList, head, List.cons_append]
  have noWord (word : String) (c : Char) (begins : word.toList.head? = some c)
      (other : c.isDigit = false) : repr ≠ word := by
    rintro rfl
    rw [chars, List.head?_cons, Option.some.injEq] at begins
    exact ne_of_isDigit digit other begins.symm
  have printed : render (.float repr) = d :: (ds ++ '.' :: digits) := by
    rw [render, renderFloat, if_neg (noWord "nan" 'n' rfl (by decide)),
      if_neg (noWord "inf" 'i' rfl (by decide)), if_neg (noWord "-inf" '-' rfl (by decide)), chars]
  rcases opens_of_isDigit digit with ⟨opens, quote, bracket, brace⟩
  refine ⟨⟨d, _, printed, opens⟩, ?_⟩
  intro rest fuel ends enough
  rw [printed, List.length_cons] at enough
  obtain ⟨fuel, rfl⟩ : ∃ smaller, fuel = smaller + 1 := ⟨fuel - 1, by omega⟩
  have number := parseNumber_decimal floatRepr whole nonempty areDigits ends
  rw [← shape, kept, head] at number
  simp only [printed, List.cons_append, List.append_assoc] at number ⊢
  rw [parseValue, if_neg quote, if_neg bracket, if_neg brace, parseWord_of_isDigit digit, number]
  rfl

/-! ## Fields -/

/-- The value of a field, absent ones as `null`. -/
def get (fields : List (String × Json)) (key : String) : Json :=
  (fields.lookup key).getD .null

theorem get_cons (field other : String) (value : Json) (fields : List (String × Json)) :
    get ((field, value) :: fields) other = if other = field then value else get fields other := by
  rw [get, List.lookup_cons]
  by_cases same : other = field
  · simp [same]
  · rw [beq_eq_false_iff_ne.mpr same, if_neg same, get]

theorem get_setField (key other : String) (value : Json) (fields : List (String × Json)) :
    get (setField key value fields) other = if other = key then value else get fields other := by
  induction fields with
  | nil => rw [setField, get_cons]
  | cons field fields ih =>
      rcases field with ⟨first, old⟩
      rw [setField, get_cons]
      by_cases same : first = key
      · subst same
        rw [if_pos rfl, get_cons]
        split <;> rfl
      · rw [if_neg same, get_cons, ih]
        by_cases here : other = first
        · subst here
          rw [if_pos rfl, if_pos rfl, if_neg same]
        · rw [if_neg here, if_neg here]

def asObject : Json → Option (List (String × Json))
  | .obj fields => some fields
  | _ => none

end Json

end SuseokTrader
