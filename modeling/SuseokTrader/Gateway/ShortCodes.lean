import SuseokTrader.Gateway.RealtimeAgreement

/-!
# Short codes with letters

The short codes of the exchange are six digits or capital letters. The gateway
reads the digits of a text alone, so a code comes back as it is exactly when it
has no letter.
-/

namespace SuseokTrader

/-! ## Codes and their decorations -/

def isCodeChar (c : Char) : Bool :=
  ('0' ≤ c && c ≤ '9') || ('A' ≤ c && c ≤ 'Z')

/-- A short code: six digits or capital letters. -/
structure ShortCode where
  chars : List Char
  six : chars.length = 6
  alphabet : ∀ c ∈ chars, isCodeChar c = true

def ShortCode.text (code : ShortCode) : String :=
  String.ofList code.chars

def exchangeSuffixes : List String :=
  ["", "_NX", "_AL", "_KR"]

/-- A code as it may be written: behind an `A`, and with the suffix of an exchange. -/
structure Decoration where
  marked : Bool
  suffix : String
  known : suffix ∈ exchangeSuffixes

def ShortCode.decorated (code : ShortCode) (decoration : Decoration) : String :=
  (if decoration.marked then "A" else "") ++ code.text ++ decoration.suffix

def realtimeCodeForExchange (code exchange : String) : Checked String := do
  let baseCode ← stockCode code
  let exchange ← normalizeRealtimeExchange exchange
  return baseCode.val ++ exchange.suffix

/-- What comes back for a code is the code itself. -/
structure KeepsCode (code : ShortCode) : Prop where
  normalizes : ∀ decoration result, normalizeCode (code.decorated decoration) = .ok result →
    result = code.text
  parses : ∀ decoration parsed,
    parseKiwoomRealtimeCode (code.decorated decoration) = .ok parsed →
      parsed.baseCode.val = code.text
  comesBack : ∀ name exchange, normalizeRealtimeExchange name = .ok exchange →
    ∃ joined parsed, realtimeCodeForExchange code.text name = .ok joined ∧
      parseKiwoomRealtimeCode joined = .ok parsed ∧ parsed.baseCode.val = code.text ∧
        parsed.exchange = exchange

/-- Every code of the list comes back as it is, and no two of them come back as one. -/
structure KeepsCodes (codes : Set ShortCode) : Prop where
  kept : ∀ code ∈ codes, KeepsCode code
  apart : ∀ code ∈ codes, ∀ other ∈ codes, ∀ decoration otherDecoration result,
    normalizeCode (code.decorated decoration) = .ok result →
      normalizeCode (other.decorated otherDecoration) = .ok result → code = other

def ShortCode.IsDigits (code : ShortCode) : Prop :=
  ∀ c ∈ code.chars, isDigitChar c = true

/-! ## Codes of digits -/

def Plain (cs : List Char) : Prop :=
  ∀ c ∈ cs, Text.isSpace c = false ∧ c.toUpper = c

theorem suffix_plain {suffix : String} (known : suffix ∈ exchangeSuffixes) :
    Plain suffix.toList ∧ suffix.toList.filter isDigitChar = [] := by
  have letters : ∀ c ∈ ['_', 'N', 'X', 'A', 'L', 'K', 'R'],
      (Text.isSpace c = false ∧ c.toUpper = c) ∧ isDigitChar c ≠ true := by
    intro c present
    simp only [List.mem_cons, List.not_mem_nil, or_false] at present
    rcases present with rfl | rfl | rfl | rfl | rfl | rfl | rfl <;>
      exact ⟨⟨rfl, rfl⟩, by decide⟩
  have inside : ∀ c ∈ suffix.toList, c ∈ ['_', 'N', 'X', 'A', 'L', 'K', 'R'] := by
    simp only [exchangeSuffixes, List.mem_cons, List.not_mem_nil, or_false] at known
    rcases known with rfl | rfl | rfl | rfl <;> simp
  exact ⟨fun c present => (letters c (inside c present)).1,
    List.filter_eq_nil_iff.mpr fun c present => (letters c (inside c present)).2⟩

theorem plain_digits {digits : List Char} (areDigits : ∀ c ∈ digits, isDigitChar c = true) :
    Plain digits := fun c present =>
  ⟨(digit_apart (areDigits c present)).1, (digit_apart (areDigits c present)).2.1⟩

theorem Plain.strip {cs : List Char} (plain : Plain cs) :
    Text.strip (String.ofList cs) = String.ofList cs := by
  apply Text.strip_eq_self
  intro c present
  rw [String.toList_ofList] at present
  exact (plain c present).1

theorem Plain.upper {cs : List Char} (plain : Plain cs) :
    Text.upper (String.ofList cs) = String.ofList cs := by
  have same : cs.map Char.toUpper = cs.map id :=
    List.map_congr_left fun c present => (plain c present).2
  rw [Text.upper, String.toList_ofList, same, List.map_id]

theorem normalizeCode_of_filter {cs digits : List Char} (plain : Plain cs)
    (kept : cs.filter isDigitChar = digits) (six : digits.length = 6) :
    normalizeCode (String.ofList cs) = .ok (String.ofList digits) := by
  rw [normalizeCode, plain.strip, plain.upper, String.toList_ofList]
  have filtered : ∀ text : List Char, text.filter isDigitChar = cs.filter isDigitChar →
      text.filter isDigitChar ≠ [] ∧ String.ofList (zeroFill 6
        ((text.filter isDigitChar).drop ((text.filter isDigitChar).length - 6))) =
          String.ofList digits := by
    intro text same
    rw [same, kept]
    refine ⟨List.ne_nil_of_length_pos (by omega), ?_⟩
    simp [six, zeroFill]
  split
  · next empty =>
      refine absurd empty (filtered _ ?_).1
      split
      · split
        · rw [List.filter_cons_of_neg (by decide)]
        · rfl
      · rfl
  · refine congrArg Except.ok (filtered _ ?_).2
    split
    · split
      · rw [List.filter_cons_of_neg (by decide)]
      · rfl
    · rfl

theorem normalizeCode_of_stockCode {value : String} {code : StockCode}
    (coded : stockCode value = .ok code) : normalizeCode value = .ok code.val := by
  unfold stockCode at coded
  split at coded
  · next normal =>
      cases coded
      exact normal
  · cases coded

section Digits

variable {code : ShortCode} (digits : code.IsDigits)

include digits

theorem marked_digits (marked : Bool) :
    Plain ((if marked then ['A'] else []) ++ code.chars) ∧
      ((if marked then ['A'] else []) ++ code.chars).filter isDigitChar = code.chars := by
  have same : code.chars.filter isDigitChar = code.chars := List.filter_eq_self.mpr digits
  cases marked with
  | false => exact ⟨plain_digits digits, same⟩
  | true =>
      refine ⟨?_, ?_⟩
      · intro c present
        rcases List.mem_cons.mp present with rfl | digit
        · decide
        · exact plain_digits digits c digit
      · rw [if_pos rfl, List.cons_append, List.filter_cons_of_neg (by decide), List.nil_append,
          same]

omit digits in
theorem decorated_eq (decoration : Decoration) :
    code.decorated decoration = String.ofList
      ((if decoration.marked then ['A'] else []) ++ code.chars) ++ decoration.suffix := by
  apply String.toList_inj.mp
  cases isMarked : decoration.marked with
  | false => simp [ShortCode.decorated, ShortCode.text, isMarked]
  | true => simp [ShortCode.decorated, ShortCode.text, isMarked]

variable (decoration : Decoration)

theorem decorated_plain :
    Plain (code.decorated decoration).toList ∧
      (code.decorated decoration).toList.filter isDigitChar = code.chars := by
  rcases marked_digits digits decoration.marked with ⟨plain, kept⟩
  have suffix := suffix_plain decoration.known
  rw [decorated_eq decoration, String.toList_append, String.toList_ofList]
  constructor
  · intro c present
    rcases List.mem_append.mp present with base | ending
    · exact plain c base
    · exact suffix.1 c ending
  · rw [List.filter_append, kept, suffix.2, List.append_nil]

theorem normalizeCode_decorated :
    normalizeCode (code.decorated decoration) = .ok code.text := by
  rcases decorated_plain digits decoration with ⟨plain, kept⟩
  have normal := normalizeCode_of_filter plain kept code.six
  rwa [String.ofList_toList] at normal

theorem splitExchange_decorated :
    (splitExchange (code.decorated decoration)).1 =
      String.ofList ((if decoration.marked then ['A'] else []) ++ code.chars) := by
  generalize marked : (if decoration.marked then ['A'] else []) ++ code.chars = base
  have last : ∀ c rest, base.reverse = c :: rest → isDigitChar c = true := by
    intro c rest split
    have nonempty : code.chars ≠ [] := by
      intro none
      have six := code.six
      rw [none] at six
      cases six
    rw [← marked, List.reverse_append] at split
    cases back : code.chars.reverse with
    | nil => exact absurd (List.reverse_eq_nil_iff.mp back) nonempty
    | cons final others =>
        rw [back, List.cons_append, List.cons.injEq] at split
        apply digits
        rw [← split.1, ← List.mem_reverse, back]
        exact List.mem_cons_self
  have known := decoration.known
  rw [decorated_eq, marked]
  simp only [exchangeSuffixes, List.mem_cons, List.not_mem_nil, or_false] at known
  unfold splitExchange
  rw [String.toList_append, String.toList_ofList, List.reverse_append]
  rcases known with isSuffix | isSuffix | isSuffix | isSuffix
  · simp only [isSuffix, String.toList_empty, List.reverse_nil, List.nil_append,
      String.append_empty]
    split
    · next split => exact absurd (last _ _ split) (by decide)
    · next split => exact absurd (last _ _ split) (by decide)
    · next split => exact absurd (last _ _ split) (by decide)
    · rfl
  · simp [isSuffix]
  · simp [isSuffix]
  · simp [isSuffix]

theorem keepsCode_of_digits : KeepsCode code := by
  have normal : normalizeCode code.text = .ok code.text :=
    normalizeCode_digits digits code.six
  constructor
  · intro decoration result normalizes
    rw [normalizeCode_decorated digits, Except.ok.injEq] at normalizes
    exact normalizes.symm
  · intro decoration parsed parses
    have plain := (decorated_plain digits decoration).1
    have stripped := plain.strip
    have raised := plain.upper
    rw [String.ofList_toList] at stripped raised
    unfold parseKiwoomRealtimeCode at parses
    rw [stripped, raised] at parses
    simp only [splitExchange_decorated digits] at parses
    rcases Checked.bind_eq_ok.mp parses with ⟨base, isBase, isParsed⟩
    cases isParsed
    rcases marked_digits digits decoration.marked with ⟨markedPlain, kept⟩
    have same := normalizeCode_of_filter markedPlain kept code.six
    rw [normalizeCode_of_stockCode isBase, Except.ok.injEq] at same
    exact same
  · intro name exchange named
    refine ⟨_, ⟨⟨code.text, normal⟩, exchange⟩, ?_, parse_kiwoomCode _, rfl, rfl⟩
    have coded : stockCode code.text = .ok ⟨code.text, normal⟩ := stockCode_val ⟨code.text, normal⟩
    rw [realtimeCodeForExchange, coded, named]
    rfl

end Digits

/-- The codes are kept exactly when all of them consist of digits. -/
theorem short_codes_are_kept_iff (codes : Set ShortCode) :
    KeepsCodes codes ↔ ∀ code ∈ codes, code.IsDigits := by
  constructor
  · intro keeps code present c inside
    rcases (keeps.kept code present).comesBack "KRX" .krx rfl with
      ⟨_, parsed, _, _, same, _⟩
    apply parsed.baseCode.digits.2
    rw [same, ShortCode.text, String.toList_ofList]
    exact inside
  · intro digits
    refine ⟨fun code present => keepsCode_of_digits (digits code present), ?_⟩
    intro code present other otherPresent decoration otherDecoration result normal otherNormal
    rw [normalizeCode_decorated (digits code present), Except.ok.injEq] at normal
    rw [normalizeCode_decorated (digits other otherPresent), Except.ok.injEq] at otherNormal
    have same : code.chars = other.chars :=
      String.ofList_injective (normal.trans otherNormal.symm)
    cases code
    cases other
    cases same
    rfl

def preferredShare : ShortCode where
  chars := ['0', '0', '0', '8', '8', 'K']
  six := rfl
  alphabet := by simp [isCodeChar]

def otherPreferredShare : ShortCode where
  chars := ['0', '0', '0', '8', '8', 'L']
  six := rfl
  alphabet := by simp [isCodeChar]

/-- The codes of two preferred shares are read as the code of a third share. -/
theorem preferred_shares_are_read_as_one :
    normalizeCode preferredShare.text = .ok "000088" ∧
      normalizeCode otherPreferredShare.text = .ok "000088" ∧
      ¬ KeepsCodes Set.univ := by
  have normal : normalizeCode preferredShare.text = .ok "000088" := rfl
  refine ⟨normal, rfl, ?_⟩
  intro keeps
  have plain : preferredShare.decorated ⟨false, "", by simp [exchangeSuffixes]⟩ =
      preferredShare.text := by simp [ShortCode.decorated]
  have kept := (keeps.kept preferredShare trivial).normalizes _ "000088" (plain ▸ normal)
  exact absurd kept (by decide +kernel)

end SuseokTrader
