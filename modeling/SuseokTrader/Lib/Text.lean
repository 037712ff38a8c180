import Mathlib

/-!
# Text as stores and scripts see it

Trimming, ASCII case mapping, substring search and the character-class
matchers that scripts write as regular expressions. Everything is defined on
the characters of a `String`, so the definitions evaluate.

`lower` and `upper` map the ASCII letters only, which is what SQL does for
every text and what a script does for texts without other cased letters.
-/

namespace SuseokTrader.Text

/-- The characters a script's `strip` removes. -/
def isSpace (c : Char) : Bool :=
  (0x09 ≤ c.toNat && c.toNat ≤ 0x0d) || (0x1c ≤ c.toNat && c.toNat ≤ 0x20) ||
    c.toNat = 0x85 || c.toNat = 0xa0 || c.toNat = 0x1680 ||
    (0x2000 ≤ c.toNat && c.toNat ≤ 0x200a) || c.toNat = 0x2028 || c.toNat = 0x2029 ||
    c.toNat = 0x202f || c.toNat = 0x205f || c.toNat = 0x3000

/-- The characters without the longest prefix and suffix that satisfy `drop`. -/
def trimBoth (drop : Char → Bool) (cs : List Char) : List Char :=
  ((cs.dropWhile drop).reverse.dropWhile drop).reverse

def strip (s : String) : String :=
  String.ofList (trimBoth isSpace s.toList)

def trimBlanks (s : String) : String :=
  String.ofList (trimBoth (· = ' ') s.toList)

def lower (s : String) : String :=
  String.ofList (s.toList.map Char.toLower)

def upper (s : String) : String :=
  String.ofList (s.toList.map Char.toUpper)

/-- The text occurs in `s`. -/
def contains (s text : String) : Bool :=
  s.toList.tails.any fun suffix => text.toList.isPrefixOf suffix

def optionalText (s : Option String) : Option String :=
  match s with
  | none => none
  | some s => if strip s = "" then none else some (strip s)

def isHex (c : Char) : Bool :=
  c.isDigit || ('a' ≤ c && c ≤ 'f')

/--
Some `count` characters of the class follow each other, where characters of
`skipped` may stand between them. `seen` counts the members met since the last
character that is in neither class.
-/
def hasRun (charClass skipped : Char → Bool) (count : Nat) (seen : Nat) : List Char → Bool
  | [] => count ≤ seen
  | c :: cs =>
      count ≤ seen ||
        if charClass c then hasRun charClass skipped count (seen + 1) cs
        else if skipped c then hasRun charClass skipped count seen cs
        else hasRun charClass skipped count 0 cs

variable {drop : Char → Bool} {cs : List Char}

theorem trimBoth_eq_self (kept : ∀ c ∈ cs, drop c = false) : trimBoth drop cs = cs := by
  have noPrefix : ∀ ds : List Char, (∀ c ∈ ds, drop c = false) → ds.dropWhile drop = ds := by
    intro ds dsKept
    cases ds with
    | nil => rfl
    | cons d ds => simp [dsKept d (by simp)]
  have keptReverse : ∀ c ∈ cs.reverse, drop c = false := by
    intro c present
    exact kept c (List.mem_reverse.mp present)
  rw [trimBoth, noPrefix cs kept, noPrefix cs.reverse keptReverse, List.reverse_reverse]

theorem trimBoth_trimBoth (drop : Char → Bool) (cs : List Char) :
    trimBoth drop (trimBoth drop cs) = trimBoth drop cs := by
  have fixed : (trimBoth drop cs).dropWhile drop = trimBoth drop cs := by
    have isPrefix : trimBoth drop cs <+: cs.dropWhile drop := by
      simpa [trimBoth] using List.reverse_prefix.mpr
        (List.dropWhile_suffix (l := (cs.dropWhile drop).reverse) drop)
    cases trimmed : trimBoth drop cs with
    | nil => rfl
    | cons c rest =>
        rw [trimmed] at isPrefix
        rcases isPrefix with ⟨tail, shape⟩
        have kept : drop c = false := by
          have head := List.head?_dropWhile_not drop cs
          rw [← shape] at head
          simpa using head
        simp [kept]
  rw [trimBoth, fixed, trimBoth, List.reverse_reverse, List.dropWhile_idempotent]

variable (s : String)

@[simp]
theorem strip_strip : strip (strip s) = strip s := by
  simp only [strip, String.toList_ofList, trimBoth_trimBoth]

theorem strip_eq_self {s : String} (noSpace : ∀ c ∈ s.toList, isSpace c = false) :
    strip s = s := by
  rw [strip, trimBoth_eq_self noSpace, String.ofList_toList]

theorem trimBoth_of_ends
    (first : ∀ c ∈ cs.head?, drop c = false) (last : ∀ c ∈ cs.getLast?, drop c = false) :
    trimBoth drop cs = cs := by
  have kept : ∀ ds : List Char, (∀ c ∈ ds.head?, drop c = false) → ds.dropWhile drop = ds := by
    intro ds keeps
    cases ds with
    | nil => rfl
    | cons d ds => simp [keeps d rfl]
  have reversed : ∀ c ∈ cs.reverse.head?, drop c = false := by
    intro c isFirst
    rw [List.head?_reverse] at isFirst
    exact last c isFirst
  rw [trimBoth, kept cs first, kept cs.reverse reversed, List.reverse_reverse]

theorem last_of_stripped {s : String} (stripped : strip s = s) :
    ∀ c ∈ s.toList.getLast?, isSpace c = false := by
  intro c isLast
  have same := congrArg String.toList stripped
  rw [strip, String.toList_ofList] at same
  rw [← same, trimBoth, List.getLast?_reverse] at isLast
  have head := List.head?_dropWhile_not isSpace (s.toList.dropWhile isSpace).reverse
  rw [Option.mem_def.mp isLast] at head
  simpa using head

theorem strip_append {start rest : String} {c : Char} (begins : start.toList.head? = some c)
    (noSpace : isSpace c = false) (stripped : strip rest = rest) (nonempty : rest ≠ "") :
    strip (start ++ rest) = start ++ rest := by
  have ends : rest.toList ≠ [] := by
    intro empty
    exact nonempty (String.toList_inj.mp (by rw [empty]; rfl))
  rw [strip, trimBoth_of_ends, String.ofList_toList]
  · intro d isFirst
    rw [String.toList_append, List.head?_append, begins] at isFirst
    rw [← Option.mem_some.mp isFirst]
    exact noSpace
  · intro d isLast
    rw [String.toList_append, List.getLast?_append_of_ne_nil _ ends] at isLast
    exact last_of_stripped stripped d isLast

theorem forall_of_trimBoth_eq_nil (trimmed : trimBoth drop cs = []) : ∀ c ∈ cs, drop c = true := by
  rw [trimBoth, List.reverse_eq_nil_iff, List.dropWhile_eq_nil_iff] at trimmed
  cases rest : cs.dropWhile drop with
  | nil => exact List.dropWhile_eq_nil_iff.mp rest
  | cons head tail =>
      have kept := List.head?_dropWhile_not drop cs
      have dropped := trimmed head (by simp [rest])
      rw [rest] at kept
      simp [dropped] at kept

theorem strip_ne_empty {s : String} {c : Char} (present : c ∈ s.toList)
    (kept : isSpace c = false) : strip s ≠ "" := by
  intro empty
  have trimmed : trimBoth isSpace s.toList = [] := by
    simpa [strip] using congrArg String.toList empty
  have dropped := forall_of_trimBoth_eq_nil trimmed c present
  rw [kept] at dropped
  cases dropped

theorem toLower_cases (c : Char) :
    (c.toLower = c ∧ ¬(65 ≤ c.toNat ∧ c.toNat ≤ 90)) ∨
      (c.toLower.toNat = c.toNat + 32 ∧ 65 ≤ c.toNat ∧ c.toNat ≤ 90) := by
  by_cases upper : c.val ≥ 'A'.val ∧ c.val ≤ 'Z'.val
  · right
    have bounds : 65 ≤ c.val.toNat ∧ c.val.toNat ≤ 90 := by
      simpa [UInt32.le_iff_toNat_le] using upper
    have code : c.toLower.val = c.val + 32 := by
      unfold Char.toLower
      rw [dif_pos upper]
      rfl
    rw [← Char.toNat_val, code, UInt32.toNat_add]
    simp only [UInt32.reduceToNat, Char.toNat_val]
    have := bounds
    simp only [Char.toNat_val] at this
    omega
  · left
    refine ⟨?_, ?_⟩
    · unfold Char.toLower
      rw [dif_neg upper]
    · intro bounds
      apply upper
      simpa [UInt32.le_iff_toNat_le] using bounds

theorem isSpace_toLower (c : Char) : isSpace c.toLower = isSpace c := by
  rcases toLower_cases c with ⟨same, _⟩ | ⟨code, bounds⟩
  · rw [same]
  · have upper : isSpace c = false := by
      simp [isSpace]
      omega
    have lower : isSpace c.toLower = false := by
      simp [isSpace]
      omega
    rw [upper, lower]

@[simp]
theorem lower_lower : lower (lower s) = lower s := by
  simp only [lower, String.toList_ofList, List.map_map]
  congr 2
  funext c
  exact Char.toLower_toLower_eq_toLower c

theorem upper_upper : upper (upper s) = upper s := by
  simp [upper, Function.comp_def]

theorem strip_lower : strip (lower s) = lower (strip s) := by
  have dropped : ∀ cs : List Char,
      (cs.map Char.toLower).dropWhile isSpace = (cs.dropWhile isSpace).map Char.toLower := by
    intro cs
    rw [List.dropWhile_map]
    congr 2
    funext c
    exact isSpace_toLower c
  simp only [strip, lower, trimBoth, String.toList_ofList, dropped, ← List.map_reverse]

end SuseokTrader.Text
