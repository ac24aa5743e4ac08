import Mathlib.Algebra.Order.Field.Power
import Mathlib.Algebra.Order.Round
import Mathlib.Data.Int.Log
import Mathlib.Data.List.TakeWhile
import Mathlib.Data.Rat.Floor
import Mathlib.Tactic.FieldSimp
import Mathlib.Tactic.Linarith
import Mathlib.Tactic.NormNum
import Mathlib.Tactic.Positivity

/-!
# `Number` of a string

A string is read as a decimal, hexadecimal, octal or binary numeral and rounded
to the nearest double.  `none` stands for `NaN` and the infinities, of which
`Number.isFinite` is false.
-/

set_option autoImplicit false

namespace JavaScript

/-! ## Doubles -/

/-- To the nearest integer, and to the even one of two. -/
def roundHalfEven (q : Rat) : Int :=
  if Int.fract q < 1 / 2 then ⌊q⌋
  else if 1 / 2 < Int.fract q then ⌊q⌋ + 1
  else if ⌊q⌋ % 2 = 0 then ⌊q⌋ else ⌊q⌋ + 1

/-- 53 significant bits, of which the lowest is worth at least `2 ^ (-1074)`. -/
def toDouble (q : Rat) : Option Rat :=
  let unit : Rat := 2 ^ (max (Int.log 2 |q|) (-1022) - 52)
  let nearest := roundHalfEven (q / unit) * unit
  if |nearest| < 2 ^ 1024 then some nearest else none

theorem roundHalfEven_intCast (z : Int) : roundHalfEven (z : Rat) = z := by
  simp [roundHalfEven]

/-- The unit in the last place of a small integer divides it. -/
theorem toDouble_natCast (n : Nat) (small : n < 2 ^ 53) : toDouble (n : Rat) = some (n : Rat) := by
  have magnitude : Nat.log 2 n ≤ 52 := Nat.lt_succ_iff.mp (Nat.log_lt_of_lt_pow' (by omega) small)
  have exponent : max (Int.log 2 |(n : Rat)|) (-1022) - 52 = -((52 - Nat.log 2 n : Nat) : Int) := by
    rw [Nat.abs_cast, Int.log_natCast]
    omega
  have whole : (n : Rat) / 2 ^ (-((52 - Nat.log 2 n : Nat) : Int)) =
      ((n * 2 ^ (52 - Nat.log 2 n) : Nat) : Int) := by
    rw [zpow_neg, div_inv_eq_mul, zpow_natCast]
    push_cast
    rfl
  have back : (((n * 2 ^ (52 - Nat.log 2 n) : Nat) : Int) : Rat) *
      2 ^ (-((52 - Nat.log 2 n : Nat) : Int)) = n := by
    rw [← whole, div_mul_cancel₀]
    positivity
  have bounded : |(n : Rat)| < 2 ^ 1024 := by
    rw [Nat.abs_cast]
    calc (n : Rat) < 2 ^ 53 := by exact_mod_cast small
      _ ≤ 2 ^ 1024 := pow_le_pow_right₀ (by norm_num) (by norm_num)
  simp only [toDouble, exponent]
  rw [whole, roundHalfEven_intCast, back, if_pos bounded]

/-! ## Numerals -/

/-- White space and line ends, by code point. -/
def isWhiteSpace (c : Char) : Bool :=
  (9 ≤ c.toNat && c.toNat ≤ 13) || (0x2000 ≤ c.toNat && c.toNat ≤ 0x200a) ||
    [0x20, 0xa0, 0x1680, 0x2028, 0x2029, 0x202f, 0x205f, 0x3000, 0xfeff].contains c.toNat

def trim (text : List Char) : List Char :=
  ((text.dropWhile isWhiteSpace).reverse.dropWhile isWhiteSpace).reverse

/-- Whether there is a minus sign, and what follows the sign. -/
def takeSign : List Char → Bool × List Char
  | '-' :: rest => (true, rest)
  | '+' :: rest => (false, rest)
  | text => (false, text)

def exponentPart : List Char → Option Int
  | [] => some 0
  | c :: rest =>
      let (negative, digits) := takeSign rest
      if (c = 'e' ∨ c = 'E') ∧ digits ≠ [] ∧ digits.all Char.isDigit then
        let exponent : Int := Nat.ofDigitChars 10 digits 0
        some (if negative then -exponent else exponent)
      else none

def fractionPart : List Char → List Char × List Char
  | '.' :: rest => rest.span Char.isDigit
  | rest => ([], rest)

def unsignedDecimal (text : List Char) : Option Rat :=
  let (whole, rest) := text.span Char.isDigit
  let (fraction, rest) := fractionPart rest
  if whole = [] ∧ fraction = [] then none
  else (exponentPart rest).map fun exponent : Int =>
    (Nat.ofDigitChars 10 (whole ++ fraction) 0 : Rat) * 10 ^ (exponent - (fraction.length : Int))

def digitValue (c : Char) : Nat :=
  if c.isDigit then c.toNat - 48
  else if c.toLower.isAlpha then c.toLower.toNat - 87
  else 36

def basePrefix : Char → Option Nat
  | 'x' | 'X' => some 16
  | 'o' | 'O' => some 8
  | 'b' | 'B' => some 2
  | _ => none

def nonDecimal : List Char → Option Nat
  | '0' :: c :: digits =>
      (basePrefix c).bind fun base =>
        if digits ≠ [] ∧ digits.all (digitValue · < base) then
          some (digits.foldl (fun value digit => base * value + digitValue digit) 0)
        else none
  | _ => none

def readNumeral (text : List Char) : Option Rat :=
  match nonDecimal text with
  | some value => toDouble value
  | none =>
      let (negative, rest) := takeSign text
      (unsignedDecimal rest).bind fun value => toDouble (if negative then -value else value)

/-- The argument is `none` for `undefined`, whose number is `NaN`. -/
def Number (value : Option String) : Option Rat :=
  value.bind fun text =>
    if trim text.toList = [] then some 0 else readNumeral (trim text.toList)

/-! ## The numeral of a natural number -/

theorem not_whiteSpace_of_isDigit {c : Char} (digit : c.isDigit = true) : isWhiteSpace c = false := by
  have range : 48 ≤ c.toNat ∧ c.toNat ≤ 57 := by
    simpa [Char.isDigit, UInt32.le_iff_toNat_le] using digit
  simp only [isWhiteSpace, List.contains_cons, List.contains_nil, Bool.or_false, Bool.or_eq_false_iff,
    Bool.and_eq_false_iff, decide_eq_false_iff_not, beq_eq_false_iff_ne]
  omega

theorem trim_of_digits {digits : List Char} (all : ∀ c ∈ digits, c.isDigit = true) :
    trim digits = digits := by
  have kept : ∀ text : List Char, (∀ c ∈ text, c.isDigit = true) →
      text.dropWhile isWhiteSpace = text := by
    intro text digit
    cases text with
    | nil => rfl
    | cons c rest =>
      apply List.dropWhile_cons_of_neg
      simp [not_whiteSpace_of_isDigit (digit c List.mem_cons_self)]
  rw [trim, kept digits all, kept digits.reverse, List.reverse_reverse]
  intro c member
  exact all c (List.mem_reverse.mp member)

theorem nonDecimal_of_digits {digits : List Char} (all : ∀ c ∈ digits, c.isDigit = true) :
    nonDecimal digits = none := by
  unfold nonDecimal
  split
  · next c rest =>
    have digit : c.isDigit = true := all c (by simp)
    have none : basePrefix c = Option.none := by
      unfold basePrefix
      split <;> first | rfl | exact absurd digit (by decide)
    rw [none, Option.bind_none]
  · rfl

theorem takeSign_of_digits {digits : List Char} (all : ∀ c ∈ digits, c.isDigit = true) :
    takeSign digits = (false, digits) := by
  unfold takeSign
  split
  · exact absurd (all _ List.mem_cons_self) (by decide)
  · exact absurd (all _ List.mem_cons_self) (by decide)
  · rfl

theorem unsignedDecimal_of_digits {digits : List Char} (all : ∀ c ∈ digits, c.isDigit = true)
    (some_digit : digits ≠ []) :
    unsignedDecimal digits = some (Nat.ofDigitChars 10 digits 0 : Rat) := by
  have taken : digits.takeWhile Char.isDigit = digits := List.takeWhile_eq_self_iff.mpr all
  have dropped : digits.dropWhile Char.isDigit = [] := List.dropWhile_eq_nil_iff.mpr all
  simp only [unsignedDecimal, List.span_eq_takeWhile_dropWhile, taken, dropped, fractionPart]
  simp [exponentPart, some_digit]

theorem Number_toString (n : Nat) (small : n < 2 ^ 53) :
    Number (some (toString n)) = some (n : Rat) := by
  have text : (toString n).toList = Nat.toDigits 10 n := Nat.toList_repr
  have all : ∀ c ∈ Nat.toDigits 10 n, c.isDigit = true := fun c member =>
    Nat.isDigit_of_mem_toDigits (by decide) (by decide) member
  have nonempty : Nat.toDigits 10 n ≠ [] := Nat.toDigits_ne_nil
  simp only [Number, Option.bind_some, text, trim_of_digits all, if_neg nonempty, readNumeral,
    nonDecimal_of_digits all, takeSign_of_digits all, unsignedDecimal_of_digits all nonempty,
    Nat.ofDigitChars_ten_toDigits]
  exact toDouble_natCast n small

end JavaScript
