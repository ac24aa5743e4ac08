import MysticAuth.JavaScript.Number

/-!
# The text of a float

`repr` of a float is the shortest decimal that is rounded to it.  A number is
read as digits with an optional fraction and an optional exponent.
-/

set_option autoImplicit false

namespace Python

open JavaScript

/-! ## Doubles -/

/-- The unit in the last place. -/
def ulp (q : Rat) : Rat :=
  2 ^ (max (Int.log 2 |q|) (-1022) - 52)

theorem toDouble_eq (q : Rat) :
    toDouble q = if |roundHalfEven (q / ulp q) * ulp q| < 2 ^ 1024 then
      some (roundHalfEven (q / ulp q) * ulp q) else none :=
  rfl

theorem ulp_pos (q : Rat) : 0 < ulp q := by
  unfold ulp
  positivity

theorem ulp_of_pos (q : Rat) (positive : 0 < q) :
    ulp q = 2 ^ (max (Int.log 2 q) (-1022) - 52) := by
  rw [ulp, abs_of_pos positive]

theorem roundHalfEven_of_near (x : Rat) (k : Int) (near : |x - k| < 1 / 2) :
    roundHalfEven x = k := by
  obtain ⟨below, above⟩ := abs_lt.mp near
  rcases le_or_gt (k : Rat) x with upper | lower
  · have floor : ⌊x⌋ = k := Int.floor_eq_iff.mpr ⟨upper, by linarith⟩
    have fract : Int.fract x < 1 / 2 := by
      rw [Int.fract, floor]
      exact above
    rw [roundHalfEven, if_pos fract, floor]
  · have floor : ⌊x⌋ = k - 1 := Int.floor_eq_iff.mpr (by push_cast; constructor <;> linarith)
    have fract : 1 / 2 < Int.fract x := by
      rw [Int.fract, floor]
      push_cast
      linarith
    rw [roundHalfEven, if_neg fract.le.not_gt, if_pos fract, floor]
    omega

theorem multiple_of_double (q : Rat) (double : toDouble q = some q) :
    ∃ k : Int, q = k * ulp q ∧ |q| < 2 ^ 1024 := by
  rw [toDouble_eq] at double
  split at double
  · rename_i bounded
    have same := Option.some.inj double
    exact ⟨_, same.symm, by rwa [same] at bounded⟩
  · simp at double

/-- A power of two in units. -/
theorem power_eq_units (q : Rat) (positive : 0 < q) (n : Nat) :
    (2 : Rat) ^ (max (Int.log 2 q) (-1022) - 52 + n) = 2 ^ n * ulp q := by
  rw [ulp_of_pos q positive, zpow_add₀ (by norm_num), zpow_natCast, mul_comm]

theorem log_lt_units (q r : Rat) (positive : 0 < q) (rPositive : 0 < r) (n : Nat) :
    Int.log 2 r < max (Int.log 2 q) (-1022) - 52 + n ↔ r < 2 ^ n * ulp q := by
  rw [← power_eq_units q positive]
  have powers := Int.lt_zpow_iff_log_lt (b := 2) (by norm_num) rPositive
    (x := max (Int.log 2 q) (-1022) - 52 + n)
  exact_mod_cast powers.symm

theorem lt_ulp (q : Rat) (positive : 0 < q) : q < 2 ^ 53 * ulp q := by
  apply (log_lt_units q q positive positive 53).mp
  omega

/-- Whatever is nearer to a multiple of its unit than half the unit is rounded to it. -/
theorem toDouble_of_unit (q r : Rat) (k : Int) (multiple : q = k * ulp r)
    (bounded : |q| < 2 ^ 1024) (near : 2 * |r - q| < ulp r) : toDouble r = some q := by
  have unit := ulp_pos r
  have nearest : roundHalfEven (r / ulp r) = k := by
    apply roundHalfEven_of_near
    have scaled : r / ulp r - k = (r - q) / ulp r := by
      rw [sub_div]
      congr 1
      rw [eq_div_iff unit.ne']
      exact multiple.symm
    rw [scaled, abs_div, abs_of_pos unit, div_lt_iff₀ unit]
    linarith
  rw [toDouble_eq, nearest, ← multiple, if_pos bounded]

/-- The number just below a power of two has a unit of half the size. -/
theorem ulp_of_near (q r : Rat) (positive : 0 < q) (k : Int) (multiple : q = k * ulp q)
    (near : 4 * |r - q| < ulp q) : ulp r = ulp q ∨ ulp r = ulp q / 2 := by
  have unit := ulp_pos q
  obtain ⟨below, above⟩ : -(ulp q / 4) < r - q ∧ r - q < ulp q / 4 := by
    apply abs_lt.mp
    linarith
  have kPositive : (0 : Rat) < k := by
    rw [multiple] at positive
    exact pos_of_mul_pos_left positive unit.le
  have kWhole : (1 : Rat) ≤ k := by exact_mod_cast kPositive
  have rPositive : 0 < r := by nlinarith
  have rUpper : r < 2 ^ 53 * ulp q := by
    have fits : (k : Rat) < 2 ^ 53 := by
      have upper := lt_ulp q positive
      exact lt_of_mul_lt_mul_right (multiple ▸ upper) unit.le
    have fits' : k + 1 ≤ 2 ^ 53 := by exact_mod_cast fits
    have fits'' : (k : Rat) + 1 ≤ 2 ^ 53 := by exact_mod_cast fits'
    nlinarith
  have most := (log_lt_units q r positive rPositive 53).mpr rUpper
  rw [ulp_of_pos r rPositive]
  by_cases crosses : -1022 < Int.log 2 q ∧ r < 2 ^ 52 * ulp q
  · -- The double is the power of two that the number does not reach.
    right
    obtain ⟨normal, lower⟩ := crosses
    have below := (log_lt_units q r positive rPositive 52).mpr lower
    have least : 2 ^ 52 * ulp q ≤ q := by
      apply not_lt.mp
      rw [← log_lt_units q q positive positive 52]
      omega
    have least' : ¬ r < 2 ^ 51 * ulp q := by linarith
    rw [← log_lt_units q r positive rPositive 51] at least'
    have exponents : max (Int.log 2 r) (-1022) - 52 = max (Int.log 2 q) (-1022) - 52 - 1 := by
      omega
    rw [exponents, zpow_sub_one₀ (by norm_num), ← ulp_of_pos q positive, div_eq_mul_inv]
  · left
    rw [← log_lt_units q r positive rPositive 52] at crosses
    have exponents : max (Int.log 2 r) (-1022) = max (Int.log 2 q) (-1022) := by omega
    rw [exponents, ulp_of_pos q positive]

/-- Whatever is nearer to a double than a quarter of its unit is rounded to it. -/
theorem toDouble_of_near (q r : Rat) (positive : 0 < q) (double : toDouble q = some q)
    (near : 4 * |r - q| < ulp q) : toDouble r = some q := by
  obtain ⟨k, multiple, bounded⟩ := multiple_of_double q double
  have distance := abs_nonneg (r - q)
  rcases ulp_of_near q r positive k multiple near with same | half
  · apply toDouble_of_unit q r k _ bounded
    · linarith
    · rwa [same]
  · apply toDouble_of_unit q r (2 * k) _ bounded
    · linarith
    · rw [half]
      push_cast
      linarith

/-! ## The shortest decimal -/

/-- The two decimals around the number with one digit and `more` further ones, the nearer first. -/
def candidates (q : Rat) (more : Nat) : List (Int × Int) :=
  let exponent := Int.log 10 q - more
  let scaled := q / 10 ^ exponent
  let nearest := roundHalfEven scaled
  let other := if nearest = ⌊scaled⌋ then ⌊scaled⌋ + 1 else ⌊scaled⌋
  [(nearest, exponent), (other, exponent)]

def readsBack (q : Rat) (decimal : Int × Int) : Bool :=
  decide (0 < decimal.1) && decide (toDouble (decimal.1 * 10 ^ decimal.2) = some q)

/-- Digits and exponent.  No double needs more digits than the bound allows. -/
def shortestDecimal (q : Rat) : Option (Int × Int) :=
  (List.range 18).findSome? fun more => (candidates q more).find? (readsBack q)

theorem roundHalfEven_error (x : Rat) : |(roundHalfEven x : Rat) - x| ≤ 1 / 2 := by
  have below := Int.floor_le x
  have above := Int.lt_floor_add_one x
  have fract : Int.fract x = x - ⌊x⌋ := rfl
  rw [abs_le]
  unfold roundHalfEven
  split
  · constructor <;> linarith
  · split
    · push_cast
      constructor <;> linarith
    · split
      · constructor <;> linarith
      · push_cast
        constructor <;> linarith

theorem toDouble_of_multiple (q : Rat) (k : Int) (multiple : q = k * ulp q)
    (bounded : |q| < 2 ^ 1024) : toDouble q = some q := by
  have whole : q / ulp q = k := by
    rw [div_eq_iff (ulp_pos q).ne']
    exact multiple
  rw [toDouble_eq, whole, roundHalfEven_intCast, ← multiple, if_pos bounded]

theorem roundHalfEven_nonneg (x : Rat) (nonneg : 0 ≤ x) : 0 ≤ roundHalfEven x := by
  have floor : 0 ≤ ⌊x⌋ := Int.floor_nonneg.mpr nonneg
  unfold roundHalfEven
  split
  · exact floor
  · split
    · omega
    · split <;> omega

/-- A multiple of a unit is a multiple of its own unit, unless it has too many digits. -/
theorem multiple_of_ulp (q : Rat) (positive : 0 < q) (k : Int) (kPositive : 0 < k)
    (digits : k ≤ 2 ^ 53) : ∃ l : Int, k * ulp q = l * ulp (k * ulp q) := by
  obtain ⟨E, exponent⟩ : ∃ E, E = max (Int.log 2 q) (-1022) := ⟨_, rfl⟩
  have unitEq : ulp q = 2 ^ (E - 52) := by rw [ulp_of_pos q positive, exponent]
  have power (n : Nat) : 2 ^ n * ulp q = (2 : Rat) ^ (E - 52 + n) := by
    rw [exponent, power_eq_units q positive]
  have kReal : (0 : Rat) < k := by exact_mod_cast kPositive
  have mPositive : 0 < k * ulp q := mul_pos kReal (ulp_pos q)
  rcases digits.eq_or_lt with carried | fits
  · have whole : (k : Rat) = 2 ^ 53 := by exact_mod_cast carried
    have log : Int.log 2 (k * ulp q) = E - 52 + 53 := by
      rw [whole, power 53]
      exact Int.log_zpow (by norm_num) _
    have exponents : max (E - 52 + 53) (-1022) - 52 = E - 52 + 1 := by omega
    have doubled : ulp (k * ulp q) = 2 * ulp q := by
      rw [ulp_of_pos _ mPositive, log, exponents, zpow_add_one₀ (by norm_num), ← unitEq, mul_comm]
    refine ⟨2 ^ 52, ?_⟩
    rw [doubled, whole]
    push_cast
    ring
  · have below : Int.log 2 (k * ulp q) < E - 52 + 53 := by
      have upper : (k : Rat) < 2 ^ 53 := by exact_mod_cast fits
      have product := mul_lt_mul_of_pos_right upper (ulp_pos q)
      rw [exponent]
      exact (log_lt_units q _ positive mPositive 53).mpr product
    obtain ⟨F, finer⟩ : ∃ F, F = max (Int.log 2 (k * ulp q)) (-1022) := ⟨_, rfl⟩
    refine ⟨k * 2 ^ (E - F).toNat, ?_⟩
    have exponents : E - 52 = ((E - F).toNat : Int) + (F - 52) := by omega
    have units : ulp q = 2 ^ (E - F).toNat * ulp (k * ulp q) := by
      rw [ulp_of_pos _ mPositive, ← finer, unitEq, exponents, zpow_add₀ (by norm_num), zpow_natCast]
    push_cast
    rw [mul_assoc, ← units]

/-- Rounding a rounded number changes nothing. -/
theorem toDouble_rounded (q double : Rat) (nonneg : 0 ≤ q) (rounded : toDouble q = some double) :
    0 ≤ double ∧ toDouble double = some double := by
  rw [toDouble_eq] at rounded
  split at rounded
  swap
  · simp at rounded
  rename_i bounded
  obtain ⟨k, kEq⟩ : ∃ k, k = roundHalfEven (q / ulp q) := ⟨_, rfl⟩
  rw [← kEq] at rounded bounded
  obtain rfl := Option.some.inj rounded
  have unit := ulp_pos q
  have kNonneg : 0 ≤ k := kEq ▸ roundHalfEven_nonneg _ (div_nonneg nonneg unit.le)
  refine ⟨mul_nonneg (by exact_mod_cast kNonneg) unit.le, ?_⟩
  rcases kNonneg.eq_or_lt with zero | kPositive
  · apply toDouble_of_multiple _ 0 _ bounded
    simp [← zero]
  · have positive : 0 < q := by
      apply nonneg.lt_of_ne
      rintro rfl
      rw [zero_div] at kEq
      have : roundHalfEven (0 : Rat) = 0 := roundHalfEven_intCast 0
      omega
    have digits : k ≤ 2 ^ 53 := by
      have error := abs_le.mp (roundHalfEven_error (q / ulp q))
      have small := (div_lt_iff₀ unit).mpr (lt_ulp q positive)
      rw [← kEq] at error
      have : (k : Rat) < 2 ^ 53 + 1 := by linarith
      have : k < 2 ^ 53 + 1 := by exact_mod_cast this
      omega
    obtain ⟨l, multiple⟩ := multiple_of_ulp q positive k kPositive digits
    exact toDouble_of_multiple _ l multiple bounded
theorem exists_readsBack (q : Rat) (positive : 0 < q) (double : toDouble q = some q) :
    ∃ decimal ∈ candidates q 17, readsBack q decimal = true := by
  obtain ⟨exponent, exponentEq⟩ : ∃ exponent, exponent = Int.log 10 q - (17 : Nat) := ⟨_, rfl⟩
  have leading : (10 : Rat) ^ exponent * 10 ^ 17 ≤ q := by
    have least : ((10 : Nat) : Rat) ^ Int.log 10 q ≤ q := Int.zpow_log_le_self (by norm_num) positive
    have split : ((10 : Nat) : Rat) ^ Int.log 10 q = 10 ^ exponent * 10 ^ 17 := by
      push_cast
      rw [← zpow_natCast, ← zpow_add₀ (by norm_num)]
      congr 1
      omega
    rwa [split] at least
  have scale : (0 : Rat) < 10 ^ exponent := by positivity
  have large : 10 ^ 17 ≤ q / 10 ^ exponent := by
    rw [le_div_iff₀ scale]
    linarith
  have error := roundHalfEven_error (q / 10 ^ exponent)
  obtain ⟨below, above⟩ := abs_le.mp error
  refine ⟨(roundHalfEven (q / 10 ^ exponent), exponent), ?_, ?_⟩
  · rw [exponentEq]
    exact List.mem_cons_self
  · have some_digit : 0 < roundHalfEven (q / 10 ^ exponent) := by
      have : (0 : Rat) < roundHalfEven (q / 10 ^ exponent) := by
        norm_num at large
        linarith
      exact_mod_cast this
    have near : 4 * |(roundHalfEven (q / 10 ^ exponent) : Rat) * 10 ^ exponent - q| < ulp q := by
      have scaled : (roundHalfEven (q / 10 ^ exponent) : Rat) * 10 ^ exponent - q =
          (roundHalfEven (q / 10 ^ exponent) - q / 10 ^ exponent) * 10 ^ exponent := by
        rw [sub_mul, div_mul_cancel₀ _ scale.ne']
      have bound : |(roundHalfEven (q / 10 ^ exponent) : Rat) - q / 10 ^ exponent| * 10 ^ exponent ≤
          1 / 2 * 10 ^ exponent := mul_le_mul_of_nonneg_right error scale.le
      have unit := lt_ulp q positive
      rw [scaled, abs_mul, abs_of_pos scale]
      norm_num at leading unit
      linarith
    simp only [readsBack, Bool.and_eq_true, decide_eq_true_eq]
    exact ⟨some_digit, toDouble_of_near q _ positive double near⟩

theorem shortestDecimal_spec (q : Rat) (positive : 0 < q) (double : toDouble q = some q) :
    ∃ digits exponent, shortestDecimal q = some (digits, exponent) ∧ 0 < digits ∧
      toDouble (digits * 10 ^ exponent) = some q := by
  have found : (shortestDecimal q).isSome := by
    obtain ⟨decimal, member, reads⟩ := exists_readsBack q positive double
    apply List.findSome?_isSome_iff.mpr
    exact ⟨17, by simp, List.find?_isSome.mpr ⟨decimal, member, reads⟩⟩
  obtain ⟨⟨digits, exponent⟩, shortest⟩ := Option.isSome_iff_exists.mp found
  obtain ⟨more, _, chosen⟩ := List.exists_of_findSome?_eq_some shortest
  have reads := List.find?_some chosen
  simp only [readsBack, Bool.and_eq_true, decide_eq_true_eq] at reads
  exact ⟨digits, exponent, shortest, reads.1, reads.2⟩

/-! ## Printing -/

def stripZeros (digits : List Char) : List Char :=
  (digits.reverse.dropWhile (· == '0')).reverse

/-- At least two digits. -/
def exponentText (exponent : Int) : List Char :=
  let digits := Nat.toDigits 10 exponent.natAbs
  (if exponent < 0 then '-' else '+') :: (if digits.length < 2 then '0' :: digits else digits)

/-- The point stands after the first `point` digits. -/
def formatDigits (digits : List Char) (point : Int) : List Char :=
  if -4 < point ∧ point ≤ 16 then
    if point ≤ 0 then '0' :: '.' :: (List.replicate (-point).toNat '0' ++ digits)
    else if digits.length ≤ point.toNat then
      digits ++ List.replicate (point.toNat - digits.length) '0' ++ ['.', '0']
    else digits.take point.toNat ++ '.' :: digits.drop point.toNat
  else
    match digits with
    | [] => []
    | first :: more =>
        first :: ((if more = [] then [] else '.' :: more) ++ 'e' :: exponentText (point - 1))

def reprPositive (q : Rat) : List Char :=
  match shortestDecimal q with
  | none => []
  | some (decimal, exponent) =>
      let digits := Nat.toDigits 10 decimal.toNat
      formatDigits (stripZeros digits) (digits.length + exponent)

/-- `float.__repr__`. -/
def reprFloat (q : Rat) : List Char :=
  if q = 0 then ['0', '.', '0']
  else if q < 0 then '-' :: reprPositive |q|
  else reprPositive q

/-! ## Scanning -/

structure NumberText where
  whole : List Char
  fraction : Option (List Char)
  exponent : Option Int

/-- A zero that leads is the whole part by itself. -/
def scanWhole : List Char → Option (List Char × List Char)
  | [] => none
  | '0' :: rest => some (['0'], rest)
  | c :: rest => if c.isDigit then some ((c :: rest).span Char.isDigit) else none

/-- A point without a digit after it is left alone. -/
def scanFraction : List Char → Option (List Char) × List Char
  | '.' :: rest =>
      match rest.span Char.isDigit with
      | ([], _) => (none, '.' :: rest)
      | (digits, rest) => (some digits, rest)
  | text => (none, text)

def scanExponent : List Char → Option Int × List Char
  | [] => (none, [])
  | c :: rest =>
      if c = 'e' ∨ c = 'E' then
        let (negative, text) := takeSign rest
        match text.span Char.isDigit with
        | ([], _) => (none, c :: rest)
        | (digits, after) =>
            let magnitude : Int := Nat.ofDigitChars 10 digits 0
            (some (if negative then -magnitude else magnitude), after)
      else (none, c :: rest)

def scanNumber (text : List Char) : Option (NumberText × List Char) :=
  (scanWhole text).map fun (whole, rest) =>
    let (fraction, rest) := scanFraction rest
    let (exponent, rest) := scanExponent rest
    (⟨whole, fraction, exponent⟩, rest)

def NumberText.isFloat (number : NumberText) : Bool :=
  number.fraction.isSome || number.exponent.isSome

def NumberText.value (number : NumberText) : Rat :=
  let fraction := number.fraction.getD []
  (Nat.ofDigitChars 10 (number.whole ++ fraction) 0 : Rat) *
    10 ^ (number.exponent.getD 0 - (fraction.length : Int))

/-! ## What is printed is read back -/

/-- The text does not go on with a number. -/
def EndsNumber (rest : List Char) : Prop :=
  ∀ c ∈ rest.head?, c.isDigit = false ∧ c ≠ '.' ∧ c ≠ 'e' ∧ c ≠ 'E'

/-- Digits without a leading zero. -/
structure Significant (digits : List Char) : Prop where
  all : ∀ c ∈ digits, c.isDigit = true
  leading : ∃ first more, digits = first :: more ∧ first ≠ '0'

theorem span_digits (digits rest : List Char) (all : ∀ c ∈ digits, c.isDigit = true)
    (ends : ∀ c ∈ rest.head?, c.isDigit = false) :
    (digits ++ rest).span Char.isDigit = (digits, rest) := by
  rw [List.span_eq_takeWhile_dropWhile, List.takeWhile_append_of_pos all,
    List.dropWhile_append_of_pos all]
  cases rest with
  | nil => simp
  | cons c rest =>
      have stop : c.isDigit = false := ends c rfl
      simp [stop]

theorem scanFraction_digits (digits rest : List Char) (nonempty : digits ≠ [])
    (all : ∀ c ∈ digits, c.isDigit = true) (ends : ∀ c ∈ rest.head?, c.isDigit = false) :
    scanFraction ('.' :: (digits ++ rest)) = (some digits, rest) := by
  simp only [scanFraction, span_digits digits rest all ends]

theorem scanFraction_ends (rest : List Char) (ends : ∀ c ∈ rest.head?, c ≠ '.') :
    scanFraction rest = (none, rest) := by
  unfold scanFraction
  split
  · exact absurd rfl (ends '.' rfl)
  · rfl

theorem scanExponent_ends (rest : List Char) (ends : ∀ c ∈ rest.head?, c ≠ 'e' ∧ c ≠ 'E') :
    scanExponent rest = (none, rest) := by
  cases rest with
  | nil => rfl
  | cons c rest =>
      obtain ⟨lower, upper⟩ := ends c rfl
      simp [scanExponent, lower, upper]

theorem scanWhole_digits (digits rest : List Char) (significant : Significant digits)
    (ends : ∀ c ∈ rest.head?, c.isDigit = false) :
    scanWhole (digits ++ rest) = some (digits, rest) := by
  obtain ⟨first, more, rfl, nonzero⟩ := significant.leading
  have digit : first.isDigit = true := significant.all first List.mem_cons_self
  have spanned := span_digits (first :: more) rest significant.all ends
  simp only [List.cons_append] at spanned ⊢
  rw [scanWhole]
  · rw [if_pos digit, spanned]
  · exact nonzero

theorem isDigit_of_mem_toDigits (n : Nat) (c : Char) (member : c ∈ Nat.toDigits 10 n) :
    c.isDigit = true :=
  Nat.isDigit_of_mem_toDigits (by decide) (by decide) member

/-- The digits of an exponent, padded to two. -/
theorem exponent_digits (n : Nat) :
    ∃ digits, (if (Nat.toDigits 10 n).length < 2 then '0' :: Nat.toDigits 10 n
        else Nat.toDigits 10 n) = digits ∧ digits ≠ [] ∧ (∀ c ∈ digits, c.isDigit = true) ∧
      Nat.ofDigitChars 10 digits 0 = n := by
  refine ⟨_, rfl, ?_, ?_, ?_⟩
  · split
    · simp
    · exact Nat.toDigits_ne_nil
  · intro c member
    split at member
    · rcases List.mem_cons.mp member with rfl | tail
      · rfl
      · exact isDigit_of_mem_toDigits n c tail
    · exact isDigit_of_mem_toDigits n c member
  · split
    · rw [Nat.ofDigitChars_cons]
      exact Nat.ofDigitChars_ten_toDigits
    · exact Nat.ofDigitChars_ten_toDigits

theorem scanExponent_text (exponent : Int) (rest : List Char)
    (ends : ∀ c ∈ rest.head?, c.isDigit = false) :
    scanExponent ('e' :: (exponentText exponent ++ rest)) = (some exponent, rest) := by
  obtain ⟨digits, text, nonempty, all, value⟩ := exponent_digits exponent.natAbs
  have signed : takeSign (exponentText exponent ++ rest) =
      (decide (exponent < 0), digits ++ rest) := by
    simp only [exponentText, text]
    by_cases negative : exponent < 0
    · simp [negative, takeSign]
    · simp [negative, takeSign]
  have spanned := span_digits digits rest all ends
  simp only [scanExponent, true_or, if_true, signed, spanned]
  rw [value]
  by_cases negative : exponent < 0
  · simp only [negative, decide_true, if_true]
    congr 2
    omega
  · simp only [negative, decide_false, Bool.false_eq_true, if_false]
    congr 2
    omega

/-- What a printed float is scanned as. -/
structure ReadsAs (text rest : List Char) (value : Rat) (number : NumberText) : Prop where
  scanned : scanNumber text = some (number, rest)
  isFloat : number.isFloat = true
  value : number.value = value

/-- Digits, a point and digits. -/
theorem scanNumber_fraction (whole fraction rest : List Char) (nonempty : fraction ≠ [])
    (all : ∀ c ∈ fraction, c.isDigit = true) (ends : EndsNumber rest)
    (scanned : ∀ after : List Char, (∀ c ∈ after.head?, c.isDigit = false) →
      scanWhole (whole ++ after) = some (whole, after)) :
    ReadsAs (whole ++ '.' :: (fraction ++ rest)) rest
      ((Nat.ofDigitChars 10 (whole ++ fraction) 0 : Rat) * 10 ^ (-(fraction.length : Int)))
      ⟨whole, some fraction, none⟩ where
  scanned := by
    rw [scanNumber, scanned _ (fun c head => by simp at head; subst head; rfl)]
    simp only [Option.map_some, scanFraction_digits fraction rest nonempty all
      (fun c head => (ends c head).1), scanExponent_ends rest
      (fun c head => ⟨(ends c head).2.2.1, (ends c head).2.2.2⟩)]
  isFloat := rfl
  value := by simp [NumberText.value]

theorem Significant.append_digits {digits : List Char} (significant : Significant digits)
    (more : List Char) (all : ∀ c ∈ more, c.isDigit = true) : Significant (digits ++ more) := by
  obtain ⟨first, rest, rfl, nonzero⟩ := significant.leading
  refine ⟨?_, first, rest ++ more, rfl, nonzero⟩
  intro c member
  rcases List.mem_append.mp member with own | added
  · exact significant.all c own
  · exact all c added

theorem Significant.take {digits : List Char} (significant : Significant digits) (n : Nat)
    (positive : 0 < n) : Significant (digits.take n) := by
  obtain ⟨first, rest, rfl, nonzero⟩ := significant.leading
  refine ⟨fun c member => significant.all c (List.mem_of_mem_take member), first,
    rest.take (n - 1), ?_, nonzero⟩
  rw [← List.take_succ_cons, Nat.sub_add_cancel positive]

/-- `0.00ddd` -/
theorem readsAs_small (digits : List Char) (significant : Significant digits) (zeros : Nat)
    (rest : List Char) (ends : EndsNumber rest) :
    ∃ number, ReadsAs ('0' :: '.' :: (List.replicate zeros '0' ++ digits) ++ rest) rest
      ((Nat.ofDigitChars 10 digits 0 : Rat) * 10 ^ (-(zeros : Int) - digits.length)) number := by
  have nonempty : List.replicate zeros '0' ++ digits ≠ [] := by
    obtain ⟨first, more, rfl, _⟩ := significant.leading
    simp
  have all : ∀ c ∈ List.replicate zeros '0' ++ digits, c.isDigit = true := by
    intro c member
    rcases List.mem_append.mp member with zero | digit
    · rw [List.eq_of_mem_replicate zero]
      rfl
    · exact significant.all c digit
  have reads := scanNumber_fraction ['0'] _ rest nonempty all ends (fun _ _ => rfl)
  have same : Nat.ofDigitChars 10 (['0'] ++ (List.replicate zeros '0' ++ digits)) 0 =
      Nat.ofDigitChars 10 digits 0 := by
    rw [Nat.ofDigitChars_append, Nat.ofDigitChars_append]
    have zero : Nat.ofDigitChars 10 ['0'] 0 = 0 := rfl
    rw [zero, Nat.ofDigitChars_replicate_zero, Nat.mul_zero]
  have exponent : (-((List.replicate zeros '0' ++ digits).length : Int)) =
      -(zeros : Int) - digits.length := by
    simp
    omega
  rw [same, exponent] at reads
  exact ⟨_, by simpa using reads⟩

/-- `ddd00.0` -/
theorem readsAs_whole (digits : List Char) (significant : Significant digits) (zeros : Nat)
    (rest : List Char) (ends : EndsNumber rest) :
    ∃ number, ReadsAs (digits ++ List.replicate zeros '0' ++ ['.', '0'] ++ rest) rest
      ((Nat.ofDigitChars 10 digits 0 : Rat) * 10 ^ zeros) number := by
  have whole : Significant (digits ++ List.replicate zeros '0') :=
    significant.append_digits _ fun c member => by
      rw [List.eq_of_mem_replicate member]
      rfl
  have reads := scanNumber_fraction (digits ++ List.replicate zeros '0') ['0'] rest (by simp)
    (by simp) ends (fun after stop => scanWhole_digits _ after whole stop)
  have same : (Nat.ofDigitChars 10 (digits ++ List.replicate zeros '0' ++ ['0']) 0 : Rat) *
      10 ^ (-((['0'] : List Char).length : Int)) =
        (Nat.ofDigitChars 10 digits 0 : Rat) * 10 ^ zeros := by
    rw [Nat.ofDigitChars_append, Nat.ofDigitChars_append, Nat.ofDigitChars_replicate_zero]
    simp only [Nat.ofDigitChars_cons, Nat.ofDigitChars_nil, List.length_singleton]
    push_cast
    rw [zpow_neg, zpow_one]
    simp
    ring
  rw [same] at reads
  exact ⟨_, by simpa using reads⟩

/-- `ddd.ddd` -/
theorem readsAs_mixed (digits : List Char) (significant : Significant digits) (point : Nat)
    (positive : 0 < point) (inside : point < digits.length) (rest : List Char)
    (ends : EndsNumber rest) :
    ∃ number, ReadsAs (digits.take point ++ '.' :: digits.drop point ++ rest) rest
      ((Nat.ofDigitChars 10 digits 0 : Rat) * 10 ^ ((point : Int) - digits.length)) number := by
  have nonempty : digits.drop point ≠ [] := by
    intro empty
    have := List.drop_eq_nil_iff.mp empty
    omega
  have reads := scanNumber_fraction (digits.take point) (digits.drop point) rest nonempty
    (fun c member => significant.all c (List.mem_of_mem_drop member)) ends
    (fun after stop => scanWhole_digits _ after (significant.take point positive) stop)
  have exponent : (-((digits.drop point).length : Int)) = (point : Int) - digits.length := by
    rw [List.length_drop]
    omega
  rw [List.take_append_drop, exponent] at reads
  exact ⟨_, by simpa using reads⟩

/-- `d.ddde+dd` -/
theorem readsAs_exponent (first : Char) (more : List Char) (significant : Significant (first :: more))
    (exponent : Int) (rest : List Char) (ends : EndsNumber rest) :
    ∃ number, ReadsAs (first :: ((if more = [] then [] else '.' :: more) ++ 'e' ::
        exponentText exponent) ++ rest) rest
      ((Nat.ofDigitChars 10 (first :: more) 0 : Rat) * 10 ^ (exponent - more.length)) number := by
  have stop : ∀ c ∈ rest.head?, c.isDigit = false := fun c head => (ends c head).1
  have firstAlone : Significant [first] := significant.take 1 (by omega)
  have scanned := scanExponent_text exponent rest stop
  by_cases alone : more = []
  · subst alone
    refine ⟨⟨[first], none, some exponent⟩, ?_, rfl, by simp [NumberText.value]⟩
    have whole := scanWhole_digits [first] ('e' :: (exponentText exponent ++ rest)) firstAlone
      (fun c head => by simp at head; subst head; rfl)
    have noFraction := scanFraction_ends ('e' :: (exponentText exponent ++ rest))
      (fun c head => by simp at head; subst head; decide)
    simp only [List.cons_append, List.nil_append] at whole
    simp only [if_true, List.nil_append, List.cons_append, scanNumber, whole, Option.map_some,
      noFraction, scanned]
  · refine ⟨⟨[first], some more, some exponent⟩, ?_, rfl, by simp [NumberText.value]⟩
    have digits : ∀ c ∈ more, c.isDigit = true := fun c member =>
      significant.all c (List.mem_cons_of_mem _ member)
    have whole := scanWhole_digits [first] ('.' :: (more ++ 'e' :: (exponentText exponent ++ rest)))
      firstAlone (fun c head => by simp at head; subst head; rfl)
    have fraction := scanFraction_digits more ('e' :: (exponentText exponent ++ rest)) alone digits
      (fun c head => by simp at head; subst head; rfl)
    simp only [List.cons_append, List.nil_append] at whole
    simp only [alone, if_false, List.cons_append, List.append_assoc, scanNumber, whole,
      Option.map_some, fraction, scanned]

theorem readsAs_formatDigits (digits : List Char) (significant : Significant digits) (point : Int)
    (rest : List Char) (ends : EndsNumber rest) :
    ∃ number, ReadsAs (formatDigits digits point ++ rest) rest
      ((Nat.ofDigitChars 10 digits 0 : Rat) * 10 ^ (point - digits.length)) number := by
  unfold formatDigits
  split
  · split
    · rename_i small
      have exponent : point - digits.length = -((-point).toNat : Int) - digits.length := by omega
      rw [exponent]
      exact readsAs_small digits significant _ rest ends
    · split
      · rename_i positive large
        have exponent : point - digits.length = ((point.toNat - digits.length : Nat) : Int) := by
          omega
        rw [exponent, zpow_natCast]
        exact readsAs_whole digits significant _ rest ends
      · rename_i positive inside
        have exponent : point - digits.length = (point.toNat : Int) - digits.length := by omega
        rw [exponent]
        exact readsAs_mixed digits significant point.toNat (by omega) (by omega) rest ends
  · obtain ⟨first, more, rfl, _⟩ := significant.leading
    have exponent : point - (first :: more).length = point - 1 - more.length := by
      simp
      omega
    rw [exponent]
    exact readsAs_exponent first more significant (point - 1) rest ends

/-! ## The digits of the shortest decimal -/

theorem digitChar_ne_zero : ∀ n : Nat, n < 10 → 0 < n → n.digitChar ≠ '0' := by
  decide

theorem toDigits_leading (n : Nat) (positive : 0 < n) :
    ∃ first more, Nat.toDigits 10 n = first :: more ∧ first ≠ '0' := by
  induction n using Nat.strong_induction_on with
  | _ n ih =>
      rw [Nat.toDigits_eq_if (by decide)]
      split
      · rename_i small
        exact ⟨_, [], rfl, digitChar_ne_zero n small positive⟩
      · obtain ⟨first, more, split, nonzero⟩ := ih (n / 10) (by omega) (by omega)
        exact ⟨first, more ++ [(n % 10).digitChar], by rw [split]; rfl, nonzero⟩

theorem stripZeros_append (digits : List Char) :
    ∃ zeros, digits = stripZeros digits ++ List.replicate zeros '0' := by
  refine ⟨(digits.reverse.takeWhile (· == '0')).length, ?_⟩
  have trailing : digits.reverse.takeWhile (· == '0') =
      List.replicate (digits.reverse.takeWhile (· == '0')).length '0' := by
    apply List.eq_replicate_of_mem
    intro c member
    simpa using List.mem_takeWhile_imp member
  have split := List.takeWhile_append_dropWhile (p := (· == '0')) (l := digits.reverse)
  have reversed := congrArg List.reverse split
  rw [List.reverse_append, List.reverse_reverse, trailing, List.reverse_replicate] at reversed
  exact reversed.symm

theorem stripZeros_significant (n : Nat) (positive : 0 < n) :
    Significant (stripZeros (Nat.toDigits 10 n)) := by
  obtain ⟨first, more, leading, nonzero⟩ := toDigits_leading n positive
  obtain ⟨zeros, split⟩ := stripZeros_append (Nat.toDigits 10 n)
  refine ⟨fun c member => ?_, ?_⟩
  · apply isDigit_of_mem_toDigits n
    rw [split]
    exact List.mem_append_left _ member
  · rw [leading] at split ⊢
    cases stripped : stripZeros (first :: more) with
    | nil =>
        rw [stripped, List.nil_append] at split
        have zero : first = '0' := List.eq_of_mem_replicate (split ▸ List.mem_cons_self)
        exact absurd zero nonzero
    | cons c rest =>
        rw [stripped, List.cons_append] at split
        obtain ⟨rfl, _⟩ := List.cons.inj split
        exact ⟨first, rest, rfl, nonzero⟩

theorem readsAs_reprPositive (q : Rat) (positive : 0 < q) (double : toDouble q = some q)
    (rest : List Char) (ends : EndsNumber rest) :
    ∃ number value, ReadsAs (reprPositive q ++ rest) rest value number ∧
      toDouble value = some q := by
  obtain ⟨decimal, exponent, shortest, digit, rounds⟩ := shortestDecimal_spec q positive double
  obtain ⟨zeros, split⟩ := stripZeros_append (Nat.toDigits 10 decimal.toNat)
  have significant := stripZeros_significant decimal.toNat (by omega)
  have whole : (Nat.ofDigitChars 10 (stripZeros (Nat.toDigits 10 decimal.toNat)) 0 : Rat) *
      10 ^ zeros = decimal := by
    have value : Nat.ofDigitChars 10 (Nat.toDigits 10 decimal.toNat) 0 = decimal.toNat :=
      Nat.ofDigitChars_ten_toDigits
    rw [split, Nat.ofDigitChars_append, Nat.ofDigitChars_replicate_zero] at value
    have cast : ((decimal.toNat : Int) : Rat) = decimal := by rw [Int.toNat_of_nonneg digit.le]
    rw [Nat.mul_comm] at value
    rw [← cast]
    exact_mod_cast value
  obtain ⟨number, reads⟩ := readsAs_formatDigits _ significant
    ((Nat.toDigits 10 decimal.toNat).length + exponent) rest ends
  refine ⟨number, _, ?_, rounds⟩
  have length := congrArg List.length split
  rw [List.length_append, List.length_replicate] at length
  have point : ((Nat.toDigits 10 decimal.toNat).length : Int) + exponent -
      (stripZeros (Nat.toDigits 10 decimal.toNat)).length = zeros + exponent := by
    omega
  rw [point, zpow_add₀ (by norm_num), zpow_natCast, ← mul_assoc, whole] at reads
  unfold reprPositive
  rw [shortest]
  exact reads

/-! ## Any double -/

/-- The sign of a number, and the rest of its text. -/
def splitSign : List Char → Bool × List Char
  | '-' :: rest => (true, rest)
  | text => (false, text)

/-- A finite value of the type `float`. -/
def IsDouble (q : Rat) : Prop :=
  toDouble |q| = some |q|

instance (q : Rat) : Decidable (IsDouble q) :=
  inferInstanceAs (Decidable (_ = _))

def signed (negative : Bool) (magnitude : Rat) : Rat :=
  if negative then -magnitude else magnitude

theorem splitSign_of_scanned (text rest : List Char) (number : NumberText)
    (scanned : scanNumber text = some (number, rest)) : splitSign text = (false, text) := by
  unfold splitSign
  split
  · simp [scanNumber, scanWhole] at scanned
  · rfl

/-- The text of a double is a float, and rounding it gives the double. -/
theorem scan_reprFloat (q : Rat) (double : IsDouble q) (rest : List Char) (ends : EndsNumber rest) :
    ∃ negative text number value, splitSign (reprFloat q ++ rest) = (negative, text) ∧
      ReadsAs text rest value number ∧ (toDouble value).map (signed negative) = some q := by
  rcases lt_trichotomy q 0 with negative | rfl | positive
  · have magnitude : 0 < |q| := abs_pos.mpr negative.ne
    obtain ⟨number, value, reads, rounds⟩ := readsAs_reprPositive |q| magnitude double rest ends
    refine ⟨true, reprPositive |q| ++ rest, number, value, ?_, reads, ?_⟩
    · simp only [reprFloat, negative.ne, negative, if_false, if_true]
      rfl
    · simp [rounds, signed, abs_of_neg negative]
  · have reads := scanNumber_fraction ['0'] ['0'] rest (by simp) (by simp) ends (fun _ _ => rfl)
    refine ⟨false, _, _, _, rfl, reads, ?_⟩
    have zero : (Nat.ofDigitChars 10 (['0'] ++ ['0']) 0 : Rat) = 0 := by
      have digits : Nat.ofDigitChars 10 (['0'] ++ ['0']) 0 = 0 := rfl
      rw [digits, Nat.cast_zero]
    rw [zero, zero_mul]
    rw [IsDouble, abs_zero] at double
    simp [double, signed]
  · rw [IsDouble, abs_of_pos positive] at double
    obtain ⟨number, value, reads, rounds⟩ := readsAs_reprPositive q positive double rest ends
    refine ⟨false, reprPositive q ++ rest, number, value, ?_, reads, ?_⟩
    · simp only [reprFloat, positive.ne', positive.not_gt, if_false]
      exact splitSign_of_scanned _ rest number reads.scanned
    · simp [rounds, signed]

end Python
