import Mathlib.Tactic.IntervalCases
import MysticAuth.Python.Datetime

/-!
# `isoformat`

The texts that `datetime.isoformat` writes, and that `fromisoformat` reads them
back.  The date is split off an ordinal by the periods of the calendar, as the
standard library does it.
-/

set_option autoImplicit false

namespace Python

/-! ## Numbers of a fixed width -/

/-- `%0*d` of a number that fits. -/
def padded : Nat → Nat → List Char
  | 0, _ => []
  | width + 1, value => padded width (value / 10) ++ [(value % 10).digitChar]

theorem digit?_digitChar (digit : Nat) (small : digit < 10) :
    Date.digit? digit.digitChar = some (digit : Int) := by
  interval_cases digit <;> rfl

theorem isDigit_digitChar (digit : Nat) (small : digit < 10) : digit.digitChar.isDigit = true := by
  interval_cases digit <;> rfl

theorem padded_length (width value : Nat) : (padded width value).length = width := by
  induction width generalizing value with
  | zero => rfl
  | succ width ih => simp [padded, ih]

theorem isDigit_of_mem_padded (width value : Nat) (c : Char) (member : c ∈ padded width value) :
    c.isDigit = true := by
  induction width generalizing value with
  | zero => cases member
  | succ width ih =>
    rw [padded, List.mem_append, List.mem_singleton] at member
    rcases member with front | rfl
    · exact ih _ front
    · exact isDigit_digitChar _ (Nat.mod_lt _ (by omega))

theorem number?_padded (width value : Nat) (fits : value < 10 ^ width) :
    Date.number? (padded width value) = some (value : Int) := by
  induction width generalizing value with
  | zero =>
    obtain rfl : value = 0 := by simpa using fits
    rfl
  | succ width ih =>
    have front := ih (value / 10) (by rw [Nat.pow_succ] at fits; omega)
    have last := digit?_digitChar (value % 10) (Nat.mod_lt _ (by omega))
    simp only [Date.number?, padded, List.foldlM_append, List.foldlM_cons, List.foldlM_nil] at front ⊢
    rw [front]
    simp only [Option.bind_eq_bind, Option.bind_some, last]
    congr 1
    omega

/-! ## Dates -/

namespace Date

/-- Days in 400, 100 and 4 years. -/
def daysIn400Years : Int := 146097

def daysIn100Years : Int := 36524

def daysIn4Years : Int := 1461

/-- `_DAYS_BEFORE_MONTH`, with the leap day. -/
def beforeMonth (leap : Bool) (month : Int) : Int :=
  [0, 31, 59, 90, 120, 151, 181, 212, 243, 273, 304, 334].getD (month.toNat - 1) 0 +
    (if 2 < month ∧ leap = true then 1 else 0)

/-- The month and the day of the `n`-th day of a year, counted from 0; the estimate of the month is
at most one too large. -/
def monthDay (leap : Bool) (n : Int) : Int × Int :=
  let month := (n + 50) / 32
  if n < beforeMonth leap month then (month - 1, n - beforeMonth leap (month - 1) + 1)
  else (month, n - beforeMonth leap month + 1)

/-- Whole periods of 400, 100, 4 and 1 years, and the days left over. -/
structure Periods where
  n400 : Int
  n100 : Int
  n4 : Int
  n1 : Int
  rest : Int

def periodsOf (n : Int) : Periods :=
  let rest400 := n % daysIn400Years
  let rest100 := rest400 % daysIn100Years
  let rest4 := rest100 % daysIn4Years
  ⟨n / daysIn400Years, rest400 / daysIn100Years, rest100 / daysIn4Years, rest4 / 365, rest4 % 365⟩

def Periods.year (periods : Periods) : Int :=
  periods.n400 * 400 + 1 + periods.n100 * 100 + periods.n4 * 4 + periods.n1

def Periods.isLeap (periods : Periods) : Bool :=
  periods.n1 = 3 && (periods.n4 ≠ 24 || periods.n100 = 3)

def Periods.ymd (periods : Periods) : Int × Int × Int :=
  if periods.n1 = 4 ∨ periods.n100 = 4 then (periods.year - 1, 12, 31)
  else (periods.year, monthDay periods.isLeap periods.rest)

/-- `_ord2ymd` -/
def ymd (ordinal : Int) : Int × Int × Int :=
  (periodsOf (ordinal - 1)).ymd

def isoFormat (ordinal : Int) : List Char :=
  let (year, month, day) := ymd ordinal
  padded 4 year.toNat ++ '-' :: padded 2 month.toNat ++ '-' :: padded 2 day.toNat

theorem daysBeforeMonth_succ (year month : Int) (first : 1 ≤ month) :
    daysBeforeMonth year (month + 1) = daysBeforeMonth year month + daysInMonth year month := by
  have next : (month + 1).toNat - 1 = month.toNat - 1 + 1 := by omega
  have index : ((month.toNat - 1 : Nat) : Int) + 1 = month := by omega
  simp [daysBeforeMonth, next, List.range_succ, index]

theorem beforeMonth_succ (year month : Int) (first : 1 ≤ month) (last : month < 12) :
    beforeMonth (isLeap year) (month + 1) =
      beforeMonth (isLeap year) month + daysInMonth year month := by
  unfold daysInMonth
  cases isLeap year <;> interval_cases month <;> decide

theorem daysBeforeMonth_eq (year month : Int) (first : 1 ≤ month) (last : month ≤ 12) :
    daysBeforeMonth year month = beforeMonth (isLeap year) month := by
  induction month, first using Int.leInduction with
  | base => cases isLeap year <;> rfl
  | succ month first ih =>
    rw [daysBeforeMonth_succ year month first, beforeMonth_succ year month first (by omega),
      ih (by omega)]

/-- Where the estimate of the month may lie. -/
theorem beforeMonth_estimate (leap : Bool) (month : Int) (first : 1 ≤ month) (last : month ≤ 12) :
    (1 < month → beforeMonth leap (month - 1) ≤ 32 * month - 50) ∧
      (month < 12 → 32 * month - 19 < beforeMonth leap (month + 1)) := by
  cases leap <;> interval_cases month <;> decide

structure IsMonthDay (year n : Int) (monthDay : Int × Int) : Prop where
  month : 1 ≤ monthDay.1 ∧ monthDay.1 ≤ 12
  day : 1 ≤ monthDay.2 ∧ monthDay.2 ≤ daysInMonth year monthDay.1
  total : daysBeforeMonth year monthDay.1 + monthDay.2 = n + 1

theorem monthDay_spec (year n : Int) (start : 0 ≤ n)
    (within : n < 365 + (if isLeap year = true then 1 else 0)) :
    IsMonthDay year n (monthDay (isLeap year) n) := by
  have january : beforeMonth (isLeap year) 1 = 0 := by cases isLeap year <;> rfl
  have december : beforeMonth (isLeap year) 12 + 31 =
      365 + (if isLeap year = true then 1 else 0) := by cases isLeap year <;> rfl
  unfold monthDay
  dsimp only
  have first : 1 ≤ (n + 50) / 32 := by omega
  have last : (n + 50) / 32 ≤ 12 := by split at within <;> omega
  have above : 32 * ((n + 50) / 32) ≤ n + 50 := by omega
  have below : n + 50 < 32 * ((n + 50) / 32) + 32 := by omega
  generalize (n + 50) / 32 = month at first last above below
  obtain ⟨previous, next⟩ := beforeMonth_estimate (isLeap year) month first last
  split
  · rename_i early
    have later : 1 < month := by
      by_contra
      obtain rfl : month = 1 := by omega
      omega
    have length := beforeMonth_succ year (month - 1) (by omega) (by omega)
    rw [Int.sub_add_cancel] at length
    have reached := previous later
    have total := daysBeforeMonth_eq year (month - 1) (by omega) (by omega)
    refine ⟨⟨?_, ?_⟩, ⟨?_, ?_⟩, ?_⟩ <;> dsimp only <;> omega
  · have total := daysBeforeMonth_eq year month first last
    have length : n < beforeMonth (isLeap year) month + daysInMonth year month := by
      by_cases isDecember : month = 12
      · subst isDecember
        have days : daysInMonth year 12 = 31 := rfl
        omega
      · have ended := next (by omega)
        have followed := beforeMonth_succ year month first (by omega)
        omega
    refine ⟨⟨?_, ?_⟩, ⟨?_, ?_⟩, ?_⟩ <;> dsimp only <;> omega

structure IsSplit (n : Int) (periods : Periods) : Prop where
  total : n = periods.n400 * daysIn400Years + periods.n100 * daysIn100Years +
    periods.n4 * daysIn4Years + periods.n1 * 365 + periods.rest
  n100 : 0 ≤ periods.n100 ∧ periods.n100 * daysIn100Years + periods.n4 * daysIn4Years +
    periods.n1 * 365 + periods.rest < daysIn400Years
  n4 : 0 ≤ periods.n4 ∧ periods.n4 * daysIn4Years + periods.n1 * 365 + periods.rest < daysIn100Years
  n1 : 0 ≤ periods.n1 ∧ periods.n1 * 365 + periods.rest < daysIn4Years
  rest : 0 ≤ periods.rest ∧ periods.rest < 365

theorem isSplit_periodsOf (n : Int) : IsSplit n (periodsOf n) := by
  constructor <;> simp only [periodsOf, daysIn400Years, daysIn100Years, daysIn4Years] <;> omega

section Split

variable {n : Int} {periods : Periods}

theorem IsSplit.isLeap_year (split : IsSplit n periods) :
    Date.isLeap periods.year = periods.isLeap := by
  have bound100 := split.n100
  have bound4 := split.n4
  have bound1 := split.n1
  have bound := split.rest
  simp only [daysIn400Years, daysIn100Years, daysIn4Years] at bound100 bound4 bound1
  rw [Bool.eq_iff_iff]
  simp only [Date.isLeap, Periods.isLeap, Periods.year, Bool.and_eq_true, beq_iff_eq,
    Bool.or_eq_true, bne_iff_ne, decide_eq_true_eq]
  omega

theorem IsSplit.daysBeforeYear (split : IsSplit n periods)
    (ordinary : ¬ (periods.n1 = 4 ∨ periods.n100 = 4)) :
    Date.daysBeforeYear periods.year + periods.rest = n := by
  rw [not_or] at ordinary
  have total := split.total
  have bound100 := split.n100
  have bound4 := split.n4
  have bound1 := split.n1
  have bound := split.rest
  simp only [daysIn400Years, daysIn100Years, daysIn4Years] at total bound100 bound4 bound1
  simp only [Date.daysBeforeYear, Periods.year]
  omega

/-- The last day of the fourth year, or of the fourth century. -/
theorem IsSplit.lastDay (split : IsSplit n periods) (last : periods.n1 = 4 ∨ periods.n100 = 4) :
    Date.isLeap (periods.year - 1) = true ∧ Date.daysBeforeYear (periods.year - 1) + 365 = n := by
  have total := split.total
  have bound100 := split.n100
  have bound4 := split.n4
  have bound1 := split.n1
  have bound := split.rest
  simp only [daysIn400Years, daysIn100Years, daysIn4Years] at total bound100 bound4 bound1
  constructor
  · simp only [Date.isLeap, Periods.year, Bool.and_eq_true, beq_iff_eq, Bool.or_eq_true,
      bne_iff_ne]
    omega
  · simp only [Date.daysBeforeYear, Periods.year]
    omega

end Split

theorem ofYmd_of_parts (year month day : Int) (years : 1 ≤ year ∧ year ≤ 9999)
    (months : 1 ≤ month ∧ month ≤ 12) (days : 1 ≤ day ∧ day ≤ daysInMonth year month) :
    ofYmd year month day = some (daysBeforeYear year + daysBeforeMonth year month + day) := by
  unfold ofYmd
  exact if_pos ⟨years.1, years.2, months.1, months.2, days.1, days.2⟩

theorem ofYmd_leap_end (year : Int) (years : 1 ≤ year ∧ year ≤ 9999) (leap : isLeap year = true) :
    ofYmd year 12 31 = some (daysBeforeYear year + 366) := by
  rw [ofYmd_of_parts year 12 31 years (by omega) (by simp [daysInMonth]),
    daysBeforeMonth_eq year 12 (by omega) (by omega), leap]
  simp only [beforeMonth, Int.reduceToNat, Nat.add_one_sub_one]
  simp
  omega

/-- The year of a representable day. -/
theorem year_bounds (year n : Int) (first : 0 ≤ n) (last : n < maxOrdinal) (rest : Int)
    (within : 0 ≤ rest ∧ rest < 366) (total : daysBeforeYear year + rest = n) :
    1 ≤ year ∧ year ≤ 9999 := by
  simp only [daysBeforeYear, maxOrdinal] at total last
  rcases Int.lt_trichotomy year 1 with early | rfl | late
  · have centuries : (year - 1) / 4 ≤ (year - 1) / 100 := by omega
    omega
  · omega
  · rcases Int.lt_trichotomy year 10000 with inside | rfl | after
    · omega
    · omega
    · have centuries : 24 * ((year - 1) / 100) ≤ (year - 1) / 4 - (year - 1) / 100 := by omega
      omega

theorem ofYmd_ymd (ordinal : Int) (first : 1 ≤ ordinal) (last : ordinal ≤ maxOrdinal) :
    ofYmd (ymd ordinal).1 (ymd ordinal).2.1 (ymd ordinal).2.2 = some ordinal := by
  have split := isSplit_periodsOf (ordinal - 1)
  generalize same : periodsOf (ordinal - 1) = periods at split
  rw [ymd, same, Periods.ymd]
  by_cases isLast : periods.n1 = 4 ∨ periods.n100 = 4
  · obtain ⟨leap, total⟩ := split.lastDay isLast
    have years := year_bounds _ _ (by omega) (by omega) 365 (by omega) total
    rw [if_pos isLast, ofYmd_leap_end _ years leap]
    congr 1
    omega
  · rw [if_neg isLast]
    have bound := split.rest
    have total := split.daysBeforeYear isLast
    have years := year_bounds _ _ (by omega) (by omega) periods.rest (by omega) total
    have parts := monthDay_spec periods.year periods.rest bound.1 (by split <;> omega)
    rw [split.isLeap_year] at parts
    have days := parts.total
    rw [ofYmd_of_parts _ _ _ years parts.month parts.day]
    congr 1
    omega

theorem ofYmd_eq_some (year month day ordinal : Int)
    (valid : ofYmd year month day = some ordinal) :
    1 ≤ year ∧ year ≤ 9999 ∧ 1 ≤ month ∧ month ≤ 12 ∧ 1 ≤ day ∧ day ≤ 31 := by
  unfold ofYmd at valid
  split at valid
  · rename_i bounds
    obtain ⟨firstYear, lastYear, firstMonth, lastMonth, firstDay, lastDay⟩ := bounds
    have most : daysInMonth year month ≤ 31 := by
      unfold daysInMonth
      split
      · split <;> omega
      · split <;> omega
    omega
  · cases valid

theorem fromIsoFormat_ymd {y₁ y₂ y₃ y₄ m₁ m₂ d₁ d₂ : Char} {year month day : Int}
    (isDigit : m₁.isDigit = true) (isYear : number? [y₁, y₂, y₃, y₄] = some year)
    (isMonth : number? [m₁, m₂] = some month) (isDay : number? [d₁, d₂] = some day) :
    fromIsoFormat [y₁, y₂, y₃, y₄, '-', m₁, m₂, '-', d₁, d₂] = ofYmd year month day := by
  have notWeek : m₁ ≠ 'W' := by
    rintro rfl
    cases isDigit
  simp [fromIsoFormat, notWeek, isYear, isMonth, isDay]

theorem fromIsoFormat_isoFormat (ordinal : Int) (first : 1 ≤ ordinal)
    (last : ordinal ≤ maxOrdinal) : fromIsoFormat (isoFormat ordinal) = some ordinal := by
  have valid := ofYmd_ymd ordinal first last
  have bounds := ofYmd_eq_some _ _ _ _ valid
  have year := number?_padded 4 (ymd ordinal).1.toNat (by omega)
  have month := number?_padded 2 (ymd ordinal).2.1.toNat (by omega)
  have day := number?_padded 2 (ymd ordinal).2.2.toNat (by omega)
  rw [Int.toNat_of_nonneg (by omega)] at year month day
  rw [← valid]
  simp only [padded, List.nil_append, List.cons_append] at year month day
  simp only [isoFormat, padded, List.nil_append, List.cons_append]
  exact fromIsoFormat_ymd (isDigit_digitChar _ (by omega)) year month day

end Date

/-! ## Times of day -/

namespace Time

def secondsText (second micro : Nat) : List Char :=
  padded 2 second ++ (if micro = 0 then [] else '.' :: padded 6 micro)

/-- `HH:MM[:SS[.ffffff]]` -/
def clockText (withSeconds : Bool) (micros : Nat) : List Char :=
  padded 2 (micros / 3600000000) ++ ':' :: (padded 2 (micros / 60000000 % 60) ++
    (if withSeconds then ':' :: secondsText (micros / 1000000 % 60) (micros % 1000000) else []))

/-- The seconds of an offset are left out when there are none. -/
def offsetText : Option Int → List Char
  | none => []
  | some offset =>
      (if offset < 0 then '-' else '+') ::
        clockText (decide (offset.natAbs % 60000000 ≠ 0)) offset.natAbs

theorem fraction?_padded (micro : Nat) (small : micro < 1000000) :
    fraction? (padded 6 micro) = some (micro : Int) := by
  have length := padded_length 6 micro
  have digits : (padded 6 micro).all Char.isDigit = true :=
    List.all_eq_true.mpr (isDigit_of_mem_padded 6 micro)
  have filled : (padded 6 micro).isEmpty = false := by
    cases isText : padded 6 micro with
    | nil =>
      rw [isText] at length
      cases length
    | cons c rest => rfl
  unfold fraction?
  rw [filled, digits, List.take_append_of_le_length (Nat.le_of_eq length.symm),
    List.take_of_length_le (Nat.le_of_eq length)]
  exact number?_padded 6 micro small

theorem seconds?_secondsText (second micro : Nat) (seconds : second < 60)
    (micros : micro < 1000000) :
    seconds? (secondsText second micro) = some ((second : Int), (micro : Int)) := by
  have isSecond := number?_padded 2 second (by omega)
  simp only [padded, List.nil_append, List.cons_append] at isSecond
  simp only [secondsText, padded, List.nil_append, List.cons_append]
  split
  · rename_i whole
    subst whole
    simp [seconds?, isSecond]
  · have fraction := fraction?_padded micro micros
    simp only [padded, List.nil_append, List.cons_append] at fraction
    simp [seconds?, isSecond, fraction]

theorem components?_seconds {h₁ h₂ m₁ m₂ : Char} {rest : List Char} {hour minute second micro : Int}
    (isHour : Date.number? [h₁, h₂] = some hour) (isMinute : Date.number? [m₁, m₂] = some minute)
    (isSecond : seconds? rest = some (second, micro)) :
    components? (h₁ :: h₂ :: ':' :: m₁ :: m₂ :: ':' :: rest) =
      some (hour, minute, second, micro) := by
  simp [components?, isHour, isMinute, isSecond]

theorem components?_minutes {h₁ h₂ m₁ m₂ : Char} {hour minute : Int}
    (isHour : Date.number? [h₁, h₂] = some hour) (isMinute : Date.number? [m₁, m₂] = some minute) :
    components? [h₁, h₂, ':', m₁, m₂] = some (hour, minute, 0, 0) := by
  simp [components?, isHour, isMinute]

theorem clock?_of_components {text : List Char} {hour minute second micro : Nat}
    (components : components? text = some ((hour : Int), (minute : Int), (second : Int), (micro : Int)))
    (within : hour < 24 ∧ minute < 60 ∧ second < 60) :
    clock? text = some (microsOf hour minute second micro) := by
  unfold clock?
  rw [components]
  exact if_pos (Or.inl ⟨by omega, by omega, by omega⟩)

theorem clock?_clockText (withSeconds : Bool) (micros : Nat) (within : micros < 86400000000)
    (whole : withSeconds = false → micros % 60000000 = 0) :
    clock? (clockText withSeconds micros) = some (micros : Int) := by
  have isHour := number?_padded 2 (micros / 3600000000) (by omega)
  have isMinute := number?_padded 2 (micros / 60000000 % 60) (by omega)
  simp only [padded, List.nil_append, List.cons_append] at isHour isMinute
  simp only [clockText, padded, List.nil_append, List.cons_append]
  cases withSeconds with
  | true =>
    have isSecond := seconds?_secondsText (micros / 1000000 % 60) (micros % 1000000) (by omega)
      (by omega)
    rw [if_pos rfl, clock?_of_components (components?_seconds isHour isMinute isSecond) (by omega)]
    congr 1
    simp only [microsOf]
    omega
  | false =>
    have whole := whole rfl
    rw [if_neg Bool.false_ne_true,
      @clock?_of_components _ _ _ 0 0 (components?_minutes isHour isMinute) (by omega)]
    congr 1
    simp only [microsOf]
    omega

theorem isZoneMark_of_isDigit (c : Char) (isDigit : c.isDigit = true) : isZoneMark c = false := by
  cases isMark : isZoneMark c with
  | false => rfl
  | true =>
    simp only [isZoneMark, Bool.or_eq_true, beq_iff_eq] at isMark
    rcases isMark with (rfl | rfl) | rfl
    · cases isDigit
    · cases isDigit
    · cases isDigit

theorem isZoneMark_of_mem_clockText (withSeconds : Bool) (micros : Nat) (c : Char)
    (member : c ∈ clockText withSeconds micros) : isZoneMark c = false := by
  have padding (width value : Nat) (inside : c ∈ padded width value) : isZoneMark c = false :=
    isZoneMark_of_isDigit c (isDigit_of_mem_padded width value c inside)
  rw [clockText, List.mem_append, List.mem_cons, List.mem_append] at member
  rcases member with hour | rfl | minute | seconds
  · exact padding _ _ hour
  · rfl
  · exact padding _ _ minute
  · split at seconds
    · rw [List.mem_cons, secondsText, List.mem_append] at seconds
      rcases seconds with rfl | second | fraction
      · rfl
      · exact padding _ _ second
      · split at fraction
        · cases fraction
        · rcases List.mem_cons.mp fraction with rfl | micro
          · rfl
          · exact padding _ _ micro
    · cases seconds

/-- An offset is less than a day. -/
def IsOffset (offset : Option Int) : Prop :=
  ∀ micros ∈ offset, -dayMicros < micros ∧ micros < dayMicros

theorem offset?_plus {text : List Char} {micros : Int} (clock : clock? text = some micros)
    (small : micros < dayMicros) : offset? ('+' :: text) = some (some micros) := by
  simp [offset?, clock, small]

theorem offset?_minus {text : List Char} {micros : Int} (clock : clock? text = some micros)
    (small : micros < dayMicros) : offset? ('-' :: text) = some (some (-micros)) := by
  simp [offset?, clock, small]

theorem offset?_offsetText (offset : Option Int) (valid : IsOffset offset) :
    offset? (offsetText offset) = some offset := by
  cases offset with
  | none => rfl
  | some micros =>
    have bounds := valid micros rfl
    have short : micros.natAbs < 86400000000 := by
      simp only [dayMicros] at bounds
      omega
    have small : (micros.natAbs : Int) < dayMicros := by
      simp only [dayMicros]
      omega
    have clock := clock?_clockText (decide (micros.natAbs % 60000000 ≠ 0)) micros.natAbs short
      (by simp)
    by_cases negative : micros < 0
    · rw [offsetText, if_pos negative, offset?_minus clock small]
      congr 2
      omega
    · rw [offsetText, if_neg negative, offset?_plus clock small]
      congr 2
      omega

/-- What follows the clock starts with the mark of the zone. -/
theorem head_offsetText (offset : Option Int) (c : Char) (head : c ∈ (offsetText offset).head?) :
    isZoneMark c = true := by
  cases offset with
  | none => cases head
  | some micros =>
    obtain rfl : (if micros < 0 then '-' else '+') = c := Option.some.inj head
    split <;> rfl

theorem parse?_clockText (withSeconds : Bool) (micros : Nat) (within : micros < 86400000000)
    (whole : withSeconds = false → micros % 60000000 = 0) (offset : Option Int)
    (valid : IsOffset offset) :
    parse? (clockText withSeconds micros ++ offsetText offset) = some ⟨micros, offset⟩ := by
  have unmarked : ∀ c ∈ clockText withSeconds micros, (!isZoneMark c) = true := by
    intro c member
    rw [isZoneMark_of_mem_clockText withSeconds micros c member]
    rfl
  have taken : (offsetText offset).takeWhile (fun c => !isZoneMark c) = [] ∧
      (offsetText offset).dropWhile (fun c => !isZoneMark c) = offsetText offset := by
    have head := head_offsetText offset
    cases isText : offsetText offset with
    | nil => exact ⟨rfl, rfl⟩
    | cons c rest =>
      have isMark := head c (by rw [isText]; rfl)
      simp [isMark]
  unfold parse?
  rw [List.takeWhile_append_of_pos unmarked, List.dropWhile_append_of_pos unmarked, taken.1,
    taken.2, List.append_nil, clock?_clockText withSeconds micros within whole,
    offset?_offsetText offset valid]
  rfl

end Time

/-! ## Both together -/

namespace Datetime

def isoFormat (value : Datetime) : List Char :=
  Date.isoFormat (dateOf value.localMicros) ++
    'T' :: (Time.clockText true (timeOf value.localMicros).micros.toNat ++
      Time.offsetText value.offset)

theorem isoFormat_ne_nil (value : Datetime) : isoFormat value ≠ [] :=
  List.append_ne_nil_of_right_ne_nil _ (List.cons_ne_nil _ _)

/-- A value that `datetime` can represent. -/
structure Valid (value : Datetime) : Prop where
  range : inRange value.localMicros = true
  offset : Time.IsOffset value.offset

theorem separatorIndex_isoFormat (ordinal : Int) (rest : List Char) :
    separatorIndex (Date.isoFormat ordinal ++ 'T' :: rest) = 10 := by
  have isDigit := isDigit_digitChar ((Date.ymd ordinal).2.1.toNat / 10 % 10)
    (Nat.mod_lt _ (by omega))
  simp only [Date.isoFormat, padded, List.nil_append, List.cons_append]
  generalize ((Date.ymd ordinal).2.1.toNat / 10 % 10).digitChar = m₁ at isDigit ⊢
  have notWeek : m₁ ≠ 'W' := by
    rintro rfl
    cases isDigit
  simp [separatorIndex, notWeek]

theorem date_length (ordinal : Int) : (Date.isoFormat ordinal).length = 10 := by
  simp [Date.isoFormat, padded_length]

/-- What `isoformat` writes, `fromisoformat` reads back. -/
theorem fromIsoFormat_isoFormat (value : Datetime) (valid : value.Valid) :
    fromIsoFormat (isoFormat value) = some value := by
  obtain ⟨localMicros, offset⟩ := value
  have range := of_decide_eq_true valid.range
  simp only [dayMicros, maxOrdinal] at range
  have length := date_length (dateOf localMicros)
  have date := Date.fromIsoFormat_isoFormat (dateOf localMicros)
    (by simp only [dateOf, dayMicros]; omega) (by simp only [dateOf, dayMicros, maxOrdinal]; omega)
  have clock := Time.parse?_clockText true (timeOf localMicros).micros.toNat
    (by simp only [timeOf, dayMicros]; omega) (by simp) offset valid.offset
  unfold fromIsoFormat
  simp only [isoFormat]
  rw [separatorIndex_isoFormat, ← length, List.take_left, date, List.drop_length_add_append]
  have total : (dateOf localMicros - 1) * dayMicros + ((timeOf localMicros).micros.toNat : Int) =
      localMicros := by
    simp only [dateOf, timeOf, dayMicros]
    omega
  cases isText : Time.clockText true (timeOf localMicros).micros.toNat ++
      Time.offsetText offset with
  | nil => simp [Time.clockText, padded] at isText
  | cons c rest =>
    rw [isText] at clock
    simp only [List.drop_succ_cons, List.drop_zero, Option.bind_eq_bind, Option.bind_some, clock,
      total]
    exact if_pos (of_decide_eq_true valid.range).2

end Datetime

end Python
