import Mathlib.Algebra.Ring.Int.Defs
import Mathlib.Data.Int.Notation
import MysticAuth.Python.Json

/-!
# The `datetime` module

ISO 8601 parsing (`date`, `time` and `datetime` `.fromisoformat`) and the
comparisons and conversions made on the results.  Dates are proleptic
Gregorian ordinals, times of day are microseconds since midnight, and an
instant counts microseconds from 0001-01-01T00:00 UTC.  A `ValueError` or
`OverflowError` is `none`.
-/

set_option autoImplicit false

namespace Python

/-- Microseconds in one day. -/
def dayMicros : Int :=
  24 * 3600 * 1000000

/-- Days from 0001-01-01 to 9999-12-31, both included. -/
def maxOrdinal : Int :=
  3652059

/-- A time of day; `offset` is the UTC offset of an aware value. -/
structure Time where
  micros : Int
  offset : Option Int
  deriving DecidableEq, Repr

structure Datetime where
  localMicros : Int
  offset : Option Int
  deriving DecidableEq, Repr

/-- A time zone maps an instant to its UTC offset. -/
abbrev Zone := Int → Int

namespace Date

def digit? (c : Char) : Option Int :=
  if c.isDigit then some (c.toNat - '0'.toNat) else none

def number? (digits : List Char) : Option Int :=
  digits.foldlM (fun value c => do
    let d ← digit? c
    some (10 * value + d)) 0

def isLeap (year : Int) : Bool :=
  year % 4 == 0 && (year % 100 != 0 || year % 400 == 0)

def daysInMonth (year month : Int) : Int :=
  if month = 2 then (if isLeap year then 29 else 28)
  else if month ∈ [4, 6, 9, 11] then 30
  else 31

def daysBeforeYear (year : Int) : Int :=
  let past := year - 1
  past * 365 + past / 4 - past / 100 + past / 400

def daysBeforeMonth (year month : Int) : Int :=
  ((List.range (month.toNat - 1)).map fun m => daysInMonth year (m + 1)).sum

def toOrdinal (year month day : Int) : Int :=
  daysBeforeYear year + daysBeforeMonth year month + day

def ofYmd (year month day : Int) : Option Int :=
  if 1 ≤ year ∧ year ≤ 9999 ∧ 1 ≤ month ∧ month ≤ 12 ∧ 1 ≤ day ∧ day ≤ daysInMonth year month then
    some (toOrdinal year month day)
  else none

def isoWeek1Monday (year : Int) : Int :=
  let firstDay := toOrdinal year 1 1
  let firstWeekday := (firstDay + 6) % 7
  if firstWeekday > 3 then firstDay - firstWeekday + 7 else firstDay - firstWeekday

def hasWeek53 (year : Int) : Bool :=
  let firstWeekday := toOrdinal year 1 1 % 7
  firstWeekday == 4 || (firstWeekday == 3 && isLeap year)

def ofIsoWeek (year week day : Int) : Option Int :=
  let ordinal := isoWeek1Monday year + (week - 1) * 7 + (day - 1)
  if 1 ≤ year ∧ year ≤ 9999 ∧ 1 ≤ week ∧ (week ≤ 52 ∨ (week = 53 ∧ hasWeek53 year)) ∧
      1 ≤ day ∧ day ≤ 7 ∧ ordinal ≤ maxOrdinal then
    some ordinal
  else none

/-- `date.fromisoformat`, as the ordinal of the date. -/
def fromIsoFormat : List Char → Option Int
  | [y1, y2, y3, y4, '-', 'W', w1, w2, '-', d] => do
      ofIsoWeek (← number? [y1, y2, y3, y4]) (← number? [w1, w2]) (← number? [d])
  | [y1, y2, y3, y4, '-', m1, m2, '-', d1, d2] => do
      ofYmd (← number? [y1, y2, y3, y4]) (← number? [m1, m2]) (← number? [d1, d2])
  | [y1, y2, y3, y4, '-', 'W', w1, w2] => do
      ofIsoWeek (← number? [y1, y2, y3, y4]) (← number? [w1, w2]) 1
  | [y1, y2, y3, y4, 'W', w1, w2, d] => do
      ofIsoWeek (← number? [y1, y2, y3, y4]) (← number? [w1, w2]) (← number? [d])
  | [y1, y2, y3, y4, m1, m2, d1, d2] => do
      ofYmd (← number? [y1, y2, y3, y4]) (← number? [m1, m2]) (← number? [d1, d2])
  | [y1, y2, y3, y4, 'W', w1, w2] => do
      ofIsoWeek (← number? [y1, y2, y3, y4]) (← number? [w1, w2]) 1
  | _ => none

end Date

namespace Time

/-- Digits after the decimal mark, scaled to microseconds; further digits are dropped. -/
def fraction? (digits : List Char) : Option Int :=
  if digits.isEmpty || !digits.all Char.isDigit then none
  else Date.number? ((digits ++ List.replicate 6 '0').take 6)

def seconds? : List Char → Option (Int × Int)
  | [s1, s2] => do some (← Date.number? [s1, s2], 0)
  | s1 :: s2 :: mark :: digits =>
      if mark = '.' ∨ mark = ',' then do
        some (← Date.number? [s1, s2], ← fraction? digits)
      else none
  | _ => none

/-- `HH[:MM[:SS[.f+]]]`, with or without the colons. -/
def components? : List Char → Option (Int × Int × Int × Int)
  | [h1, h2] => do some (← Date.number? [h1, h2], 0, 0, 0)
  | [h1, h2, ':', m1, m2] => do some (← Date.number? [h1, h2], ← Date.number? [m1, m2], 0, 0)
  | h1 :: h2 :: ':' :: m1 :: m2 :: ':' :: rest => do
      let (second, micro) ← seconds? rest
      some (← Date.number? [h1, h2], ← Date.number? [m1, m2], second, micro)
  | [h1, h2, m1, m2] => do some (← Date.number? [h1, h2], ← Date.number? [m1, m2], 0, 0)
  | h1 :: h2 :: m1 :: m2 :: rest => do
      let (second, micro) ← seconds? rest
      some (← Date.number? [h1, h2], ← Date.number? [m1, m2], second, micro)
  | _ => none

def microsOf (hour minute second micro : Int) : Int :=
  ((hour * 60 + minute) * 60 + second) * 1000000 + micro

/-- Microseconds since midnight; 24:00 is the midnight that ends the day. -/
def clock? (text : List Char) : Option Int := do
  let (hour, minute, second, micro) ← components? text
  if (hour ≤ 23 ∧ minute ≤ 59 ∧ second ≤ 59) ∨ (hour = 24 ∧ minute = 0 ∧ second = 0 ∧ micro = 0) then
    some (microsOf hour minute second micro)
  else none

def isZoneMark (c : Char) : Bool :=
  c == '+' || c == '-' || c == 'Z'

def offset? : List Char → Option (Option Int)
  | [] => some none
  | ['Z'] => some (some 0)
  | '+' :: text => do
      let micros ← clock? text
      if micros < dayMicros then some (some micros) else none
  | '-' :: text => do
      let micros ← clock? text
      if micros < dayMicros then some (some (-micros)) else none
  | _ => none

/-- A clock text and its zone; 24:00 is still the end of the day here. -/
def parse? (text : List Char) : Option Time := do
  let micros ← clock? (text.takeWhile fun c => !isZoneMark c)
  let offset ← offset? (text.dropWhile fun c => !isZoneMark c)
  some ⟨micros, offset⟩

/-- `time.fromisoformat`. -/
def fromIsoFormat (text : List Char) : Option Time := do
  let time ← parse? (if text.head? = some 'T' then text.tail else text)
  some { time with micros := time.micros % dayMicros }

/-- `<=`: `none` is the `TypeError` of comparing naive with aware times. -/
def le? (a b : Time) : Option Bool :=
  match a.offset, b.offset with
  | none, none => some (decide (a.micros ≤ b.micros))
  | some x, some y => some (decide (a.micros - x ≤ b.micros - y))
  | _, _ => none

end Time

namespace Datetime

/-- Where the date part of an ISO 8601 text ends. -/
def separatorIndex (text : List Char) : Nat :=
  if text.length = 7 then 7
  else if text[4]? = some '-' then
    if text[5]? = some 'W' then
      if text[8]? = some '-' then
        if (text[10]?).any Char.isDigit then 8 else 10
      else 8
    else 10
  else if text[4]? = some 'W' then
    let digits := 7 + ((text.drop 7).takeWhile Char.isDigit).length
    if digits < 9 then digits else if digits % 2 = 0 then 7 else 8
  else 8

/-- `datetime.fromisoformat`. -/
def fromIsoFormat (text : List Char) : Option Datetime := do
  let split := separatorIndex text
  let ordinal ← Date.fromIsoFormat (text.take split)
  let time ← match text.drop (split + 1) with
    | [] => some ⟨0, none⟩
    | clock => Time.parse? clock
  let localMicros := (ordinal - 1) * dayMicros + time.micros
  if localMicros < maxOrdinal * dayMicros then some ⟨localMicros, time.offset⟩ else none

def inRange (micros : Int) : Bool :=
  decide (0 ≤ micros ∧ micros < maxOrdinal * dayMicros)

/-- The local clock reading of an instant in a zone. -/
def ofInstant (zone : Zone) (instant : Int) : Option Int :=
  if inRange instant && inRange (instant + zone instant) then some (instant + zone instant) else none

/-- `dt.astimezone(zone)`, a naive value read as UTC. -/
def asTimezone (zone : Zone) (value : Datetime) : Option Int :=
  ofInstant zone (value.localMicros - value.offset.getD 0)

/-- `dt.date()`, as an ordinal. -/
def dateOf (localMicros : Int) : Int :=
  localMicros / dayMicros + 1

/-- `dt.time()`, always naive. -/
def timeOf (localMicros : Int) : Time :=
  ⟨localMicros % dayMicros, none⟩

end Datetime

/-! ## Bounds of what is parsed -/

namespace Date

theorem daysBeforeMonth_add_le (year month : Int) (first : 1 ≤ month) (last : month ≤ 12) :
    0 ≤ daysBeforeMonth year month ∧
      daysBeforeMonth year month + daysInMonth year month ≤
        if isLeap year then 366 else 365 := by
  have months : month = 1 ∨ month = 2 ∨ month = 3 ∨ month = 4 ∨ month = 5 ∨ month = 6 ∨ month = 7 ∨
      month = 8 ∨ month = 9 ∨ month = 10 ∨ month = 11 ∨ month = 12 := by omega
  cases leap : isLeap year <;>
    rcases months with rfl | rfl | rfl | rfl | rfl | rfl | rfl | rfl | rfl | rfl | rfl | rfl <;>
    simp [daysBeforeMonth, daysInMonth, leap, List.range_succ]

theorem ofYmd_bounds (year month day ordinal : Int)
    (valid : ofYmd year month day = some ordinal) : 1 ≤ ordinal ∧ ordinal ≤ maxOrdinal := by
  simp only [ofYmd] at valid
  split at valid
  · rename_i ranges
    obtain ⟨yearLow, yearHigh, monthLow, monthHigh, dayLow, dayHigh⟩ := ranges
    obtain ⟨monthStart, monthEnd⟩ := daysBeforeMonth_add_le year month monthLow monthHigh
    cases valid
    simp only [toOrdinal, daysBeforeYear, maxOrdinal]
    constructor
    · omega
    · cases leap : isLeap year with
      | true =>
        have divisible : year % 4 = 0 := by
          simp only [isLeap, Bool.and_eq_true, beq_iff_eq] at leap
          exact leap.1
        simp only [leap, if_true] at monthEnd
        omega
      | false =>
        simp only [leap, Bool.false_eq_true, if_false] at monthEnd
        omega
  · simp at valid

theorem ofIsoWeek_bounds (year week day ordinal : Int)
    (valid : ofIsoWeek year week day = some ordinal) : 1 ≤ ordinal ∧ ordinal ≤ maxOrdinal := by
  simp only [ofIsoWeek] at valid
  split at valid
  · rename_i ranges
    obtain ⟨yearLow, _, weekLow, _, dayLow, _, high⟩ := ranges
    cases valid
    refine ⟨?_, high⟩
    have january : daysBeforeMonth year 1 = 0 := rfl
    simp only [isoWeek1Monday, toOrdinal, daysBeforeYear, january]
    split <;> omega
  · simp at valid

/-- Every parsed date lies in the calendar of the years 1 to 9999. -/
theorem fromIsoFormat_bounds (text : List Char) (ordinal : Int)
    (parsed : fromIsoFormat text = some ordinal) : 1 ≤ ordinal ∧ ordinal ≤ maxOrdinal := by
  simp only [fromIsoFormat] at parsed
  split at parsed <;> simp only [Option.bind_eq_bind, Option.bind_eq_some_iff, reduceCtorEq] at parsed
  · obtain ⟨_, _, _, _, _, _, valid⟩ := parsed
    exact ofIsoWeek_bounds _ _ _ _ valid
  · obtain ⟨_, _, _, _, _, _, valid⟩ := parsed
    exact ofYmd_bounds _ _ _ _ valid
  · obtain ⟨_, _, _, _, valid⟩ := parsed
    exact ofIsoWeek_bounds _ _ _ _ valid
  · obtain ⟨_, _, _, _, _, _, valid⟩ := parsed
    exact ofIsoWeek_bounds _ _ _ _ valid
  · obtain ⟨_, _, _, _, _, _, valid⟩ := parsed
    exact ofYmd_bounds _ _ _ _ valid
  · obtain ⟨_, _, _, _, valid⟩ := parsed
    exact ofIsoWeek_bounds _ _ _ _ valid

end Date

theorem Time.fromIsoFormat_bounds (text : List Char) (time : Time)
    (parsed : Time.fromIsoFormat text = some time) :
    0 ≤ time.micros ∧ time.micros < dayMicros := by
  simp only [fromIsoFormat, Option.bind_eq_bind, Option.bind_eq_some_iff, Option.some.injEq]
    at parsed
  obtain ⟨_, _, rfl⟩ := parsed
  simp only [dayMicros]
  omega

end Python
