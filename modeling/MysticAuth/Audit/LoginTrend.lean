import MysticAuth.Python.Datetime
import MysticAuth.Python.Grouping
import MysticAuth.Users.UserQueries

/-!
# The trend of logins

The database counts the login events by the UTC date of their time, and the
days of the range are then listed with what was counted for each.
-/

set_option autoImplicit false

namespace MysticAuth.Audit

open Python

structure AuditLog where
  userEmail : Option String
  eventType : String
  success : Bool
  createdAt : Int

/-- `_LOGIN_EVENT_TYPES` -/
def loginEventTypes : List String :=
  ["login_success", "login_failure", "oauth2_login_success", "passkey_login_success",
    "passkey_login_failure"]

structure TrendQuery where
  days : Int
  userEmail : Option String
  search : Option String
  fromTime : Option Datetime
  toTime : Option Datetime

/-- A date stands for its `isoformat`. -/
structure TrendDay where
  date : Int
  success : Nat
  failure : Nat
  deriving DecidableEq

/-- What a call finds around it: the instant of a local time, the locale's `ILIKE`, and two readings
of the clock. -/
structure Surroundings where
  systemZone : Int → Int
  ilike : String → String → Bool
  now : Int
  later : Int

section Trend

variable (around : Surroundings)

def instantOf (bound : Datetime) : Int :=
  match bound.offset with
  | some offset => bound.localMicros - offset
  | none => around.systemZone bound.localMicros

/-- `astimezone(UTC)`; `none` is an `OverflowError`. -/
def astimezoneUtc (bound : Datetime) : Option Int :=
  if Datetime.inRange (instantOf around bound) then some (instantOf around bound) else none

def utcDate (bound : Datetime) : Option Int :=
  (astimezoneUtc around bound).map Datetime.dateOf

/-- `since` and `until` -/
def trendRange (query : TrendQuery) : Option (Int × Int) :=
  match query.fromTime with
  | some bound => do
      let since ← utcDate around bound
      let until_ ← utcDate around (query.toTime.getD bound)
      some (since, until_)
  | none =>
      let since := Datetime.dateOf around.now - (query.days - 1)
      if 1 ≤ since ∧ since ≤ maxOrdinal then some (since, Datetime.dateOf around.later) else none

/-- `date(timezone('UTC', created_at))` -/
def dayOf (event : AuditLog) : Int :=
  Datetime.dateOf event.createdAt

def ofUser (userEmail : Option String) (event : AuditLog) : Bool :=
  match userEmail with
  | none | some "" => true
  | some email => decide (event.userEmail = some email)

def isFound (search : Option String) (event : AuditLog) : Bool :=
  match search with
  | none | some "" => true
  | some text => event.userEmail.any fun email => around.ilike email (Users.ilikePattern text)

/-- The events that are asked for, at whatever time. -/
def isAsked (query : TrendQuery) (event : AuditLog) : Bool :=
  decide (event.eventType ∈ loginEventTypes) && ofUser query.userEmail event &&
    isFound around query.search event

def isWithin (lower upper : Option Int) (event : AuditLog) : Bool :=
  decide ((∀ bound ∈ lower, bound ≤ event.createdAt) ∧ ∀ bound ∈ upper, event.createdAt ≤ bound)

/-- The rows of `GROUP BY`: a day and its two sums. -/
def countsByDay (events : List AuditLog) : List (Int × (Nat × Nat)) :=
  (groupPairs (events.map fun event => (dayOf event, event))).map fun group =>
    (group.1, (group.2.countP fun event => event.success, group.2.countP fun event => !event.success))

def trendDay (counts : List (Int × (Nat × Nat))) (date : Int) : TrendDay :=
  let sums := (counts.lookup date).getD (0, 0)
  ⟨date, sums.1, sums.2⟩

def getLoginTrend (query : TrendQuery) (log : List AuditLog) : Option (List TrendDay) := do
  let (since, until_) ← trendRange around query
  if until_ < since then some []
  else do
    let lower ← query.fromTime.mapM (astimezoneUtc around)
    let upper ← query.toTime.mapM (astimezoneUtc around)
    let counts := countsByDay (log.filter fun event =>
      isAsked around query event && decide (since ≤ dayOf event ∧ dayOf event ≤ until_) &&
        isWithin lower upper event)
    some ((List.range (until_ - since + 1).toNat).map fun (i : Nat) => trendDay counts (since + i))

/-- The dates are those from the first to the last, one behind the other, and the sums are the
numbers of events between the bounds. -/
structure Partitions (query : TrendQuery) (log : List AuditLog) (lower upper : Int)
    (trend : List TrendDay) : Prop where
  covers : ∀ date, date ∈ trend.map TrendDay.date ↔
    Datetime.dateOf lower ≤ date ∧ date ≤ Datetime.dateOf upper
  consecutive : (trend.map TrendDay.date).IsChain fun day next => next = day + 1
  success : (trend.map TrendDay.success).sum = log.countP fun event =>
    isAsked around query event && event.success && isWithin (some lower) (some upper) event
  failure : (trend.map TrendDay.failure).sum = log.countP fun event =>
    isAsked around query event && !event.success && isWithin (some lower) (some upper) event

end Trend

/-! ## Sums over days -/

theorem sum_range_indicator (n d : Nat) :
    ((List.range n).map fun i => if d = i then 1 else 0).sum = if d < n then 1 else 0 := by
  induction n with
  | zero => simp
  | succ n ih =>
    rw [List.range_succ, List.map_append, List.sum_append, ih, List.map_singleton,
      List.sum_singleton]
    split <;> split <;> split <;> omega

/-- Days that cover every event count it once. -/
theorem sum_countP_days {α : Type} (day : α → Int) (since : Int) (n : Nat) (counted : α → Bool)
    (events : List α) (covered : ∀ event ∈ events, since ≤ day event ∧ day event < since + n) :
    ((List.range n).map fun (i : Nat) =>
      events.countP fun event => decide (day event = since + i) && counted event).sum =
        events.countP counted := by
  induction events with
  | nil => simp
  | cons event events ih =>
    obtain ⟨⟨first, last⟩, rest⟩ := List.forall_mem_cons.mp covered
    have own := sum_range_indicator n (day event - since).toNat
    rw [if_pos (by omega)] at own
    simp only [List.countP_cons, List.sum_map_add, ih rest]
    congr 1
    cases counted event with
    | false => simp
    | true =>
      refine Eq.trans ?_ own
      congr 1
      refine List.map_congr_left fun i _ => ?_
      simp only [Bool.and_true, decide_eq_true_eq]
      exact if_congr (by omega) rfl rfl

theorem lookup_countsByDay (events : List AuditLog) (day : Int) :
    ((countsByDay events).lookup day).getD (0, 0) =
      (events.countP fun event => decide (dayOf event = day) && event.success,
        events.countP fun event => decide (dayOf event = day) && !event.success) := by
  let sums (events : List AuditLog) : Nat × Nat :=
    (events.countP fun event => event.success, events.countP fun event => !event.success)
  have grouped := groupOf_groupPairs day (events.map fun event => (dayOf event, event))
  have absent (found : Option (List AuditLog)) :
      (found.map sums).getD (0, 0) = sums (found.getD []) := by
    cases found <;> rfl
  calc
    _ = sums (groupOf day (groupPairs (events.map fun event => (dayOf event, event)))) := by
      rw [countsByDay, lookup_map_items fun _ => sums, absent, groupOf]
    _ = _ := by
      rw [grouped]
      simp [sums, valuesOf, List.countP_filter, List.filter_map, Function.comp_def,
        Bool.and_comm]

/-! ## The buckets of a range -/

section Range

variable (around : Surroundings)

theorem dateOf_mono {instant instant' : Int} (ordered : instant ≤ instant') :
    Datetime.dateOf instant ≤ Datetime.dateOf instant' :=
  Int.add_le_add_right (Int.ediv_le_ediv (by decide) ordered) 1

theorem isChain_dates (since : Int) (n : Nat) :
    ((List.range n).map fun (i : Nat) => since + i).IsChain fun day next => next = day + 1 := by
  rw [List.isChain_iff_getElem]
  intro i within
  simp only [List.getElem_map, List.getElem_range]
  omega

/-- What is counted for the days of a range is what is asked for between the bounds. -/
theorem sum_counts (query : TrendQuery) (log : List AuditLog) {lower upper : Int}
    (ordered : lower ≤ upper) (counted : AuditLog → Bool) :
    ((List.range (Datetime.dateOf upper - Datetime.dateOf lower + 1).toNat).map fun (i : Nat) =>
      (log.filter fun event => isAsked around query event &&
        decide (Datetime.dateOf lower ≤ dayOf event ∧ dayOf event ≤ Datetime.dateOf upper) &&
          isWithin (some lower) (some upper) event).countP fun event =>
            decide (dayOf event = Datetime.dateOf lower + i) && counted event).sum =
      log.countP fun event =>
        isAsked around query event && counted event && isWithin (some lower) (some upper) event := by
  have notEmpty := dateOf_mono ordered
  rw [sum_countP_days dayOf]
  · rw [List.countP_filter]
    refine List.countP_congr fun event _ => ?_
    simp only [Bool.and_eq_true, decide_eq_true_eq, isWithin, Option.mem_some_iff, forall_eq']
    constructor
    · rintro ⟨isCounted, ⟨asked, -⟩, within⟩
      exact ⟨⟨asked, isCounted⟩, within⟩
    · rintro ⟨⟨asked, isCounted⟩, within⟩
      exact ⟨isCounted, ⟨asked, dateOf_mono within.1, dateOf_mono within.2⟩, within⟩
  · intro event member
    have kept := (List.mem_filter.mp member).2
    simp only [Bool.and_eq_true, decide_eq_true_eq] at kept
    omega

/-- The days of the range, with what is counted between the bounds. -/
def trendDays (query : TrendQuery) (log : List AuditLog) (lower upper : Int) : List TrendDay :=
  let counts := countsByDay (log.filter fun event => isAsked around query event &&
    decide (Datetime.dateOf lower ≤ dayOf event ∧ dayOf event ≤ Datetime.dateOf upper) &&
      isWithin (some lower) (some upper) event)
  (List.range (Datetime.dateOf upper - Datetime.dateOf lower + 1).toNat).map fun (i : Nat) =>
    trendDay counts (Datetime.dateOf lower + i)

/-- Bounds that have a UTC time, the second not before the first, are covered day by day. -/
theorem trend_partitions (query : TrendQuery) (log : List AuditLog) {start finish : Datetime}
    (fromGiven : query.fromTime = some start) (toGiven : query.toTime = some finish)
    (fromUtc : Datetime.inRange (instantOf around start) = true)
    (toUtc : Datetime.inRange (instantOf around finish) = true)
    (ordered : instantOf around start ≤ instantOf around finish) :
    ∃ trend, getLoginTrend around query log = some trend ∧
      Partitions around query log (instantOf around start) (instantOf around finish) trend := by
  have notBefore := dateOf_mono ordered
  have range : trendRange around query = some (Datetime.dateOf (instantOf around start),
      Datetime.dateOf (instantOf around finish)) := by
    simp [trendRange, fromGiven, toGiven, utcDate, astimezoneUtc, fromUtc, toUtc]
  have result : getLoginTrend around query log =
      some (trendDays around query log (instantOf around start) (instantOf around finish)) := by
    simp only [getLoginTrend, range, Option.bind_eq_bind, Option.bind_some, not_lt.mpr notBefore,
      if_false, fromGiven, toGiven, Option.mapM_some, astimezoneUtc, fromUtc, toUtc, if_true,
      Option.map_eq_map, Option.map_some]
    rfl
  have dates : (trendDays around query log (instantOf around start)
      (instantOf around finish)).map TrendDay.date = (List.range (Datetime.dateOf
        (instantOf around finish) - Datetime.dateOf (instantOf around start) + 1).toNat).map
          fun (i : Nat) => Datetime.dateOf (instantOf around start) + i := by
    simp [trendDays, trendDay, Function.comp_def]
  refine ⟨_, result, fun date => ?_, ?_, ?_, ?_⟩
  · rw [dates, List.mem_map]
    constructor
    · rintro ⟨i, within, rfl⟩
      have := List.mem_range.mp within
      omega
    · rintro ⟨first, last⟩
      exact ⟨(date - Datetime.dateOf (instantOf around start)).toNat, List.mem_range.mpr (by omega),
        by omega⟩
  · rw [dates]
    exact isChain_dates _ _
  · rw [← sum_counts around query log ordered]
    simp [trendDays, trendDay, Function.comp_def, lookup_countsByDay]
  · rw [← sum_counts around query log ordered fun event => !event.success]
    simp [trendDays, trendDay, Function.comp_def, lookup_countsByDay]

end Range

/-- A server in UTC; nobody is searched for. -/
def utcServer : Surroundings where
  systemZone local_ := local_
  ilike _ _ := false
  now := 0
  later := 0

def trendBetween (start finish : Datetime) : TrendQuery where
  days := 14
  userEmail := none
  search := none
  fromTime := some start
  toTime := some finish

/-- 23:30 on the third of January of the year 2, one hour ahead of UTC. -/
def lateOnTheThird : Datetime :=
  ⟨367 * dayMicros + 84600000000, some 3600000000⟩

/-- 0:30 UTC on the fifth. -/
def earlyOnTheFifth : Datetime :=
  ⟨369 * dayMicros + 1800000000, some 0⟩

theorem trend_partitions_three_days :
    ∃ trend, getLoginTrend utcServer (trendBetween lateOnTheThird earlyOnTheFifth)
        [⟨none, "login_failure", false, 367 * dayMicros + 81000000000⟩] = some trend ∧
      Partitions utcServer (trendBetween lateOnTheThird earlyOnTheFifth)
        [⟨none, "login_failure", false, 367 * dayMicros + 81000000000⟩]
        (instantOf utcServer lateOnTheThird) (instantOf utcServer earlyOnTheFifth) trend :=
  @trend_partitions utcServer (trendBetween lateOnTheThird earlyOnTheFifth) _ lateOnTheThird
    earlyOnTheFifth rfl rfl (by decide) (by decide) (by decide)

/-- The first hour of the first day has no UTC time in the zones ahead. -/
theorem no_trend_before_year_one :
    ¬∀ (query : TrendQuery) (log : List AuditLog) (start finish : Datetime),
      query.fromTime = some start → query.toTime = some finish →
        instantOf utcServer start ≤ instantOf utcServer finish →
          ∃ trend, getLoginTrend utcServer query log = some trend ∧
            Partitions utcServer query log (instantOf utcServer start)
              (instantOf utcServer finish) trend := by
  intro covered
  obtain ⟨trend, made, -⟩ := covered (trendBetween ⟨0, some 3600000000⟩ ⟨dayMicros, some 0⟩) [] _ _
    rfl rfl (by decide)
  have overflow :
      getLoginTrend utcServer (trendBetween ⟨0, some 3600000000⟩ ⟨dayMicros, some 0⟩) [] = none := by
    decide +kernel
  cases overflow.symm.trans made

end MysticAuth.Audit
