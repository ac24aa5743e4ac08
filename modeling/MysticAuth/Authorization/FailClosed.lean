import MysticAuth.Authorization.DecisionExplanation

/-!
# Malformed conditions at evaluation time

A conditions column can hold anything that bypassed the write-time validator.
The evaluation service and the handlers then have to deny.  They deny a key
without a handler in every request; a value that is no object is denied unless
it is falsy, and an entry that its validator rejects is denied unless the
handler reads what the validator would not: a falsy time zone or date bound, a
zone file outside the listed names, a list whose first address is well formed.
-/

set_option autoImplicit false

namespace MysticAuth

open Python

/-- What the installed time zone database is documented to be: `UTC` has no offset, and every zone
keeps one offset through some whole day of the calendar. -/
structure ZoneDatabase (runtime : Runtime) : Prop where
  utc : runtime.zoneInfo "UTC" = some fun _ => 0
  steady : ∀ (name : String) (zone : Zone), runtime.zoneInfo name = some zone →
    ∃ midnight offset : Int, 0 ≤ midnight ∧ 0 ≤ midnight + offset ∧
      midnight + dayMicros ≤ maxOrdinal * dayMicros ∧
      midnight + offset + dayMicros ≤ maxOrdinal * dayMicros ∧
      ∀ instant, midnight ≤ instant → instant < midnight + dayMicros → zone instant = offset

/-! ## Malformed values and when they are harmless -/

/-- What can be wrong with a stored value. -/
inductive Defect where
  | notAnObject (stored : Json)
  | unregisteredKey (key : String) (value : Json)
  | rejectedEntry (key : String) (value : Json)

/-- The condition types whose rejected entries are considered. -/
def parsedConditionTypes : List String :=
  ["time", "date_range", "network"]

def Defect.Genuine (runtime : Runtime) : Defect → Prop
  | .notAnObject stored => stored.isNull = false ∧ stored.dict? = none
  | .unregisteredKey key _ => defaultConditionRegistry key = none
  | .rejectedEntry key value =>
      key ∈ parsedConditionTypes ∧ validateEntry runtime (key, value) ≠ []

/-- The stored value has the defect, next to whatever else it holds. -/
def Defect.Spoils (conditions : Json) : Defect → Prop
  | .notAnObject stored => conditions = stored
  | .unregisteredKey key value =>
      ∃ dict, conditions.dict? = some dict ∧ (key, value) ∈ dict.items
  | .rejectedEntry key value =>
      ∃ dict, conditions.dict? = some dict ∧ (key, value) ∈ dict.items

/-- Every stored value with the defect denies, whenever and for whomever it is evaluated. -/
def FailsClosed (runtime : Runtime) (defect : Defect) : Prop :=
  ∀ conditions, defect.Spoils conditions →
    ∀ (now : Int) (userEmail : String) (resource : Option Resource) (context : Option Dict),
      (evaluateConditions { runtime with now } conditions userEmail resource context).satisfied
        = false

def isNaiveTime : Json → Bool
  | .str text => (Time.fromIsoFormat text.toList).any (·.offset.isNone)
  | _ => false

/-- Both bounds are times without an offset, and the zone loads or is falsy. -/
def readsTime (runtime : Runtime) (value : Json) : Bool :=
  match value.dict? with
  | none => false
  | some window =>
      isNaiveTime (window.get "start") && isNaiveTime (window.get "end") &&
        (zoneOf runtime (window.get "timezone")).isSome

/-- A bound is present, and each bound is falsy or a date. -/
def readsDateRange (value : Json) : Bool :=
  match value.dict? with
  | none => false
  | some range =>
      !((range.get "start").isNull && (range.get "end").isNull) &&
        (dateBound (range.get "start")).isSome && (dateBound (range.get "end")).isSome

/-- The first entry to be tried is well formed. -/
def readsNetwork (value : Json) : Bool :=
  match value.dict? with
  | none => false
  | some block =>
      (iterate (block.get "allowed_ips")).head?.any fun entry => (validateAllowedIp entry).isEmpty

/-- The handler has something to decide on in the value. -/
def reads (runtime : Runtime) (key : String) (value : Json) : Bool :=
  match key with
  | "time" => readsTime runtime value
  | "date_range" => readsDateRange value
  | "network" => readsNetwork value
  | _ => false

/-- A non-object is truthy; a rejected entry gives its handler nothing to decide on. -/
def Defect.Inert (runtime : Runtime) : Defect → Prop
  | .notAnObject stored => stored.truthy = true
  | .unregisteredKey _ _ => True
  | .rejectedEntry key value => reads runtime key value = false

/-! ## Handlers on what they do not read -/

/-- The clock reading is naive, so an aware bound raises at one of the comparisons. -/
theorem timeWindow_isSome_iff (first last : Time) (current : Int) :
    (timeWindow first last (Datetime.timeOf current)).isSome = true ↔
      first.offset = none ∧ last.offset = none := by
  simp only [timeWindow, Time.le?, Datetime.timeOf, Option.bind_eq_bind]
  cases first.offset with
  | none =>
    cases last.offset with
    | none =>
      simp only [Option.bind_some, and_self, iff_true]
      split <;> split <;> rfl
    | some _ => simp
  | some _ =>
    cases last.offset with
    | none => simp
    | some _ =>
      simp only [Option.bind_some, Option.bind_none, reduceCtorEq, and_self, iff_false]
      split <;> simp

theorem timeOfDay_denies (runtime : Runtime) (value : Json)
    (unread : readsTime runtime value = false) (now : Int) (userEmail : String)
    (resource : Option Resource) (context : Option Dict) :
    timeOfDay { runtime with now } value userEmail resource context = false := by
  simp only [timeOfDay]
  simp only [readsTime] at unread
  split
  · rfl
  rename_i window shape
  simp only [shape] at unread
  split
  · rename_i first last startText endText
    simp only [startText, endText, isNaiveTime] at unread
    split
    · rfl
    have sameZone : zoneOf { runtime with now } (window.get "timezone") =
        zoneOf runtime (window.get "timezone") := rfl
    rw [sameZone]
    cases zone : zoneOf runtime (window.get "timezone") with
    | none => rfl
    | some clockZone =>
      cases firstParsed : Time.fromIsoFormat first.toList with
      | none => rfl
      | some firstTime =>
        cases lastParsed : Time.fromIsoFormat last.toList with
        | none => rfl
        | some lastTime =>
          cases current : resolveCurrentDatetime { runtime with now } context clockZone with
          | none => simp [current]
          | some reading =>
            have raised : timeWindow firstTime lastTime (Datetime.timeOf reading) = none := by
              have open' := timeWindow_isSome_iff firstTime lastTime reading
              simp [zone, firstParsed, lastParsed] at unread
              cases window : timeWindow firstTime lastTime (Datetime.timeOf reading) with
              | none => rfl
              | some answer => simp_all
            simp [current, raised]
  · rfl

theorem dateRange_denies (runtime : Runtime) (value : Json)
    (unread : readsDateRange value = false) (now : Int) (userEmail : String)
    (resource : Option Resource) (context : Option Dict) :
    dateRange { runtime with now } value userEmail resource context = false := by
  simp only [dateRange]
  simp only [readsDateRange] at unread
  split
  · rfl
  rename_i range shape
  simp only [shape] at unread
  split
  · rfl
  rename_i bounded
  cases zone : runtime.zoneInfo "UTC" with
  | none => rfl
  | some utc =>
    cases current : resolveCurrentDatetime { runtime with now } context utc with
    | none => simp [current]
    | some reading =>
      cases first : dateBound (range.get "start") with
      | none => simp
      | some firstDay =>
        cases last : dateBound (range.get "end") with
        | none =>
          -- Before the first day the broken end is not even read.
          simp only [Option.bind_eq_bind, Option.bind_some, current, Option.bind_none]
          split <;> rfl
        | some lastDay => simp [bounded, first, last] at unread

theorem allowedEntry_of_rejected (address : IpAddress) (entry : Json)
    (rejected : (validateAllowedIp entry).isEmpty = false) : allowedEntry address entry = none := by
  cases entry with
  | str text =>
    simp only [validateAllowedIp] at rejected
    simp only [allowedEntry]
    by_cases slash : text.toList.contains '/' = true
    · rw [if_pos slash] at rejected ⊢
      cases parsed : IpNetwork.ofText text.toList with
      | none => rfl
      | some _ => simp [parsed] at rejected
    · rw [if_neg slash] at rejected ⊢
      cases parsed : IpAddress.ofText text.toList with
      | none => rfl
      | some _ => simp [parsed] at rejected
  | null | bool | int | float | arr | obj => rfl

theorem network_denies (runtime : Runtime) (value : Json) (unread : readsNetwork value = false)
    (userEmail : String) (resource : Option Resource) (context : Option Dict) :
    network runtime value userEmail resource context = false := by
  simp only [network]
  simp only [readsNetwork] at unread
  split
  · rfl
  rename_i block shape
  simp only [shape] at unread
  split
  · rfl
  split
  · rfl
  rename_i address _
  cases entries : iterate (block.get "allowed_ips") with
  | nil => rfl
  | cons entry rest =>
    simp only [entries, List.head?_cons, Option.any_some] at unread
    simp [anyAllowed, allowedEntry_of_rejected address entry unread]

theorem handler_denies (runtime : Runtime) (key : String) (value : Json)
    (parsed : key ∈ parsedConditionTypes) (unread : reads runtime key value = false) (now : Int)
    (userEmail : String) (resource : Option Resource) (context : Option Dict) :
    entrySatisfied { runtime with now } userEmail resource context (key, value) = false := by
  simp only [parsedConditionTypes, List.mem_cons, List.not_mem_nil, or_false] at parsed
  rcases parsed with rfl | rfl | rfl
  · exact timeOfDay_denies runtime value unread now userEmail resource context
  · exact dateRange_denies runtime value unread now userEmail resource context
  · exact network_denies { runtime with now } value unread userEmail resource context

/-- One unsatisfied entry denies the block. -/
theorem block_denied (runtime : Runtime) (conditions : Json) (dict : Dict)
    (shape : conditions.dict? = some dict) (entry : String × Json) (member : entry ∈ dict.items)
    (userEmail : String) (resource : Option Resource) (context : Option Dict)
    (unsatisfied : entrySatisfied runtime userEmail resource context entry = false) :
    (evaluateConditions runtime conditions userEmail resource context).satisfied = false := by
  by_contra satisfied
  simp only [Bool.not_eq_false] at satisfied
  rcases (evaluateConditions_satisfied_iff _ _ _ _ _).mp satisfied with falsy | ⟨other, same, every⟩
  · obtain rfl := (dict?_eq_some_iff _ _).mp shape
    have empty : dict.items = [] := by
      simpa [Json.truthy, Dict.items] using falsy
    simp [empty] at member
  · rw [shape] at same
    cases same
    rw [every entry member] at unsatisfied
    simp at unsatisfied

/-! ## Handlers on what they read -/

/-- Some moment shows the given time of day on the clocks of a steady zone. -/
theorem exists_moment (runtime : Runtime) (zones : ZoneDatabase runtime) (name : String)
    (zone : Zone) (loaded : runtime.zoneInfo name = some zone) (micros : Int) (low : 0 ≤ micros)
    (high : micros < dayMicros) :
    ∃ now local', Datetime.ofInstant zone now = some local' ∧
      Datetime.timeOf local' = ⟨micros, none⟩ := by
  obtain ⟨midnight, offset, start, localStart, last, localLast, steady⟩ :=
    zones.steady name zone loaded
  simp only [show dayMicros = 86400000000 from rfl] at high last localLast steady
  have kept := steady (midnight + (micros - (midnight + offset)) % 86400000000)
    (by omega) (by omega)
  refine ⟨midnight + (micros - (midnight + offset)) % 86400000000,
    midnight + (micros - (midnight + offset)) % 86400000000 + offset, ?_, ?_⟩
  · simp only [Datetime.ofInstant, Datetime.inRange, kept]
    rw [if_pos]
    simp only [Bool.and_eq_true, decide_eq_true_eq, show dayMicros = 86400000000 from rfl]
    omega
  · simp only [Datetime.timeOf, Time.mk.injEq, and_true, show dayMicros = 86400000000 from rfl]
    omega

/-- A window over naive times is open at its start. -/
theorem timeWindow_at_start (first last : Time) (naiveFirst : first.offset = none)
    (naiveLast : last.offset = none) : timeWindow first last ⟨first.micros, none⟩ = some true := by
  simp only [timeWindow, Time.le?, naiveFirst, naiveLast, Option.bind_eq_bind, Option.bind_some]
  by_cases ordered : first.micros ≤ last.micros <;> simp [ordered]

theorem naiveTime_text (value : Json) (naive : isNaiveTime value = true) :
    ∃ text time, value = .str text ∧ text ≠ "" ∧ Time.fromIsoFormat text.toList = some time ∧
      time.offset = none := by
  cases value with
  | str text =>
    simp only [isNaiveTime] at naive
    cases parsed : Time.fromIsoFormat text.toList with
    | none => simp [parsed] at naive
    | some time =>
      refine ⟨text, time, rfl, ?_, parsed, by simpa [parsed] using naive⟩
      intro blank
      subst blank
      simp [Time.fromIsoFormat, Time.parse?, Time.clock?, Time.components?] at parsed
  | null | bool | int | float | arr | obj => simp [isNaiveTime] at naive

theorem timeOfDay_grants (runtime : Runtime) (zones : ZoneDatabase runtime) (value : Json)
    (read : readsTime runtime value = true) :
    ∃ now, timeOfDay { runtime with now } value "" none none = true := by
  simp only [readsTime] at read
  split at read
  · simp at read
  rename_i window shape
  simp only [Bool.and_eq_true] at read
  obtain ⟨⟨naiveStart, naiveEnd⟩, zoned⟩ := read
  obtain ⟨first, firstTime, startText, startSome, firstParsed, firstNaive⟩ :=
    naiveTime_text _ naiveStart
  obtain ⟨last, lastTime, endText, endSome, lastParsed, lastNaive⟩ := naiveTime_text _ naiveEnd
  obtain ⟨zone, found⟩ := Option.isSome_iff_exists.mp zoned
  obtain ⟨name, loaded⟩ : ∃ name, runtime.zoneInfo name = some zone := by
    simp only [zoneOf] at found
    split at found
    · split at found
      · exact ⟨_, found⟩
      · simp at found
    · exact ⟨"UTC", found⟩
  obtain ⟨low, high⟩ := Time.fromIsoFormat_bounds _ _ firstParsed
  obtain ⟨now, local', converted, shown⟩ :=
    exists_moment runtime zones name zone loaded firstTime.micros low high
  refine ⟨now, ?_⟩
  have sameZone : zoneOf { runtime with now } (window.get "timezone") = some zone := found
  have current : resolveCurrentDatetime { runtime with now } none zone = some local' := converted
  simp [timeOfDay, shape, startText, endText, startSome, endSome, sameZone, firstParsed, lastParsed,
    current, shown, timeWindow_at_start firstTime lastTime firstNaive lastNaive]

theorem dateBound_bounds (bound : Json) (day : Int) (read : dateBound bound = some (some day)) :
    1 ≤ day ∧ day ≤ maxOrdinal := by
  simp only [dateBound] at read
  split at read
  · simp at read
  · split at read
    · simp only [Option.map_eq_map, Option.map_eq_some_iff, Option.some.injEq] at read
      obtain ⟨_, parsed, rfl⟩ := read
      exact Date.fromIsoFormat_bounds _ _ parsed
    · simp at read

/-- A bound that is read although its validator rejects it is falsy. -/
theorem dateBound_of_rejected (name : String) (bound : Json)
    (rejected : validateDateBound name bound ≠ []) (read : (dateBound bound).isSome = true) :
    dateBound bound = some none := by
  simp only [dateBound] at read ⊢
  cases truthy : bound.truthy with
  | false => rfl
  | true =>
    simp only [truthy, Bool.not_true, Bool.false_eq_true, if_false] at read
    cases bound with
    | str text =>
      simp only [validateDateBound] at rejected
      cases parsed : Date.fromIsoFormat text.toList with
      | none => simp [parsed] at read
      | some day => simp [parsed] at rejected
    | null | bool | int | float | arr | obj => simp at read

/-- A rejected range that is read is open on one side: its first or its last day is then the
edge of the calendar. -/
theorem dateRange_grants (runtime : Runtime) (zones : ZoneDatabase runtime) (value : Json)
    (read : readsDateRange value = true) (rejected : validateDateRange value ≠ []) :
    ∃ now, dateRange { runtime with now } value "" none none = true := by
  simp only [readsDateRange] at read
  simp only [validateDateRange] at rejected
  split at read
  · simp at read
  rename_i range shape
  simp only [Bool.and_eq_true, Bool.not_eq_true'] at read
  obtain ⟨⟨bounded, readFirst⟩, readLast⟩ := read
  simp only [shape, bounded, Bool.false_eq_true, if_false] at rejected
  obtain ⟨first, firstBound⟩ := Option.isSome_iff_exists.mp readFirst
  obtain ⟨last, lastBound⟩ := Option.isSome_iff_exists.mp readLast
  have granted (now : Int) (reading : Datetime.ofInstant (fun _ => 0) now = some now)
      (started : first.any (Datetime.dateOf now < ·) = false)
      (lasting : last.any (· < Datetime.dateOf now) = false) :
      dateRange { runtime with now } value "" none none = true := by
    have current : resolveCurrentDatetime { runtime with now } none (fun _ => 0) = some now :=
      reading
    simp [dateRange, shape, bounded, zones.utc, current, firstBound, lastBound, started, lasting]
  have oneOpen : first = none ∨ last = none := by
    by_cases firstRejected : validateDateBound "start" (range.get "start") = []
    · right
      have lastRejected : validateDateBound "end" (range.get "end") ≠ [] := by
        intro accepted
        simp [firstRejected, accepted] at rejected
      have open' := dateBound_of_rejected _ _ lastRejected readLast
      rw [lastBound] at open'
      exact Option.some.inj open'
    · left
      have open' := dateBound_of_rejected _ _ firstRejected readFirst
      rw [firstBound] at open'
      exact Option.some.inj open'
  rcases oneOpen with rfl | rfl
  · refine ⟨0, granted 0 (by decide) rfl ?_⟩
    cases last with
    | none => rfl
    | some day =>
      have bounds := dateBound_bounds _ day lastBound
      simp only [Option.any_some, decide_eq_false_iff_not, show Datetime.dateOf 0 = 1 from rfl]
      omega
  · refine ⟨(maxOrdinal - 1) * dayMicros, granted _ (by decide) ?_ rfl⟩
    cases first with
    | none => rfl
    | some day =>
      have bounds := dateBound_bounds _ day firstBound
      simp only [Option.any_some, decide_eq_false_iff_not,
        show Datetime.dateOf ((maxOrdinal - 1) * dayMicros) = maxOrdinal from rfl]
      omega

def callerContext (address : List Char) : Dict :=
  ⟨⟨["ip_address"], by decide⟩, [.str (String.ofList address)]⟩

/-- A well-formed entry admits some caller. -/
theorem exists_allowed_caller (entry : Json) (accepted : (validateAllowedIp entry).isEmpty = true) :
    ∃ text address, IpAddress.ofText text = some address ∧
      allowedEntry address entry = some true := by
  cases entry with
  | str listed =>
    simp only [validateAllowedIp] at accepted
    by_cases slash : listed.toList.contains '/' = true
    · rw [if_pos slash] at accepted
      cases parsed : IpNetwork.ofText listed.toList with
      | none => simp [parsed] at accepted
      | some network =>
        obtain ⟨text, address, written, contained⟩ :=
          IpNetwork.contains_own_address _ network parsed
        refine ⟨text, address, written, ?_⟩
        simp only [allowedEntry, if_pos slash, parsed, Option.map_eq_map, Option.map_some,
          contained]
    · rw [if_neg slash] at accepted
      cases parsed : IpAddress.ofText listed.toList with
      | none => simp [parsed] at accepted
      | some address =>
        refine ⟨listed.toList, address, parsed, ?_⟩
        simp only [allowedEntry, if_neg slash, parsed, Option.map_eq_map, Option.map_some,
          decide_true]
  | null | bool | int | float | arr | obj => simp [validateAllowedIp] at accepted

theorem truthy_of_iterate (value entry : Json) (rest : List Json)
    (entries : iterate value = entry :: rest) : value.truthy = true := by
  cases value with
  | arr items =>
    simp only [iterate] at entries
    simp [Json.truthy, entries]
  | obj keys values =>
    have lengths := congrArg List.length entries
    simp only [iterate, List.length_map, List.length_cons] at lengths
    simp only [Json.truthy, bne_iff_ne]
    omega
  | null | bool | int | float | str => simp [iterate] at entries

theorem network_grants (runtime : Runtime) (value : Json) (read : readsNetwork value = true) :
    ∃ context, network runtime value "" none (some context) = true := by
  simp only [readsNetwork] at read
  split at read
  · simp at read
  rename_i block shape
  cases entries : iterate (block.get "allowed_ips") with
  | nil => simp [entries] at read
  | cons entry rest =>
    simp only [entries, List.head?_cons, Option.any_some] at read
    obtain ⟨text, address, written, allowed⟩ := exists_allowed_caller entry read
    have someText : text ≠ [] := by
      intro blank
      simp [blank, IpAddress.ofText_nil] at written
    refine ⟨callerContext text, ?_⟩
    have caller : contextGet (some (callerContext text)) "ip_address" =
        .str (String.ofList text) := rfl
    have callerTruthy : (Json.str (String.ofList text)).truthy = true := by
      simpa [Json.truthy, Json.scalar?, Scalar.truthy] using someText
    have parsed : IpAddress.ofJson (.str (String.ofList text)) = some address := by
      simpa [IpAddress.ofJson] using written
    simp [network, shape, caller, callerTruthy, truthy_of_iterate _ _ _ entries, parsed, entries,
      anyAllowed, allowed]

/-! ## When a malformed value denies -/

/-- The block with one entry only. -/
def singleEntry (key : String) (value : Json) : Json :=
  .obj ⟨[key], List.nodup_singleton key⟩ [value]

theorem singleEntry_satisfied (runtime : Runtime) (key : String) (value : Json)
    (userEmail : String) (resource : Option Resource) (context : Option Dict) :
    (evaluateConditions runtime (singleEntry key value) userEmail resource context).satisfied =
      entrySatisfied runtime userEmail resource context (key, value) := by
  cases satisfied : entrySatisfied runtime userEmail resource context (key, value) <;>
    simp [evaluateConditions, singleEntry, Json.truthy, Json.dict?, Dict.items, satisfied]

/-- What a handler reads of a rejected entry satisfies it in some request. -/
theorem entry_grants (runtime : Runtime) (zones : ZoneDatabase runtime) (key : String)
    (value : Json) (parsed : key ∈ parsedConditionTypes)
    (rejected : validateEntry runtime (key, value) ≠ []) (read : reads runtime key value = true) :
    ∃ now userEmail resource context,
      entrySatisfied { runtime with now } userEmail resource context (key, value) = true := by
  simp only [parsedConditionTypes, List.mem_cons, List.not_mem_nil, or_false] at parsed
  rcases parsed with rfl | rfl | rfl
  · obtain ⟨now, satisfied⟩ := timeOfDay_grants runtime zones value read
    exact ⟨now, "", none, none, satisfied⟩
  · obtain ⟨now, satisfied⟩ := dateRange_grants runtime zones value read rejected
    exact ⟨now, "", none, none, satisfied⟩
  · obtain ⟨context, satisfied⟩ := network_grants { runtime with now := 0 } value read
    exact ⟨0, "", none, some context, satisfied⟩

/-- A malformed value denies in every request exactly when it is inert. -/
theorem failsClosed_iff_inert (runtime : Runtime) (zones : ZoneDatabase runtime) (defect : Defect)
    (genuine : defect.Genuine runtime) :
    FailsClosed runtime defect ↔ defect.Inert runtime := by
  cases defect with
  | notAnObject stored =>
    constructor
    · intro closed
      have denied := closed stored rfl 0 "" none none
      show stored.truthy = true
      by_contra falsy
      simp only [Bool.not_eq_true] at falsy
      simp [evaluateConditions, falsy] at denied
    · rintro (truthy : stored.truthy = true) conditions rfl now userEmail resource context
      have shape : conditions.dict? = none := genuine.2
      simp [evaluateConditions, truthy, shape]
  | unregisteredKey key value =>
    have unregistered : defaultConditionRegistry key = none := genuine
    refine ⟨fun _ => trivial, ?_⟩
    rintro - conditions ⟨dict, shape, member⟩ now userEmail resource context
    apply block_denied _ conditions dict shape (key, value) member
    simp [entrySatisfied, unregistered]
  | rejectedEntry key value =>
    obtain ⟨parsed, rejected⟩ := genuine
    constructor
    · intro closed
      show reads runtime key value = false
      by_contra read
      simp only [Bool.not_eq_false] at read
      obtain ⟨now, userEmail, resource, context, satisfied⟩ :=
        entry_grants runtime zones key value parsed rejected read
      have denied := closed (singleEntry key value) ⟨_, rfl, List.mem_singleton.mpr rfl⟩ now
        userEmail resource context
      rw [singleEntry_satisfied, satisfied] at denied
      simp at denied
    · rintro (unread : reads runtime key value = false) conditions ⟨dict, shape, member⟩ now
        userEmail resource context
      apply block_denied _ conditions dict shape (key, value) member
      exact handler_denies runtime key value parsed unread now userEmail resource context

theorem utcRuntime_zones : ZoneDatabase utcRuntime where
  utc := rfl
  steady := by
    intro name zone loaded
    refine ⟨0, 0, by decide, by decide, by decide, by decide, fun instant _ _ => ?_⟩
    simp only [utcRuntime] at loaded
    split at loaded
    · cases loaded
      rfl
    · simp at loaded

def hostNameNetwork : Json :=
  singleEntry "allowed_ips" (.arr [.str "intranet"])

theorem failsClosed_iff_inert_hostName :
    FailsClosed utcRuntime (.rejectedEntry "network" hostNameNetwork) :=
  (failsClosed_iff_inert utcRuntime utcRuntime_zones (.rejectedEntry "network" hostNameNetwork)
    ⟨by decide, fun accepted => by cases accepted⟩).mpr rfl

/-- An item the validator rejects stands behind a well-formed one. -/
def partlyValidNetwork : Json :=
  singleEntry "allowed_ips" (.arr [.str "10.0.0.0/8", .str "intranet"])

theorem malformed_values_grant :
    (¬ ∀ (runtime : Runtime) (stored : Json), (Defect.notAnObject stored).Genuine runtime →
      FailsClosed runtime (.notAnObject stored)) ∧
    ¬ ∀ (runtime : Runtime) (key : String) (value : Json),
      (Defect.rejectedEntry key value).Genuine runtime →
        FailsClosed runtime (.rejectedEntry key value) := by
  constructor
  · intro claim
    have denied := claim utcRuntime (.arr []) ⟨rfl, rfl⟩ (.arr []) rfl 0 "" none none
    exact absurd denied (by decide)
  · intro claim
    have genuine : (Defect.rejectedEntry "network" partlyValidNetwork).Genuine utcRuntime :=
      ⟨by decide, fun accepted => by cases accepted⟩
    have denied := claim utcRuntime "network" partlyValidNetwork genuine
      (singleEntry "network" partlyValidNetwork) ⟨_, rfl, List.mem_singleton.mpr rfl⟩ 0 "" none
      (some (callerContext "10.1.2.3".toList))
    exact absurd denied (by decide)

end MysticAuth
