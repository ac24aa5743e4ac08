import Mathlib.Data.List.Infix
import MysticAuth.Authorization.FailClosed

/-!
# What the validator accepts, evaluated

Every handler wraps its work in one `try` and denies when it raises.  Here the
work is written with its exceptions, and the handlers are shown to be it with
an exception read as a denial.  On a block that the write-time validator
accepted, and in a context with a valid address and an ISO 8601 time, the
handlers raise exactly when a time bound carries a UTC offset, when the clock
leaves the calendar in the entry's zone, or when the resource or the security
context cannot be read.
-/

set_option autoImplicit false

namespace MysticAuth

open Python

/-! ## The handlers with their exceptions -/

/-- What stands inside a handler's `try`; `none` is an exception. -/
abbrev Attempt :=
  Runtime → Json → String → Option Resource → Option Dict → Option Bool

/-- `all(...)` over entries: the first failing entry ends the walk. -/
def allHold (check : String × Json → Option Bool) : List (String × Json) → Option Bool
  | [] => some true
  | entry :: entries =>
      match check entry with
      | none => none
      | some false => some false
      | some true => allHold check entries

def everyItem (conditionValue : Json) (check : String × Json → Option Bool) : Option Bool :=
  match conditionValue.dict? with
  | none => none
  | some expected => allHold check expected.items

def selfOnlyAttempt : Attempt := fun _ conditionValue userEmail resource _ =>
  if !conditionValue.truthy then some true
  else
    match resource with
    | none => some false
    | some resource =>
        match getField resource "email" with
        | .json ownerEmail =>
            some (ownerEmail.truthy && userEmail != "" && Json.eq ownerEmail (.str userEmail))
        | .foreign => some false
        | .raises => none

def fieldEquals (resource : Resource) (entry : String × Json) : Option Bool :=
  match getField resource entry.1 with
  | .json actual => some (Json.eq actual entry.2)
  | .foreign => some false
  | .raises => none

def resourceAttributesAttempt : Attempt := fun _ conditionValue _ resource _ =>
  if !conditionValue.truthy then some true
  else
    match resource with
    | none => some false
    | some resource => everyItem conditionValue (fieldEquals resource)

def contextAttributesAttempt : Attempt := fun _ conditionValue _ _ context =>
  if !conditionValue.truthy then some true
  else
    match context with
    | none => some false
    | some context =>
        everyItem conditionValue fun (key, value) => some (Json.eq (context.get key) value)

/-- `key in container`. -/
def keyIn (key : String) : Json → Option Bool
  | .obj keys values => some ((Dict.mk keys values).get? key).isSome
  | .arr items => some (items.any fun item => Json.eq item (.str key))
  | .str text => some (decide (key.toList <:+: text.toList))
  | _ => none

def signalHolds (signals : Json) (entry : String × Json) : Option Bool :=
  match keyIn entry.1 signals with
  | none => none
  | some false => some false
  | some true =>
      match signals.dict? with
      | none => none
      | some signals => some (Json.eq (signals.get entry.1) entry.2)

def securityContextAttempt : Attempt := fun _ conditionValue _ _ context =>
  if !conditionValue.truthy then some true
  else
    let signals := contextGet context "security_context"
    if !signals.truthy then some false
    else everyItem conditionValue (signalHolds signals)

/-- `dt_time.fromisoformat` on a decoded value. -/
def timeText : Json → Option Time
  | .str text => Time.fromIsoFormat text.toList
  | _ => none

def timeOfDayAttempt : Attempt := fun runtime conditionValue _ _ context =>
  match conditionValue.dict? with
  | none => none
  | some window =>
      if !(window.get "start").truthy || !(window.get "end").truthy then some false
      else do
        let zone ← zoneOf runtime (window.get "timezone")
        let first ← timeText (window.get "start")
        let last ← timeText (window.get "end")
        let current ← resolveCurrentDatetime runtime context zone
        timeWindow first last (Datetime.timeOf current)

def dateRangeAttempt : Attempt := fun runtime conditionValue _ _ context =>
  match conditionValue.dict? with
  | none => none
  | some range =>
      if (range.get "start").isNull && (range.get "end").isNull then some false
      else do
        let zone ← runtime.zoneInfo "UTC"
        let current ← resolveCurrentDatetime runtime context zone
        let first ← dateBound (range.get "start")
        if first.any (Datetime.dateOf current < ·) then some false
        else
          let last ← dateBound (range.get "end")
          some (!last.any (· < Datetime.dateOf current))

/-- A number cannot be iterated over, and no single character of a text is an address. -/
def entriesOf : Json → Option (List Json)
  | .arr items => some items
  | .obj keys values => some ((keys.val.zip values).map fun entry => .str entry.1)
  | _ => none

def someAllowed (address : IpAddress) : List Json → Option Bool
  | [] => some false
  | entry :: entries =>
      match allowedEntry address entry with
      | none => none
      | some true => some true
      | some false => someAllowed address entries

def networkAttempt : Attempt := fun _ conditionValue _ _ context =>
  match conditionValue.dict? with
  | none => none
  | some block =>
      let allowedIps := block.get "allowed_ips"
      let callerIp := contextGet context "ip_address"
      if !allowedIps.truthy || !callerIp.truthy then some false
      else do
        let callerAddress ← IpAddress.ofJson callerIp
        let entries ← entriesOf allowedIps
        someAllowed callerAddress entries

def defaultAttempts : String → Option Attempt
  | "self_only" => some selfOnlyAttempt
  | "resource_attributes" => some resourceAttributesAttempt
  | "context_attributes" => some contextAttributesAttempt
  | "time" => some timeOfDayAttempt
  | "date_range" => some dateRangeAttempt
  | "network" => some networkAttempt
  | "security_context" => some securityContextAttempt
  | _ => none

/-! ## A handler is its attempt, with an exception read as a denial -/

section Handlers

variable (runtime : Runtime) (value : Json) (userEmail : String)
variable (resource : Option Resource) (context : Option Dict)

theorem allHold_getD (check : String × Json → Option Bool) (entries : List (String × Json)) :
    (allHold check entries).getD false = entries.all fun entry => (check entry).getD false := by
  induction entries with
  | nil => rfl
  | cons entry entries ih =>
    simp only [allHold, List.all_cons]
    cases check entry with
    | none => rfl
    | some holds =>
      cases holds with
      | false => rfl
      | true => simpa using ih

theorem everyItem_getD (check : String × Json → Option Bool) :
    (everyItem value check).getD false =
      everyEntry value fun entry => (check entry).getD false := by
  simp only [everyItem, everyEntry]
  cases value.dict? with
  | none => rfl
  | some expected => exact allHold_getD check expected.items

theorem selfOnly_eq :
    selfOnly runtime value userEmail resource context =
      (selfOnlyAttempt runtime value userEmail resource context).getD false := by
  simp only [selfOnly, selfOnlyAttempt]
  split
  · rfl
  · cases resource with
    | none => rfl
    | some resource =>
      simp only
      cases getField resource "email" <;> rfl

theorem resourceAttributes_eq :
    resourceAttributes runtime value userEmail resource context =
      (resourceAttributesAttempt runtime value userEmail resource context).getD false := by
  simp only [resourceAttributes, resourceAttributesAttempt]
  split
  · rfl
  · cases resource with
    | none => rfl
    | some resource =>
      have sameCheck : (fun entry => (fieldEquals resource entry).getD false) =
          fun entry : String × Json => (getField resource entry.1).equals entry.2 := by
        funext entry
        simp only [fieldEquals, Attribute.equals]
        cases getField resource entry.1 <;> rfl
      simp only [everyItem_getD, sameCheck]

theorem contextAttributes_eq :
    contextAttributes runtime value userEmail resource context =
      (contextAttributesAttempt runtime value userEmail resource context).getD false := by
  simp only [contextAttributes, contextAttributesAttempt]
  split
  · rfl
  · cases context with
    | none => rfl
    | some context =>
      rw [everyItem_getD]
      rfl

theorem signalHolds_getD (signals : Json) (entry : String × Json) :
    (signalHolds signals entry).getD false =
      match signals.dict? with
      | none => false
      | some signals =>
          match signals.get? entry.1 with
          | some signal => Json.eq signal entry.2
          | none => false := by
  simp only [signalHolds]
  cases signals with
  | obj keys values =>
    simp only [keyIn, Json.dict?, Dict.get]
    cases (Dict.mk keys values).get? entry.1 <;> rfl
  | arr items =>
    simp only [keyIn, Json.dict?]
    cases items.any fun item => Json.eq item (.str entry.1) <;> rfl
  | str text =>
    simp only [keyIn, Json.dict?]
    cases decide (entry.1.toList <:+: text.toList) <;> rfl
  | null | bool | int | float => rfl

theorem items_ne_nil_of_truthy (dict : Dict) (shape : value.dict? = some dict)
    (truthy : value.truthy = true) : dict.items ≠ [] := by
  obtain rfl := (dict?_eq_some_iff _ _).mp shape
  intro empty
  have noPair : dict.keys.val.zip dict.values = [] := empty
  simp only [Json.truthy, noPair] at truthy
  simp at truthy

theorem securityContext_eq :
    securityContext runtime value userEmail resource context =
      (securityContextAttempt runtime value userEmail resource context).getD false := by
  simp only [securityContext, securityContextAttempt]
  split
  · rfl
  split
  · rfl
  rename_i truthy _
  simp only [everyItem_getD, signalHolds_getD]
  cases (contextGet context "security_context").dict? with
  | some signals => rfl
  | none =>
    simp only [everyEntry]
    cases shape : value.dict? with
    | none => rfl
    | some expected =>
      have someEntry := items_ne_nil_of_truthy value expected shape (by simpa using truthy)
      obtain ⟨entry, rest, entries⟩ := List.exists_cons_of_ne_nil someEntry
      simp [entries]

theorem timeOfDay_eq :
    timeOfDay runtime value userEmail resource context =
      (timeOfDayAttempt runtime value userEmail resource context).getD false := by
  simp only [timeOfDay, timeOfDayAttempt]
  cases value.dict? with
  | none => rfl
  | some window =>
    simp only
    cases startValue : window.get "start" with
    | str first =>
      cases endValue : window.get "end" with
      | str last =>
        by_cases blank : first = "" ∨ last = ""
        · rcases blank with rfl | rfl <;> simp [Json.truthy, Json.scalar?, Scalar.truthy]
        · obtain ⟨firstSome, lastSome⟩ := not_or.mp blank
          simp [Json.truthy, Json.scalar?, Scalar.truthy, timeText, firstSome, lastSome]
      | null | bool | int | float | arr | obj =>
        simp only [timeText, Option.bind_eq_bind, Option.bind_none, Option.bind_fun_none]
        split <;> rfl
    | null | bool | int | float | arr | obj =>
      simp only [timeText, Option.bind_eq_bind, Option.bind_none, Option.bind_fun_none]
      split <;> rfl

theorem dateRange_eq :
    dateRange runtime value userEmail resource context =
      (dateRangeAttempt runtime value userEmail resource context).getD false := by
  simp only [dateRange, dateRangeAttempt]
  cases value.dict? with
  | none => rfl
  | some range =>
    simp only
    split <;> rfl

theorem someAllowed_getD (address : IpAddress) (entries : List Json) :
    (someAllowed address entries).getD false = anyAllowed address entries := by
  induction entries with
  | nil => rfl
  | cons entry entries ih =>
    simp only [someAllowed, anyAllowed]
    cases allowedEntry address entry with
    | none => rfl
    | some allowed =>
      cases allowed with
      | true => rfl
      | false => exact ih

theorem network_eq :
    network runtime value userEmail resource context =
      (networkAttempt runtime value userEmail resource context).getD false := by
  simp only [network, networkAttempt]
  cases value.dict? with
  | none => rfl
  | some block =>
    simp only
    split
    · rfl
    cases IpAddress.ofJson (contextGet context "ip_address") with
    | none => rfl
    | some address =>
      cases block.get "allowed_ips" with
      | arr items => exact (someAllowed_getD address items).symm
      | obj keys values => exact (someAllowed_getD address _).symm
      | null | bool | int | float | str => rfl

/-- Each registered handler denies when its attempt raises and returns what it returns otherwise. -/
theorem handler_of_attempt (key : String) :
    defaultConditionRegistry key =
      (defaultAttempts key).map fun attempt runtime value userEmail resource context =>
        (attempt runtime value userEmail resource context).getD false := by
  simp only [defaultConditionRegistry, defaultAttempts]
  split <;> simp only [Option.map_some, Option.map_none, Option.some.injEq] <;>
    funext runtime value userEmail resource context
  · exact selfOnly_eq runtime value userEmail resource context
  · exact resourceAttributes_eq runtime value userEmail resource context
  · exact contextAttributes_eq runtime value userEmail resource context
  · exact timeOfDay_eq runtime value userEmail resource context
  · exact dateRange_eq runtime value userEmail resource context
  · exact network_eq runtime value userEmail resource context
  · exact securityContext_eq runtime value userEmail resource context

end Handlers

/-! ## Accepted blocks in well-formed contexts -/

/-- What `zoneinfo` documents: `UTC` is installed, and every available name can be loaded. -/
structure ZonesLoad (runtime : Runtime) : Prop where
  utc : (runtime.zoneInfo "UTC").isSome = true
  listed : ∀ name, runtime.availableTimezones name = true → (runtime.zoneInfo name).isSome = true

/-- A valid `ip_address` and an ISO 8601 `current_time`, with or without an offset. -/
structure WellFormedContext (context : Dict) : Prop where
  address : ∃ text, context.get "ip_address" = .str text ∧
    (IpAddress.ofText text.toList).isSome = true
  clock : ∃ text, context.get "current_time" = .str text ∧
    (Datetime.fromIsoFormat text.toList).isSome = true

/-- No handler of the block reaches its exception branch. -/
def NeverRaises (runtime : Runtime) (conditions : Json) (userEmail : String)
    (resource : Option Resource) (context : Dict) : Prop :=
  ∀ dict, conditions.dict? = some dict → ∀ entry ∈ dict.items,
    ∀ attempt, defaultAttempts entry.1 = some attempt →
      attempt runtime entry.2 userEmail resource (some context) ≠ none

/-- The simulated instant, and what the zone's clocks show then, lie in the years 1 to 9999. -/
def StaysInCalendar (context : Dict) (zone : Zone) : Prop :=
  ∀ text moment, context.get "current_time" = .str text →
    Datetime.fromIsoFormat text.toList = some moment →
      Datetime.inRange (moment.localMicros - moment.offset.getD 0) = true ∧
        Datetime.inRange (moment.localMicros - moment.offset.getD 0 +
          zone (moment.localMicros - moment.offset.getD 0)) = true

/-- Before a getter that raises, another field of the block has failed to match. -/
def FieldsRead (resource : Resource) (dict : Dict) : Prop :=
  ∀ before field expected after, dict.items = before ++ (field, expected) :: after →
    getField resource field = .raises → ∃ entry ∈ before, fieldEquals resource entry = some false

/-- The signals are absent or an object, or else lack the first key of the block. -/
def SignalsRead (context dict : Dict) : Prop :=
  (context.get "security_context").truthy = false ∨
    (∃ signals, (context.get "security_context").dict? = some signals) ∨
    ∃ entry rest, dict.items = entry :: rest ∧
      keyIn entry.1 (context.get "security_context") = some false

/-- When an accepted entry is decided by what it says. -/
def Evaluable (runtime : Runtime) (resource : Option Resource) (context : Dict)
    (entry : String × Json) : Prop :=
  match entry.1 with
  | "time" => ∀ window, entry.2.dict? = some window →
      isNaiveTime (window.get "start") = true ∧ isNaiveTime (window.get "end") = true ∧
        ∀ zone, zoneOf runtime (window.get "timezone") = some zone → StaysInCalendar context zone
  | "date_range" => ∀ zone, runtime.zoneInfo "UTC" = some zone → StaysInCalendar context zone
  | "self_only" => entry.2.truthy = true →
      ∀ object, resource = some object → getField object "email" ≠ .raises
  | "resource_attributes" => ∀ object dict, resource = some object → entry.2.dict? = some dict →
      FieldsRead object dict
  | "security_context" => ∀ dict, entry.2.dict? = some dict → SignalsRead context dict
  | _ => True

/-- A walk raises only at an entry that nothing before it has ended. -/
theorem allHold_ne_none_iff (check : String × Json → Option Bool)
    (entries : List (String × Json)) :
    allHold check entries ≠ none ↔
      ∀ before entry after, entries = before ++ entry :: after → check entry = none →
        ∃ earlier ∈ before, check earlier = some false := by
  induction entries with
  | nil =>
    refine ⟨fun _ before entry after split => ?_, fun _ => by simp [allHold]⟩
    exact absurd (congrArg List.length split) (by simp)
  | cons head rest ih =>
    simp only [allHold]
    cases checked : check head with
    | none =>
      constructor
      · intro raised
        exact absurd rfl raised
      · intro every
        obtain ⟨_, none', _⟩ := every [] head rest rfl checked
        exact absurd none' List.not_mem_nil
    | some holds =>
      cases holds with
      | false =>
        refine ⟨fun _ before entry after split raises => ?_, fun _ => by simp⟩
        cases before with
        | nil =>
          obtain ⟨rfl, rfl⟩ := List.cons.inj split
          simp [checked] at raises
        | cons first before =>
          obtain ⟨rfl, rfl⟩ := List.cons.inj split
          exact ⟨head, List.mem_cons_self, checked⟩
      | true =>
        rw [ih]
        constructor
        · intro every before entry after split raises
          cases before with
          | nil =>
            obtain ⟨rfl, rfl⟩ := List.cons.inj split
            simp [checked] at raises
          | cons first before =>
            obtain ⟨rfl, tailSplit⟩ := List.cons.inj split
            obtain ⟨earlier, member, failed⟩ := every before entry after tailSplit raises
            exact ⟨earlier, List.mem_cons_of_mem _ member, failed⟩
        · intro every before entry after split raises
          obtain ⟨earlier, member, failed⟩ :=
            every (head :: before) entry after (by rw [split, List.cons_append]) raises
          rcases List.mem_cons.mp member with rfl | inBefore
          · simp [checked] at failed
          · exact ⟨earlier, inBefore, failed⟩

section Accepted

variable (runtime : Runtime) (value : Json) (userEmail : String)
variable (resource : Option Resource) (context : Dict)

theorem resolveCurrentDatetime_ne_none_iff (wellFormed : WellFormedContext context)
    (zone : Zone) :
    resolveCurrentDatetime runtime (some context) zone ≠ none ↔ StaysInCalendar context zone := by
  obtain ⟨text, given, parses⟩ := wellFormed.clock
  obtain ⟨moment, parsed⟩ := Option.isSome_iff_exists.mp parses
  have someText : text ≠ "" := by
    intro blank
    subst blank
    exact absurd parses (by decide)
  have truthy : (Json.str text).truthy = true := by
    simpa [Json.truthy, Json.scalar?, Scalar.truthy] using someText
  have override : contextGet (some context) "current_time" = .str text := given
  simp only [resolveCurrentDatetime, override, truthy, if_true, parsed, Option.bind_eq_bind,
    Option.bind_some, Datetime.asTimezone, Datetime.ofInstant]
  constructor
  · intro converted other moment' given' parsed'
    rw [given] at given'
    cases given'
    rw [parsed] at parsed'
    cases parsed'
    by_contra outside
    rw [if_neg (by simpa using outside)] at converted
    exact converted rfl
  · intro stays
    obtain ⟨instant, shown⟩ := stays text moment given parsed
    rw [if_pos (by simp [instant, shown])]
    simp

theorem timeBound_of_accepted (window : Dict) (bound : String)
    (accepted : validateTimeBound window bound = []) :
    ∃ time, (window.get bound).truthy = true ∧ timeText (window.get bound) = some time ∧
      (isNaiveTime (window.get bound) = true ↔ time.offset = none) := by
  simp only [validateTimeBound] at accepted
  split at accepted
  · rename_i text given
    cases parsed : Time.fromIsoFormat text.toList with
    | none => simp [parsed] at accepted
    | some time =>
      have someText : text ≠ "" := by
        intro blank
        subst blank
        simp [Time.fromIsoFormat, Time.parse?, Time.clock?, Time.components?] at parsed
      refine ⟨time, ?_, ?_, ?_⟩
      · simpa [given, Json.truthy, Json.scalar?, Scalar.truthy] using someText
      · simp [given, timeText, parsed]
      · simp [given, isNaiveTime, parsed]
  · simp at accepted

theorem zoneOf_of_accepted (zones : ZonesLoad runtime) (raw : Json)
    (accepted : validateTimezone runtime raw = []) : ∃ zone, zoneOf runtime raw = some zone := by
  apply Option.isSome_iff_exists.mp
  cases raw with
  | null => exact zones.utc
  | str name =>
    simp only [validateTimezone] at accepted
    split at accepted
    · rename_i listed
      simp only [zoneOf]
      split
      · exact zones.listed name listed
      · exact zones.utc
    · simp at accepted
  | bool | int | float | arr | obj => simp [validateTimezone] at accepted

theorem timeOfDay_raises_iff (zones : ZonesLoad runtime) (wellFormed : WellFormedContext context)
    (accepted : validateTime runtime value = []) :
    timeOfDayAttempt runtime value userEmail resource (some context) ≠ none ↔
      Evaluable runtime resource context ("time", value) := by
  simp only [validateTime] at accepted
  simp only [timeOfDayAttempt, Evaluable]
  cases shape : value.dict? with
  | none => simp [shape] at accepted
  | some window =>
    simp only [shape, List.append_eq_nil_iff] at accepted
    obtain ⟨⟨startAccepted, endAccepted⟩, zoneAccepted⟩ := accepted
    obtain ⟨first, startTruthy, startParsed, startNaive⟩ :=
      timeBound_of_accepted window "start" startAccepted
    obtain ⟨last, endTruthy, endParsed, endNaive⟩ :=
      timeBound_of_accepted window "end" endAccepted
    obtain ⟨zone, loaded⟩ := zoneOf_of_accepted runtime zones _ zoneAccepted
    have converts := resolveCurrentDatetime_ne_none_iff runtime context wellFormed zone
    simp only [startTruthy, endTruthy, loaded, startParsed, endParsed, Bool.not_true, Bool.or_self,
      Bool.false_eq_true, if_false, Option.bind_eq_bind, Option.bind_some, Option.some.injEq,
      forall_eq', startNaive, endNaive, ← converts]
    cases current : resolveCurrentDatetime runtime (some context) zone with
    | none => simp
    | some reading =>
      have window := timeWindow_isSome_iff first last reading
      simpa [Option.isSome_iff_ne_none] using window

theorem dateBound_of_accepted (name : String) (bound : Json)
    (accepted : validateDateBound name bound = []) : ∃ day, dateBound bound = some day := by
  cases bound with
  | null => exact ⟨none, rfl⟩
  | str text =>
    simp only [validateDateBound] at accepted
    cases parsed : Date.fromIsoFormat text.toList with
    | none => simp [parsed] at accepted
    | some day =>
      simp only [dateBound, parsed]
      split <;> exact ⟨_, rfl⟩
  | bool | int | float | arr | obj => simp [validateDateBound] at accepted

theorem dateRange_raises_iff (zones : ZonesLoad runtime) (wellFormed : WellFormedContext context)
    (accepted : validateDateRange value = []) :
    dateRangeAttempt runtime value userEmail resource (some context) ≠ none ↔
      Evaluable runtime resource context ("date_range", value) := by
  simp only [validateDateRange] at accepted
  simp only [dateRangeAttempt, Evaluable]
  cases shape : value.dict? with
  | none => simp [shape] at accepted
  | some range =>
    simp only [shape] at accepted
    cases unbounded : (range.get "start").isNull && (range.get "end").isNull with
    | true => simp [unbounded] at accepted
    | false =>
      simp only [unbounded, Bool.false_eq_true, if_false, List.append_eq_nil_iff] at accepted
      obtain ⟨first, firstBound⟩ := dateBound_of_accepted "start" _ accepted.1
      obtain ⟨last, lastBound⟩ := dateBound_of_accepted "end" _ accepted.2
      obtain ⟨utc, loaded⟩ := Option.isSome_iff_exists.mp zones.utc
      have converts := resolveCurrentDatetime_ne_none_iff runtime context wellFormed utc
      simp only [unbounded, loaded, Bool.false_eq_true, if_false, Option.bind_eq_bind,
        Option.bind_some, Option.some.injEq, forall_eq', ← converts, firstBound, lastBound]
      cases current : resolveCurrentDatetime runtime (some context) utc with
      | none => simp
      | some reading =>
        simp only [Option.bind_some, ne_eq, reduceCtorEq, not_false_eq_true, iff_true]
        split <;> simp

/-- With well-formed entries only, no entry raises. -/
theorem someAllowed_ne_none (address : IpAddress) (entries : List Json)
    (accepted : ∀ entry ∈ entries, validateAllowedIp entry = []) :
    someAllowed address entries ≠ none := by
  induction entries with
  | nil => simp [someAllowed]
  | cons entry entries ih =>
    have headAccepted := accepted entry List.mem_cons_self
    have headRead : ∃ answer, allowedEntry address entry = some answer := by
      cases entry with
      | str text =>
        simp only [validateAllowedIp] at headAccepted
        simp only [allowedEntry]
        by_cases slash : text.toList.contains '/' = true
        · rw [if_pos slash] at headAccepted ⊢
          cases parsed : IpNetwork.ofText text.toList with
          | none => simp [parsed] at headAccepted
          | some _ => exact ⟨_, rfl⟩
        · rw [if_neg slash] at headAccepted ⊢
          cases parsed : IpAddress.ofText text.toList with
          | none => simp [parsed] at headAccepted
          | some _ => exact ⟨_, rfl⟩
      | null | bool | int | float | arr | obj => simp [validateAllowedIp] at headAccepted
    obtain ⟨answer, read⟩ := headRead
    simp only [someAllowed, read]
    cases answer with
    | true => simp
    | false => exact ih fun other member => accepted other (List.mem_cons_of_mem _ member)

theorem network_never_raises (wellFormed : WellFormedContext context)
    (accepted : validateNetwork value = []) :
    networkAttempt runtime value userEmail resource (some context) ≠ none := by
  simp only [validateNetwork] at accepted
  simp only [networkAttempt]
  cases shape : value.dict? with
  | none => simp [shape] at accepted
  | some block =>
    simp only [shape] at accepted
    obtain ⟨text, given, parses⟩ := wellFormed.address
    obtain ⟨address, parsed⟩ := Option.isSome_iff_exists.mp parses
    have caller : contextGet (some context) "ip_address" = .str text := given
    have callerRead : IpAddress.ofJson (.str text) = some address := parsed
    simp only [caller, callerRead, Option.bind_eq_bind, Option.bind_some]
    split
    · simp
    split at accepted
    · rename_i entry entries listed
      simp only [listed, entriesOf, Option.bind_some]
      exact someAllowed_ne_none address _ (List.flatMap_eq_nil_iff.mp accepted)
    · simp at accepted

theorem selfOnly_raises_iff :
    selfOnlyAttempt runtime value userEmail resource (some context) ≠ none ↔
      Evaluable runtime resource context ("self_only", value) := by
  simp only [selfOnlyAttempt, Evaluable]
  cases value.truthy with
  | false => simp
  | true =>
    cases resource with
    | none => simp
    | some object =>
      simp only [Bool.not_true, Bool.false_eq_true, if_false, Option.some.injEq, forall_eq',
        forall_const]
      cases getField object "email" <;> simp

theorem fieldEquals_none_iff (object : Resource) (entry : String × Json) :
    fieldEquals object entry = none ↔ getField object entry.1 = .raises := by
  simp only [fieldEquals]
  cases getField object entry.1 <;> simp

theorem resourceAttributes_raises_iff
    (accepted : validateNonEmptyObject "resource_attributes" value = []) :
    resourceAttributesAttempt runtime value userEmail resource (some context) ≠ none ↔
      Evaluable runtime resource context ("resource_attributes", value) := by
  simp only [validateNonEmptyObject] at accepted
  simp only [resourceAttributesAttempt, Evaluable, everyItem]
  cases shape : value.dict? with
  | none => simp [shape] at accepted
  | some expected =>
    have truthy : value.truthy = true := by
      by_contra falsy
      simp [shape, falsy] at accepted
    cases resource with
    | none => simp [truthy]
    | some object =>
      simp only [truthy, Bool.not_true, Bool.false_eq_true, if_false, Option.some.injEq,
        FieldsRead, allHold_ne_none_iff]
      constructor
      · rintro every _ _ rfl rfl before field value' after split raises
        exact every before (field, value') after split
          ((fieldEquals_none_iff object _).mpr raises)
      · intro every before entry after split raises
        exact every object expected rfl rfl before entry.1 entry.2 after split
          ((fieldEquals_none_iff object entry).mp raises)

theorem allHold_pure (check : String × Json → Bool) (entries : List (String × Json)) :
    allHold (fun entry => some (check entry)) entries ≠ none := by
  rw [allHold_ne_none_iff]
  intro before entry after split raises
  simp at raises

theorem contextAttributes_never_raises
    (accepted : validateNonEmptyObject "context_attributes" value = []) :
    contextAttributesAttempt runtime value userEmail resource (some context) ≠ none := by
  simp only [validateNonEmptyObject] at accepted
  simp only [contextAttributesAttempt, everyItem]
  cases shape : value.dict? with
  | none => simp [shape] at accepted
  | some expected =>
    split
    · simp
    · exact allHold_pure _ expected.items

theorem securityContext_raises_iff
    (accepted : validateNonEmptyObject "security_context" value = []) :
    securityContextAttempt runtime value userEmail resource (some context) ≠ none ↔
      Evaluable runtime resource context ("security_context", value) := by
  simp only [validateNonEmptyObject] at accepted
  simp only [securityContextAttempt, Evaluable, everyItem, SignalsRead]
  cases shape : value.dict? with
  | none => simp [shape] at accepted
  | some expected =>
    have truthy : value.truthy = true := by
      by_contra falsy
      simp [shape, falsy] at accepted
    have signals : contextGet (some context) "security_context" = context.get "security_context" :=
      rfl
    obtain ⟨entry, rest, entries⟩ :=
      List.exists_cons_of_ne_nil (items_ne_nil_of_truthy value expected shape truthy)
    simp only [truthy, signals, Bool.not_true, Bool.false_eq_true, if_false, Option.some.injEq,
      forall_eq']
    cases present : (context.get "security_context").truthy with
    | false => simp
    | true =>
      simp only [Bool.not_true, Bool.false_eq_true, if_false, reduceCtorEq, false_or]
      cases object : (context.get "security_context").dict? with
      | some held =>
        simp only [Option.some.injEq, exists_eq', true_or, iff_true]
        rw [allHold_ne_none_iff]
        intro before other after split raises
        rw [(dict?_eq_some_iff _ _).mp object] at raises
        simp only [signalHolds, keyIn, Json.dict?] at raises
        cases inside : ((Dict.mk held.keys held.values).get? other.1).isSome <;>
          simp [inside] at raises
      | none =>
        -- Signals that are no object end the walk at the first key, or raise there.
        simp only [reduceCtorEq, exists_false, false_or, entries, List.cons.injEq]
        simp only [allHold, signalHolds, object]
        cases contained : keyIn entry.1 (context.get "security_context") with
        | none => simp [contained]
        | some inside => cases inside <;> simp [contained]

/-- On an accepted block and a well-formed context the handlers are decided by what the block says
exactly when each of its entries is evaluable. -/
theorem accepted_never_raises_iff (conditions : Json) (zones : ZonesLoad runtime)
    (accepted : validateConditions runtime conditions = [])
    (wellFormed : WellFormedContext context) :
    NeverRaises runtime conditions userEmail resource context ↔
      ∀ dict, conditions.dict? = some dict → ∀ entry ∈ dict.items,
        Evaluable runtime resource context entry := by
  apply forall_congr'
  intro dict
  apply forall_congr'
  intro shape
  apply forall₂_congr
  intro entry member
  have entryAccepted := validateEntry_of_accepted runtime conditions dict accepted shape entry member
  obtain ⟨key, value⟩ := entry
  simp only [validateEntry, validators] at entryAccepted
  split at entryAccepted
  · simp at entryAccepted
  rename_i validator known
  split at known <;> simp only [Option.some.injEq, reduceCtorEq] at known <;> subst known
  · simpa [defaultAttempts] using
      selfOnly_raises_iff runtime value userEmail resource context
  · simpa [defaultAttempts] using
      resourceAttributes_raises_iff runtime value userEmail resource context entryAccepted
  · simpa [defaultAttempts, Evaluable] using
      contextAttributes_never_raises runtime value userEmail resource context entryAccepted
  · simpa [defaultAttempts] using
      securityContext_raises_iff runtime value userEmail resource context entryAccepted
  · simpa [defaultAttempts] using
      timeOfDay_raises_iff runtime value userEmail resource context zones wellFormed entryAccepted
  · simpa [defaultAttempts] using
      dateRange_raises_iff runtime value userEmail resource context zones wellFormed entryAccepted
  · simpa [defaultAttempts, Evaluable] using
      network_never_raises runtime value userEmail resource context wellFormed entryAccepted

end Accepted

/-! A window whose bounds carry an offset is accepted, but never compared with the clock. -/

def offsetWindow : Json :=
  singleEntry "time" (.obj ⟨["start", "end"], by decide⟩ [.str "09:00+00:00", .str "17:00+00:00"])

def noonContext : Dict :=
  ⟨⟨["ip_address", "current_time"], by decide⟩, [.str "10.1.2.3", .str "2026-01-01T12:00"]⟩

theorem noonContext_wellFormed : WellFormedContext noonContext :=
  ⟨⟨"10.1.2.3", rfl, by decide⟩, ⟨"2026-01-01T12:00", rfl, by decide⟩⟩

theorem utcRuntime_load : ZonesLoad utcRuntime where
  utc := rfl
  listed := by
    intro name listed
    have same : name = "UTC" := by simpa [utcRuntime] using listed
    simp [utcRuntime, same]

theorem accepted_window_raises :
    ¬ ∀ (runtime : Runtime) (conditions : Json) (userEmail : String)
      (resource : Option Resource) (context : Dict), ZonesLoad runtime →
        validateConditions runtime conditions = [] → WellFormedContext context →
          NeverRaises runtime conditions userEmail resource context := by
  intro claim
  have quiet := claim utcRuntime offsetWindow "ann@example.com" none noonContext utcRuntime_load
    (by decide) noonContext_wellFormed
  exact quiet _ rfl _ List.mem_cons_self _ rfl (by decide)

/-- The same window without offsets. -/
def naiveWindow : Json :=
  singleEntry "time" (.obj ⟨["start", "end"], by decide⟩ [.str "09:00", .str "17:00"])

theorem accepted_never_raises_iff_naiveWindow :
    NeverRaises utcRuntime naiveWindow "ann@example.com" none noonContext := by
  apply (accepted_never_raises_iff utcRuntime "ann@example.com" none noonContext naiveWindow
    utcRuntime_load (by decide) noonContext_wellFormed).mpr
  rintro dict ⟨⟩ entry member
  obtain rfl := List.mem_singleton.mp member
  rintro window ⟨⟩
  refine ⟨by decide, by decide, ?_⟩
  rintro zone ⟨⟩ text moment ⟨⟩ parsed
  have found : Datetime.fromIsoFormat "2026-01-01T12:00".toList =
      some ⟨739616 * dayMicros + 43200000000, none⟩ := by decide
  rw [found] at parsed
  cases parsed
  decide

end MysticAuth
