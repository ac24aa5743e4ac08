import MysticAuth.Authorization.GuardSoundness
import MysticAuth.Authorization.Routes
import MysticAuth.Python.DatetimeText

/-!
# The clock in the authorization context

A context carries the time of the request as an ISO 8601 text, which each
handler parses again.  Decisions fall as if the handlers read the clock of the
server at that instant, in whatever time zone a condition names.
-/

set_option autoImplicit false

namespace MysticAuth

open Python PolicyEvaluationEngine

/-- `build_authorization_context`, with `datetime.now(UTC)` at the instant. -/
def contextAt (ipAddress : String) (instant : Int) : Dict :=
  buildAuthorizationContext ipAddress (String.ofList (Datetime.isoFormat ⟨instant, some 0⟩))

/-- The same context without a time: the handlers read the clock of the server. -/
def contextWithoutClock (ipAddress : String) : Dict :=
  ⟨⟨["ip_address", "security_context"], by decide⟩, [.str ipAddress, .obj ⟨[], List.nodup_nil⟩ []]⟩

/-- The entry compares the text of the time itself. -/
def namesClock (entry : String × Json) : Bool :=
  entry.1 == "context_attributes" &&
    entry.2.dict?.any fun expected => expected.items.any (·.1 == "current_time")

/-- No condition of the grant compares the text of the time. -/
def Grant.Clockless (grant : Grant) : Prop :=
  ∀ dict, grant.conditions.dict? = some dict → ∀ entry ∈ dict.items, namesClock entry = false

section Lookups

variable (ipAddress : String) (instant : Int)

theorem get_contextAt_clock :
    (contextAt ipAddress instant).get "current_time" =
      .str (String.ofList (Datetime.isoFormat ⟨instant, some 0⟩)) :=
  rfl

theorem get_contextAt_of_ne (key : String) (notClock : key ≠ "current_time") :
    (contextAt ipAddress instant).get key = (contextWithoutClock ipAddress).get key := by
  simp only [contextAt, buildAuthorizationContext, contextWithoutClock, Dict.get, Dict.get?,
    Dict.items, List.zip_cons_cons, List.lookup_cons, beq_false_of_ne notClock]

end Lookups

section Decisions

variable (runtime : Runtime) (ipAddress : String) (instant : Int)

/-- The server with its clock at the instant. -/
def Runtime.atInstant : Runtime :=
  { runtime with now := instant }

theorem resolveCurrentDatetime_contextAt (zone : Zone)
    (range : Datetime.inRange instant = true) :
    resolveCurrentDatetime runtime (some (contextAt ipAddress instant)) zone =
      Datetime.ofInstant zone instant := by
  have valid : (⟨instant, some 0⟩ : Datetime).Valid := by
    refine ⟨range, ?_⟩
    intro micros isOffset
    obtain rfl := Option.some.inj isOffset
    simp [dayMicros]
  have truthy : Json.truthy
      (.str (String.ofList (Datetime.isoFormat ⟨instant, some 0⟩))) = true := by
    simp [Json.truthy, Json.scalar?, Scalar.truthy, Datetime.isoFormat_ne_nil]
  simp only [resolveCurrentDatetime, contextGet, Option.getD_some, get_contextAt_clock, truthy,
    if_true, String.toList_ofList, Datetime.fromIsoFormat_isoFormat _ valid]
  simp [Datetime.asTimezone]

theorem resolveCurrentDatetime_withoutClock (zone : Zone) :
    resolveCurrentDatetime (runtime.atInstant instant) (some (contextWithoutClock ipAddress)) zone =
      Datetime.ofInstant zone instant :=
  rfl

/-- The handlers that read the clock. -/
theorem timeOfDay_at (conditionValue : Json) (userEmail : String) (resource : Option Resource)
    (range : Datetime.inRange instant = true) :
    timeOfDay runtime conditionValue userEmail resource (some (contextAt ipAddress instant)) =
      timeOfDay (runtime.atInstant instant) conditionValue userEmail resource
        (some (contextWithoutClock ipAddress)) := by
  simp only [timeOfDay, resolveCurrentDatetime_contextAt runtime ipAddress instant _ range,
    resolveCurrentDatetime_withoutClock]
  rfl

theorem dateRange_at (conditionValue : Json) (userEmail : String) (resource : Option Resource)
    (range : Datetime.inRange instant = true) :
    dateRange runtime conditionValue userEmail resource (some (contextAt ipAddress instant)) =
      dateRange (runtime.atInstant instant) conditionValue userEmail resource
        (some (contextWithoutClock ipAddress)) := by
  simp only [dateRange, resolveCurrentDatetime_contextAt runtime ipAddress instant _ range,
    resolveCurrentDatetime_withoutClock]
  rfl

theorem contextAttributes_at (conditionValue : Json) (userEmail : String)
    (resource : Option Resource)
    (clockless : namesClock ("context_attributes", conditionValue) = false) :
    contextAttributes runtime conditionValue userEmail resource
        (some (contextAt ipAddress instant)) =
      contextAttributes (runtime.atInstant instant) conditionValue userEmail resource
        (some (contextWithoutClock ipAddress)) := by
  simp only [contextAttributes, everyEntry]
  split
  · rfl
  · split
    · rename_i expected isDict
      simp only [namesClock, isDict, Option.any_some, beq_self_eq_true, Bool.true_and,
        List.any_eq_false, beq_iff_eq] at clockless
      rw [Bool.eq_iff_iff, List.all_eq_true, List.all_eq_true]
      refine forall₂_congr fun entry member => ?_
      rw [get_contextAt_of_ne _ _ _ (clockless entry member)]
    · rfl

theorem entrySatisfied_at (userEmail : String) (resource : Option Resource)
    (range : Datetime.inRange instant = true) (entry : String × Json)
    (clockless : namesClock entry = false) :
    entrySatisfied runtime userEmail resource (some (contextAt ipAddress instant)) entry =
      entrySatisfied (runtime.atInstant instant) userEmail resource
        (some (contextWithoutClock ipAddress)) entry := by
  obtain ⟨key, value⟩ := entry
  simp only [entrySatisfied]
  cases found : defaultConditionRegistry key with
  | none => rfl
  | some handler =>
    unfold defaultConditionRegistry at found
    split at found
    · obtain rfl := Option.some.inj found
      rfl
    · obtain rfl := Option.some.inj found
      rfl
    · obtain rfl := Option.some.inj found
      exact contextAttributes_at runtime ipAddress instant value userEmail resource clockless
    · obtain rfl := Option.some.inj found
      exact timeOfDay_at runtime ipAddress instant value userEmail resource range
    · obtain rfl := Option.some.inj found
      exact dateRange_at runtime ipAddress instant value userEmail resource range
    · obtain rfl := Option.some.inj found
      rfl
    · obtain rfl := Option.some.inj found
      rfl
    · cases found

theorem evaluateConditions_at (grant : Grant) (userEmail : String) (resource : Option Resource)
    (range : Datetime.inRange instant = true) (clockless : grant.Clockless) :
    evaluateConditions runtime grant.conditions userEmail resource
        (some (contextAt ipAddress instant)) =
      evaluateConditions (runtime.atInstant instant) grant.conditions userEmail resource
        (some (contextWithoutClock ipAddress)) := by
  unfold evaluateConditions
  split
  · rfl
  · split
    · rfl
    · rename_i dict isDict
      have failed : (dict.items.filter fun entry =>
          !entrySatisfied runtime userEmail resource (some (contextAt ipAddress instant)) entry) =
          dict.items.filter fun entry => !entrySatisfied (runtime.atInstant instant) userEmail
            resource (some (contextWithoutClock ipAddress)) entry := by
        refine List.filter_congr fun entry member => ?_
        rw [entrySatisfied_at runtime ipAddress instant userEmail resource range entry
          (clockless dict isDict entry member)]
      simp only [failed]

theorem evaluateGrants_at (policies : List Grant) (action resourceType userEmail : String)
    (resource : Option Resource) (range : Datetime.inRange instant = true)
    (clockless : ∀ grant ∈ policies, grant.Clockless) (progress : Progress) :
    policies.foldl (evaluateGrant runtime action resourceType userEmail resource
        (some (contextAt ipAddress instant))) progress =
      policies.foldl (evaluateGrant (runtime.atInstant instant) action resourceType userEmail
        resource (some (contextWithoutClock ipAddress))) progress := by
  induction policies generalizing progress with
  | nil => rfl
  | cons grant rest ih =>
    have step : evaluateGrant runtime action resourceType userEmail resource
        (some (contextAt ipAddress instant)) progress grant =
        evaluateGrant (runtime.atInstant instant) action resourceType userEmail resource
          (some (contextWithoutClock ipAddress)) progress grant := by
      simp only [evaluateGrant, evaluateConditions_at runtime ipAddress instant grant userEmail
        resource range (clockless grant List.mem_cons_self)]
    rw [List.foldl_cons, List.foldl_cons, step]
    exact ih (fun other member => clockless other (List.mem_cons_of_mem _ member)) _

/-- Whenever it is evaluated, a request is decided and explained as by a server whose clock stands
at the instant that was written into the context, in every time zone. -/
theorem decision_at_request_time (policies : List Grant)
    (action resourceType userEmail : String) (resource : Option Resource)
    (range : Datetime.inRange instant = true)
    (clockless : ∀ grant ∈ policies, grant.Clockless) :
    { evaluateDetailed runtime policies action resourceType userEmail resource
        (some (contextAt ipAddress instant)) with evaluationTimestamp := instant } =
      evaluateDetailed (runtime.atInstant instant) policies action resourceType userEmail resource
        (some (contextWithoutClock ipAddress)) := by
  simp only [evaluateDetailed, evaluateGrants, evaluateGrants_at runtime ipAddress instant policies
    action resourceType userEmail resource range clockless]
  rfl

end Decisions

/-- Midnight of 2025-06-01 in UTC. -/
def firstOfJune : Int :=
  (739403 - 1) * dayMicros

def sinceJune : Grant where
  name := "reports_2025"
  actions := ["reports:read"]
  resourceType := "reports"
  conditions := .obj ⟨["date_range"], List.nodup_singleton _⟩
    [.obj ⟨["start"], List.nodup_singleton _⟩ [.str "2025-06-01"]]

theorem sinceJune_clockless : sinceJune.Clockless := by
  intro dict isDict entry member
  obtain rfl := Option.some.inj isDict
  obtain rfl := List.mem_singleton.mp member
  rfl

/-- A request of the last microsecond of May is denied and one at midnight is allowed, although the
clock of the server stands long before both when they are evaluated. -/
theorem decision_at_request_time_june :
    (evaluateDetailed (utcRuntime.atInstant (firstOfJune - 1)) [sinceJune] "reports:read" "reports"
        "ann@example.com" none (some (contextWithoutClock "10.0.0.1"))).allowed = false ∧
      (evaluateDetailed utcRuntime [sinceJune] "reports:read" "reports" "ann@example.com" none
        (some (contextAt "10.0.0.1" firstOfJune))).allowed = true ∧
      { evaluateDetailed utcRuntime [sinceJune] "reports:read" "reports" "ann@example.com" none
          (some (contextAt "10.0.0.1" firstOfJune)) with evaluationTimestamp := firstOfJune } =
        evaluateDetailed (utcRuntime.atInstant firstOfJune) [sinceJune] "reports:read" "reports"
          "ann@example.com" none (some (contextWithoutClock "10.0.0.1")) :=
  ⟨by decide +kernel, by decide +kernel,
    decision_at_request_time utcRuntime "10.0.0.1" firstOfJune [sinceJune] "reports:read" "reports"
      "ann@example.com" none (by decide) (by simp [sinceJune_clockless])⟩

end MysticAuth
