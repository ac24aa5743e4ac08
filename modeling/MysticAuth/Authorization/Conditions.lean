import MysticAuth.Python.Datetime
import MysticAuth.Python.IpAddress

/-!
# Condition evaluation

A grant may carry a `conditions` block, a JSON object with one entry per
condition type.  The evaluation service dispatches every entry to the handler
registered for its key and requires all of them to be satisfied.  A handler
never raises: whatever goes wrong inside it denies.
-/

set_option autoImplicit false

namespace MysticAuth

open Python

/-- What the handlers and the validator read of the running server: its clock, as microseconds
since 0001-01-01T00:00 UTC, and the installed time zone database. -/
structure Runtime where
  now : Int
  zoneInfo : String → Option Zone
  availableTimezones : String → Bool

/-- An attribute of a resource object: a value that compares like a JSON value, a value equal
to no JSON value, or a property whose getter raises. -/
inductive Attribute where
  | json (value : Json)
  | foreign
  | raises

inductive Resource where
  | dict (fields : Dict)
  | object (getattr : String → Attribute)

def getField (resource : Resource) (field : String) : Attribute :=
  match resource with
  | .dict fields => .json (fields.get field)
  | .object getattr => getattr field

def Attribute.equals (actual : Attribute) (expected : Json) : Bool :=
  match actual with
  | .json value => Json.eq value expected
  | .foreign => false
  | .raises => false

/-! ## The clock -/

/-- `(context or {}).get(key)`. -/
def contextGet (context : Option Dict) (key : String) : Json :=
  (context.getD Dict.empty).get key

/-- The wall clock in `zone`, unless the context overrides it with an ISO 8601 text.
The result is the local clock reading; `none` is an exception. -/
def resolveCurrentDatetime (runtime : Runtime) (context : Option Dict) (zone : Zone) :
    Option Int :=
  let override := contextGet context "current_time"
  if override.truthy then
    match override with
    | .str text => do
        let parsed ← Datetime.fromIsoFormat text.toList
        Datetime.asTimezone zone parsed
    | _ => none
  else Datetime.ofInstant zone runtime.now

/-! ## The handlers -/

abbrev Handler :=
  Runtime → Json → String → Option Resource → Option Dict → Bool

def selfOnly : Handler := fun _ conditionValue userEmail resource _ =>
  if !conditionValue.truthy then true
  else
    match resource with
    | none => false
    | some resource =>
        match getField resource "email" with
        | .json ownerEmail =>
            ownerEmail.truthy && userEmail != "" && Json.eq ownerEmail (.str userEmail)
        | .foreign => false
        | .raises => false

/-- `all(check(key, value) for key, value in condition_value.items())`. -/
def everyEntry (conditionValue : Json) (check : String × Json → Bool) : Bool :=
  match conditionValue.dict? with
  | some expected => expected.items.all check
  | none => false

def resourceAttributes : Handler := fun _ conditionValue _ resource _ =>
  if !conditionValue.truthy then true
  else
    match resource with
    | none => false
    | some resource =>
        everyEntry conditionValue fun (field, value) => (getField resource field).equals value

def contextAttributes : Handler := fun _ conditionValue _ _ context =>
  if !conditionValue.truthy then true
  else
    match context with
    | none => false
    | some context => everyEntry conditionValue fun (key, value) => Json.eq (context.get key) value

def securityContext : Handler := fun _ conditionValue _ _ context =>
  if !conditionValue.truthy then true
  else
    let signals := contextGet context "security_context"
    if !signals.truthy then false
    else
      match signals.dict? with
      | none => false
      | some signals =>
          everyEntry conditionValue fun (key, value) =>
            match signals.get? key with
            | some signal => Json.eq signal value
            | none => false

/-- `ZoneInfo(name or "UTC")`. -/
def zoneOf (runtime : Runtime) (name : Json) : Option Zone :=
  if name.truthy then
    match name with
    | .str text => runtime.zoneInfo text
    | _ => none
  else runtime.zoneInfo "UTC"

/-- `start` after `end` is an overnight window that wraps past midnight. -/
def timeWindow (first last current : Time) : Option Bool := do
  if ← first.le? last then
    if ← first.le? current then current.le? last else some false
  else if ← first.le? current then some true
  else current.le? last

def timeOfDay : Handler := fun runtime conditionValue _ _ context =>
  match conditionValue.dict? with
  | none => false
  | some window =>
      match window.get "start", window.get "end" with
      | .str first, .str last =>
          if first = "" ∨ last = "" then false
          else
            (do
              let zone ← zoneOf runtime (window.get "timezone")
              let first ← Time.fromIsoFormat first.toList
              let last ← Time.fromIsoFormat last.toList
              let current ← resolveCurrentDatetime runtime context zone
              timeWindow first last (Datetime.timeOf current)).getD false
      | _, _ => false

/-- One bound of a date range: absent when falsy, an exception when not an ISO date text. -/
def dateBound (bound : Json) : Option (Option Int) :=
  if !bound.truthy then some none
  else
    match bound with
    | .str text => some <$> Date.fromIsoFormat text.toList
    | _ => none

def dateRange : Handler := fun runtime conditionValue _ _ context =>
  match conditionValue.dict? with
  | none => false
  | some range =>
      let first := range.get "start"
      let last := range.get "end"
      if first.isNull && last.isNull then false
      else
        (do
          let zone ← runtime.zoneInfo "UTC"
          let current ← resolveCurrentDatetime runtime context zone
          let today := Datetime.dateOf current
          let first ← dateBound first
          if first.any (today < ·) then some false
          else
            let last ← dateBound last
            some (!last.any (· < today))).getD false

/-- One entry of `allowed_ips` against the caller's address; `none` is an exception. -/
def allowedEntry (address : IpAddress) : Json → Option Bool
  | .str entry =>
      if entry.toList.contains '/' then
        (·.contains address) <$> IpNetwork.ofText entry.toList
      else (fun listed => decide (address = listed)) <$> IpAddress.ofText entry.toList
  | _ => none

/-- The entries are tried in order; an exception at one of them denies. -/
def anyAllowed (address : IpAddress) : List Json → Bool
  | [] => false
  | entry :: entries =>
      match allowedEntry address entry with
      | some true => true
      | some false => anyAllowed address entries
      | none => false

/-- What iterating over a decoded value yields; a non-empty text yields single characters,
none of which parses as an address. -/
def iterate : Json → List Json
  | .arr items => items
  | .obj keys values => (keys.val.zip values).map fun entry => .str entry.1
  | _ => []

def network : Handler := fun _ conditionValue _ _ context =>
  match conditionValue.dict? with
  | none => false
  | some block =>
      let allowedIps := block.get "allowed_ips"
      let callerIp := contextGet context "ip_address"
      if !allowedIps.truthy || !callerIp.truthy then false
      else
        match IpAddress.ofJson callerIp with
        | none => false
        | some callerAddress => anyAllowed callerAddress (iterate allowedIps)

/-- The handlers the template ships with; nothing under the repository registers another. -/
def defaultConditionRegistry : String → Option Handler
  | "self_only" => some selfOnly
  | "resource_attributes" => some resourceAttributes
  | "context_attributes" => some contextAttributes
  | "time" => some timeOfDay
  | "date_range" => some dateRange
  | "network" => some network
  | "security_context" => some securityContext
  | _ => none

/-! ## The evaluation service -/

structure ConditionResult where
  satisfied : Bool
  failedKeys : List String

def entrySatisfied (runtime : Runtime) (userEmail : String) (resource : Option Resource)
    (context : Option Dict) (entry : String × Json) : Bool :=
  match defaultConditionRegistry entry.1 with
  | none => false
  | some handler => handler runtime entry.2 userEmail resource context

/-- Every key is checked, so that all failures are reported.  `conditions` is the stored JSONB
value, `null` for an unconditional grant. -/
def evaluateConditions (runtime : Runtime) (conditions : Json) (userEmail : String)
    (resource : Option Resource) (context : Option Dict) : ConditionResult :=
  if !conditions.truthy then ⟨true, []⟩
  else
    match conditions.dict? with
    | none => ⟨false, ["__invalid_conditions__"]⟩
    | some dict =>
        let failed := (dict.items.filter fun entry =>
          !entrySatisfied runtime userEmail resource context entry).map Prod.fst
        ⟨failed.isEmpty, failed⟩

end MysticAuth
