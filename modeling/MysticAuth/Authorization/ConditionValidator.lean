import MysticAuth.Authorization.Conditions

/-!
# Write-time validation of condition blocks

Every route that stores a `conditions` block validates it first.  All problems
of a block are collected, except that an oversized or too deep block is
rejected on its shape alone.
-/

set_option autoImplicit false

namespace MysticAuth

open Python

def maxConditionDepth : Nat := 10

def maxConditionNodes : Nat := 2000

def maxConditionStringLength : Nat := 2000

inductive ConditionError where
  | notAnObject
  | tooManyNodes
  | tooDeep
  | keyTooLong
  | stringTooLong
  | unknownKey (key : String)
  | selfOnlyNotBoolean
  | notANonEmptyObject (key : String)
  | typeNotAnObject (key : String)
  | timeBoundNotString (bound : String)
  | timeBoundInvalid (bound : String) (raw : Json)
  | timezoneInvalid (raw : Json)
  | dateRangeUnbounded
  | dateBoundNotString (bound : String)
  | dateBoundInvalid (bound : String) (raw : Json)
  | allowedIpsNotAList
  | allowedIpNotString (entry : Json)
  | allowedIpInvalid (entry : Json)

/-- The English message; `repr` renders an offending value as `!r` does. -/
def ConditionError.message (repr : Json → String) : ConditionError → String
  | notAnObject => "'conditions' must be a JSON object"
  | tooManyNodes =>
      s!"'conditions' contains too many nested keys/items (max {maxConditionNodes})"
  | tooDeep => s!"'conditions' is nested too deeply (max depth {maxConditionDepth})"
  | keyTooLong =>
      s!"'conditions' contains a key longer than {maxConditionStringLength} characters"
  | stringTooLong =>
      s!"'conditions' contains a string value longer than {maxConditionStringLength} characters"
  | unknownKey key => s!"Unknown condition key '{key}'"
  | selfOnlyNotBoolean => "'self_only' must be a boolean"
  | notANonEmptyObject key => s!"'{key}' must be a non-empty object"
  | typeNotAnObject key => s!"'{key}' must be an object"
  | timeBoundNotString bound => s!"'time.{bound}' is required and must be a string ('HH:MM')"
  | timeBoundInvalid bound raw => s!"'time.{bound}' is not a valid time: {repr raw}"
  | timezoneInvalid raw => s!"'time.timezone' is not a valid IANA timezone name: {repr raw}"
  | dateRangeUnbounded => "'date_range' requires at least one of 'start' or 'end'"
  | dateBoundNotString bound => s!"'date_range.{bound}' must be a string ('YYYY-MM-DD')"
  | dateBoundInvalid bound raw => s!"'date_range.{bound}' is not a valid date: {repr raw}"
  | allowedIpsNotAList => "'network.allowed_ips' must be a non-empty list"
  | allowedIpNotString entry =>
      s!"'network.allowed_ips' entries must be strings, got {repr entry}"
  | allowedIpInvalid entry =>
      s!"'network.allowed_ips' contains an invalid IP/CIDR: {repr entry}"

/-! ## Size and depth -/

/-- The walk over an explicit stack, top first.  A long key ends the scan of its own object
only; the other problems end the walk. -/
def walkSizeAndDepth : Nat → List (Json × Nat) → List ConditionError
  | _, [] => []
  | 0, _ :: _ => [.tooManyNodes]
  | remaining + 1, (node, depth) :: stack =>
      if depth > maxConditionDepth then [.tooDeep]
      else
        match node with
        | .obj keys values =>
            let entries := keys.val.zip values
            let pushed := entries.takeWhile fun entry =>
              decide (entry.1.length ≤ maxConditionStringLength)
            let problems := if pushed.length < entries.length then [.keyTooLong] else []
            problems ++ walkSizeAndDepth remaining
              ((pushed.map fun entry => (entry.2, depth + 1)).reverse ++ stack)
        | .arr items =>
            walkSizeAndDepth remaining ((items.map fun item => (item, depth + 1)).reverse ++ stack)
        | .str text =>
            if text.length > maxConditionStringLength then [.stringTooLong]
            else walkSizeAndDepth remaining stack
        | _ => walkSizeAndDepth remaining stack

def validateSizeAndDepth (conditions : Json) : List ConditionError :=
  walkSizeAndDepth maxConditionNodes [(conditions, 0)]

/-! ## One validator per condition type -/

def validateSelfOnly : Json → List ConditionError
  | .bool _ => []
  | _ => [.selfOnlyNotBoolean]

/-- `resource_attributes`, `context_attributes` and `security_context` share this check. -/
def validateNonEmptyObject (key : String) (value : Json) : List ConditionError :=
  if value.dict?.isSome && value.truthy then [] else [.notANonEmptyObject key]

def validateTimeBound (block : Dict) (bound : String) : List ConditionError :=
  match block.get bound with
  | .str raw =>
      if (Time.fromIsoFormat raw.toList).isSome then [] else [.timeBoundInvalid bound (.str raw)]
  | _ => [.timeBoundNotString bound]

def validateTimezone (runtime : Runtime) : Json → List ConditionError
  | .null => []
  | .str name =>
      if runtime.availableTimezones name then [] else [.timezoneInvalid (.str name)]
  | raw => [.timezoneInvalid raw]

def validateTime (runtime : Runtime) (value : Json) : List ConditionError :=
  match value.dict? with
  | none => [.typeNotAnObject "time"]
  | some block =>
      validateTimeBound block "start" ++ validateTimeBound block "end" ++
        validateTimezone runtime (block.get "timezone")

def validateDateBound (bound : String) : Json → List ConditionError
  | .null => []
  | .str raw =>
      if (Date.fromIsoFormat raw.toList).isSome then [] else [.dateBoundInvalid bound (.str raw)]
  | _ => [.dateBoundNotString bound]

def validateDateRange (value : Json) : List ConditionError :=
  match value.dict? with
  | none => [.typeNotAnObject "date_range"]
  | some block =>
      let first := block.get "start"
      let last := block.get "end"
      if first.isNull && last.isNull then [.dateRangeUnbounded]
      else validateDateBound "start" first ++ validateDateBound "end" last

def validateAllowedIp : Json → List ConditionError
  | .str entry =>
      let parses :=
        if entry.toList.contains '/' then (IpNetwork.ofText entry.toList).isSome
        else (IpAddress.ofText entry.toList).isSome
      if parses then [] else [.allowedIpInvalid (.str entry)]
  | entry => [.allowedIpNotString entry]

def validateNetwork (value : Json) : List ConditionError :=
  match value.dict? with
  | none => [.typeNotAnObject "network"]
  | some block =>
      match block.get "allowed_ips" with
      | .arr (entry :: entries) => (entry :: entries).flatMap validateAllowedIp
      | _ => [.allowedIpsNotAList]

def validators (runtime : Runtime) : String → Option (Json → List ConditionError)
  | "self_only" => some validateSelfOnly
  | "resource_attributes" => some (validateNonEmptyObject "resource_attributes")
  | "context_attributes" => some (validateNonEmptyObject "context_attributes")
  | "security_context" => some (validateNonEmptyObject "security_context")
  | "time" => some (validateTime runtime)
  | "date_range" => some validateDateRange
  | "network" => some validateNetwork
  | _ => none

def validateEntry (runtime : Runtime) (entry : String × Json) : List ConditionError :=
  match validators runtime entry.1 with
  | none => [.unknownKey entry.1]
  | some validator => validator entry.2

/-- The errors a `ConditionValidationError` carries; none when the block is accepted. -/
def validateConditions (runtime : Runtime) (conditions : Json) : List ConditionError :=
  match conditions with
  | .null => []
  | .obj keys values =>
      let sizeErrors := validateSizeAndDepth conditions
      if sizeErrors.isEmpty then
        (Dict.mk keys values).items.flatMap (validateEntry runtime)
      else sizeErrors
  | _ => [.notAnObject]

/-! ## What acceptance guarantees -/

theorem validateEntry_of_accepted (runtime : Runtime) (conditions : Json) (dict : Dict)
    (accepted : validateConditions runtime conditions = []) (shape : conditions.dict? = some dict)
    (entry : String × Json) (member : entry ∈ dict.items) : validateEntry runtime entry = [] := by
  cases conditions with
  | obj keys values =>
    obtain rfl : Dict.mk keys values = dict := by simpa [Json.dict?] using shape
    simp only [validateConditions] at accepted
    split at accepted
    · exact List.flatMap_eq_nil_iff.mp accepted entry member
    · simp_all
  | null | bool | int | float | str | arr => simp [Json.dict?] at shape

theorem allowedIps_of_accepted_network (value : Json) (accepted : validateNetwork value = []) :
    ∃ block items, value.dict? = some block ∧ block.get "allowed_ips" = .arr items := by
  simp only [validateNetwork] at accepted
  split at accepted
  · simp at accepted
  · rename_i block shape
    split at accepted
    · rename_i listed
      exact ⟨block, _, shape, listed⟩
    · simp at accepted

end MysticAuth
