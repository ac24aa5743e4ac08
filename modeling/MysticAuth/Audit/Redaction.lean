import Mathlib.Data.List.Infix
import MysticAuth.Python.Grouping
import MysticAuth.Python.JsonPath

/-!
# Redaction of audit metadata

What is stored under a key that names something sensitive is replaced before
an entry is written.  Dictionaries are entered, lists are not.
-/

set_option autoImplicit false

namespace MysticAuth.Audit

open Python Json

/-- `_SENSITIVE_METADATA_KEY_MARKERS` -/
def sensitiveMetadataKeyMarkers : List String :=
  ["password", "hash", "token", "secret", "cookie", "jwt", "credential"]

def redactedText : Json :=
  .str "[REDACTED]"

section Redaction

-- `str.lower`
variable (lower : String → String)

def isSensitive (key : String) : Bool :=
  sensitiveMetadataKeyMarkers.any fun marker =>
    decide (marker.toList <:+: (lower key).toList)

mutual

def redactValue (key : String) : Json → Json
  | .obj keys values =>
      if isSensitive lower key then redactedText
      else .obj keys (redactFields keys.val values)
  | value => if isSensitive lower key then redactedText else value

/-- The comprehension over the items of a dictionary. -/
def redactFields : List String → List Json → List Json
  | key :: keys, value :: values => redactValue key value :: redactFields keys values
  | _, _ => []

end

def redactSensitiveMetadata (metadata : Option Dict) : Option Dict :=
  metadata.map fun dict => ⟨dict.keys, redactFields lower dict.keys.val dict.values⟩

/-! ## What is wanted -/

/-- At every depth what stands under a sensitive key is replaced, and what does not is as it was. -/
structure Redacts (original redacted : Json) : Prop where
  hidden : ∀ path key value, redacted.follow (path ++ [.key key]) = some value →
    isSensitive lower key = true → value = redactedText
  kept : ∀ path, (∀ key, .key key ∈ path → ¬isSensitive lower key = true) →
    (redacted.follow path).map shape = (original.follow path).map shape

/-- A list that is not under a sensitive key has, somewhere in it, a value under one. -/
def Exposed (value : Json) : Prop :=
  ∃ (fields : List String) (items : List Json), (∀ field ∈ fields, ¬isSensitive lower field = true) ∧
    value.follow (fields.map .key) = some (.arr items) ∧
      ∃ path key secret, (Json.arr items).follow (path ++ [.key key]) = some secret ∧
        isSensitive lower key = true ∧ secret ≠ redactedText

/-! ## One level -/

/-- What becomes of a value under no sensitive key. -/
def redactNested : Json → Json
  | .obj keys values => .obj keys (redactFields lower keys.val values)
  | value => value

theorem redactValue_eq (key : String) (value : Json) :
    redactValue lower key value =
      if isSensitive lower key then redactedText else redactNested lower value := by
  cases value <;> rfl

theorem zip_redactFields (keys : List String) (values : List Json) :
    keys.zip (redactFields lower keys values) =
      (keys.zip values).map fun item => (item.1, redactValue lower item.1 item.2) := by
  induction keys generalizing values with
  | nil => rfl
  | cons key keys ih =>
    cases values with
    | nil => rfl
    | cons value values => simp [redactFields, ih]

theorem child_redactNested_key (value : Json) (key : String) :
    (redactNested lower value).child (.key key) =
      (value.child (.key key)).map (redactValue lower key) := by
  cases value with
  | obj keys values =>
    simp only [redactNested, child, Dict.get?, Dict.items, zip_redactFields,
      lookup_map_items (redactValue lower)]
  | _ => rfl

theorem child_redactNested_index (value : Json) (position : Nat) :
    (redactNested lower value).child (.index position) = value.child (.index position) := by
  cases value <;> rfl

theorem shape_redactNested (value : Json) :
    (redactNested lower value).shape = value.shape := by
  cases value with
  | obj keys values =>
    simp [redactNested, shape, Dict.items, zip_redactFields, List.map_map, Function.comp_def]
  | _ => rfl

/-! ## A value under no sensitive key -/

section Nested

variable {lower}

theorem child_redactNested {key : String} (plain : ¬isSensitive lower key = true) (value : Json) :
    (redactNested lower value).child (.key key) =
      (value.child (.key key)).map (redactNested lower) := by
  rw [child_redactNested_key]
  congr 1
  funext child
  rw [redactValue_eq, if_neg plain]

theorem follow_redactNested {fields : List String}
    (plain : ∀ field ∈ fields, ¬isSensitive lower field = true) (value : Json) :
    (redactNested lower value).follow (fields.map .key) =
      (value.follow (fields.map .key)).map (redactNested lower) := by
  induction fields generalizing value with
  | nil => rfl
  | cons field fields ih =>
    obtain ⟨plainField, plainRest⟩ := List.forall_mem_cons.mp plain
    simp only [List.map_cons, follow, child_redactNested plainField]
    cases value.child (.key field) with
    | none => rfl
    | some next => exact ih plainRest next

theorem kept_redactNested (path : List PathStep)
    (plain : ∀ key, .key key ∈ path → ¬isSensitive lower key = true) (value : Json) :
    ((redactNested lower value).follow path).map shape = (value.follow path).map shape := by
  induction path generalizing value with
  | nil => simp [follow, shape_redactNested]
  | cons step path ih =>
    cases step with
    | index position => simp only [follow, child_redactNested_index]
    | key key =>
      simp only [follow, child_redactNested (plain key List.mem_cons_self)]
      cases value.child (.key key) with
      | none => rfl
      | some next => exact ih (fun key member => plain key (List.mem_cons_of_mem _ member)) next

theorem Exposed.of_child {key : String} {value next : Json}
    (plain : ¬isSensitive lower key = true) (found : value.child (.key key) = some next)
    (exposed : Exposed lower next) : Exposed lower value := by
  obtain ⟨fields, items, plainFields, reached, inside⟩ := exposed
  refine ⟨key :: fields, items, List.forall_mem_cons.mpr ⟨plain, plainFields⟩, ?_, inside⟩
  simp only [List.map_cons, follow, found, Option.bind_some, reached]

/-- By induction on the path; lists are left as they are. -/
theorem hidden_redactNested {key : String} {secret : Json}
    (sensitive : isSensitive lower key = true) (path : List PathStep) (value : Json)
    (covered : ¬Exposed lower value)
    (found : (redactNested lower value).follow (path ++ [.key key]) = some secret) :
    secret = redactedText := by
  induction path generalizing value with
  | nil =>
    simp only [List.nil_append, follow, child_redactNested_key, Option.bind_eq_some_iff,
      Option.map_eq_some_iff] at found
    obtain ⟨_, ⟨original, -, rfl⟩, same⟩ := found
    cases same
    rw [redactValue_eq, if_pos sensitive]
  | cons step path ih =>
    cases step with
    | index position =>
      rw [List.cons_append, follow, child_redactNested_index] at found
      cases value with
      | arr items =>
        by_contra shown
        exact covered ⟨[], items, by simp, rfl, .index position :: path, key, secret, found,
          sensitive, shown⟩
      | _ => cases found
    | key name =>
      rw [List.cons_append, follow, child_redactNested_key] at found
      cases reached : value.child (.key name) with
      | none =>
        rw [reached] at found
        cases found
      | some next =>
        simp only [reached, Option.map_some, Option.bind_some, redactValue_eq] at found
        by_cases hides : isSensitive lower name = true
        · -- Nothing is stored in the text that stands here now.
          rw [if_pos hides] at found
          cases path <;> cases found
        · rw [if_neg hides] at found
          exact ih next (fun exposed => covered (exposed.of_child hides reached)) found

theorem redacts_redactNested_iff (value : Json) :
    Redacts lower value (redactNested lower value) ↔ ¬Exposed lower value := by
  constructor
  · rintro redacts ⟨fields, items, plain, reached, path, key, secret, found, sensitive, shown⟩
    refine shown (redacts.hidden (fields.map .key ++ path) key secret ?_ sensitive)
    rw [List.append_assoc, follow_append, follow_redactNested plain, reached]
    exact found
  · intro covered
    exact ⟨fun path key secret found sensitive =>
      hidden_redactNested sensitive path value covered found,
      fun path plain => kept_redactNested path plain value⟩

/-- The metadata as a JSON value. -/
def asJson (dict : Dict) : Json :=
  .obj dict.keys dict.values

variable (lower) in
/-- Redaction is complete unless a list shows what is sensitive. -/
theorem redaction_complete_iff (metadata : Option Dict) :
    (∀ dict ∈ metadata, ∃ redacted ∈ redactSensitiveMetadata lower metadata,
        Redacts lower (asJson dict) (asJson redacted)) ↔
      ∀ dict ∈ metadata, ¬Exposed lower (asJson dict) := by
  cases metadata with
  | none => simp
  | some dict =>
    have complete : Redacts lower (asJson dict)
        (asJson ⟨dict.keys, redactFields lower dict.keys.val dict.values⟩) ↔
          ¬Exposed lower (asJson dict) :=
      redacts_redactNested_iff (asJson dict)
    simpa [redactSensitiveMetadata] using complete

end Nested

end Redaction

/-- Passwords that were tried, in a list. -/
def triedPasswords : Dict :=
  ⟨⟨["attempts"], by decide⟩,
    [.arr [.obj ⟨["password"], by decide⟩ [.str "hunter2"]]]⟩

theorem exposed_triedPasswords : Exposed id (asJson triedPasswords) := by
  refine ⟨["attempts"], [.obj ⟨["password"], by decide⟩ [.str "hunter2"]],
    by decide +kernel, ?_, [.index 0], "password", .str "hunter2", ?_, by decide +kernel,
    by simp [redactedText]⟩
  · simp [asJson, triedPasswords, follow, child, Dict.get?, Dict.items]
  · simp [follow, child, Dict.get?, Dict.items]

theorem password_in_list_shown :
    ¬∀ dict ∈ some triedPasswords, ∃ redacted ∈ redactSensitiveMetadata id (some triedPasswords),
      Redacts id (asJson dict) (asJson redacted) := by
  intro complete
  obtain ⟨_, made, redacts⟩ := complete triedPasswords rfl
  cases made
  exact (redacts_redactNested_iff (asJson triedPasswords)).mp redacts exposed_triedPasswords

end MysticAuth.Audit
