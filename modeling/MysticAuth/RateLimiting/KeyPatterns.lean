import MysticAuth.Accounts.EmailKeys
import MysticAuth.Valkey.Glob

/-!
# Patterns of counter keys

The dashboard finds counters by a glob pattern of three segments.  What is
asked for is escaped in it, and an address is looked for by its keyed hash.
-/

set_option autoImplicit false

namespace MysticAuth.RateLimits

open Glob Python Wildcards

/-- `_GLOB_METACHARACTERS` -/
def globMetacharacters : List Char :=
  ['\\', '*', '?', '[', ']']

def escapeGlob (value : String) : String :=
  globMetacharacters.foldl
    (fun value char => value.replace (String.singleton char) (String.ofList ['\\', char])) value

/-- The scopes that a counter can have. -/
def keyScopes : List String :=
  ["ip", "account", "email", "account_ip"]

/-- An empty filter is none. -/
def given (filter : Option String) : Option String :=
  filter.filter (· ≠ "")

theorem given_empty : given (some "") = none := rfl

theorem given_of_ne {text : String} (nonempty : text ≠ "") : given (some text) = some text := by
  simp [given, nonempty]

section Pattern

variable (tables : KeyTables)

/-- What an identifier filter looks for. -/
def soughtText (identifier : String) : String :=
  if '@' ∈ identifier.toList then tables.emailKeyId identifier else identifier

def endpointSegment (endpoint : Option String) : String :=
  match given endpoint with
  | some name => escapeGlob name
  | none => "*"

def scopeSegment (scope : Option String) : String :=
  match scope with
  | some name => if name ∈ keyScopes then name else "*"
  | none => "*"

def soughtIdentifier (identifier : Option String) : Option String :=
  given ((given identifier).map (soughtText tables))

def identifierSegment (identifier : Option String) : String :=
  match soughtIdentifier tables identifier with
  | some text => "*" ++ escapeGlob text ++ "*"
  | none => "*"

def keyPattern (scope endpoint identifier : Option String) : String :=
  endpointSegment endpoint ++ ":" ++ scopeSegment scope ++ ":" ++
    identifierSegment tables identifier

end Pattern

theorem toList_escapeGlob (value : String) :
    (escapeGlob value).toList = value.toList.flatMap (escapeWith '\\' metacharacters) :=
  toList_escape '\\' ['*', '?', '[', ']'] (by decide) value

/-! ## What the segments mean -/

/-- A literal text, or anything. -/
def textOrAny : Option String → List (Piece Char)
  | some text => alike id text.toList
  | none => [.many]

theorem accepts_textOrAny (text : Option String) (found : List Char) :
    accepts (textOrAny text) found = true ↔ ∀ name ∈ text, found = name.toList := by
  cases text with
  | none => simp [textOrAny, accepts_many]
  | some name => simp [textOrAny, accepts_alike]

def knownScope (scope : Option String) : Option String :=
  scope.filter (· ∈ keyScopes)

def around (text : String) : List (Piece Char) :=
  .many :: (alike id text.toList ++ [.many])

theorem means_endpointSegment (endpoint : Option String) :
    Means (endpointSegment endpoint).toList (textOrAny (given endpoint)) := by
  unfold endpointSegment
  cases given endpoint with
  | none => exact means_star
  | some name =>
    simp only [toList_escapeGlob]
    exact means_escaped name.toList

theorem means_scopeSegment (scope : Option String) :
    Means (scopeSegment scope).toList (textOrAny (knownScope scope)) := by
  cases scope with
  | none => exact means_star
  | some name =>
    by_cases known : name ∈ keyScopes
    · have plain : ∀ name ∈ keyScopes, ∀ c ∈ name.toList, c ∉ metacharacters := by
        simp [keyScopes, metacharacters]
      simp only [scopeSegment, knownScope, known, if_true, Option.filter_some, decide_true]
      exact means_plain (plain name known)
    · simp only [scopeSegment, knownScope, known, if_false, Option.filter_some, decide_false]
      exact means_star

section Identifier

variable (tables : KeyTables)

def identifierPieces (identifier : Option String) : List (Piece Char) :=
  match soughtIdentifier tables identifier with
  | some text => around text
  | none => [.many]

theorem means_identifierSegment (identifier : Option String) :
    Means (identifierSegment tables identifier).toList (identifierPieces tables identifier) := by
  unfold identifierSegment identifierPieces
  cases soughtIdentifier tables identifier with
  | none => exact means_star
  | some text =>
    simp only [String.toList_append, toList_escapeGlob, List.append_assoc]
    exact means_star.append ((means_escaped text.toList).append means_star)

theorem accepts_identifierPieces (identifier : Option String) (found : List Char) :
    accepts (identifierPieces tables identifier) found = true ↔
      ∀ text ∈ given identifier, (soughtText tables text).toList <:+: found := by
  unfold identifierPieces soughtIdentifier
  cases given identifier with
  | none => simp [given, accepts_many]
  | some text =>
    rw [Option.map_some]
    by_cases isEmpty : soughtText tables text = ""
    · rw [isEmpty, given_empty]
      simp [accepts_many, isEmpty]
    · rw [given_of_ne isEmpty]
      simp [around, accepts_containing]

/-- The pattern as a whole. -/
def keyPieces (scope endpoint identifier : Option String) : List (Piece Char) :=
  textOrAny (given endpoint) ++ (alike id [':'] ++
    (textOrAny (knownScope scope) ++ (alike id [':'] ++ identifierPieces tables identifier)))

theorem means_keyPattern (scope endpoint identifier : Option String) :
    Means (keyPattern tables scope endpoint identifier).toList
      (keyPieces tables scope endpoint identifier) := by
  have colon : Means ":".toList (alike id [':']) := means_plain (by simp [metacharacters])
  simp only [keyPattern, String.toList_append, List.append_assoc]
  exact (means_endpointSegment endpoint).append (colon.append
    ((means_scopeSegment scope).append (colon.append (means_identifierSegment tables identifier))))

end Identifier

/-- What is asked for stands at its place in the key. -/
structure Addressed (tables : KeyTables) (scope endpoint identifier : Option String)
    (endpointText scopeText identifierText : String) : Prop where
  endpoint : ∀ name ∈ endpoint, name ≠ "" → endpointText = name
  scope : ∀ name ∈ scope, name ∈ keyScopes → scopeText = name
  identifier : ∀ text ∈ identifier, (soughtText tables text).toList <:+: identifierText.toList

theorem accepts_keyPieces_iff (tables : KeyTables) (scope endpoint identifier : Option String)
    (key : String) :
    accepts (keyPieces tables scope endpoint identifier) key.toList = true ↔
      ∃ endpointText scopeText identifierText,
        key = endpointText ++ ":" ++ scopeText ++ ":" ++ identifierText ∧
          Addressed tables scope endpoint identifier endpointText scopeText identifierText := by
  simp only [keyPieces, accepts_append, accepts_alike, List.map_id, accepts_textOrAny,
    accepts_identifierPieces]
  constructor
  · rintro ⟨endpointText, _, split, ofEndpoint, _, _, rfl, rfl, scopeText, _, rfl, ofScope, _,
      identifierText, rfl, rfl, ofIdentifier⟩
    refine ⟨String.ofList endpointText, String.ofList scopeText, String.ofList identifierText, ?_,
      ?_, ?_, ?_⟩
    · apply String.toList_inj.mp
      simp [← split]
    · intro name member nonempty
      rw [ofEndpoint name (by simp [given, Option.mem_def.mp member, nonempty]),
        String.ofList_toList]
    · intro name member known
      rw [ofScope name (by simp [knownScope, Option.mem_def.mp member, known]),
        String.ofList_toList]
    · intro text member
      rw [String.toList_ofList]
      by_cases isEmpty : text = ""
      · subst isEmpty
        exact List.nil_infix
      · exact ofIdentifier text (by simp [given, Option.mem_def.mp member, isEmpty])
  · rintro ⟨endpointText, scopeText, identifierText, rfl, addressed⟩
    refine ⟨endpointText.toList, _, ?_, ?_, [':'], _, rfl, rfl, scopeText.toList, _, rfl, ?_, [':'],
      identifierText.toList, rfl, rfl, ?_⟩
    · simp
    · intro name member
      obtain ⟨present, nonempty⟩ := Option.filter_eq_some_iff.mp member
      rw [addressed.endpoint name present (by simpa using nonempty)]
    · intro name member
      obtain ⟨present, known⟩ := Option.filter_eq_some_iff.mp member
      rw [addressed.scope name present (by simpa using known)]
    · intro text member
      exact addressed.identifier text (Option.filter_eq_some_iff.mp member).1

/-! ## Keys that match -/

/-- Three texts without a separator can be read off the key that is made of them. -/
theorem key_parts_unique {endpoint scope identifier endpoint' scope' identifier' : List Char}
    (plain : ':' ∉ endpoint ∧ ':' ∉ scope ∧ ':' ∉ identifier)
    (same : endpoint ++ ':' :: (scope ++ ':' :: identifier) =
      endpoint' ++ ':' :: (scope' ++ ':' :: identifier')) :
    endpoint = endpoint' ∧ scope = scope' ∧ identifier = identifier' := by
  obtain ⟨plainEndpoint, plainScope, plainIdentifier⟩ := plain
  have counts := congrArg (List.count ':') same
  simp only [List.count_append, List.count_cons_self, List.count_eq_zero.mpr plainEndpoint,
    List.count_eq_zero.mpr plainScope, List.count_eq_zero.mpr plainIdentifier] at counts
  have plainEndpoint' : ':' ∉ endpoint' := List.count_eq_zero.mp (by omega)
  have plainScope' : ':' ∉ scope' := List.count_eq_zero.mp (by omega)
  have solid {left right : List Char} {rest rest' : List Char} (noColon : ':' ∉ left)
      (noColon' : ':' ∉ right) (split : left ++ ':' :: rest = right ++ ':' :: rest') :
      left = right ∧ rest = rest' := by
    rcases List.append_eq_append_iff.mp split with ⟨more, rfl, tail⟩ | ⟨more, rfl, tail⟩
    · cases more with
      | nil => exact ⟨(List.append_nil left).symm, List.cons.inj tail |>.2⟩
      | cons c more =>
        obtain ⟨rfl, -⟩ := List.cons.inj tail
        exact absurd (List.mem_append_right left List.mem_cons_self) noColon'
    · cases more with
      | nil => exact ⟨List.append_nil right, (List.cons.inj tail).2.symm⟩
      | cons c more =>
        obtain ⟨rfl, -⟩ := List.cons.inj tail
        exact absurd (List.mem_append_right right List.mem_cons_self) noColon
  obtain ⟨sameEndpoint, rest⟩ := solid plainEndpoint plainEndpoint' same
  obtain ⟨sameScope, sameIdentifier⟩ := solid plainScope plainScope' rest
  exact ⟨sameEndpoint, sameScope, sameIdentifier⟩

/-- A pattern matches the keys in which what is asked for stands at its place: of the keys of three
plain texts those with these texts. -/
theorem pattern_literal (tables : KeyTables) (scope endpoint identifier : Option String) :
    (∀ key : String,
      globMatch (keyPattern tables scope endpoint identifier).toList key.toList = true ↔
        ∃ endpointText scopeText identifierText,
          key = endpointText ++ ":" ++ scopeText ++ ":" ++ identifierText ∧
            Addressed tables scope endpoint identifier endpointText scopeText identifierText) ∧
      ∀ endpointText scopeText identifierText : String,
        ':' ∉ endpointText.toList ∧ ':' ∉ scopeText.toList ∧ ':' ∉ identifierText.toList →
          (globMatch (keyPattern tables scope endpoint identifier).toList
              (endpointText ++ ":" ++ scopeText ++ ":" ++ identifierText).toList = true ↔
            Addressed tables scope endpoint identifier endpointText scopeText identifierText) := by
  have matched (key : String) :=
    (globMatch_of_means (means_keyPattern tables scope endpoint identifier) key.toList).symm ▸
      accepts_keyPieces_iff tables scope endpoint identifier key
  refine ⟨matched, ?_⟩
  intro endpointText scopeText identifierText plain
  rw [matched]
  constructor
  · rintro ⟨endpointText', scopeText', identifierText', split, addressed⟩
    have lists := congrArg String.toList split
    simp only [String.toList_append, List.append_assoc] at lists
    obtain ⟨sameEndpoint, sameScope, sameIdentifier⟩ := key_parts_unique plain lists
    rw [String.toList_inj.mp sameEndpoint, String.toList_inj.mp sameScope,
      String.toList_inj.mp sameIdentifier]
    exact addressed
  · intro addressed
    exact ⟨endpointText, scopeText, identifierText, rfl, addressed⟩

/-- Texts in lower case and without blanks are left as they are, and hexadecimal digits stand in for
the keyed hash. -/
def hexTables : KeyTables where
  strip text := text
  lower text := text
  casefold text := text
  hmacHex message := String.ofList (message.toList.flatMap fun c => Nat.toDigits 16 c.toNat)

/-- A key with special characters is found, and a key that they would match as wildcards is not. -/
theorem pattern_literal_special :
    globMatch (keyPattern hexTables (some "ip") (some "log[i^n-]*\\") (some "1.?")).toList
        ("log[i^n-]*\\" ++ ":" ++ "ip" ++ ":" ++ "91.?8").toList = true ∧
      globMatch (keyPattern hexTables (some "ip") (some "log[i^n-]*\\") (some "1.?")).toList
        ("logi\\" ++ ":" ++ "ip" ++ ":" ++ "91.28").toList = false := by
  have matched := (pattern_literal hexTables (some "ip") (some "log[i^n-]*\\") (some "1.?")).2
  refine ⟨(matched _ _ _ (by decide)).mpr ?_, Bool.eq_false_iff.mpr fun found => ?_⟩
  · refine ⟨?_, ?_, ?_⟩ <;> simp only [Option.mem_some_iff, forall_eq'] <;> decide
  · have addressed := (matched _ _ _ (by decide)).mp found
    exact absurd (addressed.endpoint _ rfl (by decide)) (by decide)

/-- A filter with an `@` does not look for its own text. -/
theorem address_not_literal :
    ¬ ∀ (scope endpoint identifier : Option String)
        (endpointText scopeText identifierText : String),
      ':' ∉ endpointText.toList ∧ ':' ∉ scopeText.toList ∧ ':' ∉ identifierText.toList →
        (globMatch (keyPattern hexTables scope endpoint identifier).toList
            (endpointText ++ ":" ++ scopeText ++ ":" ++ identifierText).toList = true ↔
          (∀ name ∈ endpoint, name ≠ "" → endpointText = name) ∧
            (∀ name ∈ scope, name ∈ keyScopes → scopeText = name) ∧
              ∀ text ∈ identifier, text.toList <:+: identifierText.toList) := by
  intro literal
  have matched := (literal none none (some "a@b") "login" "ip" "a@b" (by decide)).mpr (by simp)
  rw [globMatch_of_means (means_keyPattern _ _ _ _)] at matched
  exact absurd matched (by decide +kernel)

end MysticAuth.RateLimits
