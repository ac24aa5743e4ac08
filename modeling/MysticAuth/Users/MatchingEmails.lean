import MysticAuth.JavaScript.Number

/-!
# Fetching every matching email

"Select all matching" pages through the user list, a thousand users at a time,
until the `X-Total-Count` header says that everything is there.  The loop also
ends at an empty page, and at a header from which no number can be read.
-/

set_option autoImplicit false

namespace MysticAuth.Users

open JavaScript

/-! ## The loop -/

structure ManagedUser where
  id : Nat
  email : String
  deriving DecidableEq

/-- A page of users; `totalCount` is the header, `none` when it is missing. -/
structure Response where
  data : List ManagedUser
  totalCount : Option String

inductive FetchError where
  | requestFailed
  /-- "This filter matches more than 2000 users. Narrow the filters and try again." -/
  | tooManyMatching
  deriving DecidableEq

def selectAllMatchingMax : Nat := 2000

/-- The loop's own `PAGE_SIZE`. -/
def fetchPageSize : Nat := 1000

/-- The loop from `offset` on. -/
def fetchPages (listUsersApi : Nat → Nat → Except FetchError Response) (emails : List String)
    (offset : Nat) : Except FetchError (List String) :=
  match listUsersApi fetchPageSize offset with
  | .error failure => .error failure
  | .ok res =>
      let collected := emails ++ res.data.map ManagedUser.email
      if collected.length > selectAllMatchingMax then .error .tooManyMatching
      else
        match Number res.totalCount with
        | none => .ok collected
        | some total =>
            if total ≤ collected.length ∨ res.data.length = 0 then .ok collected
            else fetchPages listUsersApi collected (offset + fetchPageSize)
termination_by selectAllMatchingMax + 1 - emails.length
-- a page that is not empty brings the cap nearer
decreasing_by
  simp only [collected, List.length_append, List.length_map] at *
  omega

def fetchAllMatchingUserEmails (listUsersApi : Nat → Nat → Except FetchError Response) :
    Except FetchError (List String) :=
  fetchPages listUsersApi [] 0

/-! ## The server -/

/-- The matching users do not change, and are listed in the order of their ids.  `answers` says of
each offset whether the request fails, and which header comes with the page. -/
def listUsers (users : List ManagedUser) (answers : Nat → Except FetchError (Option String))
    (limit offset : Nat) : Except FetchError Response :=
  (answers offset).map fun header => ⟨(users.drop offset).take limit, header⟩

variable {users : List ManagedUser} {answers : Nat → Except FetchError (Option String)}

def emailsOf (users : List ManagedUser) : List String :=
  users.map ManagedUser.email

/-- Every matching email once, if the call does not throw. -/
def Complete (users : List ManagedUser) (outcome : Except FetchError (List String)) : Prop :=
  ∀ found, outcome = .ok found → found = emailsOf users

/-- The number of the header is above what was collected so far. -/
def Announces (header : Option String) (collected : Nat) : Prop :=
  ∃ total, Number header = some total ∧ (collected : Rat) < total

/-- From page `first` on: a page that leaves users out, and that the cap does not stop, has a
header that announces more. -/
def HeadersSuffice (users : List ManagedUser)
    (answers : Nat → Except FetchError (Option String)) (first : Nat) : Prop :=
  ∀ page header, first ≤ page → fetchPageSize * (page + 1) ≤ selectAllMatchingMax →
    fetchPageSize * (page + 1) < users.length →
    (∀ earlier, first ≤ earlier → earlier < page → (answers (fetchPageSize * earlier)).isOk) →
    answers (fetchPageSize * page) = .ok header → Announces header (fetchPageSize * (page + 1))

/-! ## One request -/

theorem emailsOf_take_append (users : List ManagedUser) (offset limit : Nat) :
    emailsOf (users.take offset) ++ emailsOf ((users.drop offset).take limit) =
      emailsOf (users.take (offset + limit)) := by
  rw [emailsOf, emailsOf, emailsOf, ← List.map_append, List.take_add]

/-- The request for one page, after the pages before it. -/
theorem fetchPages_at (offset : Nat) :
    fetchPages (listUsers users answers) (emailsOf (users.take offset)) offset =
      (answers offset).bind fun header =>
        let collected := emailsOf (users.take (offset + fetchPageSize))
        if collected.length > selectAllMatchingMax then .error .tooManyMatching
        else
          match Number header with
          | none => .ok collected
          | some total =>
              if total ≤ collected.length ∨ users.length ≤ offset then .ok collected
              else fetchPages (listUsers users answers) collected (offset + fetchPageSize) := by
  rw [fetchPages, listUsers]
  cases answers offset with
  | error failure => rfl
  | ok header =>
    have empty : ((users.drop offset).take fetchPageSize).length = 0 ↔ users.length ≤ offset := by
      rw [List.length_take, List.length_drop, fetchPageSize]
      omega
    simp only [Except.map, Except.bind, empty]
    rw [← emailsOf, emailsOf_take_append]

/-- A page that leaves nobody out is the last that matters. -/
theorem complete_of_all (offset : Nat) (all : users.length ≤ offset + fetchPageSize)
    (rest : offset < users.length →
      Complete users (fetchPages (listUsers users answers) (emailsOf users) (offset + fetchPageSize))) :
    Complete users (fetchPages (listUsers users answers) (emailsOf (users.take offset)) offset) := by
  intro found result
  rw [fetchPages_at, List.take_of_length_le all] at result
  cases answer : answers offset with
  | error failure => simp [answer, Except.bind] at result
  | ok header =>
    simp only [answer, Except.bind] at result
    split at result
    · cases result
    · split at result
      · exact (Except.ok.inj result).symm
      · split at result
        · exact (Except.ok.inj result).symm
        · next stop =>
          apply rest _ found result
          omega

/-- Once every user is collected, the next answer ends the loop. -/
theorem complete_of_last (offset : Nat) (all : users.length ≤ offset + fetchPageSize) :
    Complete users (fetchPages (listUsers users answers) (emailsOf (users.take offset)) offset) := by
  apply complete_of_all offset all
  intro _
  have exhausted : Complete users (fetchPages (listUsers users answers)
      (emailsOf (users.take (offset + fetchPageSize))) (offset + fetchPageSize)) :=
    complete_of_all (offset + fetchPageSize) (Nat.le_add_right_of_le all) fun more => by omega
  rwa [List.take_of_length_le all] at exhausted

theorem complete_of_capped (offset : Nat) (many : selectAllMatchingMax < users.length)
    (capped : selectAllMatchingMax < offset + fetchPageSize) :
    Complete users (fetchPages (listUsers users answers) (emailsOf (users.take offset)) offset) := by
  intro found result
  have above : (emailsOf (users.take (offset + fetchPageSize))).length > selectAllMatchingMax := by
    rw [emailsOf, List.length_map, List.length_take]
    omega
  rw [fetchPages_at] at result
  cases answer : answers offset with
  | error failure => simp [answer, Except.bind] at result
  | ok header => simp [answer, Except.bind, above] at result

/-- A page that leaves users out and is not capped must be followed by the next one. -/
theorem complete_iff_of_short (offset : Nat) (short : offset + fetchPageSize < users.length)
    (under : offset + fetchPageSize ≤ selectAllMatchingMax) :
    Complete users (fetchPages (listUsers users answers) (emailsOf (users.take offset)) offset) ↔
      ∀ header, answers offset = .ok header → Announces header (offset + fetchPageSize) ∧
        Complete users (fetchPages (listUsers users answers)
          (emailsOf (users.take (offset + fetchPageSize))) (offset + fetchPageSize)) := by
  have length : (emailsOf (users.take (offset + fetchPageSize))).length = offset + fetchPageSize := by
    rw [emailsOf, List.length_map, List.length_take]
    omega
  have fewer : emailsOf (users.take (offset + fetchPageSize)) ≠ emailsOf users := by
    intro same
    have := congrArg List.length same
    rw [length, emailsOf, List.length_map] at this
    omega
  have below : ¬ offset + fetchPageSize > selectAllMatchingMax := by omega
  have more : ¬ users.length ≤ offset := by omega
  rw [fetchPages_at]
  cases answers offset with
  | error failure => simp [Complete, Except.bind]
  | ok header =>
    simp only [Except.bind, length, if_neg below, Except.ok.injEq, forall_eq', Announces]
    cases Number header with
    | none =>
      simp only [reduceCtorEq, false_and, exists_false, iff_false]
      exact fun complete => fewer (complete _ rfl)
    | some total =>
      simp only [Option.some.injEq, exists_eq_left', or_iff_left more]
      by_cases stops : total ≤ ((offset + fetchPageSize : Nat) : Rat)
      · simp only [if_pos stops, not_lt.mpr stops, false_and, iff_false]
        exact fun complete => fewer (complete _ rfl)
      · simp only [if_neg stops, not_le.mp stops, true_and]

/-! ## The whole loop -/

theorem headersSuffice_step (page : Nat) (under : fetchPageSize * (page + 1) ≤ selectAllMatchingMax)
    (short : fetchPageSize * (page + 1) < users.length) :
    HeadersSuffice users answers page ↔
      ∀ header, answers (fetchPageSize * page) = .ok header →
        Announces header (fetchPageSize * (page + 1)) ∧ HeadersSuffice users answers (page + 1) := by
  constructor
  · intro suffice header answered
    constructor
    · exact suffice page header le_rfl under short (fun earlier _ _ => by omega) answered
    · intro later last reached under' short' before answered'
      apply suffice later last (by omega) under' short' _ answered'
      intro earlier from_page below
      rcases Nat.eq_or_lt_of_le from_page with rfl | above
      · rw [answered]
        rfl
      · exact before earlier above below
  · intro next later last reached under' short' before answered'
    rcases Nat.eq_or_lt_of_le reached with rfl | above
    · exact (next last answered').1
    · have ok := before page le_rfl above
      cases answered : answers (fetchPageSize * page) with
      | error failure =>
        rw [answered] at ok
        cases ok
      | ok header =>
        apply (next header answered).2 later last above under' short' _ answered'
        intro earlier from_next below
        exact before earlier (by omega) below

theorem fetchPages_complete_iff (page : Nat) :
    Complete users (fetchPages (listUsers users answers)
      (emailsOf (users.take (fetchPageSize * page))) (fetchPageSize * page)) ↔
      HeadersSuffice users answers page := by
  by_cases short : fetchPageSize * (page + 1) < users.length
  · by_cases under : fetchPageSize * (page + 1) ≤ selectAllMatchingMax
    · rw [complete_iff_of_short (fetchPageSize * page) short under,
        headersSuffice_step page under short]
      exact forall₂_congr fun header _ => and_congr_right fun _ =>
        fetchPages_complete_iff (page + 1)
    · apply iff_of_true
      · exact complete_of_capped (fetchPageSize * page) (lt_trans (not_le.mp under) short)
          (not_le.mp under)
      · intro later header reached under'
        exact absurd (le_trans (Nat.mul_le_mul_left _ (by omega)) under') under
  · apply iff_of_true
    · exact complete_of_last (fetchPageSize * page) (not_lt.mp short)
    · intro later header reached _ short'
      exact absurd (lt_of_le_of_lt (Nat.mul_le_mul_left _ (by omega)) short') short
termination_by selectAllMatchingMax - page
decreasing_by
  simp only [fetchPageSize, selectAllMatchingMax] at *
  omega

/-- The list is never cut short exactly when the headers suffice. -/
theorem selectAllMatching_complete_iff (users : List ManagedUser)
    (answers : Nat → Except FetchError (Option String)) :
    Complete users (fetchAllMatchingUserEmails (listUsers users answers)) ↔
      HeadersSuffice users answers 0 :=
  fetchPages_complete_iff 0

/-! ## A missing header -/

def thousandAndOne : List ManagedUser :=
  (List.range 1001).map fun n => ⟨n, s!"user{n}@example.com"⟩

theorem missing_header_truncates :
    fetchAllMatchingUserEmails (listUsers thousandAndOne fun _ => .ok none) =
        .ok (emailsOf (thousandAndOne.take 1000)) ∧
      emailsOf (thousandAndOne.take 1000) ≠ emailsOf thousandAndOne := by
  have length : (emailsOf (thousandAndOne.take 1000)).length = 1000 := by
    simp [emailsOf, thousandAndOne]
  constructor
  · change fetchPages (listUsers thousandAndOne fun _ => .ok none)
      (emailsOf (thousandAndOne.take 0)) 0 = _
    rw [fetchPages_at]
    simp [Except.bind, fetchPageSize, length, selectAllMatchingMax, Number]
  · intro same
    have lengths := congrArg List.length same
    rw [length] at lengths
    simp [emailsOf, thousandAndOne] at lengths

/-! ## The header that counts the users -/

/-- The one header that the server sends. -/
theorem headersSuffice_of_count (small : users.length < 2 ^ 53)
    (counted : ∀ offset header, answers offset = .ok header →
      header = some (toString users.length)) (first : Nat) :
    HeadersSuffice users answers first := by
  intro page header _ _ short _ answered
  rw [counted _ header answered]
  exact ⟨users.length, Number_toString _ small, by exact_mod_cast short⟩

theorem length_of_fetchPages (listUsersApi : Nat → Nat → Except FetchError Response)
    (emails : List String) (offset : Nat) (found : List String)
    (result : fetchPages listUsersApi emails offset = .ok found) :
    found.length ≤ selectAllMatchingMax := by
  fun_induction fetchPages listUsersApi emails offset with
  | case1 emails offset failure answered => cases result
  | case2 emails offset res answered collected capped => cases result
  | case3 emails offset res answered collected under numberless =>
    obtain rfl := Except.ok.inj result
    exact not_lt.mp under
  | case4 emails offset res answered collected under total number stops =>
    obtain rfl := Except.ok.inj result
    exact not_lt.mp under
  | case5 emails offset res answered collected under total number goesOn ih => exact ih result

/-- Without failures, and under the cap, the loop ends with a list. -/
theorem fetchPages_returns (answered : ∀ offset, ∃ header, answers offset = .ok header)
    (under : users.length ≤ selectAllMatchingMax) (offset : Nat) :
    ∃ found, fetchPages (listUsers users answers) (emailsOf (users.take offset)) offset =
      .ok found := by
  obtain ⟨header, isHeader⟩ := answered offset
  have below : ¬ (emailsOf (users.take (offset + fetchPageSize))).length > selectAllMatchingMax := by
    rw [emailsOf, List.length_map, List.length_take]
    omega
  rw [fetchPages_at, isHeader]
  simp only [Except.bind, if_neg below]
  split
  · exact ⟨_, rfl⟩
  · split
    · exact ⟨_, rfl⟩
    · next goesOn =>
      have more : offset < users.length := by omega
      exact fetchPages_returns answered under (offset + fetchPageSize)
termination_by users.length - offset
decreasing_by
  rw [fetchPageSize]
  omega

theorem fetchAllMatchingUserEmails_counted (small : users.length < 2 ^ 53) (found : List String) :
    fetchAllMatchingUserEmails
        (listUsers users fun _ => .ok (some (toString users.length))) = .ok found ↔
      users.length ≤ selectAllMatchingMax ∧ found = emailsOf users := by
  let answers : Nat → Except FetchError (Option String) :=
    fun _ => .ok (some (toString users.length))
  have complete : Complete users (fetchPages (listUsers users answers) [] 0) := by
    apply (fetchPages_complete_iff 0).mpr
    apply headersSuffice_of_count small
    intro offset header answered
    exact (Except.ok.inj answered).symm
  constructor
  · intro result
    have everyone := complete found result
    have bounded := length_of_fetchPages _ _ _ _ result
    rw [everyone, emailsOf, List.length_map] at bounded
    exact ⟨bounded, everyone⟩
  · rintro ⟨under, rfl⟩
    have answered : ∀ offset, ∃ header, answers offset = .ok header := fun _ => ⟨_, rfl⟩
    obtain ⟨found, result⟩ := fetchPages_returns answered under 0
    rw [← complete found result]
    exact result

end MysticAuth.Users
