import MysticAuth.Accounts.AccountCreation

/-!
# Every account has its baseline policy

A signup whose assignment fails deletes the account again.  A first OAuth2
login does not, and no later login makes up for it: an account that exists is
only looked up.
-/

set_option autoImplicit false

namespace MysticAuth.AccountCreation

open Interleaving

/-! ## What a request has done for an account -/

def created : Event → Option Account
  | ⟨.createUser _, reply⟩ => reply.committed
  | _ => none

def assigned : Event → Option (Nat × Nat)
  | ⟨.assignPolicyToUser accountId policyId, reply⟩ =>
      reply.committed.map fun _ => (accountId, policyId)
  | _ => none

def deleted : Event → Option Nat
  | ⟨.deleteUser account, reply⟩ => reply.committed.map fun _ => account.id
  | _ => none

/-- The call fails where the account stays without its policy: a creation that raises although it
was committed; in a signup, the clean-up after a failed assignment; in a first OAuth2 login, the
look-up of the policy or the assignment after the creation. -/
def breaks : List Event → Event → Bool
  | _, ⟨.createUser _, .unacknowledged _⟩ => true
  | ⟨.assignPolicyToUser _ _, assignment⟩ :: _, ⟨.deleteUser _, reply⟩ =>
      assignment.committed.isNone && reply.committed.isNone
  | ⟨.createUser _, _⟩ :: _, ⟨.getPolicyByName _, .ok (some _)⟩ => false
  | ⟨.createUser _, _⟩ :: _, ⟨.getPolicyByName _, _⟩ => true
  | ⟨.getPolicyByName _, _⟩ :: ⟨.createUser _, _⟩ :: _, ⟨.assignPolicyToUser _ _, reply⟩ =>
      reply.committed.isNone
  | _, _ => false

def intact : List Event → Bool
  | [] => true
  | event :: earlier => !breaks earlier event && intact earlier

/-- The account was given the policy that was looked up, or deleted again. -/
def Secured (trace : List Event) (account : Account) : Prop :=
  (∃ policy : PolicyRow,
      ⟨.getPolicyByName selfServicePolicyName, .ok (some policy)⟩ ∈ trace ∧
        ∃ event ∈ trace, assigned event = some (account.id, policy.id)) ∨
    ∃ event ∈ trace, deleted event = some account.id

def Settled (trace : List Event) : Prop :=
  intact trace = true → ∀ event ∈ trace, ∀ account, created event = some account →
    Secured trace account

theorem Secured.cons {trace : List Event} {account : Account} (secured : Secured trace account)
    (event : Event) : Secured (event :: trace) account := by
  rcases secured with ⟨policy, found, earlier, member, isAssigned⟩ | ⟨earlier, member, isDeleted⟩
  · exact Or.inl ⟨policy, List.mem_cons_of_mem _ found, earlier, List.mem_cons_of_mem _ member,
      isAssigned⟩
  · exact Or.inr ⟨earlier, List.mem_cons_of_mem _ member, isDeleted⟩

theorem Settled.cons {trace : List Event} (settled : Settled trace) {event : Event}
    (secured : ∀ account, created event = some account → Secured (event :: trace) account) :
    Settled (event :: trace) := by
  intro isIntact earlier member account isCreated
  simp only [intact, Bool.and_eq_true] at isIntact
  rcases List.mem_cons.mp member with rfl | old
  · exact secured account isCreated
  · exact (settled isIntact.2 earlier old account isCreated).cons event

theorem Settled.quiet {trace : List Event} (settled : Settled trace) {event : Event}
    (quiet : created event = none) : Settled (event :: trace) :=
  settled.cons fun account isCreated => by rw [quiet] at isCreated; cases isCreated

theorem settled_of_broken {trace : List Event} (broken : intact trace = false) : Settled trace := by
  intro isIntact
  rw [broken] at isIntact
  cases isIntact

/-- The account that is not secured yet was created at the head of the trace, or is secured now. -/
theorem settled_of_secured {trace : List Event} {account : Account} {data : AccountData}
    (settled : Settled trace) (later : List Event) (quiet : ∀ event ∈ later, created event = none)
    (secured : Secured (later ++ ⟨.createUser data, .done account⟩ :: trace) account) :
    Settled (later ++ ⟨.createUser data, .done account⟩ :: trace) := by
  intro isIntact event member other isCreated
  have extends' {before : List Event} (holds : Secured before other) (after : List Event) :
      Secured (after ++ before) other := by
    induction after with
    | nil => exact holds
    | cons head rest ih => exact ih.cons head
  have suffix {after before : List Event} (isIntact : intact (after ++ before) = true) :
      intact before = true := by
    induction after with
    | nil => exact isIntact
    | cons head rest ih =>
      simp only [List.cons_append, intact, Bool.and_eq_true] at isIntact
      exact ih isIntact.2
  rcases List.mem_append.mp member with new | old
  · rw [quiet event new] at isCreated
    cases isCreated
  · rcases List.mem_cons.mp old with rfl | earlier
    · obtain rfl : account = other := Option.some.inj isCreated
      exact secured
    · have before := suffix isIntact
      simp only [intact, Bool.and_eq_true] at before
      exact extends' ((settled before.2 event earlier other isCreated).cons _) later

/-! ## The services keep to it -/

def discipline : Discipline Reply where
  allows trace call := match call with
    | .deleteUser account => ∃ data, ⟨.createUser data, .done account⟩ ∈ trace
    | _ => True
  answers _ _ := True

def isQuiet : Call → Prop
  | .createUser _ | .deleteUser _ => False
  | _ => True

theorem allows_of_quiet {trace : List Event} {call : Call} (quiet : isQuiet call) :
    discipline.allows trace call := by
  cases call <;> trivial

theorem created_of_quiet {event : Event} (quiet : isQuiet event.1) : created event = none := by
  obtain ⟨call, reply⟩ := event
  cases call with
  | createUser data => exact quiet.elim
  | _ => rfl

theorem Settled.append {trace added : List Event} (settled : Settled trace)
    (quiet : ∀ event ∈ added, isQuiet event.1) : Settled (added ++ trace) := by
  induction added with
  | nil => exact settled
  | cons event rest ih =>
    have rested := ih fun other member => quiet other (List.mem_cons_of_mem _ member)
    exact rested.quiet (created_of_quiet (quiet event List.mem_cons_self))

section Programs

variable {site : Site} {trace : List Event} {α : Type}

/-- Whatever comes out, the accounts made so far are settled. -/
abbrev Settles (program : Service α) (trace : List Event) : Prop :=
  program.Meets discipline (fun _ later => Settled later) trace

theorem settles_quiet {program : Service α} (confined : program.Confined isQuiet)
    (settled : Settled trace) : Settles program trace :=
  confined.meets (fun _ _ _ quiet => allows_of_quiet quiet)
    fun _ _ quiet => settled.append quiet

theorem settles_bind {β : Type} {program : Service β} {rest : β → Service α}
    (confined : program.Confined isQuiet) (settled : Settled trace)
    (next : ∀ value later, Settled later → Settles (rest value) later) :
    Settles (program >>= rest) trace := by
  rw [Settles, Program.meets_bind]
  refine confined.meets (fun _ _ _ quiet => allows_of_quiet quiet) fun result added quiet => ?_
  cases result with
  | ok value => exact next value _ (settled.append quiet)
  | error failure => exact settled.append quiet

theorem settles_tryCatch {body : Service α} {handler : Failure → Service α}
    (inside : Settles body trace)
    (caught : ∀ failure later, Settled later → Settles (handler failure) later) :
    Settles (tryCatch body handler) trace := by
  rw [Settles, Program.meets_tryCatch]
  refine inside.mono fun result later _ settled => ?_
  cases result with
  | ok value => exact settled
  | error failure => exact caught failure later settled

theorem execute_quiet (call : Call) (quiet : isQuiet call) (result : Reply call → Except Failure α) :
    (execute call result).Confined isQuiet :=
  (Program.confined_attempt _ _).mpr quiet

theorem assignAppDefaultPolicies_quiet (accountId : Nat) (names : List String) :
    (assignAppDefaultPolicies accountId names).Confined isQuiet := by
  induction names with
  | nil => trivial
  | cons name rest ih =>
    refine Program.confined_bind _ _ (execute_quiet (.getPolicyByName name) trivial _)
      fun found => ?_
    cases found with
    | none => exact ih
    | some policy =>
      exact Program.confined_bind _ _
        (execute_quiet (.assignPolicyToUser accountId policy.id) trivial _) fun _ => ih

theorem assignOrDelete_settles {account : Account} {policy : PolicyRow} {data : AccountData}
    (settled : Settled trace)
    (found : ⟨.getPolicyByName selfServicePolicyName, .ok (some policy)⟩ ∈ trace) :
    Settles (assignOrDelete account policy) (⟨.createUser data, .done account⟩ :: trace) := by
  have kept : ∀ reply : Write Unit, reply.committed.isSome →
      Settled (⟨.assignPolicyToUser account.id policy.id, reply⟩ ::
        ⟨.createUser data, .done account⟩ :: trace) := by
    intro reply committed
    obtain ⟨value, isCommitted⟩ := Option.isSome_iff_exists.mp committed
    refine settled_of_secured settled [⟨.assignPolicyToUser account.id policy.id, reply⟩]
      (by simp [created]) (Or.inl ⟨policy, by simp [found], _, List.mem_cons_self, ?_⟩)
    simp [assigned, isCommitted]
  have deletion : ∀ assignment : Write Unit,
      Settles (perform (.deleteUser account) >>= fun _ => (return .created false : Service Response))
        (⟨.assignPolicyToUser account.id policy.id, assignment⟩ ::
          ⟨.createUser data, .done account⟩ :: trace) := by
    intro assignment
    refine ⟨⟨data, by simp⟩, fun reply _ => ?_⟩
    change Settled _
    cases committed : reply.committed with
    | some value =>
      refine settled_of_secured settled
        [⟨.deleteUser account, reply⟩, ⟨.assignPolicyToUser account.id policy.id, assignment⟩]
        (by simp [created]) (Or.inr ⟨_, List.mem_cons_self, ?_⟩)
      simp [deleted, committed]
    | none =>
      cases taken : assignment.committed with
      | some value => exact (kept assignment (by simp [taken])).quiet rfl
      | none => exact settled_of_broken (by simp [intact, breaks, committed, taken])
  refine ⟨trivial, fun assignment _ => ?_⟩
  cases assignment with
  | done value => exact kept (.done ()) rfl
  | integrityError => exact deletion .integrityError
  | failed => exact deletion .failed
  | unacknowledged value => exact deletion (.unacknowledged ())

theorem createWithPassword_settles {name email hashedPassword : String} {policy : PolicyRow}
    (settled : Settled trace)
    (found : ⟨.getPolicyByName selfServicePolicyName, .ok (some policy)⟩ ∈ trace) :
    Settles (createWithPassword name email hashedPassword policy) trace := by
  refine ⟨trivial, fun reply _ => ?_⟩
  cases reply with
  | done account => exact assignOrDelete_settles settled found
  | integrityError =>
    refine ⟨trivial, fun rolledBack _ => ?_⟩
    cases rolledBack <;> exact (settled.quiet rfl).quiet rfl
  | failed => exact settled.quiet rfl
  | unacknowledged account => exact settled_of_broken rfl

theorem signup_settles (name email password : String) :
    Settles (signup name email password) [] := by
  refine settles_tryCatch ?_ fun failure later settled => by cases failure <;> exact settled
  refine settles_bind (execute_quiet (.getByEmail email) trivial _)
    (by simp [Settled]) fun existing later settled => ?_
  refine settles_bind (execute_quiet (.hashPassword password) trivial _) settled
    fun hashedPassword later settled => ?_
  split
  · exact settled
  · rw [Settles, Program.meets_bind, execute, Program.meets_attempt]
    refine ⟨trivial, fun found _ => ?_⟩
    match found with
    | .error failure => exact settled.quiet rfl
    | .ok none => exact settled.quiet rfl
    | .ok (some policy) => exact createWithPassword_settles (settled.quiet rfl) List.mem_cons_self

theorem createFromGoogle_settles {name email : String} (settled : Settled trace) :
    Settles (createFromGoogle site name email) trace := by
  have defaults (account : Account) {later : List Event} (settled : Settled later) :
      Settles (assignAppDefaultPolicies account.id site.defaultAppPolicyNames >>= fun _ =>
        (return account : Service Account)) later :=
    settles_bind (assignAppDefaultPolicies_quiet _ _) settled fun _ _ settled => settled
  refine ⟨trivial, fun reply _ => ?_⟩
  match reply with
  | .integrityError => exact settled.quiet rfl
  | .failed => exact settled.quiet rfl
  | .unacknowledged account => exact settled_of_broken rfl
  | .done account =>
    refine ⟨trivial, fun found _ => ?_⟩
    match found with
    | .error failure => exact settled_of_broken rfl
    | .ok none => exact defaults account (settled_of_broken rfl)
    | .ok (some policy) =>
      refine ⟨trivial, fun assignment _ => ?_⟩
      have kept : ∀ value, assignment.committed = some value →
          Settled (⟨.assignPolicyToUser account.id policy.id, assignment⟩ ::
            ⟨.getPolicyByName selfServicePolicyName, .ok (some policy)⟩ ::
              ⟨.createUser ⟨name, email, some .user, none, true, true⟩, .done account⟩ ::
                trace) := by
        intro value committed
        refine settled_of_secured settled
          [⟨.assignPolicyToUser account.id policy.id, assignment⟩,
            ⟨.getPolicyByName selfServicePolicyName, .ok (some policy)⟩]
          (by simp [created]) (Or.inl ⟨policy, by simp, _, List.mem_cons_self, ?_⟩)
        simp [assigned, committed]
      match assignment with
      | .done () => exact defaults account (kept () rfl)
      | .unacknowledged () => exact kept () rfl
      | .integrityError => exact settled_of_broken rfl
      | .failed => exact settled_of_broken rfl

theorem takeOver_settles {name email : String} (account : Account) (settled : Settled trace) :
    Settles (takeOver site name email account) trace := by
  refine settles_bind (execute_quiet (.updateByEmail email (.takeover name)) trivial _)
    settled fun updated later settled => ?_
  exact settles_bind (assignAppDefaultPolicies_quiet _ _) settled fun _ _ settled => settled

theorem findOrCreate_settles {name email : String} (found : Option Account)
    (settled : Settled trace) : Settles (findOrCreate site name email found) trace := by
  cases found with
  | none => exact createFromGoogle_settles settled
  | some account =>
    simp only [findOrCreate]
    split
    · exact settled
    · exact takeOver_settles account settled

theorem signIn_quiet (email : String) (account : Account) :
    (signIn email account).Confined isQuiet := by
  unfold signIn
  split
  · trivial
  · refine Program.confined_bind _ _
      (execute_quiet (.updateLastLogin account) trivial _) fun _ => ?_
    exact Program.confined_bind _ _ (execute_quiet (.createTokens email) trivial _)
      fun _ => trivial

theorem loginOrCreateUser_settles (userInfo : UserInfo) :
    Settles (loginOrCreateUser site userInfo) [] := by
  refine settles_tryCatch ?_ fun failure later settled => by cases failure <;> exact settled
  split
  · simp [Settles, Settled]
  · rename_i rawEmail isEmail
    refine settles_bind
      (execute_quiet (.getByEmail (site.normalizeEmail rawEmail)) trivial _)
      (by simp [Settled]) fun found later settled => ?_
    split
    · exact settled
    · rw [Settles, Program.meets_bind]
      refine (findOrCreate_settles found settled).mono fun result later _ settled => ?_
      cases result with
      | error failure => exact settled
      | ok account => exact settles_quiet (signIn_quiet _ account) settled

theorem login_quiet (email password : String) : (login site email password).Confined isQuiet := by
  refine Program.confined_tryCatch _ _ ?_ fun failure => by cases failure <;> trivial
  split
  · trivial
  · refine Program.confined_bind _ _ (execute_quiet (.getByEmail email) trivial _)
      fun found => ?_
    refine Program.confined_bind _ _ (execute_quiet (.verifyPassword password _) trivial _)
      fun passwordMatches => ?_
    split
    · trivial
    · rename_i account
      split
      · trivial
      · refine Program.confined_bind _ _
          (execute_quiet (.updateLastLogin account) trivial _) fun _ => ?_
        exact Program.confined_bind _ _ (execute_quiet (.createTokens email) trivial _)
          fun _ => trivial

theorem markUserVerified_quiet (email : String) :
    (markUserVerified site email).Confined isQuiet := by
  refine Program.confined_tryCatch _ _ ?_ fun _ => trivial
  refine Program.confined_bind _ _ (execute_quiet (.getByEmail email) trivial _)
    fun found => ?_
  split
  · trivial
  · rename_i account
    split
    · trivial
    · refine Program.confined_bind _ _
        (execute_quiet (.updateByEmail email .verified) trivial _) fun _ => ?_
      exact Program.confined_bind _ _ (assignAppDefaultPolicies_quiet _ _) fun _ => trivial

theorem server_obeys (site : Site) :
    (server site).Obeys (fun _ => discipline) (fun _ _ trace => Settled trace) where
  programs request := by
    have empty : Settled [] := by simp [Settled]
    cases request with
    | signup name email password => exact signup_settles name email password
    | loginOrCreateUser userInfo => exact loginOrCreateUser_settles userInfo
    | login email password => exact settles_quiet (login_quiet email password) empty
    | markUserVerified email => exact settles_quiet (markUserVerified_quiet email) empty
  answers _ _ _ _ _ _ := trivial

end Programs

/-! ## What no step takes back -/

def Absent (store : Store) (accountId : Nat) : Prop :=
  ∀ account ∈ store.accounts, account.id ≠ accountId

def isBaseline (store : Store) (policyId : Nat) : Prop :=
  ∃ policy ∈ store.policies, policy.id = policyId ∧ policy.name = selfServicePolicyName

/-- The account is assigned the `self_service` policy. -/
def Holds (store : Store) (accountId : Nat) : Prop :=
  ∃ policyId, isBaseline store policyId ∧ (accountId, policyId) ∈ store.userPolicies

/-- Ids are taken from their sequences. -/
structure WellFormed (store : Store) : Prop where
  accounts : ∀ account ∈ store.accounts, account.id < store.nextAccountId
  policies : ∀ policy ∈ store.policies, policy.id < store.nextPolicyId

structure Stays (before after : Store) : Prop where
  wellFormed : WellFormed before → WellFormed after
  accountIds : before.nextAccountId ≤ after.nextAccountId
  policyIds : before.nextPolicyId ≤ after.nextPolicyId
  absent : ∀ accountId < before.nextAccountId, Absent before accountId → Absent after accountId
  baseline : ∀ policyId, isBaseline before policyId → isBaseline after policyId
  noNewBaseline : ∀ policyId < before.nextPolicyId, isBaseline after policyId →
    isBaseline before policyId
  links : ∀ accountId policyId, isBaseline before policyId →
    (accountId, policyId) ∈ before.userPolicies →
      (accountId, policyId) ∈ after.userPolicies ∨ Absent after accountId

section Steps

variable {store store' : Store}

theorem Stays.refl (store : Store) : Stays store store :=
  ⟨id, Nat.le_refl _, Nat.le_refl _, fun _ _ absent => absent, fun _ is => is, fun _ _ is => is,
    fun _ _ _ linked => Or.inl linked⟩

theorem stays_addAccount {account : Account} (isNew : account.id = store.nextAccountId) :
    Stays store (store.addAccount account) where
  wellFormed := by
    rintro ⟨accounts, policies⟩
    refine ⟨fun other member => ?_, policies⟩
    rcases List.mem_append.mp member with old | new
    · exact Nat.lt_succ_of_lt (accounts other old)
    · rw [List.mem_singleton.mp new, isNew]
      exact Nat.lt_succ_self _
  accountIds := Nat.le_succ _
  policyIds := Nat.le_refl _
  absent := by
    intro accountId bound absent other member
    rcases List.mem_append.mp member with old | new
    · exact absent other old
    · rw [List.mem_singleton.mp new, isNew]
      omega
  baseline _ is := is
  noNewBaseline _ _ is := is
  links _ _ _ linked := Or.inl linked

theorem deleteAccount_absent (store : Store) (accountId : Nat) :
    Absent (store.deleteAccount accountId) accountId := by
  intro account member
  simpa using (List.mem_filter.mp member).2

theorem stays_deleteAccount (store : Store) (accountId : Nat) :
    Stays store (store.deleteAccount accountId) where
  wellFormed wellFormed :=
    ⟨fun account member => wellFormed.accounts account (List.mem_filter.mp member).1,
      wellFormed.policies⟩
  accountIds := Nat.le_refl _
  policyIds := Nat.le_refl _
  absent _ _ absent account member := absent account (List.mem_filter.mp member).1
  baseline _ is := is
  noNewBaseline _ _ is := is
  links := by
    intro other policyId _ linked
    by_cases same : other = accountId
    · right
      rw [same]
      exact deleteAccount_absent store accountId
    · left
      exact List.mem_filter.mpr ⟨linked, by simpa using same⟩

theorem mem_assignPolicy (store : Store) (accountId policyId : Nat) :
    (accountId, policyId) ∈ (store.assignPolicy accountId policyId).userPolicies := by
  unfold Store.assignPolicy
  split
  · rename_i held
    exact List.contains_iff_mem.mp held
  · simp

theorem stays_assignPolicy (store : Store) (accountId policyId : Nat) :
    Stays store (store.assignPolicy accountId policyId) := by
  unfold Store.assignPolicy
  split
  · exact .refl store
  · exact ⟨fun wellFormed => ⟨wellFormed.accounts, wellFormed.policies⟩, Nat.le_refl _,
      Nat.le_refl _, fun _ _ absent => absent, fun _ is => is, fun _ _ is => is,
      fun _ _ _ linked => Or.inl (List.mem_append_left _ linked)⟩

theorem stays_updateAccounts (store : Store) (change : Account → Account) :
    Stays store (store.updateAccounts change) where
  wellFormed := by
    rintro ⟨accounts, policies⟩
    refine ⟨fun account member => ?_, policies⟩
    obtain ⟨old, isOld, rfl⟩ := List.mem_map.mp member
    exact accounts old isOld
  accountIds := Nat.le_refl _
  policyIds := Nat.le_refl _
  absent := by
    intro accountId _ absent account member
    obtain ⟨old, isOld, rfl⟩ := List.mem_map.mp member
    exact absent old isOld
  baseline _ is := is
  noNewBaseline _ _ is := is
  links _ _ _ linked := Or.inl linked

theorem stays_addPolicy (store : Store) (name : String) : Stays store (store.addPolicy name) := by
  unfold Store.addPolicy
  split
  · exact .refl store
  · refine ⟨?_, Nat.le_refl _, Nat.le_succ _, fun _ _ absent => absent, ?_, ?_,
      fun _ _ _ linked => Or.inl linked⟩
    · rintro ⟨accounts, policies⟩
      refine ⟨accounts, fun policy member => ?_⟩
      rcases List.mem_append.mp member with old | new
      · exact Nat.lt_succ_of_lt (policies policy old)
      · rw [List.mem_singleton.mp new]
        exact Nat.lt_succ_self _
    · rintro policyId ⟨policy, listed, is⟩
      exact ⟨policy, List.mem_append_left _ listed, is⟩
    · rintro policyId bound ⟨policy, listed, isId, isName⟩
      rcases List.mem_append.mp listed with old | new
      · exact ⟨policy, old, isId, isName⟩
      · rw [List.mem_singleton.mp new] at isId
        simp only at isId
        omega

theorem stays_deletePolicy (store : Store) (policyId : Nat) :
    Stays store (store.deletePolicy policyId) := by
  unfold Store.deletePolicy
  split
  · exact .refl store
  · rename_i unprotected
    have kept : ∀ other, isBaseline store other → other ≠ policyId := by
      rintro other ⟨policy, listed, rfl, isName⟩ rfl
      exact unprotected (List.any_eq_true.mpr ⟨policy, listed, by
        simp [isName, protectedPolicyNames]⟩)
    refine ⟨?_, Nat.le_refl _, Nat.le_refl _, fun _ _ absent => absent, ?_, ?_, ?_⟩
    · rintro ⟨accounts, policies⟩
      exact ⟨accounts, fun policy member => policies policy (List.mem_filter.mp member).1⟩
    · rintro other ⟨policy, listed, rfl, isName⟩
      have differs := kept policy.id ⟨policy, listed, rfl, isName⟩
      exact ⟨policy, List.mem_filter.mpr ⟨listed, by simpa using differs⟩, rfl, isName⟩
    · rintro other _ ⟨policy, listed, is⟩
      exact ⟨policy, (List.mem_filter.mp listed).1, is⟩
    · intro accountId other is linked
      left
      exact List.mem_filter.mpr ⟨linked, by simpa using kept other is⟩

theorem stays_removePolicy (store : Store) (accountId policyId : Nat) :
    Stays store (store.removePolicy accountId policyId) := by
  unfold Store.removePolicy
  split
  · exact .refl store
  · rename_i other
    refine ⟨fun wellFormed => ⟨wellFormed.accounts, wellFormed.policies⟩, Nat.le_refl _,
      Nat.le_refl _, fun _ _ absent => absent, fun _ is => is, fun _ _ is => is, ?_⟩
    rintro holder baseline ⟨policy, listed, rfl, isName⟩ linked
    left
    refine List.mem_filter.mpr ⟨linked, ?_⟩
    simp only [bne_iff_ne, ne_eq, Prod.mk.injEq, not_and]
    rintro - rfl
    exact other (List.any_eq_true.mpr ⟨policy, listed, by simp [isName]⟩)

theorem stays_administer (event : Administration) (store : Store) :
    Stays store (administer event store) := by
  cases event with
  | addPolicy name => exact stays_addPolicy store name
  | deletePolicy policyId => exact stays_deletePolicy store policyId
  | assignPolicy accountId policyId =>
    simp only [administer]
    split
    · exact stays_assignPolicy store accountId policyId
    · exact .refl store
  | removePolicy accountId policyId => exact stays_removePolicy store accountId policyId
  | setStatus accountId isActive isDeleted => exact stays_updateAccounts store _
  | purge accountId => exact stays_deleteAccount store accountId

/-! ### One answer -/

theorem answered_state {α : Type} {value : α} {reply : Except Failure α}
    (possible : (reply, store') ∈ answered store value) : store' = store := by
  simp only [answered, List.mem_cons, Prod.mk.injEq, List.not_mem_nil, or_false] at possible
  rcases possible with ⟨-, same⟩ | ⟨-, same⟩ | ⟨-, same⟩ <;> exact same

theorem answered_ok {α : Type} {value value' : α}
    (possible : ((.ok value' : Except Failure α), store') ∈ answered store value) :
    value' = value := by
  have both : value' = value ∧ store' = store := by simpa [answered] using possible
  exact both.1

variable {site : Site} {thread : Nat} {call : Call} {reply : Reply call}

theorem stays_outcome (possible : (reply, store') ∈ outcomes site thread call store) :
    Stays store store' := by
  cases call with
  | createUser data =>
    simp only [outcomes] at possible
    split at possible
    · simp only [List.mem_cons, Prod.mk.injEq, List.not_mem_nil, or_false] at possible
      rcases possible with ⟨-, rfl⟩ | ⟨-, rfl⟩ <;> exact .refl _
    · rcases written_cases possible with ⟨-, rfl⟩ | ⟨-, rfl⟩
      · exact stays_addAccount rfl
      · exact .refl _
  | assignPolicyToUser accountId policyId =>
    simp only [outcomes] at possible
    split at possible
    · rcases written_cases possible with ⟨-, rfl⟩ | ⟨-, rfl⟩
      · exact stays_assignPolicy store accountId policyId
      · exact .refl _
    · rw [(Prod.mk.inj (List.mem_singleton.mp possible)).2]
      exact .refl _
  | deleteUser account =>
    rcases written_cases possible with ⟨-, rfl⟩ | ⟨-, rfl⟩
    · exact stays_deleteAccount store account.id
    · exact .refl _
  | updateByEmail email updates =>
    simp only [outcomes] at possible
    split at possible
    · simp only [List.mem_cons, Prod.mk.injEq, List.not_mem_nil, or_false] at possible
      rcases possible with ⟨-, rfl⟩ | ⟨-, rfl⟩ <;> exact .refl _
    · rcases written_cases possible with ⟨-, rfl⟩ | ⟨-, rfl⟩
      · exact stays_updateAccounts store _
      · exact .refl _
  | getByEmail email | hashPassword password | verifyPassword password hash
  | getPolicyByName name | rollback | updateLastLogin account | createTokens email =>
    rw [answered_state possible]
    exact .refl _

theorem created_new (possible : (reply, store') ∈ outcomes site thread call store)
    {account : Account} (isCreated : created ⟨call, reply⟩ = some account) :
    account.id < store'.nextAccountId := by
  cases call with
  | createUser data =>
    simp only [created] at isCreated
    simp only [outcomes] at possible
    split at possible
    · simp only [List.mem_cons, Prod.mk.injEq, List.not_mem_nil, or_false] at possible
      rcases possible with ⟨rfl, -⟩ | ⟨rfl, -⟩ <;> cases isCreated
    · rcases written_cases possible with ⟨committed, rfl⟩ | ⟨committed, -⟩
      · rw [committed] at isCreated
        obtain rfl := Option.some.inj isCreated
        exact Nat.lt_succ_self _
      · rw [committed] at isCreated
        cases isCreated
  | _ => cases isCreated

theorem assigned_rows (wellFormed : WellFormed store)
    (possible : (reply, store') ∈ outcomes site thread call store) {accountId policyId : Nat}
    (isAssigned : assigned ⟨call, reply⟩ = some (accountId, policyId)) :
    (accountId < store'.nextAccountId ∧ policyId < store'.nextPolicyId) ∧
      (accountId, policyId) ∈ store'.userPolicies := by
  cases call with
  | assignPolicyToUser accountId' policyId' =>
    simp only [assigned] at isAssigned
    obtain ⟨value, committed, same⟩ := Option.map_eq_some_iff.mp isAssigned
    obtain ⟨rfl, rfl⟩ := Prod.mk.inj same
    simp only [outcomes] at possible
    split at possible
    · rename_i rows
      rcases written_cases possible with ⟨-, rfl⟩ | ⟨failed, -⟩
      · simp only [Store.canAssign, Bool.and_eq_true, List.any_eq_true, beq_iff_eq] at rows
        obtain ⟨⟨account, isAccount, rfl⟩, policy, isPolicy, rfl⟩ := rows
        have stays := stays_assignPolicy store account.id policy.id
        exact ⟨⟨Nat.lt_of_lt_of_le (wellFormed.accounts account isAccount) stays.accountIds,
          Nat.lt_of_lt_of_le (wellFormed.policies policy isPolicy) stays.policyIds⟩,
          mem_assignPolicy store account.id policy.id⟩
      · rw [failed] at committed
        cases committed
    · obtain ⟨rfl, -⟩ := Prod.mk.inj (List.mem_singleton.mp possible)
      cases committed
  | _ => cases isAssigned

theorem deleted_absent (possible : (reply, store') ∈ outcomes site thread call store)
    {accountId : Nat} (isDeleted : deleted ⟨call, reply⟩ = some accountId) :
    Absent store' accountId ∧ ∃ account, call = .deleteUser account ∧ account.id = accountId := by
  cases call with
  | deleteUser account =>
    simp only [deleted] at isDeleted
    obtain ⟨value, committed, rfl⟩ := Option.map_eq_some_iff.mp isDeleted
    rcases written_cases possible with ⟨-, rfl⟩ | ⟨failed, -⟩
    · exact ⟨deleteAccount_absent store account.id, account, rfl, rfl⟩
    · rw [failed] at committed
      cases committed
  | _ => cases isDeleted

theorem found_row {policy : PolicyRow}
    (possible : (.ok (some policy), store') ∈
      outcomes site thread (.getPolicyByName selfServicePolicyName) store) :
    isBaseline store' policy.id := by
  have found := answered_ok possible
  rw [answered_state possible]
  have isName := List.find?_some found.symm
  exact ⟨policy, List.mem_of_find?_eq_some found.symm, rfl, by simpa using isName⟩

end Steps

/-! ## Runs -/

/-- None of the failures that leave an account without its policy. -/
def Unbroken (config : Server) (thread : Nat) (event : Event) : Prop :=
  breaks (config.trace thread) event = false

/-- What the answers so far say of the tables. -/
structure Kept (store : Store) (history : List (Nat × Event)) : Prop where
  wellFormed : WellFormed store
  created : ∀ entry ∈ history, ∀ account, created entry.2 = some account →
    account.id < store.nextAccountId
  assigned : ∀ entry ∈ history, ∀ accountId policyId,
    assigned entry.2 = some (accountId, policyId) →
      (accountId < store.nextAccountId ∧ policyId < store.nextPolicyId) ∧
        (isBaseline store policyId →
          (accountId, policyId) ∈ store.userPolicies ∨ Absent store accountId)
  deleted : ∀ entry ∈ history, ∀ accountId, deleted entry.2 = some accountId →
    accountId < store.nextAccountId ∧ Absent store accountId
  found : ∀ thread policy,
    (thread, ⟨.getPolicyByName selfServicePolicyName, .ok (some policy)⟩) ∈ history →
      isBaseline store policy.id

theorem Kept.stays {store store' : Store} {history : List (Nat × Event)}
    (kept : Kept store history) (stays : Stays store store') : Kept store' history where
  wellFormed := stays.wellFormed kept.wellFormed
  created entry member account isCreated :=
    Nat.lt_of_lt_of_le (kept.created entry member account isCreated) stays.accountIds
  assigned := by
    intro entry member accountId policyId isAssigned
    obtain ⟨⟨isAccount, isPolicy⟩, linked⟩ :=
      kept.assigned entry member accountId policyId isAssigned
    refine ⟨⟨Nat.lt_of_lt_of_le isAccount stays.accountIds,
      Nat.lt_of_lt_of_le isPolicy stays.policyIds⟩, fun baseline => ?_⟩
    have before := stays.noNewBaseline policyId isPolicy baseline
    rcases linked before with link | absent
    · exact stays.links accountId policyId before link
    · exact Or.inr (stays.absent accountId isAccount absent)
  deleted := by
    intro entry member accountId isDeleted
    obtain ⟨bound, absent⟩ := kept.deleted entry member accountId isDeleted
    exact ⟨Nat.lt_of_lt_of_le bound stays.accountIds, stays.absent accountId bound absent⟩
  found thread policy member := stays.baseline policy.id (kept.found thread policy member)

section Runs

variable {site : Site} {start : Store} {config : Server}

theorem Kept.answered {store store' : Store} {history : List (Nat × Event)}
    (kept : Kept store history) {thread : Nat} {call : Call} {reply : Reply call}
    (allowed : discipline.allows (traceOf history thread) call)
    (possible : (reply, store') ∈ outcomes site thread call store) :
    Kept store' ((thread, ⟨call, reply⟩) :: history) := by
  have stays := stays_outcome possible
  have old := kept.stays stays
  refine ⟨old.wellFormed, ?_, ?_, ?_, ?_⟩
  · intro entry member account isCreated
    rcases List.mem_cons.mp member with rfl | earlier
    · exact created_new possible isCreated
    · exact old.created entry earlier account isCreated
  · intro entry member accountId policyId isAssigned
    rcases List.mem_cons.mp member with rfl | earlier
    · obtain ⟨bounds, linked⟩ := assigned_rows kept.wellFormed possible isAssigned
      exact ⟨bounds, fun _ => Or.inl linked⟩
    · exact old.assigned entry earlier accountId policyId isAssigned
  · intro entry member accountId isDeleted
    rcases List.mem_cons.mp member with rfl | earlier
    · obtain ⟨absent, account, rfl, rfl⟩ := deleted_absent possible isDeleted
      obtain ⟨data, wasCreated⟩ := allowed
      refine ⟨?_, absent⟩
      exact old.created _ ((mem_traceOf history thread _).mp wasCreated) account rfl
    · exact old.deleted entry earlier accountId isDeleted
  · intro other policy member
    rcases List.mem_cons.mp member with same | earlier
    · obtain ⟨rfl, isEvent⟩ := Prod.mk.inj same
      obtain ⟨rfl, isReply⟩ := Sigma.mk.inj isEvent
      obtain rfl := eq_of_heq isReply
      exact found_row possible
    · exact old.found other policy earlier

theorem kept_along {permits : Server → Nat → Event → Prop} (wellFormed : WellFormed start)
    (run : Reaches (server site) permits (Config.start start) config) :
    Kept config.state config.history := by
  refine run.keeps Kept ⟨wellFormed, by simp [Config.start], by simp [Config.start],
    by simp [Config.start], by simp [Config.start]⟩ ?_ ?_
  · intro event store history kept
    exact kept.stays (stays_administer event store)
  · intro before after thread event earlier answers kept
    obtain ⟨request, next, running⟩ := answers.running
    have allowed := (earlier.disciplined (server_obeys site) start).allows running
    exact kept.answered allowed answers.possible

theorem intact_along
    (run : Reaches (server site) Unbroken (Config.start start) config) (thread : Nat) :
    intact (config.trace thread) = true := by
  refine run.keeps (fun _ history => intact (traceOf history thread) = true) rfl
    (fun _ _ _ holds => holds) fun before after actor event earlier answers holds => ?_
  by_cases isThread : actor = thread
  · subst isThread
    have unbroken : breaks (traceOf before.history actor) event = false := answers.permitted
    simp only [traceOf_cons_self, intact, unbroken, holds]
    rfl
  · rw [traceOf_cons_ne _ isThread]
    exact holds

/-- The address that a request signs in. -/
def loginAddress (site : Site) : Request → Option String
  | .login email _ => some (site.normalizeEmail email)
  | .loginOrCreateUser userInfo => userInfo.email.map site.normalizeEmail
  | _ => none

/-- A login to the account that begins later and succeeds finds it with its policy. -/
def ObtainsAtLogin (site : Site) (config : Server) (account : Account) : Prop :=
  ∀ later, Reaches (server site) anyCall config later → ∀ thread request program,
    config.threads.length ≤ thread → later.threads[thread]? = some ⟨request, program⟩ →
      loginAddress site request = some account.email →
        Thread.result (⟨request, program⟩ : Thread Request Reply Failure Response) =
          some (.ok .tokens) → Holds later.state account.id ∨ Absent later.state account.id

/-- Of the accounts that the request has created, none is left without its baseline policy. -/
def Provided (site : Site) (config : Server) (thread : Nat) : Prop :=
  ∀ event ∈ config.trace thread, ∀ account, created event = some account →
    Holds config.state account.id ∨ Absent config.state account.id ∨
      ObtainsAtLogin site config account

/-- Whatever else fails, every account that a finished request has created holds `self_service` or
does not exist. -/
theorem accounts_provided (site : Site) (start : Store) (wellFormed : WellFormed start)
    (run : Reaches (server site) Unbroken (Config.start start) config) (thread : Nat)
    (request : Request) (program : Service Response)
    (present : config.threads[thread]? = some ⟨request, program⟩)
    (returned : (Thread.result (⟨request, program⟩ :
      Thread Request Reply Failure Response)).isSome) : Provided site config thread := by
  intro event member account isCreated
  obtain ⟨result, isResult⟩ := Option.isSome_iff_exists.mp returned
  have kept := kept_along wellFormed run
  have settled := (run.disciplined (server_obeys site) start).returned present isResult
  rcases settled (intact_along run thread) event member account isCreated with
    ⟨policy, found, assignment, inTrace, isAssigned⟩ | ⟨deletion, inTrace, isDeleted⟩
  · have baseline := kept.found thread policy ((Config.mem_trace thread _).mp found)
    have linked := (kept.assigned _ ((Config.mem_trace thread _).mp inTrace) account.id policy.id
      isAssigned).2 baseline
    exact linked.elim (fun link => Or.inl ⟨policy.id, baseline, link⟩) fun absent =>
      Or.inr (Or.inl absent)
  · exact Or.inr (Or.inl (kept.deleted _ ((Config.mem_trace thread _).mp inTrace) account.id
      isDeleted).2)

end Runs

/-! ## A failed assignment -/

/-- The address tables are the identity, and an application adds no policies of its own. -/
def plainSite : Site where
  normalizeEmail := id
  hashPassword := id
  verifyPassword password hash := password == hash
  dummyHash := ""
  defaultAppPolicyNames := []

/-- The seeded policies, and no accounts. -/
def seededStore : Store where
  accounts := []
  policies := [⟨1, selfServicePolicyName⟩, ⟨2, userManagementPolicyName⟩,
    ⟨3, systemSuperuserPolicyName⟩]
  userPolicies := []
  nextAccountId := 1
  nextPolicyId := 4

theorem seededStore_wellFormed : WellFormed seededStore where
  accounts := by decide
  policies := by decide

def annSignsUp : Request :=
  .signup "Ann" "ann@example.com" "Passw0rd"

/-- The assignment fails, and the account is deleted again. -/
def signupTakenBack : List (Move Request Administration) :=
  .begin annSignsUp :: Move.turns 0 4 ++ [.reply 0 1, .reply 0 0]

theorem accounts_provided_ann :
    Provided plainSite ((Config.start seededStore).follow (server plainSite) signupTakenBack) 0 := by
  obtain ⟨program, present, isResult⟩ := Config.finished_of_result
    ((Config.start seededStore).follow (server plainSite) signupTakenBack) 0 annSignsUp
    (.ok (.created false)) (by decide +kernel) (by decide +kernel)
  exact accounts_provided plainSite seededStore seededStore_wellFormed
    (Config.follow_permitted (server plainSite)
      (fun config thread event => !breaks (config.trace thread) event)
      (fun _ _ _ passed => by simpa [Unbroken] using passed) _ signupTakenBack (by decide +kernel))
    0 annSignsUp program present (by rw [isResult]; rfl)

def annSignsIn : Request :=
  .loginOrCreateUser ⟨some "ann@example.com", some "Ann"⟩

/-- The assignment fails after the account of a first OAuth2 login is committed. -/
def assignmentFails : List (Move Request Administration) :=
  .begin annSignsIn :: Move.turns 0 3 ++ [.reply 0 1]

def signInAgain : List (Move Request Administration) :=
  .begin annSignsIn :: Move.turns 1 3

def annsAccount : Account :=
  ⟨1, "Ann", "ann@example.com", some .user, none, true, true, false⟩

/-- Ann's account is there, and nobody holds any policy. -/
def unprovided (store : Store) : Bool :=
  store.accounts == [annsAccount] && store.userPolicies.isEmpty

theorem not_held_of_unprovided {store : Store} (without : unprovided store = true) :
    ¬ Holds store annsAccount.id := by
  rintro ⟨policyId, -, linked⟩
  simp only [unprovided, Bool.and_eq_true, List.isEmpty_iff] at without
  rw [without.2] at linked
  cases linked

theorem not_absent_of_unprovided {store : Store} (without : unprovided store = true) :
    ¬ Absent store annsAccount.id := by
  intro absent
  simp only [unprovided, Bool.and_eq_true, beq_iff_eq] at without
  refine absent annsAccount ?_ rfl
  rw [without.1]
  exact List.mem_singleton_self _

/-- The account stays, without any policy, and the next OAuth2 login succeeds. -/
theorem account_without_policy :
    ¬ ∀ (site : Site) (start : Store), WellFormed start → ∀ config : Server,
      Reaches (server site) anyCall (Config.start start) config →
        ∀ (thread : Nat) (request : Request) (program : Service Response),
          config.threads[thread]? = some ⟨request, program⟩ →
            (Thread.result (⟨request, program⟩ :
              Thread Request Reply Failure Response)).isSome → Provided site config thread := by
  intro provided
  let failed := (Config.start seededStore).follow (server plainSite) assignmentFails
  let again := failed.follow (server plainSite) signInAgain
  have without : unprovided failed.state = true := by decide +kernel
  have stillWithout : unprovided again.state = true := by decide +kernel
  have creates : (failed.history.any fun entry =>
      entry.1 == 0 && created entry.2 == some annsAccount) = true := by
    decide +kernel
  have alone : failed.threads.length = 1 := by decide +kernel
  obtain ⟨program, present, isResult⟩ := failed.finished_of_result 0 annSignsIn (.ok .none)
    (by decide +kernel) (by decide +kernel)
  obtain ⟨program', present', isResult'⟩ := again.finished_of_result 1 annSignsIn (.ok .tokens)
    (by decide +kernel) (by decide +kernel)
  obtain ⟨⟨thread, event⟩, member, isCreation⟩ := List.any_eq_true.mp creates
  simp only [Bool.and_eq_true, beq_iff_eq] at isCreation
  obtain ⟨rfl, isCreated⟩ := isCreation
  have law := provided plainSite seededStore seededStore_wellFormed failed
    (Config.follow_reaches (server plainSite) _ assignmentFails) 0 annSignsIn program present
    (by rw [isResult]; rfl) event ((Config.mem_trace 0 _).mpr member) annsAccount isCreated
  rcases law with holds | absent | obtains
  · exact not_held_of_unprovided without holds
  · exact not_absent_of_unprovided without absent
  · have later := obtains again (Config.follow_reaches (server plainSite) _ signInAgain) 1
      annSignsIn program' (by rw [alone]) present' rfl isResult'
    exact later.elim (not_held_of_unprovided stillWithout) (not_absent_of_unprovided stillWithout)

end MysticAuth.AccountCreation
