import MysticAuth.SessionEvents.Leases
import MysticAuth.Valkey.KeyNames

/-!
# The leases are capped

No set ever holds more leases than its limit, whatever the clocks show.  A
lease that is no longer in a set comes back only by being acquired again.
-/

set_option autoImplicit false

namespace MysticAuth.SessionEvents

open Interleaving SortedSets KeyNames

/-! ## The script of a request -/

def Request.script (site : Site) : Request → Script
  | .acquire email clientIp token now => .acquire (accountKey site email) (ipKey site clientIp) now
      (now + leaseSeconds) site.accountLimit site.ipLimit token (leaseTtlSeconds site)
  | .refresh email clientIp token now => .refresh (accountKey site email) (ipKey site clientIp)
      token (now + leaseSeconds) (leaseTtlSeconds site)
  | .release email clientIp token =>
      .release (accountKey site email) (ipKey site clientIp) token

/-- A request runs its own script. -/
def discipline (site : Site) (request : Request) : Discipline Reply where
  allows _ script := script = request.script site
  answers _ _ := True

theorem server_obeys (site : Site) :
    (server site).Obeys (discipline site) (fun _ (_ : Except Unit (Option String)) _ => True) where
  programs request := by
    have confined : (handle site request).Confined (· = request.script site) := by
      cases request with
      | acquire email clientIp token now =>
        refine Program.confined_tryCatch _ _ ?_ fun _ => trivial
        exact Program.confined_bind _ _ ⟨rfl, fun _ => trivial⟩ fun _ => trivial
      | refresh email clientIp token now | release email clientIp token =>
        refine Program.confined_bind _ _ (Program.confined_tryCatch _ _ ?_ fun _ => trivial)
          fun _ => trivial
        exact Program.confined_bind _ _ ⟨rfl, fun _ => trivial⟩ fun _ => trivial
    exact confined.meets (fun _ _ _ isScript => isScript) fun _ _ _ => trivial
  answers _ _ _ _ _ _ := trivial

/-! ## The limits -/

/-- Every set is within the limit of its scope. -/
structure Capped (site : Site) (store : Store) : Prop where
  accounts : ∀ email, (store.setAt (accountKey site email)).card ≤ site.accountLimit
  addresses : ∀ clientIp, (store.setAt (ipKey site clientIp)).card ≤ site.ipLimit

section Limits

variable {site : Site} {store store' : Store} {request : Request}

theorem accountKey_ne_ipKey (site : Site) (email clientIp : String) :
    accountKey site email ≠ ipKey site clientIp :=
  append_ne_append 21 'a' 'i' (by decide) (by decide) (by decide) _ _

theorem leaseTtlSeconds_pos (site : Site) : 0 < leaseTtlSeconds site := by
  unfold leaseTtlSeconds leaseSeconds
  omega

/-- A script adds a lease only where it has found the sets below their limits. -/
theorem card_script (site : Site) (request : Request) (store : Store) (key : String) :
    (((request.script site).run store).2.setAt key).card ≤ (store.setAt key).card ∨
      ∃ email clientIp now, ((store.setAt (accountKey site email)).prune now).card < site.accountLimit ∧
        ((store.setAt (ipKey site clientIp)).prune now).card < site.ipLimit ∧
        (key = accountKey site email ∨ key = ipKey site clientIp) ∧
        (((request.script site).run store).2.setAt key).card ≤
          ((store.setAt key).prune now).card + 1 := by
  have positive := leaseTtlSeconds_pos site
  cases request with
  | acquire email clientIp token now =>
    rcases setAt_acquire (accountKey_ne_ipKey site email clientIp) positive now
      (now + leaseSeconds) site.accountLimit site.ipLimit token store with
      refused | ⟨account, address, admitted⟩
    · left
      rw [Request.script, refused]
      split
      · exact SortedSet.card_filter_le _ _
      · exact Nat.le_refl _
    · rw [Request.script, admitted]
      split
      · rename_i isLease
        exact Or.inr ⟨email, clientIp, now, account, address, isLease,
          SortedSet.card_add_le _ _ _⟩
      · exact Or.inl (Nat.le_refl _)
  | refresh email clientIp token now =>
    left
    rw [Request.script, setAt_refresh (accountKey_ne_ipKey site email clientIp) positive]
    split
    · exact (SortedSet.card_rescore _ _ _).le
    · exact Nat.le_refl _
  | release email clientIp token =>
    left
    rw [Request.script, setAt_release (accountKey_ne_ipKey site email clientIp)]
    split
    · exact SortedSet.card_filter_le _ _
    · exact Nat.le_refl _

theorem Capped.script (capped : Capped site store) (request : Request) :
    Capped site ((request.script site).run store).2 := by
  constructor
  · intro email
    rcases card_script site request store (accountKey site email) with
      noMore | ⟨email', clientIp, now, account, -, same | same, more⟩
    · exact noMore.trans (capped.accounts email)
    · rw [same] at more ⊢
      omega
    · exact absurd same (accountKey_ne_ipKey site email clientIp)
  · intro clientIp
    rcases card_script site request store (ipKey site clientIp) with
      noMore | ⟨email, clientIp', now, -, address, same | same, more⟩
    · exact noMore.trans (capped.addresses clientIp)
    · exact absurd same.symm (accountKey_ne_ipKey site email clientIp)
    · rw [same] at more ⊢
      omega

theorem Capped.elapse (capped : Capped site store) (millis : Nat) :
    Capped site (store.elapse millis) := by
  have shrinks (key : String) : ((store.elapse millis).setAt key).card ≤ (store.setAt key).card := by
    rcases store.setAt_elapse millis key with same | gone
    · rw [same]
    · rw [gone]
      exact Nat.zero_le _
  exact ⟨fun email => (shrinks _).trans (capped.accounts email),
    fun clientIp => (shrinks _).trans (capped.addresses clientIp)⟩

/-- The token that a script adds to its sets. -/
def Script.admits : Script → Option String
  | .acquire _ _ _ _ _ _ token _ => some token
  | _ => none

/-- No other token comes into a set. -/
theorem members_script (site : Site) (request : Request) (store : Store) (key token : String)
    (notAdmitted : (request.script site).admits ≠ some token)
    (absent : token ∉ (store.setAt key).members) :
    token ∉ (((request.script site).run store).2.setAt key).members := by
  have positive := leaseTtlSeconds_pos site
  have filtered (keep : String × Nat → Bool) :
      token ∉ ((store.setAt key).filter keep).members :=
    fun member => absent (SortedSet.members_filter_subset _ _ member)
  cases request with
  | acquire email clientIp other now =>
    rcases setAt_acquire (accountKey_ne_ipKey site email clientIp) positive now
      (now + leaseSeconds) site.accountLimit site.ipLimit other store with
      refused | ⟨-, -, admitted⟩
    · rw [Request.script, refused]
      split
      · exact filtered _
      · exact absent
    · rw [Request.script, admitted]
      split
      · intro member
        rcases List.mem_cons.mp (SortedSet.members_add_subset _ _ _ member) with same | old
        · exact notAdmitted (congrArg some same.symm)
        · exact filtered _ old
      · exact absent
  | refresh email clientIp other now =>
    rw [Request.script, setAt_refresh (accountKey_ne_ipKey site email clientIp) positive]
    split
    · rw [SortedSet.members_rescore]
      exact absent
    · exact absent
  | release email clientIp other =>
    rw [Request.script, setAt_release (accountKey_ne_ipKey site email clientIp)]
    split
    · exact filtered _
    · exact absent

end Limits

/-! ## Runs -/

/-- Nobody acquires a lease with the token. -/
def NotAcquired (token : String) (_ : Server) (_ : Nat) (event : Event) : Prop :=
  event.1.admits ≠ some token

section Runs

variable {site : Site} {start : Nat} {config before after : Server} {thread : Nat} {event : Event}
variable {permits permits' : Server → Nat → Event → Prop}

/-- An answer leaves the sets as they were, or as the script of its request has made them. -/
theorem answered (run : Reaches (server site) permits (Config.start (Store.empty start)) before)
    (answers : Answers (server site) permits' before after thread event) :
    ∃ request : Request, event.1 = request.script site ∧
      (event.2.committed ≠ none ∧ after.state = ((request.script site).run before.state).2 ∨
        event.2.committed = none ∧ after.state = before.state) := by
  obtain ⟨request, next, running⟩ := answers.running
  have isScript := (run.disciplined (server_obeys site) _).allows running
  refine ⟨request, isScript, ?_⟩
  obtain ⟨script, reply⟩ := event
  obtain rfl : script = request.script site := isScript
  rcases written_cases answers.possible with ⟨committed, same⟩ | ⟨none, same⟩
  · exact Or.inl ⟨by rw [committed]; simp, same⟩
  · exact Or.inr ⟨none, same⟩

theorem capped_along
    (run : Reaches (server site) permits (Config.start (Store.empty start)) config) :
    Capped site config.state := by
  refine run.preserves (fun config => Capped site config.state)
    ⟨fun _ => Nat.zero_le _, fun _ => Nat.zero_le _⟩ ?_
  intro before after earlier capped step
  rcases step.cases_answers with ⟨-, same | ⟨millis, changed⟩⟩ | ⟨thread, event, answers⟩
  · rw [same]
    exact capped
  · rw [changed]
    exact capped.elapse millis
  · obtain ⟨request, -, ⟨-, same⟩ | ⟨-, same⟩⟩ := answered earlier answers
    · rw [same]
      exact capped.script request
    · rw [same]
      exact capped

theorem absent_along {key token : String}
    (earlier : Reaches (server site) anyCall (Config.start (Store.empty start)) config)
    (absent : token ∉ (config.state.setAt key).members)
    (run : Reaches (server site) (NotAcquired token) config after) :
    token ∉ (after.state.setAt key).members := by
  refine run.preserves (fun config => token ∉ (config.state.setAt key).members) absent ?_
  intro middle last first absent step
  rcases step.cases_answers with ⟨-, same | ⟨millis, changed⟩⟩ | ⟨thread, event, answers⟩
  · rw [same]
    exact absent
  · rw [changed]
    rcases middle.state.setAt_elapse millis key with same | gone
    · exact fun member => absent (same ▸ member)
    · exact fun member => by
        have isMember : token ∈ ((middle.state.elapse millis).setAt key).members := member
        rw [gone] at isMember
        cases isMember
  · obtain ⟨request, isScript, ⟨-, same⟩ | ⟨-, same⟩⟩ := answered (earlier.trans first.toAny) answers
    · rw [same]
      refine members_script site request middle.state key token ?_ absent
      rw [← isScript]
      exact answers.permitted
    · rw [same]
      exact absent

/-- The live leases of an account and of an address are within their limits at every time, a lease
that is not in a set is not brought back, and a release takes only its own lease out of both. -/
theorem lease_caps (site : Site) (start : Nat)
    (run : Reaches (server site) anyCall (Config.start (Store.empty start)) config) :
    (∀ email time, (config.state.setAt (accountKey site email)).above time ≤ site.accountLimit) ∧
      (∀ clientIp time, (config.state.setAt (ipKey site clientIp)).above time ≤ site.ipLimit) ∧
      (∀ key token after, token ∉ (config.state.setAt key).members →
        Reaches (server site) (NotAcquired token) config after →
          token ∉ (after.state.setAt key).members) ∧
      ∀ after thread accountKey ipKey token (reply : Reply (.release accountKey ipKey token)),
        Answers (server site) anyCall config after thread ⟨_, reply⟩ →
          (reply.committed = none → after.state = config.state) ∧
          (reply.committed ≠ none → ∀ key entry, entry ∈ (after.state.setAt key).scores ↔
            entry ∈ (config.state.setAt key).scores ∧
              ¬ (entry.1 = token ∧ (key = accountKey ∨ key = ipKey))) := by
  have capped := capped_along run
  refine ⟨fun email time => ?_, fun clientIp time => ?_, fun key token after absent later => ?_,
    fun after thread account ip token reply answers => ?_⟩
  · exact (SortedSet.above_le_card _ _).trans (capped.accounts email)
  · exact (SortedSet.above_le_card _ _).trans (capped.addresses clientIp)
  · exact absent_along run absent later
  · obtain ⟨request, isScript, ⟨committed, same⟩ | ⟨none, same⟩⟩ := answered run answers
    · refine ⟨fun none => absurd none committed, fun _ key entry => ?_⟩
      rw [← isScript] at same
      cases request with
      | release email clientIp token' =>
        obtain ⟨rfl, rfl, rfl⟩ := Script.release.inj isScript
        rw [same, setAt_release (accountKey_ne_ipKey site email clientIp)]
        split
        · rename_i isLease
          rw [SortedSet.mem_erase]
          simp [isLease]
        · rename_i other
          simp [other]
      | acquire email clientIp token' now => cases isScript
      | refresh email clientIp token' now => cases isScript
    · exact ⟨fun _ => same, fun committed => absurd none committed⟩

end Runs

/-! ## Two streams of one account -/

def smallSite : Site where
  accountLimit := 1
  ipLimit := 2
  graceSeconds := 30
  sha256 := id

/-- The second stream is admitted once the lease of the first has expired, and the first is then
refreshed and released. -/
def twoStreams : Server :=
  (Config.start (Store.empty 0)).follow (server smallSite)
    [.begin (.acquire "ann@example.org" "203.0.113.7" "first" 0), .reply 0 0, .disturb 61000,
      .begin (.acquire "ann@example.org" "203.0.113.8" "second" 61), .reply 1 0,
      .begin (.refresh "ann@example.org" "203.0.113.7" "first" 62), .reply 2 0]

theorem lease_caps_two_streams :
    (twoStreams.state.setAt (accountKey smallSite "ann@example.org")).scores = [("second", 121)] ∧
      (twoStreams.state.setAt (accountKey smallSite "ann@example.org")).above 100 ≤ 1 ∧
      ∀ after, Reaches (server smallSite) (NotAcquired "first") twoStreams after →
        "first" ∉ (after.state.setAt (accountKey smallSite "ann@example.org")).members := by
  have run : Reaches (server smallSite) anyCall (Config.start (Store.empty 0)) twoStreams :=
    Config.follow_reaches (server smallSite) _ _
  obtain ⟨accounts, -, absent, -⟩ := lease_caps smallSite 0 run
  refine ⟨by decide +kernel, accounts "ann@example.org" 100, fun after later => ?_⟩
  exact absent _ "first" after (by decide +kernel) later

end MysticAuth.SessionEvents
