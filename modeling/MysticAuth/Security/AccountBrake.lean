import Mathlib.Data.Finset.Card
import MysticAuth.Security.LockoutBound

/-!
# The account brake

An attempt verifies its password where it has read a count of failures below
the threshold, or has taken the one slot of the cool-down.  The slots of a
lifetime of the count are a cool-down apart.  The attempts below the threshold
are as few as the threshold only where the count each of them has read is not
too old by the time it verifies its password.
-/

set_option autoImplicit false

namespace MysticAuth.Login

open Interleaving Security

/-! ## The attempts on an account -/

def isVerified (event : Event) : Bool :=
  match event with
  | ⟨.verifyPassword _ _, .ok _⟩ => true
  | _ => false

/-- The slot of the cool-down has been taken. -/
def isSlot (event : Event) : Bool :=
  match event with
  | ⟨.valkey (.setNx _ _), .done taken⟩ => taken
  | _ => false

/-- A count of failures has been found. -/
def readsCount (key : String) (event : Event) : Bool :=
  match event with
  | ⟨.valkey (.get other), .done count⟩ => other == key && count.isSome
  | _ => false

/-- A failure has been counted. -/
def isCounted (key : String) (event : Event) : Bool :=
  match event with
  | ⟨.valkey (.incr other), reply⟩ => other == key && reply.committed.isSome
  | _ => false

section Account

variable (site : Site) (email : String) (first : Nat) (config : Server)

def accountFailures : String :=
  failuresKey site.settings email

def accountCooldown : String :=
  cooldownKey site.settings email

/-- The thread is an attempt on the account, and not older than the first one. -/
def joined (thread : Nat) : Bool :=
  decide (first ≤ thread) && (requestOf config thread).any fun attempt =>
    site.settings.keys.emailKeyId attempt.email == site.settings.keys.emailKeyId email

/-- The attempts on the account of which the check holds. -/
def attempts (check : List Event → Bool) : Finset Nat :=
  (Finset.range config.threads.length).filter fun thread =>
    joined site email first config thread && check (config.trace thread)

/-- The attempts that have verified their password. -/
def verifiedAttempts : Finset Nat :=
  attempts site email first config (·.any isVerified)

/-- Those among them that have taken no slot. -/
def unslotted : Finset Nat :=
  attempts site email first config fun trace => trace.any isVerified && !trace.any isSlot

/-- Those among them that have not been counted yet. -/
def pending : Finset Nat :=
  attempts site email first config fun trace =>
    (trace.any isVerified && !trace.any isSlot) && !trace.any (isCounted (accountFailures site email))

def failureCount : Nat :=
  ((config.state.valkey.find (accountFailures site email)).map Entry.count).getD 0

/-- No successful sign-in clears the brake. -/
def Unreset (_ : Server) (_ : Nat) (event : Event) : Prop :=
  ∀ keys, event.1 = .valkey (.delete keys) → accountCooldown site email ∉ keys

/-- The failures that a count which has been read does not show: those counted since, and those
still to be counted. -/
def unseen (count : Nat) : Nat :=
  (failureCount site email config - count) + (pending site email first config).card

/-- Besides, a count that lets an attempt through leaves fewer failures unseen, by the time the
password is verified, than are missing to the threshold. -/
structure Paced (site : Site) (email : String) (first : Nat) (config : Server) (thread : Nat)
    (event : Event) : Prop where
  unreset : Unreset site email config thread event
  fresh : isVerified event = true → joined site email first config thread = true →
    ∀ count : Option Nat,
      ⟨.valkey (.get (accountFailures site email)), .done count⟩ ∈ config.trace thread →
        count.all (· < site.settings.loginAccountFailureThreshold) = true →
          count.getD 0 + unseen site email first config (count.getD 0) <
            site.settings.loginAccountFailureThreshold

end Account

/-- A run in which the failures of the account, once they are counted, are neither forgotten nor
expire, and are counted from the given time on at the earliest. -/
def BrakeLifetime (site : Site) (email : String) (since : Nat)
    (permits : Server → Nat → Event → Prop) : Server → Server → Prop :=
  Relation.ReflTransGen fun before after => Step (server site) permits before after ∧
    (before.state.valkey.find (accountFailures site email) ≠ none →
      after.state.valkey.find (accountFailures site email) ≠ none) ∧
    (after.state.valkey.find (accountFailures site email) ≠ none → since ≤ after.state.valkey.now)

section Threads

variable {site : Site} {email : String} {first : Nat} {before after : Server} {thread : Nat}
variable {permits : Server → Nat → Event → Prop} {check : List Event → Bool}

theorem mem_attempts {config : Server} : thread ∈ attempts site email first config check ↔
    thread < config.threads.length ∧ joined site email first config thread = true ∧
      check (config.trace thread) = true := by
  rw [attempts, Finset.mem_filter, Finset.mem_range, Bool.and_eq_true]

theorem requestOf_step (step : Step (server site) permits before after)
    (begun : thread < before.threads.length) : requestOf after thread = requestOf before thread := by
  obtain ⟨kept, present, sameRequest, -⟩ :=
    step.thread_persists (List.getElem?_eq_getElem begun)
  rw [requestOf, requestOf, present, List.getElem?_eq_getElem begun, Option.map_some,
    Option.map_some, sameRequest]

/-- An attempt of which the check holds after a step was one before, or has just been answered. -/
theorem mem_attempts_step (step : Step (server site) permits before after)
    (attributed : before.Attributed) (empty : check [] = false)
    (member : thread ∈ attempts site email first after check) :
    thread ∈ attempts site email first before check ∨
      ∃ event, Answers (server site) permits before after thread event ∧
        joined site email first before thread = true ∧
        check (event :: before.trace thread) = true := by
  obtain ⟨-, isJoined, holds⟩ := mem_attempts.mp member
  have joinedBefore (begun : thread < before.threads.length) :
      joined site email first before thread = true := by
    rw [joined, requestOf_step step begun] at isJoined
    exact isJoined
  have unchanged (same : after.trace thread = before.trace thread) :
      thread ∈ attempts site email first before check := by
    rw [same] at holds
    have begun : thread < before.threads.length := by
      by_contra fresh
      rw [attributed.trace_eq_nil (Nat.not_lt.mp fresh), empty] at holds
      cases holds
    exact mem_attempts.mpr ⟨begun, joinedBefore begun, holds⟩
  rcases step.cases_answers with ⟨same, -⟩ | ⟨actor, event, answers⟩
  · exact Or.inl (unchanged (Config.trace_of_history same thread))
  · by_cases isActor : actor = thread
    · subst isActor
      rw [answers.trace_self] at holds
      obtain ⟨request, next, running⟩ := answers.running
      have begun := (List.getElem?_eq_some_iff.mp running).1
      exact Or.inr ⟨event, answers, joinedBefore begun, holds⟩
    · exact Or.inl (unchanged (answers.trace_ne isActor))

/-- A step adds at most one attempt. -/
theorem card_attempts_step (step : Step (server site) permits before after)
    (attributed : before.Attributed) (empty : check [] = false) :
    (attempts site email first after check).card ≤
      (attempts site email first before check).card + 1 := by
  rcases step.cases_answers with ⟨same, -⟩ | ⟨actor, event, answers⟩
  · refine (Finset.card_le_card fun thread member => ?_).trans (Nat.le_succ _)
    rcases mem_attempts_step step attributed empty member with old | ⟨event, answers, -⟩
    · exact old
    · exact absurd (answers.recorded.symm.trans same) (List.cons_ne_self _ _)
  · refine (Finset.card_le_card fun thread member => ?_).trans (Finset.card_insert_le actor _)
    rcases mem_attempts_step step attributed empty member with old | ⟨event', answers', -⟩
    · exact Finset.mem_insert_of_mem old
    · have sameEntry := (List.cons.inj (answers.recorded.symm.trans answers'.recorded)).1
      rw [← (Prod.mk.inj sameEntry).1]
      exact Finset.mem_insert_self _ _

/-- Where no answer makes the check hold, no attempt is added. -/
theorem attempts_step_subset (step : Step (server site) permits before after)
    (attributed : before.Attributed) (empty : check [] = false)
    (stable : ∀ thread event, Answers (server site) permits before after thread event →
      joined site email first before thread = true → check (event :: before.trace thread) = true → check (before.trace thread) = true) :
    attempts site email first after check ⊆ attempts site email first before check := by
  intro thread member
  rcases mem_attempts_step step attributed empty member with old | ⟨event, answers, isJoined, holds⟩
  · exact old
  · obtain ⟨request, next, running⟩ := answers.running
    exact mem_attempts.mpr ⟨(List.getElem?_eq_some_iff.mp running).1, isJoined,
      stable thread event answers isJoined holds⟩

end Threads

/-! ## The attempts below the threshold -/

/-- The attempts that have been counted. -/
def counted (site : Site) (email : String) (first : Nat) (config : Server) : Finset Nat :=
  attempts site email first config (·.any (isCounted (accountFailures site email)))

section Admission

variable {site : Site} {email : String} {first : Nat} {before after : Server} {thread : Nat}
variable {permits : Server → Nat → Event → Prop} {start : Store} {event : Event}

/-- What the thread of an answer may call. -/
theorem allowed_at {permits' : Server → Nat → Event → Prop}
    (run : Reaches (server site) permits' (Config.start start) before)
    (answers : Answers (server site) permits before after thread event) :
    ∃ attempt, requestOf before thread = some attempt ∧
      allowed site attempt (before.trace thread) event.1 := by
  obtain ⟨attempt, next, running⟩ := answers.running
  refine ⟨attempt, ?_, (run.disciplined (server_obeys site) start).allows running⟩
  rw [requestOf, running]
  rfl

theorem keys_of_joined {attempt : Attempt} (isRequest : requestOf before thread = some attempt)
    (isJoined : joined site email first before thread = true) :
    attempt.failures site = accountFailures site email ∧
      attempt.cooldown site = accountCooldown site email := by
  rw [joined, isRequest, Option.any_some, Bool.and_eq_true] at isJoined
  have sameAccount := eq_of_beq isJoined.2
  unfold Attempt.failures Attempt.cooldown accountFailures accountCooldown failuresKey cooldownKey
  rw [sameAccount]
  exact ⟨rfl, rfl⟩

/-- An attempt that has got to the login service has been let through. -/
theorem admitted_of_entered (run : Reaches (server site) anyCall (Config.start start) before)
    {running : Thread Attempt Reply Failure Response}
    (present : before.threads[thread]? = some running)
    (inside : entered (before.trace thread) = true) :
    AdmittedByCount site running.request (before.trace thread) ∨
      AdmittedBySlot site running.request (before.trace thread) := by
  refine run.traces (server_obeys site) (fun attempt trace => entered trace = true →
    AdmittedByCount site attempt trace ∨ AdmittedBySlot site attempt trace) ?_ ?_ present inside
  · intro attempt absurdity
    cases absurdity
  · intro attempt trace event allows admitted inside
    have earlier : AdmittedByCount site attempt trace ∨ AdmittedBySlot site attempt trace := by
      by_cases before : entered trace = true
      · exact admitted before
      · obtain ⟨call, reply⟩ := event
        cases call with
        | getByEmail email => exact allows.2
        | _ => exact absurd inside before
    exact earlier.imp AdmittedByCount.cons AdmittedBySlot.cons

/-- An attempt verifies its password with a slot, or on a count below the threshold. -/
theorem admitted_at (run : Reaches (server site) anyCall (Config.start start) before)
    {thread : Nat} {event : Event} (answers : Answers (server site) permits before after thread event)
    (isVerification : isVerified event = true)
    (isJoined : joined site email first before thread = true) :
    (before.trace thread).any isSlot = true ∨ ∃ count : Option Nat,
      ⟨.valkey (.get (accountFailures site email)), .done count⟩ ∈ before.trace thread ∧
        count.all (· < site.settings.loginAccountFailureThreshold) = true := by
  obtain ⟨attempt, isRequest, allows⟩ := allowed_at run answers
  have inside : entered (before.trace thread) = true := by
    obtain ⟨call, reply⟩ := event
    cases call with
    | verifyPassword password hashed => exact allows.1
    | _ => cases isVerification
  obtain ⟨request, next, running⟩ := answers.running
  obtain rfl : request = attempt := by
    simpa [requestOf, running] using isRequest
  have sameFailures := (keys_of_joined isRequest isJoined).1
  rcases admitted_of_entered run running inside with ⟨count, isRead, below⟩ | slot
  · rw [sameFailures] at isRead
    exact Or.inr ⟨count, isRead, below⟩
  · exact Or.inl (List.any_eq_true.mpr ⟨_, slot, rfl⟩)

end Admission

section Counting

variable {site : Site} {email : String} {first : Nat} {before after : Server}
variable {permits : Server → Nat → Event → Prop} {start : Store}

theorem failureCount_mono (step : Step (server site) permits before after)
    (stays : before.state.valkey.find (accountFailures site email) ≠ none →
      after.state.valkey.find (accountFailures site email) ≠ none) :
    failureCount site email before ≤ failureCount site email after := by
  unfold failureCount
  cases found : before.state.valkey.find (accountFailures site email) with
  | none => exact Nat.zero_le _
  | some old =>
    obtain ⟨entry, present⟩ := Option.ne_none_iff_exists'.mp (stays (by rw [found]; simp))
    rw [present]
    exact step_count (step.weaken fun _ _ _ _ => trivial) found present

/-- Every attempt that has been counted raises the count. -/
theorem counted_step (step : Step (server site) permits before after)
    (attributed : before.Attributed)
    (stays : before.state.valkey.find (accountFailures site email) ≠ none →
      after.state.valkey.find (accountFailures site email) ≠ none)
    (few : (counted site email first before).card ≤ failureCount site email before) :
    (counted site email first after).card ≤ failureCount site email after := by
  have grows := failureCount_mono step stays
  by_cases counts : ∃ thread event, Answers (server site) permits before after thread event ∧
      isCounted (accountFailures site email) event = true
  · obtain ⟨thread, ⟨call, reply⟩, answers, isCount⟩ := counts
    have raised : failureCount site email after = failureCount site email before + 1 := by
      cases call with
      | valkey command =>
        cases command with
        | incr key =>
          obtain ⟨isKey, isCommitted⟩ := Bool.and_eq_true_iff.mp isCount
          obtain rfl := eq_of_beq isKey
          obtain ⟨count, committed⟩ := Option.isSome_iff_exists.mp isCommitted
          have possible : (reply, after.state) ∈ outcomes site thread
              (.valkey (.incr (accountFailures site email))) before.state := answers.possible
          obtain ⟨⟨entry, present, rfl⟩, isNext⟩ :=
            incr_committed (valkey_outcome possible).1 committed
          rw [failureCount, present]
          exact isNext
        | _ => cases isCount
      | _ => cases isCount
    have added : (counted site email first after).card ≤ (counted site email first before).card + 1 :=
      card_attempts_step step attributed rfl
    omega
  · refine (Finset.card_le_card ?_).trans (few.trans grows)
    refine attempts_step_subset step attributed rfl fun thread event answers _ holds => ?_
    rw [List.any_cons, Bool.or_eq_true] at holds
    rcases holds with isCount | old
    · exact absurd ⟨thread, event, answers, isCount⟩ counts
    · exact old

/-- Below the threshold no more passwords are verified than the threshold. -/
theorem unslotted_step (run : Reaches (server site) anyCall (Config.start start) before)
    (step : Step (server site) (Paced site email first) before after)
    (few : (counted site email first before).card ≤ failureCount site email before)
    (bound : (unslotted site email first before).card ≤
      site.settings.loginAccountFailureThreshold) :
    (unslotted site email first after).card ≤ site.settings.loginAccountFailureThreshold := by
  have attributed := run.attributed (Config.attributed_start start)
  by_cases verifies : ∃ thread event,
      Answers (server site) (Paced site email first) before after thread event ∧
        isVerified event = true ∧ joined site email first before thread = true ∧
          (before.trace thread).any isSlot = false
  · obtain ⟨thread, event, answers, isVerification, isJoined, untaken⟩ := verifies
    have below : failureCount site email before + (pending site email first before).card <
        site.settings.loginAccountFailureThreshold := by
      rcases admitted_at run answers isVerification isJoined with taken | ⟨count, isRead, admits⟩
      · rw [untaken] at taken
        cases taken
      · have fresh := answers.permitted.fresh isVerification isJoined count isRead admits
        unfold unseen at fresh
        omega
    have split : unslotted site email first before ⊆
        counted site email first before ∪ pending site email first before := by
      intro thread member
      obtain ⟨begun, isJoined, holds⟩ := mem_attempts.mp member
      rw [Finset.mem_union]
      cases isOld : (before.trace thread).any (isCounted (accountFailures site email)) with
      | true => exact Or.inl (mem_attempts.mpr ⟨begun, isJoined, isOld⟩)
      | false => exact Or.inr (mem_attempts.mpr ⟨begun, isJoined, by rw [holds, isOld]; rfl⟩)
    have parts := (Finset.card_le_card split).trans (Finset.card_union_le _ _)
    have added : (unslotted site email first after).card ≤
        (unslotted site email first before).card + 1 := card_attempts_step step attributed rfl
    omega
  · refine (Finset.card_le_card ?_).trans bound
    refine attempts_step_subset step attributed rfl fun thread event answers isJoined holds => ?_
    simp only [List.any_cons, Bool.not_or, Bool.and_eq_true, Bool.or_eq_true,
      Bool.not_eq_true'] at holds ⊢
    obtain ⟨isVerification | old, -, untaken⟩ := holds
    · exact absurd ⟨thread, event, answers, isVerification, isJoined, untaken⟩ verifies
    · exact ⟨old, untaken⟩

end Counting

/-! ## The slots of the cool-down -/

/-- The attempts that have found a count of failures. -/
def readers (site : Site) (email : String) (first : Nat) (config : Server) : Finset Nat :=
  attempts site email first config (·.any (readsCount (accountFailures site email)))

/-- The attempts that have taken a slot. -/
def slots (site : Site) (email : String) (first : Nat) (config : Server) : Finset Nat :=
  attempts site email first config (·.any isSlot)

def period (site : Site) : Nat :=
  site.settings.loginAccountCooldownSeconds * millisPerSecond

/-- The slots taken are a period apart, and none is free before the last one's has passed. -/
def Spaced (site : Site) (email : String) (since taken : Nat) (valkey : Valkey) : Prop :=
  taken = 0 ∨ 0 < period site ∧ ∃ free, taken * period site + since ≤ free ∧
    free ≤ valkey.now + period site ∧
      (valkey.now < free → ∃ count, valkey.find (accountCooldown site email) =
        some ⟨count, some free⟩)

section Slots

variable {site : Site} {email : String} {since taken taken' : Nat} {valkey valkey' : Valkey}

theorem find_elapse_of_lives {key : String} {entry : Entry} (millis : Nat)
    (present : valkey.find key = some entry) (lives : entry.lives (valkey.now + millis) = true) :
    (elapse millis valkey).find key = some entry := by
  rw [Valkey.find, Option.filter_eq_some_iff] at present ⊢
  exact ⟨present.1, lives⟩

theorem Spaced.fewer (spaced : Spaced site email since taken valkey) (fewer : taken' ≤ taken) :
    Spaced site email since taken' valkey := by
  rcases spaced with none | ⟨positive, free, spread, soon, held⟩
  · exact Or.inl (by omega)
  · have lower := Nat.mul_le_mul_right (period site) fewer
    exact Or.inr ⟨positive, free, by omega, soon, held⟩

theorem Spaced.elapse (spaced : Spaced site email since taken valkey) (millis : Nat) :
    Spaced site email since taken (Security.elapse millis valkey) := by
  rcases spaced with none | ⟨positive, free, spread, soon, held⟩
  · exact Or.inl none
  · have isNow : (Security.elapse millis valkey).now = valkey.now + millis := rfl
    refine Or.inr ⟨positive, free, spread, by omega, fun early => ?_⟩
    obtain ⟨count, present⟩ := held (by omega)
    refine ⟨count, find_elapse_of_lives millis present ?_⟩
    rw [isNow] at early
    exact decide_eq_true early

theorem Spaced.same (spaced : Spaced site email since taken valkey)
    (sameNow : valkey'.now = valkey.now)
    (sameKey : valkey'.find (accountCooldown site email) =
      valkey.find (accountCooldown site email)) : Spaced site email since taken valkey' := by
  rw [Spaced, sameNow, sameKey]
  exact spaced

/-- A slot is taken only when the one before has passed. -/
theorem Spaced.take (spaced : Spaced site email since taken valkey)
    (sameNow : valkey'.now = valkey.now)
    (absent : valkey.find (accountCooldown site email) = none)
    (taking : valkey'.find (accountCooldown site email) =
      (some ⟨1, some (valkey.deadlineIn site.settings.loginAccountCooldownSeconds)⟩ :
        Option Entry).filter (Entry.lives valkey.now))
    (added : taken' = taken ∨ taken' = taken + 1 ∧ 0 < period site ∧ since ≤ valkey.now) :
    Spaced site email since taken' valkey' := by
  have isDeadline : valkey.deadlineIn site.settings.loginAccountCooldownSeconds =
      valkey.now + period site := rfl
  have held (early : valkey'.now < valkey.now + period site) :
      ∃ count, valkey'.find (accountCooldown site email) =
        some ⟨count, some (valkey.now + period site)⟩ := by
    refine ⟨1, ?_⟩
    rw [taking, isDeadline, Option.filter_eq_some_iff]
    rw [sameNow] at early
    exact ⟨rfl, decide_eq_true early⟩
  have passed {free : Nat} (held : valkey.now < free → ∃ count,
      valkey.find (accountCooldown site email) = some ⟨count, some free⟩) : free ≤ valkey.now := by
    by_contra early
    obtain ⟨count, present⟩ := held (Nat.lt_of_not_le early)
    rw [absent] at present
    cases present
  rcases spaced with rfl | ⟨positive, free, spread, -, before⟩
  · rcases added with none | ⟨one, positive, begun⟩
    · exact Or.inl none
    · refine Or.inr ⟨positive, valkey.now + period site, ?_, by omega, held⟩
      rw [one]
      omega
  · have isPast := passed before
    refine Or.inr ⟨positive, valkey.now + period site, ?_, by omega, held⟩
    rcases added with same | ⟨one, -, -⟩
    · rw [same]
      omega
    · rw [one, Nat.succ_mul]
      omega

/-- A slot that is taken was free. -/
theorem setNx_taken {thread : Nat} {key : String} {seconds : Nat} {before after : Valkey}
    (possible : ((.done true : Security.Reply (.setNx key seconds)), after) ∈
      Security.outcomes thread (.setNx key seconds) before) :
    0 < seconds ∧ before.find key = none ∧
      after.find key = (some ⟨1, some (before.deadlineIn seconds)⟩ : Option Entry).filter
        (Entry.lives before.now) := by
  simp only [Security.outcomes] at possible
  split at possible
  · cases (Prod.mk.inj (List.mem_singleton.mp possible)).1
  · rename_i positive
    split at possible
    · rcases written_cases possible with ⟨taken, -⟩ | ⟨taken, -⟩ <;> cases taken
    · rename_i free
      rcases written_cases possible with ⟨-, put⟩ | ⟨taken, -⟩
      · exact ⟨Nat.pos_of_ne_zero positive, by simpa using free, by rw [put, find_put_self]⟩
      · cases taken

/-- There are as many slots as periods since the count began, and one. -/
theorem Spaced.bound (spaced : Spaced site email since taken valkey) :
    taken ≤ (valkey.now - since) / period site + 1 := by
  rcases spaced with rfl | ⟨positive, free, spread, soon, -⟩
  · exact Nat.zero_le _
  · cases taken with
    | zero => exact Nat.zero_le _
    | succ earlier =>
      rw [Nat.succ_mul] at spread
      have within : earlier ≤ (valkey.now - since) / period site :=
        (Nat.le_div_iff_mul_le positive).mpr (by omega)
      exact Nat.succ_le_succ within

end Slots

section Steps

variable {site : Site} {email : String} {first since : Nat} {before after : Server} {thread : Nat}
variable {permits : Server → Nat → Event → Prop} {start : Store} {event : Event}

theorem outcome_now {call : Call} {reply : Reply call} {store store' : Store}
    (possible : (reply, store') ∈ outcomes site thread call store) :
    store'.valkey.now = store.valkey.now := by
  by_cases isValkey : ∃ command, call = .valkey command
  · obtain ⟨command, rfl⟩ := isValkey
    exact outcomes_now (valkey_outcome possible).1
  · rw [other_outcome (fun command same => isValkey ⟨command, same⟩) possible]

theorem step_now (step : Step (server site) permits before after) :
    before.state.valkey.now ≤ after.state.valkey.now := by
  rcases step.cases_answers with ⟨-, same | ⟨disturbance, changed⟩⟩ | ⟨thread, event, answers⟩
  · rw [same]
  · rw [changed]
    cases disturbance with
    | elapse millis => exact Nat.le_add_right _ _
    | changeAccounts accounts => exact Nat.le_refl _
  · exact (outcome_now answers.possible).ge

/-- A count is found only once there is one. -/
theorem readers_step (step : Step (server site) permits before after)
    (attributed : before.Attributed)
    (begun : after.state.valkey.find (accountFailures site email) ≠ none →
      since ≤ after.state.valkey.now)
    (seen : ∀ thread ∈ readers site email first before, since ≤ before.state.valkey.now) :
    ∀ thread ∈ readers site email first after, since ≤ after.state.valkey.now := by
  intro thread member
  rcases mem_attempts_step step attributed rfl member with
    old | ⟨⟨call, reply⟩, answers, isJoined, holds⟩
  · exact (seen thread old).trans (step_now step)
  · rw [List.any_cons, Bool.or_eq_true] at holds
    rcases holds with reads | old
    · apply begun
      cases call with
      | valkey command =>
        cases command with
        | get key =>
          have possible : (reply, after.state) ∈ outcomes site thread (.valkey (.get key))
              before.state := answers.possible
          have inner := (valkey_outcome possible).1
          cases reply with
          | done count =>
            obtain ⟨isKey, isSome⟩ := Bool.and_eq_true_iff.mp reads
            obtain rfl := eq_of_beq isKey
            rcases written_cases inner with ⟨isCount, same⟩ | ⟨isNone, -⟩
            · rw [same]
              intro absent
              obtain rfl := Option.some.inj isCount
              rw [absent] at isSome
              cases isSome
            · cases isNone
          | _ => cases reads
        | _ => cases reads
      | _ => cases reads
    · obtain ⟨request, next, running⟩ := answers.running
      have earlier : thread ∈ readers site email first before :=
        mem_attempts.mpr ⟨(List.getElem?_eq_some_iff.mp running).1, isJoined, old⟩
      exact (seen thread earlier).trans (step_now step)

/-- The step at which an attempt on the account takes a slot. -/
theorem Spaced.slot {permits' : Server → Nat → Event → Prop}
    (run : Reaches (server site) permits' (Config.start start) before)
    (seen : ∀ thread ∈ readers site email first before, since ≤ before.state.valkey.now)
    (spaced : Spaced site email since (slots site email first before).card before.state.valkey)
    (answers : Answers (server site) permits before after thread event)
    (taken : isSlot event = true) (isJoined : joined site email first before thread = true) :
    Spaced site email since ((slots site email first before).card + 1) after.state.valkey := by
  obtain ⟨attempt, isRequest, allows⟩ := allowed_at run answers
  obtain ⟨isFailures, isCooldown⟩ := keys_of_joined isRequest isJoined
  obtain ⟨call, reply⟩ := event
  cases call with
  | valkey command =>
    cases command with
    | setNx key seconds =>
      obtain ⟨-, isKey, rfl, count, isRead⟩ := allows
      obtain rfl := isKey.trans isCooldown
      have possible : (reply, after.state) ∈ outcomes site thread (.valkey (.setNx
        (accountCooldown site email) site.settings.loginAccountCooldownSeconds)) before.state :=
          answers.possible
      cases reply with
      | done value =>
        obtain rfl : value = true := taken
        obtain ⟨positive, absent, put⟩ := setNx_taken (valkey_outcome possible).1
        obtain ⟨request, next, running⟩ := answers.running
        have isReader : thread ∈ readers site email first before := by
          refine mem_attempts.mpr ⟨(List.getElem?_eq_some_iff.mp running).1, isJoined, ?_⟩
          refine List.any_eq_true.mpr ⟨_, isRead, ?_⟩
          rw [isFailures]
          simp [readsCount]
        exact spaced.take (outcome_now possible) absent put
          (Or.inr ⟨rfl, Nat.mul_pos positive (by decide), seen thread isReader⟩)
      | _ => cases taken
    | _ => cases taken
  | _ => cases taken

/-- Any other step leaves the slots as they are. -/
theorem Spaced.keep {permits' : Server → Nat → Event → Prop} {taken : Nat}
    (run : Reaches (server site) permits' (Config.start start) before)
    (spaced : Spaced site email since taken before.state.valkey)
    (answers : Answers (server site) permits before after thread event)
    (unreset : Unreset site email before thread event) :
    Spaced site email since taken after.state.valkey := by
  obtain ⟨attempt, isRequest, allows⟩ := allowed_at run answers
  obtain ⟨call, reply⟩ := event
  have possible : (reply, after.state) ∈ outcomes site thread call before.state := answers.possible
  by_cases isValkey : ∃ command, call = .valkey command
  · obtain ⟨command, rfl⟩ := isValkey
    have counts (isCounter : accountCooldown site email = attempt.failures site ∨
        accountCooldown site email = attempt.lock site) : False := by
      rcases isCounter with same | same
      · exact failuresKey_ne_cooldownKey _ _ _ same.symm
      · exact lockKey_ne_cooldownKey _ _ _ same.symm
    rcases outcomes_effect (valkey_outcome possible).1 (accountCooldown site email) with
      ⟨same, -⟩ | ⟨rfl, -⟩ | ⟨seconds, rfl, -⟩ | ⟨keys, rfl, isKey, -⟩ | ⟨seconds, rfl, absent, put⟩
    · exact spaced.same (outcome_now possible) same
    · exact (counts (allows.2.imp id And.left)).elim
    · exact (counts (allows.2.imp id And.left)).elim
    · exact absurd isKey (unreset keys rfl)
    · obtain ⟨-, -, rfl, -⟩ := allows
      exact spaced.take (outcome_now possible) absent put (Or.inl rfl)
  · rw [other_outcome (fun command same => isValkey ⟨command, same⟩) possible]
    exact spaced

theorem slots_step {permits' : Server → Nat → Event → Prop}
    (run : Reaches (server site) permits' (Config.start start) before)
    (step : Step (server site) permits before after)
    (unreset : ∀ thread event, permits before thread event →
      Unreset site email before thread event)
    (seen : ∀ thread ∈ readers site email first before, since ≤ before.state.valkey.now)
    (spaced : Spaced site email since (slots site email first before).card before.state.valkey) :
    Spaced site email since (slots site email first after).card after.state.valkey := by
  have attributed := run.attributed (Config.attributed_start start)
  by_cases takes : ∃ thread event, Answers (server site) permits before after thread event ∧
      isSlot event = true ∧ joined site email first before thread = true
  · obtain ⟨thread, event, answers, taken, isJoined⟩ := takes
    refine (spaced.slot run seen answers taken isJoined).fewer ?_
    exact card_attempts_step step attributed rfl
  · have noMore : (slots site email first after).card ≤ (slots site email first before).card := by
      refine Finset.card_le_card ?_
      refine attempts_step_subset step attributed rfl fun thread event answers isJoined holds => ?_
      rw [List.any_cons, Bool.or_eq_true] at holds
      rcases holds with taken | old
      · exact absurd ⟨thread, event, answers, taken, isJoined⟩ takes
      · exact old
    refine Spaced.fewer ?_ noMore
    rcases step.cases_answers with ⟨-, same | ⟨disturbance, changed⟩⟩ | ⟨thread, event, answers⟩
    · rw [same]
      exact spaced
    · rw [changed]
      cases disturbance with
      | elapse millis => exact spaced.elapse millis
      | changeAccounts accounts => exact spaced
    · exact spaced.keep run answers (unreset thread event answers.permitted)

end Steps

/-! ## The bound -/

section Runs

variable {site : Site} {start : Store} {before after : Server} {email : String} {since : Nat}
variable {permits : Server → Nat → Event → Prop}

theorem BrakeLifetime.reaches (life : BrakeLifetime site email since permits before after) :
    Reaches (server site) permits before after :=
  Relation.ReflTransGen.mono (fun _ _ step => step.1) _ _ life

/-- What a lifetime keeps of its attempts. -/
structure Braked (site : Site) (email : String) (first since : Nat) (config : Server) : Prop where
  seen : ∀ thread ∈ readers site email first config, since ≤ config.state.valkey.now
  raised : (counted site email first config).card ≤ failureCount site email config
  below : (unslotted site email first config).card ≤ site.settings.loginAccountFailureThreshold
  spaced : Spaced site email since (slots site email first config).card config.state.valkey

theorem attempts_at_start (site : Site) (email : String) (config : Server)
    (check : List Event → Bool) :
    attempts site email config.threads.length config check = ∅ := by
  refine Finset.eq_empty_of_forall_notMem fun thread member => ?_
  obtain ⟨begun, isJoined, -⟩ := mem_attempts.mp member
  rw [joined, Bool.and_eq_true, decide_eq_true_eq] at isJoined
  omega

theorem BrakeLifetime.braked
    (run : Reaches (server site) anyCall (Config.start start) before)
    (life : BrakeLifetime site email since (Paced site email before.threads.length) before after) :
    Braked site email before.threads.length since after := by
  induction life with
  | refl =>
    have none := attempts_at_start site email before
    constructor
    · intro thread member
      rw [readers, none] at member
      cases member
    · rw [counted, none]
      exact Nat.zero_le _
    · rw [unslotted, none]
      exact Nat.zero_le _
    · rw [slots, none]
      exact Or.inl rfl
  | @tail middle last earlier step ih =>
    obtain ⟨step, stays, begun⟩ := step
    have whole : Reaches (server site) anyCall (Config.start start) middle :=
      run.trans (BrakeLifetime.reaches earlier).toAny
    have attributed := whole.attributed (Config.attributed_start start)
    exact ⟨readers_step step attributed begun ih.seen, counted_step step attributed stays ih.raised,
      unslotted_step whole step ih.raised ih.below,
      slots_step whole step (fun _ _ permitted => permitted.unreset) ih.seen ih.spaced⟩

/-- Within a lifetime of the account's count in which no password is verified on a count that has
grown too old, no more passwords are verified than the threshold, one for each cool-down period,
and one. -/
theorem account_brake_bound (site : Site) (start : Store)
    (run : Reaches (server site) anyCall (Config.start start) before) (email : String)
    (life : BrakeLifetime site email since (Paced site email before.threads.length) before after) :
    (verifiedAttempts site email before.threads.length after).card ≤
      site.settings.loginAccountFailureThreshold +
        (after.state.valkey.now - since) / period site + 1 := by
  have braked := life.braked run
  have split : verifiedAttempts site email before.threads.length after ⊆
      unslotted site email before.threads.length after ∪
        slots site email before.threads.length after := by
    intro thread member
    obtain ⟨begun, isJoined, isVerified⟩ := mem_attempts.mp member
    rw [Finset.mem_union]
    cases taken : (after.trace thread).any isSlot with
    | true => exact Or.inr (mem_attempts.mpr ⟨begun, isJoined, taken⟩)
    | false => exact Or.inl (mem_attempts.mpr ⟨begun, isJoined, by rw [isVerified, taken]; rfl⟩)
  have parts := (Finset.card_le_card split).trans (Finset.card_union_le _ _)
  have few := braked.below
  have slotted := braked.spaced.bound
  omega

end Runs

/-! ## Five guesses in a burst -/

def brakeSite : Site :=
  { plainSite with
    settings := { plainSettings with
      loginAccountFailureThreshold := 2
      loginAccountFailureWindowSeconds := 60
      loginAccountCooldownSeconds := 60 }
    maxFailedLoginAttemptsPerIp := 5 }

def guessFrom (clientIp : String) : Attempt :=
  ⟨"ann@example.org", "wrong", clientIp⟩

/-- The check of a step of a lifetime, with a check of what it answers. -/
def lifetimeCheck (site : Site) (email : String) (since : Nat)
    (permits : Server → Nat → Event → Bool) (before after : Server) : Bool :=
  ((after.history.take (after.history.length - before.history.length)).all fun entry =>
      permits before entry.1 entry.2) &&
    keepsKey (accountFailures site email) before after &&
    ((after.state.valkey.find (accountFailures site email)).isNone ||
      decide (since ≤ after.state.valkey.now))

theorem lifetime_of_checks (site : Site) (email : String) (since : Nat)
    {permits : Server → Nat → Event → Prop} (check : Server → Nat → Event → Bool)
    (checked : ∀ config thread event, check config thread event = true →
      permits config thread event) (store : Store) (moves : List (Move Attempt Disturbance))
    (passed : (Config.start store).steps (server site) (lifetimeCheck site email since check)
      moves = true) :
    BrakeLifetime site email since permits (Config.start store)
      ((Config.start store).follow (server site) moves) := by
  refine Config.follow_steps (server site) (lifetimeCheck site email since check) ?_ _ _ passed
  intro before after step holds
  simp only [lifetimeCheck, Bool.and_eq_true] at holds
  obtain ⟨⟨answered, kept⟩, begun⟩ := holds
  refine ⟨step.permitted fun entry recorded => checked _ _ _ ?_, fun present absent => present ?_,
    fun present => ?_⟩
  · rw [recorded, List.length_cons, Nat.add_sub_cancel_left] at answered
    exact List.all_eq_true.mp answered entry List.mem_cons_self
  · rw [keepsKey, absent, Option.isSome_none, Bool.or_false] at kept
    exact Option.isNone_iff_eq_none.mp kept
  · rcases Bool.or_eq_true_iff.mp begun with absent | late
    · exact absurd (Option.isNone_iff_eq_none.mp absent) present
    · exact of_decide_eq_true late

def unresetCheck (site : Site) (email : String) (event : Event) : Bool :=
  match event.1 with
  | .valkey (.delete keys) => !keys.contains (accountCooldown site email)
  | _ => true

theorem unreset_of_check (site : Site) (email : String) (config : Server) (thread : Nat)
    (event : Event) (passed : unresetCheck site email event = true) :
    Unreset site email config thread event := by
  intro keys isDelete isKey
  rw [unresetCheck, isDelete] at passed
  simp [isKey] at passed

/-- The count that has let an attempt through is not too old. -/
def freshRead (site : Site) (email : String) (first : Nat) (config : Server) (event : Event) :
    Bool :=
  match event with
  | ⟨.valkey (.get key), .done count⟩ => key != accountFailures site email ||
      !count.all (· < site.settings.loginAccountFailureThreshold) ||
      decide (count.getD 0 + unseen site email first config (count.getD 0) <
        site.settings.loginAccountFailureThreshold)
  | _ => true

def pacedCheck (site : Site) (email : String) (first : Nat) (config : Server) (thread : Nat)
    (event : Event) : Bool :=
  unresetCheck site email event &&
    (!isVerified event || (config.trace thread).all (freshRead site email first config))

theorem paced_of_check (site : Site) (email : String) (first : Nat) (config : Server)
    (thread : Nat) (event : Event) (passed : pacedCheck site email first config thread event = true) :
    Paced site email first config thread event := by
  simp only [pacedCheck, Bool.and_eq_true, Bool.or_eq_true, Bool.not_eq_true'] at passed
  obtain ⟨unreset, unverified | fresh⟩ := passed
  · refine ⟨unreset_of_check site email config thread event unreset, fun isVerified => ?_⟩
    rw [unverified] at isVerified
    cases isVerified
  · refine ⟨unreset_of_check site email config thread event unreset, ?_⟩
    intro _ _ count isRead admits
    have checked := List.all_eq_true.mp fresh _ isRead
    simpa [freshRead, admits] using checked

/-- Two failures at once, one attempt that takes the slot, and one that is refused. -/
def guessesByTwos : List (Move Attempt Disturbance) :=
  .begin (guessFrom "203.0.113.1") :: Move.turns 0 4 ++
    .begin (guessFrom "203.0.113.2") :: Move.turns 1 4 ++
    Move.turns 0 5 ++ Move.turns 1 6 ++
    .begin (guessFrom "203.0.113.3") :: Move.turns 2 9 ++
    .begin (guessFrom "203.0.113.4") :: Move.turns 3 4

theorem account_brake_bound_by_twos :
    (verifiedAttempts brakeSite "ann@example.org" 0
      ((Config.start oneAccount).follow (server brakeSite) guessesByTwos)).card = 3 ∧
      (verifiedAttempts brakeSite "ann@example.org" 0
        ((Config.start oneAccount).follow (server brakeSite) guessesByTwos)).card ≤ 2 + 0 + 1 := by
  refine ⟨by decide +kernel, ?_⟩
  exact account_brake_bound brakeSite oneAccount .refl "ann@example.org"
    (lifetime_of_checks brakeSite "ann@example.org" 0 (pacedCheck brakeSite "ann@example.org" 0)
      (paced_of_check brakeSite "ann@example.org" 0) _ _ (by decide +kernel))

/-- Five attempts from five addresses are verified before the first failure is counted. -/
def guessesAtOnce : List (Move Attempt Disturbance) :=
  .begin (guessFrom "203.0.113.1") :: Move.turns 0 4 ++
    .begin (guessFrom "203.0.113.2") :: Move.turns 1 4 ++
    .begin (guessFrom "203.0.113.3") :: Move.turns 2 4 ++
    .begin (guessFrom "203.0.113.4") :: Move.turns 3 4 ++
    .begin (guessFrom "203.0.113.5") :: Move.turns 4 4 ++
    Move.turns 0 5 ++ Move.turns 1 6 ++ Move.turns 2 4 ++ Move.turns 3 4 ++ Move.turns 4 4

def burstCounted : Server :=
  (Config.start oneAccount).follow (server brakeSite) guessesAtOnce

/-- Nobody has signed in, the count has not expired, and more passwords have been verified than
the threshold, one for the single cool-down period of the window, and one. -/
theorem burst_exceeds_brake :
    BrakeLifetime brakeSite "ann@example.org" 0 (Unreset brakeSite "ann@example.org")
        (Config.start oneAccount) burstCounted ∧
      burstCounted.state.valkey.find (accountFailures brakeSite "ann@example.org") =
        some ⟨5, some 60000⟩ ∧
      (verifiedAttempts brakeSite "ann@example.org" 0 burstCounted).card = 5 ∧
      ¬ (verifiedAttempts brakeSite "ann@example.org" 0 burstCounted).card ≤
        brakeSite.settings.loginAccountFailureThreshold +
          brakeSite.settings.loginAccountFailureWindowSeconds /
            brakeSite.settings.loginAccountCooldownSeconds + 1 := by
  have exceeds : (verifiedAttempts brakeSite "ann@example.org" 0 burstCounted).card = 5 := by
    decide +kernel
  refine ⟨?_, by decide +kernel, exceeds, by rw [exceeds]; decide⟩
  exact lifetime_of_checks brakeSite "ann@example.org" 0
    (fun _ _ event => unresetCheck brakeSite "ann@example.org" event)
    (unreset_of_check brakeSite "ann@example.org") _ _ (by decide +kernel)

end MysticAuth.Login
