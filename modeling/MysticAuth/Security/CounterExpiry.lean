import MysticAuth.Security.Counters

/-!
# Counters expire

A counter has no deadline from the `INCR` that creates it to the `EXPIRE` of
the request that sent it.  If that command is never carried out, no later
request sets one, since only a count of one is followed by an `EXPIRE`.
-/

set_option autoImplicit false

namespace MysticAuth.Security

open Interleaving

/-! ## Windows -/

/-- The keys that a request sets, each with the window it sets there. -/
def windows (settings : Settings) : Request → List (String × Nat)
  | .rateLimited endpointName ipAddress accountValue _ windowSeconds =>
      let window := windowSeconds.getD settings.requestWindowSeconds
      let keys := ipKey endpointName ipAddress ::
        (accountValue.map (accountKey settings endpointName)).toList
      (keys ++ keys.map auditedKey).map fun key => (key, window)
  | .recordRequest key _ windowSeconds =>
      [(key, windowSeconds.getD settings.requestWindowSeconds)]
  | .recordFailedAttempt key lockoutTime => [(key, lockoutTime)]
  | .checkAndRecordAction key _ _ lockoutTime => [(key, lockoutTime)]
  | .beginProtectedAction key => [(reservationKey key, settings.actionReservationTime)]
  | .finishProtectedAction key _ => [(key, settings.loginLockoutTime)]
  | .cooldownRemainingSeconds email =>
      [(cooldownKey settings email, settings.loginAccountCooldownSeconds)]
  | .recordFailure email =>
      [(failuresKey settings email, settings.loginAccountFailureWindowSeconds)]
  | .shouldSend eventType digest =>
      (alertRateKey eventType, alertWindowSeconds) ::
        (digest.map fun digest => (dedupeKey eventType digest, alertDedupeSeconds)).toList
  | .resetCounter _ | .isLocked _ _ | .resetFailedAttempts _ | .getRemainingSeconds _
  | .releaseProtectedAction _ | .reset _ => []

/-- The window a command sets. -/
def Call.sets : Call → Option (String × Nat)
  | .expire key seconds | .setNx key seconds => some (key, seconds)
  | _ => none

/-- The key that a request has just created without a deadline. -/
def created : List Event → Option String
  | ⟨.incr key, .done 1⟩ :: _ => some key
  | _ => none

/-- A request sets only its own windows; it sends `EXPIRE` after the `INCR` that created the key,
and nothing else there. -/
def discipline (settings : Settings) (request : Request) : Discipline Reply where
  allows trace call :=
    (∀ window, call.sets = some window → window ∈ windows settings request) ∧
      ∀ key, created trace = some key ↔ ∃ seconds, call = .expire key seconds
  answers _ _ := True

section Services

variable {settings : Settings} {request : Request} {α β : Type}

/-- What starts with nothing just created ends so. -/
def Settles (settings : Settings) (request : Request) (service : Service α) : Prop :=
  ∀ trace, created trace = none →
    service.Meets (discipline settings request) (fun _ later => created later = none) trace

theorem Settles.pure (value : α) : Settles settings request (Pure.pure value : Service α) :=
  fun _ settled => settled

theorem Settles.throw (failure : Failure) :
    Settles settings request (MonadExcept.throw failure : Service α) :=
  fun _ settled => settled

theorem Settles.bind {body : Service α} {rest : α → Service β}
    (first : Settles settings request body) (next : ∀ value, Settles settings request (rest value)) :
    Settles settings request (body >>= rest) := by
  intro trace settled
  rw [Program.meets_bind]
  refine (first trace settled).mono fun result later _ settled' => ?_
  cases result with
  | ok value => exact next value later settled'
  | error failure => exact settled'

theorem Settles.tryCatch {body : Service α} {handler : Failure → Service α}
    (inside : Settles settings request body)
    (caught : ∀ failure, Settles settings request (handler failure)) :
    Settles settings request (MonadExcept.tryCatch body handler) := by
  intro trace settled
  rw [Program.meets_tryCatch]
  refine (inside trace settled).mono fun result later _ settled' => ?_
  cases result with
  | ok value => exact settled'
  | error failure => exact caught failure later settled'

theorem Settles.finally {body : Service α} {cleanup : Service Unit}
    (inside : Settles settings request body) (after : Settles settings request cleanup) :
    Settles settings request (body.finally cleanup) := by
  intro trace settled
  rw [Program.meets_finally]
  apply (inside trace settled).mono
  intro result later _ settled'
  exact after later settled'

theorem Settles.exceptReturn {body : Service α} (inside : Settles settings request body)
    (value : α) : Settles settings request (exceptReturn body value) :=
  inside.tryCatch fun _ => .pure value

theorem Settles.orUnavailable {body : Service α} (inside : Settles settings request body) :
    Settles settings request (orUnavailable body) :=
  inside.tryCatch fun _ => .throw .serviceUnavailable

/-- A command that neither counts nor sends `EXPIRE`. -/
theorem Settles.other {call : Call} (isOther : ∀ key, call ≠ .incr key)
    (keeps : ∀ key seconds, call ≠ .expire key seconds)
    (windowed : ∀ window, call.sets = some window → window ∈ windows settings request) :
    Settles settings request (execute call) := by
  intro trace settled
  rw [execute, Program.meets_attempt]
  refine ⟨⟨windowed, fun key => ?_⟩, fun reply _ => ?_⟩
  · rw [settled]
    constructor
    · intro same
      cases same
    · rintro ⟨seconds, same⟩
      exact absurd same (keeps key seconds)
  · cases call with
    | incr key => exact absurd rfl (isOther key)
    | _ => rfl

theorem Settles.countUp {key : String} {windowSeconds : Nat}
    (windowed : (key, windowSeconds) ∈ windows settings request) :
    Settles settings request (countUp key windowSeconds) := by
  intro trace settled
  rw [Security.countUp, Program.meets_bind, execute, Program.meets_attempt]
  refine ⟨⟨by simp [Call.sets], fun other => by simp [settled]⟩, fun reply _ => ?_⟩
  cases reply with
  | done count =>
    simp only [Write.result]
    by_cases first : count = 1
    · rw [if_pos first, first, Program.meets_bind, execute, Program.meets_attempt]
      refine ⟨⟨?_, fun other => ?_⟩, fun reply _ => ?_⟩
      · intro window isWindow
        obtain rfl := Option.some.inj isWindow
        exact windowed
      · simp [created]
      · cases reply <;> rfl
    · rw [if_neg first]
      change created _ = none
      unfold created
      split
      · rename_i same
        simp_all
      · rfl
  | _ => rfl

/-! ## Every service settles -/

theorem Settles.delete (keys : List String) : Settles settings request (execute (.delete keys)) :=
  .other (by simp) (by simp) (by simp [Call.sets])

theorem Settles.setNx {key : String} {seconds : Nat}
    (windowed : (key, seconds) ∈ windows settings request) :
    Settles settings request (execute (.setNx key seconds)) :=
  .other (by simp) (by simp) (by simpa [Call.sets] using windowed)

theorem Settles.read {call : Call} (reads : call.sets = none) (isOther : ∀ key, call ≠ .incr key) :
    Settles settings request (execute call) := by
  refine .other isOther ?_ (by simp [reads])
  intro key seconds same
  rw [same] at reads
  cases reads

theorem isLocked_settles (key : String) (maxAttempts : Nat) :
    Settles settings request (isLocked key maxAttempts) := by
  apply Settles.orUnavailable
  apply Settles.bind (.read rfl (by simp))
  exact fun _ => .pure _

theorem resetFailedAttempts_settles (key : String) :
    Settles settings request (resetFailedAttempts key) :=
  (Settles.delete [key]).exceptReturn ()

theorem releaseProtectedAction_settles (key : String) :
    Settles settings request (releaseProtectedAction key) :=
  (Settles.delete [reservationKey key]).exceptReturn ()

theorem checkAndRecordAction_settles {key : String} {lockoutTime : Nat} (success : Bool)
    (maxAttempts : Nat) (windowed : (key, lockoutTime) ∈ windows settings request) :
    Settles settings request (checkAndRecordAction key success maxAttempts lockoutTime) := by
  cases success with
  | true =>
    apply (isLocked_settles key maxAttempts).bind
    intro locked
    cases locked with
    | true => exact .pure false
    | false => exact (resetFailedAttempts_settles key).bind fun _ => .pure true
  | false =>
    apply Settles.exceptReturn
    exact (Settles.countUp windowed).bind fun _ => .pure _

theorem auditDenial_settles {key : String} {windowSeconds : Nat}
    (windowed : (auditedKey key, windowSeconds) ∈ windows settings request) :
    Settles settings request (auditDenial key windowSeconds) := by
  apply Settles.exceptReturn
  apply (Settles.setNx windowed).bind
  intro first
  cases first with
  | true => exact .read rfl (by simp)
  | false => exact .pure ()

theorem recordRequest_settles {key : String} {windowSeconds : Option Nat} (maxRequests : Option Nat)
    (windowed : (key, windowSeconds.getD settings.requestWindowSeconds) ∈ windows settings request) :
    Settles settings request (recordRequest settings key maxRequests windowSeconds) := by
  apply Settles.orUnavailable
  exact (Settles.countUp windowed).bind fun _ => .pure _

theorem rateLimited_settles (endpointName ipAddress : String) (accountValue : Option String)
    (maxRequests windowSeconds : Option Nat) :
    Settles settings (.rateLimited endpointName ipAddress accountValue maxRequests windowSeconds)
      (rateLimited settings endpointName ipAddress accountValue maxRequests windowSeconds) := by
  apply (recordRequest_settles _ (by simp [windows])).bind
  intro allowed
  cases allowed with
  | false => exact (auditDenial_settles (by simp [windows])).bind fun _ => .pure _
  | true =>
    cases accountValue with
    | none => exact .pure _
    | some account =>
      simp only [Bool.not_true, Bool.false_eq_true, if_false]
      split
      · exact .pure _
      · apply (recordRequest_settles _ (by simp [windows])).bind
        intro allowed
        cases allowed with
        | false => exact (auditDenial_settles (by simp [windows])).bind fun _ => .pure _
        | true => exact .pure _

theorem cooldownRemainingSeconds_settles (email : String) :
    Settles settings (.cooldownRemainingSeconds email) (cooldownRemainingSeconds settings email) := by
  apply Settles.orUnavailable
  apply Settles.bind (.read rfl (by simp))
  intro failures
  split
  · exact .pure 0
  · apply (Settles.setNx (by simp [windows])).bind
    intro taken
    cases taken with
    | true => exact .pure 0
    | false => exact (Settles.read rfl (by simp)).bind fun _ => .pure _

theorem shouldSend_settles (eventType : String) (digest : Option String) :
    Settles settings (.shouldSend eventType digest) (shouldSend eventType digest) := by
  apply Settles.exceptReturn
  cases digest with
  | none => exact .throw _
  | some digest =>
    apply (Settles.setNx (by simp [windows])).bind
    intro first
    cases first with
    | false => exact .pure false
    | true => exact (Settles.countUp (by simp [windows])).bind fun _ => .pure _

theorem handle_settles (settings : Settings) (request : Request) :
    Settles settings request (handle settings request) := by
  cases request with
  | rateLimited endpointName ipAddress accountValue maxRequests windowSeconds =>
    exact (rateLimited_settles endpointName ipAddress accountValue maxRequests windowSeconds).bind
      fun _ => .pure _
  | recordRequest key maxRequests windowSeconds =>
    exact (recordRequest_settles maxRequests (by simp [windows])).bind fun _ => .pure _
  | resetCounter key =>
    have resets : Settles settings (.resetCounter key) (resetCounter key) := by
      unfold resetCounter
      split
      · exact .pure ()
      · exact (Settles.delete [key]).exceptReturn ()
    exact resets.bind fun _ => .pure _
  | isLocked key maxAttempts => exact (isLocked_settles key maxAttempts).bind fun _ => .pure _
  | resetFailedAttempts key => exact (resetFailedAttempts_settles key).bind fun _ => .pure _
  | recordFailedAttempt key lockoutTime =>
    have counts : Settles settings (.recordFailedAttempt key lockoutTime)
        (countUp key lockoutTime) := .countUp (by simp [windows])
    exact ((counts.bind fun _ => .pure ()).exceptReturn ()).bind fun _ => .pure _
  | getRemainingSeconds key =>
    have reads : Settles settings (.getRemainingSeconds key) (execute (.ttl key)) :=
      .read rfl (by simp)
    exact ((reads.bind fun ttl => .pure (max ttl 0)).exceptReturn 0).bind fun _ => .pure _
  | checkAndRecordAction key success maxAttempts lockoutTime =>
    exact (checkAndRecordAction_settles success maxAttempts (by simp [windows])).bind
      fun _ => .pure _
  | beginProtectedAction key =>
    have begins : Settles settings (.beginProtectedAction key)
        (beginProtectedAction settings key) := by
      apply (isLocked_settles key settings.maxFailedLoginAttempts).bind
      intro locked
      cases locked with
      | true => exact .pure false
      | false => exact (Settles.setNx (by simp [windows])).orUnavailable
    exact begins.bind fun _ => .pure _
  | releaseProtectedAction key => exact (releaseProtectedAction_settles key).bind fun _ => .pure _
  | finishProtectedAction key success =>
    have finishes : Settles settings (.finishProtectedAction key success)
        (finishProtectedAction settings key success) := by
      refine Settles.finally ?_ (releaseProtectedAction_settles key)
      cases success with
      | true => exact resetFailedAttempts_settles key
      | false =>
        exact (checkAndRecordAction_settles false settings.maxFailedLoginAttempts
          (by simp [windows])).bind fun _ => .pure ()
    exact finishes.bind fun _ => .pure _
  | cooldownRemainingSeconds email =>
    exact (cooldownRemainingSeconds_settles email).bind fun _ => .pure _
  | recordFailure email =>
    have counts : Settles settings (.recordFailure email) (countUp (failuresKey settings email)
        settings.loginAccountFailureWindowSeconds) := .countUp (by simp [windows])
    exact ((counts.bind fun count =>
      .pure (decide (count = settings.loginAccountFailureThreshold))).exceptReturn false).bind
        fun _ => .pure _
  | reset email => exact ((Settles.delete _).exceptReturn ()).bind fun _ => .pure _
  | shouldSend eventType digest => exact (shouldSend_settles eventType digest).bind fun _ => .pure _

theorem server_obeys (settings : Settings) :
    (server settings).Obeys (discipline settings)
      (fun _ (_ : Except Failure Response) trace => created trace = none) where
  programs request := handle_settles settings request [] rfl
  answers _ _ _ _ _ _ := trivial

end Services

/-! ## What a command does to a key -/

section Commands

variable {before after : Valkey} {key : String} {entry : Entry}

@[simp] theorem find_put_self (valkey : Valkey) (key : String) (entry : Option Entry) :
    (valkey.put key entry).find key = entry.filter (Entry.lives valkey.now) := by
  simp [Valkey.find, Valkey.put]

theorem find_put_ne (valkey : Valkey) {key other : String} (differs : other ≠ key)
    (entry : Option Entry) : (valkey.put key entry).find other = valkey.find other := by
  simp [Valkey.find, Valkey.put, differs]

theorem find_delete (valkey : Valkey) (keys : List String) (key : String) :
    (valkey.delete keys).find key = if key ∈ keys then none else valkey.find key := by
  simp only [Valkey.find, Valkey.delete]
  split <;> rfl

theorem find_elapse {millis : Nat} (present : (elapse millis before).find key = some entry) :
    before.find key = some entry := by
  simp only [Valkey.find, elapse, Option.filter_eq_some_iff] at present ⊢
  refine ⟨present.1, ?_⟩
  have lives := present.2
  unfold Entry.lives at lives ⊢
  cases isDeadline : entry.deadline with
  | none => rfl
  | some deadline =>
    rw [isDeadline, Option.all_some, decide_eq_true_eq] at lives
    rw [Option.all_some, decide_eq_true_eq]
    omega

theorem find_lives (present : before.find key = some entry) : entry.lives before.now = true :=
  (Option.filter_eq_some_iff.mp present).2

theorem find_incremented (valkey : Valkey) (key : String) :
    (valkey.put key (some (valkey.incremented key))).find key =
      some (valkey.incremented key) := by
  rw [find_put_self, Option.filter_eq_some_iff]
  refine ⟨rfl, ?_⟩
  unfold Valkey.incremented
  cases found : valkey.find key with
  | none => rfl
  | some old =>
    have lives := find_lives found
    exact lives

/-- A command leaves a key as it was, or is one that writes it. -/
theorem outcomes_effect {thread : Nat} {call : Call} {reply : Reply call}
    (possible : (reply, after) ∈ outcomes thread call before) (key : String) :
    (after.find key = before.find key ∧
        ∀ seconds, call = .expire key seconds → reply.committed = none) ∨
      (call = .incr key ∧ after.find key = some (before.incremented key)) ∨
      (∃ seconds, call = .expire key seconds ∧ after.find key = ((before.find key).map fun entry =>
        { entry with deadline := some (before.deadlineIn seconds) }).filter
          (Entry.lives before.now)) ∨
      (∃ keys, call = .delete keys ∧ key ∈ keys ∧ after.find key = none) ∨
      (∃ seconds, call = .setNx key seconds ∧ before.find key = none ∧
        after.find key = (some ⟨1, some (before.deadlineIn seconds)⟩ : Option Entry).filter
          (Entry.lives before.now)) := by
  have unchanged (same : after = before)
      (uncommitted : ∀ seconds, call = .expire key seconds → reply.committed = none) :
      after.find key = before.find key ∧
        ∀ seconds, call = .expire key seconds → reply.committed = none :=
    ⟨by rw [same], uncommitted⟩
  cases call with
  | incr other =>
    simp only [outcomes] at possible
    split at possible
    · rcases written_cases possible with ⟨-, put⟩ | ⟨-, same⟩
      · by_cases isKey : key = other
        · subst isKey
          exact Or.inr (Or.inl ⟨rfl, by rw [put, find_incremented]⟩)
        · exact Or.inl ⟨by rw [put, find_put_ne before isKey], by simp⟩
      · exact Or.inl (unchanged same (by simp))
    · exact Or.inl (unchanged (Prod.mk.inj (List.mem_singleton.mp possible)).2 (by simp))
  | expire other seconds =>
    rcases written_cases possible with ⟨-, put⟩ | ⟨uncommitted, same⟩
    · by_cases isKey : key = other
      · subst isKey
        exact Or.inr (Or.inr (Or.inl ⟨seconds, rfl, by rw [put, Valkey.expire, find_put_self]⟩))
      · refine Or.inl ⟨by rw [put, Valkey.expire, find_put_ne before isKey], fun _ same => ?_⟩
        injection same with isOther _
        exact absurd isOther.symm isKey
    · exact Or.inl (unchanged same fun _ _ => uncommitted)
  | delete keys =>
    rcases written_cases possible with ⟨-, deleted⟩ | ⟨-, same⟩
    · by_cases isKey : key ∈ keys
      · exact Or.inr (Or.inr (Or.inr (Or.inl
          ⟨keys, rfl, isKey, by rw [deleted, find_delete, if_pos isKey]⟩)))
      · exact Or.inl ⟨by rw [deleted, find_delete, if_neg isKey], by simp⟩
    · exact Or.inl (unchanged same (by simp))
  | setNx other seconds =>
    simp only [outcomes] at possible
    split at possible
    · exact Or.inl (unchanged (Prod.mk.inj (List.mem_singleton.mp possible)).2 (by simp))
    · split at possible
      · rcases written_cases possible with ⟨-, same⟩ | ⟨-, same⟩ <;>
          exact Or.inl (unchanged same (by simp))
      · rename_i free
        rcases written_cases possible with ⟨-, put⟩ | ⟨-, same⟩
        · by_cases isKey : key = other
          · subst isKey
            have absent : before.find key = none := by simpa using free
            exact Or.inr (Or.inr (Or.inr (Or.inr
              ⟨seconds, rfl, absent, by rw [put, find_put_self]⟩)))
          · exact Or.inl ⟨by rw [put, find_put_ne before isKey], by simp⟩
        · exact Or.inl (unchanged same (by simp))
  | get other | ttl other | logSecurityEvent =>
    rcases written_cases possible with ⟨-, same⟩ | ⟨-, same⟩ <;>
      exact Or.inl (unchanged same (by simp))

/-- The commands that write a key. -/
def Call.Writes (key : String) : Call → Prop
  | .incr other | .expire other _ | .setNx other _ => other = key
  | .delete keys => key ∈ keys
  | .get _ | .ttl _ | .logSecurityEvent => False

theorem outcomes_frame {thread : Nat} {call : Call} {reply : Reply call}
    (possible : (reply, after) ∈ outcomes thread call before) (spared : ¬ call.Writes key) :
    after.find key = before.find key := by
  rcases outcomes_effect possible key with ⟨same, -⟩ | ⟨rfl, -⟩ | ⟨seconds, rfl, -⟩ |
    ⟨keys, rfl, isKey, -⟩ | ⟨seconds, rfl, -⟩
  · exact same
  · exact absurd rfl spared
  · exact absurd rfl spared
  · exact absurd isKey spared
  · exact absurd rfl spared

/-- What a command leaves under a key was there with the same deadline, or has a new one, or has
been created by `INCR`. -/
theorem outcomes_find {thread : Nat} {call : Call} {reply : Reply call}
    (possible : (reply, after) ∈ outcomes thread call before)
    (present : after.find key = some entry) :
    (∃ old, before.find key = some old ∧ old.deadline = entry.deadline ∧
        ∀ seconds, call = .expire key seconds → reply.committed = none) ∨
      (∃ seconds, call.sets = some (key, seconds) ∧
        entry.deadline = some (before.deadlineIn seconds)) ∨
      (call = .incr key ∧ before.find key = none ∧ entry = ⟨1, none⟩) := by
  rcases outcomes_effect possible key with ⟨same, uncommitted⟩ | ⟨rfl, found⟩ |
    ⟨seconds, rfl, found⟩ | ⟨keys, rfl, -, found⟩ | ⟨seconds, rfl, -, found⟩
  · exact Or.inl ⟨entry, same ▸ present, rfl, uncommitted⟩
  · obtain rfl := Option.some.inj (found.symm.trans present)
    cases isOld : before.find key with
    | none => exact Or.inr (Or.inr ⟨rfl, rfl, by rw [Valkey.incremented, isOld]⟩)
    | some old => exact Or.inl ⟨old, rfl, by rw [Valkey.incremented, isOld], by simp⟩
  · rw [present] at found
    obtain ⟨old, -, isEntry⟩ :=
      Option.map_eq_some_iff.mp (Option.filter_eq_some_iff.mp found.symm).1
    exact Or.inr (Or.inl ⟨seconds, rfl, by rw [← isEntry]⟩)
  · rw [present] at found
    cases found
  · rw [present] at found
    have isEntry := Option.some.inj (Option.filter_eq_some_iff.mp found.symm).1
    exact Or.inr (Or.inl ⟨seconds, rfl, by rw [← isEntry]⟩)

theorem outcomes_now {thread : Nat} {call : Call} {reply : Reply call}
    (possible : (reply, after) ∈ outcomes thread call before) : after.now = before.now := by
  cases call with
  | incr other =>
    simp only [outcomes] at possible
    split at possible
    · rcases written_cases possible with ⟨-, same⟩ | ⟨-, same⟩ <;> (subst same; rfl)
    · rw [(Prod.mk.inj (List.mem_singleton.mp possible)).2]
  | setNx other seconds =>
    simp only [outcomes] at possible
    split at possible
    · rw [(Prod.mk.inj (List.mem_singleton.mp possible)).2]
    · split at possible <;>
        rcases written_cases possible with ⟨-, same⟩ | ⟨-, same⟩ <;> (subst same; rfl)
  | _ => rcases written_cases possible with ⟨-, same⟩ | ⟨-, same⟩ <;> (subst same; rfl)

/-- Nothing but `DEL` and the passing of time takes a count back. -/
theorem outcomes_count {thread : Nat} {call : Call} {reply : Reply call} {old : Entry}
    (possible : (reply, after) ∈ outcomes thread call before)
    (found : before.find key = some old) (present : after.find key = some entry) :
    old.count ≤ entry.count := by
  rcases outcomes_effect possible key with ⟨same, -⟩ | ⟨-, raised⟩ | ⟨seconds, -, expires⟩ |
    ⟨keys, -, -, deleted⟩ | ⟨seconds, -, absent, -⟩
  · rw [same, found] at present
    rw [Option.some.inj present]
  · rw [raised, Valkey.incremented, found] at present
    rw [← Option.some.inj present]
    exact Nat.le_succ _
  · rw [expires, found, Option.map_some, Option.filter_eq_some_iff] at present
    rw [← Option.some.inj present.1]
  · rw [deleted] at present
    cases present
  · rw [found] at absent
    cases absent

/-- An `INCR` that takes effect leaves the count it answers, one more than before. -/
theorem incr_committed {thread : Nat} {reply : Reply (.incr key)} {count : Nat}
    (possible : (reply, after) ∈ outcomes thread (.incr key) before)
    (committed : reply.committed = some count) :
    (∃ entry, after.find key = some entry ∧ entry.count = count) ∧
      count = ((before.find key).map Entry.count).getD 0 + 1 := by
  simp only [outcomes] at possible
  split at possible
  · rcases written_cases possible with ⟨isCount, put⟩ | ⟨isNone, -⟩
    · obtain rfl : (before.incremented key).count = count :=
        Option.some.inj (isCount.symm.trans committed)
      refine ⟨⟨before.incremented key, by rw [put, find_incremented], rfl⟩, ?_⟩
      · unfold Valkey.incremented
        cases found : before.find key <;> rfl
    · rw [isNone] at committed
      cases committed
  · obtain ⟨isFailed, -⟩ := Prod.mk.inj (List.mem_singleton.mp possible)
    rw [isFailed] at committed
    cases committed

/-- An `INCR` that leaves a key where there was none answers one, unless its reply is lost. -/
theorem incr_created {thread : Nat} {reply : Reply (.incr key)}
    (possible : (reply, after) ∈ outcomes thread (.incr key) before)
    (absent : before.find key = none) (present : after.find key = some entry) :
    reply = .done 1 ∨ ∃ value, reply = .unacknowledged value := by
  simp only [outcomes] at possible
  split at possible
  · simp only [written, Valkey.incremented, absent, List.mem_cons, Prod.mk.injEq,
      List.not_mem_nil, or_false] at possible
    rcases possible with ⟨done, -⟩ | ⟨-, same⟩ | ⟨lost, -⟩
    · exact Or.inl done
    · rw [same, absent] at present
      cases present
    · exact Or.inr ⟨1, lost⟩
  · rw [(Prod.mk.inj (List.mem_singleton.mp possible)).2, absent] at present
    cases present

end Commands

/-! ## Runs in which every created counter gets its deadline -/

def unacknowledged (event : Event) : Prop :=
  ∃ value, event.2 = .unacknowledged value

/-- The reply to an `INCR` that creates its key is not lost, and an `EXPIRE` of a key without a
deadline is carried out. -/
structure Carried (config : Server) (_ : Nat) (event : Event) : Prop where
  acknowledged : ∀ key, event.1 = .incr key → config.state.find key = none →
    ¬ unacknowledged event
  carriedOut : ∀ key seconds, event.1 = .expire key seconds → ∀ entry,
    config.state.find key = some entry → entry.deadline = none → event.2.committed ≠ none

/-- A request, of a process that may have died since, is about to send `EXPIRE`. -/
def Expiring (config : Server) (key : String) : Prop :=
  ∃ thread ∈ config.threads, ∃ seconds next, thread.program = .call (.expire key seconds) next

/-- Where the key exists, it lives no longer than a window that some request sets for it. -/
def Expires (settings : Settings) (config : Server) (key : String) : Prop :=
  ∀ entry, config.state.find key = some entry →
    ∃ deadline, entry.deadline = some deadline ∧
      ∃ thread ∈ config.threads, ∃ seconds, (key, seconds) ∈ windows settings thread.request ∧
        deadline ≤ config.state.deadlineIn seconds

/-- A key has a deadline that a command has set, or has just been created. -/
def Bounded (valkey : Valkey) (history : List (Nat × Event)) : Prop :=
  ∀ key entry, valkey.find key = some entry →
    (entry.deadline = none → ∃ thread, created (traceOf history thread) = some key) ∧
      ∀ deadline, entry.deadline = some deadline → ∃ record ∈ history, ∃ seconds,
        record.2.1.sets = some (key, seconds) ∧ deadline ≤ valkey.deadlineIn seconds

section Runs

variable {settings : Settings} {permits : Server → Nat → Event → Prop} {now : Nat}
variable {start : Valkey} {before after config : Server} {thread : Nat} {event : Event}
variable {key : String}

theorem allowed {permits' : Server → Nat → Event → Prop}
    (run : Reaches (server settings) permits (Config.start start) before)
    (answers : Answers (server settings) permits' before after thread event) :
    ∃ request next, before.threads[thread]? = some ⟨request, .call event.1 next⟩ ∧
      (discipline settings request).allows (before.trace thread) event.1 := by
  obtain ⟨request, next, running⟩ := answers.running
  exact ⟨request, next, running,
    (run.disciplined (server_obeys settings) start).allows running⟩

/-- A request that has just created a key is about to send `EXPIRE`, and no other is. -/
theorem expiring_iff (run : Reaches (server settings) permits (Config.start start) config) :
    Expiring config key ↔ ∃ thread, created (config.trace thread) = some key := by
  have disciplined := run.disciplined (server_obeys settings) start
  constructor
  · rintro ⟨thread, member, seconds, next, isProgram⟩
    obtain ⟨index, present⟩ := List.getElem?_of_mem member
    have running : config.threads[index]? =
        some ⟨thread.request, .call (.expire key seconds) next⟩ := by
      rw [present, ← isProgram]
    exact ⟨index, ((disciplined.allows running).2 key).mpr ⟨seconds, rfl⟩⟩
  · rintro ⟨index, isCreated⟩
    have attributed := run.attributed (Config.attributed_start start)
    have begun : index < config.threads.length := by
      by_contra fresh
      rw [attributed.trace_eq_nil (Nat.not_lt.mp fresh)] at isCreated
      cases isCreated
    have present := List.getElem?_eq_getElem begun
    refine ⟨config.threads[index], List.getElem_mem begun, ?_⟩
    have meets := disciplined index _ present
    cases isProgram : config.threads[index].program with
    | done result =>
      rw [isProgram] at meets
      exact absurd (meets.symm.trans isCreated) (by simp)
    | call call next =>
      rw [isProgram] at meets
      obtain ⟨seconds, isExpire⟩ := (meets.1.2 key).mp isCreated
      subst isExpire
      exact ⟨seconds, next, rfl⟩

theorem Bounded.elapse {valkey : Valkey} {history : List (Nat × Event)}
    (bounded : Bounded valkey history) (millis : Nat) : Bounded (elapse millis valkey) history := by
  intro key entry present
  obtain ⟨unset, set⟩ := bounded key entry (find_elapse present)
  refine ⟨unset, fun deadline isDeadline => ?_⟩
  obtain ⟨record, member, seconds, sets, within⟩ := set deadline isDeadline
  refine ⟨record, member, seconds, sets, within.trans ?_⟩
  simp only [Valkey.deadlineIn, Security.elapse]
  omega

theorem Bounded.answer (bounded : Bounded before.state before.history)
    (run : Reaches (server settings) Carried (Config.start start) before)
    (answers : Answers (server settings) Carried before after thread event) :
    Bounded after.state ((thread, event) :: before.history) := by
  intro key entry present
  have possible : (event.2, after.state) ∈ outcomes thread event.1 before.state := answers.possible
  have sameNow := outcomes_now possible
  obtain ⟨request, next, running, allows⟩ := allowed run answers
  have later {deadline : Nat}
      (set : ∃ record ∈ before.history, ∃ seconds, record.2.1.sets = some (key, seconds) ∧
        deadline ≤ before.state.deadlineIn seconds) :
      ∃ record ∈ (thread, event) :: before.history, ∃ seconds,
        record.2.1.sets = some (key, seconds) ∧ deadline ≤ after.state.deadlineIn seconds := by
    obtain ⟨record, member, seconds, sets, within⟩ := set
    refine ⟨record, List.mem_cons_of_mem _ member, seconds, sets, ?_⟩
    rw [Valkey.deadlineIn, sameNow]
    exact within
  rcases outcomes_find possible present with
    ⟨old, found, sameDeadline, uncommitted⟩ | ⟨seconds, sets, isDeadline⟩ | ⟨isIncr, absent, isEntry⟩
  · obtain ⟨unset, set⟩ := bounded key old found
    refine ⟨fun noDeadline => ?_, fun deadline isDeadline =>
      later (set deadline (sameDeadline.trans isDeadline))⟩
    obtain ⟨creator, isCreated⟩ := unset (sameDeadline.trans noDeadline)
    by_cases isThread : thread = creator
    · -- The creator's next command is its `EXPIRE`, and it was carried out.
      subst isThread
      obtain ⟨seconds, isExpire⟩ := (allows.2 key).mp isCreated
      exact absurd (uncommitted seconds isExpire)
        (answers.permitted.carriedOut key seconds isExpire old found
          (sameDeadline.trans noDeadline))
    · refine ⟨creator, ?_⟩
      rw [traceOf_cons_ne _ isThread]
      exact isCreated
  · rw [isDeadline]
    refine ⟨fun absurdity => (by cases absurdity), fun deadline same => ?_⟩
    refine ⟨(thread, event), List.mem_cons_self, seconds, sets, ?_⟩
    rw [← Option.some.inj same, Valkey.deadlineIn, Valkey.deadlineIn, sameNow]
  · rw [isEntry]
    refine ⟨fun _ => ⟨thread, ?_⟩, fun deadline absurdity => (by cases absurdity)⟩
    rw [traceOf_cons_self]
    obtain ⟨call, reply⟩ := event
    obtain rfl : call = .incr key := isIncr
    rcases incr_created possible absent present with isDone | lost
    · obtain rfl : reply = .done 1 := isDone
      rfl
    · exact absurd lost (answers.permitted.acknowledged key rfl absent)

theorem bounded_along
    (run : Reaches (server settings) Carried (Config.start (Valkey.empty now)) config) :
    Bounded config.state config.history := by
  refine run.keeps Bounded ?_ (fun millis _ _ bounded => bounded.elapse millis)
    fun before after thread event earlier answers bounded => bounded.answer earlier answers
  intro key entry present
  cases present

/-- In every run in which a created counter gets its deadline, every key lives no longer than its
window wherever no request stands between the two commands. -/
theorem counters_expire (settings : Settings) (now : Nat)
    (run : Reaches (server settings) Carried (Config.start (Valkey.empty now)) config)
    (key : String) (settled : ¬ Expiring config key) : Expires settings config key := by
  intro entry present
  obtain ⟨unset, set⟩ := bounded_along run key entry present
  cases isDeadline : entry.deadline with
  | none => exact absurd ((expiring_iff run).mpr (unset isDeadline)) settled
  | some deadline =>
    obtain ⟨⟨thread, event⟩, member, seconds, sets, within⟩ := set deadline isDeadline
    have occurred : event ∈ config.trace thread := (Config.mem_trace thread event).mpr member
    obtain ⟨earlier, later, first, answers, rest⟩ := run.answered_member occurred
    obtain ⟨request, next, running, allows⟩ := allowed first answers
    obtain ⟨middle, isMiddle, sameRequest, -⟩ := answers.step.thread_persists running
    obtain ⟨last, isLast, sameRequest', -⟩ := rest.thread_persists isMiddle
    refine ⟨deadline, rfl, last, List.mem_of_getElem? isLast, seconds, ?_, within⟩
    rw [sameRequest', sameRequest]
    exact allows.1 _ sets

/-! ## A counter without a deadline stays -/

/-- Nobody deletes the key. -/
def Spares (key : String) (_ : Server) (_ : Nat) (event : Event) : Prop :=
  ∀ keys, event.1 = .delete keys → key ∉ keys

theorem created_cons {history : List Event} (isCreated : created (event :: history) = some key) :
    event = ⟨.incr key, .done 1⟩ := by
  unfold created at isCreated
  split at isCreated
  · rename_i same
    rw [← Option.some.inj isCreated, (List.cons.inj same).1]
  · cases isCreated

/-- Only `EXPIRE` and `DEL` take away a counter without a deadline, and no count is one again. -/
theorem outcomes_unset {before after : Valkey} {call : Call} {reply : Reply call} {count : Nat}
    (possible : (reply, after) ∈ outcomes thread call before)
    (present : before.find key = some ⟨count, none⟩)
    (spared : ∀ keys, call = .delete keys → key ∉ keys)
    (unexpired : ∀ seconds, call ≠ .expire key seconds) :
    (∃ count', count ≤ count' ∧ after.find key = some ⟨count', none⟩) ∧
      ((⟨call, reply⟩ : Event) = ⟨.incr key, .done 1⟩ → count = 0) := by
  constructor
  · rcases outcomes_effect possible key with ⟨same, -⟩ | ⟨-, raised⟩ | ⟨seconds, isExpire, -⟩ |
      ⟨keys, isDelete, isKey, -⟩ | ⟨seconds, -, absent, -⟩
    · exact ⟨count, Nat.le_refl _, same.trans present⟩
    · exact ⟨count + 1, Nat.le_succ _, by rw [raised, Valkey.incremented, present]⟩
    · exact absurd isExpire (unexpired seconds)
    · exact absurd isKey (spared keys isDelete)
    · rw [present] at absent
      cases absent
  · intro isFirst
    obtain ⟨rfl, isReply⟩ := Sigma.mk.inj isFirst
    obtain rfl := eq_of_heq isReply
    obtain ⟨-, isNext⟩ := incr_committed possible rfl
    rw [present, Option.map_some, Option.getD_some] at isNext
    exact (Nat.succ.inj isNext).symm

/-- No later request makes such a counter expire, whatever else fails: only a reset ends it. -/
theorem unset_counter_stays {count : Nat}
    (earlier : Reaches (server settings) permits (Config.start start) before)
    (settled : ¬ Expiring before key)
    (present : before.state.find key = some ⟨count, none⟩) (positive : 0 < count)
    (run : Reaches (server settings) (Spares key) before after) :
    ∃ count', count ≤ count' ∧ after.state.find key = some ⟨count', none⟩ := by
  have nobody : ∀ thread, created (traceOf before.history thread) ≠ some key :=
    fun thread isCreated => settled ((expiring_iff earlier).mpr ⟨thread, isCreated⟩)
  have kept := run.keeps (fun valkey history =>
      (∃ count', count ≤ count' ∧ valkey.find key = some ⟨count', none⟩) ∧
        ∀ thread, created (traceOf history thread) ≠ some key)
    ⟨⟨count, Nat.le_refl _, present⟩, nobody⟩ ?_ ?_
  · exact kept.1
  · rintro millis valkey history ⟨⟨count', atLeast, found⟩, nobody⟩
    refine ⟨⟨count', atLeast, ?_⟩, nobody⟩
    rw [Valkey.find, Option.filter_eq_some_iff] at found ⊢
    exact ⟨found.1, rfl⟩
  · intro middle last thread event first answers ⟨⟨count', atLeast, found⟩, nobody⟩
    have whole : Reaches (server settings) anyCall (Config.start start) middle :=
      earlier.toAny.trans first.toAny
    obtain ⟨request, next, running, allows⟩ := allowed whole answers
    have possible : (event.2, last.state) ∈ outcomes thread event.1 middle.state :=
      answers.possible
    have unexpired (seconds : Nat) : event.1 ≠ .expire key seconds :=
      fun isExpire => nobody thread ((allows.2 key).mpr ⟨seconds, isExpire⟩)
    obtain ⟨⟨count'', more, found'⟩, notFirst⟩ :=
      outcomes_unset possible found answers.permitted unexpired
    refine ⟨⟨count'', atLeast.trans more, found'⟩, fun other isCreated => ?_⟩
    by_cases isThread : thread = other
    · subst isThread
      rw [traceOf_cons_self] at isCreated
      have isZero := notFirst (created_cons isCreated)
      omega
    · rw [traceOf_cons_ne _ isThread] at isCreated
      exact nobody other isCreated

end Runs

/-! ## A login limit that is and that is not carried out -/

instance (config : Server) (key : String) : Decidable (Expiring config key) :=
  decidable_of_iff (∃ thread ∈ config.threads, (match thread.program with
      | .call (.expire other _) _ => other == key
      | _ => false) = true) (by
    refine exists_congr fun thread => and_congr_right fun _ => ?_
    constructor
    · intro isExpire
      split at isExpire
      · rename_i other seconds next isProgram
        obtain rfl := eq_of_beq isExpire
        exact ⟨seconds, next, isProgram⟩
      · cases isExpire
    · rintro ⟨seconds, next, isProgram⟩
      rw [isProgram]
      exact beq_self_eq_true key)

def plainSettings : Settings where
  keys := ⟨id, id, id, id⟩
  maxRequestsPerWindow := 5
  requestWindowSeconds := 60
  maxFailedLoginAttempts := 5
  loginLockoutTime := 900
  actionReservationTime := 60
  loginAccountFailureThreshold := 20
  loginAccountFailureWindowSeconds := 900
  loginAccountCooldownSeconds := 30

def acknowledgedCheck (_ : Server) (_ : Nat) (event : Event) : Bool :=
  match event.2 with
  | .done _ => true
  | _ => false

theorem carried_of_check (config : Server) (thread : Nat) (event : Event)
    (passed : acknowledgedCheck config thread event = true) : Carried config thread event := by
  unfold acknowledgedCheck at passed
  split at passed
  · rename_i value isDone
    constructor
    · rintro key _ _ ⟨lost, isLost⟩
      rw [isDone] at isLost
      cases isLost
    · intro key seconds _ entry _ _ uncommitted
      rw [isDone] at uncommitted
      cases uncommitted
  · cases passed

def loginFrom (ipAddress : String) : Request :=
  .rateLimited "login" ipAddress none none none

def loginCounted : Server :=
  (Config.start (Valkey.empty 0)).follow (server plainSettings)
    (.begin (loginFrom "203.0.113.7") :: Move.turns 0 2 ++ [.disturb 1000])

theorem counters_expire_login :
    loginCounted.state.find "login:ip:203.0.113.7" = some ⟨1, some 60000⟩ ∧
      Expires plainSettings loginCounted "login:ip:203.0.113.7" := by
  refine ⟨by decide +kernel, ?_⟩
  refine counters_expire plainSettings 0 ?_ _ (by decide +kernel)
  exact Config.follow_permitted (server plainSettings) acknowledgedCheck carried_of_check _ _
    (by decide +kernel)

/-- The `EXPIRE` of the first login fails.  Five more logins follow in the course of a year, the
last of which is denied. -/
def loginUncounted : Server :=
  (Config.start (Valkey.empty 0)).follow (server plainSettings)
    (.begin (loginFrom "203.0.113.7") :: [.reply 0 0, .reply 0 1] ++
      .begin (loginFrom "203.0.113.7") :: Move.turns 1 1 ++
      .begin (loginFrom "203.0.113.7") :: Move.turns 2 1 ++
      .begin (loginFrom "203.0.113.7") :: Move.turns 3 1 ++
      .begin (loginFrom "203.0.113.7") :: Move.turns 4 1 ++
      [.disturb (365 * 24 * 3600 * 1000)] ++
      .begin (loginFrom "203.0.113.7") :: Move.turns 5 3)

/-- Every other command has succeeded and every request has returned, and the counter denies
logins in every state that is reached without a reset. -/
theorem failed_expire_denies_forever :
    Reaches (server plainSettings) anyCall (Config.start (Valkey.empty 0)) loginUncounted ∧
      ¬ Expiring loginUncounted "login:ip:203.0.113.7" ∧
      (loginUncounted.threads[5]?).bind Thread.result =
        some (.ok (.admission .limitExceeded)) ∧
      ¬ Expires plainSettings loginUncounted "login:ip:203.0.113.7" ∧
      ∀ config, Reaches (server plainSettings) (Spares "login:ip:203.0.113.7") loginUncounted
        config → ∃ count, 6 ≤ count ∧
          config.state.find "login:ip:203.0.113.7" = some ⟨count, none⟩ := by
  have run : Reaches (server plainSettings) anyCall (Config.start (Valkey.empty 0))
      loginUncounted := Config.follow_reaches (server plainSettings) _ _
  have settled : ¬ Expiring loginUncounted "login:ip:203.0.113.7" := by decide +kernel
  have present : loginUncounted.state.find "login:ip:203.0.113.7" = some ⟨6, none⟩ := by
    decide +kernel
  refine ⟨run, settled, by decide +kernel, fun expires => ?_, fun config later => ?_⟩
  · obtain ⟨deadline, isDeadline, -⟩ := expires _ present
    cases isDeadline
  · exact unset_counter_stays run settled present (by decide) later

end MysticAuth.Security
