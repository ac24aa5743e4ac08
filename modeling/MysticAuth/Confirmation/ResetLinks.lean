import MysticAuth.Confirmation.PasswordReset
import MysticAuth.Interleaving.Writes

/-!
# Reset links: the newest only, and once

A consumed link belongs to one request until it restores it.  A restore is
refused while another link is active, but not when the newer link has itself
been consumed in the meantime.
-/

set_option autoImplicit false

namespace MysticAuth.PasswordReset

open Interleaving OAuth

/-! ## What a request does with its link -/

def stores : Call → Prop
  | .storeResetToken _ _ _ => True
  | _ => False

def consumes : Call → Prop
  | .consumeResetToken _ _ => True
  | _ => False

def restores : Call → Prop
  | .restoreResetToken _ _ _ => True
  | _ => False

/-- The password was written, or may have been. -/
def writes (event : Event) : Prop :=
  match event with
  | ⟨.updateByEmail _ _, .ok false⟩ => False
  | ⟨.updateByEmail _ _, _⟩ => True
  | _ => False

/-- The request has consumed the link, and neither restored it nor written a password. -/
structure Holding (trace : List Event) (key : String) (jti : Nat) : Prop where
  consumed : ⟨.consumeResetToken key jti, .ok true⟩ ∈ trace
  unrestored : ∀ event ∈ trace, ¬ restores event.1
  unwritten : ∀ event ∈ trace, ¬ writes event

/-- The request redeems this token of the account. -/
def Presents (site : Site) (request : Request) (key : String) (jti : Nat) : Prop :=
  ∃ token newPassword, request = .resetPassword token newPassword ∧ token.jti = some jti ∧
    key = site.keys.activeTokenKey token.email

def discipline (site : Site) (request : Request) : Discipline Reply where
  allows trace call := match call with
    | .storeResetToken _ jti _ => (∀ event ∈ trace, ¬ stores event.1) ∧
        ∃ email token, ⟨.createResetToken email, .ok token⟩ ∈ trace ∧ token.jti = some jti
    | .consumeResetToken key jti => (∀ event ∈ trace, ¬ restores event.1) ∧
        (∀ event ∈ trace, ¬ consumes event.1) ∧ (∀ event ∈ trace, ¬ writes event) ∧
          Presents site request key jti
    | .restoreResetToken key jti _ => Holding trace key jti
    | .updateByEmail _ _ => ∃ key jti, Presents site request key jti ∧ Holding trace key jti
    | _ => True
  answers
    | .verifyResetToken token, payload => ∀ payload', payload = some payload' → payload' = token
    | .verifyPassword _ _, _ => True
    | .hashPassword _, _ => True
    | .consumeResetToken _ _, result => result ≠ .error .app
    | .restoreResetToken _ _ _, result => result ≠ .error .app
    | .getByEmail _, result => result ≠ .error .app
    | .updateByEmail _ _, result => result ≠ .error .app
    | .revokeAllTokensForUser _, result => result ≠ .error .app
    | _, _ => True

section Programs

variable {site : Site} {request : Request} {trace : List Event} {key : String} {jti : Nat}

/-- A call that neither stores, consumes nor restores a link, nor writes a password. -/
def isPlain : Call → Prop
  | .storeResetToken _ _ _ => False
  | .consumeResetToken _ _ => False
  | .restoreResetToken _ _ _ => False
  | .updateByEmail _ _ => False
  | _ => True

theorem Holding.cons {call : Call} {reply : Reply call} (holding : Holding trace key jti)
    (unrestored : ¬ restores call) (unwritten : ¬ writes ⟨call, reply⟩) :
    Holding (⟨call, reply⟩ :: trace) key jti := by
  refine ⟨List.mem_cons_of_mem _ holding.consumed, fun event member => ?_, fun event member => ?_⟩
  · rcases List.mem_cons.mp member with rfl | old
    · exact unrestored
    · exact holding.unrestored event old
  · rcases List.mem_cons.mp member with rfl | old
    · exact unwritten
    · exact holding.unwritten event old

theorem restoreToken_meets {payload : ResetToken}
    {post : Except Failure Unit → List Event → Prop}
    (holding : Holding trace (site.keys.activeTokenKey payload.email) jti)
    (returns : ∀ result later, result ≠ .error .app → post result later) :
    (restoreToken site payload jti).Meets (discipline site request) post trace := by
  unfold restoreToken
  split
  · exact returns _ _ (by simp)
  · rw [Program.meets_bind, perform, Program.meets_perform]
    refine ⟨trivial, fun now _ => ?_⟩
    simp only
    split
    · rw [Program.meets_bind, execute, Program.meets_attempt]
      refine ⟨holding.cons id id, fun result answered => ?_⟩
      match result with
      | .ok restored => exact returns _ _ (by simp)
      | .error .tokenVersionUnavailable => exact returns _ _ (by simp)
      | .error .other => exact returns _ _ (by simp)
      | .error .app => exact absurd rfl answered
    · exact returns _ _ (by simp)

theorem failRestored_meets {payload : ResetToken}
    {post : Except Failure (Bool × Option Bool) → List Event → Prop}
    (holding : Holding trace (site.keys.activeTokenKey payload.email) jti)
    (returns : ∀ result later, result ≠ .error .app → post result later) :
    (failRestored site payload jti).Meets (discipline site request) post trace := by
  rw [failRestored, Program.meets_bind]
  refine restoreToken_meets holding fun result later unavailable => ?_
  match result with
  | .ok () => exact returns _ _ (by simp)
  | .error failure => exact returns _ _ (by simpa using unavailable)

theorem confirmRevocation_meets (email : String)
    {post : Except Failure Bool → List Event → Prop}
    (returns : ∀ result later, result ≠ .error .app → post result later) :
    (confirmRevocation email).Meets (discipline site request) post trace := by
  rw [confirmRevocation, Program.meets_tryCatch, Program.meets_bind, execute,
    Program.meets_attempt]
  refine ⟨trivial, fun result answered => ?_⟩
  match result with
  | .ok () => exact returns _ _ (by simp)
  | .error .tokenVersionUnavailable => exact returns _ _ (by simp)
  | .error .other => exact returns _ _ (by simp)
  | .error .app => exact absurd rfl answered

/-- Only a request that still holds its link ends in an overload. -/
def OverloadHolds (key : String) (jti : Nat) (result : Except Failure (Bool × Option Bool))
    (trace : List Event) : Prop :=
  result = .error .app → Holding trace key jti

theorem isSamePassword_meets (user : Account) (newPassword : String)
    {post : Except Failure Bool → List Event → Prop} (holding : Holding trace key jti)
    (raised : ∀ failure later, Holding later key jti → post (.error failure) later)
    (next : ∀ same later, Holding later key jti → post (.ok same) later) :
    (isSamePassword user newPassword).Meets (discipline site request) post trace := by
  unfold isSamePassword
  split
  · rw [execute, Program.meets_attempt]
    refine ⟨trivial, fun result _ => ?_⟩
    match result with
    | .ok same => exact next same _ (holding.cons id id)
    | .error failure => exact raised failure _ (holding.cons id id)
  · exact next false trace holding

theorem writePassword_meets {payload : ResetToken} (newPassword : String)
    (presents : Presents site request (site.keys.activeTokenKey payload.email) jti)
    (holding : Holding trace (site.keys.activeTokenKey payload.email) jti) :
    (writePassword site payload jti newPassword).Meets (discipline site request)
      (OverloadHolds (site.keys.activeTokenKey payload.email) jti) trace := by
  have failed {trace' : List Event}
      (holding' : Holding trace' (site.keys.activeTokenKey payload.email) jti) :
      (failRestored site payload jti).Meets (discipline site request)
        (OverloadHolds (site.keys.activeTokenKey payload.email) jti) trace' :=
    failRestored_meets holding' fun result later unavailable isApp => absurd isApp unavailable
  unfold writePassword
  split
  · exact failed holding
  · rw [Program.meets_bind, execute, Program.meets_attempt]
    refine ⟨trivial, fun found _ => ?_⟩
    have holding₁ : Holding (⟨.getByEmail payload.email, found⟩ :: trace)
        (site.keys.activeTokenKey payload.email) jti := holding.cons id id
    match found with
    | .error failure => exact fun _ => holding₁
    | .ok none => exact failed holding₁
    | .ok (some user) =>
      simp only [id_eq]
      rw [Program.meets_bind]
      refine isSamePassword_meets user newPassword holding₁ (fun _ _ holding => fun _ => holding)
        fun same later holding₂ => ?_
      cases same with
      | true => exact failed holding₂
      | false =>
        simp only [Bool.false_eq_true, if_false]
        rw [Program.meets_bind, execute, Program.meets_attempt]
        refine ⟨trivial, fun hashed _ => ?_⟩
        have holding₃ : Holding (⟨.hashPassword newPassword, hashed⟩ :: later)
            (site.keys.activeTokenKey payload.email) jti := holding₂.cons id id
        match hashed with
        | .error failure => exact fun _ => holding₃
        | .ok hashedPassword =>
          simp only [id_eq]
          rw [Program.meets_bind, execute, Program.meets_attempt]
          refine ⟨⟨_, jti, presents, holding₃⟩, fun updated answered => ?_⟩
          match updated with
          | .error failure =>
            intro isApp
            cases isApp
            exact absurd rfl answered
          | .ok false => exact failed (holding₃.cons id id)
          | .ok true =>
            simp only [id_eq, if_true]
            rw [Program.meets_bind]
            refine confirmRevocation_meets _ fun result later unavailable => ?_
            match result with
            | .ok confirmed => exact fun isApp => by cases isApp
            | .error failure => exact fun isApp => absurd (by cases isApp; rfl) unavailable

theorem resetPassword_meets (token : ResetToken) (newPassword : String) :
    (resetPassword site token newPassword).Meets
      (discipline site (.resetPassword token newPassword)) (fun _ _ => True) [] := by
  rw [resetPassword, Program.meets_bind, perform, Program.meets_perform]
  refine ⟨trivial, fun verified answered => ?_⟩
  match verified with
  | none => trivial
  | some payload =>
    obtain rfl : payload = token := answered payload rfl
    cases isJti : payload.jti with
    | none =>
      simp only [isJti]
      trivial
    | some jti =>
      simp only [isJti]
      have presents : Presents site (.resetPassword payload newPassword)
          (site.keys.activeTokenKey payload.email) jti :=
        ⟨payload, newPassword, rfl, isJti, rfl⟩
      rw [Program.meets_tryCatch, redeem, Program.meets_bind, execute, Program.meets_attempt]
      refine ⟨⟨by simp [restores], by simp [consumes], by simp [writes], presents⟩,
        fun consumed answered => ?_⟩
      match consumed with
      | .error .app => exact absurd rfl answered
      | .error .tokenVersionUnavailable => trivial
      | .error .other => trivial
      | .ok false => trivial
      | .ok true =>
        have holding : Holding [⟨.consumeResetToken (site.keys.activeTokenKey payload.email) jti,
            .ok true⟩, ⟨.verifyResetToken payload, some payload⟩]
              (site.keys.activeTokenKey payload.email) jti :=
          ⟨List.mem_cons_self, by simp [restores], by simp [writes]⟩
        simp only [id_eq, if_true]
        refine (writePassword_meets newPassword presents holding).mono
          fun result later _ overload => ?_
        match result with
        | .ok value => trivial
        | .error .tokenVersionUnavailable => trivial
        | .error .other => trivial
        | .error .app =>
          simp only
          rw [Program.meets_bind]
          refine restoreToken_meets (overload rfl) fun result later _ => ?_
          cases result <;> trivial

theorem sendResetEmail_meets (email : String) :
    (sendResetEmail site email).Meets (discipline site (.sendResetEmail email))
      (fun _ _ => True) [] := by
  rw [sendResetEmail, Program.meets_tryCatch, Program.meets_bind, execute, Program.meets_attempt]
  refine ⟨trivial, fun found _ => ?_⟩
  match found with
  | .error failure => trivial
  | .ok none => trivial
  | .ok (some user) =>
    simp only [id_eq, Option.isNone_some, Bool.false_eq_true, if_false]
    rw [Program.meets_bind, execute, Program.meets_attempt]
    refine ⟨trivial, fun created _ => ?_⟩
    match created with
    | .error failure => trivial
    | .ok token =>
      simp only [id_eq]
      rw [Program.meets_bind, storeResetToken, Program.meets_bind, perform, Program.meets_perform]
      refine ⟨trivial, fun verified answered => ?_⟩
      simp only
      cases isJti : Option.bind verified ResetToken.jti with
      | none => trivial
      | some jti =>
        obtain ⟨payload, isPayload, isJti'⟩ := Option.bind_eq_some_iff.mp isJti
        obtain rfl : payload = token := answered payload isPayload
        simp only
        rw [Program.meets_bind, execute, Program.meets_attempt]
        refine ⟨⟨by simp [stores], email, payload, by simp, isJti'⟩, fun stored _ => ?_⟩
        match stored with
        | .error failure => trivial
        | .ok () => exact ⟨trivial, fun deferred _ => by cases deferred <;> trivial⟩

theorem handle_meets (request : Request) :
    (handle site request).Meets (discipline site request) (fun _ _ => True) [] := by
  cases request with
  | sendResetEmail email =>
    rw [handle, Program.meets_bind]
    refine (sendResetEmail_meets email).mono fun result _ _ _ => ?_
    cases result <;> trivial
  | resetPassword token newPassword =>
    rw [handle, Program.meets_bind]
    refine (resetPassword_meets token newPassword).mono fun result _ _ _ => ?_
    cases result <;> trivial

theorem executed_available {α : Type} {before after : Store} {value : α}
    {outcome : Except Failure α × Store} (possible : outcome ∈ executed before after value) :
    outcome.1 ≠ .error .app := by
  simp only [executed, List.mem_cons, List.not_mem_nil, or_false] at possible
  rcases possible with rfl | rfl | rfl <;> simp

theorem outcomes_answer (thread : Nat) (call : Call) (store : Store)
    (outcome : Reply call × Store) (possible : outcome ∈ outcomes site thread call store) :
    (discipline site request).answers call outcome.1 := by
  cases call with
  | verifyResetToken token =>
    obtain rfl := List.mem_singleton.mp possible
    intro payload verified
    simp only at verified
    split at verified
    · exact (Option.some.inj verified).symm
    · cases verified
  | consumeResetToken key jti | restoreResetToken key jti remaining =>
    simp only [outcomes] at possible
    split at possible <;> exact executed_available possible
  | updateByEmail email hashed =>
    simp only [outcomes] at possible
    split at possible
    · exact executed_available possible
    · simp only [List.mem_cons, List.not_mem_nil, or_false] at possible
      rcases possible with rfl | rfl <;> simp [discipline]
  | getByEmail email | revokeAllTokensForUser email =>
    simp only [outcomes, List.mem_cons, List.not_mem_nil, or_false] at possible
    rcases possible with rfl | rfl <;> simp [discipline]
  | _ => trivial

theorem server_obeys (site : Site) :
    (server site).Obeys (discipline site) (fun _ _ _ => True) where
  programs := handle_meets
  answers _ := outcomes_answer

end Programs

/-! ## One answer -/

/-- The store after a call that takes effect. -/
def applied (site : Site) (store : Store) : Call → Store
  | .createResetToken _ => { store with nextJti := store.nextJti + 1 }
  | .storeResetToken key jti expiresSeconds => store.setLink key jti expiresSeconds
  | .consumeResetToken key jti =>
      if store.activeJti key = some jti && store.marked jti then store.dropLink key jti else store
  | .restoreResetToken key jti remaining =>
      if (store.activeJti key).all (· == jti) then store.setLink key jti remaining else store
  | .updateByEmail email hashed => store.setPassword (site.keys.normalizeEmail email) hashed
  | _ => store

section Answers

variable {site : Site} {thread : Nat} {call : Call} {reply : Reply call} {store store' : Store}

theorem answered_state (possible : (reply, store') ∈ outcomes site thread call store) :
    store' = store ∨ store' = applied site store call := by
  cases call with
  | storeResetToken key jti expiresSeconds => exact commanded_state possible
  | consumeResetToken key jti | restoreResetToken key jti remaining =>
    simp only [outcomes] at possible
    simp only [applied]
    split at possible
    · rename_i passed
      rw [if_pos passed]
      exact commanded_state possible
    · exact (commanded_state possible).elim Or.inl Or.inl
  | updateByEmail email hashed =>
    simp only [outcomes] at possible
    split at possible
    · exact commanded_state possible
    · left
      simp only [List.mem_cons, Prod.mk.injEq, List.not_mem_nil, or_false] at possible
      tauto
  | createResetToken email =>
    simp only [outcomes, List.mem_cons, Prod.mk.injEq, List.not_mem_nil, or_false] at possible
    exact possible.elim (fun ok => Or.inr ok.2) fun failed => Or.inl failed.2
  | _ =>
    left
    simp only [outcomes, List.mem_cons, Prod.mk.injEq, List.not_mem_nil, or_false] at possible
    tauto

/-- A pointer that is there after an answer is an old one, or was set by one of the scripts. -/
theorem active_of_answer (possible : (reply, store') ∈ outcomes site thread call store)
    {key : String} {jti deadline : Nat} (isActive : store'.active key = some (jti, deadline)) :
    store.active key = some (jti, deadline) ∨
      (∃ seconds, call = .storeResetToken key jti seconds) ∨
        ∃ remaining, call = .restoreResetToken key jti remaining ∧
          ∀ other, store.activeJti key = some other → other = jti := by
  rcases answered_state possible with rfl | rfl
  · exact Or.inl isActive
  · cases call with
    | storeResetToken key' jti' seconds =>
      by_cases same : key = key'
      · subst same
        simp only [applied, Store.setLink, Function.update_self, Option.some.injEq,
          Prod.mk.injEq] at isActive
        exact Or.inr (Or.inl ⟨seconds, by rw [isActive.1]⟩)
      · left
        simpa [applied, Store.setLink, Function.update_of_ne same] using isActive
    | consumeResetToken key' jti' =>
      left
      simp only [applied] at isActive
      split at isActive
      · by_cases same : key = key'
        · simp [Store.dropLink, same] at isActive
        · simpa [Store.dropLink, Function.update_of_ne same] using isActive
      · exact isActive
    | restoreResetToken key' jti' remaining =>
      simp only [applied] at isActive
      split at isActive
      · rename_i free
        by_cases same : key = key'
        · subst same
          simp only [Store.setLink, Function.update_self, Option.some.injEq,
            Prod.mk.injEq] at isActive
          obtain ⟨rfl, -⟩ := isActive
          refine Or.inr (Or.inr ⟨remaining, rfl, fun other isOther => ?_⟩)
          simpa [isOther] using free
        · left
          simpa [Store.setLink, Function.update_of_ne same] using isActive
      · exact Or.inl isActive
    | _ => exact Or.inl isActive

/-- So is a marker. -/
theorem marker_of_answer (possible : (reply, store') ∈ outcomes site thread call store) {jti : Nat}
    (present : store'.markers jti ≠ none) :
    store.markers jti ≠ none ∨ (∃ key seconds, call = .storeResetToken key jti seconds) ∨
      ∃ key remaining, call = .restoreResetToken key jti remaining := by
  rcases answered_state possible with rfl | rfl
  · exact Or.inl present
  · cases call with
    | storeResetToken key jti' seconds =>
      by_cases same : jti = jti'
      · exact Or.inr (Or.inl ⟨key, seconds, by rw [same]⟩)
      · left
        simpa [applied, Store.setLink, Function.update_of_ne same] using present
    | consumeResetToken key jti' =>
      left
      simp only [applied] at present
      split at present
      · by_cases same : jti = jti'
        · simp [Store.dropLink, same] at present
        · simpa [Store.dropLink, Function.update_of_ne same] using present
      · exact present
    | restoreResetToken key jti' remaining =>
      by_cases same : jti = jti'
      · exact Or.inr (Or.inr ⟨key, remaining, by rw [same]⟩)
      · left
        simp only [applied] at present
        split at present
        · simpa [Store.setLink, Function.update_of_ne same] using present
        · exact present
    | _ => exact Or.inl present

/-- A link that is consumed was active and marked, and is not any more. -/
theorem consumed_of_answer {key : String} {jti : Nat}
    (possible : ((.ok true : Reply (.consumeResetToken key jti)), store') ∈
      outcomes site thread (.consumeResetToken key jti) store) :
    (∃ deadline, store.active key = some (jti, deadline)) ∧ store.markers jti ≠ none ∧
      store'.markers jti = none := by
  simp only [outcomes] at possible
  split at possible
  · rename_i isActive
    obtain ⟨-, rfl⟩ := commanded_ok possible
    simp only [Bool.and_eq_true, decide_eq_true_eq] at isActive
    refine ⟨?_, ?_, by simp [Store.dropLink]⟩
    · obtain ⟨⟨jti', deadline⟩, isEntry, isLive⟩ := Option.bind_eq_some_iff.mp isActive.1
      simp only at isLive
      split at isLive
      · obtain rfl := Option.some.inj isLive
        exact ⟨deadline, isEntry⟩
      · cases isLive
    · intro absent
      have marked := isActive.2
      simp [Store.marked, live, absent] at marked
  · cases (commanded_ok possible).1

theorem created_of_answer {email : String} {token : ResetToken}
    (possible : ((.ok token : Reply (.createResetToken email)), store') ∈
      outcomes site thread (.createResetToken email) store) :
    token.jti = some store.nextJti ∧ store'.nextJti = store.nextJti + 1 := by
  simp only [outcomes, List.mem_cons, Prod.mk.injEq, Except.ok.injEq, reduceCtorEq, false_and,
    List.not_mem_nil, or_false] at possible
  obtain ⟨rfl, rfl⟩ := possible
  exact ⟨rfl, rfl⟩

theorem nextJti_of_answer (possible : (reply, store') ∈ outcomes site thread call store) :
    store.nextJti ≤ store'.nextJti := by
  rcases answered_state possible with rfl | rfl
  · exact Nat.le_refl _
  · cases call with
    | createResetToken email => exact Nat.le_succ _
    | consumeResetToken key jti | restoreResetToken key jti remaining =>
      simp only [applied]
      split <;> exact Nat.le_refl _
    | _ => exact Nat.le_refl _

end Answers

/-! ## The order of the links -/

/-- No other link of the account was issued after this one was stored. -/
def Newest (history : List (Nat × Event)) (key : String) (jti : Nat) : Prop :=
  ∀ newer older thread other seconds,
    history = newer ++ (thread, ⟨.storeResetToken key other seconds, .ok ()⟩) :: older →
      other ≠ jti → ∃ entry ∈ newer, ∃ seconds', entry.2.1 = .storeResetToken key jti seconds'

/-- A link is not restored after a newer one was issued, unless another link is still active; and
no link is issued between the consumption of one and the password that it writes. -/
structure Timely (config : Server) (thread : Nat) (event : Event) : Prop where
  restored : ∀ key jti remaining, event.1 = .restoreResetToken key jti remaining →
    config.state.activeJti key = none → Newest config.history key jti
  written : writes event → ∀ newer older key jti,
    config.history = newer ++ (thread, ⟨.consumeResetToken key jti, .ok true⟩) :: older →
      ∀ thread' other seconds,
        (thread', ⟨.storeResetToken key other seconds, .ok ()⟩) ∉ newer

/-- An active link is the newest one, and so is a consumed one until another is issued. -/
structure Ordered (store : Store) (history : List (Nat × Event)) : Prop where
  active : ∀ key jti deadline, store.active key = some (jti, deadline) → Newest history key jti
  consumed : ∀ newer older thread key jti,
    history = newer ++ (thread, ⟨.consumeResetToken key jti, .ok true⟩) :: older →
      (∀ thread' other seconds,
        (thread', ⟨.storeResetToken key other seconds, .ok ()⟩) ∉ newer) → Newest history key jti

section Order

variable {site : Site} {thread : Nat} {call : Call} {reply : Reply call} {store store' : Store}
variable {history : List (Nat × Event)} {key : String} {jti : Nat}

theorem newest_cons {event : Event} (newest : Newest history key jti)
    (same : ∀ other seconds, event = ⟨.storeResetToken key other seconds, .ok ()⟩ → other = jti) :
    Newest ((thread, event) :: history) key jti := by
  intro newer older thread' other seconds split differs
  cases newer with
  | nil =>
    obtain ⟨isEntry, -⟩ := List.cons.inj split
    exact absurd (same other seconds (Prod.mk.inj isEntry).2) differs
  | cons head newer =>
    obtain ⟨entry, member, stored⟩ :=
      newest newer older thread' other seconds (List.cons.inj split).2 differs
    exact ⟨entry, List.mem_cons_of_mem _ member, stored⟩

theorem newest_stored {event : Event} {seconds : Nat}
    (isStore : event.1 = .storeResetToken key jti seconds) :
    Newest ((thread, event) :: history) key jti := by
  intro newer older thread' other seconds' split differs
  cases newer with
  | nil =>
    obtain ⟨isEntry, -⟩ := List.cons.inj split
    obtain ⟨-, rfl⟩ := Prod.mk.inj isEntry
    injection isStore with _ isJti _
    exact absurd isJti differs
  | cons head newer =>
    obtain ⟨isHead, -⟩ := List.cons.inj split
    exact ⟨head, List.mem_cons_self, seconds, isHead ▸ isStore⟩

theorem active_of_store {other seconds : Nat}
    (possible : ((.ok () : Reply (.storeResetToken key other seconds)), store') ∈
      outcomes site thread (.storeResetToken key other seconds) store) :
    ∃ deadline, store'.active key = some (other, deadline) := by
  obtain ⟨-, rfl⟩ := commanded_ok possible
  exact ⟨store.now + seconds * microsPerSecond, by simp [Store.setLink]⟩

theorem entry_of_live (isLive : store.activeJti key = some jti) :
    ∃ deadline, store.active key = some (jti, deadline) := by
  obtain ⟨⟨other, deadline⟩, isEntry, same⟩ := Option.bind_eq_some_iff.mp isLive
  simp only at same
  split at same
  · obtain rfl := Option.some.inj same
    exact ⟨deadline, isEntry⟩
  · cases same

theorem Ordered.answered {before after : Server} {event : Event}
    (answers : Answers (server site) Timely before after thread event)
    (ordered : Ordered before.state before.history) :
    Ordered after.state ((thread, event) :: before.history) := by
  obtain ⟨call, reply⟩ := event
  have possible : (reply, after.state) ∈ outcomes site thread call before.state := answers.possible
  constructor
  · intro key jti deadline isActive
    have same (other seconds : Nat)
        (isStore : (⟨call, reply⟩ : Event) = ⟨.storeResetToken key other seconds, .ok ()⟩) :
        other = jti := by
      cases isStore
      obtain ⟨deadline', isActive'⟩ := active_of_store possible
      exact (Prod.mk.inj (Option.some.inj (isActive'.symm.trans isActive))).1
    rcases active_of_answer possible isActive with old | ⟨seconds, isStore⟩ | ⟨remaining, rfl, free⟩
    · exact newest_cons (ordered.active key jti deadline old) same
    · exact newest_stored isStore
    · refine newest_cons ?_ same
      cases isLive : before.state.activeJti key with
      | none => exact answers.permitted.restored key jti remaining rfl isLive
      | some other =>
        obtain rfl := free other isLive
        obtain ⟨deadline', isEntry⟩ := entry_of_live isLive
        exact ordered.active key other deadline' isEntry
  · intro newer older actor key jti split unissued
    cases newer with
    | nil =>
      obtain ⟨isEntry, -⟩ := List.cons.inj split
      obtain ⟨rfl, isEvent⟩ := Prod.mk.inj isEntry
      cases isEvent
      obtain ⟨⟨deadline, isActive⟩, -⟩ := consumed_of_answer possible
      exact newest_cons (ordered.active key jti deadline isActive) fun _ _ isStore => by
        cases isStore
    | cons head newer =>
      obtain ⟨isHead, split'⟩ := List.cons.inj split
      refine newest_cons (ordered.consumed newer older actor key jti split' fun thread' other
        seconds issued => unissued thread' other seconds (List.mem_cons_of_mem _ issued)) ?_
      intro other seconds isStore
      exact absurd (by rw [← isHead, isStore]; exact List.mem_cons_self)
        (unissued thread other seconds)

theorem ordered_along {start : Store} {config : Server}
    (run : Reaches (server site) Timely (Config.start start) config) :
    Ordered config.state config.history := by
  refine run.keeps Ordered ⟨fun key jti deadline _ newer older thread other seconds split => ?_,
    fun newer older thread key jti split => ?_⟩ ?_
    fun before after thread event _ answers ordered => ordered.answered answers
  · simp [Config.start] at split
  · simp [Config.start] at split
  · intro disturbance store history ordered
    cases disturbance <;> exact ⟨ordered.active, ordered.consumed⟩

end Order

/-! ## The owner of a link -/

/-- The thread has consumed the link and not restored it. -/
structure Owns (history : List (Nat × Event)) (thread jti : Nat) : Prop where
  consumed : ∃ key, (thread, ⟨.consumeResetToken key jti, .ok true⟩) ∈ history
  unrestored : ∀ event, (thread, event) ∈ history → ¬ restores event.1

/-- The link was outstanding at the start, or has been stored since. -/
def Known (first : Nat) (history : List (Nat × Event)) (jti : Nat) : Prop :=
  jti < first ∨ ∃ entry ∈ history, ∃ key seconds, entry.2.1 = .storeResetToken key jti seconds

/-- A marked link has no owner, and any other link has at most one. -/
structure Owned (first : Nat) (store : Store) (history : List (Nat × Event)) : Prop where
  bound : first ≤ store.nextJti
  created : ∀ thread email token jti, (thread, ⟨.createResetToken email, .ok token⟩) ∈ history →
    token.jti = some jti → first ≤ jti ∧ jti < store.nextJti
  creator : ∀ thread thread' email email' token token' jti,
    (thread, ⟨.createResetToken email, .ok token⟩) ∈ history → token.jti = some jti →
      (thread', ⟨.createResetToken email', .ok token'⟩) ∈ history → token'.jti = some jti →
        thread = thread'
  storedBy : ∀ thread key jti seconds reply,
    (thread, ⟨.storeResetToken key jti seconds, reply⟩) ∈ history →
      ∃ email token, (thread, ⟨.createResetToken email, .ok token⟩) ∈ history ∧
        token.jti = some jti
  marked : ∀ jti, store.markers jti ≠ none → Known first history jti
  redeemed : ∀ thread key jti, (thread, ⟨.consumeResetToken key jti, .ok true⟩) ∈ history →
    Known first history jti
  free : ∀ jti thread, store.markers jti ≠ none → ¬ Owns history thread jti
  owner : ∀ thread thread' jti, Owns history thread jti → Owns history thread' jti →
    thread = thread'
  writer : ∀ thread event, (thread, event) ∈ history → writes event →
    ∀ event', (thread, event') ∈ history → ¬ restores event'.1

section Owners

variable {site : Site} {thread first : Nat} {event : Event} {history : List (Nat × Event)}
variable {jti : Nat}

theorem Known.cons (known : Known first history jti) :
    Known first ((thread, event) :: history) jti := by
  refine known.imp_right ?_
  rintro ⟨entry, member, stored⟩
  exact ⟨entry, List.mem_cons_of_mem _ member, stored⟩

theorem Owns.old {owner : Nat} (owns : Owns ((thread, event) :: history) owner jti)
    (differs : ∀ key, owner = thread → event ≠ ⟨.consumeResetToken key jti, .ok true⟩) :
    Owns history owner jti := by
  obtain ⟨⟨key, consumed⟩, unrestored⟩ := owns
  refine ⟨⟨key, ?_⟩, fun event' member => unrestored event' (List.mem_cons_of_mem _ member)⟩
  rcases List.mem_cons.mp consumed with same | old
  · obtain ⟨isThread, isEvent⟩ := Prod.mk.inj same
    exact absurd isEvent.symm (differs key isThread)
  · exact old

theorem Holding.owns {config : Server} {key : String}
    (holding : Holding (config.trace thread) key jti) : Owns config.history thread jti where
  consumed := ⟨key, (Config.mem_trace _ _).mp holding.consumed⟩
  unrestored event member := holding.unrestored event ((Config.mem_trace _ _).mpr member)

theorem unused_owned (store : Store) (issued : ∀ jti, store.markers jti ≠ none → jti < store.nextJti) :
    Owned store.nextJti store [] where
  bound := Nat.le_refl _
  created _ _ _ _ member := by cases member
  creator _ _ _ _ _ _ _ member := by cases member
  storedBy _ _ _ _ _ member := by cases member
  marked jti present := Or.inl (issued jti present)
  redeemed _ _ _ member := by cases member
  free jti thread _ owns := by
    obtain ⟨key, member⟩ := owns.consumed
    cases member
  owner _ _ _ owns := by
    obtain ⟨key, member⟩ := owns.consumed
    cases member
  writer _ _ member := by cases member

/-- A request that stores a link has just created it, and nobody has consumed it. -/
theorem Owned.fresh {config : Server} {request : Request} {key : String} {seconds : Nat}
    (owned : Owned first config.state config.history)
    (allowed : (discipline site request).allows (config.trace thread)
      (.storeResetToken key jti seconds)) : ¬ Known first config.history jti := by
  obtain ⟨unstored, email, token, created, isJti⟩ := allowed
  have created' := (Config.mem_trace _ _).mp created
  rintro (old | ⟨⟨thread', event⟩, member, key', seconds', stored⟩)
  · have bound := (owned.created thread email token jti created' isJti).1
    omega
  · obtain ⟨call, reply⟩ := event
    simp only at stored
    subst stored
    obtain ⟨email', token', created'', isJti'⟩ := owned.storedBy thread' key' jti seconds' reply member
    obtain rfl := owned.creator thread thread' email email' token token' jti created' isJti
      created'' isJti'
    exact unstored _ ((Config.mem_trace _ _).mpr member) trivial

section Answer

variable {config : Server} {request : Request} {call : Call} {reply : Reply call} {store' : Store}

theorem write_allowed {trace : List Event} (written : writes ⟨call, reply⟩)
    (allowed : (discipline site request).allows trace call) :
    ∃ key jti, Presents site request key jti ∧ Holding trace key jti := by
  cases call with
  | updateByEmail email hashed => exact allowed
  | _ => exact written.elim

theorem restore_allowed {trace : List Event} (restored : restores call)
    (allowed : (discipline site request).allows trace call) :
    ∃ key jti, Holding trace key jti := by
  cases call with
  | restoreResetToken key jti remaining => exact ⟨key, jti, allowed⟩
  | _ => exact restored.elim

/-- An owner is an old one, or the thread that has just consumed the link. -/
theorem owner_cons
    (possible : (reply, store') ∈ outcomes site thread call config.state) {owner : Nat}
    (owns : Owns ((thread, ⟨call, reply⟩) :: config.history) owner jti) :
    Owns config.history owner jti ∨
      owner = thread ∧ config.state.markers jti ≠ none ∧ store'.markers jti = none := by
  by_cases isOld : ∀ key, owner = thread →
      (⟨call, reply⟩ : Event) ≠ ⟨.consumeResetToken key jti, .ok true⟩
  · exact Or.inl (owns.old isOld)
  · push Not at isOld
    obtain ⟨key, rfl, isEvent⟩ := isOld
    cases isEvent
    obtain ⟨-, marked, unmarked⟩ := consumed_of_answer possible
    exact Or.inr ⟨rfl, marked, unmarked⟩

theorem Owned.answered (owned : Owned first config.state config.history)
    (allowed : (discipline site request).allows (config.trace thread) call)
    (possible : (reply, store') ∈ outcomes site thread call config.state) :
    Owned first store' ((thread, ⟨call, reply⟩) :: config.history) where
  bound := owned.bound.trans (nextJti_of_answer possible)
  created actor email token jti member isJti := by
    rcases List.mem_cons.mp member with same | old
    · obtain ⟨rfl, isEvent⟩ := Prod.mk.inj same
      cases isEvent
      obtain ⟨isNext, next⟩ := created_of_answer possible
      have bound := owned.bound
      rw [isNext] at isJti
      obtain rfl := Option.some.inj isJti
      omega
    · obtain ⟨lower, upper⟩ := owned.created actor email token jti old isJti
      exact ⟨lower, upper.trans_le (nextJti_of_answer possible)⟩
  creator actor actor' email email' token token' jti member isJti member' isJti' := by
    rcases List.mem_cons.mp member with same | old <;>
      rcases List.mem_cons.mp member' with same' | old'
    · exact (Prod.mk.inj same).1.trans (Prod.mk.inj same').1.symm
    · obtain ⟨rfl, isEvent⟩ := Prod.mk.inj same
      cases isEvent
      have upper := (owned.created actor' email' token' jti old' isJti').2
      rw [(created_of_answer possible).1] at isJti
      obtain rfl := Option.some.inj isJti
      omega
    · obtain ⟨rfl, isEvent⟩ := Prod.mk.inj same'
      cases isEvent
      have upper := (owned.created actor email token jti old isJti).2
      rw [(created_of_answer possible).1] at isJti'
      obtain rfl := Option.some.inj isJti'
      omega
    · exact owned.creator actor actor' email email' token token' jti old isJti old' isJti'
  storedBy actor key jti seconds stored member := by
    rcases List.mem_cons.mp member with same | old
    · obtain ⟨rfl, isEvent⟩ := Prod.mk.inj same
      cases isEvent
      obtain ⟨-, email, token, created, isJti⟩ := allowed
      exact ⟨email, token, List.mem_cons_of_mem _ ((Config.mem_trace _ _).mp created), isJti⟩
    · obtain ⟨email, token, created, isJti⟩ := owned.storedBy actor key jti seconds stored old
      exact ⟨email, token, List.mem_cons_of_mem _ created, isJti⟩
  marked jti present := by
    rcases marker_of_answer possible present with old | ⟨key, seconds, isStore⟩ |
      ⟨key, remaining, rfl⟩
    · exact (owned.marked jti old).cons
    · exact Or.inr ⟨_, List.mem_cons_self, key, seconds, isStore⟩
    · have consumed := (Config.mem_trace _ _).mp (Holding.consumed allowed)
      exact (owned.redeemed thread key jti consumed).cons
  redeemed actor key jti member := by
    rcases List.mem_cons.mp member with same | old
    · obtain ⟨rfl, isEvent⟩ := Prod.mk.inj same
      cases isEvent
      exact (owned.marked jti (consumed_of_answer possible).2.1).cons
    · exact (owned.redeemed actor key jti old).cons
  free jti owner present owns := by
    rcases owner_cons possible owns with old | ⟨-, -, absent⟩
    · rcases marker_of_answer possible present with marked | ⟨key, seconds, rfl⟩ |
        ⟨key, remaining, rfl⟩
      · exact owned.free jti owner marked old
      · obtain ⟨key', consumed⟩ := old.consumed
        exact owned.fresh allowed (owned.redeemed owner key' jti consumed)
      · obtain rfl := owned.owner owner thread jti old (Holding.owns allowed)
        exact owns.unrestored _ List.mem_cons_self trivial
    · exact present absent
  owner actor actor' jti owns owns' := by
    rcases owner_cons possible owns with old | ⟨rfl, marked, -⟩
    · rcases owner_cons possible owns' with old' | ⟨-, marked, -⟩
      · exact owned.owner actor actor' jti old old'
      · exact absurd old (owned.free jti actor marked)
    · rcases owner_cons possible owns' with old' | ⟨rfl, -, -⟩
      · exact absurd old' (owned.free jti actor' marked)
      · rfl
  writer actor event member written event' member' := by
    rcases List.mem_cons.mp member with same | old <;>
      rcases List.mem_cons.mp member' with same' | old'
    · obtain ⟨-, rfl⟩ := Prod.mk.inj same
      obtain ⟨-, rfl⟩ := Prod.mk.inj same'
      intro restored
      cases call with
      | restoreResetToken key jti remaining => exact written
      | _ => exact restored
    · obtain ⟨rfl, rfl⟩ := Prod.mk.inj same
      obtain ⟨key, jti, -, holding⟩ := write_allowed written allowed
      exact holding.owns.unrestored event' old'
    · obtain ⟨rfl, rfl⟩ := Prod.mk.inj same'
      intro restored
      obtain ⟨key, jti, holding⟩ := restore_allowed restored allowed
      exact holding.unwritten event ((Config.mem_trace _ _).mpr old) written
    · exact owned.writer actor event old written event' old'

end Answer

theorem owned_along {start : Store} {config : Server}
    {permits : Server → Nat → Event → Prop}
    (issued : ∀ jti, start.markers jti ≠ none → jti < start.nextJti)
    (run : Reaches (server site) permits (Config.start start) config) :
    Owned start.nextJti config.state config.history := by
  refine run.keeps (Owned start.nextJti) (unused_owned start issued) ?_ ?_
  · intro disturbance store history owned
    cases disturbance <;>
      exact ⟨owned.bound, owned.created, owned.creator, owned.storedBy, owned.marked,
        owned.redeemed, owned.free, owned.owner, owned.writer⟩
  · intro before after thread event earlier answers owned
    obtain ⟨request, next, running⟩ := answers.running
    have allowed := (earlier.disciplined (server_obeys site) start).allows running
    exact owned.answered allowed answers.possible

end Owners

/-! ## Each password write -/

def requestOf (config : Server) (thread : Nat) : Option Request :=
  (config.threads[thread]?).map Thread.request

/-- Every password was written by a request for a link that was the newest one of its account
until then, and no password had been written with it before. -/
def NewestOnce (site : Site) (config : Server) : Prop :=
  ∀ newer older thread event, config.history = newer ++ (thread, event) :: older → writes event →
    ∃ request key jti, requestOf config thread = some request ∧ Presents site request key jti ∧
      Newest older key jti ∧ ∀ entry ∈ older, writes entry.2 → ∀ request',
        requestOf config entry.1 = some request' → ∀ key', ¬ Presents site request' key' jti

section Runs

variable {site : Site} {start : Store} {config : Server}
variable {permits : Server → Nat → Event → Prop}

/-- At each password write the request holds the link that it presents. -/
theorem write_holds (run : Reaches (server site) permits (Config.start start) config)
    {newer older : List (Nat × Event)} {thread : Nat} {event : Event}
    (split : config.history = newer ++ (thread, event) :: older) (written : writes event) :
    ∃ before after request key jti, Reaches (server site) permits (Config.start start) before ∧
      before.history = older ∧ Answers (server site) permits before after thread event ∧
        requestOf config thread = some request ∧ Presents site request key jti ∧
          Holding (before.trace thread) key jti := by
  obtain ⟨before, after, first, isOlder, answers, rest⟩ := run.answered_at split
  obtain ⟨request, next, running⟩ := answers.running
  have allowed := (first.disciplined (server_obeys site) start).allows running
  obtain ⟨key, jti, presents, holding⟩ := write_allowed written allowed
  refine ⟨before, after, request, key, jti, first, isOlder, answers, ?_, presents, holding⟩
  obtain ⟨last, present, same, -⟩ := (Reaches.thread_persists (.head answers.step rest)) running
  rw [requestOf, present, Option.map_some, same]

theorem presents_jti {request : Request} {key key' : String} {jti jti' : Nat}
    (presents : Presents site request key jti) (presents' : Presents site request key' jti') :
    jti = jti' := by
  obtain ⟨token, password, rfl, isJti, -⟩ := presents
  obtain ⟨token', password', isRequest, isJti', -⟩ := presents'
  cases isRequest
  exact Option.some.inj (isJti.symm.trans isJti')

/-- In every run in which no stale link is restored and no link is issued while a request is
writing a password, every password is written with the newest link of its account, and with each
link at most once. -/
theorem reset_links_newest_once (site : Site) (start : Store)
    (issued : ∀ jti, start.markers jti ≠ none → jti < start.nextJti)
    (run : Reaches (server site) Timely (Config.start start) config) : NewestOnce site config := by
  intro newer older thread event split written
  obtain ⟨before, after, request, key, jti, first, rfl, answers, isRequest, presents, holding⟩ :=
    write_holds run split written
  refine ⟨request, key, jti, isRequest, presents, ?_, ?_⟩
  · obtain ⟨newer', older', split'⟩ :=
      List.append_of_mem ((Config.mem_trace _ _).mp holding.consumed)
    exact (ordered_along first).consumed newer' older' thread key jti split'
      (answers.permitted.written written newer' older' key jti split')
  · intro entry member written' request' isRequest' key' presents'
    obtain ⟨thread', event'⟩ := entry
    obtain ⟨newer', older', split'⟩ := List.append_of_mem member
    have earlier : config.history =
        (newer ++ (thread, event) :: newer') ++ (thread', event') :: older' := by
      rw [split, split', List.append_assoc, List.cons_append]
    obtain ⟨before', after', request'', key'', jti', -, isOlder, -, isRequest'', presents'',
      holding'⟩ := write_holds run earlier written'
    obtain rfl := Option.some.inj (isRequest'.symm.trans isRequest'')
    obtain rfl := presents_jti presents' presents''
    have owned := owned_along issued first
    have consumed := (Config.mem_trace _ _).mp holding'.consumed
    have owns : Owns before.history thread' jti := by
      refine ⟨⟨key'', ?_⟩, owned.writer thread' event' member written'⟩
      rw [split', ← isOlder]
      exact List.mem_append_right _ (List.mem_cons_of_mem _ consumed)
    obtain rfl := owned.owner thread' thread jti owns holding.owns
    exact holding.unwritten event' ((Config.mem_trace _ _).mpr member) written'

end Runs

/-! ## A stale restore -/

def plainSite : Site where
  keys := ⟨id, id, id, id⟩
  characters := ⟨id, Char.isUpper, Char.isLower, Char.isDigit⟩
  genuine _ := true
  verifyHash password hashed := password == hashed
  hash := id
  resetTokenExpireMinutes := 30

/-- Ann has an account and has asked for no link yet. -/
def annsStore : Store where
  now := 0
  nextJti := 1
  active _ := none
  markers _ := none
  accounts := [⟨"ann@example.com", some "Passw0rd"⟩]

def annsToken (jti : Nat) : ResetToken :=
  ⟨"ann@example.com", some jti, some (1800 * microsPerSecond)⟩

/-- Every link so far is the one that is restored, and none was issued after a consumption. -/
def undisturbed (config : Server) (event : Event) : Bool :=
  (match event.1 with
    | .restoreResetToken _ jti _ => config.history.all fun entry => match entry.2.1 with
        | .storeResetToken _ other _ => other == jti
        | _ => true
    | _ => true) &&
  decide (config.history.Pairwise fun later earlier =>
    (match later.2.1, earlier.2.1 with
      | .storeResetToken _ _ _, .consumeResetToken _ _ => false
      | _, _ => true) = true)

theorem timely_of_undisturbed (config : Server) (thread : Nat) (event : Event)
    (passed : undisturbed config event = true) : Timely config thread event := by
  rw [undisturbed, Bool.and_eq_true, decide_eq_true_eq] at passed
  constructor
  · intro key jti remaining isRestore _ newer older thread' other seconds split differs
    obtain ⟨only, -⟩ := passed
    rw [isRestore] at only
    simp only [List.all_eq_true, split] at only
    have same := only _ (List.mem_append_right _ List.mem_cons_self)
    simp only [beq_iff_eq] at same
    exact absurd same differs
  · intro _ newer older key jti split thread' other seconds issued
    obtain ⟨-, ordered⟩ := passed
    rw [split, List.pairwise_append] at ordered
    have late := ordered.2.2 _ issued _ List.mem_cons_self
    simp at late

/-- The first attempt is refused and restores the link, the second one succeeds. -/
def resetInTwoAttempts : List (Move Request Disturbance) :=
  .begin (.sendResetEmail "ann@example.com") :: Move.turns 0 5 ++
    .begin (.resetPassword (annsToken 1) "weak") :: Move.turns 1 4 ++
      .begin (.resetPassword (annsToken 1) "NewPassw0rd") :: Move.turns 2 7

theorem annsStore_issued (jti : Nat) (present : annsStore.markers jti ≠ none) :
    jti < annsStore.nextJti :=
  absurd rfl present

theorem reset_links_newest_once_ann :
    NewestOnce plainSite
      ((Config.start annsStore).follow (server plainSite) resetInTwoAttempts) :=
  reset_links_newest_once plainSite annsStore annsStore_issued
    (Config.follow_permitted (server plainSite) (fun config _ event => undisturbed config event)
      timely_of_undisturbed _ resetInTwoAttempts (by decide +kernel))

/-- The first link is consumed with a weak password; the second one is issued and used; then the
first one is restored, and used as well. -/
def staleRestore : List (Move Request Disturbance) :=
  .begin (.sendResetEmail "ann@example.com") :: Move.turns 0 5 ++
    .begin (.resetPassword (annsToken 1) "weak") :: Move.turns 1 2 ++
      .begin (.sendResetEmail "ann@example.com") :: Move.turns 2 5 ++
        .begin (.resetPassword (annsToken 2) "NewPassw0rd") :: Move.turns 3 7 ++
          Move.turns 1 2 ++
            .begin (.resetPassword (annsToken 1) "OldPassw0rd") :: Move.turns 4 6

/-- The link that an entry stores, and whether that was acknowledged. -/
def storedLink (entry : Nat × Event) : Option (String × Nat × Bool) :=
  match entry.2 with
  | ⟨.storeResetToken key jti _, .ok _⟩ => some (key, jti, true)
  | ⟨.storeResetToken key jti _, .error _⟩ => some (key, jti, false)
  | _ => none

theorem not_newest {history : List (Nat × Event)} {key : String} {jti other : Nat}
    (last : history.findSome? storedLink = some (key, other, true)) (differs : other ≠ jti) :
    ¬ Newest history key jti := by
  intro newest
  obtain ⟨newer, ⟨thread, event⟩, older, split, isStored, none⟩ :=
    List.findSome?_eq_some_iff.mp last
  unfold storedLink at isStored
  simp only at isStored
  split at isStored
  · rename_i key' jti' seconds done
    cases isStored
    obtain ⟨⟨thread', call, reply⟩, member, seconds', isStore⟩ :=
      newest newer older thread other seconds split differs
    have unstored := none _ member
    simp only at isStore
    subst isStore
    cases reply <;> simp [storedLink] at unstored
  · cases isStored
  · cases isStored

/-- The newest entry of the history is a password written with the first link, although the second
one was issued later. -/
def firstLinkWrites (config : Server) : Bool :=
  match config.history with
  | (4, ⟨.updateByEmail _ _, .ok true⟩) :: older =>
      older.findSome? storedLink ==
          some (plainSite.keys.activeTokenKey "ann@example.com", 2, true) &&
        requestOf config 4 == some (.resetPassword (annsToken 1) "OldPassw0rd")
  | _ => false

/-- An older link is restored after a newer one has been used, and leads to a second password. -/
theorem reset_links_stale :
    ¬ ∀ (site : Site) (start : Store), (∀ jti, start.markers jti ≠ none → jti < start.nextJti) →
      ∀ config : Server, Reaches (server site) anyCall (Config.start start) config →
        NewestOnce site config := by
  intro kept
  have writesFirst : firstLinkWrites
      ((Config.start annsStore).follow (server plainSite) staleRestore) = true := by
    decide +kernel
  have law := kept plainSite annsStore annsStore_issued _
    (Config.follow_reaches (server plainSite) _ staleRestore)
  generalize (Config.start annsStore).follow (server plainSite) staleRestore = config at *
  unfold firstLinkWrites at writesFirst
  split at writesFirst
  · rename_i email hashed older isHistory
    simp only [Bool.and_eq_true, beq_iff_eq] at writesFirst
    obtain ⟨request, key, jti, isRequest, ⟨token, password, rfl, isJti, rfl⟩, newest, -⟩ :=
      law [] older 4 _ isHistory trivial
    rw [writesFirst.2] at isRequest
    cases isRequest
    obtain rfl := Option.some.inj isJti
    exact not_newest writesFirst.1 (by decide) newest
  · cases writesFirst

end MysticAuth.PasswordReset
