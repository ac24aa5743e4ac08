import MysticAuth.Interleaving.Writes
import MysticAuth.OAuth.OAuth2Login

/-!
# Step-up states and logins

A callback takes the verifier of its state and then reads the context.  In
between, and before, a callback that reports an error can read the context of
the same state first; the state then looks like that of a login.
-/

set_option autoImplicit false

namespace MysticAuth.OAuth

open Interleaving

/-! ## What a callback does with a state -/

/-- The verifier was taken, and no context was found: the thread's first two calls. -/
def tookForLogin (state verifier : Nat) : List Event :=
  [⟨.getdelContext state, .ok none⟩, ⟨.getdelState state, .ok (some verifier)⟩]

/-- Only a callback that found no context next to its state signs somebody in. -/
def discipline (request : Request) : Discipline Reply where
  allows trace call := match call with
    | .stepUpContext _ => ∀ new, ⟨.newState, new⟩ ∉ trace
    | .setState state _ => ∃ new, ⟨.newState, new⟩ ∈ trace ∧ new.state = state
    | .loginOrCreateUser _ => ∃ callback state verifier, request = .callback callback ∧
        callback.state = some state ∧ tookForLogin state verifier <:+ trace
    | _ => True
  answers _ _ := True

def isPlain : Call → Prop
  | .stepUpContext _ => False
  | .setState _ _ => False
  | .loginOrCreateUser _ => False
  | _ => True

section Handlers

variable {request : Request} {trace : List Event}

theorem plain_meets {α : Type} {post : Except Unit α → List Event → Prop}
    {program : Service α} (confined : program.Confined isPlain)
    (returns : ∀ result later, post result later) :
    program.Meets (discipline request) post trace := by
  refine confined.meets (fun later _ call plain => ?_) fun result added _ => returns result _
  cases call <;> trivial

theorem generateAndStoreState_meets (stepUpContext : Option StepUpContext)
    {post : Except Unit Nat → List Event → Prop}
    (returns : ∀ result later, post result later) :
    (generateAndStoreState stepUpContext).Meets (discipline request) post trace := by
  simp only [generateAndStoreState, perform, execute, Program.meets_bind, Program.meets_perform,
    Program.meets_attempt]
  refine ⟨trivial, fun new _ => ⟨⟨new, List.mem_cons_self, rfl⟩, fun reply _ => ?_⟩⟩
  cases reply with
  | error failure => exact returns _ _
  | ok stored =>
    cases stepUpContext with
    | none => exact returns _ _
    | some context =>
      refine ⟨trivial, fun reply _ => ?_⟩
      cases reply with
      | error failure => exact returns _ _
      | ok bound => exact returns _ _

theorem handleStepUpCallback_confined (sameAccount : String → String → Bool)
    (context : StepUpContext) (code : String) (codeVerifier : Nat) :
    (handleStepUpCallback sameAccount context code codeVerifier).Confined isPlain := by
  refine Program.confined_tryCatch _ _ ?_ fun _ => trivial
  refine Program.confined_bind _ _ ⟨trivial, fun _ => trivial⟩ fun accessToken? => ?_
  match accessToken? with
  | none => trivial
  | some accessToken =>
    refine Program.confined_bind _ _ ⟨trivial, fun _ => trivial⟩ fun userInfo => ?_
    split
    · trivial
    · split
      · trivial
      · refine Program.confined_bind _ _ ⟨trivial, fun _ => trivial⟩ fun active => ?_
        split
        · exact Program.confined_bind _ _ ⟨trivial, fun _ => trivial⟩ fun _ => trivial
        · exact Program.confined_bind _ _ ⟨trivial, fun _ => trivial⟩ fun _ => trivial

theorem finishLogin_meets (code : String) (codeVerifier : Nat)
    {post : Except Unit Redirect → List Event → Prop} {callback : Callback}
    {state verifier : Nat} (isCallback : request = .callback callback)
    (isState : callback.state = some state) (took : tookForLogin state verifier <:+ trace)
    (returns : ∀ result later, post result later) :
    (finishLogin code codeVerifier).Meets (discipline request) post trace := by
  simp only [finishLogin, perform, Program.meets_bind, Program.meets_perform]
  refine ⟨trivial, fun accessToken? _ => ?_⟩
  cases accessToken? with
  | none => exact returns _ _
  | some accessToken =>
    simp only [Program.meets_bind, Program.meets_perform]
    refine ⟨trivial, fun userInfo? _ => ?_⟩
    cases userInfo? with
    | none => exact returns _ _
    | some userInfo =>
      simp only
      split
      · exact returns _ _
      · split
        · exact returns _ _
        · simp only [Program.meets_bind, Program.meets_perform]
          refine ⟨⟨callback, state, verifier, isCallback, isState, ?_⟩, fun result _ =>
            ⟨trivial, fun _ _ => ?_⟩⟩
          · exact (took.trans (List.suffix_cons _ _)).trans (List.suffix_cons _ _)
          · cases result with
            | tokens => exact returns _ _
            | none => exact returns _ _
            | rejected code => exact returns _ _

theorem handleOAuth2Callback_meets (sameAccount : String → String → Bool) (callback : Callback) :
    (handleOAuth2Callback sameAccount callback).Meets (discipline (.callback callback))
      (fun _ _ => True) [] := by
  have rejected : rejectState.Confined isPlain :=
    Program.confined_bind _ _ ⟨trivial, fun _ => trivial⟩ fun _ => trivial
  rw [handleOAuth2Callback, Program.meets_tryCatch]
  split
  · rename_i code _ _
    match isState : callback.state with
    | none => exact plain_meets rejected fun result _ => by cases result <;> trivial
    | some state =>
      simp only
      split
      · exact plain_meets rejected fun result _ => by cases result <;> trivial
      · rw [Program.meets_bind, consumeState, execute, Program.meets_attempt]
        refine ⟨trivial, fun reply _ => ?_⟩
        match reply with
        | .error _ => trivial
        | .ok none => exact plain_meets rejected fun result _ => by cases result <;> trivial
        | .ok (some verifier) =>
          simp only [id_eq]
          rw [Program.meets_bind, consumeStepUpContext, execute, Program.meets_attempt]
          refine ⟨trivial, fun reply _ => ?_⟩
          match reply with
          | .error _ => trivial
          | .ok (some context) =>
            exact plain_meets (handleStepUpCallback_confined sameAccount context code verifier)
              fun result _ => by cases result <;> trivial
          | .ok none =>
            exact finishLogin_meets code verifier rfl isState (List.suffix_refl _)
              fun result _ => by cases result <;> trivial
  · match callback.state with
    | none => trivial
    | some state =>
      refine plain_meets ?_ fun result _ => by cases result <;> trivial
      refine Program.confined_bind _ _ ⟨trivial, fun _ => trivial⟩ fun context => ?_
      split
      · trivial
      · exact Program.confined_bind _ _ ⟨trivial, fun _ => trivial⟩ fun _ => trivial

theorem handle_meets (sameAccount : String → String → Bool) (request : Request) :
    (handle sameAccount request).Meets (discipline request) (fun _ _ => True) [] := by
  cases request with
  | loginInitiate =>
    rw [handle, handleOAuth2LoginInitiate, Program.meets_tryCatch, Program.meets_bind]
    refine generateAndStoreState_meets none fun result later => ?_
    cases result <;> trivial
  | stepUpInitiate session =>
    rw [handle, initiateStepUp, Program.meets_tryCatch, Program.meets_bind, execute,
      Program.meets_attempt]
    refine ⟨fun _ => List.not_mem_nil, fun reply _ => ?_⟩
    match reply with
    | .error _ => trivial
    | .ok context =>
      simp only [id_eq]
      rw [Program.meets_bind]
      refine generateAndStoreState_meets (some context) fun result later => ?_
      cases result <;> trivial
  | callback callback => exact handleOAuth2Callback_meets sameAccount callback

end Handlers

theorem server_obeys (google : Google) (sameAccount : String → String → Bool) :
    (server google sameAccount).Obeys discipline (fun _ _ _ => True) where
  programs := handle_meets sameAccount
  answers _ _ _ _ _ _ := trivial

/-! ## One answer -/

/-- Valkey after a call that takes effect. -/
def applied (valkey : Valkey) : Call → Valkey
  | .newState => { valkey with nextToken := valkey.nextToken + 2 }
  | .setState state verifier =>
      { valkey with
        states := Function.update valkey.states state (some (verifier, valkey.now + stateTtl)) }
  | .setContext state context =>
      { valkey with
        contexts := Function.update valkey.contexts state (some (context, valkey.now + stateTtl)) }
  | .getdelState state => { valkey with states := Function.update valkey.states state none }
  | .getdelContext state => { valkey with contexts := Function.update valkey.contexts state none }
  | _ => valkey

section Answers

variable {google : Google} {thread : Nat} {call : Call} {reply : Reply call}
variable {valkey valkey' : Valkey}

theorem answered_state (possible : (reply, valkey') ∈ outcomes google thread call valkey) :
    valkey' = valkey ∨ valkey' = applied valkey call := by
  cases call with
  | newState | logSecurityEvent =>
    exact Or.inr (Prod.mk.inj (List.mem_singleton.mp possible)).2
  | setState _ _ | setContext _ _ | getdelState _ | getdelContext _ =>
    exact commanded_state possible
  | _ =>
    left
    simp only [outcomes, List.mem_cons, Prod.mk.injEq, List.not_mem_nil, or_false] at possible
    tauto

theorem applied_nextToken (valkey : Valkey) (call : Call) :
    valkey.nextToken ≤ (applied valkey call).nextToken := by
  cases call <;> simp [applied]

theorem nextToken_of_answer (possible : (reply, valkey') ∈ outcomes google thread call valkey) :
    valkey.nextToken ≤ valkey'.nextToken := by
  rcases answered_state possible with rfl | rfl
  · exact Nat.le_refl _
  · exact applied_nextToken valkey call

/-- Only storing a state makes it known. -/
theorem states_of_answer (possible : (reply, valkey') ∈ outcomes google thread call valkey)
    {state : Nat} (stored : valkey'.states state ≠ none) :
    valkey.states state ≠ none ∨ ∃ verifier, call = .setState state verifier := by
  rcases answered_state possible with rfl | rfl
  · exact Or.inl stored
  · cases call with
    | setState other verifier =>
      by_cases same : other = state
      · exact Or.inr ⟨verifier, by rw [same]⟩
      · left
        simpa [applied, Function.update_of_ne (Ne.symm same)] using stored
    | getdelState other =>
      left
      by_cases same : state = other
      · simp [applied, same] at stored
      · simpa [applied, Function.update_of_ne same] using stored
    | _ => exact Or.inl stored

/-- Only reading a context removes it. -/
theorem contexts_of_answer (possible : (reply, valkey') ∈ outcomes google thread call valkey)
    {state : Nat} (unread : call ≠ .getdelContext state)
    (stored : valkey.contexts state ≠ none) : valkey'.contexts state ≠ none := by
  rcases answered_state possible with rfl | rfl
  · exact stored
  · cases call with
    | setContext other context =>
      by_cases same : state = other
      · simp [applied, same]
      · simpa [applied, Function.update_of_ne same] using stored
    | getdelContext other =>
      have differs : state ≠ other := fun same => unread (by rw [same])
      simpa [applied, Function.update_of_ne differs] using stored
    | _ => exact stored

theorem context_stored {state : Nat} {context : StepUpContext}
    (possible : ((.ok () : Reply (.setContext state context)), valkey') ∈
      outcomes google thread (.setContext state context) valkey) :
    valkey'.contexts state ≠ none := by
  obtain ⟨-, rfl⟩ := commanded_ok possible
  simp

theorem state_taken {state verifier : Nat}
    (possible : ((.ok (some verifier) : Reply (.getdelState state)), valkey') ∈
      outcomes google thread (.getdelState state) valkey) : valkey.states state ≠ none := by
  obtain ⟨isLive, -⟩ := commanded_ok possible
  intro absent
  simp [absent, live] at isLive

/-- A context that is read as missing is missing, or has expired. -/
theorem context_missing {state : Nat}
    (possible : ((.ok none : Reply (.getdelContext state)), valkey') ∈
      outcomes google thread (.getdelContext state) valkey) :
    ∀ context deadline, valkey.contexts state = some (context, deadline) →
      deadline ≤ valkey.now := by
  obtain ⟨isLive, -⟩ := commanded_ok possible
  intro context deadline present
  by_contra early
  simp [present, live, Nat.lt_of_not_le early] at isLive

theorem newState_fresh {new : NewState}
    (possible : ((new : Reply .newState), valkey') ∈ outcomes google thread .newState valkey) :
    new.state = valkey.nextToken ∧ new.state < valkey'.nextToken := by
  obtain ⟨rfl, rfl⟩ := Prod.mk.inj (List.mem_singleton.mp possible)
  exact ⟨rfl, by simp⟩

end Answers

/-! ## Step-up states along a run -/

/-- The state was created together with a step-up context. -/
def StepUpState (history : List (Nat × Event)) (state : Nat) : Prop :=
  ∃ thread session context new, (thread, ⟨.stepUpContext session, .ok context⟩) ∈ history ∧
    (thread, ⟨.newState, new⟩) ∈ history ∧ new.state = state

/-- The thread has taken the verifier, and not yet read the context. -/
def Halfway (history : List (Nat × Event)) (state thread : Nat) : Prop :=
  ∃ verifier, traceOf history thread = [⟨.getdelState state, .ok (some verifier)⟩]

/-- No callback reads the context of a step-up state before or while another one takes the
verifier, and the context is stored and does not expire in between. -/
structure ContextIntact (config : Server) (thread : Nat) (event : Event) (state : Nat) :
    Prop where
  taken : ∀ verifier, event = ⟨.getdelState state, .ok (some verifier)⟩ →
    (∃ other context, (other, ⟨.setContext state context, .ok ()⟩) ∈ config.history) ∧
      ∀ other reply, (other, ⟨.getdelContext state, reply⟩) ∈ config.history → other = thread
  read : event.1 = .getdelContext state → ∀ other, Halfway config.history state other →
    other = thread ∧ ∀ context deadline,
      config.state.contexts state = some (context, deadline) → config.state.now < deadline

def contextIntact (config : Server) (thread : Nat) (event : Event) : Prop :=
  ∀ state, StepUpState config.history state → ContextIntact config thread event state

section Histories

variable {history : List (Nat × Event)} {thread other state verifier : Nat}
variable {event : Event}

theorem StepUpState.earlier (stepUp : StepUpState ((thread, event) :: history) state)
    (first : ∀ session, event.1 = .stepUpContext session →
      ∀ new, ⟨.newState, new⟩ ∉ traceOf history thread) :
    StepUpState history state ∨ ∃ new, event = ⟨.newState, new⟩ ∧ new.state = state := by
  obtain ⟨actor, session, context, new, initiated, created, isState⟩ := stepUp
  rcases List.mem_cons.mp created with same | oldState
  · exact Or.inr ⟨new, (Prod.mk.inj same).2.symm, isState⟩
  · rcases List.mem_cons.mp initiated with same | oldContext
    · obtain ⟨rfl, rfl⟩ := Prod.mk.inj same
      exact absurd ((mem_traceOf history _ _).mpr oldState) (first session rfl new)
    · exact Or.inl ⟨actor, session, context, new, oldContext, oldState, isState⟩

theorem Halfway.taken (halfway : Halfway history state thread) :
    ∃ verifier, (thread, ⟨.getdelState state, .ok (some verifier)⟩) ∈ history := by
  obtain ⟨verifier, isTrace⟩ := halfway
  exact ⟨verifier, (mem_traceOf _ _ _).mp (by simp [isTrace])⟩

theorem Halfway.earlier (halfway : Halfway ((thread, event) :: history) state other) :
    (thread ≠ other ∧ Halfway history state other) ∨
      (thread = other ∧ traceOf history thread = [] ∧
        ∃ verifier, event = ⟨.getdelState state, .ok (some verifier)⟩) := by
  obtain ⟨verifier, isTrace⟩ := halfway
  by_cases isThread : thread = other
  · subst isThread
    rw [traceOf_cons_self] at isTrace
    obtain ⟨isEvent, isNil⟩ := List.cons.inj isTrace
    exact Or.inr ⟨rfl, isNil, verifier, isEvent⟩
  · rw [traceOf_cons_ne _ isThread] at isTrace
    exact Or.inl ⟨isThread, verifier, isTrace⟩

theorem took_taken (took : tookForLogin state verifier <:+ traceOf history thread) :
    (thread, ⟨.getdelState state, .ok (some verifier)⟩) ∈ history :=
  (mem_traceOf _ _ _).mp (took.subset (by simp [tookForLogin]))

theorem took_earlier
    (took : tookForLogin state verifier <:+ traceOf ((thread, event) :: history) other) :
    tookForLogin state verifier <:+ traceOf history other ∨
      (thread = other ∧ event = ⟨.getdelContext state, .ok none⟩ ∧
        Halfway history state thread) := by
  by_cases isThread : thread = other
  · subst isThread
    rw [traceOf_cons_self] at took
    rcases List.suffix_cons_iff.mp took with whole | older
    · obtain ⟨isEvent, isTrace⟩ := List.cons.inj whole
      exact Or.inr ⟨rfl, isEvent.symm, verifier, isTrace.symm⟩
    · exact Or.inl older
  · rw [traceOf_cons_ne _ isThread] at took
    exact Or.inl took

end Histories

/-- A step-up state has its context until a callback that took the verifier reads it. -/
structure Intact (valkey : Valkey) (history : List (Nat × Event)) : Prop where
  statesBelow : ∀ state, valkey.states state ≠ none → state < valkey.nextToken
  newBelow : ∀ thread new, (thread, ⟨.newState, new⟩) ∈ history → new.state < valkey.nextToken
  tookBelow : ∀ thread state verifier,
    (thread, ⟨.getdelState state, .ok (some verifier)⟩) ∈ history → state < valkey.nextToken
  stored : ∀ state thread context, (thread, ⟨.setContext state context, .ok ()⟩) ∈ history →
    (∀ other reply, (other, ⟨.getdelContext state, reply⟩) ∉ history) →
      valkey.contexts state ≠ none
  halfway : ∀ state thread, StepUpState history state → Halfway history state thread →
    valkey.contexts state ≠ none
  unread : ∀ state thread verifier, StepUpState history state →
    ¬ tookForLogin state verifier <:+ traceOf history thread

section Runs

variable {google : Google} {sameAccount : String → String → Bool} {start : Valkey}
variable {before after config : Server} {thread : Nat} {event : Event}

theorem Intact.step (intact : Intact before.state before.history)
    (run : Reaches (server google sameAccount) contextIntact (Config.start start) before)
    (answers : Answers (server google sameAccount) contextIntact before after thread event) :
    Intact after.state ((thread, event) :: before.history) := by
  obtain ⟨request, next, running⟩ := answers.running
  have allowed := (run.disciplined (server_obeys google sameAccount) start).allows running
  have possible : (event.2, after.state) ∈ outcomes google thread event.1 before.state :=
    answers.possible
  have permitted := answers.permitted
  have grows : before.state.nextToken ≤ after.state.nextToken := nextToken_of_answer possible
  have stepUpEarlier {state : Nat} (stepUp : StepUpState ((thread, event) :: before.history) state)
      (old : state < before.state.nextToken) : StepUpState before.history state := by
    refine (stepUp.earlier fun session isCall => ?_).resolve_right ?_
    · rw [isCall] at allowed
      exact allowed
    · rintro ⟨new, rfl, rfl⟩
      exact absurd (newState_fresh possible).1 (Nat.ne_of_lt old)
  constructor
  case statesBelow =>
    intro state stored
    rcases states_of_answer possible stored with old | ⟨verifier, isCall⟩
    · exact Nat.lt_of_lt_of_le (intact.statesBelow state old) grows
    · rw [isCall] at allowed
      obtain ⟨new, created, rfl⟩ := allowed
      exact Nat.lt_of_lt_of_le (intact.newBelow thread new ((mem_traceOf _ _ _).mp created)) grows
  case newBelow =>
    intro actor new member
    rcases List.mem_cons.mp member with same | old
    · obtain ⟨-, rfl⟩ := Prod.mk.inj same
      exact (newState_fresh possible).2
    · exact Nat.lt_of_lt_of_le (intact.newBelow actor new old) grows
  case tookBelow =>
    intro actor state verifier member
    rcases List.mem_cons.mp member with same | old
    · obtain ⟨-, rfl⟩ := Prod.mk.inj same
      exact Nat.lt_of_lt_of_le (intact.statesBelow state (state_taken possible)) grows
    · exact Nat.lt_of_lt_of_le (intact.tookBelow actor state verifier old) grows
  case stored =>
    intro state actor context member unread
    rcases List.mem_cons.mp member with same | old
    · obtain ⟨-, rfl⟩ := Prod.mk.inj same
      exact context_stored possible
    · refine contexts_of_answer possible ?_
        (intact.stored state actor context old fun other reply member' =>
          unread other reply (List.mem_cons_of_mem _ member'))
      obtain ⟨call, reply⟩ := event
      rintro rfl
      exact unread thread reply List.mem_cons_self
  case halfway =>
    intro state other stepUp halfway
    rcases halfway.earlier with ⟨differs, old⟩ | ⟨rfl, untraced, verifier, rfl⟩
    · obtain ⟨verifier, taken⟩ := old.taken
      have stepUp' := stepUpEarlier stepUp (intact.tookBelow other state verifier taken)
      refine contexts_of_answer possible (fun isCall => ?_) (intact.halfway state other stepUp' old)
      exact differs ((permitted state stepUp').read isCall other old).1.symm
    · have stepUp' := stepUpEarlier stepUp (intact.statesBelow state (state_taken possible))
      obtain ⟨⟨initiator, context, initiated⟩, own⟩ := (permitted state stepUp').taken verifier rfl
      refine contexts_of_answer possible (by simp)
        (intact.stored state initiator context initiated fun other reply member => ?_)
      obtain rfl := own other reply member
      have inTrace := (mem_traceOf _ _ _).mpr member
      rw [untraced] at inTrace
      cases inTrace
  case unread =>
    intro state other verifier stepUp took
    rcases took_earlier took with old | ⟨rfl, rfl, halfway⟩
    · have taken := took_taken old
      have stepUp' := stepUpEarlier stepUp (intact.tookBelow other state verifier taken)
      exact intact.unread state other verifier stepUp' old
    · obtain ⟨verifier', taken⟩ := halfway.taken
      have stepUp' := stepUpEarlier stepUp (intact.tookBelow thread state verifier' taken)
      obtain ⟨⟨context, deadline⟩, present⟩ :=
        Option.ne_none_iff_exists'.mp (intact.halfway state thread stepUp' halfway)
      have early := ((permitted state stepUp').read rfl thread halfway).2 context deadline present
      have late := context_missing possible context deadline present
      omega

/-- In every run that keeps the contexts of step-up states intact, no callback with such a state
signs anybody in. -/
theorem stepUp_never_logs_in (google : Google) (sameAccount : String → String → Bool)
    (start : Valkey) (fresh : ∀ state, start.states state ≠ none → state < start.nextToken)
    {config : Server}
    (run : Reaches (server google sameAccount) contextIntact (Config.start start) config)
    (thread : Nat) (callback : Callback) (program : Service Redirect)
    (present : config.threads[thread]? = some ⟨.callback callback, program⟩)
    (state : Nat) (isState : callback.state = some state)
    (stepUp : StepUpState config.history state) (userInfo : UserInfo) (result : LoginResult) :
    ⟨.loginOrCreateUser userInfo, result⟩ ∉ config.trace thread := by
  intro loggedIn
  have intact : Intact config.state config.history := by
    refine run.keeps Intact ?_ (fun _ _ _ intact => ⟨intact.statesBelow, intact.newBelow,
      intact.tookBelow, intact.stored, intact.halfway, intact.unread⟩) ?_
    · exact ⟨fresh, by simp [Config.start], by simp [Config.start], by simp [Config.start],
        by simp [Config.start, StepUpState], by simp [Config.start, StepUpState]⟩
    · exact fun before after thread event earlier answers intact => intact.step earlier answers
  obtain ⟨before, after, first, answers, rest⟩ := run.answered_member loggedIn
  obtain ⟨next, running⟩ := answers.running_as rest present
  obtain ⟨callback', state', verifier, isRequest, isState', took⟩ :=
    (first.disciplined (server_obeys google sameAccount) start).allows running
  obtain rfl := Request.callback.inj isRequest
  obtain rfl := Option.some.inj (isState.symm.trans isState')
  have whole : Reaches (server google sameAccount) contextIntact before config :=
    .head answers.step rest
  exact intact.unread state thread verifier stepUp (took.trans (whole.trace_suffix thread))

end Runs

/-! ## Where a cancelled callback reads the context first -/

instance (call : Call) : DecidableEq (Reply call) := by
  cases call <;> infer_instance

/-- Google knows one user, whose code and token are always the same. -/
def oneUserGoogle : Google where
  exchangeCode _ _ := some "access"
  userInfo _ := some ⟨some "ann@example.org", true⟩

abbrev oneUserServer := server oneUserGoogle fun email other => email == other

def emptyValkey : Valkey where
  now := 0
  nextToken := 0
  states _ := none
  contexts _ := none

def annSession : StepUpContext := ⟨"chain", "ann@example.org"⟩

def granted : Callback := ⟨some "code", some 0, some 0, none⟩

def cancelled : Callback := ⟨none, some 0, none, some "access_denied"⟩

def storesContext (state : Nat) (event : Event) : Bool :=
  match event with
  | ⟨.setContext other _, .ok ()⟩ => other == state
  | _ => false

theorem stored_of_check {state : Nat} {event : Event}
    (passed : storesContext state event = true) :
    ∃ context, event = ⟨.setContext state context, .ok ()⟩ := by
  unfold storesContext at passed
  split at passed
  · rename_i other context
    obtain rfl := eq_of_beq passed
    exact ⟨context, rfl⟩
  · cases passed

def readsState (state : Nat) (event : Event) : Bool :=
  match event.1 with
  | .getdelState other => other == state
  | .getdelContext other => other == state
  | _ => false

/-- The state was created by a thread that has asked for a step-up context. -/
def isStepUp (history : List (Nat × Event)) (state : Nat) : Bool :=
  history.any fun created => match created with
    | (thread, ⟨.newState, new⟩) => new.state == state && history.any fun initiated =>
        initiated.1 == thread && match initiated.2.1 with
          | .stepUpContext _ => true
          | _ => false
    | _ => false

theorem isStepUp_of_stepUpState {history : List (Nat × Event)} {state : Nat}
    (stepUp : StepUpState history state) : isStepUp history state = true := by
  obtain ⟨thread, session, context, new, initiated, created, rfl⟩ := stepUp
  refine List.any_eq_true.mpr ⟨_, created, ?_⟩
  simp only [beq_self_eq_true, Bool.true_and]
  exact List.any_eq_true.mpr ⟨_, initiated, by simp⟩

/-- Asks for a little more: that nobody else has touched a step-up state. -/
def checkContext (config : Server) (thread : Nat) (event : Event) : Bool :=
  match event with
  | ⟨.getdelState state, .ok (some _)⟩ => !isStepUp config.history state ||
      config.history.any (fun entry => storesContext state entry.2) &&
        config.history.all fun entry => !readsState state entry.2 || entry.1 == thread
  | ⟨.getdelContext state, _⟩ => !isStepUp config.history state ||
      (config.state.contexts state).all (fun entry => config.state.now < entry.2) &&
        config.history.all fun entry => !readsState state entry.2 || entry.1 == thread
  | _ => true

theorem contextIntact_of_check (config : Server) (thread : Nat) (event : Event)
    (passed : checkContext config thread event = true) : contextIntact config thread event := by
  intro state stepUp
  have isStepUp := isStepUp_of_stepUpState stepUp
  constructor
  · rintro verifier rfl
    simp only [checkContext, isStepUp, Bool.not_true, Bool.false_or, Bool.and_eq_true,
      List.any_eq_true, List.all_eq_true] at passed
    obtain ⟨⟨⟨other, stored⟩, member, isStored⟩, own⟩ := passed
    constructor
    · obtain ⟨context, rfl⟩ := stored_of_check isStored
      exact ⟨other, context, member⟩
    · intro reader reply read
      simpa [readsState] using own _ read
  · intro isCall other halfway
    obtain ⟨call, reply⟩ := event
    obtain rfl : call = .getdelContext state := isCall
    simp only [checkContext, isStepUp, Bool.not_true, Bool.false_or, Bool.and_eq_true,
      Option.all_eq_true, List.all_eq_true, decide_eq_true_eq] at passed
    obtain ⟨verifier, taken⟩ := halfway.taken
    exact ⟨by simpa [readsState] using passed.2 _ taken,
      fun context deadline present => passed.1 _ present⟩

def loggingIn : Callback := ⟨some "code", some 2, some 2, none⟩

/-- A sign-in runs beside the step-up, whose callback comes again when it has been answered. -/
def stepUpBesideLogin : List (Move Request Nat) :=
  .begin (.stepUpInitiate annSession) :: Move.turns 0 2 ++
    .begin .loginInitiate :: Move.turns 1 2 ++ Move.turns 0 2 ++
    .begin (.callback granted) :: Move.turns 2 1 ++
    .begin (.callback loggingIn) :: Move.turns 3 3 ++ Move.turns 2 5 ++
    .begin (.callback granted) :: Move.turns 4 1 ++ Move.turns 3 3

def besideLogin : Server :=
  (Config.start emptyValkey).follow oneUserServer stepUpBesideLogin

/-- The sign-in signs somebody in, and the step-up does not. -/
theorem stepUp_never_logs_in_beside :
    StepUpState besideLogin.history 0 ∧
      ⟨.loginOrCreateUser ⟨some "ann@example.org", true⟩, .tokens⟩ ∈ besideLogin.trace 3 ∧
      ⟨.loginOrCreateUser ⟨some "ann@example.org", true⟩, .tokens⟩ ∉ besideLogin.trace 2 := by
  have stepUp : StepUpState besideLogin.history 0 :=
    ⟨0, annSession, annSession, ⟨0, 1⟩, by decide +kernel, by decide +kernel, rfl⟩
  obtain ⟨program, present⟩ := Config.present_of_request besideLogin 2 (.callback granted)
    (by decide +kernel)
  have run : Reaches oneUserServer contextIntact (Config.start emptyValkey) besideLogin :=
    Config.follow_permitted oneUserServer checkContext contextIntact_of_check _ _
      (by decide +kernel)
  exact ⟨stepUp, by decide +kernel, stepUp_never_logs_in _ _ emptyValkey
    (fun _ stored => absurd rfl stored) run 2 granted program present 0 rfl stepUp _ _⟩

/-- The cancelled callback has read the context when the granted one takes the verifier. -/
def cancelledFirst : List (Move Request Nat) :=
  .begin (.stepUpInitiate annSession) :: Move.turns 0 4 ++
    .begin (.callback cancelled) :: Move.turns 1 1 ++
    .begin (.callback granted) :: Move.turns 2 6

theorem stepUp_logs_in :
    ¬ ∀ (google : Google) (sameAccount : String → String → Bool) (start : Valkey),
      (∀ state, start.states state ≠ none → state < start.nextToken) → ∀ config : Server,
        Reaches (server google sameAccount) anyCall (Config.start start) config →
          ∀ (thread : Nat) (callback : Callback) (program : Service Redirect),
            config.threads[thread]? = some ⟨.callback callback, program⟩ →
              ∀ state, callback.state = some state → StepUpState config.history state →
                ∀ (userInfo : UserInfo) (result : LoginResult),
                  ⟨.loginOrCreateUser userInfo, result⟩ ∉ config.trace thread := by
  intro never
  obtain ⟨program, present⟩ := Config.present_of_request
    ((Config.start emptyValkey).follow oneUserServer cancelledFirst) 2 (.callback granted)
    (by decide +kernel)
  refine never oneUserGoogle _ emptyValkey (fun _ stored => absurd rfl stored) _
    (Config.follow_reaches oneUserServer _ cancelledFirst) 2 granted program present 0 rfl
    ⟨0, annSession, annSession, ⟨0, 1⟩, by decide +kernel, by decide +kernel, rfl⟩
    ⟨some "ann@example.org", true⟩ .tokens (by decide +kernel)

end MysticAuth.OAuth
