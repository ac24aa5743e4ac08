import MysticAuth.Browser.PromiseKeeping
import MysticAuth.Browser.RetryBound
import MysticAuth.Browser.SessionDeath
import MysticAuth.Interleaving.Waiting

/-!
# Whether an interception ends

A request makes boundedly many calls, so that it ends unless it waits forever.
It waits forever when what it waits for is waiting for it: a request that
rotates the session is itself the rotation that its own 401 finds pending.
-/

set_option autoImplicit false

namespace MysticAuth.AuthInterceptor

open Interleaving Relation

/-! ## Waiting -/

/-- The call of the thread that is to be answered next. -/
def calling (config : Browser) (thread : Nat) : Option Call :=
  match config.threads[thread]? with
  | some ⟨_, .call call _⟩ => some call
  | _ => none

/-- Whoever has begun this lets the call wait. -/
def awaited : Call → Option Event
  | .awaitRefresh promise => some ⟨.claimRefresh, promise⟩
  | .awaitRotation promise => some ⟨.trackRotation, promise⟩
  | _ => none

/-- The thread can go on only when the other has settled what it has begun. -/
def WaitsFor (config : Browser) (thread other : Nat) : Prop :=
  ∃ call begun, calling config thread = some call ∧ outcomes thread call config.state = [] ∧
    awaited call = some begun ∧ (other, begun) ∈ config.history

/-- What the thread waits for after the event. -/
def joined : Event → Option Event
  | ⟨.refreshSession, promise⟩ => some ⟨.claimRefresh, promise⟩
  | ⟨.checkRotation, some promise, _⟩ => some ⟨.trackRotation, promise⟩
  | _ => none

/-- A request finds a rotation only once, and does not begin to wait for what already waits, directly
or through others, for this request. -/
def orderly (config : Browser) (thread : Nat) (event : Event) : Prop :=
  (seesRotation event = true → rotationsSeen (config.trace thread) = 0) ∧
    ∀ begun, joined event = some begun → ∀ other, (other, begun) ∈ config.history →
      ¬ ReflTransGen (WaitsFor config) other thread

section Waits

variable {config config' : Browser} {thread other : Nat} {call : Call} {begun : Event}

theorem calling_eq_some_iff :
    calling config thread = some call ↔
      ∃ request next, config.threads[thread]? = some ⟨request, .call call next⟩ := by
  unfold calling
  constructor
  · intro isCalling
    split at isCalling
    · rename_i request call' next present
      obtain rfl := Option.some.inj isCalling
      exact ⟨request, next, present⟩
    · cases isCalling
  · rintro ⟨request, next, present⟩
    rw [present]

theorem awaitRefresh_blocked (promise : Nat) (page : Page) :
    outcomes thread (.awaitRefresh promise) page = [] ↔ ¬ page.Refreshed promise := by
  simp only [outcomes, Page.Refreshed]
  split
  · rename_i notFound
    refine iff_of_true rfl ?_
    rintro ⟨succeeded, member⟩
    simpa using List.find?_eq_none.mp notFound _ member
  · rename_i settled succeeded found
    refine iff_of_false (List.cons_ne_nil _ _) (not_not_intro ⟨succeeded, ?_⟩)
    have same := List.find?_some found
    rw [beq_iff_eq] at same
    rw [← same]
    exact List.mem_of_find?_eq_some found

theorem awaitRotation_blocked (promise : Nat) (page : Page) :
    outcomes thread (.awaitRotation promise) page = [] ↔ promise ∉ page.settledRotations := by
  simp only [outcomes]
  split
  · rename_i settled
    exact iff_of_false (List.cons_ne_nil _ _) (not_not_intro settled)
  · rename_i unsettled
    exact iff_of_true rfl unsettled

/-- A request that waits has just been given what it waits for. -/
theorem joined_of_awaited (disciplined : config.Disciplined promising fun _ _ trace => Settled trace)
    (isCalling : calling config thread = some call) (isAwaited : awaited call = some begun) :
    ∃ latest, (config.trace thread).head? = some latest ∧ joined latest = some begun := by
  obtain ⟨request, next, running⟩ := calling_eq_some_iff.mp isCalling
  have allowed := disciplined.allows running
  cases call with
  | awaitRefresh promise => exact ⟨_, allowed, isAwaited⟩
  | awaitRotation promise =>
    obtain ⟨recent, isLatest⟩ := allowed
    exact ⟨_, isLatest, isAwaited⟩
  | _ => cases isAwaited

end Waits

/-! ## What a step changes -/

section Steps

variable {permits : Browser → Nat → Event → Prop} {before after : Browser}
variable {thread other : Nat} {call : Call} {begun : Event}

/-- What is settled stays settled. -/
structure Grows (page page' : Page) : Prop where
  refreshes : ∀ promise, page.Refreshed promise → page'.Refreshed promise
  rotations : ∀ promise, promise ∈ page.settledRotations → promise ∈ page'.settledRotations

theorem Grows.of_same {page page' : Page} (refreshes : page'.settledRefreshes = page.settledRefreshes)
    (rotations : page'.settledRotations = page.settledRotations) : Grows page page' where
  refreshes promise settled := by
    rw [Page.Refreshed, refreshes]
    exact settled
  rotations promise settled := by
    rw [rotations]
    exact settled

theorem outcomes_grow (thread : Nat) {outcome : Reply call × Page} {page : Page}
    (possible : outcome ∈ outcomes thread call page) : Grows page outcome.2 := by
  cases call with
  | refreshSession =>
    rw [List.mem_singleton.mp possible, Page.refreshSession]
    split <;> exact .of_same rfl rfl
  | claimRefresh =>
    simp only [outcomes] at possible
    split at possible
    · cases possible
    · rw [List.mem_singleton.mp possible]
      exact .of_same rfl rfl
  | settleRefresh promise succeeded =>
    rw [List.mem_singleton.mp possible]
    refine ⟨?_, fun _ settled => settled⟩
    rintro other ⟨result, member⟩
    exact ⟨result, List.mem_cons_of_mem _ member⟩
  | trackRotation =>
    rw [List.mem_singleton.mp possible]
    exact .of_same rfl rfl
  | settleRotation promise =>
    rw [List.mem_singleton.mp possible]
    exact ⟨fun _ settled => settled, fun _ settled => List.mem_cons_of_mem _ settled⟩
  | send _ | awaitRefresh _ | checkRotation | awaitRotation _ | markUnauthenticated
  | enterCrossTabRefresh =>
    have same := outcomes_samePromises thread possible trivial (by rintro ⟨⟩)
    exact .of_same same.settled same.settledRotations

theorem blocked_before (grows : Grows before.state after.state) (isAwaited : awaited call = some begun)
    (blocked : outcomes thread call after.state = []) : outcomes thread call before.state = [] := by
  cases call with
  | awaitRefresh promise =>
    rw [awaitRefresh_blocked] at blocked ⊢
    exact fun settled => blocked (grows.refreshes promise settled)
  | awaitRotation promise =>
    rw [awaitRotation_blocked] at blocked ⊢
    exact fun settled => blocked (grows.rotations promise settled)
  | _ => cases isAwaited

theorem waits_before (grows : Grows before.state after.state) (waits : WaitsFor after thread other)
    (sameCall : ∀ call begun, awaited call = some begun → calling after thread = some call →
      calling before thread = some call)
    (sameHistory : ∀ call begun, awaited call = some begun → (other, begun) ∈ after.history →
      (other, begun) ∈ before.history) : WaitsFor before thread other := by
  obtain ⟨call, begun, isCalling, blocked, isAwaited, member⟩ := waits
  exact ⟨call, begun, sameCall call begun isAwaited isCalling, blocked_before grows isAwaited blocked,
    isAwaited, sameHistory call begun isAwaited member⟩

/-- Waiting begins where a promise is joined, and not with what lets others wait. -/
theorem joined_ne_awaited {event : Event} (isJoined : joined event = some begun) {call : Call}
    {begun' : Event} (isAwaited : awaited call = some begun') : begun' ≠ event := by
  rintro rfl
  cases call with
  | awaitRefresh promise =>
    obtain rfl := Option.some.inj isAwaited
    cases isJoined
  | awaitRotation promise =>
    obtain rfl := Option.some.inj isAwaited
    cases isJoined
  | _ => cases isAwaited

variable {page : Page}

theorem uncircular_begin (run : Reaches system permits (Config.start page) before) (request : Request)
    (uncircular : Uncircular (WaitsFor before)) :
    Uncircular (WaitsFor (before.begin ⟨request, system.handle request⟩)) := by
  have attributed := run.attributed (Config.attributed_start page)
  have step : Step system permits before (before.begin ⟨request, system.handle request⟩) :=
    .begin before request
  have disciplined := step.disciplined system_promising attributed
    (run.disciplined system_promising page)
  refine uncircular.mono fun thread other waits => ?_
  have grows : Grows before.state (before.begin ⟨request, system.handle request⟩).state :=
    .of_same rfl rfl
  refine waits_before grows waits ?_ fun _ _ _ member => member
  intro call begun isAwaited isCalling
  obtain ⟨latest, isLatest, -⟩ := joined_of_awaited disciplined isCalling isAwaited
  have old : thread < before.threads.length :=
    attributed.begun (List.mem_of_mem_head? isLatest)
  unfold calling at isCalling ⊢
  rwa [Config.begin, List.getElem?_append_left old] at isCalling

theorem uncircular_disturb (event : Environment) (uncircular : Uncircular (WaitsFor before)) :
    Uncircular (WaitsFor { before with state := disturb event before.state }) := by
  refine uncircular.mono fun thread other waits => ?_
  have same := disturb_samePromises event before.state
  have grows : Grows before.state (disturb event before.state) :=
    .of_same same.settled same.settledRotations
  exact waits_before grows waits (fun _ _ _ isCalling => isCalling) fun _ _ _ member => member

/-- A thread that was answered waits only for what it has joined just now. -/
theorem uncircular_reply (run : Reaches system permits (Config.start page) before) {request : Request}
    {next : Reply call → Service (Option Response)} {outcome : Reply call × Page}
    (running : before.threads[thread]? = some ⟨request, .call call next⟩)
    (possible : outcome ∈ system.outcomes thread call before.state)
    (permitted : orderly before thread ⟨call, outcome.1⟩)
    (uncircular : Uncircular (WaitsFor before)) :
    Uncircular (WaitsFor (before.reply thread request next outcome)) := by
  have grows : Grows before.state (before.reply thread request next outcome).state :=
    outcomes_grow thread possible
  have step : Step system anyCall before (before.reply thread request next outcome) :=
    .reply before thread request call next outcome running possible trivial
  have disciplined := step.disciplined system_promising
    (run.attributed (Config.attributed_start page)) (run.disciplined system_promising page)
  have sameCall : ∀ other call, other ≠ thread →
      calling (before.reply thread request next outcome) other = some call →
        calling before other = some call := by
    intro other call differs isCalling
    unfold calling at isCalling ⊢
    rwa [Config.reply, List.getElem?_set_ne (Ne.symm differs)] at isCalling
  have joins : ∀ other, WaitsFor (before.reply thread request next outcome) thread other →
      ∃ begun, joined ⟨call, outcome.1⟩ = some begun ∧ (other, begun) ∈ before.history := by
    rintro other ⟨call', begun, isCalling, -, isAwaited, member⟩
    obtain ⟨latest, isLatest, isJoined⟩ := joined_of_awaited disciplined isCalling isAwaited
    rw [Config.trace_reply_self] at isLatest
    obtain rfl := Option.some.inj isLatest
    exact ⟨begun, isJoined, (List.mem_cons.mp member).resolve_left fun same =>
      joined_ne_awaited isJoined isAwaited (Prod.mk.inj same).2⟩
  cases isJoined : joined (⟨call, outcome.1⟩ : Event) with
  | none =>
    have free : ∀ other, ¬ WaitsFor (before.reply thread request next outcome) thread other := by
      intro other waits
      obtain ⟨begun, isBegun, -⟩ := joins other waits
      rw [isJoined] at isBegun
      cases isBegun
    refine uncircular.be_awaited (fun party other waits => ?_) free
    by_cases isThread : other = thread
    · exact Or.inr isThread
    · have differs : party ≠ thread := by
        rintro rfl
        exact free other waits
      refine Or.inl (waits_before grows waits (fun call _ _ => sameCall party call differs) ?_)
      intro call begun _ member
      exact (List.mem_cons.mp member).resolve_left fun same => isThread (Prod.mk.inj same).1
  | some begun =>
    have free : ∀ other, WaitsFor (before.reply thread request next outcome) thread other →
        ¬ ReflTransGen (WaitsFor before) other thread := by
      intro other waits
      obtain ⟨begun', isBegun, member⟩ := joins other waits
      exact permitted.2 begun' isBegun other member
    refine uncircular.begin_waiting (fun party other waits => ?_) free
    by_cases isThread : party = thread
    · exact Or.inr isThread
    · refine Or.inl (waits_before grows waits (fun call _ _ => sameCall party call isThread) ?_)
      intro call begun' isAwaited member
      exact (List.mem_cons.mp member).resolve_left fun same =>
        joined_ne_awaited isJoined isAwaited (Prod.mk.inj same).2

theorem uncircular_of_run (run : Reaches system orderly (Config.start page) after) :
    Uncircular (WaitsFor after) := by
  refine run.preserves (fun config => Uncircular (WaitsFor config)) ?_ ?_
  · intro thread circle
    obtain ⟨other, ⟨_, _, _, _, _, member⟩, -⟩ := TransGen.head'_iff.mp circle
    exact absurd member List.not_mem_nil
  · intro before last earlier uncircular step
    cases step with
    | begin request => exact uncircular_begin earlier request uncircular
    | disturb event => exact uncircular_disturb event uncircular
    | reply thread request call next outcome running possible permitted =>
      exact uncircular_reply earlier running possible permitted uncircular

end Steps

/-! ## Requests that cannot go on -/

/-- No thread can go on, and every refresh has its task. -/
structure AtRest (config : Browser) : Prop where
  blocked : ∀ thread call, calling config thread = some call →
    outcomes thread call config.state = []
  claimed : config.state.unclaimedRefresh = none

section Rest

variable {page : Page} {config : Browser} {permits : Browser → Nat → Event → Prop}
variable {thread : Nat} {call : Call}

theorem awaited_of_blocked (blocked : outcomes thread call page = []) :
    (∃ begun, awaited call = some begun) ∨ call = .claimRefresh := by
  cases call with
  | awaitRefresh promise => exact Or.inl ⟨_, rfl⟩
  | awaitRotation promise => exact Or.inl ⟨_, rfl⟩
  | claimRefresh => exact Or.inr rfl
  | _ => cases blocked

/-- Whoever has begun something goes on until it is settled. -/
theorem calling_or_settled (run : Reaches system permits (Config.start page) config) {event : Event}
    (member : (thread, event) ∈ config.history) :
    (∃ call, calling config thread = some call ∧ call ≠ .claimRefresh) ∨
      Settled (config.trace thread) := by
  have isEvent := (Config.mem_trace thread event).mpr member
  have old := (run.attributed (Config.attributed_start page)).begun isEvent
  have disciplined := run.disciplined system_promising page
  obtain ⟨⟨request, program⟩, present⟩ : ∃ current, config.threads[thread]? = some current :=
    ⟨_, List.getElem?_eq_getElem old⟩
  cases program with
  | done result => exact Or.inr (disciplined.returned present rfl)
  | call call next =>
    refine Or.inl ⟨call, calling_eq_some_iff.mpr ⟨request, next, present⟩, ?_⟩
    rintro rfl
    have allowed : request = .refresh ∧ config.trace thread = [] := disciplined.allows present
    rw [allowed.2] at isEvent
    cases isEvent

/-- What a blocked request waits for was begun by another that is blocked. -/
theorem waits_for_blocked (idle : page.Idle) (run : Reaches system permits (Config.start page) config)
    (rest : AtRest config) {begun : Event} (isCalling : calling config thread = some call)
    (isAwaited : awaited call = some begun) :
    ∃ other, WaitsFor config thread other ∧
      ∃ call' begun', calling config other = some call' ∧ awaited call' = some begun' := by
  have blocked := rest.blocked thread call isCalling
  have goesOn : ∀ other, (other, begun) ∈ config.history → ¬ Settled (config.trace other) →
      ∃ other, WaitsFor config thread other ∧
        ∃ call' begun', calling config other = some call' ∧ awaited call' = some begun' := by
    intro other member unsettled
    obtain ⟨call', isCalling', notClaim⟩ := (calling_or_settled run member).resolve_right unsettled
    obtain ⟨begun', isAwaited'⟩ :=
      (awaited_of_blocked (rest.blocked other call' isCalling')).resolve_right notClaim
    exact ⟨other, ⟨call, begun, isCalling, blocked, isAwaited, member⟩, call', begun', isCalling',
      isAwaited'⟩
  have latest : ∀ event, (config.trace thread).head? = some event →
      (thread, event) ∈ config.history := fun event isLatest =>
    (Config.mem_trace thread event).mp (List.mem_of_mem_head? isLatest)
  have flights := flights_of_run idle run
  have rotations := rotations_of_run idle run
  obtain ⟨request, next, running⟩ := calling_eq_some_iff.mp isCalling
  have allowed := (run.disciplined system_promising page).allows running
  cases call with
  | awaitRefresh promise =>
    obtain rfl := Option.some.inj isAwaited
    rw [awaitRefresh_blocked] at blocked
    have inFlight := (flights.started thread promise (latest _ allowed)).resolve_left blocked
    obtain ⟨other, member⟩ := (flights.taken promise inFlight).resolve_left (by simp [rest.claimed])
    refine goesOn other member fun settled => ?_
    obtain ⟨succeeded, isSettled⟩ := settled.refresh promise ((Config.mem_trace _ _).mpr member)
    exact blocked (flights.refreshed other promise succeeded ((Config.mem_trace _ _).mp isSettled))
  | awaitRotation promise =>
    obtain rfl := Option.some.inj isAwaited
    rw [awaitRotation_blocked] at blocked
    obtain ⟨recent, isLatest⟩ := allowed
    obtain ⟨other, member⟩ := rotations.found thread promise recent (latest _ isLatest)
    refine goesOn other member fun settled => ?_
    have isSettled := settled.rotation promise ((Config.mem_trace _ _).mpr member)
    exact blocked (rotations.settled other promise ((Config.mem_trace _ _).mp isSettled))
  | _ => cases isAwaited

/-- Where nobody waits in a circle, whatever is blocked in the end is a task without a refresh. -/
theorem finished_at_rest (idle : page.Idle)
    (run : Reaches system permits (Config.start page) config)
    (uncircular : Uncircular (WaitsFor config)) (rest : AtRest config)
    {current : Thread Request Reply Rejection (Option Response)}
    (present : config.threads[thread]? = some current) :
    current.result.isSome ∨ current.request = .refresh ∧ config.trace thread = [] := by
  let blocked : Set Nat := fun thread => ∃ call begun, calling config thread = some call ∧
    awaited call = some begun
  have finite : blocked.Finite := by
    refine (Set.finite_lt_nat config.threads.length).subset fun thread isBlocked => ?_
    obtain ⟨call, -, isCalling, -⟩ := isBlocked
    obtain ⟨request, next, present⟩ := calling_eq_some_iff.mp isCalling
    exact (List.getElem?_eq_some_iff.mp present).1
  have nobody : ∀ thread, thread ∉ blocked := by
    intro thread isBlocked
    obtain ⟨last, ⟨call, begun, isCalling, isAwaited⟩, isLast⟩ :=
      uncircular.exists_last finite ⟨thread, isBlocked⟩
    obtain ⟨other, waits, isBlocked'⟩ := waits_for_blocked idle run rest isCalling isAwaited
    exact isLast other isBlocked' waits
  obtain ⟨request, program⟩ := current
  cases program with
  | done result => exact Or.inl rfl
  | call call next =>
    have isCalling := calling_eq_some_iff.mpr ⟨request, next, present⟩
    rcases awaited_of_blocked (rest.blocked thread call isCalling) with ⟨begun, isAwaited⟩ | rfl
    · exact absurd ⟨call, begun, isCalling, isAwaited⟩ (nobody thread)
    · exact Or.inr ((run.disciplined system_promising page).allows present)

/-- Every thread is finished, apart from tasks that had no refresh to begin with. -/
def AllFinished (config : Browser) : Prop :=
  ∀ (thread : Nat) current, config.threads[thread]? = some current →
    current.result.isSome ∨ current.request = .refresh ∧ config.trace thread = []

/-- A request that waits in a circle is among those that have not finished. -/
theorem allFinished_iff (idle : page.Idle) (run : Reaches system permits (Config.start page) config)
    (rest : AtRest config) : AllFinished config ↔ Uncircular (WaitsFor config) := by
  constructor
  · intro finished thread circle
    obtain ⟨other, ⟨call, begun, isCalling, -, isAwaited, -⟩, -⟩ := TransGen.head'_iff.mp circle
    obtain ⟨latest, isLatest, -⟩ :=
      joined_of_awaited (run.disciplined system_promising page) isCalling isAwaited
    obtain ⟨request, next, present⟩ := calling_eq_some_iff.mp isCalling
    rcases finished thread _ present with isDone | ⟨-, isEmpty⟩
    · cases isDone
    · rw [isEmpty] at isLatest
      cases isLatest
  · exact fun uncircular thread current present => finished_at_rest idle run uncircular rest present

end Rest

/-! ## Every run -/

/-- What bounds the interceptions of a page. -/
structure Bounded (config : Browser) : Prop where
  sent : ∀ thread, sends (config.trace thread) ≤ 3
  called : ∀ thread, (config.trace thread).length ≤ 17
  finished : AtRest config → AllFinished config

section Runs

variable {page : Page} {config : Browser}

theorem rotationsSeen_le (run : Reaches system orderly (Config.start page) config) (thread : Nat) :
    rotationsSeen (config.trace thread) ≤ 1 := by
  refine run.preserves (fun config => rotationsSeen (config.trace thread) ≤ 1)
    (Nat.zero_le _) fun before after _ holds step => ?_
  rcases step.cases_answers with ⟨same, -⟩ | ⟨actor, event, answers⟩
  · rw [Config.trace_of_history same]
    exact holds
  · by_cases isActor : actor = thread
    · subst isActor
      rw [answers.trace_self, rotationsSeen]
      cases isSeen : seesRotation event with
      | false =>
        rw [List.countP_cons_of_neg (by simp [isSeen])]
        exact holds
      | true =>
        rw [List.countP_cons_of_pos isSeen]
        exact Nat.succ_le_succ (answers.permitted.1 isSeen).le
    · rw [answers.trace_ne isActor]
      exact holds

theorem retries_bounded (idle : page.Idle)
    (run : Reaches system orderly (Config.start page) config) : Bounded config where
  sent thread := (sends_le run thread).2 (rotationsSeen_le run thread)
  called := run.calls_le handle_atMost
  finished rest := (allFinished_iff idle run rest).mpr (uncircular_of_run run)

end Runs

/-! ## Runs with a rotation -/

/-- The other thread neither is this one nor waits. -/
def goesOn (config : Browser) (thread other : Nat) : Bool :=
  other != thread && ((calling config other).bind awaited).isNone

def checkOrderly (config : Browser) (thread : Nat) (event : Event) : Bool :=
  (!seesRotation event || rotationsSeen (config.trace thread) == 0) &&
    (joined event).all fun begun => config.history.all fun entry =>
      decide (entry.2 ≠ begun) || goesOn config thread entry.1

theorem not_waiting_of_goesOn {config : Browser} {thread other : Nat}
    (free : goesOn config thread other = true) : ¬ ReflTransGen (WaitsFor config) other thread := by
  simp only [goesOn, Bool.and_eq_true, bne_iff_ne] at free
  intro way
  rcases ReflTransGen.cases_head way with same | ⟨next, ⟨call, begun, isCalling, -, isAwaited, -⟩, -⟩
  · exact free.1 same
  · simp [isCalling, isAwaited] at free

theorem orderly_of_check (config : Browser) (thread : Nat) (event : Event)
    (checked : checkOrderly config thread event = true) : orderly config thread event := by
  simp only [checkOrderly, Bool.and_eq_true, Bool.or_eq_true, Bool.not_eq_true', beq_iff_eq,
    Option.all_eq_true, List.all_eq_true, decide_eq_true_eq] at checked
  refine ⟨fun sees => checked.1.resolve_left (by simp [sees]), ?_⟩
  intro begun isJoined other member
  exact not_waiting_of_goesOn ((checked.2 begun isJoined (other, begun) member).resolve_left
    (not_not_intro rfl))

/-- A refresh fails while the password is changed, and succeeds after it. -/
def refreshedAfterRotation : List (Move Request Environment) :=
  List.flatten
    [[.begin (.rotating (some "/users/me")), .reply 0 0, .begin (.api (some "/policies")),
        .disturb (.answer (some 401)), .reply 1 0, .reply 1 0],
      [.begin .refresh, .reply 2 0, .reply 2 1, .reply 2 0, .reply 2 0],
      [.disturb (.answer (some 200))], Move.turns 0 2, Move.turns 2 3, Move.turns 1 2]

theorem retries_bounded_rotation :
    Bounded ((Config.start loggedIn).follow system refreshedAfterRotation) :=
  retries_bounded ⟨rfl, rfl, rfl⟩ (Config.follow_permitted system checkOrderly orderly_of_check _
    refreshedAfterRotation (by decide +kernel))

/-- The password was changed just now, and the server answers every request with a 401, refreshes
apart. -/
def rotatedThenRefused : List (Move Request Environment) :=
  List.flatten
    [[.begin (.rotating (some "/users/me")), .disturb (.answer (some 200))], Move.turns 0 3,
      [.begin (.api (some "/policies")), .disturb (.answer (some 401)), .reply 1 0, .reply 1 0],
      [.begin .refresh, .reply 2 0, .reply 2 1, .disturb (.answer (some 200))], Move.turns 2 2,
      [.disturb (.answer (some 401))], Move.turns 1 10]

/-- The session is over when the password is changed. -/
def rotatedTooLate : List (Move Request Environment) :=
  List.flatten
    [[.begin (.rotating (some "/users/me")), .disturb (.answer (some 401))], Move.turns 0 3,
      [.begin .refresh, .reply 1 0, .reply 1 1, .reply 1 0, .reply 1 0]]

def isAtRest (config : Browser) : Bool :=
  ((List.range config.threads.length).all fun thread => (calling config thread).all fun call =>
    (outcomes thread call config.state).isEmpty) && config.state.unclaimedRefresh.isNone

theorem atRest_of_isAtRest {config : Browser} (isRest : isAtRest config = true) :
    AtRest config := by
  simp only [isAtRest, Bool.and_eq_true, List.all_eq_true, List.mem_range, Option.all_eq_true,
    List.isEmpty_iff, Option.isNone_iff_eq_none] at isRest
  refine ⟨fun thread call isCalling => ?_, isRest.2⟩
  obtain ⟨request, next, present⟩ := calling_eq_some_iff.mp isCalling
  exact isRest.1 thread (List.getElem?_eq_some_iff.mp present).1 call isCalling

/-- A request is sent four times, and a change of the password never ends. -/
theorem rotation_retried_and_awaited :
    (∃ config : Browser, Reaches system anyCall (Config.start loggedIn) config ∧
      ∃ current, config.threads[1]? = some current ∧ current.request = .api (some "/policies") ∧
        current.result.isSome ∧ sends (config.trace 1) = 4) ∧
    ∃ config : Browser, Reaches system anyCall (Config.start loggedIn) config ∧ AtRest config ∧
      ∃ current, config.threads[0]? = some current ∧
        current.request = .rotating (some "/users/me") ∧ current.result = none := by
  constructor
  · let last := (Config.start loggedIn).follow system rotatedThenRefused
    obtain ⟨isRequest, isResult, isFourth⟩ :
        (last.threads[1]?).map Thread.request = some (.api (some "/policies")) ∧
          (last.threads[1]?).bind Thread.result = some (.error ⟨1, some 401⟩) ∧
            sends (last.trace 1) = 4 := by
      decide +kernel
    obtain ⟨program, present, finished⟩ := last.finished_of_result 1 _ _ isRequest isResult
    exact ⟨last, Config.follow_reaches system _ rotatedThenRefused, _, present, rfl,
      by rw [finished]; rfl, isFourth⟩
  · let last := (Config.start loggedIn).follow system rotatedTooLate
    obtain ⟨isRest, isRequest, unfinished⟩ : isAtRest last = true ∧
        (last.threads[0]?).map Thread.request = some (.rotating (some "/users/me")) ∧
          (last.threads[0]?).bind Thread.result = none := by
      decide +kernel
    obtain ⟨program, present⟩ := last.present_of_request 0 _ isRequest
    rw [present] at unfinished
    exact ⟨last, Config.follow_reaches system _ rotatedTooLate, atRest_of_isAtRest isRest, _,
      present, rfl, unfinished⟩

end MysticAuth.AuthInterceptor
