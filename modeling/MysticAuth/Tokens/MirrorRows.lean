import MysticAuth.Tokens.Lineage
import MysticAuth.Tokens.MirrorAdditions

/-!
# One mirror row for each chain

Rows are looked up by token and belong to a chain.  A chain gets a second row
where a rotation does not find the first one, or where two requests look for it
before either has added it.
-/

set_option autoImplicit false

namespace MysticAuth.Tokens

open Interleaving

def World.OneRowPerChain (world : World) : Prop :=
  ∀ chainId, world.sessions.countP (·.chainId == some chainId) ≤ 1

/-- The chains of the mirror, one for each row. -/
def World.chains (world : World) : List Nat :=
  world.sessions.filterMap UserSession.chainId

theorem oneRowPerChain_iff (world : World) : world.OneRowPerChain ↔ world.chains.Nodup := by
  rw [List.nodup_iff_count_le_one]
  simp only [World.chains, List.count_filterMap]
  rfl

/-! ## What a call does to the chains -/

/-- No chain gets a further row, or one row is added. -/
inductive ChainStep (call : Call) (before after : World) : Prop where
  | kept (rows : after.chains.Sublist before.chains)
  | inserted (userId jti chainId expiresAt : Nat)
      (isInsert : call = .insertSession userId jti chainId expiresAt)
      (rows : after.chains = before.chains ++ [chainId])

theorem ChainStep.same {call : Call} {before after : World}
    (rows : after.sessions = before.sessions) : ChainStep call before after := by
  apply ChainStep.kept
  rw [World.chains, World.chains, rows]

theorem ChainStep.removed {call : Call} {before after : World} (keep : UserSession → Bool)
    (rows : after.sessions = before.sessions.filter keep) : ChainStep call before after := by
  apply ChainStep.kept
  rw [World.chains, World.chains, rows]
  exact List.filter_sublist.filterMap _

/-- A row that is moved to another token stays with its chain. -/
theorem ChainStep.moved {call : Call} {before after : World} (change : UserSession → UserSession)
    (sameChain : ∀ session, (change session).chainId = session.chainId)
    (rows : after.sessions = before.sessions.map change) : ChainStep call before after := by
  apply ChainStep.kept
  have chains : before.sessions.filterMap (UserSession.chainId ∘ change) = before.chains :=
    List.filterMap_congr fun session _ => sameChain session
  rw [World.chains, rows, List.filterMap_map, chains]

theorem updatedUser_chains (call : Call) (world : World) (thread userId : Nat)
    (update : User → User) :
    Leads (updatedUser world thread userId update) (ChainStep call world) := by
  unfold updatedUser
  split
  · simp
  · split
    · exact (leads_refused ..).mpr (.same rfl)
    · exact (leads_committed ..).mpr ⟨.same rfl, .same rfl⟩

theorem outcomes_chains (thread : Nat) (call : Call) (world : World) :
    Leads (outcomes thread call world) (ChainStep call world) := by
  have same : ChainStep call world world := .same rfl
  cases call with
  | setLastLogin userId => exact updatedUser_chains _ world thread userId _
  | setPassword userId password => exact updatedUser_chains _ world thread userId _
  | softDelete userId deletedAt => exact updatedUser_chains _ world thread userId _
  | reactivate userId => exact updatedUser_chains _ world thread userId _
  | deleteUser userId =>
    simp only [outcomes]
    split
    · simp
    · exact (leads_committed ..).mpr ⟨.removed _ rfl, same⟩
  | insertClaim row =>
    simp only [outcomes]
    split
    · simpa using same
    · exact (leads_committed ..).mpr ⟨.same rfl, same⟩
  | selectSessionByChain chainId =>
    simp only [outcomes]
    split <;> simpa using same
  | insertSession userId jti chainId expiresAt =>
    simp only [outcomes]
    split
    · exact (leads_refused ..).mpr same
    · refine (leads_committed ..).mpr ⟨.inserted userId jti chainId expiresAt rfl ?_, same⟩
      simp [World.chains, World.releaseLocks]
  | moveSession sessionId newJti newExpiresAt =>
    simp only [outcomes]
    split
    · exact (leads_refused ..).mpr same
    · refine (leads_committed ..).mpr ⟨.moved _ (fun session => ?_) rfl, same⟩
      split <;> rfl
  | lockUser userId =>
    simp only [outcomes]
    split
    · simp
    · split
      · simpa using ⟨.same rfl, same⟩
      · simpa using same
  | uuid => simpa [outcomes] using .same rfl
  | encode token => simpa [outcomes] using .same rfl
  | upsertVersion key version => exact (leads_committed ..).mpr ⟨.same rfl, same⟩
  | deleteExpiredClaims => exact (leads_committed ..).mpr ⟨.same rfl, same⟩
  | deleteSession sessionId => exact (leads_committed ..).mpr ⟨.removed _ rfl, same⟩
  | deleteSessionsOf userId exemptChainId => exact (leads_committed ..).mpr ⟨.removed _ rfl, same⟩
  | deleteSessionsExpiredBefore before => exact (leads_committed ..).mpr ⟨.removed _ rfl, same⟩
  | insertAuditEntry => exact (leads_committed ..).mpr ⟨.same rfl, same⟩
  | closeSession => simpa [outcomes] using .same rfl
  | _ => simpa [outcomes] using same

/-! ## Runs -/

/-- An unfinished request that may add the row of the chain. -/
def Adding (config : Server) (thread chainId : Nat) : Prop :=
  ∃ request call next, config.threads[thread]? = some ⟨request, .call call next⟩ ∧
    request.MayAdd (config.trace thread) chainId

/-- A request that continues a chain looks for its row while the row, if there is one, is under the
presented token, and while no other request is about to add it. -/
def looksInPlace (config : Server) (thread : Nat) (event : Event) : Prop :=
  ∀ request program token chainId, config.threads[thread]? = some ⟨request, program⟩ →
    request.presented = some token → token.chain = some chainId → request.lookUp = some event.1 →
      (∀ jti, event.1 = .selectSessionByJti jti → chainId ∈ config.state.chains →
        ∃ row ∈ config.state.sessions, row.chainId = some chainId ∧ row.currentJti = jti) ∧
      ∀ other, Adding config other chainId → other = thread

/-- Each chain occurs once among the rows and the requests that may add its row. -/
structure ChainsOnce (config : Server) : Prop where
  unique : config.state.chains.Nodup
  drawn : ∀ chainId ∈ config.state.chains, chainId < config.state.nextId
  missing : ∀ thread chainId, Adding config thread chainId → chainId ∉ config.state.chains
  alone : ∀ thread other chainId, Adding config thread chainId → Adding config other chainId →
    thread = other

section Runs

variable {settings : Settings} {start : World} {before after config : Server} {thread : Nat}
variable {chainId : Nat} {event : Event}

/-- The event after which a request may add the row of the chain: it has drawn the chain, or has
looked for its row in vain. -/
def BeginsAdding (config : Server) (thread chainId : Nat) (event : Event) : Prop :=
  event = ⟨.uuid, chainId⟩ ∨ ∃ request program token,
    config.threads[thread]? = some ⟨request, program⟩ ∧ request.presented = some token ∧
    token.chain = some chainId ∧ request.lookUp = some event.1 ∧ foundNone event = true

theorem not_mayAdd_nil (request : Request) : ¬ request.MayAdd [] chainId := by
  rintro ⟨-, opened | ⟨token, event, earlier, -, -, -, -, within, -⟩⟩
  · simp [firstDraw] at opened
  · simp at within

theorem Adding.step {permits : Server → Nat → Event → Prop} (attributed : before.Attributed)
    (step : Step (server settings) permits before after) (adding : Adding after thread chainId) :
    Adding before thread chainId ∨ ∃ event,
      Answers (server settings) permits before after thread event ∧
        BeginsAdding before thread chainId event := by
  obtain ⟨request, call, next, present, may⟩ := adding
  have step' := step
  cases step with
  | begin begun =>
    rcases Nat.lt_or_ge thread before.threads.length with old | new
    · rw [Config.begin, List.getElem?_append_left old] at present
      exact Or.inl ⟨request, call, next, present, may⟩
    · change request.MayAdd (before.trace thread) chainId at may
      rw [attributed.trace_eq_nil new] at may
      exact absurd may (not_mayAdd_nil request)
  | disturb disturbance => exact Or.inl ⟨request, call, next, present, may⟩
  | reply actor served answered rest outcome running possible permitted =>
    by_cases isActor : actor = thread
    · subst isActor
      have bound := (List.getElem?_eq_some_iff.mp running).1
      simp only [Config.reply, List.getElem?_set_self bound, Option.some.injEq,
        Thread.mk.injEq] at present
      obtain ⟨rfl, -⟩ := present
      rw [Config.trace_reply_self] at may
      rcases may.new with old | drawn | ⟨token, presented, isChain, looks, none⟩
      · exact Or.inl ⟨served, answered, rest, running, old⟩
      · exact Or.inr ⟨_, ⟨step', ⟨_, _, running⟩, possible, permitted, rfl⟩, Or.inl drawn⟩
      · exact Or.inr ⟨_, ⟨step', ⟨_, _, running⟩, possible, permitted, rfl⟩,
          Or.inr ⟨served, _, token, running, presented, isChain, looks, none⟩⟩
    · simp only [Config.reply, List.getElem?_set_ne isActor] at present
      rw [Config.trace_reply_ne before actor thread isActor] at may
      exact Or.inl ⟨request, call, next, present, may⟩

theorem Adding.drawn {permits : Server → Nat → Event → Prop} (consistent : start.Consistent)
    (run : Reaches (server settings) permits (Config.start start) config)
    (adding : Adding config thread chainId) : chainId < config.state.nextId := by
  obtain ⟨request, call, next, present, -, ⟨-, opened⟩ | missed⟩ := adding
  · exact history_lasting run _ ((Config.mem_trace _ _).mp (firstDraw_drawn opened))
  · obtain ⟨token, event, earlier, -, isChain, -, -, within, decoded⟩ := missed
    have member := within.subset (List.mem_cons_of_mem event decoded)
    have signed : token ∈ config.state.issued :=
      history_lasting run _ ((Config.mem_trace _ _).mp member)
    exact (run_sound consistent run).consistent.chain token signed chainId isChain

/-- Only a request that may add a row adds it. -/
theorem adding_of_insert {permits : Server → Nat → Event → Prop} {userId jti expiresAt : Nat}
    (run : Reaches (server settings) permits (Config.start start) before)
    (answers : Answers (server settings) permits before after thread event)
    (isInsert : event.1 = .insertSession userId jti chainId expiresAt) :
    Adding before thread chainId := by
  obtain ⟨request, next, running⟩ := answers.running
  have allowed := (run.disciplined (server_adds settings) start).allows running
  exact ⟨request, _, next, running, allowed userId jti chainId expiresAt isInsert⟩

/-- A row that was looked for in its place and not found does not exist. -/
theorem absent_of_missed {request : Request} {program : Service Response} {token : Payload}
    (answers : Answers (server settings) looksInPlace before after thread event)
    (present : before.threads[thread]? = some ⟨request, program⟩)
    (presented : request.presented = some token) (isChain : token.chain = some chainId)
    (looks : request.lookUp = some event.1) (missed : foundNone event = true) :
    chainId ∉ before.state.chains := by
  obtain ⟨inPlace, -⟩ := answers.permitted request program token chainId present presented isChain
    looks
  intro member
  obtain ⟨row, inRows, ofChain⟩ := List.mem_filterMap.mp member
  obtain ⟨call, reply⟩ := event
  have possible := answers.possible
  cases call with
  | selectSessionByJti jti =>
    have found : before.state.sessionByJti jti = none := by
      simp only [server, outcomes, selected, List.mem_cons, List.not_mem_nil, or_false] at possible
      rcases possible with same | same
      · obtain ⟨rfl, -⟩ := Prod.mk.inj same
        cases found : before.state.sessionByJti jti with
        | none => rfl
        | some session => simp [foundNone, found] at missed
      · obtain ⟨rfl, -⟩ := Prod.mk.inj same
        simp [foundNone] at missed
    obtain ⟨placed, inRows', -, isJti⟩ := inPlace jti rfl member
    have differs := List.find?_eq_none.mp found placed inRows'
    exact differs (beq_iff_eq.mpr isJti)
  | selectSessionByChain other =>
    have sameChain : other = chainId := by
      cases request with
      | updateMyProfile accessToken currentPassword password =>
        obtain rfl := Option.some.inj presented
        simpa [Request.lookUp, isChain, eq_comm] using looks
      | refresh parent clientIp =>
        cases isJti : parent.jti <;> simp [Request.lookUp, isJti] at looks
      | _ => simp [Request.lookUp] at looks
    subst sameChain
    have among : row ∈ before.state.sessions.filter (·.chainId == some other) :=
      List.mem_filter.mpr ⟨inRows, by simp [ofChain]⟩
    simp only [server, outcomes] at possible
    split at possible
    · rename_i empty
      rw [empty] at among
      simp at among
    · simp only [selected, List.mem_cons, List.not_mem_nil, or_false] at possible
      rcases possible with same | same <;>
      · obtain ⟨rfl, -⟩ := Prod.mk.inj same
        simp [foundNone] at missed
    · simp only [refused, List.mem_singleton] at possible
      obtain ⟨rfl, -⟩ := Prod.mk.inj possible
      simp [foundNone] at missed
  | _ => simp [foundNone] at missed

/-- At that moment there is no row of the chain, and no other request is about to add one. -/
theorem ChainsOnce.begins (consistent : start.Consistent)
    (run : Reaches (server settings) looksInPlace (Config.start start) before)
    (holds : ChainsOnce before)
    (answers : Answers (server settings) looksInPlace before after thread event)
    (begins : BeginsAdding before thread chainId event) :
    chainId ∉ before.state.chains ∧ ∀ other, Adding before other chainId → other = thread := by
  rcases begins with rfl | ⟨request, program, token, present, presented, isChain, looks, missed⟩
  · have fresh : chainId = before.state.nextId :=
      (Prod.mk.inj (List.mem_singleton.mp answers.possible)).1
    refine ⟨fun member => ?_, fun other adding => ?_⟩
    · exact absurd (holds.drawn chainId member) (by omega)
    · exact absurd (adding.drawn consistent run) (by omega)
  · refine ⟨absent_of_missed answers present presented isChain looks missed, ?_⟩
    exact (answers.permitted request program token chainId present presented isChain looks).2

theorem ChainsOnce.answered (consistent : start.Consistent)
    (run : Reaches (server settings) looksInPlace (Config.start start) before)
    (holds : ChainsOnce before)
    (answers : Answers (server settings) looksInPlace before after thread event) :
    ChainsOnce after := by
  have attributed := run.attributed (Config.attributed_start start)
  have later := (step_advance answers.step).nextId
  -- what may be added now was not in the table before, nor about to be added by another request
  have origin {actor chainId : Nat} (adding : Adding after actor chainId) :
      chainId ∉ before.state.chains ∧ ∀ other, Adding before other chainId → other = actor := by
    rcases adding.step attributed answers.step with old | ⟨event', answers', begins⟩
    · exact ⟨holds.missing actor chainId old, fun other adding' =>
        holds.alone other actor chainId adding' old⟩
    · exact holds.begins consistent run answers' begins
  have alone : ∀ first second chainId, Adding after first chainId → Adding after second chainId →
      first = second := by
    intro first second chainId adding adding'
    rcases adding.step attributed answers.step with old | ⟨event', answers', -⟩
    · exact (origin adding').2 first old
    · rcases adding'.step attributed answers.step with old | ⟨event'', answers'', -⟩
      · exact ((origin adding).2 second old).symm
      · have recorded := answers'.recorded.symm.trans answers''.recorded
        exact (Prod.mk.inj (List.cons.inj recorded).1).1
  cases outcomes_chains thread event.1 before.state _ answers.possible with
  | kept rows =>
    refine ⟨holds.unique.sublist rows, fun chainId member => ?_, fun actor chainId adding => ?_,
      alone⟩
    · exact Nat.lt_of_lt_of_le (holds.drawn chainId (rows.subset member)) later
    · exact fun member => (origin adding).1 (rows.subset member)
  | inserted userId jti added expiresAt isInsert rows =>
    have adding := adding_of_insert run answers isInsert
    refine ⟨?_, fun chainId member => ?_, fun actor chainId adding' member => ?_, alone⟩
    · rw [rows]
      apply List.Nodup.append holds.unique (List.nodup_singleton added)
      rw [List.disjoint_singleton]
      exact holds.missing thread added adding
    · refine Nat.lt_of_lt_of_le ?_ later
      rw [rows] at member
      rcases List.mem_append.mp member with old | new
      · exact holds.drawn chainId old
      · rw [List.mem_singleton.mp new]
        exact adding.drawn consistent run
    · rw [rows] at member
      rcases List.mem_append.mp member with old | new
      · exact (origin adding').1 old
      · -- who has added the row adds no other
        obtain rfl := List.mem_singleton.mp new
        obtain rfl := (origin adding').2 thread adding
        obtain ⟨request, call, next, -, unadded, -⟩ := adding'
        rw [answers.trace_self] at unadded
        simp [hasAdded, isInsert, Call.addsSession] at unadded

theorem ChainsOnce.unanswered {permits : Server → Nat → Event → Prop}
    (attributed : before.Attributed) (holds : ChainsOnce before)
    (step : Step (server settings) permits before after)
    (history : after.history = before.history)
    (sessions : after.state.sessions = before.state.sessions)
    (nextId : after.state.nextId = before.state.nextId) : ChainsOnce after := by
  have chains : after.state.chains = before.state.chains :=
    congrArg (List.filterMap UserSession.chainId) sessions
  have old {actor chainId : Nat} (adding : Adding after actor chainId) :
      Adding before actor chainId := by
    rcases adding.step attributed step with old | ⟨event, answers, -⟩
    · exact old
    · have longer := answers.recorded
      rw [history] at longer
      simp at longer
  refine ⟨?_, ?_, fun actor chainId adding => ?_, fun first second chainId adding adding' => ?_⟩
  · rw [chains]
    exact holds.unique
  · rw [chains, nextId]
    exact holds.drawn
  · rw [chains]
    exact holds.missing actor chainId (old adding)
  · exact holds.alone first second chainId (old adding) (old adding')

theorem one_row_per_chain (settings : Settings) (start : World) (consistent : start.Consistent)
    (unique : start.OneRowPerChain)
    (drawn : ∀ row ∈ start.sessions, ∀ chainId, row.chainId = some chainId →
      chainId < start.nextId) {config : Server}
    (run : Reaches (server settings) looksInPlace (Config.start start) config) :
    config.state.OneRowPerChain := by
  have begins : ChainsOnce (Config.start start) := by
    have nobody {thread chainId : Nat} : ¬ Adding (Config.start start) thread chainId := by
      rintro ⟨request, call, next, present, -⟩
      simp [Config.start] at present
    refine ⟨(oneRowPerChain_iff start).mp unique, fun chainId member => ?_,
      fun _ _ adding => absurd adding nobody, fun _ _ _ adding => absurd adding nobody⟩
    obtain ⟨row, inRows, isChain⟩ := List.mem_filterMap.mp member
    exact drawn row inRows chainId isChain
  have holds : ChainsOnce config := by
    refine run.preserves ChainsOnce begins fun before after earlier holds step => ?_
    have attributed := earlier.attributed (Config.attributed_start start)
    rcases step.cases_answers with ⟨history, same | ⟨disturbance, changed⟩⟩ |
      ⟨thread, event, answers⟩
    · exact holds.unanswered attributed step history (by rw [same]) (by rw [same])
    · refine holds.unanswered attributed step history ?_ ?_ <;>
      · rw [changed]
        cases disturbance <;> rfl
    · exact holds.answered consistent earlier answers
  exact (oneRowPerChain_iff config.state).mpr holds.unique

end Runs

/-! ## Runs that look for rows in their place, and one that does not -/

def inPlace (world : World) (chainId : Nat) : Call → Bool
  | .selectSessionByJti jti => chainId ∉ world.chains ||
      world.sessions.any fun row => row.chainId == some chainId && row.currentJti == jti
  | _ => true

/-- As far as its request and its draws tell. -/
def mayBeAdding (config : Server) (index chainId : Nat)
    (thread : Thread Request Reply ServiceError Response) : Bool :=
  thread.result.isNone &&
    if thread.request.isLogin then firstDraw (config.trace index) == some chainId
    else thread.request.presented.bind Payload.chain == some chainId

def looksInPlaceCheck (config : Server) (thread : Nat) (event : Event) : Bool :=
  ((config.threads[thread]?).map Thread.request).all fun request =>
    request.lookUp != some event.1 || (request.presented.bind Payload.chain).all fun chainId =>
      inPlace config.state chainId event.1 && config.threads.zipIdx.all fun other =>
        other.2 == thread || !mayBeAdding config other.2 chainId other.1

theorem mayBeAdding_of_adding {config : Server} {index chainId : Nat}
    (adding : Adding config index chainId) :
    ∃ thread, config.threads[index]? = some thread ∧
      mayBeAdding config index chainId thread = true := by
  obtain ⟨request, call, next, present, -, ⟨isLogin, opened⟩ | missed⟩ := adding
  · exact ⟨_, present, by simp [mayBeAdding, Thread.result, isLogin, opened]⟩
  · obtain ⟨token, event, earlier, presented, isChain, -, -, -, -⟩ := missed
    refine ⟨_, present, ?_⟩
    have notLogin : request.isLogin = false := by
      cases request <;> first | rfl | simp [Request.presented] at presented
    simp [mayBeAdding, Thread.result, notLogin, presented, isChain]

theorem looksInPlace_of_check (config : Server) (thread : Nat) (event : Event)
    (passed : looksInPlaceCheck config thread event = true) :
    looksInPlace config thread event := by
  intro request program token chainId present presented isChain looks
  simp only [looksInPlaceCheck, present, Option.map_some, Option.all_some, looks, presented,
    Option.bind_some, isChain, bne_self_eq_false, Bool.false_or, Bool.and_eq_true,
    List.all_eq_true] at passed
  obtain ⟨placed, others⟩ := passed
  refine ⟨fun jti isCall member => ?_, fun other adding => ?_⟩
  · simp only [isCall, inPlace, member, not_true_eq_false, decide_false, Bool.false_or,
      List.any_eq_true, Bool.and_eq_true, beq_iff_eq] at placed
    exact placed
  · obtain ⟨running, isRunning, may⟩ := mayBeAdding_of_adding adding
    have among : (running, other) ∈ config.threads.zipIdx :=
      List.mem_zipIdx_iff_getElem?.mpr isRunning
    simpa [may] using others _ among

/-- Ann signs in twice at a time.  The first sign-in cannot add its row, so that its first refresh
does; the second refresh moves the row without learning of it.  Then she signs the other session
out. -/
def annRefreshedThrice : List (Move Request Disturbance) :=
  .begin (.login ann.email "first") :: runs 0 12 ++ .reply 0 1 ::
    .begin (.login ann.email "first") :: runs 1 3 ++
    .begin (.refresh (annsToken .refresh 3 1 0 0 4600) none) :: runs 2 15 ++
    .begin (.refresh (annsToken .refresh 6 1 0 0 4600) none) :: runs 3 13 ++ .reply 3 2 ::
    runs 1 10 ++
    .begin (.refresh (annsToken .refresh 8 1 0 0 4600) none) :: runs 4 15 ++
    .begin (.logout (some (annsToken .refresh 10 4 0 0 4600))) :: runs 5 7

theorem one_row_per_chain_ann :
    (Server.after (.start annsStore) annRefreshedThrice).state.OneRowPerChain ∧
      (Server.after (.start annsStore) annRefreshedThrice).state.sessions =
        [⟨1, ann.id, 12, some 1, 4600⟩] := by
  have run : Reaches (server sampleSettings) looksInPlace (Config.start annsStore)
      (Server.after (.start annsStore) annRefreshedThrice) :=
    Config.follow_permitted _ looksInPlaceCheck looksInPlace_of_check _ annRefreshedThrice
      (by decide +kernel)
  have unique : annsStore.OneRowPerChain := fun _ => Nat.zero_le _
  exact ⟨one_row_per_chain sampleSettings annsStore annsStore_consistent unique
    (by simp [annsStore]) run, by decide +kernel⟩

def annSignedIn : Server :=
  Server.after (.start annsStore) (.begin (.login ann.email "first") :: runs 0 13)

/-- The first rotation of the row is not committed, and the second one does not find it. -/
def annsRowTwice : Server :=
  (annSignedIn.after (.begin (.refresh (annsToken .refresh 3 1 0 0 4600) none) :: runs 1 13 ++
    [.reply 1 1])).after (.begin (.refresh (annsToken .refresh 5 1 0 0 4600) none) :: runs 2 15)

/-- Ann signs in and refreshes twice, and the chain has two rows.  Its lookup raises from now on. -/
theorem missed_rotation_adds_row :
    annsStore.sessions = [] ∧
      Reaches (server sampleSettings) anyCall (Config.start annsStore) annsRowTwice ∧
      ¬ annsRowTwice.state.OneRowPerChain ∧
      outcomes 3 (.selectSessionByChain 1) annsRowTwice.state = refused annsRowTwice.state := by
  have rows : annsRowTwice.state.sessions =
      [⟨1, ann.id, 3, some 1, 4600⟩, ⟨2, ann.id, 7, some 1, 4600⟩] := by
    decide +kernel
  refine ⟨rfl, ((Server.after_reaches _ _).trans (Server.after_reaches _ _)).trans
    (Server.after_reaches _ _), ?_, ?_⟩
  · intro unique
    have chain := unique 1
    rw [rows] at chain
    exact absurd chain (by decide)
  · simp only [outcomes, rows]
    rfl

end MysticAuth.Tokens
