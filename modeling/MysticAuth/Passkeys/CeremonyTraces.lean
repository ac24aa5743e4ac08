import MysticAuth.Passkeys.Ceremonies

/-!
# What a ceremony calls

Each write of a ceremony is made to a row that its transaction has locked, and
a ceremony that succeeds has consumed its challenge.
-/

set_option autoImplicit false

namespace MysticAuth.Passkeys

open Interleaving

/-! ## Rows that a transaction has locked -/

inductive Entry where
  | user (row : User)
  | challenge (row : PasskeyChallenge)
  | credential (row : PasskeyCredential)

def Entry.key : Entry → RowKey
  | .user row => .user row.id
  | .challenge row => .challenge row.challenge
  | .credential row => .credential row.id

/-- The row that a call has locked. -/
def acquired (event : Event) : Option Entry :=
  match event with
  | ⟨.lockUser _, .ok row⟩ => row.map .user
  | ⟨.selectChallenge _ _ _ _, .ok row⟩ => row.map .challenge
  | ⟨.selectCredential _, .ok row⟩ => row.map .credential
  | _ => none

/-- The transaction goes on after these calls only. -/
def continues (event : Event) : Bool :=
  match event with
  | ⟨.now, _⟩ | ⟨.getByEmail _, .ok _⟩ | ⟨.getUser _, .ok _⟩ | ⟨.lockUser _, .ok _⟩
  | ⟨.countCredentials _, .ok _⟩ | ⟨.selectChallenge _ _ _ _, .ok _⟩
  | ⟨.selectCredential _, .ok _⟩ => true
  | _ => false

/-- What the transaction of a thread has locked, newest first. -/
def held : List Event → List Entry
  | [] => []
  | event :: earlier => if continues event then (acquired event).toList ++ held earlier else []

/-! ## The discipline -/

def User.isEligible (user : User) : Bool :=
  user.isActive && user.isVerified

/-- The rule of the library for the counts of a row. -/
def Advances (row : PasskeyCredential) (signCount : Nat) : Prop :=
  signCount = 0 ∧ row.signCount = 0 ∨ row.signCount < signCount

/-- A credential is inserted right after its user's have been counted, while the user is locked; an
object of the user was loaded before and is eligible. -/
def Insertable (trace : List Event) (row : PasskeyCredential) : Prop :=
  ∃ count earlier fresh email user,
    trace = ⟨.countCredentials row.userId, .ok count⟩ :: earlier ∧ count < maxPasskeysPerUser ∧
      Entry.user fresh ∈ held earlier ∧ fresh.id = row.userId ∧
      ⟨.getByEmail email, .ok (some user)⟩ ∈ earlier ∧ user.id = row.userId ∧ user.isEligible = true

def allowed (site : Site) (trace : List Event) : Call → Prop
  | .getByEmail _ => trace = []
  | .commitConsumed challenge _ =>
      ∃ row, Entry.challenge row ∈ held trace ∧ row.challenge = challenge
  | .insertCredential row => Insertable trace row
  | .commitSignCount id signCount _ =>
      ∃ row, Entry.credential row ∈ held trace ∧ row.id = id ∧
        (site.Counts → Advances row signCount)
  | _ => True

/-- A row that is found is one that was asked for. -/
def answered : (call : Call) → Reply call → Prop
  | .selectChallenge challenge purpose userId _, reply => ∀ row, reply = .ok (some row) →
      row.challenge = challenge ∧ row.purpose = purpose ∧ row.userId = userId
  | .selectCredential credentialId, reply =>
      ∀ row, reply = .ok (some row) → row.credentialId = credentialId
  | .lockUser id, reply => ∀ row, reply = .ok (some row) → row.id = id
  | _, _ => True

def discipline (site : Site) : Discipline Reply where
  allows := allowed site
  answers := answered

/-- A challenge of the purpose and the user has been locked, and consumed. -/
def Consumed (trace : List Event) (challenge : String) (purpose : Purpose) (userId : Option Nat) :
    Prop :=
  ∃ time earlier row, ⟨.commitConsumed challenge time, .done ()⟩ :: earlier <:+ trace ∧
    Entry.challenge row ∈ held earlier ∧ row.challenge = challenge ∧ row.purpose = purpose ∧
      row.userId = userId

/-- The library has accepted a count for a row, and the count has been written. -/
def Accepted (site : Site) (trace : List Event) (response : Response) (challenge origin : String) :
    Prop :=
  ∃ (row : PasskeyCredential) (signCount time : Nat), some row.credentialId = response.rawId ∧
    site.verifyAuthenticationResponse response challenge origin row.publicKey row.signCount =
      some signCount ∧ ⟨.commitSignCount row.id signCount time, .done ()⟩ ∈ trace

def Request.challenge : Request → Option String
  | .completeRegistration _ _ response _ | .completeAuthentication response _
  | .confirmWithPasskey _ response _ => response.challenge
  | _ => none

/-- The purpose that a request asks of its challenge, and the user that it asks for. -/
def Request.Binds (request : Request) (trace : List Event) (purpose : Purpose)
    (userId : Option Nat) : Prop :=
  match request with
  | .completeRegistration email _ _ _ => purpose = .registration ∧
      ∃ user, ⟨.getByEmail email, .ok (some user)⟩ ∈ trace ∧ userId = some user.id
  | _ => purpose = .authentication ∧ userId = none

/-- The library has accepted the count of a sign-in or of a confirmation. -/
def Request.Counted (site : Site) (request : Request) (trace : List Event) (challenge : String) :
    Prop :=
  match request with
  | .completeAuthentication response origin | .confirmWithPasskey _ response origin =>
      Accepted site trace response challenge origin
  | _ => True

def Answer.isSuccess : Answer → Bool
  | .passkeyAdded | .signedIn _ | .confirmed _ => true
  | .options _ | .locked => false

/-- A ceremony that succeeds has consumed its challenge. -/
def Finished (site : Site) (request : Request) (result : Except Failure Answer)
    (trace : List Event) : Prop :=
  ∀ answer, result = .ok answer → answer.isSuccess = true →
    ∃ challenge purpose userId, request.challenge = some challenge ∧
      request.Binds trace purpose userId ∧ Consumed trace challenge purpose userId ∧
        request.Counted site trace challenge

/-! ## Calls that change no row of a ceremony -/

def isPlain : Call → Bool
  | .getByEmail _ | .commitConsumed _ _ | .insertCredential _ | .commitSignCount _ _ _ => false
  | _ => true

section Specifications

variable {site : Site} {trace later : List Event}

theorem allowed_of_isPlain {call : Call} (plain : isPlain call = true) : allowed site trace call := by
  cases call with
  | getByEmail _ | commitConsumed _ _ | insertCredential _ | commitSignCount _ _ _ => cases plain
  | _ => trivial

theorem Consumed.mono {challenge : String} {purpose : Purpose} {userId : Option Nat}
    (consumed : Consumed trace challenge purpose userId) (extended : trace <:+ later) :
    Consumed later challenge purpose userId := by
  obtain ⟨time, earlier, row, within, locked⟩ := consumed
  exact ⟨time, earlier, row, within.trans extended, locked⟩

theorem Accepted.mono {response : Response} {challenge origin : String}
    (accepted : Accepted site trace response challenge origin) (extended : trace <:+ later) :
    Accepted site later response challenge origin := by
  obtain ⟨row, signCount, time, isRow, accepts, written⟩ := accepted
  exact ⟨row, signCount, time, isRow, accepts, extended.subset written⟩

theorem Request.Binds.mono {request : Request} {purpose : Purpose} {userId : Option Nat}
    (binds : request.Binds trace purpose userId) (extended : trace <:+ later) :
    request.Binds later purpose userId := by
  cases request with
  | completeRegistration email name response origin =>
    obtain ⟨isPurpose, user, loaded, isUser⟩ := binds
    exact ⟨isPurpose, user, extended.subset loaded, isUser⟩
  | _ => exact binds

theorem Request.Counted.mono {request : Request} {challenge : String}
    (counted : request.Counted site trace challenge) (extended : trace <:+ later) :
    request.Counted site later challenge := by
  cases request with
  | completeAuthentication response origin => exact Accepted.mono counted extended
  | confirmWithPasskey email response origin => exact Accepted.mono counted extended
  | _ => trivial

theorem Finished.mono {request : Request} {result : Except Failure Answer}
    (finished : Finished site request result trace) (extended : trace <:+ later) :
    Finished site request result later := by
  intro answer same success
  obtain ⟨challenge, purpose, userId, isChallenge, binds, consumed, counted⟩ :=
    finished answer same success
  exact ⟨challenge, purpose, userId, isChallenge, binds.mono extended, consumed.mono extended,
    counted.mono extended⟩

/-- A part that makes only plain calls changes nothing that was shown before. -/
theorem plain_meets {α : Type} {program : Service α}
    (confined : program.Confined fun call => isPlain call = true)
    {post : Except Failure α → List Event → Prop}
    (returns : ∀ result later, trace <:+ later → post result later) :
    program.Meets (discipline site) post trace :=
  confined.meets (fun _ _ _ plain => allowed_of_isPlain plain)
    fun result added _ => returns result (added ++ trace) (List.suffix_append _ _)

theorem execute_meets {call : Call} {α : Type} {result : Reply call → Except Failure α}
    {post : Except Failure α → List Event → Prop} (allows : allowed site trace call)
    (returns : ∀ reply, answered call reply → post (result reply) (⟨call, reply⟩ :: trace)) :
    (execute call result).Meets (discipline site) post trace := by
  rw [execute, Program.meets_attempt]
  exact ⟨allows, returns⟩

theorem perform_meets {call : Call} {post : Except Failure (Reply call) → List Event → Prop}
    (allows : allowed site trace call) (returns : ∀ reply, post (.ok reply) (⟨call, reply⟩ :: trace)) :
    (perform call).Meets (discipline site) post trace := by
  rw [perform, Program.meets_perform]
  exact ⟨allows, fun reply _ => returns reply⟩

theorem consumeChallenge_meets (challenge : String) (purpose : Purpose) (userId : Option Nat)
    {post : Except Failure (Option PasskeyChallenge) → List Event → Prop}
    (consumed : ∀ stored later, trace <:+ later → stored.challenge = challenge →
      Consumed later challenge purpose userId → post (.ok (some stored)) later)
    (missing : ∀ later, trace <:+ later → post (.ok none) later)
    (failed : ∀ failure later, trace <:+ later → post (.error failure) later) :
    (consumeChallenge challenge purpose userId).Meets (discipline site) post trace := by
  unfold consumeChallenge
  rw [Program.meets_bind]
  refine perform_meets trivial fun now => ?_
  simp only
  rw [Program.meets_bind]
  refine execute_meets trivial fun reply possible => ?_
  have suffix (base : List Event) (first second : Event) : base <:+ first :: second :: base :=
    (List.suffix_cons _ _).trans (List.suffix_cons _ _)
  match reply with
  | .error failure => exact failed failure _ (suffix _ _ _)
  | .ok none => exact missing _ (suffix _ _ _)
  | .ok (some row) =>
    simp only [id]
    rw [Program.meets_bind]
    refine perform_meets trivial fun now' => ?_
    simp only
    rw [Program.meets_bind]
    have selected : Entry.challenge row ∈ held (⟨.now, now'⟩ ::
        ⟨.selectChallenge challenge purpose userId now, .ok (some row)⟩ :: ⟨.now, now⟩ :: trace) :=
      List.mem_cons_self
    obtain ⟨isChallenge, isPurpose, isUser⟩ := possible row rfl
    refine execute_meets ⟨row, selected, isChallenge⟩ fun written _ => ?_
    have extended : trace <:+ ⟨.commitConsumed challenge now', written⟩ :: ⟨.now, now'⟩ ::
        ⟨.selectChallenge challenge purpose userId now, .ok (some row)⟩ :: ⟨.now, now⟩ :: trace :=
      (suffix _ _ _).trans (suffix _ _ _)
    match written with
    | .done () =>
      exact consumed _ _ extended isChallenge
        ⟨now', _, row, List.suffix_refl _, selected, isChallenge, isPurpose, isUser⟩
    | .integrityError => exact failed _ _ extended
    | .failed => exact failed _ _ extended
    | .unacknowledged () => exact failed _ _ extended

/-- Whatever the insertion returns, what was shown before still holds. -/
theorem insertVerified_meets {user : User} {name : String} {response : Response}
    {registered : Registered} {email : String} {post : Except Failure Bool → List Event → Prop}
    (loaded : ⟨.getByEmail email, .ok (some user)⟩ ∈ trace)
    (returns : ∀ result later, trace <:+ later → post result later) :
    (insertVerified user name response registered).Meets (discipline site) post trace := by
  unfold insertVerified
  rw [Program.meets_bind]
  refine execute_meets trivial fun found possible => ?_
  match found with
  | .error failure => exact returns _ _ (List.suffix_cons _ _)
  | .ok none => exact returns _ _ (List.suffix_cons _ _)
  | .ok (some fresh) =>
    simp only [id, Option.map_some, sessionObject]
    split
    · exact returns _ _ (List.suffix_cons _ _)
    · rename_i eligible
      have isEligible : user.isEligible = true := by
        simpa [User.isEligible, and_comm] using eligible
      rw [Program.meets_bind]
      refine execute_meets trivial fun counted _ => ?_
      have extended : trace <:+ ⟨.countCredentials user.id, counted⟩ ::
          ⟨.lockUser user.id, .ok (some fresh)⟩ :: trace :=
        (List.suffix_cons _ _).trans (List.suffix_cons _ _)
      match counted with
      | .error failure => exact returns _ _ extended
      | .ok count =>
        simp only [id]
        split
        · exact returns _ _ extended
        · rename_i below
          have insertable : Insertable (⟨.countCredentials user.id, .ok count⟩ ::
              ⟨.lockUser user.id, .ok (some fresh)⟩ :: trace)
              (newCredential user name response registered) :=
            ⟨count, _, fresh, email, user, rfl, Nat.lt_of_not_le below, List.mem_cons_self,
              possible fresh rfl, List.mem_cons_of_mem _ loaded, rfl, isEligible⟩
          rw [Program.meets_bind]
          refine execute_meets insertable fun written _ => ?_
          have extended' := extended.trans (List.suffix_cons
            (⟨.insertCredential (newCredential user name response registered), written⟩ : Event) _)
          cases written with
          | done _ => exact returns _ _ extended'
          | integrityError => exact returns _ _ extended'
          | failed => exact returns _ _ extended'
          | unacknowledged _ => exact returns _ _ extended'

theorem rollback_meets {α : Type} {value : α} {post : Except Failure α → List Event → Prop}
    (rolledBack : ∀ later, trace <:+ later → post (.ok value) later)
    (failed : ∀ failure later, trace <:+ later → post (.error failure) later) :
    (do
      execute .rollback id
      return value : Service α).Meets (discipline site) post trace := by
  rw [Program.meets_bind]
  refine execute_meets trivial fun rolled _ => ?_
  have last := List.suffix_cons (⟨.rollback, rolled⟩ : Event) trace
  cases rolled with
  | ok _ => exact rolledBack _ last
  | error failure => exact failed failure _ last

theorem finishRegistration_meets (site : Site) {user : User} {name : String} {response : Response}
    {origin email : String} {post : Except Failure Registration → List Event → Prop}
    (loaded : ⟨.getByEmail email, .ok (some user)⟩ ∈ trace)
    (added : ∀ later challenge, trace <:+ later → response.challenge = some challenge →
      Consumed later challenge .registration (some user.id) → post (.ok ⟨true, false⟩) later)
    (refused : ∀ expired later, trace <:+ later → post (.ok ⟨false, expired⟩) later)
    (failed : ∀ failure later, trace <:+ later → post (.error failure) later) :
    (finishRegistration site user name response origin).Meets (discipline site) post trace := by
  unfold finishRegistration
  cases isChallenge : response.challenge with
  | none => exact refused _ _ (List.suffix_refl _)
  | some challenge =>
    simp only
    rw [Program.meets_bind]
    refine consumeChallenge_meets challenge .registration (some user.id) ?_ (refused false) failed
    intro stored middle extended _ consumed
    simp only
    split
    · exact rollback_meets (fun later further => refused false later (extended.trans further))
        fun failure later further => failed failure later (extended.trans further)
    · rw [Program.meets_tryCatch, Program.meets_bind]
      refine insertVerified_meets (extended.subset loaded) fun result later further => ?_
      have whole := extended.trans further
      match result with
      | .ok true => exact added later challenge whole isChallenge (consumed.mono further)
      | .ok false => exact refused false later whole
      | .error failure =>
        exact rollback_meets (fun last further => refused true last (whole.trans further))
          fun failure last further => failed failure last (whole.trans further)

theorem getUser_meets (loaded : Option User) (userId : Nat)
    {post : Except Failure (Option User) → List Event → Prop}
    (returns : ∀ user added, (∀ event ∈ added, continues event = true ∧ acquired event = none) →
      post (.ok user) (added ++ trace))
    (failed : ∀ failure later, trace <:+ later → post (.error failure) later) :
    (getUser loaded userId).Meets (discipline site) post trace := by
  have asked : (execute (.getUser userId) id : Service (Option User)).Meets (discipline site) post trace := by
    refine execute_meets trivial fun reply _ => ?_
    cases reply with
    | error failure => exact failed failure _ (List.suffix_cons _ _)
    | ok user =>
      refine returns user [⟨.getUser userId, .ok user⟩] fun event member => ?_
      rw [List.mem_singleton.mp member]
      exact ⟨rfl, rfl⟩
  unfold getUser
  split
  · split
    · exact returns _ [] fun event member => by cases member
    · exact asked
  · exact asked

theorem mem_held_append {entry : Entry} {added : List Event}
    (goesOn : ∀ event ∈ added, continues event = true ∧ acquired event = none)
    (isHeld : entry ∈ held trace) : entry ∈ held (added ++ trace) := by
  induction added with
  | nil => exact isHeld
  | cons event rest ih =>
    rw [List.cons_append, held, if_pos (goesOn event List.mem_cons_self).1]
    exact List.mem_append_right _ (ih fun other member => goesOn other (List.mem_cons_of_mem _ member))

theorem finishAuthentication_meets (site : Site) {response : Response}
    {origin : String} (loaded : Option User)
    {post : Except Failure (Option User) → List Event → Prop}
    (verified : ∀ user later challenge, trace <:+ later → response.challenge = some challenge →
      Consumed later challenge .authentication none → Accepted site later response challenge origin →
        post (.ok (some user)) later)
    (refused : ∀ later, trace <:+ later → post (.ok none) later)
    (failed : ∀ failure later, trace <:+ later → post (.error failure) later) :
    (finishAuthentication site response origin loaded).Meets (discipline site) post trace := by
  unfold finishAuthentication
  cases isChallenge : response.challenge with
  | none => exact refused _ (List.suffix_refl _)
  | some challenge =>
    cases isRaw : response.rawId with
    | none => exact refused _ (List.suffix_refl _)
    | some credentialId =>
      simp only
      rw [Program.meets_bind]
      refine consumeChallenge_meets challenge .authentication none ?_ refused failed
      intro stored middle extended isStored consumed
      simp only
      rw [Program.meets_bind]
      refine execute_meets trivial fun found isFound => ?_
      have extended₁ : trace <:+ ⟨.selectCredential credentialId, found⟩ :: middle :=
        extended.trans (List.suffix_cons _ _)
      match found with
      | .error failure => exact failed failure _ extended₁
      | .ok none => exact refused _ extended₁
      | .ok (some row) =>
        simp only [id]
        cases accepts : site.verifyAuthenticationResponse response stored.challenge origin
          row.publicKey row.signCount with
        | none => exact refused _ extended₁
        | some newSignCount =>
          simp only
          rw [Program.meets_bind]
          refine getUser_meets loaded row.userId (fun user added goesOn => ?_)
            fun failure later further => failed failure later (extended₁.trans further)
          have extended₂ := extended₁.trans (List.suffix_append added _)
          have isHeld : Entry.credential row ∈
              held (added ++ ⟨.selectCredential credentialId, .ok (some row)⟩ :: middle) :=
            mem_held_append goesOn List.mem_cons_self
          cases user with
          | none => exact refused _ extended₂
          | some user =>
            simp only
            split
            · exact refused _ extended₂
            · split
              · exact refused _ extended₂
              · rw [Program.meets_bind]
                refine perform_meets trivial fun now => ?_
                simp only
                rw [Program.meets_bind]
                have advances : site.Counts → Advances row newSignCount :=
                  fun counts => counts _ _ _ _ _ _ accepts
                refine execute_meets ⟨row, List.mem_append_right _ isHeld, rfl, advances⟩
                  fun written _ => ?_
                have last := (extended₂.trans (List.suffix_cons (⟨.now, now⟩ : Event) _)).trans
                  (List.suffix_cons ⟨.commitSignCount row.id newSignCount now, written⟩ _)
                match written with
                | .done () =>
                  refine verified user _ challenge last isChallenge (consumed.mono ?_)
                    ⟨row, newSignCount, now, ?_, isStored ▸ accepts, List.mem_cons_self⟩
                  · exact (((List.suffix_cons _ _).trans (List.suffix_append added _)).trans
                      (List.suffix_cons _ _)).trans (List.suffix_cons _ _)
                  · rw [isFound row rfl, isRaw]
                | .integrityError => exact failed _ _ last
                | .failed => exact failed _ _ last
                | .unacknowledged () => exact failed _ _ last

end Specifications

/-! ## Whole requests -/

section Requests

variable {site : Site} {trace : List Event} {request : Request}

theorem finished_of_error (failure : Failure) : Finished site request (.error failure) trace :=
  fun _ same => by cases same

theorem finished_of_unsuccessful {answer : Answer} (unsuccessful : answer.isSuccess = false) :
    Finished site request (.ok answer) trace := by
  intro other same success
  obtain rfl := Except.ok.inj same
  rw [unsuccessful] at success
  cases success

theorem finished_of_success {answer : Answer} {challenge : String} {purpose : Purpose}
    {userId : Option Nat} (isChallenge : request.challenge = some challenge)
    (binds : request.Binds trace purpose userId) (consumed : Consumed trace challenge purpose userId)
    (counted : request.Counted site trace challenge) : Finished site request (.ok answer) trace :=
  fun _ _ _ => ⟨challenge, purpose, userId, isChallenge, binds, consumed, counted⟩

theorem validatedOrigin_meets (site : Site) (origin : String)
    {post : Except Failure String → List Event → Prop} (valid : post (.ok origin) trace)
    (invalid : ∀ failure, post (.error failure) trace) :
    (validatedOrigin site origin).Meets (discipline site) post trace := by
  unfold validatedOrigin
  split
  · exact invalid _
  · exact valid

/-- Whatever a failed ceremony answers, it is no success. -/
theorem failCeremony_meets {locked error : Service Answer}
    (isLocked : ∀ later, locked.Meets (discipline site) (Finished site request) later)
    (isError : ∀ later, error.Meets (discipline site) (Finished site request) later) :
    (failCeremony locked error).Meets (discipline site) (Finished site request) trace := by
  unfold failCeremony
  rw [Program.meets_bind]
  refine perform_meets trivial fun _ => ?_
  simp only
  rw [Program.meets_bind]
  refine execute_meets trivial fun recorded _ => ?_
  cases recorded with
  | error failure => exact finished_of_error failure
  | ok allowed =>
    simp only [id]
    split
    · rw [Program.meets_bind]
      refine perform_meets trivial fun _ => ?_
      simp only
      rw [Program.meets_bind]
      exact perform_meets trivial fun _ => isLocked _
    · exact isError _

theorem newChallenge_confined (site : Site) (userId : Option Nat) (purpose : Purpose)
    (challenge : String) :
    (newChallenge site userId purpose challenge).Confined fun call => isPlain call = true :=
  Program.confined_bind _ _ ⟨rfl, fun _ => trivial⟩ fun _ => ⟨rfl, fun _ => trivial⟩

theorem beginRegistration_meets (site : Site) (email name challenge : String) :
    (beginRegistration site email name challenge).Meets (discipline site)
      (Finished site (.beginRegistration email name challenge)) [] := by
  unfold beginRegistration
  rw [Program.meets_bind]
  refine execute_meets rfl fun found _ => ?_
  match found with
  | .error failure => exact finished_of_error failure
  | .ok none => exact finished_of_error _
  | .ok (some user) =>
    simp only [id]
    split
    · exact finished_of_error _
    · rw [Program.meets_bind]
      refine execute_meets trivial fun listed _ => ?_
      cases listed with
      | error failure => exact finished_of_error failure
      | ok credentials =>
        simp only [id]
        split
        · exact finished_of_error _
        · rw [Program.meets_bind]
          have confined : (registrationOptions site user challenge).Confined
              fun call => isPlain call = true := by
            refine Program.confined_bind _ _ ⟨rfl, fun _ => trivial⟩ fun _ => ?_
            exact Program.confined_bind _ _ (newChallenge_confined site _ _ _) fun _ => trivial
          refine plain_meets confined fun result later _ => ?_
          cases result with
          | ok excluded => exact finished_of_unsuccessful rfl
          | error failure => exact finished_of_error failure

theorem completeRegistration_meets (site : Site) (email name : String) (response : Response)
    (origin : String) :
    (completeRegistration site email name response origin).Meets (discipline site)
      (Finished site (.completeRegistration email name response origin)) [] := by
  unfold completeRegistration
  rw [Program.meets_bind]
  refine validatedOrigin_meets site origin ?_ fun failure => finished_of_error failure
  simp only
  rw [Program.meets_bind]
  refine execute_meets rfl fun found _ => ?_
  match found with
  | .error failure => exact finished_of_error failure
  | .ok none => exact finished_of_error _
  | .ok (some user) =>
    simp only [id]
    split
    · exact finished_of_error _
    · rw [Program.meets_bind]
      refine finishRegistration_meets site List.mem_cons_self ?_ (fun expired later _ => ?_)
        fun failure later _ => finished_of_error failure
      · intro later challenge extended isChallenge consumed
        simp only [Bool.not_true, Bool.false_eq_true, if_false]
        have finished : Finished site (.completeRegistration email name response origin)
            (.ok .passkeyAdded) later :=
          finished_of_success isChallenge ⟨rfl, user, extended.subset List.mem_cons_self, rfl⟩
            consumed trivial
        rw [Program.meets_bind]
        refine perform_meets trivial fun _ => ?_
        simp only
        rw [Program.meets_bind]
        refine perform_meets trivial fun _ => ?_
        exact finished.mono ((List.suffix_cons _ _).trans (List.suffix_cons _ _))
      · simp only [Bool.not_false, if_true]
        cases expired with
        | true => exact finished_of_error _
        | false =>
          simp only [Bool.false_eq_true, if_false]
          rw [Program.meets_bind]
          exact perform_meets trivial fun _ => finished_of_error _

theorem completeAuthentication_meets (site : Site) (response : Response)
    (origin : String) :
    (completeAuthentication site response origin).Meets (discipline site)
      (Finished site (.completeAuthentication response origin)) [] := by
  unfold completeAuthentication
  rw [Program.meets_bind]
  refine validatedOrigin_meets site origin ?_ fun failure => finished_of_error failure
  simp only
  rw [Program.meets_bind]
  refine execute_meets trivial fun lockedOut _ => ?_
  match lockedOut with
  | .error failure => exact finished_of_error failure
  | .ok true =>
    simp only [id, if_true]
    rw [Program.meets_bind]
    exact perform_meets trivial fun _ => finished_of_unsuccessful rfl
  | .ok false =>
    simp only [id, Bool.false_eq_true, if_false]
    rw [Program.meets_bind]
    refine finishAuthentication_meets site none ?_ (fun later _ => ?_)
      fun failure later _ => finished_of_error failure
    · intro user later challenge _ isChallenge consumed accepted
      have confined : (do
          execute .resetFailedAttempts id
          execute (.startSession user.id) id
          perform (.logSecurityEvent true)
          return .signedIn user.id : Service Answer).Confined fun call => isPlain call = true :=
        ⟨rfl, fun reply => by cases reply <;> first | trivial | exact ⟨rfl, fun reply => by
          cases reply <;> first | trivial | exact ⟨rfl, fun _ => trivial⟩⟩⟩
      refine plain_meets confined fun result last extended => ?_
      cases result with
      | ok answer =>
        exact finished_of_success isChallenge ⟨rfl, rfl⟩ (consumed.mono extended)
          (accepted.mono extended)
      | error failure => exact finished_of_error failure
    · exact failCeremony_meets (fun _ => finished_of_unsuccessful rfl) fun _ => finished_of_error _

theorem confirmWithPasskey_meets (site : Site) (email : String)
    (response : Response) (origin : String) :
    (confirmWithPasskey site email response origin).Meets (discipline site)
      (Finished site (.confirmWithPasskey email response origin)) [] := by
  unfold confirmWithPasskey
  rw [Program.meets_bind]
  refine validatedOrigin_meets site origin ?_ fun failure => finished_of_error failure
  simp only
  rw [Program.meets_bind]
  refine execute_meets trivial fun found _ => ?_
  match found with
  | .error failure => exact finished_of_error failure
  | .ok none => exact finished_of_error _
  | .ok (some user) =>
    simp only [id]
    rw [Program.meets_bind]
    refine execute_meets trivial fun lockedOut _ => ?_
    match lockedOut with
    | .error failure => exact finished_of_error failure
    | .ok true =>
      simp only [id, if_true]
      rw [Program.meets_bind]
      exact perform_meets trivial fun _ => finished_of_error _
    | .ok false =>
      simp only [id, Bool.false_eq_true, if_false]
      rw [Program.meets_bind]
      have refused (verified : Option User) (later : List Event)
          (differs : verified.map (·.id) ≠ some user.id) :
          (if verified.map (·.id) = some user.id then do
            execute (.recordStepUp user.id) id
            perform (.logSecurityEvent true)
            execute .resetFailedAttempts id
            return .confirmed user.id
          else failCeremony (raise 429 "Too many failed confirmation attempts.")
            (raise 401 "Passkey confirmation failed") : Service Answer).Meets (discipline site)
              (Finished site (.confirmWithPasskey email response origin)) later := by
        rw [if_neg differs]
        exact failCeremony_meets (fun _ => finished_of_error _) fun _ => finished_of_error _
      refine finishAuthentication_meets site (some user) ?_
        (fun later _ => refused none later fun same => by cases same)
        fun failure later _ => finished_of_error failure
      intro verified later challenge _ isChallenge consumed accepted
      by_cases same : (some verified).map (·.id) = some user.id
      · simp only
        rw [if_pos same]
        have confined : (do
            execute (.recordStepUp user.id) id
            perform (.logSecurityEvent true)
            execute .resetFailedAttempts id
            return .confirmed user.id : Service Answer).Confined fun call => isPlain call = true :=
          ⟨rfl, fun reply => by cases reply <;> first | trivial | exact ⟨rfl, fun _ =>
            ⟨rfl, fun reply => by cases reply <;> trivial⟩⟩⟩
        refine plain_meets confined fun result last extended => ?_
        cases result with
        | ok answer =>
          exact finished_of_success isChallenge ⟨rfl, rfl⟩ (consumed.mono extended)
            (accepted.mono extended)
        | error failure => exact finished_of_error failure
      · exact refused (some verified) later same

theorem handler_meets (site : Site) (request : Request) :
    (handler site request).Meets (discipline site) (Finished site request) [] := by
  cases request with
  | beginRegistration email name challenge => exact beginRegistration_meets site email name challenge
  | completeRegistration email name response origin =>
    exact completeRegistration_meets site email name response origin
  | beginAuthentication challenge =>
    rw [handler, Program.meets_bind]
    refine plain_meets (newChallenge_confined site _ _ _) fun result later _ => ?_
    cases result with
    | ok _ => exact finished_of_unsuccessful rfl
    | error failure => exact finished_of_error failure
  | completeAuthentication response origin =>
    exact completeAuthentication_meets site response origin
  | confirmWithPasskey email response origin =>
    exact confirmWithPasskey_meets site email response origin

theorem handle_meets (site : Site) (request : Request) :
    (handle site request).Meets (discipline site) (Finished site request) [] := by
  rw [handle, Program.meets_finally]
  refine (handler_meets site request).mono fun result later _ finished => ?_
  exact perform_meets trivial fun _ => finished.mono (List.suffix_cons _ _)

end Requests

/-! ## What a query finds -/

section Queries

variable {store after : Store} {thread : Nat}

theorem lockedRow_cases {α : Type} {found : Option α} {key : α → RowKey}
    {reply : Except Failure (Option α)} (possible : (reply, after) ∈ lockedRow store thread found key) :
    (∃ row, found = some row ∧ reply = .ok (some row) ∧ store.locks.isFree thread (key row) = true ∧
        after = store.lock thread (key row)) ∨
      (reply = .ok none ∧ after = store) ∨
      reply = .error .databaseError ∧ after = store.release thread := by
  unfold lockedRow at possible
  cases found with
  | none =>
    simp only [List.mem_cons, Prod.mk.injEq, List.not_mem_nil, or_false] at possible
    exact Or.inr possible
  | some row =>
    simp only at possible
    split at possible
    · rename_i free
      simp only [List.mem_cons, Prod.mk.injEq, List.not_mem_nil, or_false] at possible
      rcases possible with ⟨rfl, rfl⟩ | failed
      · exact Or.inl ⟨row, rfl, rfl, free, rfl⟩
      · exact Or.inr (Or.inr failed)
    · simp only [List.mem_cons, Prod.mk.injEq, List.not_mem_nil, or_false] at possible
      exact Or.inr (Or.inr possible)

theorem lockedRow_found {α : Type} {found : Option α} {key : α → RowKey}
    {reply : Except Failure (Option α)} {row : α}
    (possible : (reply, after) ∈ lockedRow store thread found key)
    (isRow : reply = .ok (some row)) : found = some row := by
  rcases lockedRow_cases possible with ⟨other, isFound, isReply, -⟩ | ⟨isReply, -⟩ | ⟨isReply, -⟩
  · rw [isFound, Except.ok.inj (isReply.symm.trans isRow)]
  · rw [isRow] at isReply
    cases isReply
  · rw [isRow] at isReply
    cases isReply

theorem answered_of_possible (site : Site) (call : Call) {reply : Reply call}
    (possible : (reply, after) ∈ outcomes site thread call store) : answered call reply := by
  cases call with
  | selectChallenge challenge purpose userId time =>
    intro row isRow
    have isOpen := (Option.filter_eq_some_iff.mp (lockedRow_found possible isRow)).2
    simp only [PasskeyChallenge.isOpen, Bool.and_eq_true, beq_iff_eq] at isOpen
    exact ⟨isOpen.1.1.1.1, isOpen.1.1.1.2, isOpen.2⟩
  | selectCredential credentialId =>
    intro row isRow
    have sameId : (row.credentialId == credentialId) = true :=
      List.find?_some (p := fun row : PasskeyCredential => row.credentialId == credentialId)
        (lockedRow_found possible isRow)
    exact eq_of_beq sameId
  | lockUser id =>
    intro row isRow
    have sameId : (row.id == id) = true :=
      List.find?_some (p := fun user : User => user.id == id) (lockedRow_found possible isRow)
    exact eq_of_beq sameId
  | _ => trivial

end Queries

theorem server_obeys (site : Site) :
    (server site).Obeys (fun _ => discipline site) (Finished site) where
  programs := handle_meets site
  answers _ _ call _ _ possible := answered_of_possible site call possible

end MysticAuth.Passkeys
