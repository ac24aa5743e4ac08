import MysticAuth.SessionEvents.EventStream

/-!
# What a stream calls

Every message that is taken is yielded next, but for one that a wait has
returned together with the shutdown.
-/

set_option autoImplicit false

namespace MysticAuth.EventStream

open Interleaving

/-! ## Messages in a trace -/

/-- The message that a call has taken from the subscription. -/
def taken (event : Event) : Option String :=
  match event with
  | ⟨.getMessage, .ok text⟩ => text
  | ⟨.wait, .ok (.message text)⟩ => text
  | ⟨.wait, .ok (.both text)⟩ => text
  | _ => none

def delivered (event : Event) : Option String :=
  match event with
  | ⟨.yield (.data text), .ok ()⟩ => some text
  | _ => none

/-- A wait that has returned a message and the shutdown. -/
def drops (event : Event) : Bool :=
  match event with
  | ⟨.wait, .ok (.both text)⟩ => text.isSome
  | _ => false

/-- The client is gone. -/
def disconnects (event : Event) : Bool :=
  match event with
  | ⟨.acquireLease _ _ _, .error .cancelled⟩ | ⟨.captureSecurityAlert, .error .cancelled⟩
  | ⟨.subscribe _, .error .cancelled⟩ | ⟨.refreshLease _ _ _, .error .cancelled⟩
  | ⟨.getMessage, .error .cancelled⟩ | ⟨.wait, .error .cancelled⟩
  | ⟨.verifyToken _, .error .cancelled⟩ | ⟨.yield _, .error .cancelled⟩
  | ⟨.unsubscribe _, .error .cancelled⟩ | ⟨.aclose, .error .cancelled⟩
  | ⟨.releaseLease _ _ _, .error .cancelled⟩ => true
  | _ => false

/-- Newest first. -/
def takenOf (trace : List Event) : List String :=
  trace.filterMap taken

def deliveredOf (trace : List Event) : List String :=
  trace.filterMap delivered

/-- Everything that has been taken has been yielded. -/
structure Even (trace : List Event) : Prop where
  balanced : deliveredOf trace = takenOf trace
  undropped : trace.any drops = false

/-- The last message has been taken, and dropped. -/
structure Lost (trace : List Event) : Prop where
  last : ∃ text, takenOf trace = text :: deliveredOf trace
  dropped : trace.any drops = true

/-- How a trace ends. -/
def Settled (trace : List Event) : Prop :=
  trace.any disconnects = true ∨ Even trace ∨ Lost trace

/-! ## The course of a stream -/

def subscribes (event : Event) : Bool :=
  match event with
  | ⟨.subscribe _, .ok ()⟩ => true
  | _ => false

def unsubscribes (event : Event) : Bool :=
  match event.1 with
  | .unsubscribe _ => true
  | _ => false

/-- The stream is in its loop. -/
def isOpen (trace : List Event) : Bool :=
  trace.any subscribes && !trace.any unsubscribes

/-- Since the last wait the stream has got a message, or its token has been accepted. -/
def current : List Event → Bool
  | [] => true
  | ⟨.wait, reply⟩ :: _ =>
      match reply with
      | .ok (.message (some _)) => true
      | _ => false
  | ⟨.verifyToken _, reply⟩ :: earlier =>
      match reply with
      | .ok true => true
      | _ => current earlier
  | ⟨.startTasks _, _⟩ :: _ => false
  | _ :: earlier => current earlier

/-- The tasks have been started, and nothing has been called since. -/
def isStarted : List Event → Bool
  | ⟨.startTasks _, _⟩ :: _ => true
  | _ => false

variable (keys : KeyTables) (request : Request)

/-- What a stream may call, by what it has called before. -/
def allowed (trace : List Event) : Call → Prop
  | .subscribe name => name = channel keys request ∧ trace.any unsubscribes = false ∧
      takenOf trace = [] ∧ current trace = true
  | .yield _ => isOpen trace = true ∧ (request.accessToken.isSome = true → current trace = true)
  | .startTasks timeout => isOpen trace = true ∧
      (request.accessToken.isSome = true → current trace = true) ∧ timeout ≤ heartbeatMillis
  | .getMessage => isOpen trace = true
  | .wait => isOpen trace = true ∧ isStarted trace = true
  | .verifyToken token => isOpen trace = true ∧ request.accessToken = some token
  | _ => True

/-- A client that does not get a chunk is gone. -/
def answered : (call : Call) → Reply call → Prop
  | .yield _, reply => reply ≠ .error .other
  | _, _ => True

def discipline : Discipline Reply where
  allows := allowed keys request
  answers := answered

/-- A stream that has ended is not subscribed any more. -/
def Ended (_ : Except Failure Ending) (trace : List Event) : Prop :=
  Settled trace ∧ isOpen trace = false

section Traces

variable {trace : List Event} {event : Event}

/-- A call that neither takes nor yields a message. -/
structure Neutral (event : Event) : Prop where
  untaken : taken event = none
  undelivered : delivered event = none
  undropped : drops event = false

theorem Even.cons (even : Even trace) (neutral : Neutral event) : Even (event :: trace) where
  balanced := by
    rw [deliveredOf, takenOf, List.filterMap_cons_none neutral.undelivered,
      List.filterMap_cons_none neutral.untaken]
    exact even.balanced
  undropped := by rw [List.any_cons, neutral.undropped, even.undropped]; rfl

theorem Settled.cons (settled : Settled trace) (neutral : Neutral event) :
    Settled (event :: trace) := by
  rcases settled with gone | even | ⟨⟨text, last⟩, dropped⟩
  · exact Or.inl (by rw [List.any_cons, gone, Bool.or_true])
  · exact Or.inr (Or.inl (even.cons neutral))
  · refine Or.inr (Or.inr ⟨⟨text, ?_⟩, by rw [List.any_cons, dropped, Bool.or_true]⟩)
    rw [deliveredOf, takenOf, List.filterMap_cons_none neutral.undelivered,
      List.filterMap_cons_none neutral.untaken]
    exact last

theorem settled_of_disconnects (gone : disconnects event = true) : Settled (event :: trace) :=
  Or.inl (by rw [List.any_cons, gone, Bool.true_or])

theorem isOpen_cons (notSubscribed : subscribes event = false)
    (notUnsubscribed : unsubscribes event = false) : isOpen (event :: trace) = isOpen trace := by
  unfold isOpen
  rw [List.any_cons, List.any_cons, notSubscribed, notUnsubscribed, Bool.false_or, Bool.false_or]

end Traces

/-- At the head of the loop. -/
structure AtHead (trace : List Event) : Prop where
  even : Even trace
  inside : isOpen trace = true
  fresh : request.accessToken.isSome = true → current trace = true

/-- Where the loop is left. -/
structure Leaving (trace : List Event) : Prop where
  settled : Settled trace
  inside : isOpen trace = true

variable {keys request}

theorem AtHead.cons {trace : List Event} {event : Event} (head : AtHead request trace)
    (neutral : Neutral event) (sameOpen : isOpen (event :: trace) = isOpen trace)
    (sameCurrent : current (event :: trace) = current trace) : AtHead request (event :: trace) where
  even := head.even.cons neutral
  inside := sameOpen.trans head.inside
  fresh isSome := sameCurrent.trans (head.fresh isSome)

theorem AtHead.leaving {trace : List Event} (head : AtHead request trace) : Leaving trace :=
  ⟨Or.inr (Or.inl head.even), head.inside⟩

/-- What a pass of the loop leaves behind. -/
def Passed (request : Request) (result : Except Failure Bool) (trace : List Event) : Prop :=
  match result with
  | .ok true => AtHead request trace
  | _ => Leaving trace

theorem execute_meets {call : Call} {α : Type} {result : Reply call → Except Failure α}
    {post : Except Failure α → List Event → Prop} {trace : List Event}
    (allows : allowed keys request trace call)
    (returns : ∀ reply, post (result reply) (⟨call, reply⟩ :: trace)) :
    (execute call result).Meets (discipline keys request) post trace := by
  rw [execute, Program.meets_attempt]
  exact ⟨allows, fun reply _ => returns reply⟩

theorem perform_meets {call : Call} {post : Except Failure (Reply call) → List Event → Prop}
    {trace : List Event} (allows : allowed keys request trace call)
    (returns : ∀ reply, post (.ok reply) (⟨call, reply⟩ :: trace)) :
    (perform call).Meets (discipline keys request) post trace := by
  rw [perform, Program.meets_perform]
  exact ⟨allows, fun reply _ => returns reply⟩

theorem yield_meets {chunk : Chunk} {post : Except Failure Unit → List Event → Prop}
    {trace : List Event} (inside : isOpen trace = true)
    (fresh : request.accessToken.isSome = true → current trace = true)
    (sent : post (.ok ()) (⟨.yield chunk, .ok ()⟩ :: trace))
    (gone : post (.error .cancelled) (⟨.yield chunk, .error .cancelled⟩ :: trace)) :
    (yield chunk).Meets (discipline keys request) post trace := by
  rw [yield, execute, Program.meets_attempt]
  refine ⟨⟨inside, fresh⟩, fun reply possible => ?_⟩
  match reply with
  | .ok () => exact sent
  | .error .cancelled => exact gone
  | .error .other => exact absurd rfl possible

/-- A message that has just been taken is yielded. -/
theorem yieldData_meets {text : String} {event : Event} {trace : List Event} (even : Even trace)
    (isTaken : taken event = some text) (undropped : drops event = false)
    (undelivered : delivered event = none) (inside : isOpen (event :: trace) = true)
    (fresh : request.accessToken.isSome = true → current (event :: trace) = true) :
    (do
      yield (.data text)
      return true : Service Bool).Meets (discipline keys request) (Passed request)
        (event :: trace) := by
  have inside' (reply : Except Failure Unit) :
      isOpen (⟨.yield (.data text), reply⟩ :: event :: trace) = true :=
    (isOpen_cons rfl rfl).trans inside
  rw [Program.meets_bind]
  refine yield_meets inside fresh ?_ ⟨settled_of_disconnects rfl, inside' _⟩
  refine ⟨⟨?_, ?_⟩, inside' _, fresh⟩
  · rw [deliveredOf, List.filterMap_cons_some (show delivered ⟨.yield (.data text), .ok ()⟩ =
        some text from rfl), List.filterMap_cons_none undelivered, takenOf,
      List.filterMap_cons_none (show taken ⟨.yield (.data text), .ok ()⟩ = none from rfl),
      List.filterMap_cons_some isTaken]
    exact congrArg (text :: ·) even.balanced
  · rw [List.any_cons, List.any_cons, undropped, even.undropped]
    rfl

theorem stillAccepted_meets {post : Except Failure Bool → List Event → Prop} {trace : List Event}
    (inside : isOpen trace = true)
    (verified : ∀ accepted token, request.accessToken = some token →
      post (.ok accepted) (⟨.verifyToken token, .ok accepted⟩ :: trace))
    (failed : ∀ failure token, post (.error failure) (⟨.verifyToken token, .error failure⟩ :: trace))
    (unverified : request.accessToken = none → post (.ok true) trace) :
    (stillAccepted request).Meets (discipline keys request) post trace := by
  unfold stillAccepted
  cases isToken : request.accessToken with
  | none => exact unverified isToken
  | some token =>
    refine execute_meets ⟨inside, isToken⟩ fun reply => ?_
    match reply with
    | .ok accepted => exact verified accepted token isToken
    | .error failure => exact failed failure token

theorem heartbeat_meets {trace : List Event} (even : Even trace) (inside : isOpen trace = true)
    (fresh : request.accessToken.isSome = true → current trace = true) :
    (do
      yield .heartbeat
      return true : Service Bool).Meets (discipline keys request) (Passed request) trace := by
  have inside' (reply : Except Failure Unit) : isOpen (⟨.yield .heartbeat, reply⟩ :: trace) = true :=
    (isOpen_cons rfl rfl).trans inside
  rw [Program.meets_bind]
  refine yield_meets inside fresh ?_ ⟨settled_of_disconnects rfl, inside' _⟩
  exact ⟨even.cons ⟨rfl, rfl, rfl⟩, inside' _, fresh⟩

theorem afterWait_meets {waited : Waited} {trace : List Event} (even : Even trace)
    (inside : isOpen trace = true) :
    (afterWait request waited).Meets (discipline keys request) (Passed request)
      (⟨.wait, .ok waited⟩ :: trace) := by
  have inside' : isOpen (⟨.wait, .ok waited⟩ :: trace) = true := (isOpen_cons rfl rfl).trans inside
  match waited with
  | .shutdown => exact ⟨Or.inr (Or.inl (even.cons ⟨rfl, rfl, rfl⟩)), inside'⟩
  | .both none => exact ⟨Or.inr (Or.inl (even.cons ⟨rfl, rfl, rfl⟩)), inside'⟩
  | .both (some text) =>
    refine ⟨Or.inr (Or.inr ⟨⟨text, ?_⟩, rfl⟩), inside'⟩
    rw [takenOf, List.filterMap_cons_some (show taken ⟨.wait, .ok (.both (some text))⟩ = some text
      from rfl), deliveredOf, List.filterMap_cons_none (show delivered
        ⟨.wait, .ok (.both (some text))⟩ = none from rfl)]
    exact congrArg (text :: ·) even.balanced.symm
  | .message (some text) => exact yieldData_meets even rfl rfl rfl inside' fun _ => rfl
  | .message none =>
    have even' : Even (⟨.wait, .ok (.message none)⟩ :: trace) := even.cons ⟨rfl, rfl, rfl⟩
    have verified (reply : Except Failure Bool) (token : String) :
        Even (⟨.verifyToken token, reply⟩ :: ⟨.wait, .ok (.message none)⟩ :: trace) ∧
          isOpen (⟨.verifyToken token, reply⟩ :: ⟨.wait, .ok (.message none)⟩ :: trace) = true :=
      ⟨even'.cons ⟨by cases reply <;> rfl, rfl, rfl⟩, (isOpen_cons rfl rfl).trans inside'⟩
    unfold afterWait
    rw [Program.meets_bind]
    refine stillAccepted_meets inside' (fun accepted token isToken => ?_)
      (fun failure token => ?_) fun isToken => ?_
    · cases accepted with
      | true => exact heartbeat_meets (verified _ token).1 (verified _ token).2 fun _ => rfl
      | false => exact ⟨Or.inr (Or.inl (verified _ token).1), (verified _ token).2⟩
    · exact ⟨Or.inr (Or.inl (verified _ token).1), (verified _ token).2⟩
    · exact heartbeat_meets even' inside' fun isSome => by rw [isToken] at isSome; cases isSome

theorem waitForMessage_meets (deadline : Nat) {trace : List Event} (head : AtHead request trace) :
    (waitForMessage request deadline).Meets (discipline keys request) (Passed request) trace := by
  unfold waitForMessage
  rw [Program.meets_bind]
  refine perform_meets trivial fun isSet => ?_
  have head₁ : AtHead request (⟨.shutdownIsSet, isSet⟩ :: trace) :=
    head.cons ⟨rfl, rfl, rfl⟩ (isOpen_cons rfl rfl) rfl
  cases isSet with
  | true => exact head₁.leaving
  | false =>
    simp only [Bool.false_eq_true, if_false]
    rw [Program.meets_bind]
    refine perform_meets trivial fun now => ?_
    have head₂ : AtHead request (⟨.time, now⟩ :: ⟨.shutdownIsSet, false⟩ :: trace) :=
      head₁.cons ⟨rfl, rfl, rfl⟩ (isOpen_cons rfl rfl) rfl
    simp only
    split
    · exact head₂.leaving
    · rw [Program.meets_bind]
      refine perform_meets ⟨head₂.inside, head₂.fresh, Nat.min_le_left _ _⟩ fun started => ?_
      have even : Even (⟨.startTasks (min heartbeatMillis (deadline - now)), started⟩ ::
          ⟨.time, now⟩ :: ⟨.shutdownIsSet, false⟩ :: trace) := head₂.even.cons ⟨rfl, rfl, rfl⟩
      have inside : isOpen (⟨.startTasks (min heartbeatMillis (deadline - now)), started⟩ ::
          ⟨.time, now⟩ :: ⟨.shutdownIsSet, false⟩ :: trace) = true :=
        (isOpen_cons rfl rfl).trans head₂.inside
      simp only
      rw [Program.meets_bind]
      refine execute_meets ⟨inside, rfl⟩ fun reply => ?_
      match reply with
      | .ok waited => exact afterWait_meets even inside
      | .error failure =>
        exact ⟨Or.inr (Or.inl (even.cons ⟨rfl, rfl, rfl⟩)), (isOpen_cons rfl rfl).trans inside⟩

theorem drainOrWait_meets (deadline : Nat) {trace : List Event} (head : AtHead request trace) :
    (drainOrWait request deadline).Meets (discipline keys request) (Passed request) trace := by
  unfold drainOrWait
  rw [Program.meets_bind]
  refine execute_meets head.inside fun reply => ?_
  match reply with
  | .ok (some text) =>
    exact yieldData_meets head.even rfl rfl rfl ((isOpen_cons rfl rfl).trans head.inside) head.fresh
  | .ok none =>
    exact waitForMessage_meets deadline (head.cons ⟨rfl, rfl, rfl⟩ (isOpen_cons rfl rfl) rfl)
  | .error failure => exact (head.cons ⟨rfl, rfl, rfl⟩ (isOpen_cons rfl rfl) rfl).leaving

theorem renewLease_meets (leaseToken : String) (lastRenewed : Nat) {trace : List Event}
    {post : Except Failure Nat → List Event → Prop} (head : AtHead request trace)
    (renewed : ∀ now later, AtHead request later → post (.ok now) later)
    (failed : ∀ failure later, Leaving later → post (.error failure) later) :
    (renewLease request leaseToken lastRenewed).Meets (discipline keys request) post trace := by
  unfold renewLease
  rw [Program.meets_bind]
  refine perform_meets trivial fun now => ?_
  have head₁ : AtHead request (⟨.time, now⟩ :: trace) :=
    head.cons ⟨rfl, rfl, rfl⟩ (isOpen_cons rfl rfl) rfl
  simp only
  split
  · rw [Program.meets_bind]
    refine execute_meets trivial fun reply => ?_
    have head₂ : AtHead request (⟨.refreshLease request.email request.clientIp leaseToken, reply⟩ ::
        ⟨.time, now⟩ :: trace) := head₁.cons ⟨rfl, rfl, rfl⟩ (isOpen_cons rfl rfl) rfl
    match reply with
    | .ok () =>
      refine perform_meets trivial fun now' => ?_
      exact renewed now' _ (head₂.cons ⟨rfl, rfl, rfl⟩ (isOpen_cons rfl rfl) rfl)
    | .error failure => exact failed failure _ head₂.leaving
  · exact renewed _ _ head₁

theorem streamLoop_meets (leaseToken : String) (deadline passes lastRenewed : Nat)
    {trace : List Event} (head : AtHead request trace) :
    (streamLoop request leaseToken deadline passes lastRenewed).Meets (discipline keys request)
      (fun _ later => Leaving later) trace := by
  induction passes generalizing lastRenewed trace with
  | zero => exact head.leaving
  | succ passes ih =>
    rw [streamLoop, Program.meets_bind]
    refine renewLease_meets leaseToken lastRenewed head (fun now later head₁ => ?_)
      fun failure later leaving => leaving
    simp only
    rw [Program.meets_bind]
    refine (drainOrWait_meets deadline head₁).mono fun result last _ passed => ?_
    match result with
    | .ok true => exact ih now passed
    | .ok false => exact passed
    | .error failure => exact passed

/-! ## Whole streams -/

/-- A stream that has not subscribed yet. -/
structure Begun (trace : List Event) : Prop where
  even : Even trace
  untaken : takenOf trace = []
  fresh : current trace = true
  unsubscribed : trace.any subscribes = false
  unleft : trace.any unsubscribes = false

theorem Begun.cons {trace : List Event} {event : Event} (begun : Begun trace)
    (neutral : Neutral event) (notSubscribed : subscribes event = false)
    (notUnsubscribed : unsubscribes event = false)
    (sameCurrent : current (event :: trace) = current trace) : Begun (event :: trace) where
  even := begun.even.cons neutral
  untaken := by
    rw [takenOf, List.filterMap_cons_none neutral.untaken]
    exact begun.untaken
  fresh := sameCurrent.trans begun.fresh
  unsubscribed := by rw [List.any_cons, notSubscribed, begun.unsubscribed]; rfl
  unleft := by rw [List.any_cons, notUnsubscribed, begun.unleft]; rfl

theorem Begun.settled {trace : List Event} (begun : Begun trace) : Settled trace :=
  Or.inr (Or.inl begun.even)

theorem Begun.ended {trace : List Event} (begun : Begun trace) (result : Except Failure Ending) :
    Ended result trace :=
  ⟨begun.settled, by rw [isOpen, begun.unsubscribed, Bool.false_and]⟩

theorem isOpen_of_unsubscribes {trace : List Event} (left : trace.any unsubscribes = true) :
    isOpen trace = false := by
  rw [isOpen, left]
  exact Bool.and_false _

theorem cleanUp_meets (leaseToken : String) {trace : List Event} (settled : Settled trace) :
    (cleanUp keys request leaseToken).Meets (discipline keys request)
      (fun _ later => Settled later ∧ isOpen later = false) trace := by
  unfold cleanUp
  rw [Program.meets_bind]
  refine execute_meets trivial fun unsubscribed => ?_
  have settled₁ : Settled (⟨.unsubscribe (channel keys request), unsubscribed⟩ :: trace) :=
    settled.cons ⟨rfl, rfl, rfl⟩
  have left : isOpen (⟨.unsubscribe (channel keys request), unsubscribed⟩ :: trace) = false :=
    isOpen_of_unsubscribes rfl
  cases unsubscribed with
  | error failure => exact ⟨settled₁, left⟩
  | ok _ =>
    simp only [id]
    rw [Program.meets_bind]
    refine execute_meets trivial fun closed => ?_
    cases closed with
    | error failure => exact ⟨settled₁.cons ⟨rfl, rfl, rfl⟩, (isOpen_cons rfl rfl).trans left⟩
    | ok _ =>
      refine execute_meets trivial fun released => ?_
      exact ⟨(settled₁.cons ⟨rfl, rfl, rfl⟩).cons ⟨rfl, rfl, rfl⟩,
        (isOpen_cons rfl rfl).trans ((isOpen_cons rfl rfl).trans left)⟩

theorem leasedStream_meets (leaseToken : String) {trace : List Event} (begun : Begun trace) :
    (leasedStream keys request leaseToken).Meets (discipline keys request) Ended trace := by
  unfold leasedStream
  rw [Program.meets_bind]
  refine perform_meets trivial fun now => ?_
  simp only
  rw [Program.meets_bind]
  refine perform_meets trivial fun lastRenewed => ?_
  have begun₂ : Begun (⟨.time, lastRenewed⟩ :: ⟨.time, now⟩ :: trace) :=
    (begun.cons ⟨rfl, rfl, rfl⟩ rfl rfl rfl).cons ⟨rfl, rfl, rfl⟩ rfl rfl rfl
  simp only
  rw [Program.meets_finally, Program.meets_tryCatch, Program.meets_bind]
  refine execute_meets ⟨rfl, begun₂.unleft, begun₂.untaken, begun₂.fresh⟩ fun subscribed => ?_
  match subscribed with
  | .error failure =>
    have settled : Settled (⟨.subscribe (channel keys request), .error failure⟩ ::
        ⟨.time, lastRenewed⟩ :: ⟨.time, now⟩ :: trace) := begun₂.settled.cons ⟨rfl, rfl, rfl⟩
    cases failure with
    | cancelled => exact cleanUp_meets leaseToken settled
    | other => exact cleanUp_meets leaseToken settled
  | .ok () =>
    have head : AtHead request (⟨.subscribe (channel keys request), .ok ()⟩ ::
        ⟨.time, lastRenewed⟩ :: ⟨.time, now⟩ :: trace) :=
      { even := begun₂.even.cons ⟨rfl, rfl, rfl⟩
        inside := by
          rw [isOpen, Bool.and_eq_true, Bool.not_eq_true']
          exact ⟨rfl, begun₂.unleft⟩
        fresh := fun _ => begun₂.fresh }
    refine (streamLoop_meets leaseToken _ request.passes lastRenewed head).mono ?_
    intro result later _ leaving
    match result with
    | .ok ending => exact cleanUp_meets leaseToken leaving.settled
    | .error .cancelled => exact cleanUp_meets leaseToken leaving.settled
    | .error .other => exact cleanUp_meets leaseToken leaving.settled

theorem sessionEventStream_meets :
    (sessionEventStream keys request).Meets (discipline keys request) Ended [] := by
  have begun : Begun [] := ⟨⟨rfl, rfl⟩, rfl, rfl, rfl, rfl⟩
  unfold sessionEventStream
  cases request.leaseToken with
  | some leaseToken => exact leasedStream_meets leaseToken begun
  | none =>
    simp only
    rw [Program.meets_bind]
    refine execute_meets trivial fun acquired => ?_
    have begun₁ : Begun [⟨.acquireLease request.email request.clientIp request.ownToken, acquired⟩] :=
      begun.cons ⟨rfl, rfl, rfl⟩ rfl rfl rfl
    match acquired with
    | .error failure => exact begun₁.ended _
    | .ok true => exact leasedStream_meets request.ownToken begun₁
    | .ok false =>
      simp only [id, Bool.false_eq_true, if_false]
      rw [Program.meets_bind]
      refine execute_meets trivial fun captured => ?_
      have begun₂ := begun₁.cons (⟨rfl, rfl, rfl⟩ : Neutral ⟨.captureSecurityAlert, captured⟩)
        rfl rfl rfl
      cases captured with
      | error failure => exact begun₂.ended _
      | ok _ => exact begun₂.ended _

theorem server_obeys (keys : KeyTables) :
    (server keys).Obeys (discipline keys) fun _ => Ended where
  programs request := sessionEventStream_meets
  answers request thread call state outcome possible := by
    cases call with
    | yield chunk => exact (outcomes_effect possible).2
    | _ => trivial

end MysticAuth.EventStream
