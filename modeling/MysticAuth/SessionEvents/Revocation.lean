import MysticAuth.SessionEvents.Delivery

/-!
# Streams whose token has been revoked

A stream verifies its token when a wait times out, and a message starts the
next wait anew.  While messages arrive within a heartbeat of one another the
token is not looked at.  What follows is about streams that lose no time: the
clock advances only while a stream waits and nothing has come.
-/

set_option autoImplicit false

namespace MysticAuth.EventStream

open Interleaving

/-! ## Arrivals -/

/-- After the time, nothing has arrived for more than a heartbeat before one of the arrivals. -/
def hasPause (stop : Nat) : List Nat → Bool
  | [] => false
  | arrival :: earlier =>
      decide (max stop (earlier.headD 0) + heartbeatMillis < arrival) || hasPause stop earlier

/-- Whatever arrives more than two heartbeats after the time comes after such a pause. -/
def pausesInTime (stop : Nat) : List Nat → Bool
  | [] => true
  | arrival :: earlier =>
      (decide (arrival ≤ stop + 2 * heartbeatMillis) || hasPause stop (arrival :: earlier)) &&
        pausesInTime stop earlier

/-- The last arrival, or the time if it is later. -/
def latest (stop : Nat) (arrivals : List Nat) : Nat :=
  max stop (arrivals.headD 0)

section Arrivals

variable {stop now : Nat} {arrivals : List Nat}

theorem hasPause_cons (late : now ≤ latest stop arrivals + heartbeatMillis)
    (unpaused : hasPause stop arrivals = false) : hasPause stop (now :: arrivals) = false := by
  rw [hasPause, unpaused, Bool.or_false, decide_eq_false_iff_not]
  unfold latest at late
  omega

theorem hasPause_of_le (within : ∀ arrival ∈ arrivals, arrival ≤ stop) :
    hasPause stop arrivals = false := by
  induction arrivals with
  | nil => rfl
  | cons arrival earlier ih =>
    have first := within arrival List.mem_cons_self
    rw [hasPause, ih fun other member => within other (List.mem_cons_of_mem _ member),
      Bool.or_false, decide_eq_false_iff_not]
    omega

/-- Without a pause, nothing has arrived more than two heartbeats after the time. -/
theorem latest_le_of_unpaused (inTime : pausesInTime stop arrivals = true)
    (unpaused : hasPause stop arrivals = false) :
    latest stop arrivals ≤ stop + 2 * heartbeatMillis := by
  unfold latest
  cases arrivals with
  | nil =>
    simp only [List.headD_nil]
    omega
  | cons arrival earlier =>
    rw [pausesInTime, unpaused, Bool.or_false, Bool.and_eq_true, decide_eq_true_eq] at inTime
    have first := inTime.1
    simp only [List.headD_cons]
    omega

theorem pausesInTime_of_cons {arrival : Nat} (inTime : pausesInTime stop (arrival :: arrivals) = true) :
    pausesInTime stop arrivals = true := by
  rw [pausesInTime, Bool.and_eq_true] at inTime
  exact inTime.2

end Arrivals

/-! ## Prompt streams -/

/-- The stream of the thread has not begun or has ended, or it waits, nothing has come, and its wait
lasts until the time. -/
def Idle (config : Server) (index time : Nat) : Prop :=
  ∀ request call next, config.threads[index]? = some ⟨request, .call call next⟩ →
    call = .wait ∧ (config.state.streams index).next = none ∧
      time ≤ (config.state.streams index).timer

/-- A step at which time passes only if the stream is idle, and at which the stream begins only with
a token that is accepted. -/
structure PromptStep (keys : KeyTables) (index : Nat) (before after : Server) : Prop where
  step : Step (server keys) anyCall before after
  prompt : after.state.now = before.state.now ∨ Idle before index after.state.now
  opens : before.threads[index]? = none → ∀ thread, after.threads[index]? = some thread →
    ∀ token, thread.request.accessToken = some token → before.state.stopsAt token = none

abbrev PromptRun (keys : KeyTables) (index : Nat) : Server → Server → Prop :=
  Relation.ReflTransGen (PromptStep keys index)

/-! ## Before and after the token stops being accepted -/

section Bounds

variable (now : Nat) (stream : Stream) (trace : List Event)

/-- While the token is accepted. -/
structure Accepted : Prop where
  received : ∀ entry ∈ stream.received, entry.1 ≤ now
  timer : isStarted trace = true → stream.timer ≤ now + heartbeatMillis

/-- Of a stream that goes on although its token is no longer accepted. -/
structure Overdue (arrivals : List Nat) (stop : Nat) : Prop where
  soon : now ≤ latest stop arrivals + heartbeatMillis
  current : current trace = true → now ≤ latest stop arrivals
  timer : isStarted trace = true → stream.timer ≤ latest stop arrivals + heartbeatMillis
  unpaused : hasPause stop arrivals = false
  pending : ∀ text, Message.data text ∈ stream.log.drop stream.cursor →
    now ≤ latest stop arrivals

end Bounds

/-- What holds of a stream of the token that listens on the channel, running or ended. -/
structure InTime (store : Store) (stream : Stream) (name token : String) (trace : List Event)
    (running : Prop) : Prop where
  channel : ∀ other, stream.channel = some other → other = name
  accepted : store.stopsAt token = none → Accepted store.now stream trace
  stopped : ∀ stop, store.stopsAt token = some stop →
    pausesInTime stop (store.published name) = true →
      ∀ entry ∈ stream.received, entry.1 ≤ stop + 2 * heartbeatMillis
  overdue : ∀ stop, store.stopsAt token = some stop → running →
    trace.any unsubscribes = false → Overdue store.now stream trace (store.published name) stop

section Steps

variable {keys : KeyTables} {request : Request} {store : Store} {stream : Stream}
variable {now stop : Nat} {arrivals : List Nat} {name token : String} {trace : List Event}
variable {event : Event} {running : Prop}

theorem current_of_isStarted (started : isStarted trace = true) : current trace = false := by
  match trace with
  | ⟨.startTasks _, _⟩ :: _ => rfl

theorem unleft_of_isOpen (inside : isOpen trace = true) : trace.any unsubscribes = false := by
  rw [isOpen, Bool.and_eq_true, Bool.not_eq_true'] at inside
  exact inside.2

theorem takeNext_fields (stream : Stream) :
    stream.takeNext.channel = stream.channel ∧ stream.takeNext.received = stream.received ∧
      ∀ message ∈ stream.takeNext.log.drop stream.takeNext.cursor,
        message ∈ stream.log.drop stream.cursor := by
  unfold Stream.takeNext
  split
  · refine ⟨rfl, rfl, fun message member => ?_⟩
    rw [← List.drop_drop] at member
    exact List.mem_of_mem_drop member
  · exact ⟨rfl, rfl, fun _ member => member⟩

/-- What an answer can add to a stream: its channel, what its client gets, and the end of its wait.
Messages are only taken. -/
theorem answered_fields (stream : Stream) (now : Nat) (event : Event) :
    ((stream.answered now event).channel = stream.channel ∨
        ∀ other, (stream.answered now event).channel = some other → event.1 = .subscribe other) ∧
      (∀ entry ∈ (stream.answered now event).received,
        entry ∈ stream.received ∨ entry.1 = now ∧ ∃ chunk, event.1 = .yield chunk) ∧
      ∀ message ∈ (stream.answered now event).log.drop (stream.answered now event).cursor,
        message ∈ stream.log.drop stream.cursor := by
  have taken := takeNext_fields stream
  have takes (after : Stream) (isNext : after = stream.takeNext) :
      (after.channel = stream.channel ∨
        ∀ other, after.channel = some other → event.1 = .subscribe other) ∧
      (∀ entry ∈ after.received,
        entry ∈ stream.received ∨ entry.1 = now ∧ ∃ chunk, event.1 = .yield chunk) ∧
      ∀ message ∈ after.log.drop after.cursor, message ∈ stream.log.drop stream.cursor := by
    rw [isNext]
    refine ⟨Or.inl taken.1, fun entry member => Or.inl ?_, taken.2.2⟩
    rw [← taken.2.1]
    exact member
  unfold Stream.answered
  split
  · exact ⟨Or.inr fun other same => (by rw [← Option.some.inj same]), fun _ old => Or.inl old,
      fun _ member => member⟩
  · exact ⟨Or.inr fun other same => (by cases same), fun _ old => Or.inl old,
      fun _ member => member⟩
  · exact ⟨Or.inl rfl, fun _ old => Or.inl old, fun _ member => member⟩
  · rename_i chunk
    refine ⟨Or.inl rfl, fun entry member => ?_, fun _ member => member⟩
    rcases List.mem_cons.mp member with same | old
    · exact Or.inr ⟨congrArg Prod.fst same, chunk, rfl⟩
    · exact Or.inl old
  · exact takes _ rfl
  · exact takes _ rfl
  · exact takes _ rfl
  · exact ⟨Or.inl rfl, fun _ old => Or.inl old, fun _ member => member⟩

/-- The timer is set by the start of the tasks only. -/
theorem timer_answered (stream : Stream) (now : Nat) (started : isStarted (event :: trace) = true) :
    ∃ timeout, event.1 = .startTasks timeout ∧ (stream.answered now event).timer = now + timeout := by
  match event with
  | ⟨.startTasks timeout, ()⟩ => exact ⟨timeout, rfl, rfl⟩

/-- A stream gets current by a message that it takes, or by a token that is accepted. -/
theorem current_cons (isCurrent : current (event :: trace) = true)
    (possible : store.Possible stream event) :
    current trace = true ∨ (∃ text, Message.data text ∈ stream.log.drop stream.cursor) ∨
      ∃ token, event.1 = .verifyToken token ∧ store.stopsAt token = none := by
  match event with
  | ⟨.wait, .ok (.message (some text))⟩ =>
    obtain ⟨isText, -⟩ := possible
    obtain ⟨message, isNext, isData⟩ := Option.bind_eq_some_iff.mp isText.symm
    cases message with
    | confirmation => cases isData
    | data text' =>
      refine Or.inr (Or.inl ⟨text', ?_⟩)
      rw [List.mem_iff_getElem?]
      refine ⟨0, ?_⟩
      rw [List.getElem?_drop]
      exact isNext
  | ⟨.verifyToken token, .ok true⟩ =>
    exact Or.inr (Or.inr ⟨token, rfl, Option.isNone_iff_eq_none.mp possible.symm⟩)
  | ⟨.verifyToken token, .ok false⟩ | ⟨.verifyToken token, .error failure⟩ => exact Or.inl isCurrent
  | ⟨.getMessage, _⟩ | ⟨.subscribe _, _⟩ | ⟨.unsubscribe _, _⟩ | ⟨.yield _, _⟩
  | ⟨.acquireLease _ _ _, _⟩ | ⟨.captureSecurityAlert, _⟩ | ⟨.time, _⟩
  | ⟨.refreshLease _ _ _, _⟩ | ⟨.shutdownIsSet, _⟩
  | ⟨.aclose, _⟩ | ⟨.releaseLease _ _ _, _⟩ => exact Or.inl isCurrent

/-- An answer to a stream keeps its bounds. -/
theorem InTime.answered {runs : Prop}
    (inTime : InTime store stream (EventStream.channel keys request) token trace runs)
    (isRunning : runs) (isToken : request.accessToken = some token)
    (isAllowed : allowed keys request trace event.1) (possible : store.Possible stream event) :
    InTime store (stream.answered store.now event) (EventStream.channel keys request) token
      (event :: trace) running := by
  obtain ⟨channels, received, messages⟩ := answered_fields stream store.now event
  have isSome : request.accessToken.isSome = true := by rw [isToken]; rfl
  constructor
  · intro other listens
    rcases channels with same | subscribed
    · exact inTime.channel other (same ▸ listens)
    · rw [subscribed other listens] at isAllowed
      exact isAllowed.1
  · intro accepts
    have accepted := inTime.accepted accepts
    constructor
    · intro entry member
      rcases received entry member with old | ⟨now, -⟩
      · exact accepted.received entry old
      · exact now.le
    · intro started
      obtain ⟨timeout, starts, timer⟩ := timer_answered stream store.now started
      rw [starts] at isAllowed
      have atMost := isAllowed.2.2
      omega
  · intro stop stops paused entry member
    rcases received entry member with old | ⟨now, chunk, yields⟩
    · exact inTime.stopped stop stops paused entry old
    · rw [yields] at isAllowed
      have overdue := inTime.overdue stop stops isRunning (unleft_of_isOpen isAllowed.1)
      have bound := latest_le_of_unpaused paused overdue.unpaused
      have soon := overdue.current (isAllowed.2 isSome)
      omega
  · intro stop stops _ unleft
    rw [List.any_cons, Bool.or_eq_false_iff] at unleft
    have overdue := inTime.overdue stop stops isRunning unleft.2
    refine ⟨overdue.soon, fun isCurrent => ?_, fun started => ?_, overdue.unpaused,
      fun text member => overdue.pending text (messages _ member)⟩
    · rcases current_cons isCurrent possible with earlier | ⟨text, waiting⟩ | ⟨other, verifies, accepts⟩
      · exact overdue.current earlier
      · exact overdue.pending text waiting
      · rw [verifies] at isAllowed
        obtain rfl := Option.some.inj (isAllowed.2.symm.trans isToken)
        rw [accepts] at stops
        cases stops
    · obtain ⟨timeout, starts, timer⟩ := timer_answered stream store.now started
      rw [starts] at isAllowed
      have soon := overdue.current (isAllowed.2.1 isSome)
      have atMost := isAllowed.2.2
      omega

/-- What comes from outside may be one more message, and something of the stream's own is as before. -/
structure Grown (before after : Stream) (arrived : Prop) : Prop where
  channel : after.channel = before.channel
  received : after.received = before.received
  timer : after.timer = before.timer
  messages : ∀ text, Message.data text ∈ after.log.drop after.cursor →
    Message.data text ∈ before.log.drop before.cursor ∨ arrived

theorem Grown.refl (stream : Stream) (arrived : Prop) : Grown stream stream arrived :=
  ⟨rfl, rfl, rfl, fun _ member => Or.inl member⟩

theorem Grown.mono {before after : Stream} {arrived arrived' : Prop}
    (grown : Grown before after arrived) (weaker : arrived → arrived') :
    Grown before after arrived' :=
  ⟨grown.channel, grown.received, grown.timer,
    fun text member => (grown.messages text member).imp_right weaker⟩

theorem grown_push (stream : Stream) (message : Message) {arrived : Prop}
    (isArrived : ∀ text, message = .data text → arrived) :
    Grown stream (stream.push message) arrived := by
  refine ⟨rfl, rfl, rfl, fun text member => ?_⟩
  rw [Stream.push, List.drop_append] at member
  rcases List.mem_append.mp member with old | new
  · exact Or.inl old
  · exact Or.inr (isArrived text (List.mem_singleton.mp (List.mem_of_mem_drop new)).symm)

theorem grown_disturb (store : Store) (index : Nat) (event : Disturbance) :
    Grown (store.streams index) ((disturb event store).streams index)
      (∃ name text, event = .publish name text ∧ (store.streams index).channel = some name) := by
  cases event with
  | publish name text =>
    simp only [disturb]
    split
    · rename_i listens
      exact grown_push _ _ fun _ _ => ⟨name, text, rfl, listens⟩
    · exact Grown.refl _ _
  | confirm subscriber =>
    simp only [disturb]
    split
    · by_cases isIndex : subscriber = index
      · subst isIndex
        rw [Store.setStream_streams_self]
        exact grown_push _ _ fun _ isData => by cases isData
      · rw [Store.setStream_streams_ne _ _ isIndex]
        exact Grown.refl _ _
    · exact Grown.refl _ _
  | elapse _ | signalShutdown | stop _ => exact Grown.refl _ _

/-- Where neither the clock nor the arrivals nor the token have changed. -/
theorem InTime.grown {after : Store} {stream' : Stream}
    (inTime : InTime store stream name token trace running) (sameNow : after.now = store.now)
    (sameStop : after.stopsAt token = store.stopsAt token)
    (samePublished : after.published name = store.published name)
    (grown : Grown stream stream' False) : InTime after stream' name token trace running := by
  constructor
  · rw [grown.channel]
    exact inTime.channel
  · intro accepts
    have accepted := inTime.accepted (sameStop ▸ accepts)
    rw [sameNow]
    exact ⟨grown.received ▸ accepted.received, grown.timer ▸ accepted.timer⟩
  · rw [sameStop, samePublished, grown.received]
    exact inTime.stopped
  · intro stop stops isRunning unleft
    have overdue := inTime.overdue stop (sameStop ▸ stops) isRunning unleft
    rw [sameNow, samePublished]
    refine ⟨overdue.soon, overdue.current, grown.timer ▸ overdue.timer, overdue.unpaused,
      fun text member => ?_⟩
    rcases grown.messages text member with old | absurdity
    · exact overdue.pending text old
    · exact absurdity.elim

/-- The clock advances while the stream waits for its timer. -/
theorem InTime.elapse (millis : Nat) (inTime : InTime store stream name token trace running)
    (waits : running → isStarted trace = true ∧ stream.next = none ∧
      store.now + millis ≤ stream.timer) :
    InTime (disturb (.elapse millis) store) stream name token trace running := by
  refine ⟨inTime.channel, fun accepts => ?_, inTime.stopped, fun stop stops isRunning unleft => ?_⟩
  · have accepted := inTime.accepted accepts
    simp only [disturb]
    refine ⟨fun entry member => ?_, fun started => ?_⟩
    · exact (accepted.received entry member).trans (Nat.le_add_right _ _)
    · have timer := accepted.timer started
      omega
  · have overdue := inTime.overdue stop stops isRunning unleft
    obtain ⟨started, nothing, until'⟩ := waits isRunning
    simp only [disturb]
    refine ⟨until'.trans (overdue.timer started), fun isCurrent => ?_, overdue.timer,
      overdue.unpaused, fun text member => ?_⟩
    · rw [current_of_isStarted started] at isCurrent
      cases isCurrent
    · have empty : stream.log.drop stream.cursor = [] :=
        List.drop_eq_nil_of_le (List.getElem?_eq_none_iff.mp nothing)
      rw [empty] at member
      cases member

/-- What has arrived on the channel of the stream has arrived just now. -/
theorem InTime.publish {stream' : Stream} (text : String)
    (inTime : InTime store stream name token trace running)
    (within : ∀ arrival ∈ store.published name, arrival ≤ store.now)
    (grown : Grown stream stream' True) :
    InTime (disturb (.publish name text) store) stream' name token trace running := by
  have published : (disturb (.publish name text) store).published name =
      store.now :: store.published name := Function.update_self _ _ _
  constructor
  · rw [grown.channel]
    exact inTime.channel
  · intro accepts
    have accepted := inTime.accepted accepts
    exact ⟨grown.received ▸ accepted.received, grown.timer ▸ accepted.timer⟩
  · intro stop stops paused
    rw [published] at paused
    rw [grown.received]
    exact inTime.stopped stop stops (pausesInTime_of_cons paused)
  · intro stop stops isRunning unleft
    have overdue := inTime.overdue stop stops isRunning unleft
    have isLatest : store.now ≤ latest stop (store.now :: store.published name) :=
      le_max_right stop store.now
    have later : latest stop (store.published name) ≤
        latest stop (store.now :: store.published name) := by
      unfold latest
      cases isPublished : store.published name with
      | nil =>
        simp only [List.headD_nil, List.headD_cons]
        omega
      | cons arrival earlier =>
        have first := within arrival (by rw [isPublished]; exact List.mem_cons_self)
        simp only [List.headD_cons]
        omega
    rw [published]
    refine ⟨?_, fun _ => isLatest, fun started => ?_, hasPause_cons overdue.soon overdue.unpaused,
      fun _ _ => isLatest⟩
    · exact isLatest.trans (Nat.le_add_right _ _)
    · rw [grown.timer]
      exact (overdue.timer started).trans (Nat.add_le_add_right later _)

/-- A token stops being accepted just now, or has stopped before. -/
theorem InTime.revoke (other : String) (inTime : InTime store stream name token trace running)
    (within : ∀ arrival ∈ store.published name, arrival ≤ store.now) :
    InTime (disturb (.stop other) store) stream name token trace running := by
  by_cases isToken : other = token
  · subst isToken
    have stops : (disturb (.stop other) store).stopsAt other =
        some ((store.stopsAt other).getD store.now) := Function.update_self _ _ _
    cases isStop : store.stopsAt other with
    | some stop =>
      have same : (disturb (.stop other) store).stopsAt other = store.stopsAt other := by
        rw [stops, isStop]
        rfl
      exact inTime.grown rfl same rfl (Grown.refl _ _)
    | none =>
      rw [isStop] at stops
      have accepted := inTime.accepted isStop
      refine ⟨inTime.channel, fun accepts => ?_, fun stop stops' _ entry member => ?_,
        fun stop stops' isRunning unleft => ?_⟩
      · rw [stops] at accepts
        cases accepts
      · obtain rfl := Option.some.inj (stops.symm.trans stops')
        exact (accepted.received entry member).trans (Nat.le_add_right _ _)
      · obtain rfl := Option.some.inj (stops.symm.trans stops')
        have now : store.now ≤ latest store.now (store.published name) := le_max_left _ _
        refine ⟨now.trans (Nat.le_add_right _ _), fun _ => now, fun started => ?_,
          hasPause_of_le within, fun _ _ => now⟩
        exact (accepted.timer started).trans (Nat.add_le_add_right now _)
  · have same : (disturb (.stop other) store).stopsAt token = store.stopsAt token :=
      Function.update_of_ne (Ne.symm isToken) _ _
    exact inTime.grown rfl same rfl (Grown.refl _ _)

end Steps

/-! ## Runs -/

def Stream.new : Stream :=
  ⟨none, [], 0, 0, []⟩

/-- The bounds of the stream of one thread. -/
structure Timely (keys : KeyTables) (index : Nat) (config : Server) : Prop where
  arrivals : ∀ name, ∀ arrival ∈ config.state.published name, arrival ≤ config.state.now
  absent : config.threads[index]? = none → config.state.streams index = Stream.new
  present : ∀ thread, config.threads[index]? = some thread →
    ∀ token, thread.request.accessToken = some token →
      InTime config.state (config.state.streams index) (channel keys thread.request) token
        (config.trace index) (thread.result = none)

section Runs

variable {keys : KeyTables} {index : Nat} {before after : Server}

theorem arrivals_disturb {store : Store} (event : Disturbance)
    (within : ∀ name, ∀ arrival ∈ store.published name, arrival ≤ store.now) :
    ∀ name, ∀ arrival ∈ (disturb event store).published name,
      arrival ≤ (disturb event store).now := by
  cases event with
  | elapse millis => exact fun name arrival member => (within name arrival member).trans (Nat.le_add_right _ _)
  | publish channel text =>
    intro name arrival member
    simp only [disturb, Function.update_apply] at member ⊢
    split at member
    · rename_i isChannel
      rcases List.mem_cons.mp member with rfl | old
      · exact Nat.le_refl _
      · exact within channel arrival old
    · exact within name arrival member
  | confirm subscriber =>
    simp only [disturb]
    split <;> exact within
  | signalShutdown | stop _ => exact within

theorem new_disturb {store : Store} (event : Disturbance)
    (isNew : store.streams index = Stream.new) :
    (disturb event store).streams index = Stream.new := by
  cases event with
  | publish name text => simp [disturb, isNew, Stream.new]
  | confirm subscriber =>
    simp only [disturb]
    split
    · rename_i listens
      have differs : subscriber ≠ index := by
        rintro rfl
        rw [isNew] at listens
        cases listens
      rw [Store.setStream_streams_ne _ _ differs, isNew]
    · exact isNew
  | elapse _ | signalShutdown | stop _ => exact isNew

theorem Timely.begin (timely : Timely keys index before) (attributed : before.Attributed)
    (request : Request)
    (opens : before.threads[index]? = none → ∀ thread,
      (before.begin ⟨request, sessionEventStream keys request⟩).threads[index]? = some thread →
        ∀ token, thread.request.accessToken = some token → before.state.stopsAt token = none) :
    Timely keys index (before.begin ⟨request, sessionEventStream keys request⟩) := by
  refine ⟨timely.arrivals, fun none => ?_, fun thread present token isToken => ?_⟩
  · simp only [Config.begin, List.getElem?_eq_none_iff, List.length_append] at none
    exact timely.absent (List.getElem?_eq_none_iff.mpr (by omega))
  · simp only [Config.begin] at present
    rcases Nat.lt_or_ge index before.threads.length with old | new
    · rw [List.getElem?_append_left old] at present
      exact timely.present thread present token isToken
    · have none : before.threads[index]? = none := List.getElem?_eq_none_iff.mpr new
      have accepts := opens none thread present token isToken
      rw [List.getElem?_append_right new] at present
      obtain rfl := List.mem_singleton.mp (List.mem_of_getElem? present)
      have isNew := timely.absent none
      have isEmpty : (before.begin ⟨request, sessionEventStream keys request⟩).trace index = [] :=
        attributed.trace_eq_nil new
      rw [isEmpty]
      simp only [Config.begin]
      rw [isNew]
      refine ⟨fun other listens => (by cases listens), fun _ => ⟨fun entry member => (by cases member),
        fun started => (by cases started)⟩, fun stop stops => ?_, fun stop stops => ?_⟩
      all_goals
        rw [accepts] at stops
        cases stops

theorem Timely.disturb (timely : Timely keys index before)
    (disciplined : before.Disciplined (discipline keys) fun _ => Ended) (event : Disturbance)
    (prompt : (EventStream.disturb event before.state).now = before.state.now ∨
      Idle before index (EventStream.disturb event before.state).now) :
    Timely keys index { before with state := EventStream.disturb event before.state } := by
  refine ⟨arrivals_disturb event timely.arrivals,
    fun none => new_disturb event (timely.absent none), fun thread present token isToken => ?_⟩
  have inTime := timely.present thread present token isToken
  have grown := grown_disturb before.state index event
  cases event with
  | elapse millis =>
    rcases prompt with same | idle
    · exact inTime.grown same rfl rfl (Grown.refl _ _)
    · refine inTime.elapse millis fun isRunning => ?_
      obtain ⟨request, program⟩ := thread
      cases program with
      | done result => cases isRunning
      | call call next =>
        obtain ⟨rfl, nothing, bound⟩ := idle request call next present
        exact ⟨(disciplined.allows present).2, nothing, bound⟩
  | publish other text =>
    by_cases isName : other = channel keys thread.request
    · subst isName
      exact inTime.publish text (timely.arrivals _) (grown.mono fun _ => trivial)
    · refine inTime.grown rfl rfl (Function.update_of_ne (Ne.symm isName) _ _) (grown.mono ?_)
      rintro ⟨name, text', same, listens⟩
      obtain ⟨rfl, -⟩ := Disturbance.publish.inj same
      exact isName (inTime.channel _ listens)
  | confirm subscriber =>
    have quiet : Grown (before.state.streams index)
        ((EventStream.disturb (.confirm subscriber) before.state).streams index) False :=
      grown.mono fun ⟨_, _, isPublish, _⟩ => by cases isPublish
    simp only [EventStream.disturb] at quiet ⊢
    split at quiet <;> rename_i listens
    · rw [if_pos listens]
      exact inTime.grown rfl rfl rfl quiet
    · rw [if_neg listens]
      exact inTime
  | signalShutdown => exact inTime.grown rfl rfl rfl (Grown.refl _ _)
  | stop other => exact inTime.revoke other (timely.arrivals _)

theorem Timely.reply (timely : Timely keys index before)
    (disciplined : before.Disciplined (discipline keys) fun _ => Ended) {actor : Nat}
    {request : Request} {call : Call} {next : Reply call → Service Ending}
    {outcome : Reply call × Store}
    (running : before.threads[actor]? = some ⟨request, .call call next⟩)
    (possible : outcome ∈ outcomes actor call before.state) :
    Timely keys index (before.reply actor request next outcome) := by
  obtain ⟨reply, later⟩ := outcome
  obtain ⟨rfl, isPossible⟩ := outcomes_effect possible
  have bound := (List.getElem?_eq_some_iff.mp running).1
  refine ⟨timely.arrivals, fun none => ?_, fun thread present token isToken => ?_⟩
  · simp only [Config.reply, List.getElem?_eq_none_iff, List.length_set] at none
    have differs : actor ≠ index := by omega
    simp only [Config.reply]
    rw [Store.setStream_streams_ne _ _ differs]
    exact timely.absent (List.getElem?_eq_none_iff.mpr none)
  · by_cases isActor : actor = index
    · subst isActor
      simp only [Config.reply, List.getElem?_set_self bound, Option.some.injEq] at present
      subst present
      have inTime : InTime before.state ((before.state.streams actor).answered before.state.now
          ⟨call, reply⟩) (channel keys request) token (⟨call, reply⟩ :: before.trace actor)
          (Thread.result ⟨request, next reply⟩ = none) :=
        (timely.present _ running token isToken).answered rfl isToken (disciplined.allows running)
          isPossible
      rw [Config.trace_reply_self]
      simp only [Config.reply]
      rw [Store.setStream_streams_self]
      exact ⟨inTime.channel, inTime.accepted, inTime.stopped, inTime.overdue⟩
    · simp only [Config.reply, List.getElem?_set_ne isActor] at present
      have inTime := timely.present thread present token isToken
      rw [Config.trace_reply_ne before actor index isActor]
      simp only [Config.reply]
      rw [Store.setStream_streams_ne _ _ isActor]
      exact ⟨inTime.channel, inTime.accepted, inTime.stopped, inTime.overdue⟩

theorem Timely.step (timely : Timely keys index before) (step : PromptStep keys index before after)
    (attributed : before.Attributed)
    (disciplined : before.Disciplined (discipline keys) fun _ => Ended) :
    Timely keys index after := by
  obtain ⟨step, prompt, opens⟩ := step
  cases step with
  | begin request => exact timely.begin attributed request opens
  | disturb event => exact timely.disturb disciplined event prompt
  | reply actor request call next outcome running possible permitted =>
    exact timely.reply disciplined running possible

theorem PromptRun.reaches (run : PromptRun keys index before after) :
    Reaches (server keys) anyCall before after :=
  Relation.ReflTransGen.mono (fun _ _ step => step.step) _ _ run

theorem timely_along {start : Nat}
    (run : PromptRun keys index (Config.start (Store.empty start)) after) :
    Timely keys index after := by
  induction run with
  | refl =>
    refine ⟨fun name arrival member => ?_, fun _ => rfl, fun thread present => ?_⟩
    · cases member
    · simp [Config.start] at present
  | tail earlier step ih =>
    have reaches := PromptRun.reaches earlier
    exact ih.step step (reaches.attributed (Config.attributed_start _))
      (reaches.disciplined (server_obeys keys) _)

/-- When the token of a prompt stream has stopped being accepted, and what arrives on its channel
more than two heartbeats later comes after a pause of more than a heartbeat, the client gets nothing
more than two heartbeats later. -/
theorem received_within_heartbeats {start : Nat}
    (run : PromptRun keys index (Config.start (Store.empty start)) after)
    {thread : Thread Request Reply Failure Ending} (present : after.threads[index]? = some thread)
    {token : String} (isToken : thread.request.accessToken = some token) {stop : Nat}
    (stopped : after.state.stopsAt token = some stop)
    (paused : pausesInTime stop (after.state.published (channel keys thread.request)) = true) :
    ∀ entry ∈ (after.state.streams index).received, entry.1 ≤ stop + 2 * heartbeatMillis :=
  ((timely_along run).present thread present token isToken).stopped stop stopped paused

end Runs

/-! ## A quiet and a busy channel -/

def idleCheck (config : Server) (index time : Nat) : Bool :=
  match config.threads[index]? with
  | some ⟨_, .call .wait _⟩ =>
      (config.state.streams index).next.isNone && decide (time ≤ (config.state.streams index).timer)
  | some ⟨_, .call _ _⟩ => false
  | _ => true

theorem idle_of_check {config : Server} {index time : Nat}
    (passed : idleCheck config index time = true) : Idle config index time := by
  intro request call next present
  rw [idleCheck, present] at passed
  cases call with
  | wait =>
    simp only [Bool.and_eq_true, decide_eq_true_eq] at passed
    exact ⟨rfl, Option.isNone_iff_eq_none.mp passed.1, passed.2⟩
  | _ => cases passed

def promptCheck (index : Nat) (before after : Server) : Bool :=
  (after.state.now == before.state.now || idleCheck before index after.state.now) &&
    (before.threads[index]?.isSome || (after.threads[index]?.bind fun thread =>
      thread.request.accessToken).all fun token => (before.state.stopsAt token).isNone)

theorem promptStep_of_check (keys : KeyTables) (index : Nat) (before after : Server)
    (step : Step (server keys) anyCall before after)
    (passed : promptCheck index before after = true) : PromptStep keys index before after := by
  rw [promptCheck, Bool.and_eq_true, Bool.or_eq_true, Bool.or_eq_true] at passed
  obtain ⟨prompt, opens⟩ := passed
  refine ⟨step, prompt.imp (fun same => eq_of_beq same) idle_of_check, ?_⟩
  intro none thread present token isToken
  rcases opens with isSome | accepts
  · rw [none] at isSome
    cases isSome
  · rw [present] at accepts
    simp only [Option.bind_some, isToken, Option.all_some] at accepts
    exact Option.isNone_iff_eq_none.mp accepts

def longStream : Request :=
  { annsStream with passes := 6 }

/-- One event, the revocation, and a pause in which the token is verified. -/
def quietMoves : List (Move Request Disturbance) :=
  .begin longStream :: Move.turns 0 8 ++ [.disturb (.elapse 1000), toAnn "roles"] ++
    Move.turns 0 7 ++ [.disturb (.elapse 4000), .disturb (.stop "access"), .disturb (.elapse 16000)] ++
    Move.turns 0 5 ++ [.disturb (.elapse 39000), toAnn "roles"]

def quietStream : Server :=
  (Config.start (Store.empty 0)).follow (server plainTables) quietMoves

theorem received_within_heartbeats_quiet :
    quietStream.state.stopsAt "access" = some 5000 ∧
      quietStream.state.published (channel plainTables annsStream) = [60000, 1000] ∧
      ∀ entry ∈ (quietStream.state.streams 0).received, entry.1 ≤ 5000 + 2 * heartbeatMillis := by
  have run : PromptRun plainTables 0 (Config.start (Store.empty 0)) quietStream :=
    Config.follow_steps (server plainTables) (promptCheck 0) (promptStep_of_check plainTables 0) _
      quietMoves (by decide +kernel)
  obtain ⟨program, present⟩ := quietStream.present_of_request 0 longStream (by decide +kernel)
  have paused : pausesInTime 5000
      (quietStream.state.published (channel plainTables longStream)) = true := by decide +kernel
  refine ⟨by decide +kernel, by decide +kernel, ?_⟩
  exact received_within_heartbeats run present rfl (by decide +kernel) paused

/-- An event every ten seconds. -/
def busyMoves : List (Move Request Disturbance) :=
  .begin longStream :: Move.turns 0 8 ++
    [.disturb (.elapse 5000), .disturb (.stop "access"), .disturb (.elapse 5000), toAnn "roles"] ++
    Move.turns 0 7 ++ [.disturb (.elapse 10000), toAnn "roles"] ++
    Move.turns 0 9 ++ [.disturb (.elapse 10000), toAnn "roles"] ++
    Move.turns 0 7 ++ [.disturb (.elapse 10000), toAnn "roles"] ++
    Move.turns 0 9 ++ [.disturb (.elapse 10000), toAnn "roles"] ++ Move.turns 0 2

def busyStream : Server :=
  (Config.start (Store.empty 0)).follow (server plainTables) busyMoves

/-- The token has been revoked after five seconds, and the client gets an event after fifty. -/
theorem busy_channel_keeps_revoked_stream :
    PromptRun plainTables 0 (Config.start (Store.empty 0)) busyStream ∧
      (busyStream.threads[0]?).map Thread.request = some longStream ∧
      busyStream.state.stopsAt "access" = some 5000 ∧
      (50000, .data "roles") ∈ (busyStream.state.streams 0).received ∧
      ¬ ∀ entry ∈ (busyStream.state.streams 0).received, entry.1 ≤ 5000 + 2 * heartbeatMillis := by
  refine ⟨?_, by decide +kernel⟩
  exact Config.follow_steps (server plainTables) (promptCheck 0) (promptStep_of_check plainTables 0) _
    busyMoves (by decide +kernel)

end MysticAuth.EventStream
