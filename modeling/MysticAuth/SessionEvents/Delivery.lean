import MysticAuth.SessionEvents.StreamTraces

/-!
# Which messages reach the client

What a stream has taken from its subscription is the beginning of what it has
received.  When it ends, and its client is still there, the client has got all
of it unless a wait has returned a message together with the shutdown.
-/

set_option autoImplicit false

namespace MysticAuth.EventStream

open Interleaving

def Chunk.data? : Chunk → Option String
  | .data text => some text
  | .heartbeat => none

/-- The messages that have been taken, oldest first. -/
def Stream.consumed (stream : Stream) : List String :=
  (stream.log.take stream.cursor).filterMap Message.text

/-- The messages that the client has got, oldest first. -/
def Stream.data (stream : Stream) : List String :=
  (stream.received.filterMap fun entry => entry.2.data?).reverse

/-- A stream and the calls that it has made. -/
structure Mirrors (stream : Stream) (trace : List Event) : Prop where
  within : stream.cursor ≤ stream.log.length
  consumed : stream.consumed = (takenOf trace).reverse
  data : stream.data = (deliveredOf trace).reverse

section Streams

variable {stream : Stream} {trace : List Event} {event : Event} {store : Store} {now : Nat}

theorem takenOf_cons_reverse :
    (takenOf (event :: trace)).reverse = (takenOf trace).reverse ++ (taken event).toList := by
  unfold takenOf
  cases isTaken : taken event with
  | none => simp [List.filterMap_cons_none isTaken]
  | some text => simp [List.filterMap_cons_some isTaken]

theorem deliveredOf_cons_reverse :
    (deliveredOf (event :: trace)).reverse =
      (deliveredOf trace).reverse ++ (delivered event).toList := by
  unfold deliveredOf
  cases isDelivered : delivered event with
  | none => simp [List.filterMap_cons_none isDelivered]
  | some text => simp [List.filterMap_cons_some isDelivered]

theorem consumed_takeNext :
    stream.takeNext.consumed = stream.consumed ++ (stream.next.bind Message.text).toList := by
  unfold Stream.takeNext
  cases isNext : stream.next with
  | none => simp
  | some message =>
    have upToNext : stream.log.take (stream.cursor + 1) =
        stream.log.take stream.cursor ++ [message] := by
      rw [List.take_add_one, show stream.log[stream.cursor]? = some message from isNext]
      rfl
    simp only [Option.isSome_some, if_true, Stream.consumed, upToNext, List.filterMap_append]
    cases message <;> rfl

theorem within_takeNext (within : stream.cursor ≤ stream.log.length) :
    stream.takeNext.cursor ≤ stream.takeNext.log.length := by
  unfold Stream.takeNext
  split
  · rename_i isSome
    exact (List.getElem?_eq_some_iff.mp (Option.eq_some_of_isSome isSome)).1
  · exact within

theorem data_takeNext : stream.takeNext.data = stream.data := by
  unfold Stream.takeNext
  split <;> rfl

theorem Mirrors.takeNext (mirrors : Mirrors stream trace)
    (isTaken : taken event = stream.next.bind Message.text) (undelivered : delivered event = none) :
    Mirrors stream.takeNext (event :: trace) where
  within := within_takeNext mirrors.within
  consumed := by rw [consumed_takeNext, takenOf_cons_reverse, isTaken, mirrors.consumed]
  data := by
    rw [data_takeNext, deliveredOf_cons_reverse, undelivered, mirrors.data, Option.toList_none,
      List.append_nil]

theorem Mirrors.neutral (mirrors : Mirrors stream trace) (neutral : Neutral event) :
    Mirrors stream (event :: trace) where
  within := mirrors.within
  consumed := by
    rw [takenOf_cons_reverse, neutral.untaken, mirrors.consumed, Option.toList_none,
      List.append_nil]
  data := by
    rw [deliveredOf_cons_reverse, neutral.undelivered, mirrors.data, Option.toList_none,
      List.append_nil]

theorem Mirrors.yield {chunk : Chunk} (mirrors : Mirrors stream trace) :
    Mirrors { stream with received := (now, chunk) :: stream.received }
      (⟨.yield chunk, .ok ()⟩ :: trace) where
  within := mirrors.within
  consumed := by
    rw [takenOf_cons_reverse, ← mirrors.consumed]
    exact (List.append_nil _).symm
  data := by
    rw [deliveredOf_cons_reverse, ← mirrors.data]
    cases chunk with
    | data text => simp [Stream.data, Chunk.data?, delivered]
    | heartbeat => simp [Stream.data, Chunk.data?, delivered]

theorem Mirrors.idle (mirrors : Mirrors stream trace) (channel : Option String) (timer : Nat) :
    Mirrors { stream with channel := channel, timer := timer } trace :=
  ⟨mirrors.within, mirrors.consumed, mirrors.data⟩

/-- Every answer keeps a stream and its calls in step. -/
theorem Mirrors.answered (mirrors : Mirrors stream trace) (possible : store.Possible stream event) :
    Mirrors (stream.answered now event) (event :: trace) := by
  match event with
  | ⟨.getMessage, .ok text⟩ => exact mirrors.takeNext possible rfl
  | ⟨.wait, .ok (.message text)⟩ => exact mirrors.takeNext possible.1 rfl
  | ⟨.wait, .ok (.both text)⟩ => exact mirrors.takeNext possible.2.1 rfl
  | ⟨.yield chunk, .ok ()⟩ => exact mirrors.yield
  | ⟨.subscribe channel, .ok ()⟩ => exact (mirrors.idle (some channel) _).neutral ⟨rfl, rfl, rfl⟩
  | ⟨.unsubscribe channel, .ok ()⟩ => exact (mirrors.idle none _).neutral ⟨rfl, rfl, rfl⟩
  | ⟨.startTasks timeout, ()⟩ => exact (mirrors.idle _ (now + timeout)).neutral ⟨rfl, rfl, rfl⟩
  | ⟨.yield chunk, .error failure⟩ => exact mirrors.neutral ⟨rfl, by cases chunk <;> rfl, rfl⟩
  | ⟨.getMessage, .error failure⟩ | ⟨.wait, .error failure⟩ | ⟨.wait, .ok .shutdown⟩
  | ⟨.subscribe channel, .error failure⟩ | ⟨.unsubscribe channel, .error failure⟩
  | ⟨.acquireLease _ _ _, reply⟩ | ⟨.captureSecurityAlert, reply⟩ | ⟨.time, reply⟩
  | ⟨.refreshLease _ _ _, reply⟩ | ⟨.shutdownIsSet, reply⟩ | ⟨.verifyToken _, reply⟩
  | ⟨.aclose, reply⟩ | ⟨.releaseLease _ _ _, reply⟩ =>
    exact mirrors.neutral ⟨rfl, rfl, rfl⟩

/-- A message that arrives has not been taken yet. -/
theorem Mirrors.push (mirrors : Mirrors stream trace) (message : Message) :
    Mirrors (stream.push message) trace where
  within := by
    rw [Stream.push, List.length_append]
    exact mirrors.within.trans (Nat.le_add_right _ _)
  consumed := by
    rw [← mirrors.consumed, Stream.consumed, Stream.push, List.take_append_of_le_length mirrors.within]
    rfl
  data := mirrors.data

end Streams

/-! ## Runs -/

/-- Every stream is in step with the calls of its thread. -/
def AllMirror (store : Store) (history : List (Nat × Event)) : Prop :=
  ∀ thread, Mirrors (store.streams thread) (traceOf history thread)

theorem AllMirror.disturb {store : Store} {history : List (Nat × Event)}
    (mirror : AllMirror store history) (event : Disturbance) :
    AllMirror (disturb event store) history := by
  intro thread
  cases event with
  | publish channel text =>
    simp only [EventStream.disturb]
    split
    · exact (mirror thread).push _
    · exact mirror thread
  | confirm subscriber =>
    simp only [EventStream.disturb]
    split
    · by_cases isThread : subscriber = thread
      · subst isThread
        rw [Store.setStream_streams_self]
        exact (mirror subscriber).push _
      · rw [Store.setStream_streams_ne _ _ isThread]
        exact mirror thread
    · exact mirror thread
  | elapse _ | signalShutdown | stop _ => exact mirror thread

section Runs

variable {keys : KeyTables} {start : Nat} {config : Server}
variable {permits : Server → Nat → Event → Prop}

theorem mirrors_along
    (run : Reaches (server keys) permits (Config.start (Store.empty start)) config) :
    AllMirror config.state config.history := by
  refine run.keeps AllMirror (fun _ => ⟨Nat.le_refl _, rfl, rfl⟩)
    (fun event state history mirror => mirror.disturb event) ?_
  intro before after thread event _ answers mirror other
  obtain ⟨changed, possible⟩ := outcomes_effect answers.possible
  rw [changed]
  by_cases isThread : thread = other
  · subst isThread
    rw [Store.setStream_streams_self, traceOf_cons_self]
    exact (mirror thread).answered possible
  · rw [Store.setStream_streams_ne _ _ isThread, traceOf_cons_ne _ isThread]
    exact mirror other

/-- When a stream has ended and its client has not gone away, the client has got everything that
the stream has taken, once and in the order of arrival, exactly if no wait has returned a message
together with the shutdown. -/
theorem delivered_iff_undropped
    (run : Reaches (server keys) anyCall (Config.start (Store.empty start)) config)
    {index : Nat} {thread : Thread Request Reply Failure Ending} {result : Except Failure Ending}
    (present : config.threads[index]? = some thread) (finished : thread.result = some result)
    (connected : (config.trace index).any disconnects = false) :
    (config.state.streams index).data = (config.state.streams index).consumed ↔
      (config.trace index).any drops = false := by
  have mirrors : Mirrors (config.state.streams index) (config.trace index) := mirrors_along run index
  have ended := (run.disciplined (server_obeys keys) _).returned present finished
  rw [mirrors.data, mirrors.consumed, List.reverse_inj]
  rcases ended.1 with gone | even | ⟨⟨text, last⟩, dropped⟩
  · rw [connected] at gone
    cases gone
  · exact ⟨fun _ => even.undropped, fun _ => even.balanced⟩
  · rw [last, dropped]
    constructor
    · intro same
      exact absurd same.symm (List.cons_ne_self _ _)
    · intro undropped
      cases undropped

end Runs

/-! ## A message and the shutdown -/

/-- Every text is its own normal form and its own hash. -/
def plainTables : KeyTables :=
  ⟨id, id, id, id⟩

def annsStream : Request where
  email := "ann@example.org"
  clientIp := "203.0.113.7"
  leaseToken := some "lease"
  ownToken := "own"
  accessToken := some "access"
  passes := 3

def toAnn (text : String) : Move Request Disturbance :=
  .disturb (.publish (channel plainTables annsStream) text)

/-- One message is drained, one arrives during the wait, and then the process shuts down. -/
def servedStream : Server :=
  (Config.start (Store.empty 0)).follow (server plainTables)
    (.begin annsStream :: Move.turns 0 3 ++ toAnn "roles" :: Move.turns 0 8 ++ toAnn "signed-out" ::
      Move.turns 0 2 ++ .disturb .signalShutdown :: Move.turns 0 6)

theorem delivered_iff_undropped_served :
    (servedStream.state.streams 0).consumed = ["roles", "signed-out"] ∧
      (servedStream.state.streams 0).data = (servedStream.state.streams 0).consumed := by
  have run : Reaches (server plainTables) anyCall (Config.start (Store.empty 0)) servedStream :=
    Config.follow_reaches (server plainTables) _ _
  obtain ⟨program, present, finished⟩ := servedStream.finished_of_result 0 annsStream (.ok .ended)
    (by decide +kernel) (by decide +kernel)
  refine ⟨by decide +kernel, ?_⟩
  exact (delivered_iff_undropped run present finished (by decide +kernel)).mpr (by decide +kernel)

/-- The message arrives during the wait, and the wait returns when the process shuts down as well. -/
def droppedStream : Server :=
  (Config.start (Store.empty 0)).follow (server plainTables)
    (.begin annsStream :: Move.turns 0 8 ++
      [toAnn "signed-out", .disturb .signalShutdown, .reply 0 2] ++ Move.turns 0 3)

/-- The client is still there, the stream has ended, and its message has not been yielded. -/
theorem message_lost_at_shutdown :
    Reaches (server plainTables) anyCall (Config.start (Store.empty 0)) droppedStream ∧
      (droppedStream.threads[0]?).bind Thread.result = some (.ok .ended) ∧
      (droppedStream.trace 0).any disconnects = false ∧
      (droppedStream.state.streams 0).consumed = ["signed-out"] ∧
      (droppedStream.state.streams 0).data = [] := by
  refine ⟨Config.follow_reaches (server plainTables) _ _, ?_⟩
  decide +kernel

end MysticAuth.EventStream
