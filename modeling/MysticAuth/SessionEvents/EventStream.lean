import MysticAuth.Accounts.EmailKeys
import MysticAuth.Interleaving.Histories

/-!
# The event stream

The stream waits for a message of its subscription, for a heartbeat interval at
most, and for the shutdown of its process.  Several passes of its loop are run;
a stream that has made them all is unfinished.
-/

set_option autoImplicit false

namespace MysticAuth.EventStream

open Interleaving

/-! ## Subscriptions -/

/-- What a subscription receives.  `get_message` returns nothing for a confirmation. -/
inductive Message where
  | confirmation
  | data (text : String)
  deriving DecidableEq

def Message.text : Message → Option String
  | .confirmation => none
  | .data text => some text

/-- `data: …` and `: heartbeat` -/
inductive Chunk where
  | data (text : String)
  | heartbeat
  deriving DecidableEq

structure Stream where
  /-- the channel it is subscribed to -/
  channel : Option String
  /-- what the subscription has received, oldest first -/
  log : List Message
  /-- how much of it has been taken -/
  cursor : Nat
  /-- when the wait for a message times out -/
  timer : Nat
  /-- what the client has got and when, newest first -/
  received : List (Nat × Chunk)

/-- The clock counts milliseconds. -/
structure Store where
  now : Nat
  shutdown : Bool
  /-- when a token has stopped being accepted -/
  stopsAt : String → Option Nat
  /-- when something was published on a channel, newest first -/
  published : String → List Nat
  streams : Nat → Stream

def Store.empty (now : Nat) : Store :=
  ⟨now, false, fun _ => none, fun _ => [], fun _ => ⟨none, [], 0, 0, []⟩⟩

def Stream.next (stream : Stream) : Option Message :=
  stream.log[stream.cursor]?

def Store.setStream (store : Store) (thread : Nat) (stream : Stream) : Store :=
  { store with streams := Function.update store.streams thread stream }

def Store.advance (store : Store) (thread : Nat) : Store :=
  store.setStream thread
    { store.streams thread with cursor := (store.streams thread).cursor + 1 }

/-! ## Calls -/

inductive Failure where
  /-- `CancelledError`, or the client is gone -/
  | cancelled
  | other
  deriving DecidableEq

/-- What `asyncio.wait` has found done. -/
inductive Waited where
  | message (text : Option String)
  | shutdown
  | both (text : Option String)
  deriving DecidableEq

inductive Call where
  | acquireLease (email clientIp token : String)
  | captureSecurityAlert
  | subscribe (channel : String)
  /-- `loop.time()` -/
  | time
  | refreshLease (email clientIp token : String)
  /-- `get_message` without waiting -/
  | getMessage
  | shutdownIsSet
  /-- `ensure_future` of `get_message`, with its timeout, and of the shutdown -/
  | startTasks (timeout : Nat)
  | wait
  | verifyToken (token : String)
  | yield (chunk : Chunk)
  | unsubscribe (channel : String)
  | aclose
  | releaseLease (email clientIp token : String)
  deriving DecidableEq

@[reducible] def Reply : Call → Type
  | .acquireLease _ _ _ => Except Failure Bool
  | .time => Nat
  | .getMessage => Except Failure (Option String)
  | .shutdownIsSet => Bool
  | .startTasks _ => Unit
  | .wait => Except Failure Waited
  | .verifyToken _ => Except Failure Bool
  | .captureSecurityAlert | .subscribe _ | .refreshLease _ _ _ | .yield _ | .unsubscribe _
  | .aclose | .releaseLease _ _ _ => Except Failure Unit

/-- An answered call. -/
abbrev Event := Interleaving.Event Reply

/-- What a message task returns, if it is done. -/
def Store.ready (store : Store) (thread : Nat) : Option (Option String × Store) :=
  match (store.streams thread).next with
  | some message => some (message.text, store.advance thread)
  | none => if (store.streams thread).timer ≤ store.now then some (none, store) else none

def outcomes (thread : Nat) (call : Call) (store : Store) : List (Reply call × Store) :=
  let stream := store.streams thread
  match call with
  | .acquireLease _ _ _ => [(.ok true, store), (.ok false, store), (.error .cancelled, store)]
  | .time => [(store.now, store)]
  | .subscribe channel =>
      [(.ok (), store.setStream thread { stream with channel := some channel }),
        (.error .other, store), (.error .cancelled, store)]
  | .getMessage =>
      [match stream.next with
        | some message => (.ok message.text, store.advance thread)
        | none => (.ok none, store),
        (.error .other, store), (.error .cancelled, store)]
  | .shutdownIsSet => [(store.shutdown, store)]
  | .startTasks timeout => [((), store.setStream thread { stream with timer := store.now + timeout })]
  -- The wait is not over before one of its tasks is done.
  | .wait =>
      let messages := (store.ready thread).toList
      let shutdowns := if store.shutdown then [store] else []
      messages.map (fun done => (.ok (.message done.1), done.2)) ++
        shutdowns.map (fun store => (.ok .shutdown, store)) ++
        shutdowns.flatMap (fun _ => messages.map fun done => (.ok (.both done.1), done.2)) ++
        [(.error .other, store), (.error .cancelled, store)]
  | .verifyToken token =>
      [(.ok (store.stopsAt token).isNone, store), (.error .other, store),
        (.error .cancelled, store)]
  | .yield chunk =>
      [(.ok (), store.setStream thread
          { stream with received := (store.now, chunk) :: stream.received }),
        (.error .cancelled, store)]
  | .unsubscribe _ =>
      [(.ok (), store.setStream thread { stream with channel := none }),
        (.error .other, store), (.error .cancelled, store)]
  | .captureSecurityAlert | .refreshLease _ _ _ =>
      [(.ok (), store), (.error .cancelled, store)]
  | .aclose | .releaseLease _ _ _ =>
      [(.ok (), store), (.error .other, store), (.error .cancelled, store)]

/-! ## What an answer does -/

/-- The next message is taken, if there is one. -/
def Stream.takeNext (stream : Stream) : Stream :=
  if stream.next.isSome then { stream with cursor := stream.cursor + 1 } else stream

/-- What an answer at the given time makes of the stream it is given to. -/
def Stream.answered (stream : Stream) (now : Nat) : Event → Stream
  | ⟨.subscribe channel, .ok ()⟩ => { stream with channel := some channel }
  | ⟨.unsubscribe _, .ok ()⟩ => { stream with channel := none }
  | ⟨.startTasks timeout, ()⟩ => { stream with timer := now + timeout }
  | ⟨.yield chunk, .ok ()⟩ => { stream with received := (now, chunk) :: stream.received }
  | ⟨.getMessage, .ok _⟩ | ⟨.wait, .ok (.message _)⟩ | ⟨.wait, .ok (.both _)⟩ => stream.takeNext
  | _ => stream

/-- What a wait has found to be done. -/
def Stream.Found (stream : Stream) (now : Nat) (text : Option String) : Prop :=
  text = stream.next.bind Message.text ∧ (stream.next = none → stream.timer ≤ now)

/-- When an answer is possible. -/
def Store.Possible (store : Store) (stream : Stream) : Event → Prop
  | ⟨.time, now⟩ => now = store.now
  | ⟨.getMessage, .ok text⟩ => text = stream.next.bind Message.text
  | ⟨.shutdownIsSet, isSet⟩ => isSet = store.shutdown
  | ⟨.wait, .ok (.message text)⟩ => stream.Found store.now text
  | ⟨.wait, .ok .shutdown⟩ => store.shutdown = true
  | ⟨.wait, .ok (.both text)⟩ => store.shutdown = true ∧ stream.Found store.now text
  | ⟨.verifyToken token, .ok accepted⟩ => accepted = (store.stopsAt token).isNone
  | ⟨.yield _, reply⟩ => reply ≠ .error .other
  | _ => True

@[simp] theorem Store.setStream_self (store : Store) (thread : Nat) :
    store.setStream thread (store.streams thread) = store := by
  simp [Store.setStream]

@[simp] theorem Store.setStream_streams_self (store : Store) (thread : Nat) (stream : Stream) :
    (store.setStream thread stream).streams thread = stream :=
  Function.update_self _ _ _

theorem Store.setStream_streams_ne (store : Store) (stream : Stream) {thread other : Nat}
    (differs : thread ≠ other) : (store.setStream thread stream).streams other = store.streams other :=
  Function.update_of_ne (Ne.symm differs) _ _

theorem Store.advance_eq (store : Store) (thread : Nat) {message : Message}
    (isNext : (store.streams thread).next = some message) :
    store.advance thread = store.setStream thread (store.streams thread).takeNext := by
  rw [Store.advance, Stream.takeNext, isNext]
  rfl

theorem Store.mem_ready {store after : Store} {thread : Nat} {text : Option String}
    (ready : (text, after) ∈ (store.ready thread).toList) :
    after = store.setStream thread (store.streams thread).takeNext ∧
      (store.streams thread).Found store.now text := by
  rw [Option.mem_toList, Store.ready] at ready
  cases isNext : (store.streams thread).next with
  | some message =>
    rw [isNext] at ready
    obtain ⟨rfl, rfl⟩ := Prod.mk.inj (Option.some.inj ready)
    exact ⟨store.advance_eq thread isNext, by rw [isNext]; rfl, fun none => by simp [isNext] at none⟩
  | none =>
    rw [isNext] at ready
    simp only [Option.ite_none_right_eq_some] at ready
    obtain ⟨due, same⟩ := ready
    obtain ⟨rfl, rfl⟩ := Prod.mk.inj (Option.some.inj same)
    exact ⟨by simp [Stream.takeNext, isNext], by rw [isNext]; rfl, fun _ => due⟩

/-- An answer changes the stream of its own thread only. -/
theorem outcomes_effect {thread : Nat} {call : Call} {store after : Store} {reply : Reply call}
    (possible : (reply, after) ∈ outcomes thread call store) :
    after = store.setStream thread ((store.streams thread).answered store.now ⟨call, reply⟩) ∧
      store.Possible (store.streams thread) ⟨call, reply⟩ := by
  cases call with
  | wait =>
    simp only [outcomes, List.mem_append, List.mem_map, List.mem_flatMap, List.mem_cons,
      List.not_mem_nil, or_false] at possible
    rcases possible with ((⟨⟨text, later⟩, ready, same⟩ | ⟨later, shutdown, same⟩) |
      ⟨later, shutdown, ⟨text, last⟩, ready, same⟩) | same | same <;>
      obtain ⟨rfl, rfl⟩ := Prod.mk.inj same
    · exact Store.mem_ready ready
    · split at shutdown
      · rename_i isSet
        obtain rfl := List.mem_singleton.mp shutdown
        exact ⟨(Store.setStream_self _ _).symm, isSet⟩
      · cases shutdown
    · split at shutdown
      · rename_i isSet
        obtain ⟨changed, found⟩ := Store.mem_ready ready
        exact ⟨changed, isSet, found⟩
      · cases shutdown
    all_goals exact ⟨(Store.setStream_self _ _).symm, trivial⟩
  | getMessage =>
    simp only [outcomes, List.mem_cons, List.not_mem_nil, or_false] at possible
    rcases possible with same | same | same
    · cases isNext : (store.streams thread).next with
      | some message =>
        rw [isNext] at same
        obtain ⟨rfl, rfl⟩ := Prod.mk.inj same
        exact ⟨store.advance_eq thread isNext, by rw [Store.Possible, isNext]; rfl⟩
      | none =>
        rw [isNext] at same
        obtain ⟨rfl, rfl⟩ := Prod.mk.inj same
        exact ⟨by simp [Stream.answered, Stream.takeNext, isNext],
          by rw [Store.Possible, isNext]; rfl⟩
    all_goals
      obtain ⟨rfl, rfl⟩ := Prod.mk.inj same
      exact ⟨(Store.setStream_self _ _).symm, trivial⟩
  | time | shutdownIsSet =>
    obtain ⟨rfl, rfl⟩ := Prod.mk.inj (List.mem_singleton.mp possible)
    exact ⟨(Store.setStream_self _ _).symm, rfl⟩
  | startTasks timeout =>
    obtain ⟨rfl, rfl⟩ := Prod.mk.inj (List.mem_singleton.mp possible)
    exact ⟨rfl, trivial⟩
  | verifyToken token =>
    simp only [outcomes, List.mem_cons, List.not_mem_nil, or_false] at possible
    rcases possible with same | same | same <;> obtain ⟨rfl, rfl⟩ := Prod.mk.inj same
    · exact ⟨(Store.setStream_self _ _).symm, rfl⟩
    all_goals exact ⟨(Store.setStream_self _ _).symm, trivial⟩
  | yield chunk =>
    simp only [outcomes, List.mem_cons, List.not_mem_nil, or_false] at possible
    rcases possible with same | same <;> obtain ⟨rfl, rfl⟩ := Prod.mk.inj same
    · exact ⟨rfl, fun isOther => by cases isOther⟩
    · exact ⟨(Store.setStream_self _ _).symm, fun isOther => by cases isOther⟩
  | subscribe channel | unsubscribe channel =>
    simp only [outcomes, List.mem_cons, List.not_mem_nil, or_false] at possible
    rcases possible with same | same | same <;> obtain ⟨rfl, rfl⟩ := Prod.mk.inj same
    · exact ⟨rfl, trivial⟩
    all_goals exact ⟨(Store.setStream_self _ _).symm, trivial⟩
  | captureSecurityAlert | refreshLease email clientIp token =>
    simp only [outcomes, List.mem_cons, List.not_mem_nil, or_false] at possible
    rcases possible with same | same <;> obtain ⟨rfl, rfl⟩ := Prod.mk.inj same
    all_goals exact ⟨(Store.setStream_self _ _).symm, trivial⟩
  | acquireLease email clientIp token | aclose | releaseLease email clientIp token =>
    simp only [outcomes, List.mem_cons, List.not_mem_nil, or_false] at possible
    rcases possible with same | same | same <;> obtain ⟨rfl, rfl⟩ := Prod.mk.inj same
    all_goals exact ⟨(Store.setStream_self _ _).symm, trivial⟩

abbrev Service (α : Type) := Program Reply Failure α

def execute {α : Type} (call : Call) (result : Reply call → Except Failure α) : Service α :=
  .attempt call result

def perform (call : Call) : Service (Reply call) :=
  .perform call

/-! ## The stream -/

def heartbeatMillis : Nat := 20 * 1000

def maxConnectionMillis : Nat := 15 * 60 * 1000

structure Request where
  email : String
  clientIp : String
  /-- the lease that the route has acquired -/
  leaseToken : Option String
  /-- the `uuid4` of a lease that the stream acquires itself -/
  ownToken : String
  accessToken : Option String
  passes : Nat
  deriving DecidableEq

inductive Ending where
  | ended
  | unfinished
  deriving DecidableEq

section Stream

variable (keys : KeyTables) (request : Request) (leaseToken : String)

def channel : String :=
  "session_events:" ++ keys.emailKeyId request.email

def renewLease (lastRenewed : Nat) : Service Nat := do
  let now ← perform .time
  if heartbeatMillis ≤ now - lastRenewed then
    execute (.refreshLease request.email request.clientIp leaseToken) id
    perform .time
  else return lastRenewed

def yield (chunk : Chunk) : Service Unit :=
  execute (.yield chunk) id

/-- Without an access token there is nothing to verify. -/
def stillAccepted : Service Bool :=
  match request.accessToken with
  | some token => execute (.verifyToken token) id
  | none => return true

/-- Whether the loop goes on. -/
def afterWait : Waited → Service Bool
  | .shutdown | .both _ => return false
  | .message none => do
      if ← stillAccepted request then
        yield .heartbeat
        return true
      else return false
  | .message (some text) => do
      yield (.data text)
      return true

def waitForMessage (deadline : Nat) : Service Bool := do
  if ← perform .shutdownIsSet then return false
  let now ← perform .time
  if deadline ≤ now then return false
  perform (.startTasks (min heartbeatMillis (deadline - now)))
  afterWait request (← execute .wait id)

/-- What has arrived is drained before a shutdown or the deadline is looked at. -/
def drainOrWait (deadline : Nat) : Service Bool := do
  match ← execute .getMessage id with
  | some text =>
      yield (.data text)
      return true
  | none => waitForMessage request deadline

def streamLoop (deadline : Nat) : Nat → Nat → Service Ending
  | 0, _ => return .unfinished
  | passes + 1, lastRenewed => do
      let lastRenewed ← renewLease request leaseToken lastRenewed
      if ← drainOrWait request deadline then streamLoop deadline passes lastRenewed
      else return .ended

def cleanUp : Service Unit := do
  execute (.unsubscribe (channel keys request)) id
  execute .aclose id
  execute (.releaseLease request.email request.clientIp leaseToken) id

def leasedStream : Service Ending := do
  let now ← perform .time
  let lastRenewed ← perform .time
  let body : Service Ending := do
    execute (.subscribe (channel keys request)) id
    streamLoop request leaseToken (now + maxConnectionMillis) request.passes lastRenewed
  Program.finally (tryCatch body fun
    | .cancelled => throw .cancelled
    | .other => return .ended) (cleanUp keys request leaseToken)

def sessionEventStream : Service Ending :=
  match request.leaseToken with
  | some leaseToken => leasedStream keys request leaseToken
  | none => do
      if ← execute (.acquireLease request.email request.clientIp request.ownToken) id then
        leasedStream keys request request.ownToken
      else
        execute .captureSecurityAlert id
        return .ended

end Stream

/-! ## The worker -/

inductive Disturbance where
  | elapse (millis : Nat)
  | publish (channel text : String)
  /-- The confirmation of its subscription reaches a stream. -/
  | confirm (thread : Nat)
  | signalShutdown
  /-- A token is no longer accepted from now on. -/
  | stop (token : String)

def Stream.push (message : Message) (stream : Stream) : Stream :=
  { stream with log := stream.log ++ [message] }

def disturb : Disturbance → Store → Store
  | .elapse millis, store => { store with now := store.now + millis }
  | .publish channel text, store =>
      { store with
        published := Function.update store.published channel (store.now :: store.published channel)
        streams := fun thread =>
          if (store.streams thread).channel = some channel then
            (store.streams thread).push (.data text)
          else store.streams thread }
  | .confirm thread, store =>
      if (store.streams thread).channel.isSome then
        store.setStream thread ((store.streams thread).push .confirmation)
      else store
  | .signalShutdown, store => { store with shutdown := true }
  | .stop token, store =>
      { store with stopsAt :=
          Function.update store.stopsAt token (some ((store.stopsAt token).getD store.now)) }

def server (keys : KeyTables) : System Request Store Disturbance Reply Failure Ending where
  handle := sessionEventStream keys
  outcomes := outcomes
  disturb := disturb

abbrev Server := Config Request Store Reply Failure Ending

end MysticAuth.EventStream
