import Mathlib.Data.List.Perm.Basic

/-!
# One mutation object

A mutation object sends a request for every `mutate`, without waiting for the
earlier ones.  It runs the callbacks of one call, the latest: those of a call
that was followed by another are dropped.  What a form shows before its requests
are answered agrees with what is stored in the end, as long as requests are
accepted in turn and a failure puts back what is stored.
-/

set_option autoImplicit false

namespace Mutations

/-- A request in flight; `accepted` says how the server has processed it, once it has. -/
structure Call (Payload : Type) where
  payload : Payload
  accepted : Option Bool
  deriving DecidableEq

/-- The latest call with its callbacks, until it is settled, and the earlier calls in flight. -/
structure MutationObject (Payload Callbacks : Type) where
  latest : Option (Call Payload × Callbacks)
  superseded : List (Call Payload)
  deriving DecidableEq

/-- Which of the calls in flight. -/
inductive Ticket where
  | latest
  | superseded (index : Nat)
  deriving DecidableEq

namespace MutationObject

variable {Payload Callbacks : Type} (object : MutationObject Payload Callbacks)

def fresh : MutationObject Payload Callbacks :=
  ⟨none, []⟩

def calls : List (Call Payload) :=
  (object.latest.map Prod.fst).toList ++ object.superseded

def mutate (payload : Payload) (callbacks : Callbacks) : MutationObject Payload Callbacks :=
  ⟨some (⟨payload, none⟩, callbacks), object.calls⟩

/-- The server processes a request that it has not processed yet. -/
def serve (ticket : Ticket) (accepted : Bool) :
    Option (Payload × MutationObject Payload Callbacks) :=
  match ticket with
  | .latest =>
      match object.latest with
      | some (⟨payload, none⟩, callbacks) =>
          some (payload, { object with latest := some (⟨payload, some accepted⟩, callbacks) })
      | _ => none
  | .superseded index =>
      match object.superseded[index]? with
      | some ⟨payload, none⟩ =>
          some (payload, { object with
            superseded := object.superseded.set index ⟨payload, some accepted⟩ })
      | _ => none

/-- The answer arrives; returned is what the callbacks of the call are run with, if they are. -/
def settle (ticket : Ticket) :
    Option (Option (Bool × Callbacks) × MutationObject Payload Callbacks) :=
  match ticket with
  | .latest =>
      match object.latest with
      | some (⟨_, some accepted⟩, callbacks) =>
          some (some (accepted, callbacks), { object with latest := none })
      | _ => none
  | .superseded index =>
      match object.superseded[index]? with
      | some ⟨_, some _⟩ =>
          some (none, { object with superseded := object.superseded.eraseIdx index })
      | _ => none

/-- What the requests in flight ask for. -/
def payloads : List Payload :=
  object.calls.map Call.payload

/-- How many requests for this have not been processed yet. -/
def waiting [DecidableEq Payload] (payload : Payload) : Nat :=
  object.calls.countP (· == ⟨payload, none⟩)

def Idle : Prop :=
  object.latest = none ∧ object.superseded = []

instance [DecidableEq Payload] [DecidableEq Callbacks] : Decidable object.Idle :=
  inferInstanceAs (Decidable (_ ∧ _))

/-! ## What the object does -/

variable {object} {next : MutationObject Payload Callbacks} {ticket : Ticket} {accepted : Bool}
  {payload : Payload}

theorem serve_cases (served : object.serve ticket accepted = some (payload, next)) :
    (ticket = .latest ∧ ∃ callbacks, object.latest = some (⟨payload, none⟩, callbacks) ∧
      next.latest = some (⟨payload, some accepted⟩, callbacks)) ∨
    ((∃ index, ticket = .superseded index) ∧ next.latest = object.latest) := by
  cases ticket with
  | latest =>
    left
    simp only [serve] at served
    split at served
    · next call callbacks inFlight =>
      obtain ⟨rfl, rfl⟩ := Prod.mk.inj (Option.some.inj served)
      exact ⟨rfl, callbacks, inFlight, rfl⟩
    · cases served
  | superseded index =>
    right
    simp only [serve] at served
    split at served
    · obtain ⟨_, rfl⟩ := Prod.mk.inj (Option.some.inj served)
      exact ⟨⟨index, rfl⟩, rfl⟩
    · cases served

theorem settle_cases {result : Option (Bool × Callbacks)}
    (settled : object.settle ticket = some (result, next)) :
    (∃ payload accepted callbacks, result = some (accepted, callbacks) ∧
      object.latest = some (⟨payload, some accepted⟩, callbacks) ∧ next.latest = none) ∨
    (result = none ∧ next.latest = object.latest) := by
  cases ticket with
  | latest =>
    left
    simp only [settle] at settled
    split at settled
    · next payload accepted callbacks inFlight =>
      obtain ⟨rfl, rfl⟩ := Prod.mk.inj (Option.some.inj settled)
      exact ⟨payload, accepted, callbacks, rfl, inFlight, rfl⟩
    · cases settled
  | superseded index =>
    right
    simp only [settle] at settled
    split at settled
    · obtain ⟨rfl, rfl⟩ := Prod.mk.inj (Option.some.inj settled)
      exact ⟨rfl, rfl⟩
    · cases settled

/-- No callbacks but those of an earlier `mutate` are ever run. -/
theorem latest_of_serve (served : object.serve ticket accepted = some (payload, next))
    {call : Call Payload} {callbacks : Callbacks} (latest : next.latest = some (call, callbacks)) :
    ∃ call', object.latest = some (call', callbacks) := by
  rcases serve_cases served with ⟨_, ran, inFlight, answered⟩ | ⟨_, same⟩
  · obtain ⟨_, rfl⟩ := Prod.mk.inj (Option.some.inj (answered.symm.trans latest))
    exact ⟨_, inFlight⟩
  · exact ⟨call, same.symm.trans latest⟩

/-- A call that the server has processed stays the latest one while others are processed. -/
theorem latest_kept_of_serve (served : object.serve ticket accepted = some (payload, next))
    {payload' : Payload} {accepted' : Bool} {callbacks : Callbacks}
    (processed : object.latest = some (⟨payload', some accepted'⟩, callbacks)) :
    next.latest = object.latest := by
  rcases serve_cases served with ⟨_, ran, unserved, _⟩ | ⟨_, same⟩
  · rw [processed] at unserved
    cases unserved
  · exact same

theorem latest_of_settle {result : Option (Bool × Callbacks)}
    (settled : object.settle ticket = some (result, next)) {call : Call Payload}
    {callbacks : Callbacks} (latest : next.latest = some (call, callbacks)) :
    object.latest = some (call, callbacks) := by
  rcases settle_cases settled with ⟨_, _, _, _, _, ended⟩ | ⟨_, same⟩
  · rw [ended] at latest
    cases latest
  · exact same.symm.trans latest

theorem mem_payloads_mutate (payload other : Payload) (callbacks : Callbacks) :
    other ∈ (object.mutate payload callbacks).payloads ↔
      other = payload ∨ other ∈ object.payloads := by
  simp [payloads, mutate, calls]

theorem payloads_serve (served : object.serve ticket accepted = some (payload, next)) :
    payload ∈ object.payloads ∧ ∀ other ∈ next.payloads, other ∈ object.payloads := by
  cases ticket with
  | latest =>
    simp only [serve] at served
    split at served
    · next call callbacks inFlight =>
      obtain ⟨rfl, rfl⟩ := Prod.mk.inj (Option.some.inj served)
      simp [payloads, calls, inFlight]
    · cases served
  | superseded index =>
    simp only [serve] at served
    split at served
    · next call inFlight =>
      obtain ⟨rfl, rfl⟩ := Prod.mk.inj (Option.some.inj served)
      have member := List.mem_of_getElem? inFlight
      refine ⟨List.mem_map.mpr ⟨_, List.mem_append_right _ member, rfl⟩, ?_⟩
      intro other listed
      obtain ⟨call, isCall, rfl⟩ := List.mem_map.mp listed
      rcases List.mem_append.mp isCall with isLatest | isSuperseded
      · exact List.mem_map.mpr ⟨call, List.mem_append_left _ isLatest, rfl⟩
      · rcases List.mem_or_eq_of_mem_set isSuperseded with earlier | rfl
        · exact List.mem_map.mpr ⟨call, List.mem_append_right _ earlier, rfl⟩
        · exact List.mem_map.mpr ⟨_, List.mem_append_right _ member, rfl⟩
    · cases served

theorem payloads_settle {result : Option (Bool × Callbacks)}
    (settled : object.settle ticket = some (result, next)) :
    ∀ other ∈ next.payloads, other ∈ object.payloads := by
  intro other listed
  obtain ⟨call, isCall, rfl⟩ := List.mem_map.mp listed
  apply List.mem_map_of_mem
  cases ticket with
  | latest =>
    simp only [settle] at settled
    split at settled
    · obtain ⟨rfl, rfl⟩ := Prod.mk.inj (Option.some.inj settled)
      exact List.mem_append_right _ (by simpa [calls] using isCall)
    · cases settled
  | superseded index =>
    simp only [settle] at settled
    split at settled
    · obtain ⟨rfl, rfl⟩ := Prod.mk.inj (Option.some.inj settled)
      rcases List.mem_append.mp isCall with isLatest | isSuperseded
      · exact List.mem_append_left _ isLatest
      · exact List.mem_append_right _ (List.mem_of_mem_eraseIdx isSuperseded)
    · cases settled

variable [DecidableEq Payload]

theorem waiting_mutate (payload other : Payload) (callbacks : Callbacks) :
    (object.mutate payload callbacks).waiting other =
      object.waiting other + if payload = other then 1 else 0 := by
  simp [waiting, mutate, calls, List.countP_cons]

theorem waiting_serve (served : object.serve ticket accepted = some (payload, next))
    (other : Payload) :
    object.waiting other = next.waiting other + if payload = other then 1 else 0 := by
  cases ticket with
  | latest =>
    simp only [serve] at served
    split at served
    · next call callbacks inFlight =>
      obtain ⟨rfl, rfl⟩ := Prod.mk.inj (Option.some.inj served)
      simp [waiting, calls, inFlight, List.countP_cons]
    · cases served
  | superseded index =>
    simp only [serve] at served
    split at served
    · next call inFlight =>
      obtain ⟨rfl, rfl⟩ := Prod.mk.inj (Option.some.inj served)
      obtain ⟨bound, isCall⟩ := List.getElem?_eq_some_iff.mp inFlight
      have before := (List.getElem_cons_eraseIdx_perm bound).countP_eq (· == ⟨other, none⟩)
      have after := (List.set_perm_cons_eraseIdx bound ⟨call, some accepted⟩).countP_eq
        (· == ⟨other, none⟩)
      simp only [waiting, calls, List.countP_append, ← before, after, isCall, List.countP_cons]
      simp
      omega
    · cases served

theorem waiting_settle {result : Option (Bool × Callbacks)}
    (settled : object.settle ticket = some (result, next)) (other : Payload) :
    next.waiting other = object.waiting other := by
  cases ticket with
  | latest =>
    simp only [settle] at settled
    split at settled
    · next payload accepted callbacks inFlight =>
      obtain ⟨rfl, rfl⟩ := Prod.mk.inj (Option.some.inj settled)
      simp [waiting, calls, inFlight]
    · cases settled
  | superseded index =>
    simp only [settle] at settled
    split at settled
    · next payload accepted inFlight =>
      obtain ⟨rfl, rfl⟩ := Prod.mk.inj (Option.some.inj settled)
      obtain ⟨bound, isCall⟩ := List.getElem?_eq_some_iff.mp inFlight
      have before := (List.getElem_cons_eraseIdx_perm bound).countP_eq (· == ⟨other, none⟩)
      simp [waiting, calls, List.countP_append, ← before, isCall]
    · cases settled

end MutationObject

/-! ## Showing a change before it is stored -/

section Optimistic

variable {Value Callbacks : Type} {shown stored payload : Value}
  {object next : MutationObject Value Callbacks} {ticket : Ticket}

/-- What is shown is what the latest call asks for, and stored as soon as that call is accepted. -/
def Agrees (shown stored : Value) (object : MutationObject Value Callbacks) : Prop :=
  match object.latest with
  | none => shown = stored
  | some (⟨payload, some true⟩, _) => shown = payload ∧ stored = payload
  | some (⟨payload, _⟩, _) => shown = payload

/-- The latest call can still be accepted, or be reported as failed. -/
def MutationObject.undecided (object : MutationObject Value Callbacks) : Bool :=
  object.latest.any fun latest => latest.1.accepted != some true

/-- An accepted call is the latest, or it changes nothing that is not changed again. -/
def InTurn [DecidableEq Value] (shown payload : Value) (object : MutationObject Value Callbacks)
    (ticket : Ticket) : Bool :=
  ticket == .latest || object.undecided || payload == shown

namespace Agrees

theorem mutate (stored payload : Value) (object : MutationObject Value Callbacks)
    (callbacks : Callbacks) : Agrees payload stored (object.mutate payload callbacks) :=
  rfl

theorem of_latest (agrees : Agrees shown stored object) (same : next.latest = object.latest) :
    Agrees shown stored next := by
  rwa [Agrees, same]

theorem accept [DecidableEq Value] (agrees : Agrees shown stored object)
    (served : object.serve ticket true = some (payload, next))
    (inTurn : InTurn shown payload object ticket = true) : Agrees shown payload next := by
  rcases MutationObject.serve_cases served with
    ⟨_, callbacks, inFlight, answered⟩ | ⟨⟨index, rfl⟩, same⟩
  · rw [Agrees, inFlight] at agrees
    rw [Agrees, answered]
    exact ⟨agrees, rfl⟩
  · rw [InTurn, Bool.or_eq_true, Bool.or_eq_true] at inTurn
    rcases inTurn with (isLatest | undecided) | equal
    · simp at isLatest
    · rw [MutationObject.undecided] at undecided
      rcases latest : object.latest with _ | ⟨⟨asked, _ | _ | _⟩, callbacks⟩
      · simp [latest] at undecided
      · simpa [Agrees, same, latest] using agrees
      · simpa [Agrees, same, latest] using agrees
      · simp [latest] at undecided
    · obtain rfl := beq_iff_eq.mp equal
      rcases latest : object.latest with _ | ⟨⟨asked, _ | _ | _⟩, callbacks⟩ <;>
        simp_all [Agrees]

theorem refuse (agrees : Agrees shown stored object)
    (served : object.serve ticket false = some (payload, next)) : Agrees shown stored next := by
  rcases MutationObject.serve_cases served with ⟨_, callbacks, inFlight, answered⟩ | ⟨_, same⟩
  · rw [Agrees, inFlight] at agrees
    rw [Agrees, answered]
    exact agrees
  · exact agrees.of_latest same

theorem settle_ignored (agrees : Agrees shown stored object)
    (settled : object.settle ticket = some (none, next)) : Agrees shown stored next := by
  rcases MutationObject.settle_cases settled with ⟨_, _, _, reported, _⟩ | ⟨_, same⟩
  · cases reported
  · exact agrees.of_latest same

theorem settle_accepted {callbacks : Callbacks} (agrees : Agrees shown stored object)
    (settled : object.settle ticket = some (some (true, callbacks), next)) :
    Agrees shown stored next := by
  rcases MutationObject.settle_cases settled with
    ⟨payload, accepted, ran, reported, inFlight, ended⟩ | ⟨ignored, _⟩
  · obtain ⟨rfl, rfl⟩ := Prod.mk.inj (Option.some.inj reported)
    rw [Agrees, inFlight] at agrees
    rw [Agrees, ended]
    exact agrees.1.trans agrees.2.symm
  · cases ignored

theorem settle_refused {callbacks : Callbacks}
    (settled : object.settle ticket = some (some (false, callbacks), next)) (value : Value) :
    Agrees value value next := by
  rcases MutationObject.settle_cases settled with ⟨_, _, _, _, _, ended⟩ | ⟨ignored, _⟩
  · rw [Agrees, ended]
  · cases ignored

/-- Once the latest call is accepted or settled, what is shown is stored. -/
theorem of_decided (agrees : Agrees shown stored object) (decided : object.undecided = false) :
    shown = stored := by
  rcases latest : object.latest with _ | ⟨⟨asked, _ | _ | _⟩, callbacks⟩
  · rwa [Agrees, latest] at agrees
  · simp [MutationObject.undecided, latest] at decided
  · simp [MutationObject.undecided, latest] at decided
  · rw [Agrees, latest] at agrees
    exact agrees.1.trans agrees.2.symm

theorem of_idle (agrees : Agrees shown stored object) (idle : object.Idle) : shown = stored := by
  rwa [Agrees, idle.1] at agrees

end Agrees

end Optimistic

end Mutations
