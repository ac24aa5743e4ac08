import MysticAuth.Interleaving.Actions

/-!
# Refreshing in one tab at a time

Without Web Locks, the tabs of a browser agree on who refreshes through a
lease in their common storage, and tell each other of the result through a
second entry.  Every access to the storage and every look at the clock is a
step of its own, and an access may throw.
-/

set_option autoImplicit false

namespace MysticAuth.CrossTabRefresh

open Interleaving

/-! ## The storage -/

/-- The owner is a tab, of which every one has an id of its own. -/
structure Lease where
  owner : Nat
  expiresAt : Nat
  deriving DecidableEq

structure RotationResult where
  epoch : Nat
  success : Bool
  deriving DecidableEq

def leaseMs : Nat := 15000

/-! ## The tabs -/

/-- What a call returns: the response of the refresh, its error, or the response that tells of
another tab's refresh. -/
inductive Outcome where
  | response
  | error
  | alreadyRotated
  deriving DecidableEq

/-- What a tab does next.  `before` is the rotation result at the start of the call. -/
inductive Phase where
  | idle
  | readLease (before : Option RotationResult)
  /-- another tab's lease is compared with the clock -/
  | checkLease (before : Option RotationResult) (existing : Lease)
  | waitForAnotherTab (before : Option RotationResult)
  | checkAfterWait (before : Option RotationResult)
  /-- the clock is read for a new lease -/
  | stampLease (before : Option RotationResult)
  | writeLease (before : Option RotationResult) (expiresAt : Nat)
  | verifyLease (before : Option RotationResult)
  | backOff (before : Option RotationResult)
  | checkRotation (before : Option RotationResult)
  /-- the refresh is in flight, and so it is during a heartbeat -/
  | awaitRequest
  | heartbeatRead
  | heartbeatStamp
  | heartbeatWrite (expiresAt : Nat)
  | heartbeatVerify
  | publishRead (success : Bool)
  | publishWrite (success : Bool) (epoch : Nat)
  | releaseRead (outcome : Outcome)
  | releaseRemove (outcome : Outcome)
  | returned (outcome : Outcome)
  | closed
  deriving DecidableEq

/-- `expiresAt` is when the lease expires that the tab has written last; the code does not keep
it. -/
structure Tab where
  phase : Phase
  expiresAt : Option Nat
  deriving DecidableEq

structure Browser where
  now : Nat
  lease : Option Lease
  rotation : Option RotationResult
  tabs : List Tab
  deriving DecidableEq

namespace Phase

/-- A tab makes one call at a time. -/
def isFree : Phase → Bool
  | .idle | .returned _ => true
  | _ => false

def isInFlight : Phase → Bool
  | .awaitRequest | .heartbeatRead | .heartbeatStamp | .heartbeatWrite _ | .heartbeatVerify => true
  | _ => false

end Phase

namespace Browser

variable (browser : Browser)

/-- An access that throws reads nothing. -/
def readLease (throws : Bool) : Option Lease :=
  if throws then none else browser.lease

def readRotationResult (throws : Bool) : Option RotationResult :=
  if throws then none else browser.rotation

def ownsLease (tab : Nat) (throws : Bool) : Bool :=
  (browser.readLease throws).any (·.owner == tab)

def rotationCompletedAfter (before : Option RotationResult) (throws : Bool) : Bool :=
  match browser.readRotationResult throws with
  | none => false
  | some after => (before.all fun result => after.epoch != result.epoch) && after.success

def setTab (tab : Nat) (changed : Tab) : Browser :=
  { browser with tabs := browser.tabs.set tab changed }

/-- `setItem`, by which the tab's own lease changes. -/
def setLease (tab : Nat) (expiresAt : Nat) (next : Phase) : Browser :=
  { browser.setTab tab ⟨next, some expiresAt⟩ with lease := some ⟨tab, expiresAt⟩ }

/-- The next storage access or look at the clock of a tab, together with what follows from it at
once. -/
def advance (tab : Nat) (current : Tab) (throws : Bool) : Option Browser :=
  let goTo (next : Phase) := browser.setTab tab { current with phase := next }
  match current.phase with
  | .readLease before =>
      match browser.readLease throws with
      | none => some (goTo (.stampLease before))
      | some existing =>
          if existing.owner = tab then some (goTo (.stampLease before))
          else some (goTo (.checkLease before existing))
  | .checkLease before existing =>
      if browser.now < existing.expiresAt then some (goTo (.waitForAnotherTab before))
      else some (goTo (.stampLease before))
  | .checkAfterWait before =>
      if browser.rotationCompletedAfter before throws then some (goTo (.returned .alreadyRotated))
      else some (goTo (.readLease before))
  | .stampLease before => some (goTo (.writeLease before (browser.now + leaseMs)))
  | .writeLease before expiresAt =>
      if throws then some (goTo (.backOff before))
      else some (browser.setLease tab expiresAt (.verifyLease before))
  | .verifyLease before =>
      if browser.ownsLease tab throws then some (goTo (.checkRotation before))
      else some (goTo (.backOff before))
  | .checkRotation before =>
      if browser.rotationCompletedAfter before throws then
        some (goTo (.releaseRead .alreadyRotated))
      else some (goTo .awaitRequest)
  | .heartbeatRead =>
      if browser.ownsLease tab throws then some (goTo .heartbeatStamp)
      else some (goTo .awaitRequest)
  | .heartbeatStamp => some (goTo (.heartbeatWrite (browser.now + leaseMs)))
  | .heartbeatWrite expiresAt =>
      if throws then some (goTo .awaitRequest)
      else some (browser.setLease tab expiresAt .heartbeatVerify)
  -- the result of the verification is not used
  | .heartbeatVerify => some (goTo .awaitRequest)
  | .publishRead success =>
      let previous := browser.readRotationResult throws
      some (goTo (.publishWrite success ((previous.map RotationResult.epoch).getD 0 + 1)))
  | .publishWrite success epoch =>
      let next := goTo (.releaseRead (if success then .response else .error))
      some { next with rotation := if throws then browser.rotation else some ⟨epoch, success⟩ }
  | .releaseRead outcome =>
      if browser.ownsLease tab throws then some (goTo (.releaseRemove outcome))
      else some (goTo (.returned outcome))
  | .releaseRemove outcome =>
      let next := goTo (.returned outcome)
      some { next with lease := if throws then browser.lease else none }
  | .idle | .waitForAnotherTab _ | .backOff _ | .awaitRequest | .returned _ | .closed => none

end Browser

/-! ## What may happen -/

inductive Action where
  | openTab
  | tick (ms : Nat)
  /-- a call begins, and reads the rotation result -/
  | start (tab : Nat) (throws : Bool)
  | advance (tab : Nat) (throws : Bool)
  /-- a message, a storage event or a timer ends the wait -/
  | wake (tab : Nat)
  | heartbeat (tab : Nat)
  | answer (tab : Nat) (success : Bool)
  /-- the tab is closed or crashes -/
  | close (tab : Nat)
  deriving DecidableEq

def Browser.step (browser : Browser) : Action → Option Browser
  | .openTab => some { browser with tabs := browser.tabs ++ [⟨.idle, none⟩] }
  | .tick ms => some { browser with now := browser.now + ms }
  | .start tab throws => browser.tabs[tab]?.bind fun current =>
      if current.phase.isFree then
        some (browser.setTab tab
          { current with phase := .readLease (browser.readRotationResult throws) })
      else none
  | .advance tab throws => browser.tabs[tab]?.bind fun current =>
      browser.advance tab current throws
  | .wake tab => browser.tabs[tab]?.bind fun current =>
      match current.phase with
      | .waitForAnotherTab before =>
          some (browser.setTab tab { current with phase := .checkAfterWait before })
      | .backOff before => some (browser.setTab tab { current with phase := .readLease before })
      | _ => none
  | .heartbeat tab => browser.tabs[tab]?.bind fun current =>
      if current.phase = .awaitRequest then
        some (browser.setTab tab { current with phase := .heartbeatRead })
      else none
  | .answer tab success => browser.tabs[tab]?.bind fun current =>
      if current.phase = .awaitRequest then
        some (browser.setTab tab { current with phase := .publishRead success })
      else none
  | .close tab => browser.tabs[tab]?.bind fun current =>
      some (browser.setTab tab { current with phase := .closed })

/-- No tab is open; what the storage has is left from earlier. -/
def Browser.fresh (now : Nat) (lease : Option Lease) (rotation : Option RotationResult) : Browser :=
  ⟨now, lease, rotation, []⟩

end MysticAuth.CrossTabRefresh
