import MysticAuth.Interleaving.Histories
import MysticAuth.Interleaving.Writes
import MysticAuth.Valkey.SortedSets

/-!
# Leases of the event streams

A stream holds a lease under its account and under its address.  Each script is
one command of Valkey; the clock and the token are the worker's.
-/

set_option autoImplicit false

namespace MysticAuth.SessionEvents

open Interleaving SortedSets

/-! ## The scripts -/

/-- A script with its `KEYS` and `ARGV`. -/
inductive Script where
  | acquire (accountKey ipKey : String) (now expires accountLimit ipLimit : Nat) (token : String)
      (ttlSeconds : Nat)
  | refresh (accountKey ipKey token : String) (expires ttlSeconds : Nat)
  | release (accountKey ipKey token : String)
  deriving DecidableEq

def acquireLease (accountKey ipKey : String) (now expires accountLimit ipLimit : Nat)
    (token : String) (ttlSeconds : Nat) (store : Store) : Nat × Store :=
  let store := store.zremrangebyscore accountKey now
  let store := store.zremrangebyscore ipKey now
  if accountLimit ≤ store.zcard accountKey then (0, store)
  else if ipLimit ≤ store.zcard ipKey then (0, store)
  else
    let store := store.zadd accountKey expires token
    let store := store.zadd ipKey expires token
    let store := store.expire accountKey ttlSeconds
    let store := store.expire ipKey ttlSeconds
    (1, store)

def refreshLease (accountKey ipKey token : String) (expires ttlSeconds : Nat) (store : Store) :
    Nat × Store :=
  let store := store.zaddXX accountKey expires token
  let store := store.zaddXX ipKey expires token
  let store := store.expire accountKey ttlSeconds
  let store := store.expire ipKey ttlSeconds
  (1, store)

def releaseLease (accountKey ipKey token : String) (store : Store) : Nat × Store :=
  let store := store.zrem accountKey token
  let store := store.zrem ipKey token
  let store := if store.zcard accountKey = 0 then store.del accountKey else store
  let store := if store.zcard ipKey = 0 then store.del ipKey else store
  (1, store)

def Script.run : Script → Store → Nat × Store
  | .acquire accountKey ipKey now expires accountLimit ipLimit token ttlSeconds =>
      acquireLease accountKey ipKey now expires accountLimit ipLimit token ttlSeconds
  | .refresh accountKey ipKey token expires ttlSeconds =>
      refreshLease accountKey ipKey token expires ttlSeconds
  | .release accountKey ipKey token => releaseLease accountKey ipKey token

/-! ## The services -/

structure Site where
  accountLimit : Nat
  ipLimit : Nat
  graceSeconds : Nat
  sha256 : String → String

def leaseSeconds : Nat := 3 * 20

section Services

variable (site : Site)

def leaseTtlSeconds : Nat :=
  leaseSeconds + site.graceSeconds

def leaseKey (scope value : String) : String :=
  "session_event_leases:" ++ scope ++ ":" ++ site.sha256 value

def accountKey (email : String) : String :=
  leaseKey site "account" email

def ipKey (clientIp : String) : String :=
  leaseKey site "ip" clientIp

/-- `eval`, which may fail, or take effect without being acknowledged. -/
@[reducible] def Reply (_ : Script) : Type :=
  Write Nat

/-- An answered script. -/
abbrev Event := Interleaving.Event Reply

abbrev Service (α : Type) := Program Reply Unit α

def eval (script : Script) : Service Nat :=
  .attempt script (Write.result ())

/-- The token is the `uuid4` of the request, and `now` what its worker's clock shows. -/
def acquireSessionEventLease (email clientIp token : String) (now : Nat) :
    Service (Option String) :=
  tryCatch (do
    let admitted ← eval (.acquire (accountKey site email) (ipKey site clientIp) now
      (now + leaseSeconds) site.accountLimit site.ipLimit token (leaseTtlSeconds site))
    return if admitted = 1 then some token else none) fun _ => return none

def refreshSessionEventLease (email clientIp token : String) (now : Nat) : Service Unit :=
  tryCatch (do
    let _ ← eval (.refresh (accountKey site email) (ipKey site clientIp) token
      (now + leaseSeconds) (leaseTtlSeconds site))
    return ()) fun _ => return ()

def releaseSessionEventLease (email clientIp token : String) : Service Unit :=
  tryCatch (do
    let _ ← eval (.release (accountKey site email) (ipKey site clientIp) token)
    return ()) fun _ => return ()

end Services

/-! ## The server -/

inductive Request where
  | acquire (email clientIp token : String) (now : Nat)
  | refresh (email clientIp token : String) (now : Nat)
  | release (email clientIp token : String)
  deriving DecidableEq

def handle (site : Site) : Request → Service (Option String)
  | .acquire email clientIp token now => acquireSessionEventLease site email clientIp token now
  | .refresh email clientIp token now => do
      refreshSessionEventLease site email clientIp token now
      return none
  | .release email clientIp token => do
      releaseSessionEventLease site email clientIp token
      return none

def outcomes (_ : Nat) (script : Script) (store : Store) : List (Reply script × Store) :=
  written store (script.run store).2 (script.run store).1

def server (site : Site) : System Request Store Nat Reply Unit (Option String) where
  handle := handle site
  outcomes := outcomes
  disturb millis store := store.elapse millis

abbrev Server := Config Request Store Reply Unit (Option String)

/-! ## What a script does to a set -/

section Scripts

variable {accountKey ipKey key : String} {ttlSeconds : Nat} {store : Store}

theorem setAt_unlessEmpty (other : String) :
    (if store.zcard other = 0 then store.del other else store).setAt key = store.setAt key := by
  split
  · rename_i none
    rw [Store.setAt_del]
    split
    · rename_i same
      rw [same]
      exact SortedSet.ext (List.length_eq_zero_iff.mp none).symm
    · rfl
  · rfl

/-- Two writes under the keys of a lease, each made from what is under its own key. -/
theorem setAt_both (differs : accountKey ≠ ipKey) (change : SortedSet → SortedSet) :
    ((store.write accountKey (change (store.setAt accountKey))).write ipKey (change
      ((store.write accountKey (change (store.setAt accountKey))).setAt ipKey))).setAt key =
      if key = accountKey ∨ key = ipKey then change (store.setAt key) else store.setAt key := by
  rw [Store.setAt_write, Store.setAt_write, Store.setAt_write, if_neg differs.symm]
  by_cases isIp : key = ipKey
  · rw [if_pos isIp, if_pos (Or.inr isIp), isIp]
  · rw [if_neg isIp]
    by_cases isAccount : key = accountKey
    · rw [if_pos isAccount, if_pos (Or.inl isAccount), isAccount]
    · rw [if_neg isAccount, if_neg (by simp [isAccount, isIp])]

theorem setAt_release (differs : accountKey ≠ ipKey) (token : String) (store : Store)
    (key : String) : ((Script.release accountKey ipKey token).run store).2.setAt key =
      if key = accountKey ∨ key = ipKey then (store.setAt key).erase token
      else store.setAt key := by
  unfold Script.run releaseLease
  simp only
  rw [setAt_unlessEmpty, setAt_unlessEmpty]
  exact setAt_both differs fun set => set.erase token

theorem setAt_refresh (differs : accountKey ≠ ipKey) (positive : 0 < ttlSeconds) (token : String)
    (expires : Nat) (store : Store) (key : String) :
    ((Script.refresh accountKey ipKey token expires ttlSeconds).run store).2.setAt key =
      if key = accountKey ∨ key = ipKey then (store.setAt key).rescore token expires
      else store.setAt key := by
  unfold Script.run refreshLease
  simp only
  rw [Store.setAt_expire _ _ positive, Store.setAt_expire _ _ positive]
  exact setAt_both differs fun set => set.rescore token expires

/-- What has expired is removed, and a lease is added only below both limits. -/
theorem setAt_acquire (differs : accountKey ≠ ipKey) (positive : 0 < ttlSeconds)
    (now expires accountLimit ipLimit : Nat) (token : String) (store : Store) :
    (∀ key, ((Script.acquire accountKey ipKey now expires accountLimit ipLimit token
        ttlSeconds).run store).2.setAt key =
          if key = accountKey ∨ key = ipKey then (store.setAt key).prune now
          else store.setAt key) ∨
      ((store.setAt accountKey).prune now).card < accountLimit ∧
        ((store.setAt ipKey).prune now).card < ipLimit ∧
        ∀ key, ((Script.acquire accountKey ipKey now expires accountLimit ipLimit token
          ttlSeconds).run store).2.setAt key =
            if key = accountKey ∨ key = ipKey then ((store.setAt key).prune now).add token expires
            else store.setAt key := by
  let pruned := (store.zremrangebyscore accountKey now).zremrangebyscore ipKey now
  have setAt_pruned (key : String) : pruned.setAt key =
      if key = accountKey ∨ key = ipKey then (store.setAt key).prune now else store.setAt key :=
    setAt_both differs fun set => set.prune now
  have atAccount : pruned.setAt accountKey = (store.setAt accountKey).prune now := by
    rw [setAt_pruned, if_pos (Or.inl rfl)]
  have atIp : pruned.setAt ipKey = (store.setAt ipKey).prune now := by
    rw [setAt_pruned, if_pos (Or.inr rfl)]
  unfold Script.run acquireLease
  simp only
  by_cases full : accountLimit ≤ pruned.zcard accountKey
  · rw [if_pos full]
    exact Or.inl setAt_pruned
  · rw [if_neg full]
    by_cases crowded : ipLimit ≤ pruned.zcard ipKey
    · rw [if_pos crowded]
      exact Or.inl setAt_pruned
    · rw [if_neg crowded]
      refine Or.inr ⟨?_, ?_, fun key => ?_⟩
      · rw [← atAccount]
        exact Nat.lt_of_not_le full
      · rw [← atIp]
        exact Nat.lt_of_not_le crowded
      · rw [Store.setAt_expire _ _ positive, Store.setAt_expire _ _ positive]
        refine (setAt_both differs fun set => set.add token expires).trans ?_
        rw [setAt_pruned]
        split <;> rfl

end Scripts

end MysticAuth.SessionEvents
