import MysticAuth.Browser.AuthInterceptor

/-!
# The promises of a page

A request waits for a refresh that it has joined or for a rotation that it has
found pending.  Whoever has begun the one or the other settles it before it
finishes, and there is only one refresh in flight.
-/

set_option autoImplicit false

namespace MysticAuth.AuthInterceptor

open Interleaving

/-! ## What the interceptor keeps -/

/-- Every stretch of the interceptor between two decisions keeps the property of the trace. -/
structure Kept (discipline : Discipline Reply) (holds : List Event → Prop) : Prop where
  send : ∀ trace config, holds trace → discipline.allows trace (.send config) ∧
    ∀ answer, holds (⟨.send config, answer⟩ :: trace)
  refresh : ∀ trace, holds trace → discipline.allows trace .refreshSession ∧ ∀ promise,
    discipline.allows (⟨.refreshSession, promise⟩ :: trace) (.awaitRefresh promise) ∧
      ∀ succeeded, holds (⟨.awaitRefresh promise, succeeded⟩ :: ⟨.refreshSession, promise⟩ :: trace)
  check : ∀ trace, holds trace → discipline.allows trace .checkRotation ∧
    ∀ rotation, holds (⟨.checkRotation, rotation⟩ :: trace)
  await : ∀ trace promise recent, holds (⟨.checkRotation, some promise, recent⟩ :: trace) →
    discipline.allows (⟨.checkRotation, some promise, recent⟩ :: trace) (.awaitRotation promise) ∧
      holds (⟨.awaitRotation promise, ()⟩ :: ⟨.checkRotation, some promise, recent⟩ :: trace)
  expire : ∀ trace, holds trace → discipline.allows trace .markUnauthenticated ∧
    holds (⟨.markUnauthenticated, ()⟩ :: trace)

section Interceptor

variable {discipline : Discipline Reply} {holds : List Event → Prop}
variable {config : RequestConfig} {error : Rejection} {trace : List Event}

/-- A request, whatever it returns, keeps the property. -/
def RequestKeeps (discipline : Discipline Reply) (holds : List Event → Prop)
    (config : RequestConfig) : Prop :=
  ∀ trace, holds trace → (api config).Meets discipline (fun _ later => holds later) trace

theorem expire_keeps (kept : Kept discipline holds) (now : holds trace) :
    (expire error).Meets discipline (fun _ later => holds later) trace :=
  ⟨(kept.expire trace now).1, fun _ _ => (kept.expire trace now).2⟩

theorem afterRotation_keeps (kept : Kept discipline holds) (now : holds trace)
    (retry : config.retriedAfterRotation = false →
      RequestKeeps discipline holds { config with retriedAfterRotation := true }) :
    (afterRotation config error).Meets discipline (fun _ later => holds later) trace := by
  rw [afterRotation]
  split
  · rename_i fresh
    refine ⟨(kept.check trace now).1, fun rotation _ => ?_⟩
    have now' := (kept.check trace now).2 rotation
    beta_reduce
    split
    · have again : ∀ later, holds later →
          ((api { config with retriedAfterRotation := true }).resume (orExpire error)).Meets discipline
            (fun _ last => holds last) later := by
        intro later now''
        rw [Program.meets_resume]
        refine (retry fresh later now'').mono fun result last _ holdsThen => ?_
        cases result with
        | ok response => exact holdsThen
        | error error' => exact expire_keeps kept holdsThen
      rw [Program.meets_resume]
      obtain ⟨pending, recent⟩ := rotation
      cases pending with
      | none => exact again _ now'
      | some promise =>
        have awaited := kept.await trace promise recent now'
        exact ⟨awaited.1, fun _ _ => again _ awaited.2⟩
    · exact expire_keeps kept now'
  · exact expire_keeps kept now

theorem interceptor_keeps (kept : Kept discipline holds) (now : holds trace)
    (refreshed : config.retriedAfterRefresh = false →
      RequestKeeps discipline holds { config with retriedAfterRefresh := true })
    (rotated : config.retriedAfterRotation = false →
      RequestKeeps discipline holds { config with retriedAfterRotation := true })
    (exhausted : config.retriedAfterRefresh = false → config.retriedAfterRotation = false →
      RequestKeeps discipline holds
        { config with retriedAfterRefresh := true, retriedAfterRotation := true }) :
    (interceptor config error).Meets discipline (fun _ later => holds later) trace := by
  rw [interceptor]
  split
  · exact now
  · split
    · rename_i fresh
      have joined := kept.refresh trace now
      refine ⟨joined.1, fun promise _ => ⟨(joined.2 promise).1, fun succeeded _ => ?_⟩⟩
      have now' := (joined.2 promise).2 succeeded
      beta_reduce
      split
      · rw [Program.meets_resume]
        refine (refreshed fresh.2 _ now').mono fun result later _ holdsThen => ?_
        cases result with
        | ok response => exact holdsThen
        | error error' => exact afterRotation_keeps kept holdsThen (exhausted fresh.2)
      · exact afterRotation_keeps kept now' rotated
    · exact afterRotation_keeps kept now rotated

theorem api_keeps (kept : Kept discipline holds) : RequestKeeps discipline holds config := by
  -- on the retries that the flags leave
  induction left : config.unset using Nat.strongRecOn generalizing config with
  | _ n ih =>
    subst left
    intro trace now
    rw [api]
    have sent := kept.send trace config now
    refine ⟨sent.1, fun answer _ => ?_⟩
    match answer with
    | .ok response => exact sent.2 _
    | .error error =>
      refine interceptor_keeps kept (sent.2 _) ?_ ?_ ?_
      · intro fresh
        have less := config.unset_refreshed fresh
        exact ih _ (by omega) rfl
      · intro fresh
        have less := config.unset_rotated fresh
        exact ih _ (by omega) rfl
      · intro fresh fresh'
        have less := config.unset_refreshed fresh
        have less' := RequestConfig.unset_rotated { config with retriedAfterRefresh := true } fresh'
        simp only at less'
        exact ih _ (by omega) rfl

end Interceptor

/-! ## What the programs keep -/

/-- A request awaits only what it has just been given, and a refresh is settled once, by its task. -/
def promising (request : Request) : Discipline Reply where
  allows trace call :=
    match call with
    | .awaitRefresh promise => trace.head? = some ⟨.refreshSession, promise⟩
    | .awaitRotation promise => ∃ recent, trace.head? = some ⟨.checkRotation, some promise, recent⟩
    | .claimRefresh => request = .refresh ∧ trace = []
    | .settleRefresh promise _ => ⟨.claimRefresh, promise⟩ ∈ trace ∧
        ∀ succeeded, (⟨.settleRefresh promise succeeded, ()⟩ : Event) ∉ trace
    | _ => True
  answers _ _ := True

/-- What the program has begun for others to wait for, it has settled. -/
structure Settled (trace : List Event) : Prop where
  rotation : ∀ promise, (⟨.trackRotation, promise⟩ : Event) ∈ trace →
    (⟨.settleRotation promise, ()⟩ : Event) ∈ trace
  refresh : ∀ promise, (⟨.claimRefresh, promise⟩ : Event) ∈ trace →
    ∃ succeeded, (⟨.settleRefresh promise succeeded, ()⟩ : Event) ∈ trace

/-- The call neither begins nor settles what others wait for. -/
def Call.neutral : Call → Prop
  | .claimRefresh | .settleRefresh _ _ | .trackRotation | .settleRotation _ => False
  | _ => True

/-- Only neutral calls were made since. -/
def Since (base trace : List Event) : Prop :=
  ∀ event : Event, ¬ event.1.neutral → (event ∈ trace ↔ event ∈ base)

section Programs

variable {base trace : List Event}

theorem mem_earlier {event last : Event} (member : event ∈ last :: trace)
    (differs : event.1 ≠ last.1) : event ∈ trace :=
  (List.mem_cons.mp member).resolve_left fun same => differs (congrArg Sigma.fst same)

theorem Since.refl : Since trace trace :=
  fun _ _ => Iff.rfl

theorem Since.cons (since : Since base trace) (event : Event) (isNeutral : event.1.neutral) :
    Since base (event :: trace) := by
  intro other notNeutral
  rw [List.mem_cons, since other notNeutral]
  refine or_iff_right fun same => notNeutral ?_
  rw [same]
  exact isNeutral

theorem since_kept (request : Request) (base : List Event) :
    Kept (promising request) (Since base) where
  send _ _ since := ⟨trivial, fun _ => since.cons _ trivial⟩
  refresh _ since :=
    ⟨trivial, fun promise =>
      ⟨rfl, fun _ => (since.cons ⟨.refreshSession, promise⟩ trivial).cons _ trivial⟩⟩
  check _ since := ⟨trivial, fun _ => since.cons _ trivial⟩
  await _ _ recent since := ⟨⟨recent, rfl⟩, since.cons ⟨.awaitRotation _, ()⟩ trivial⟩
  expire _ since := ⟨trivial, since.cons _ trivial⟩

/-- A request leaves what others wait for alone. -/
theorem api_since (request : Request) (config : RequestConfig) :
    (api config).Meets (promising request) (fun _ later => Since trace later) trace :=
  api_keeps (since_kept request trace) trace .refl

theorem handle_settled (request : Request) :
    (handle request).Meets (promising request) (fun _ trace => Settled trace) [] := by
  cases request with
  | api url =>
    rw [handle, Program.meets_resume]
    refine (api_since _ _).mono fun _ _ _ since => ⟨fun _ tracked => ?_, fun _ claimed => ?_⟩
    · exact absurd ((since _ id).mp tracked) List.not_mem_nil
    · exact absurd ((since _ id).mp claimed) List.not_mem_nil
  | rotating url =>
    refine ⟨trivial, fun promise _ => ?_⟩
    beta_reduce
    rw [Program.meets_resume]
    refine (api_since _ _).mono fun _ later _ since => ⟨trivial, fun _ _ => ⟨?_, ?_⟩⟩
    · intro other tracked
      have begun := (since _ id).mp (mem_earlier tracked nofun)
      cases List.mem_singleton.mp begun
      exact List.mem_cons_self
    · intro other claimed
      have begun := (since _ id).mp (mem_earlier claimed nofun)
      cases List.mem_singleton.mp begun
  | refresh =>
    refine ⟨⟨rfl, rfl⟩, fun promise _ => ⟨trivial, fun entered _ => ?_⟩⟩
    have settles : ∀ later, Since [⟨.enterCrossTabRefresh, entered⟩, ⟨.claimRefresh, promise⟩] later →
        ∀ (succeeded : Bool) (result : Except Rejection (Option Response)),
          (Program.call (Call.settleRefresh promise succeeded) fun _ => .done result :
            Service (Option Response)).Meets (promising .refresh) (fun _ trace => Settled trace)
              later := by
      intro later since succeeded result
      refine ⟨⟨(since _ id).mpr (by simp), fun _ earlier => ?_⟩, fun _ _ => ⟨?_, ?_⟩⟩
      · simpa using (since _ id).mp earlier
      · intro other tracked
        simpa using (since _ id).mp (mem_earlier tracked nofun)
      · intro other claimed
        have begun := (since _ id).mp (mem_earlier claimed nofun)
        obtain rfl : other = promise := by simpa using begun
        exact ⟨succeeded, List.mem_cons_self⟩
    match entered with
    | .ok true => exact settles _ .refl _ _
    | .error failure => exact settles _ .refl _ _
    | .ok false =>
      beta_reduce
      rw [Program.meets_resume]
      refine (api_since _ _).mono fun result later _ since => ?_
      match result with
      | .ok response => exact settles _ since _ _
      | .error error => exact settles _ since _ _

theorem system_promising : system.Obeys promising fun _ _ trace => Settled trace where
  programs := handle_settled
  answers _ _ _ _ _ _ := trivial

end Programs

/-! ## What is in flight -/

/-- Nothing is in flight, as on a page that has just loaded. -/
structure Page.Idle (page : Page) : Prop where
  refresh : page.refreshInFlight = none
  unclaimed : page.unclaimedRefresh = none
  rotation : page.pendingRotation = none

def Page.Refreshed (page : Page) (promise : Nat) : Prop :=
  ∃ succeeded, (promise, succeeded) ∈ page.settledRefreshes

/-- Of the refreshes that were begun all but one are settled, each by the one task that has claimed
it. -/
structure Flights (page : Page) (history : List (Nat × Event)) : Prop where
  started : ∀ thread promise, (thread, ⟨.refreshSession, promise⟩) ∈ history →
    page.Refreshed promise ∨ page.refreshInFlight = some promise
  taken : ∀ promise, page.refreshInFlight = some promise →
    page.unclaimedRefresh = some promise ∨ ∃ thread, (thread, ⟨.claimRefresh, promise⟩) ∈ history
  claimed : ∀ thread promise, (thread, ⟨.claimRefresh, promise⟩) ∈ history →
    (∃ succeeded, (thread, ⟨.settleRefresh promise succeeded, ()⟩) ∈ history) ∨
      page.refreshInFlight = some promise
  unique : ∀ thread other promise, (thread, ⟨.claimRefresh, promise⟩) ∈ history →
    (other, ⟨.claimRefresh, promise⟩) ∈ history → thread = other
  unclaimed : ∀ promise, page.unclaimedRefresh = some promise →
    page.refreshInFlight = some promise ∧ promise < page.nextRefresh ∧
      ∀ thread, (thread, ⟨.claimRefresh, promise⟩) ∉ history
  numbered : ∀ thread promise, (thread, ⟨.claimRefresh, promise⟩) ∈ history →
    promise < page.nextRefresh
  refreshed : ∀ thread promise succeeded,
    (thread, ⟨.settleRefresh promise succeeded, ()⟩) ∈ history → page.Refreshed promise

/-- Rotations that were found pending are tracked, and those whose requests have ended are settled. -/
structure Rotations (page : Page) (history : List (Nat × Event)) : Prop where
  pending : ∀ promise, page.pendingRotation = some promise →
    ∃ thread, (thread, ⟨.trackRotation, promise⟩) ∈ history
  found : ∀ thread promise recent, (thread, ⟨.checkRotation, some promise, recent⟩) ∈ history →
    ∃ other, (other, ⟨.trackRotation, promise⟩) ∈ history
  settled : ∀ thread promise, (thread, ⟨.settleRotation promise, ()⟩) ∈ history →
    promise ∈ page.settledRotations

section Flights

variable {page page' : Page} {history : List (Nat × Event)} {actor promise : Nat}

theorem mem_older {thread : Nat} {event last : Event} (member : (thread, event) ∈ (actor, last) :: history)
    (differs : event.1 ≠ last.1) : (thread, event) ∈ history :=
  (List.mem_cons.mp member).resolve_left fun same =>
    differs (congrArg (fun entry => entry.2.1) same)

def Call.isAboutRefresh : Call → Bool
  | .refreshSession | .claimRefresh | .settleRefresh _ _ => true
  | _ => false

/-- Nothing has happened to the refreshes. -/
structure Page.SameRefreshes (page page' : Page) : Prop where
  inFlight : page'.refreshInFlight = page.refreshInFlight
  unclaimed : page'.unclaimedRefresh = page.unclaimedRefresh
  settled : page'.settledRefreshes = page.settledRefreshes
  next : page'.nextRefresh = page.nextRefresh

structure Page.SamePromises (page page' : Page) : Prop extends page.SameRefreshes page' where
  pending : page'.pendingRotation = page.pendingRotation
  settledRotations : page'.settledRotations = page.settledRotations

theorem Flights.same (flights : Flights page history) (same : page.SameRefreshes page') :
    Flights page' history := by
  obtain ⟨inFlight, unclaimed, settled, next⟩ := same
  constructor
  · rw [inFlight]
    simpa only [Page.Refreshed, settled] using flights.started
  · rw [inFlight, unclaimed]
    exact flights.taken
  · rw [inFlight]
    exact flights.claimed
  · exact flights.unique
  · rw [inFlight, unclaimed, next]
    exact flights.unclaimed
  · rw [next]
    exact flights.numbered
  · simpa only [Page.Refreshed, settled] using flights.refreshed

theorem Flights.pass (flights : Flights page history) (event : Event)
    (other : event.1.isAboutRefresh = false) : Flights page ((actor, event) :: history) := by
  have differs : ∀ call : Call, call.isAboutRefresh = true → call ≠ event.1 := by
    intro call isAbout same
    rw [same, other] at isAbout
    cases isAbout
  constructor
  · exact fun thread promise member =>
      flights.started thread promise (mem_older member (differs _ rfl))
  · exact fun promise inFlight => (flights.taken promise inFlight).imp_right
      fun ⟨thread, member⟩ => ⟨thread, List.mem_cons_of_mem _ member⟩
  · intro thread promise member
    exact (flights.claimed thread promise (mem_older member (differs _ rfl))).imp_left
      fun ⟨succeeded, member'⟩ => ⟨succeeded, List.mem_cons_of_mem _ member'⟩
  · exact fun thread other promise member member' => flights.unique thread other promise
      (mem_older member (differs _ rfl)) (mem_older member' (differs _ rfl))
  · intro promise isUnclaimed
    obtain ⟨inFlight, less, nobody⟩ := flights.unclaimed promise isUnclaimed
    exact ⟨inFlight, less, fun thread member =>
      nobody thread (mem_older member (differs _ rfl))⟩
  · exact fun thread promise member =>
      flights.numbered thread promise (mem_older member (differs _ rfl))
  · exact fun thread promise succeeded member =>
      flights.refreshed thread promise succeeded (mem_older member (differs _ rfl))

/-- A refresh that is in flight is joined, and otherwise a new one begun. -/
theorem Flights.join (flights : Flights page history) :
    Flights page.refreshSession.2
      ((actor, ⟨.refreshSession, page.refreshSession.1⟩) :: history) := by
  unfold Page.refreshSession
  split
  · rename_i promise inFlight
    constructor
    · intro thread other member
      rcases List.mem_cons.mp member with same | older
      · cases same
        exact Or.inr inFlight
      · exact flights.started thread other older
    · exact fun other isOther => (flights.taken other isOther).imp_right
        fun ⟨thread, member⟩ => ⟨thread, List.mem_cons_of_mem _ member⟩
    · intro thread other member
      exact (flights.claimed thread other (mem_older member nofun)).imp_left
        fun ⟨succeeded, member'⟩ => ⟨succeeded, List.mem_cons_of_mem _ member'⟩
    · exact fun thread other promise member member' => flights.unique thread other promise
        (mem_older member nofun) (mem_older member' nofun)
    · intro other isUnclaimed
      obtain ⟨inFlight', less, nobody⟩ := flights.unclaimed other isUnclaimed
      exact ⟨inFlight', less, fun thread member => nobody thread (mem_older member nofun)⟩
    · exact fun thread other member => flights.numbered thread other (mem_older member nofun)
    · exact fun thread other succeeded member =>
        flights.refreshed thread other succeeded (mem_older member nofun)
  · rename_i idle
    have landed : ∀ other, page.refreshInFlight ≠ some other := by
      intro other inFlight
      rw [idle] at inFlight
      cases inFlight
    constructor
    · intro thread other member
      rcases List.mem_cons.mp member with same | older
      · cases same
        exact Or.inr rfl
      · exact Or.inl ((flights.started thread other older).resolve_right (landed other))
    · intro other isOther
      exact Or.inl isOther
    · intro thread other member
      obtain ⟨succeeded, member'⟩ :=
        (flights.claimed thread other (mem_older member nofun)).resolve_right (landed other)
      exact Or.inl ⟨succeeded, List.mem_cons_of_mem _ member'⟩
    · exact fun thread other promise member member' => flights.unique thread other promise
        (mem_older member nofun) (mem_older member' nofun)
    · intro other isUnclaimed
      obtain rfl := Option.some.inj isUnclaimed
      refine ⟨rfl, Nat.lt_succ_self _, fun thread member => ?_⟩
      exact Nat.lt_irrefl _ (flights.numbered thread _ (mem_older member nofun))
    · intro thread other member
      exact Nat.lt_succ_of_lt (flights.numbered thread other (mem_older member nofun))
    · exact fun thread other succeeded member =>
        flights.refreshed thread other succeeded (mem_older member nofun)

theorem Flights.claim (flights : Flights page history)
    (isUnclaimed : page.unclaimedRefresh = some promise) :
    Flights { page with unclaimedRefresh := none }
      ((actor, ⟨.claimRefresh, promise⟩) :: history) := by
  obtain ⟨inFlight, less, nobody⟩ := flights.unclaimed promise isUnclaimed
  have claims : ∀ thread other, (thread, (⟨.claimRefresh, other⟩ : Event)) ∈
      (actor, ⟨.claimRefresh, promise⟩) :: history →
        thread = actor ∧ other = promise ∨ (thread, (⟨.claimRefresh, other⟩ : Event)) ∈ history := by
    intro thread other member
    rcases List.mem_cons.mp member with same | older
    · cases same
      exact Or.inl ⟨rfl, rfl⟩
    · exact Or.inr older
  constructor
  · exact fun thread other member => flights.started thread other (mem_older member nofun)
  · intro other isOther
    obtain rfl := Option.some.inj (inFlight.symm.trans isOther)
    exact Or.inr ⟨actor, List.mem_cons_self⟩
  · intro thread other member
    rcases claims thread other member with ⟨-, rfl⟩ | older
    · exact Or.inr inFlight
    · exact (flights.claimed thread other older).imp_left
        fun ⟨succeeded, member'⟩ => ⟨succeeded, List.mem_cons_of_mem _ member'⟩
  · intro thread other number member member'
    rcases claims thread number member with ⟨rfl, rfl⟩ | older
    · rcases claims other number member' with ⟨rfl, -⟩ | older'
      · rfl
      · exact absurd older' (nobody other)
    · rcases claims other number member' with ⟨rfl, rfl⟩ | older'
      · exact absurd older (nobody thread)
      · exact flights.unique thread other number older older'
  · nofun
  · intro thread other member
    rcases claims thread other member with ⟨-, rfl⟩ | older
    · exact less
    · exact flights.numbered thread other older
  · exact fun thread other succeeded member =>
      flights.refreshed thread other succeeded (mem_older member nofun)

theorem Flights.settle (flights : Flights page history) {succeeded : Bool}
    (isClaimed : (actor, ⟨.claimRefresh, promise⟩) ∈ history)
    (open' : ∀ succeeded, (actor, (⟨.settleRefresh promise succeeded, ()⟩ : Event)) ∉ history) :
    Flights (page.settleRefresh promise succeeded)
      ((actor, ⟨.settleRefresh promise succeeded, ()⟩) :: history) := by
  have inFlight : page.refreshInFlight = some promise :=
    (flights.claimed actor promise isClaimed).resolve_left fun ⟨succeeded, member⟩ =>
      open' succeeded member
  have settled : (page.settleRefresh promise succeeded).Refreshed promise :=
    ⟨succeeded, List.mem_cons_self⟩
  have keeps : ∀ other, page.Refreshed other →
      (page.settleRefresh promise succeeded).Refreshed other :=
    fun other ⟨result, member⟩ => ⟨result, List.mem_cons_of_mem _ member⟩
  constructor
  · intro thread other member
    refine Or.inl ?_
    rcases flights.started thread other (mem_older member nofun) with already | isOther
    · exact keeps other already
    · obtain rfl := Option.some.inj (inFlight.symm.trans isOther)
      exact settled
  · nofun
  · intro thread other member
    refine Or.inl ?_
    have older := mem_older member nofun
    rcases flights.claimed thread other older with ⟨result, member'⟩ | isOther
    · exact ⟨result, List.mem_cons_of_mem _ member'⟩
    · obtain rfl := Option.some.inj (inFlight.symm.trans isOther)
      obtain rfl := flights.unique thread actor promise older isClaimed
      exact ⟨succeeded, List.mem_cons_self⟩
  · exact fun thread other number member member' => flights.unique thread other number
      (mem_older member nofun) (mem_older member' nofun)
  · intro other isUnclaimed
    obtain ⟨isOther, -, nobody⟩ := flights.unclaimed other isUnclaimed
    obtain rfl := Option.some.inj (inFlight.symm.trans isOther)
    exact absurd isClaimed (nobody actor)
  · exact fun thread other member => flights.numbered thread other (mem_older member nofun)
  · intro thread other result member
    rcases List.mem_cons.mp member with same | older
    · cases same
      exact settled
    · exact keeps other (flights.refreshed thread other result older)

end Flights

/-! ## Every run -/

section Runs

variable {page : Page} {config : Browser} {permits : Browser → Nat → Event → Prop}

theorem disturb_samePromises (event : Environment) (page : Page) :
    page.SamePromises (disturb event page) := by
  cases event <;> exact ⟨⟨rfl, rfl, rfl, rfl⟩, rfl, rfl⟩

/-- A neutral call changes no promise, unless it begins a refresh. -/
theorem outcomes_samePromises (thread : Nat) {call : Call} {outcome : Reply call × Page}
    {page : Page} (possible : outcome ∈ outcomes thread call page) (isNeutral : call.neutral)
    (other : call ≠ .refreshSession) : page.SamePromises outcome.2 := by
  cases call with
  | refreshSession => exact absurd rfl other
  | claimRefresh | settleRefresh promise succeeded | trackRotation | settleRotation promise =>
    exact isNeutral.elim
  | send config =>
    rw [List.mem_singleton.mp possible, Page.respond]
    split
    · exact ⟨⟨rfl, rfl, rfl, rfl⟩, rfl, rfl⟩
    · split <;> exact ⟨⟨rfl, rfl, rfl, rfl⟩, rfl, rfl⟩
  | awaitRefresh promise =>
    simp only [outcomes] at possible
    split at possible
    · cases possible
    · rw [List.mem_singleton.mp possible]
      exact ⟨⟨rfl, rfl, rfl, rfl⟩, rfl, rfl⟩
  | awaitRotation promise =>
    simp only [outcomes] at possible
    split at possible
    · rw [List.mem_singleton.mp possible]
      exact ⟨⟨rfl, rfl, rfl, rfl⟩, rfl, rfl⟩
    · cases possible
  | enterCrossTabRefresh =>
    simp only [outcomes, List.mem_cons, List.not_mem_nil, or_false] at possible
    rcases possible with rfl | rfl | rfl <;> exact ⟨⟨rfl, rfl, rfl, rfl⟩, rfl, rfl⟩
  | checkRotation | markUnauthenticated =>
    rw [List.mem_singleton.mp possible]
    exact ⟨⟨rfl, rfl, rfl, rfl⟩, rfl, rfl⟩

theorem flights_of_run (idle : page.Idle) (run : Reaches system permits (Config.start page) config) :
    Flights config.state config.history := by
  refine run.keeps Flights ?_ ?_ ?_
  · have noEntry : ∀ entry : Nat × Event,
        entry ∉ (Config.start page : Browser).history := fun _ => List.not_mem_nil
    constructor
    · exact fun _ _ member => absurd member (noEntry _)
    · intro promise inFlight
      exact absurd (idle.refresh.symm.trans inFlight) nofun
    · exact fun _ _ member => absurd member (noEntry _)
    · exact fun _ _ _ member => absurd member (noEntry _)
    · intro promise isUnclaimed
      exact absurd (idle.unclaimed.symm.trans isUnclaimed) nofun
    · exact fun _ _ member => absurd member (noEntry _)
    · exact fun _ _ _ member => absurd member (noEntry _)
  · intro event state _ holds
    exact holds.same (disturb_samePromises event state).toSameRefreshes
  · intro before after thread event earlier answers holds
    obtain ⟨call, reply⟩ := event
    obtain ⟨request, next, running⟩ := answers.running
    have allowed := (earlier.disciplined system_promising page).allows running
    have possible := answers.possible
    cases call with
    | refreshSession =>
      obtain ⟨rfl, isAfter⟩ := Prod.mk.inj (List.mem_singleton.mp possible)
      rw [isAfter]
      exact holds.join
    | claimRefresh =>
      simp only [system, outcomes] at possible
      split at possible
      · cases possible
      · rename_i promise isUnclaimed
        obtain ⟨rfl, isAfter⟩ := Prod.mk.inj (List.mem_singleton.mp possible)
        rw [isAfter]
        exact holds.claim isUnclaimed
    | settleRefresh promise succeeded =>
      obtain ⟨-, isAfter⟩ := Prod.mk.inj (List.mem_singleton.mp possible)
      rw [isAfter]
      refine holds.settle ((Config.mem_trace _ _).mp allowed.1) fun result member => ?_
      exact allowed.2 result ((Config.mem_trace _ _).mpr member)
    | trackRotation | settleRotation promise =>
      obtain ⟨-, isAfter⟩ := Prod.mk.inj (List.mem_singleton.mp possible)
      rw [isAfter]
      exact (holds.pass _ rfl).same ⟨rfl, rfl, rfl, rfl⟩
    | send _ | awaitRefresh _ | checkRotation | awaitRotation _ | markUnauthenticated
    | enterCrossTabRefresh =>
      exact (holds.pass _ rfl).same
        (outcomes_samePromises thread possible trivial nofun).toSameRefreshes

theorem Rotations.same {page' : Page} {history : List (Nat × Event)}
    (rotations : Rotations page history) (pending : page'.pendingRotation = page.pendingRotation)
    (settled : page'.settledRotations = page.settledRotations) : Rotations page' history := by
  constructor
  · rw [pending]
    exact rotations.pending
  · exact rotations.found
  · rw [settled]
    exact rotations.settled

/-- What is tracked stays tracked. -/
theorem Rotations.add {page' : Page} {history : List (Nat × Event)} {actor : Nat} {event : Event}
    (rotations : Rotations page history)
    (pending : ∀ promise, page'.pendingRotation = some promise →
      page.pendingRotation = some promise ∨ event = ⟨.trackRotation, promise⟩)
    (found : ∀ promise recent, event = ⟨.checkRotation, some promise, recent⟩ →
      page.pendingRotation = some promise)
    (settled : ∀ promise, promise ∈ page.settledRotations ∨
      event = ⟨.settleRotation promise, ()⟩ → promise ∈ page'.settledRotations) :
    Rotations page' ((actor, event) :: history) := by
  constructor
  · intro promise isPending
    rcases pending promise isPending with before | rfl
    · obtain ⟨thread, member⟩ := rotations.pending promise before
      exact ⟨thread, List.mem_cons_of_mem _ member⟩
    · exact ⟨actor, List.mem_cons_self⟩
  · intro thread promise recent member
    have tracked : ∃ other, (other, (⟨.trackRotation, promise⟩ : Event)) ∈ history := by
      rcases List.mem_cons.mp member with same | older
      · exact rotations.pending promise (found promise recent (Prod.mk.inj same).2.symm)
      · exact rotations.found thread promise recent older
    obtain ⟨other, member'⟩ := tracked
    exact ⟨other, List.mem_cons_of_mem _ member'⟩
  · intro thread promise member
    rcases List.mem_cons.mp member with same | older
    · exact settled promise (Or.inr (Prod.mk.inj same).2.symm)
    · exact settled promise (Or.inl (rotations.settled thread promise older))

theorem Rotations.pass {page' : Page} {history : List (Nat × Event)} {actor : Nat}
    (rotations : Rotations page history) (event : Event)
    (pending : page'.pendingRotation = page.pendingRotation)
    (settled : page'.settledRotations = page.settledRotations) (noCheck : event.1 ≠ .checkRotation)
    (noSettle : ∀ promise, event.1 ≠ .settleRotation promise) :
    Rotations page' ((actor, event) :: history) := by
  refine (rotations.same pending settled).add (fun _ isPending => Or.inl isPending) ?_ ?_
  · exact fun promise recent same => absurd (congrArg Sigma.fst same) noCheck
  · exact fun promise isSettled => isSettled.resolve_right fun same =>
      noSettle promise (congrArg Sigma.fst same)

theorem rotations_of_run (idle : page.Idle)
    (run : Reaches system permits (Config.start page) config) :
    Rotations config.state config.history := by
  refine run.keeps Rotations ?_ ?_ ?_
  · constructor
    · intro promise isPending
      exact absurd (idle.rotation.symm.trans isPending) nofun
    · exact fun _ _ _ member => absurd member List.not_mem_nil
    · exact fun _ _ member => absurd member List.not_mem_nil
  · intro event state _ holds
    have same := disturb_samePromises event state
    exact holds.same same.pending same.settledRotations
  · intro before after thread event _ answers holds
    obtain ⟨call, reply⟩ := event
    have possible := answers.possible
    cases call with
    | trackRotation =>
      obtain ⟨rfl, isAfter⟩ := Prod.mk.inj (List.mem_singleton.mp possible)
      rw [isAfter]
      refine holds.add (fun promise isPending => Or.inr ?_) nofun fun promise settled => ?_
      · obtain rfl := Option.some.inj isPending
        rfl
      · exact settled.resolve_right nofun
    | settleRotation promise =>
      obtain ⟨-, isAfter⟩ := Prod.mk.inj (List.mem_singleton.mp possible)
      rw [isAfter]
      refine holds.add (fun other isPending => Or.inl ?_) nofun fun other settled => ?_
      · simp only [Page.settleRotation] at isPending
        split at isPending
        · cases isPending
        · exact isPending
      · rcases settled with already | same
        · exact List.mem_cons_of_mem _ already
        · cases same
          exact List.mem_cons_self
    | checkRotation =>
      obtain ⟨rfl, isAfter⟩ := Prod.mk.inj (List.mem_singleton.mp possible)
      rw [isAfter]
      refine holds.add (fun _ isPending => Or.inl isPending) ?_ fun _ settled =>
        settled.resolve_right nofun
      exact fun promise recent same => congrArg Prod.fst (eq_of_heq (Sigma.mk.inj same).2)
    | refreshSession =>
      have isAfter : after.state = before.state.refreshSession.2 :=
        congrArg Prod.snd (List.mem_singleton.mp possible)
      refine holds.pass _ ?_ ?_ nofun nofun
      · rw [isAfter, Page.refreshSession]
        split <;> rfl
      · rw [isAfter, Page.refreshSession]
        split <;> rfl
    | claimRefresh =>
      simp only [system, outcomes] at possible
      split at possible
      · cases possible
      · obtain ⟨-, isAfter⟩ := Prod.mk.inj (List.mem_singleton.mp possible)
        rw [isAfter]
        exact holds.pass _ rfl rfl nofun nofun
    | settleRefresh promise succeeded =>
      obtain ⟨-, isAfter⟩ := Prod.mk.inj (List.mem_singleton.mp possible)
      rw [isAfter]
      exact holds.pass _ rfl rfl nofun nofun
    | send _ | awaitRefresh _ | awaitRotation _ | markUnauthenticated | enterCrossTabRefresh =>
      have same := outcomes_samePromises thread possible trivial nofun
      exact holds.pass _ same.pending same.settledRotations nofun nofun

end Runs

end MysticAuth.AuthInterceptor
