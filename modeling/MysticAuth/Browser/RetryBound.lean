import MysticAuth.Browser.AuthInterceptor
import MysticAuth.Interleaving.CallBounds

/-!
# How often a request is sent

The two flags of a request are set on its own configuration, and a retry runs
with a copy.  A retry after a refresh that finds a rotation is therefore sent
once more, and so is the request that it was a retry of.
-/

set_option autoImplicit false

namespace MysticAuth.AuthInterceptor

open Interleaving

/-! ## Counting -/

def isSend (event : Event) : Bool :=
  match event with
  | ⟨.send _, _⟩ => true
  | _ => false

/-- The request has found a rotation pending or recent. -/
def seesRotation (event : Event) : Bool :=
  match event with
  | ⟨.checkRotation, pending, recent⟩ => pending.isSome || recent
  | _ => false

def sends (trace : List Event) : Nat :=
  trace.countP isSend

def rotationsSeen (trace : List Event) : Nat :=
  trace.countP seesRotation

/-- Up to here the request was sent, and has seen a rotation, so many times. -/
structure Counts (sent seen : Nat) (trace : List Event) : Prop where
  sends : sends trace = sent
  rotationsSeen : rotationsSeen trace = seen

section Counts

variable {sent seen : Nat} {trace : List Event}

theorem counts_nil : Counts 0 0 [] :=
  ⟨rfl, rfl⟩

theorem Counts.send (counts : Counts sent seen trace) (config : RequestConfig)
    (answer : Except Rejection Response) :
    Counts (sent + 1) seen (⟨.send config, answer⟩ :: trace) where
  sends := by
    rw [AuthInterceptor.sends, List.countP_cons_of_pos rfl]
    exact congrArg (· + 1) counts.sends
  rotationsSeen := counts.rotationsSeen

theorem Counts.sees (counts : Counts sent seen trace) (event : Event)
    (sees : seesRotation event = true) (noSend : isSend event = false) :
    Counts sent (seen + 1) (event :: trace) where
  sends := by
    rw [AuthInterceptor.sends, List.countP_cons_of_neg (by simp [noSend])]
    exact counts.sends
  rotationsSeen := by
    rw [AuthInterceptor.rotationsSeen, List.countP_cons_of_pos sees]
    exact congrArg (· + 1) counts.rotationsSeen

theorem Counts.quiet (counts : Counts sent seen trace) (event : Event)
    (noSend : isSend event = false) (noRotation : seesRotation event = false) :
    Counts sent seen (event :: trace) where
  sends := by
    rw [AuthInterceptor.sends, List.countP_cons_of_neg (by simp [noSend])]
    exact counts.sends
  rotationsSeen := by
    rw [AuthInterceptor.rotationsSeen, List.countP_cons_of_neg (by simp [noRotation])]
    exact counts.rotationsSeen

end Counts

/-! ## What the interceptor sends -/

/-- Only a request that has seen two rotations is sent a fourth time, and none a fifth time. -/
def MaySend (sent seen : Nat) : Prop :=
  sent ≤ 3 ∧ (seen ≤ 1 → sent ≤ 2)

instance (sent seen : Nat) : Decidable (MaySend sent seen) :=
  inferInstanceAs (Decidable (_ ∧ _))

def sending : Discipline Reply where
  allows trace call := ∀ config, call = .send config → MaySend (sends trace) (rotationsSeen trace)
  answers _ _ := True

/-- Whatever a program returns, the counts have the property then. -/
def Counted (property : Nat → Nat → Prop) {α : Type} (_ : Except Rejection α)
    (trace : List Event) : Prop :=
  property (sends trace) (rotationsSeen trace)

section Interceptor

variable {property : Nat → Nat → Prop} {config : RequestConfig} {error : Rejection}
variable {sent seen : Nat} {trace : List Event} {url : Option String}

theorem Counts.counted {α : Type} (counts : Counts sent seen trace) (holds : property sent seen)
    (result : Except Rejection α) : Counted property result trace := by
  rw [Counted, counts.sends, counts.rotationsSeen]
  exact holds

theorem expire_counted (counts : Counts sent seen trace) (holds : property sent seen) :
    (expire error).Meets sending (Counted property) trace :=
  ⟨nofun, fun _ _ => (counts.quiet _ rfl rfl).counted holds _⟩

theorem afterRotation_counted (counts : Counts sent seen trace) (holds : property sent seen)
    (retry : config.retriedAfterRotation = false → ∀ later, Counts sent (seen + 1) later →
      (api { config with retriedAfterRotation := true }).Meets sending (Counted property) later) :
    (afterRotation config error).Meets sending (Counted property) trace := by
  rw [afterRotation]
  split
  · rename_i fresh
    refine ⟨nofun, fun rotation _ => ?_⟩
    beta_reduce
    split
    · rename_i sees
      have again : ∀ later, Counts sent (seen + 1) later →
          ((api { config with retriedAfterRotation := true }).resume (orExpire error)).Meets sending
            (Counted property) later := by
        intro later counts'
        rw [Program.meets_resume]
        refine (retry fresh later counts').mono fun result last _ counted => ?_
        cases result with
        | ok response => exact counted
        | error error' => exact expire_counted ⟨rfl, rfl⟩ counted
      have counts' := counts.sees ⟨.checkRotation, rotation⟩ sees rfl
      rw [Program.meets_resume]
      cases rotation.1 with
      | none => exact again _ counts'
      | some promise => exact ⟨nofun, fun _ _ => again _ (counts'.quiet _ rfl rfl)⟩
    · rename_i unseen
      exact expire_counted (counts.quiet _ rfl (Bool.eq_false_iff.mpr unseen)) holds
  · exact expire_counted counts holds

/-- A refreshed retry that fails leaves the attempt after a rotation. -/
theorem interceptor_counted (middle : Nat → Nat → Prop) (counts : Counts sent seen trace)
    (isUnauthorized : error.status = some 401)
    (retry : config.retriedAfterRefresh = false → ∀ later, Counts sent seen later →
      (api { config with retriedAfterRefresh := true }).Meets sending (Counted middle) later)
    (resumed : ∀ sent seen, middle sent seen → property sent seen ∧ ∀ later,
      Counts sent seen later → (afterRotation { config with retriedAfterRefresh := true } error).Meets
        sending (Counted property) later)
    (unrefreshed : ∀ later, Counts sent seen later →
      (afterRotation config error).Meets sending (Counted property) later) :
    (interceptor config error).Meets sending (Counted property) trace := by
  rw [interceptor, if_neg (not_not_intro isUnauthorized)]
  split
  · rename_i fresh
    refine ⟨nofun, fun promise _ => ⟨nofun, fun succeeded _ => ?_⟩⟩
    have counts' : Counts sent seen
        (⟨.awaitRefresh promise, succeeded⟩ :: ⟨.refreshSession, promise⟩ :: trace) :=
      (counts.quiet ⟨.refreshSession, promise⟩ rfl rfl).quiet _ rfl rfl
    beta_reduce
    split
    · rw [Program.meets_resume]
      refine (retry fresh.2 _ counts').mono fun result later _ counted => ?_
      match result with
      | .ok response => exact (resumed _ _ counted).1
      | .error error' => exact (resumed _ _ counted).2 later ⟨rfl, rfl⟩
    · exact unrefreshed _ counts'
  · exact unrefreshed trace counts

theorem api_counted (counts : Counts sent seen trace) (may : MaySend sent seen)
    (holds : property (sent + 1) seen)
    (intercepted : ∀ error later, error.status = some 401 → Counts (sent + 1) seen later →
      (interceptor config error).Meets sending (Counted property) later) :
    (api config).Meets sending (Counted property) trace := by
  rw [api]
  refine ⟨fun _ _ => ?_, fun answer _ => ?_⟩
  · rw [counts.sends, counts.rotationsSeen]
    exact may
  · have counts' := counts.send config answer
    match answer with
    | .ok response => exact counts'.counted holds _
    | .error error =>
      by_cases isUnauthorized : error.status = some 401
      · exact intercepted error _ isUnauthorized counts'
      · change (interceptor config error).Meets sending _ _
        rw [interceptor, if_pos isUnauthorized]
        exact counts'.counted holds _

/-- A retry that was retried both ways is sent once. -/
theorem exhausted_counted (counts : Counts sent seen trace) (may : MaySend sent seen)
    (holds : property (sent + 1) seen) :
    (api ⟨url, true, true⟩).Meets sending (Counted property) trace := by
  refine api_counted counts may holds fun error later isUnauthorized counts' => ?_
  rw [interceptor, if_neg (not_not_intro isUnauthorized), if_neg (by simp)]
  exact afterRotation_counted counts' holds nofun

theorem refreshed_counted (counts : Counts 1 0 trace) (once : property 2 0)
    (again : property 3 1) :
    (api ⟨url, true, false⟩).Meets sending (Counted property) trace := by
  refine api_counted counts (by decide) once fun error later isUnauthorized counts' => ?_
  rw [interceptor, if_neg (not_not_intro isUnauthorized), if_neg (by simp)]
  refine afterRotation_counted counts' once fun _ last counts'' => ?_
  exact exhausted_counted counts'' (by decide) again

theorem rotated_counted (counts : Counts 1 1 trace) (once : property 2 1)
    (again : property 3 1) :
    (api ⟨url, false, true⟩).Meets sending (Counted property) trace := by
  refine api_counted counts (by decide) once fun error later isUnauthorized counts' => ?_
  refine interceptor_counted (fun sent seen => sent = 3 ∧ seen = 1) counts' isUnauthorized ?_ ?_ ?_
  · exact fun _ _ counts'' => exhausted_counted counts'' (by decide) ⟨rfl, rfl⟩
  · rintro _ _ ⟨rfl, rfl⟩
    exact ⟨again, fun _ counts'' => afterRotation_counted counts'' again nofun⟩
  · exact fun _ counts'' => afterRotation_counted counts'' once nofun

/-- The counts of a request that has finished. -/
def Sums (sent seen : Nat) : Prop :=
  sent ≤ 3 ∧ seen ≤ 1 ∨ sent = 4 ∧ seen = 2

instance (sent seen : Nat) : Decidable (Sums sent seen) :=
  inferInstanceAs (Decidable (_ ∨ _))

theorem plain_counted (counts : Counts 0 0 trace) :
    (api (.plain url)).Meets sending (Counted Sums) trace := by
  refine api_counted counts (by decide) (by decide) fun error later isUnauthorized counts' => ?_
  refine interceptor_counted (fun sent seen => sent = 2 ∧ seen = 0 ∨ sent = 3 ∧ seen = 1) counts'
    isUnauthorized ?_ ?_ ?_
  · exact fun _ _ counts'' => refreshed_counted counts'' (Or.inl ⟨rfl, rfl⟩) (Or.inr ⟨rfl, rfl⟩)
  · -- the retry may have been sent after a rotation itself; its copy of the flags is gone
    rintro _ _ (⟨rfl, rfl⟩ | ⟨rfl, rfl⟩)
    · refine ⟨by decide, fun _ counts'' => afterRotation_counted counts'' (by decide) ?_⟩
      exact fun _ _ third => exhausted_counted third (by decide) (by decide)
    · refine ⟨by decide, fun _ counts'' => afterRotation_counted counts'' (by decide) ?_⟩
      exact fun _ _ fourth => exhausted_counted fourth (by decide) (by decide)
  · intro last counts''
    refine afterRotation_counted counts'' (by decide) fun _ _ second => ?_
    exact rotated_counted second (by decide) (by decide)

end Interceptor

/-! ## How long a request can take -/

section Calls

variable {config : RequestConfig} {error : Rejection} {bound : Nat} {url : Option String}

theorem afterRotation_exhausted (exhausted : config.retriedAfterRotation = true) :
    afterRotation config error = expire error := by
  rw [afterRotation, if_neg (by simp [exhausted])]

theorem expire_atMost : (expire error).AtMost 1 :=
  fun _ => trivial

theorem afterRotation_atMost
    (retry : (api { config with retriedAfterRotation := true }).AtMost bound) :
    (afterRotation config error).AtMost (bound + 3) := by
  rw [afterRotation]
  split
  · refine fun rotation => ?_
    beta_reduce
    split
    · have waited : (awaitPending rotation.1).AtMost 1 := by
        cases rotation.1 with
        | none => trivial
        | some promise => exact fun _ => trivial
      have again : ((api { config with retriedAfterRotation := true }).resume
          (orExpire error)).AtMost (bound + 1) := by
        refine retry.resume fun result => ?_
        cases result with
        | ok response => trivial
        | error error' => exact expire_atMost
      exact (waited.resume fun _ => again).mono (by omega)
    · exact expire_atMost.mono (by omega)
  · exact expire_atMost.mono (by omega)

theorem interceptor_atMost {rest : Nat}
    (retry : (api { config with retriedAfterRefresh := true }).AtMost bound)
    (refreshed : (afterRotation { config with retriedAfterRefresh := true } error).AtMost rest)
    (unrefreshed : (afterRotation config error).AtMost (bound + rest)) :
    (interceptor config error).AtMost (bound + rest + 2) := by
  rw [interceptor]
  split
  · trivial
  · split
    · refine fun promise succeeded => ?_
      beta_reduce
      split
      · refine retry.resume fun result => ?_
        cases result with
        | ok response => trivial
        | error error' => exact refreshed
      · exact unrefreshed
    · exact unrefreshed.mono (by omega)

theorem api_atMost (intercepted : ∀ error, (interceptor config error).AtMost bound) :
    (api config).AtMost (bound + 1) := by
  rw [api]
  refine fun answer => ?_
  match answer with
  | .ok response => trivial
  | .error error => exact intercepted error

theorem exhausted_atMost : (api ⟨url, true, true⟩).AtMost 2 := by
  refine api_atMost fun error => ?_
  rw [interceptor]
  split
  · trivial
  · rw [if_neg (by simp), afterRotation_exhausted rfl]
    exact expire_atMost

theorem refreshed_atMost : (api ⟨url, true, false⟩).AtMost 6 := by
  refine api_atMost fun error => ?_
  rw [interceptor]
  split
  · trivial
  · rw [if_neg (by simp)]
    exact afterRotation_atMost exhausted_atMost

theorem rotated_atMost : (api ⟨url, false, true⟩).AtMost 6 := by
  refine api_atMost fun error => ?_
  have retry : (api { RequestConfig.mk url false true with retriedAfterRefresh := true }).AtMost 2 :=
    exhausted_atMost
  have ends : ∀ refreshed, (afterRotation ⟨url, refreshed, true⟩ error).AtMost 1 := by
    intro refreshed
    rw [afterRotation_exhausted rfl]
    exact expire_atMost
  exact interceptor_atMost retry (ends true) ((ends false).mono (by omega))

theorem plain_atMost : (api (.plain url)).AtMost 14 :=
  api_atMost fun _ => interceptor_atMost refreshed_atMost
    (afterRotation_atMost exhausted_atMost) ((afterRotation_atMost rotated_atMost).mono (by omega))

end Calls

/-! ## The programs of a page -/

theorem handle_counted (request : Request) :
    (handle request).Meets sending (Counted Sums) [] := by
  cases request with
  | api url =>
    rw [handle, Program.meets_resume]
    exact (plain_counted counts_nil).mono fun _ _ _ counted => counted
  | rotating url =>
    refine ⟨nofun, fun promise _ => ?_⟩
    beta_reduce
    rw [Program.meets_resume]
    have counts := counts_nil.quiet ⟨.trackRotation, promise⟩ rfl rfl
    refine (plain_counted counts).mono fun result later _ counted => ⟨nofun, fun _ _ => ?_⟩
    exact (Counts.quiet ⟨rfl, rfl⟩ ⟨.settleRotation promise, ()⟩ rfl rfl).counted counted _
  | refresh =>
    refine ⟨nofun, fun promise _ => ⟨nofun, fun entered _ => ?_⟩⟩
    have counts := (counts_nil.quiet ⟨.claimRefresh, promise⟩ rfl rfl).quiet
      ⟨.enterCrossTabRefresh, entered⟩ rfl rfl
    have settled : ∀ later, Counted Sums (.ok () : Except Rejection Unit) later → ∀ succeeded,
        ∀ result : Except Rejection (Option Response), (Program.call (.settleRefresh promise succeeded)
          fun _ => .done result : Service (Option Response)).Meets sending (Counted Sums) later := by
      intro later counted succeeded result
      refine ⟨nofun, fun _ _ => ?_⟩
      exact (Counts.quiet ⟨rfl, rfl⟩ ⟨.settleRefresh promise succeeded, ()⟩ rfl rfl).counted counted _
    match entered with
    | .ok true => exact settled _ (counts.counted (by decide) _) _ _
    | .error failure => exact settled _ (counts.counted (by decide) _) _ _
    | .ok false =>
      beta_reduce
      rw [Program.meets_resume]
      refine (plain_counted counts).mono fun result later _ counted => ?_
      match result with
      | .ok response => exact settled _ counted _ _
      | .error error => exact settled _ counted _ _

/-- A request, and the settling of a promise after it. -/
theorem plain_then_atMost {url : Option String}
    {rest : Except Rejection Response → Service (Option Response)}
    (tail : ∀ result, (rest result).AtMost 1) :
    ((api (.plain url)).resume rest).AtMost 15 :=
  plain_atMost.resume tail

theorem handle_atMost (request : Request) : (handle request).AtMost 17 := by
  cases request with
  | api url =>
    refine Program.AtMost.mono (plain_then_atMost fun result => ?_) (by omega)
    trivial
  | rotating url =>
    intro promise
    change Program.AtMost _ 16
    refine Program.AtMost.mono (plain_then_atMost fun result => ?_) (by omega)
    exact fun _ => trivial
  | refresh =>
    intro promise entered
    match entered with
    | .ok true => exact fun _ => trivial
    | .error failure => exact fun _ => trivial
    | .ok false =>
      refine plain_then_atMost fun result => ?_
      cases result with
      | ok response => exact fun _ => trivial
      | error error => exact fun _ => trivial

theorem system_sending : system.Obeys (fun _ => sending) fun _ => Counted Sums where
  programs := handle_counted
  answers _ _ _ _ _ _ := trivial

/-! ## Every run -/

section Runs

variable {page : Page} {config : Browser} {permits : Browser → Nat → Event → Prop}

/-- No request is sent a fifth time, and a fourth time only one that has seen two rotations. -/
theorem sends_le (run : Reaches system permits (Config.start page) config) (thread : Nat) :
    sends (config.trace thread) ≤ 4 ∧
      (rotationsSeen (config.trace thread) ≤ 1 → sends (config.trace thread) ≤ 3) := by
  rcases Nat.lt_or_ge thread config.threads.length with begun | fresh
  · refine run.traces system_sending
      (fun _ trace => sends trace ≤ 4 ∧ (rotationsSeen trace ≤ 1 → sends trace ≤ 3))
      (fun _ => by decide) (fun _ trace event allowed holds => ?_) (List.getElem?_eq_getElem begun)
    have counts : Counts (sends trace) (rotationsSeen trace) trace := ⟨rfl, rfl⟩
    cases isSent : isSend event with
    | false =>
      cases isSeen : seesRotation event with
      | false =>
        have counts' := counts.quiet event isSent isSeen
        rw [counts'.sends, counts'.rotationsSeen]
        exact holds
      | true =>
        have counts' := counts.sees event isSeen isSent
        rw [counts'.sends, counts'.rotationsSeen]
        exact ⟨holds.1, fun few => holds.2 (by omega)⟩
    | true =>
      obtain ⟨call, reply⟩ := event
      cases call with
      | send config =>
        have may := allowed config rfl
        have counts' := counts.send config reply
        rw [counts'.sends, counts'.rotationsSeen]
        exact ⟨Nat.succ_le_succ may.1, fun few => Nat.succ_le_succ (may.2 few)⟩
      | _ => cases isSent
  · rw [(run.attributed (Config.attributed_start page)).trace_eq_nil fresh]
    exact ⟨by decide, fun _ => by decide⟩

/-- A request that has finished was sent at most three times just if it has not seen two
rotations. -/
theorem sends_iff (run : Reaches system permits (Config.start page) config) {thread : Nat}
    {current : Thread Request Reply Rejection (Option Response)}
    (present : config.threads[thread]? = some current)
    {result : Except Rejection (Option Response)} (finished : current.result = some result) :
    sends (config.trace thread) ≤ 3 ↔ rotationsSeen (config.trace thread) ≤ 1 := by
  have sums : Sums (sends (config.trace thread)) (rotationsSeen (config.trace thread)) :=
    (run.disciplined system_sending page).returned present finished
  unfold Sums at sums
  omega

end Runs

end MysticAuth.AuthInterceptor
