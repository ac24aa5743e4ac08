import MysticAuth.Browser.CrossTabRefresh

/-!
# What the lease and the rotation result guarantee

A tab that has verified its lease relies on nobody else touching the entry
before its own lease expires.  A call relies on every success before its start
having been published when it begins.
-/

set_option autoImplicit false

namespace MysticAuth.CrossTabRefresh

open Interleaving

/-! ## Refreshing one at a time -/

/-- The tab's refresh request is in flight while its own lease has not expired. -/
def Browser.refreshes (browser : Browser) (tab : Nat) : Bool :=
  browser.tabs[tab]?.any fun current =>
    current.phase.isInFlight && current.expiresAt.any fun expiresAt => browser.now < expiresAt

def Exclusive (browser : Browser) : Prop :=
  ∀ tab other, browser.refreshes tab = true → browser.refreshes other = true → tab = other

/-- The tab has verified its lease and has no answer yet. -/
def Phase.isGuarded : Phase → Bool
  | .checkRotation _ => true
  | phase => phase.isInFlight

def Browser.guards (browser : Browser) (tab : Nat) : Bool :=
  browser.tabs[tab]?.any fun current =>
    current.phase.isGuarded && current.expiresAt.any fun expiresAt => browser.now < expiresAt

/-- The next step of the tab writes or removes the lease. -/
def Phase.touchesLease : Phase → Bool
  | .writeLease _ _ | .heartbeatWrite _ | .releaseRemove _ => true
  | _ => false

def Browser.touchesLease (browser : Browser) (tab : Nat) : Bool :=
  browser.tabs[tab]?.any fun current => current.phase.touchesLease

def Browser.othersGuard (browser : Browser) (tab : Nat) : Bool :=
  (List.range browser.tabs.length).any fun other => other != tab && browser.guards other

/-! ## The published result -/

/-- The tab's request has succeeded, and the result is not yet written. -/
def Phase.publishesSuccess : Phase → Bool
  | .publishRead success | .publishWrite success _ => success
  | _ => false

def Browser.unpublished (browser : Browser) : Bool :=
  browser.tabs.any fun current => current.phase.publishesSuccess

/-- No step writes or removes the lease while another tab has verified an unexpired lease of its own
and awaits its answer; no call starts while a success is unpublished, or fails to read a success that
was published. -/
def careful (browser : Browser) : Action → Bool
  | .advance tab throws => throws || !(browser.touchesLease tab && browser.othersGuard tab)
  | .start _ throws =>
      !browser.unpublished && (!throws || !browser.rotation.any RotationResult.success)
  | _ => true

def Careful (browser : Browser) (action : Action) : Prop :=
  careful browser action = true

/-- The runs of a browser that was just started. -/
def Runs (permits : Browser → Action → Prop) (actions : List Action) (browser : Browser) : Prop :=
  ∃ now lease rotation,
    Follows Browser.step permits (Browser.fresh now lease rotation) actions browser

/-- What a step does to the lease and to the tabs. -/
inductive LeaseStep (browser : Browser) : Action → Browser → Prop
  | opened : LeaseStep browser .openTab { browser with tabs := browser.tabs ++ [⟨.idle, none⟩] }
  | ticked (ms : Nat) : LeaseStep browser (.tick ms) { browser with now := browser.now + ms }
  | moved {action : Action} (tab : Nat) (current : Tab) (next : Phase)
      (rotation : Option RotationResult) (present : browser.tabs[tab]? = some current)
      (guarded : next.isGuarded = true → current.phase.isGuarded = true ∨
        ∃ expiresAt, browser.lease = some ⟨tab, expiresAt⟩) :
      LeaseStep browser action
        { browser.setTab tab { current with phase := next } with rotation := rotation }
  | wrote (tab : Nat) (current : Tab) (expiresAt : Nat) (next : Phase)
      (present : browser.tabs[tab]? = some current)
      (touches : current.phase.touchesLease = true) :
      LeaseStep browser (.advance tab false) (browser.setLease tab expiresAt next)
  | removed (tab : Nat) (current : Tab) (outcome : Outcome)
      (present : browser.tabs[tab]? = some current)
      (touches : current.phase.touchesLease = true) :
      LeaseStep browser (.advance tab false)
        { browser.setTab tab { current with phase := .returned outcome } with lease := none }

section Steps

variable {browser after : Browser} {action : Action} {tab : Nat} {current : Tab} {throws : Bool}

theorem lease_of_owns (owns : browser.ownsLease tab throws = true) :
    ∃ expiresAt, browser.lease = some ⟨tab, expiresAt⟩ := by
  unfold Browser.ownsLease Browser.readLease at owns
  obtain ⟨⟨owner, expiresAt⟩, isLease, isOwner⟩ := (Option.any_eq_true _ _).mp owns
  obtain rfl := eq_of_beq isOwner
  split at isLease
  · cases isLease
  · exact ⟨expiresAt, isLease⟩

/-- Steps that only move on, to a phase that is not guarded. -/
theorem LeaseStep.goTo {next : Phase} (present : browser.tabs[tab]? = some current)
    (unguarded : next.isGuarded = false) :
    LeaseStep browser action (browser.setTab tab { current with phase := next }) :=
  .moved tab current next browser.rotation present fun guarded => by
    rw [unguarded] at guarded
    cases guarded

theorem LeaseStep.stay {next : Phase} (present : browser.tabs[tab]? = some current)
    (guarded : current.phase.isGuarded = true) :
    LeaseStep browser action (browser.setTab tab { current with phase := next }) :=
  .moved tab current next browser.rotation present fun _ => Or.inl guarded

theorem leaseStep_of_advance (present : browser.tabs[tab]? = some current)
    (advanced : browser.advance tab current throws = some after) :
    LeaseStep browser (.advance tab throws) after := by
  unfold Browser.advance at advanced
  split at advanced
  case h_1 before isPhase =>
    split at advanced
    · obtain rfl := Option.some.inj advanced
      exact .goTo present rfl
    · split at advanced <;> obtain rfl := Option.some.inj advanced <;> exact .goTo present rfl
  case h_2 before existing isPhase =>
    split at advanced <;> obtain rfl := Option.some.inj advanced <;> exact .goTo present rfl
  case h_3 before isPhase =>
    split at advanced <;> obtain rfl := Option.some.inj advanced <;> exact .goTo present rfl
  case h_4 before isPhase =>
    obtain rfl := Option.some.inj advanced
    exact .goTo present rfl
  case h_5 before expiresAt isPhase =>
    split at advanced
    · obtain rfl := Option.some.inj advanced
      exact .goTo present rfl
    · rename_i written
      obtain rfl := Option.some.inj advanced
      rw [Bool.eq_false_iff.mpr written]
      exact .wrote tab current expiresAt _ present (by rw [isPhase]; rfl)
  case h_6 before isPhase =>
    split at advanced
    · rename_i owns
      obtain rfl := Option.some.inj advanced
      exact .moved tab current _ browser.rotation present fun _ => Or.inr (lease_of_owns owns)
    · obtain rfl := Option.some.inj advanced
      exact .goTo present rfl
  case h_7 before isPhase =>
    split at advanced
    · obtain rfl := Option.some.inj advanced
      exact .goTo present rfl
    · obtain rfl := Option.some.inj advanced
      exact .stay present (by rw [isPhase]; rfl)
  case h_8 isPhase =>
    split at advanced <;> obtain rfl := Option.some.inj advanced <;>
      exact .stay present (by rw [isPhase]; rfl)
  case h_9 isPhase =>
    obtain rfl := Option.some.inj advanced
    exact .stay present (by rw [isPhase]; rfl)
  case h_10 expiresAt isPhase =>
    split at advanced
    · obtain rfl := Option.some.inj advanced
      exact .stay present (by rw [isPhase]; rfl)
    · rename_i written
      obtain rfl := Option.some.inj advanced
      rw [Bool.eq_false_iff.mpr written]
      exact .wrote tab current expiresAt _ present (by rw [isPhase]; rfl)
  case h_11 isPhase =>
    obtain rfl := Option.some.inj advanced
    exact .stay present (by rw [isPhase]; rfl)
  case h_12 success isPhase =>
    obtain rfl := Option.some.inj advanced
    exact .goTo present rfl
  case h_13 success epoch isPhase =>
    obtain rfl := Option.some.inj advanced
    exact .moved tab current _ _ present nofun
  case h_14 outcome isPhase =>
    split at advanced <;> obtain rfl := Option.some.inj advanced <;> exact .goTo present rfl
  case h_15 outcome isPhase =>
    obtain rfl := Option.some.inj advanced
    cases throws with
    | true => exact .moved tab current _ browser.rotation present nofun
    | false => exact .removed tab current outcome present (by rw [isPhase]; rfl)
  all_goals cases advanced

theorem leaseStep_of_step (stepped : browser.step action = some after) :
    LeaseStep browser action after := by
  cases action with
  | openTab =>
    obtain rfl := Option.some.inj stepped
    exact .opened
  | tick ms =>
    obtain rfl := Option.some.inj stepped
    exact .ticked ms
  | start tab throws =>
    obtain ⟨current, present, moved⟩ := Option.bind_eq_some_iff.mp stepped
    split at moved
    · obtain rfl := Option.some.inj moved
      exact .goTo present rfl
    · cases moved
  | advance tab throws =>
    obtain ⟨current, present, advanced⟩ := Option.bind_eq_some_iff.mp stepped
    exact leaseStep_of_advance present advanced
  | wake tab =>
    obtain ⟨current, present, moved⟩ := Option.bind_eq_some_iff.mp stepped
    split at moved
    · obtain rfl := Option.some.inj moved
      exact .goTo present rfl
    · obtain rfl := Option.some.inj moved
      exact .goTo present rfl
    · cases moved
  | heartbeat tab =>
    obtain ⟨current, present, moved⟩ := Option.bind_eq_some_iff.mp stepped
    split at moved
    · rename_i isPhase
      obtain rfl := Option.some.inj moved
      exact .stay present (by rw [isPhase]; rfl)
    · cases moved
  | answer tab success =>
    obtain ⟨current, present, moved⟩ := Option.bind_eq_some_iff.mp stepped
    split at moved
    · obtain rfl := Option.some.inj moved
      exact .goTo present rfl
    · cases moved
  | close tab =>
    obtain ⟨current, present, moved⟩ := Option.bind_eq_some_iff.mp stepped
    obtain rfl := Option.some.inj moved
    exact .goTo present rfl

end Steps

/-! ## The lease -/

structure LeaseKept (browser : Browser) : Prop where
  own : ∀ tab current expiresAt written, browser.tabs[tab]? = some current →
    browser.lease = some ⟨tab, expiresAt⟩ → current.expiresAt = some written → written = expiresAt
  guarded : ∀ tab current expiresAt, browser.tabs[tab]? = some current →
    current.phase.isGuarded = true → current.expiresAt = some expiresAt →
      browser.now < expiresAt → browser.lease = some ⟨tab, expiresAt⟩

section Leases

variable {browser after : Browser} {action : Action} {tab : Nat} {current : Tab}

theorem tabs_set_cases {tabs : List Tab} {changed found : Tab} {other : Nat}
    (present : (tabs.set tab changed)[other]? = some found) :
    (other = tab ∧ found = changed) ∨ (other ≠ tab ∧ tabs[other]? = some found) := by
  rw [List.getElem?_set] at present
  split at present
  · rename_i same
    split at present
    · exact Or.inl ⟨same.symm, (Option.some.inj present).symm⟩
    · cases present
  · rename_i differs
    exact Or.inr ⟨Ne.symm differs, present⟩

theorem not_guarded_of_careful (isCareful : Careful browser (.advance tab false))
    (present : browser.tabs[tab]? = some current) (touches : current.phase.touchesLease = true)
    {other : Nat} (differs : other ≠ tab) {found : Tab} (isOther : browser.tabs[other]? = some found)
    (guarded : found.phase.isGuarded = true) {expiresAt : Nat}
    (written : found.expiresAt = some expiresAt) : ¬ browser.now < expiresAt := by
  intro unexpired
  have own : browser.touchesLease tab = true := by
    simp [Browser.touchesLease, present, touches]
  have guards : browser.guards other = true := by
    simp [Browser.guards, isOther, guarded, written, unexpired]
  have inTabs := (List.getElem?_eq_some_iff.mp isOther).1
  have others : browser.othersGuard tab = true := by
    refine List.any_eq_true.mpr ⟨other, List.mem_range.mpr inTabs, ?_⟩
    simp [differs, guards]
  simp [Careful, careful, own, others] at isCareful

theorem LeaseKept.step (kept : LeaseKept browser) (step : LeaseStep browser action after)
    (isCareful : Careful browser action) : LeaseKept after := by
  cases step with
  | opened =>
    have isOld : ∀ {tab : Nat} {current : Tab} {written : Nat},
        (browser.tabs ++ [⟨.idle, none⟩])[tab]? = some current →
          current.expiresAt = some written → browser.tabs[tab]? = some current := by
      intro tab current written present isWritten
      rcases Nat.lt_or_ge tab browser.tabs.length with old | new
      · rwa [List.getElem?_append_left old] at present
      · rw [List.getElem?_append_right new] at present
        rw [List.mem_singleton.mp (List.mem_of_getElem? present)] at isWritten
        cases isWritten
    constructor
    · intro tab current expiresAt written present isLease isWritten
      exact kept.own tab current expiresAt written (isOld present isWritten) isLease isWritten
    · intro tab current expiresAt present guarded isWritten unexpired
      exact kept.guarded tab current expiresAt (isOld present isWritten) guarded isWritten unexpired
  | ticked ms =>
    refine ⟨kept.own, fun tab current expiresAt present guarded isWritten unexpired => ?_⟩
    exact kept.guarded tab current expiresAt present guarded isWritten
      (Nat.lt_of_le_of_lt (Nat.le_add_right _ _) unexpired)
  | moved tab current next rotation present guarded =>
    constructor
    · intro other found expiresAt written isOther isLease isWritten
      rcases tabs_set_cases isOther with ⟨rfl, rfl⟩ | ⟨-, isOther'⟩
      · exact kept.own other current expiresAt written present isLease isWritten
      · exact kept.own other found expiresAt written isOther' isLease isWritten
    · intro other found expiresAt isOther isGuarded isWritten unexpired
      rcases tabs_set_cases isOther with ⟨rfl, rfl⟩ | ⟨-, isOther'⟩
      · rcases guarded isGuarded with wasGuarded | ⟨verified, isLease⟩
        · exact kept.guarded other current expiresAt present wasGuarded isWritten unexpired
        · rw [kept.own other current verified expiresAt present isLease isWritten]
          exact isLease
      · exact kept.guarded other found expiresAt isOther' isGuarded isWritten unexpired
  | wrote tab current expiresAt next present touches =>
    constructor
    · intro other found stored written isOther isLease isWritten
      obtain ⟨rfl, rfl⟩ := Lease.mk.inj (Option.some.inj isLease)
      rcases tabs_set_cases isOther with ⟨-, rfl⟩ | ⟨differs, -⟩
      · exact (Option.some.inj isWritten).symm
      · exact absurd rfl differs
    · intro other found stored isOther isGuarded isWritten unexpired
      rcases tabs_set_cases isOther with ⟨rfl, rfl⟩ | ⟨differs, isOther'⟩
      · obtain rfl := Option.some.inj isWritten
        rfl
      · exact absurd unexpired
          (not_guarded_of_careful isCareful present touches differs isOther' isGuarded isWritten)
  | removed tab current outcome present touches =>
    refine ⟨nofun, fun other found stored isOther isGuarded isWritten unexpired => ?_⟩
    rcases tabs_set_cases isOther with ⟨rfl, rfl⟩ | ⟨differs, isOther'⟩
    · cases isGuarded
    · exact absurd unexpired
        (not_guarded_of_careful isCareful present touches differs isOther' isGuarded isWritten)

theorem LeaseKept.exclusive (kept : LeaseKept browser) : Exclusive browser := by
  have holds : ∀ tab, browser.refreshes tab = true →
      ∃ expiresAt, browser.lease = some ⟨tab, expiresAt⟩ := by
    intro tab refreshes
    obtain ⟨current, present, both⟩ := (Option.any_eq_true _ _).mp refreshes
    obtain ⟨inFlight, unexpired⟩ := (Bool.and_eq_true _ _).mp both
    obtain ⟨expiresAt, isWritten, isLater⟩ := (Option.any_eq_true _ _).mp unexpired
    refine ⟨expiresAt, kept.guarded tab current expiresAt present ?_ isWritten
      (of_decide_eq_true isLater)⟩
    unfold Phase.isGuarded
    split
    · rfl
    · exact inFlight
  intro tab other refreshes refreshes'
  obtain ⟨expiresAt, isLease⟩ := holds tab refreshes
  obtain ⟨expiresAt', isLease'⟩ := holds other refreshes'
  rw [isLease] at isLease'
  exact congrArg Lease.owner (Option.some.inj isLease')

theorem leaseKept_of_follows {now : Nat} {lease : Option Lease} {rotation : Option RotationResult}
    {actions : List Action}
    (run : Follows Browser.step Careful (Browser.fresh now lease rotation) actions browser) :
    LeaseKept browser := by
  refine run.preserves LeaseKept ⟨nofun, nofun⟩ ?_
  intro before action after _ isCareful stepped kept
  exact kept.step (leaseStep_of_step stepped) isCareful

end Leases

/-! ## The already rotated response -/

/-- The call still looks for changes of `before`, or has another outcome than an already rotated
session. -/
def Phase.Continues (before : Option RotationResult) : Phase → Prop
  | .readLease earlier | .checkLease earlier _ | .waitForAnotherTab earlier
  | .checkAfterWait earlier | .stampLease earlier | .writeLease earlier _ | .verifyLease earlier
  | .backOff earlier | .checkRotation earlier => earlier = before
  | .releaseRead outcome | .releaseRemove outcome | .returned outcome => outcome ≠ .alreadyRotated
  | _ => True

/-- Nothing has been published for the call of the tab, and nothing is about to be. -/
structure Waiting (tab : Nat) (before : Option RotationResult) (browser : Browser) : Prop where
  published : browser.unpublished = false
  stored : ∀ throws, browser.rotationCompletedAfter before throws = false
  call : ∃ current, browser.tabs[tab]? = some current ∧ current.phase.Continues before

section Calls

variable {browser after : Browser} {action : Action} {tab other : Nat} {current : Tab}
variable {before : Option RotationResult} {throws : Bool}

theorem Waiting.quiet (waiting : Waiting tab before browser)
    (present : browser.tabs[other]? = some current) :
    current.phase.publishesSuccess = false := by
  have none := waiting.published
  rw [Browser.unpublished, List.any_eq_false] at none
  exact Bool.eq_false_iff.mpr (none current (List.mem_of_getElem? present))

/-- A step of one tab that publishes no success. -/
theorem Waiting.move (waiting : Waiting tab before browser) (changed : Tab)
    (present : browser.tabs[other]? = some current)
    (isTabs : after.tabs = browser.tabs.set other changed)
    (quiet : changed.phase.publishesSuccess = true → current.phase.publishesSuccess = true)
    (rotation : after.rotation = browser.rotation ∨ ∃ result, after.rotation = some result ∧
      (result.success = true → current.phase.publishesSuccess = true))
    (continues : other = tab → current.phase.Continues before → changed.phase.Continues before) :
    Waiting tab before after := by
  have isQuiet := waiting.quiet present
  refine ⟨?_, fun throws => ?_, ?_⟩
  · rw [Browser.unpublished, List.any_eq_false, isTabs]
    intro found member publishes
    rcases List.mem_or_eq_of_mem_set member with old | rfl
    · have none := waiting.published
      rw [Browser.unpublished, List.any_eq_false] at none
      exact none found old publishes
    · rw [quiet publishes] at isQuiet
      cases isQuiet
  · rcases rotation with same | ⟨result, isResult, success⟩
    · have stored := waiting.stored throws
      unfold Browser.rotationCompletedAfter Browser.readRotationResult at stored ⊢
      rwa [same]
    · have failed : result.success = false := by
        cases isSuccess : result.success with
        | false => rfl
        | true =>
          rw [success isSuccess] at isQuiet
          cases isQuiet
      unfold Browser.rotationCompletedAfter Browser.readRotationResult
      rw [isResult]
      cases throws <;> simp [failed]
  · obtain ⟨found, isFound, continuesBefore⟩ := waiting.call
    rw [isTabs]
    by_cases same : other = tab
    · subst same
      obtain rfl := Option.some.inj (present.symm.trans isFound)
      refine ⟨changed, ?_, continues rfl continuesBefore⟩
      rw [List.getElem?_set_self (List.getElem?_eq_some_iff.mp present).1]
    · refine ⟨found, ?_, continuesBefore⟩
      rw [List.getElem?_set_ne same]
      exact isFound

/-- A tab whose next phase has nothing to do with publishing. -/
theorem Waiting.goTo (waiting : Waiting tab before browser)
    (present : browser.tabs[other]? = some current) {phase next : Phase}
    (isPhase : current.phase = phase) (quiet : next.publishesSuccess = false)
    (continues : other = tab → phase.Continues before → next.Continues before) :
    Waiting tab before (browser.setTab other { current with phase := next }) := by
  subst isPhase
  refine waiting.move _ present rfl (fun publishes => ?_) (Or.inl rfl) continues
  rw [quiet] at publishes
  cases publishes

theorem Waiting.setLease (waiting : Waiting tab before browser)
    (present : browser.tabs[other]? = some current) {phase next : Phase}
    (isPhase : current.phase = phase) (quiet : next.publishesSuccess = false)
    (continues : other = tab → phase.Continues before → next.Continues before) {expiresAt : Nat} :
    Waiting tab before (browser.setLease other expiresAt next) := by
  subst isPhase
  refine waiting.move ⟨next, some expiresAt⟩ present rfl (fun publishes => ?_)
    (Or.inl rfl) continues
  have none : next.publishesSuccess = true := publishes
  rw [quiet] at none
  cases none

theorem Waiting.advance (waiting : Waiting tab before browser)
    (present : browser.tabs[other]? = some current)
    (advanced : browser.advance other current throws = some after) : Waiting tab before after := by
  have keep : ∀ {phase next : Phase}, current.phase = phase → next.publishesSuccess = false →
      (phase.Continues before → next.Continues before) →
        Waiting tab before (browser.setTab other { current with phase := next }) :=
    fun isPhase quiet continues => waiting.goTo present isPhase quiet fun _ => continues
  have incomplete : ∀ {earlier : Option RotationResult}, earlier = before →
      ¬browser.rotationCompletedAfter earlier throws = true := by
    rintro earlier rfl completed
    rw [waiting.stored throws] at completed
    cases completed
  unfold Browser.advance at advanced
  split at advanced
  case h_1 earlier isPhase =>
    split at advanced
    · obtain rfl := Option.some.inj advanced
      exact keep isPhase rfl id
    · split at advanced <;> obtain rfl := Option.some.inj advanced <;> exact keep isPhase rfl id
  case h_2 earlier existing isPhase =>
    split at advanced <;> obtain rfl := Option.some.inj advanced <;> exact keep isPhase rfl id
  case h_3 earlier isPhase =>
    split at advanced
    · rename_i completed
      obtain rfl := Option.some.inj advanced
      exact keep isPhase rfl fun isEarlier => absurd completed (incomplete isEarlier)
    · obtain rfl := Option.some.inj advanced
      exact keep isPhase rfl id
  case h_4 earlier isPhase =>
    obtain rfl := Option.some.inj advanced
    exact keep isPhase rfl id
  case h_5 earlier expiresAt isPhase =>
    split at advanced
    · obtain rfl := Option.some.inj advanced
      exact keep isPhase rfl id
    · obtain rfl := Option.some.inj advanced
      refine waiting.setLease present isPhase rfl ?_
      exact fun _ continues => continues
  case h_6 earlier isPhase =>
    split at advanced <;> obtain rfl := Option.some.inj advanced <;> exact keep isPhase rfl id
  case h_7 earlier isPhase =>
    split at advanced
    · rename_i completed
      obtain rfl := Option.some.inj advanced
      exact keep isPhase rfl fun isEarlier => absurd completed (incomplete isEarlier)
    · obtain rfl := Option.some.inj advanced
      exact keep isPhase rfl fun _ => trivial
  case h_8 isPhase =>
    split at advanced <;> obtain rfl := Option.some.inj advanced <;> exact keep isPhase rfl id
  case h_9 isPhase =>
    obtain rfl := Option.some.inj advanced
    exact keep isPhase rfl id
  case h_10 expiresAt isPhase =>
    split at advanced
    · obtain rfl := Option.some.inj advanced
      exact keep isPhase rfl id
    · obtain rfl := Option.some.inj advanced
      refine waiting.setLease present isPhase rfl ?_
      exact fun _ continues => continues
  case h_11 isPhase =>
    obtain rfl := Option.some.inj advanced
    exact keep isPhase rfl id
  case h_12 success isPhase =>
    obtain rfl := Option.some.inj advanced
    refine waiting.move _ present rfl (fun publishes => ?_) (Or.inl rfl) fun _ _ => trivial
    rw [isPhase]
    exact publishes
  case h_13 success epoch isPhase =>
    obtain rfl := Option.some.inj advanced
    refine waiting.move _ present rfl nofun ?_ fun _ _ => ?_
    · cases throws with
      | true => exact Or.inl rfl
      | false => exact Or.inr ⟨⟨epoch, success⟩, rfl, fun isSuccess => by rw [isPhase]; exact isSuccess⟩
    · cases success <;> exact nofun
  case h_14 outcome isPhase =>
    split at advanced <;> obtain rfl := Option.some.inj advanced <;> exact keep isPhase rfl id
  case h_15 outcome isPhase =>
    obtain rfl := Option.some.inj advanced
    refine waiting.move { current with phase := .returned outcome } present rfl nofun
      (Or.inl rfl) fun _ continues => ?_
    rw [isPhase] at continues
    exact continues
  all_goals cases advanced

theorem Waiting.step (waiting : Waiting tab before browser)
    (stepped : browser.step action = some after) (noRestart : ∀ throws, action ≠ .start tab throws)
    (noSuccess : ∀ other, action ≠ .answer other true) : Waiting tab before after := by
  cases action with
  | openTab =>
    obtain rfl := Option.some.inj stepped
    obtain ⟨current, present, continues⟩ := waiting.call
    refine ⟨?_, waiting.stored, current, ?_, continues⟩
    · rw [Browser.unpublished, List.any_append]
      exact Bool.or_eq_false_iff.mpr ⟨waiting.published, rfl⟩
    · rw [List.getElem?_append_left (List.getElem?_eq_some_iff.mp present).1]
      exact present
  | tick ms =>
    obtain rfl := Option.some.inj stepped
    exact ⟨waiting.published, waiting.stored, waiting.call⟩
  | start other throws =>
    obtain ⟨current, present, moved⟩ := Option.bind_eq_some_iff.mp stepped
    split at moved
    · obtain rfl := Option.some.inj moved
      refine waiting.goTo present rfl rfl fun same => ?_
      exact absurd (by rw [same]) (noRestart throws)
    · cases moved
  | advance other throws =>
    obtain ⟨current, present, advanced⟩ := Option.bind_eq_some_iff.mp stepped
    exact waiting.advance present advanced
  | wake other =>
    obtain ⟨current, present, moved⟩ := Option.bind_eq_some_iff.mp stepped
    split at moved
    · rename_i isPhase
      obtain rfl := Option.some.inj moved
      exact waiting.goTo present isPhase rfl fun _ => id
    · rename_i isPhase
      obtain rfl := Option.some.inj moved
      exact waiting.goTo present isPhase rfl fun _ => id
    · cases moved
  | heartbeat other =>
    obtain ⟨current, present, moved⟩ := Option.bind_eq_some_iff.mp stepped
    split at moved
    · obtain rfl := Option.some.inj moved
      exact waiting.goTo present rfl rfl fun _ _ => trivial
    · cases moved
  | answer other success =>
    obtain ⟨current, present, moved⟩ := Option.bind_eq_some_iff.mp stepped
    split at moved
    · obtain rfl := Option.some.inj moved
      cases success with
      | true => exact absurd rfl (noSuccess other)
      | false => exact waiting.goTo present rfl rfl fun _ _ => trivial
    · cases moved
  | close other =>
    obtain ⟨current, present, moved⟩ := Option.bind_eq_some_iff.mp stepped
    obtain rfl := Option.some.inj moved
    exact waiting.goTo present rfl rfl fun _ _ => trivial

/-- A call that begins carefully has nothing to find in the storage. -/
theorem waiting_of_start (isCareful : Careful browser (.start tab throws))
    (stepped : browser.step (.start tab throws) = some after) :
    Waiting tab (browser.readRotationResult throws) after := by
  simp only [Careful, careful, Bool.and_eq_true, Bool.not_eq_true', Bool.or_eq_true] at isCareful
  obtain ⟨published, readable⟩ := isCareful
  obtain ⟨current, present, moved⟩ := Option.bind_eq_some_iff.mp stepped
  split at moved
  · obtain rfl := Option.some.inj moved
    refine ⟨?_, fun again => ?_,
      { current with phase := .readLease (browser.readRotationResult throws) }, ?_, rfl⟩
    · rw [Browser.unpublished, List.any_eq_false] at published ⊢
      intro found member
      rcases List.mem_or_eq_of_mem_set member with old | rfl
      · exact published found old
      · exact Bool.false_ne_true
    · unfold Browser.rotationCompletedAfter Browser.readRotationResult
      cases again with
      | true => rfl
      | false =>
        rw [if_neg Bool.false_ne_true]
        cases isStored : browser.rotation with
        | none => simp [Browser.setTab, isStored]
        | some result =>
          cases throws with
          | false => simp [Browser.setTab, isStored]
          | true =>
            rcases readable with reads | failed
            · cases reads
            · simp only [isStored, Option.any_some] at failed
              simp [Browser.setTab, isStored, failed]
    · exact List.getElem?_set_self (List.getElem?_eq_some_iff.mp present).1
  · cases moved

end Calls

/-! ## Every run -/

/-- A call that has returned the already rotated response began before some refresh request was
answered with success. -/
def RotatedMeanwhile (actions : List Action) (browser : Browser) : Prop :=
  ∀ first tab throws second current, actions = first ++ .start tab throws :: second →
    (∀ again, .start tab again ∉ second) → browser.tabs[tab]? = some current →
      current.phase = .returned .alreadyRotated → ∃ other, .answer other true ∈ second

theorem rotatedMeanwhile_of_runs {actions : List Action} {browser : Browser}
    (run : Runs Careful actions browser) : RotatedMeanwhile actions browser := by
  obtain ⟨now, lease, rotation, follows⟩ := run
  intro first tab throws second current isActions noRestart present isPhase
  by_contra noSuccess
  subst isActions
  obtain ⟨middle, -, rest⟩ := follows.split
  cases rest with
  | cons isCareful stepped follows' =>
    have waiting := follows'.preserves (Waiting tab (middle.readRotationResult throws))
      (waiting_of_start isCareful stepped) (by
        intro before action after member _ stepped waiting
        refine waiting.step stepped (fun again isStart => ?_) fun other isAnswer => ?_
        · exact noRestart again (isStart ▸ member)
        · exact noSuccess ⟨other, isAnswer ▸ member⟩)
    obtain ⟨found, isFound, continues⟩ := waiting.call
    obtain rfl := Option.some.inj (present.symm.trans isFound)
    rw [isPhase] at continues
    exact continues rfl

theorem refresh_serialized {actions : List Action} {browser : Browser}
    (run : Runs Careful actions browser) :
    Exclusive browser ∧ RotatedMeanwhile actions browser := by
  refine ⟨?_, rotatedMeanwhile_of_runs run⟩
  obtain ⟨now, lease, rotation, follows⟩ := run
  exact (leaseKept_of_follows follows).exclusive

/-- A browser without anything in its storage. -/
def emptyBrowser : Browser :=
  .fresh 0 none none

def steps (tab count : Nat) : List Action :=
  List.replicate count (.advance tab false)

/-- The second tab finds the first one's lease, waits, and finds the session rotated. -/
def oneAfterTheOther : List Action :=
  [.openTab, .openTab, .start 0 false] ++ steps 0 5 ++ .start 1 false :: steps 1 2 ++
    .answer 0 true :: steps 0 4 ++ .wake 1 :: steps 1 1

theorem refresh_serialized_two : ∃ browser, Runs Careful oneAfterTheOther browser ∧
    Exclusive browser ∧ RotatedMeanwhile oneAfterTheOther browser := by
  have passed : allPermitted Browser.step careful emptyBrowser oneAfterTheOther = true := by
    decide +kernel
  have possible : (performAll Browser.step emptyBrowser oneAfterTheOther).isSome = true := by
    decide +kernel
  obtain ⟨browser, performed⟩ := Option.isSome_iff_exists.mp possible
  have run : Runs Careful oneAfterTheOther browser :=
    ⟨0, none, none, follows_of_permitted _ performed passed⟩
  exact ⟨browser, run, refresh_serialized run⟩

/-- Both tabs find no lease; each writes its own and verifies it before the other one writes. -/
def bothVerify : List Action :=
  [.openTab, .openTab, .start 0 false, .start 1 false] ++ steps 0 2 ++ steps 1 2 ++ steps 0 3 ++
    steps 1 3

/-- The second call begins when the refresh has been answered, and before this is published. -/
def publishedLate : List Action :=
  [.openTab, .openTab, .start 0 false] ++ steps 0 5 ++ [.answer 0 true, .start 1 false] ++
    steps 0 4 ++ steps 1 7

theorem runs_of_performed {actions : List Action} {browser : Browser}
    (performed : performAll Browser.step emptyBrowser actions = some browser) :
    Runs (fun _ _ => True) actions browser :=
  ⟨0, none, none, follows_of_performed actions performed⟩

theorem lease_not_exclusive :
    (¬ ∀ actions browser, Runs (fun _ _ => True) actions browser → Exclusive browser) ∧
      ¬ ∀ actions browser, Runs (fun _ _ => True) actions browser →
        RotatedMeanwhile actions browser := by
  constructor
  · intro exclusive
    have possible : ((performAll Browser.step emptyBrowser bothVerify).any fun browser =>
        browser.refreshes 0 && browser.refreshes 1) = true := by
      decide +kernel
    obtain ⟨browser, performed, both⟩ := (Option.any_eq_true _ _).mp possible
    obtain ⟨first, second⟩ := (Bool.and_eq_true _ _).mp both
    exact absurd (exclusive _ browser (runs_of_performed performed) 0 1 first second) (by decide)
  · intro rotated
    have possible : ((performAll Browser.step emptyBrowser publishedLate).any fun browser =>
        browser.tabs[1]?.any fun current => current.phase == .returned .alreadyRotated) = true := by
      decide +kernel
    obtain ⟨browser, performed, isReturned⟩ := (Option.any_eq_true _ _).mp possible
    obtain ⟨current, present, isPhase⟩ := (Option.any_eq_true _ _).mp isReturned
    obtain ⟨other, answered⟩ := rotated publishedLate browser (runs_of_performed performed)
      ([.openTab, .openTab, .start 0 false] ++ steps 0 5 ++ [.answer 0 true]) 1 false
      (steps 0 4 ++ steps 1 7) current (by decide) (by decide) present (eq_of_beq isPhase)
    rcases List.mem_append.mp answered with inFirst | inSecond
    · cases List.eq_of_mem_replicate inFirst
    · cases List.eq_of_mem_replicate inSecond

end MysticAuth.CrossTabRefresh
