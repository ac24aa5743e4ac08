import Mathlib.Data.Set.Subsingleton
import MysticAuth.Confirmation.ProtectedActions

/-!
# Mutual exclusion of protected actions

A caller is inside from its successful reservation to its first release.  The
release in the `finally` block comes after that one, when the key may already
stand for somebody else's reservation.
-/

set_option autoImplicit false

namespace MysticAuth.Confirmation

open Interleaving

/-! ## What a caller does with the key -/

def Reserved (key : String) (trace : List Event) : Prop :=
  ⟨.reserve key, .ok true⟩ ∈ trace

def Released (key : String) (trace : List Event) : Prop :=
  ∃ event ∈ trace, event.1 = .release key

/-- Only who has reserved the key releases it, and an action happens in between. -/
def discipline : Discipline Reply where
  allows trace call := match call with
    | .release key => Reserved key trace
    | .act key => Reserved key trace ∧ ¬ Released key trace
    | _ => True
  answers _ _ := True

/-- A call that neither releases a key nor acts. -/
def isPreliminary : Call → Prop
  | .release _ => False
  | .act _ => False
  | _ => True

section Handlers

variable (maxAttempts : Nat) (key : String)

theorem isLocked_confined : (isLocked maxAttempts key).Confined isPreliminary := by
  refine Program.confined_tryCatch _ _ ?_ fun _ => trivial
  exact Program.confined_bind _ _ ⟨trivial, fun _ => trivial⟩ fun _ => trivial

theorem recordFailedAction_confined :
    (recordFailedAction maxAttempts key).Confined isPreliminary := by
  refine Program.confined_tryCatch _ _ ?_ fun _ => trivial
  refine Program.confined_bind _ _ ⟨trivial, fun _ => trivial⟩ fun newCount => ?_
  by_cases first : newCount = 1
  · rw [if_pos first]
    exact Program.confined_bind _ _ ⟨trivial, fun _ => trivial⟩ fun _ => trivial
  · rw [if_neg first]
    trivial

theorem resetFailedAttempts_confined : (resetFailedAttempts key).Confined isPreliminary :=
  Program.confined_tryCatch _ _ ⟨trivial, fun _ => trivial⟩ fun _ => trivial

variable {α : Type} {post : Except ActionError α → List Event → Prop}
variable {trace : List Event}

theorem preliminary_meets {program : Service α} (confined : program.Confined isPreliminary)
    (returns : ∀ result added, (∀ event ∈ added, isPreliminary event.1) →
      post result (added ++ trace)) : program.Meets discipline post trace := by
  refine confined.meets (fun later _ call preliminary => ?_) returns
  cases call <;> trivial

theorem released_append {added : List Event}
    (preliminary : ∀ event ∈ added, isPreliminary event.1) :
    Released key (added ++ trace) ↔ Released key trace := by
  constructor
  · rintro ⟨event, member, isRelease⟩
    rcases List.mem_append.mp member with new | old
    · have silent := preliminary event new
      rw [isRelease] at silent
      exact silent.elim
    · exact ⟨event, old, isRelease⟩
  · rintro ⟨event, member, isRelease⟩
    exact ⟨event, List.mem_append_right _ member, isRelease⟩

theorem beginProtectedAction_meets
    {post : Except ActionError Bool → List Event → Prop}
    (refused : ∀ later, post (.ok false) later) (raised : ∀ error later, post (.error error) later)
    (reserved : ∀ later, Reserved key later → (Released key later → Released key trace) →
      post (.ok true) later) :
    (beginProtectedAction maxAttempts key).Meets discipline post trace := by
  rw [beginProtectedAction, Program.meets_bind]
  refine preliminary_meets (isLocked_confined maxAttempts key) fun result added preliminary => ?_
  cases result with
  | error error => exact raised error _
  | ok locked =>
    cases locked with
    | true => exact refused _
    | false =>
      simp only [Bool.false_eq_true, if_false, orUnavailable, execute, Program.meets_tryCatch,
        Program.meets_attempt, id_eq]
      refine ⟨trivial, fun reply _ => ?_⟩
      cases reply with
      | error failure => exact raised _ _
      | ok free =>
        cases free with
        | false => exact refused _
        | true =>
          refine reserved _ List.mem_cons_self fun isReleased => ?_
          have preliminary' : ∀ event ∈ ⟨.reserve key, .ok true⟩ :: added,
              isPreliminary event.1 := by
            intro event member
            rcases List.mem_cons.mp member with rfl | old
            · trivial
            · exact preliminary event old
          exact (released_append key preliminary').mp isReleased

theorem releaseProtectedAction_meets {post : Except ActionError Unit → List Event → Prop}
    (reserved : Reserved key trace) (returns : ∀ later, Reserved key later → post (.ok ()) later) :
    (releaseProtectedAction key).Meets discipline post trace := by
  simp only [releaseProtectedAction, swallow, execute, Program.meets_tryCatch,
    Program.meets_attempt, id_eq]
  refine ⟨reserved, fun reply _ => ?_⟩
  cases reply <;> exact returns _ (List.mem_cons_of_mem _ reserved)

theorem finishProtectedAction_meets (success : Bool)
    {post : Except ActionError Unit → List Event → Prop} (reserved : Reserved key trace)
    (returns : ∀ result later, Reserved key later → post result later) :
    (finishProtectedAction maxAttempts key success).Meets discipline post trace := by
  rw [finishProtectedAction, Program.meets_finally]
  have recorded : (if success then resetFailedAttempts key
      else do
        let _ ← recordFailedAction maxAttempts key
        return () : Service Unit).Confined isPreliminary := by
    cases success with
    | true => exact resetFailedAttempts_confined key
    | false =>
      exact Program.confined_bind _ _ (recordFailedAction_confined maxAttempts key)
        fun _ => trivial
  refine preliminary_meets recorded fun result added _ => ?_
  exact releaseProtectedAction_meets key (List.mem_append_right _ reserved)
    fun later reserved' => returns result later reserved'

theorem protectedAction_meets (audit : Service Unit) (silent : audit.Confined isPreliminary)
    {post : Except ActionError Response → List Event → Prop}
    (reserved : Reserved key trace) (unreleased : ¬ Released key trace)
    (returns : ∀ result later, post result later) :
    (protectedAction maxAttempts key audit).Meets discipline post trace := by
  have cleanup (result : Except ActionError Response) (later : List Event)
      (reserved' : Reserved key later) :
      (releaseProtectedAction key).Meets discipline
        (fun outcome => post (afterCleanup result outcome)) later :=
    releaseProtectedAction_meets key reserved' fun last _ => returns result last
  rw [protectedAction, Program.meets_finally, Program.meets_bind, execute, Program.meets_attempt]
  refine ⟨⟨reserved, unreleased⟩, fun reply _ => ?_⟩
  have acted : Reserved key (⟨.act key, reply⟩ :: trace) := List.mem_cons_of_mem _ reserved
  cases reply with
  | error error => exact cleanup (.error error) _ acted
  | ok success =>
    simp only [id_eq, Program.meets_bind]
    refine preliminary_meets silent fun result added _ => ?_
    have audited : Reserved key (added ++ ⟨.act key, .ok success⟩ :: trace) :=
      List.mem_append_right _ acted
    cases result with
    | error error => exact cleanup (.error error) _ audited
    | ok told =>
      refine finishProtectedAction_meets maxAttempts key success audited fun finished later held => ?_
      cases finished with
      | error error => exact cleanup (.error error) _ held
      | ok done =>
        cases success with
        | true => exact cleanup (.ok .done) _ held
        | false =>
          simp only [Bool.false_eq_true, if_false, Program.meets_bind]
          refine preliminary_meets (isLocked_confined maxAttempts key) fun locked added' _ => ?_
          have held' : Reserved key (added' ++ later) := List.mem_append_right _ held
          cases locked with
          | error error => exact cleanup (.error error) _ held'
          | ok locked =>
            cases locked with
            | true => exact cleanup (.ok .locked) _ held'
            | false => exact cleanup (.ok .refused) _ held'

end Handlers

theorem unreleased_nil (key : String) : ¬ Released key [] := by
  simp [Released]

theorem handle_meets (maxAttempts : Nat) (request : Request) :
    (handle maxAttempts request).Meets discipline (fun _ _ => True) [] := by
  have unreleased {key : String} {later : List Event}
      (only : Released key later → Released key []) : ¬ Released key later :=
    fun released => unreleased_nil key (only released)
  cases request with
  | confirmDelete key =>
    rw [handle, handleConfirmDelete, orInternalServerError, Program.meets_tryCatch,
      Program.meets_bind]
    refine beginProtectedAction_meets maxAttempts key (fun _ => trivial) (fun _ _ => trivial) ?_
    intro later reserved only
    refine protectedAction_meets maxAttempts key (return ()) trivial reserved
      (unreleased only) ?_
    intro result last
    cases result <;> trivial
  | passwordResetConfirm key =>
    rw [handle, handlePasswordResetConfirm, Program.meets_tryCatch, Program.meets_bind]
    refine beginProtectedAction_meets maxAttempts key (fun _ => trivial) ?_ ?_
    · intro error later
      cases error <;> trivial
    · intro later reserved only
      refine protectedAction_meets maxAttempts key logSecurityEvent ⟨trivial, fun _ => trivial⟩
        reserved (unreleased only) ?_
      intro result last
      cases result with
      | ok response => trivial
      | error failure => cases failure <;> trivial
  | accountVerification key =>
    rw [handle, handleAccountVerification, orInternalServerError, Program.meets_tryCatch,
      Program.meets_bind]
    refine beginProtectedAction_meets maxAttempts key (fun _ => trivial) (fun _ _ => trivial) ?_
    intro later reserved only
    simp only [Bool.not_true, Bool.false_eq_true, if_false, Program.meets_bind]
    rw [execute, Program.meets_attempt]
    refine ⟨trivial, fun reply _ => ?_⟩
    have consumed : Reserved key (⟨.consumeToken key, reply⟩ :: later) :=
      List.mem_cons_of_mem _ reserved
    cases reply with
    | error error => trivial
    | ok first =>
      cases first with
      | false =>
        simp only [id_eq, Bool.not_false, if_true, Program.meets_bind]
        exact releaseProtectedAction_meets key consumed fun _ _ => trivial
      | true =>
        refine protectedAction_meets maxAttempts key logSecurityEvent ⟨trivial, fun _ => trivial⟩
          consumed ?_ ?_
        · rintro ⟨event, member, isRelease⟩
          rcases List.mem_cons.mp member with rfl | old
          · cases isRelease
          · exact unreleased only ⟨event, old, isRelease⟩
        · intro result last
          cases result <;> trivial

theorem server_obeys (maxAttempts : Nat) :
    (server maxAttempts).Obeys (fun _ => discipline) (fun _ _ _ => True) where
  programs := handle_meets maxAttempts
  answers _ _ _ _ _ _ := trivial

/-! ## Exclusion -/

/-- Between the successful reservation and the first release. -/
def Inside (history : List (Nat × Event)) (key : String) (thread : Nat) : Prop :=
  Reserved key (traceOf history thread) ∧ ¬ Released key (traceOf history thread)

/-- Nobody releases the key while somebody else is inside. -/
def releasesOwn (config : Server) (thread : Nat) (event : Event) : Prop :=
  ∀ key, event.1 = .release key →
    Inside config.history key thread ∨ ∀ other, ¬ Inside config.history key other

section Runs

variable {maxAttempts : Nat} {start : Valkey} {before after config : Server}

/-- A release from outside is a caller's second one. -/
theorem release_from_outside
    {permits : Server → Nat → Event → Prop}
    (run : Reaches (server maxAttempts) permits (Config.start start) before) {thread : Nat}
    {event : Event} (answers : Answers (server maxAttempts) permits before after thread event)
    {key : String} (isRelease : event.1 = .release key)
    (outside : ¬ Inside before.history key thread) :
    Reserved key (before.trace thread) ∧ Released key (before.trace thread) := by
  obtain ⟨request, next, running⟩ := answers.running
  have allowed := (run.disciplined (server_obeys maxAttempts) start).allows running
  rw [isRelease] at allowed
  refine ⟨allowed, ?_⟩
  by_contra unreleased
  exact outside ⟨allowed, unreleased⟩

/-- Every protected action is made from inside. -/
theorem acts_inside
    {permits : Server → Nat → Event → Prop}
    (run : Reaches (server maxAttempts) permits (Config.start start) before) {thread : Nat}
    {event : Event} (answers : Answers (server maxAttempts) permits before after thread event)
    {key : String} (isAction : event.1 = .act key) : Inside before.history key thread := by
  obtain ⟨request, next, running⟩ := answers.running
  have allowed := (run.disciplined (server_obeys maxAttempts) start).allows running
  rw [isAction] at allowed
  exact allowed

theorem Inside.earlier {history : List (Nat × Event)} {thread : Nat} {event : Event}
    {key : String} {other : Nat} (inside : Inside ((thread, event) :: history) key other) :
    (thread = other → event.1 ≠ .release key) ∧
      (Inside history key other ∨ (thread = other ∧ event = ⟨.reserve key, .ok true⟩)) := by
  obtain ⟨reserved, unreleased⟩ := inside
  by_cases isThread : thread = other
  · subst isThread
    rw [traceOf_cons_self] at reserved unreleased
    have notRelease : event.1 ≠ .release key := fun isRelease =>
      unreleased ⟨event, List.mem_cons_self, isRelease⟩
    refine ⟨fun _ => notRelease, ?_⟩
    rcases List.mem_cons.mp reserved with same | old
    · exact Or.inr ⟨rfl, same.symm⟩
    · refine Or.inl ⟨old, ?_⟩
      rintro ⟨event', member, isRelease⟩
      exact unreleased ⟨event', List.mem_cons_of_mem _ member, isRelease⟩
  · rw [traceOf_cons_ne _ isThread] at reserved unreleased
    exact ⟨fun same => absurd same isThread, Or.inl ⟨reserved, unreleased⟩⟩

/-- A caller who is inside holds the reservation, and nobody else is inside. -/
def Guarded (key : String) (valkey : Valkey) (history : List (Nat × Event)) : Prop :=
  (∀ thread, Inside history key thread → valkey.reserved key = true) ∧
    {thread | Inside history key thread}.Subsingleton

theorem reserved_of_answer (thread : Nat) {call : Call} {valkey valkey' : Valkey}
    {reply : Reply call} (possible : (reply, valkey') ∈ outcomes thread call valkey)
    (key : String) (notRelease : call ≠ .release key) (reserved : valkey.reserved key = true) :
    valkey'.reserved key = true := by
  cases call with
  | reserve other =>
    simp only [outcomes] at possible
    split at possible <;>
      simp only [executed, List.mem_cons, Prod.mk.injEq, List.not_mem_nil, or_false] at possible
    · rcases possible with ⟨-, rfl⟩ | ⟨-, rfl⟩ | ⟨-, rfl⟩ <;> exact reserved
    · by_cases same : key = other <;>
        rcases possible with ⟨-, rfl⟩ | ⟨-, rfl⟩ | ⟨-, rfl⟩ <;> simp [same, reserved]
      all_goals
        subst same
        exact reserved
  | release other =>
    have differs : key ≠ other := fun same => notRelease (by rw [same])
    simp only [outcomes, executed, List.mem_cons, Prod.mk.injEq, List.not_mem_nil,
      or_false] at possible
    rcases possible with ⟨-, rfl⟩ | ⟨-, rfl⟩ | ⟨-, rfl⟩ <;> simp [differs, reserved]
  | act other | consumeToken other =>
    simp only [outcomes, acted, List.mem_cons, Prod.mk.injEq, List.not_mem_nil,
      or_false] at possible
    rcases possible with ⟨-, rfl⟩ | ⟨-, rfl⟩ | ⟨-, rfl⟩ | ⟨-, rfl⟩ <;> exact reserved
  | logSecurityEvent =>
    obtain ⟨-, rfl⟩ := Prod.mk.inj (List.mem_singleton.mp possible)
    exact reserved
  | _ =>
    simp only [outcomes, executed, List.mem_cons, Prod.mk.injEq, List.not_mem_nil,
      or_false] at possible
    rcases possible with ⟨-, rfl⟩ | ⟨-, rfl⟩ | ⟨-, rfl⟩ <;> exact reserved

/-- A reservation that succeeds found none. -/
theorem unreserved_of_won (thread : Nat) {valkey valkey' : Valkey} {key : String}
    (possible : ((.ok true : Reply (.reserve key)), valkey') ∈
      outcomes thread (.reserve key) valkey) :
    valkey.reserved key = false ∧ valkey'.reserved key = true := by
  simp only [outcomes] at possible
  split at possible
  · simp [executed] at possible
  · rename_i free
    simp only [executed, List.mem_cons, Prod.mk.injEq, true_and, reduceCtorEq, false_and,
      List.not_mem_nil, or_false] at possible
    simp [possible, free]

theorem Guarded.step (key : String) {thread : Nat} {event : Event}
    (guarded : Guarded key before.state before.history)
    (answers : Answers (server maxAttempts) releasesOwn before after thread event) :
    Guarded key after.state ((thread, event) :: before.history) := by
  obtain ⟨call, reply⟩ := event
  by_cases isRelease : call = .release key
  · -- whoever was inside has left, and nobody has entered
    have nobody : ∀ other, ¬ Inside ((thread, ⟨call, reply⟩) :: before.history) key other := by
      intro other inside
      obtain ⟨stays, old | ⟨-, entered⟩⟩ := inside.earlier
      · have differs : thread ≠ other := fun same => stays same isRelease
        rcases answers.permitted key isRelease with own | none
        · exact differs (guarded.2 own old)
        · exact none other old
      · exact Call.noConfusion (isRelease.symm.trans (congrArg Sigma.fst entered))
    exact ⟨fun other inside => absurd inside (nobody other),
      fun first inside => absurd inside (nobody first)⟩
  · by_cases entered : (⟨call, reply⟩ : Event) = ⟨.reserve key, .ok true⟩
    · cases entered
      obtain ⟨free, taken⟩ := unreserved_of_won thread answers.possible
      have only {other : Nat}
          (inside : Inside ((thread, ⟨.reserve key, .ok true⟩) :: before.history) key other) :
          thread = other := by
        rcases inside.earlier.2 with old | ⟨same, -⟩
        · rw [guarded.1 other old] at free
          cases free
        · exact same
      exact ⟨fun _ _ => taken, fun first inside second inside' =>
        (only inside).symm.trans (only inside')⟩
    · have old {other : Nat} (inside : Inside ((thread, ⟨call, reply⟩) :: before.history) key other) :
          Inside before.history key other :=
        inside.earlier.2.resolve_right fun won => entered won.2
      refine ⟨fun other inside => ?_, fun first inside second inside' =>
        guarded.2 (old inside) (old inside')⟩
      exact reserved_of_answer thread answers.possible key isRelease (guarded.1 other (old inside))

theorem guarded_along (run : Reaches (server maxAttempts) releasesOwn (Config.start start) config)
    (key : String) : Guarded key config.state config.history :=
  run.keeps (Guarded key) (by simp [Guarded, Config.start, Inside, Reserved])
    (fun _ _ _ holds => holds)
    fun _ _ _ _ _ answers holds => holds.step key answers

/-- In every run without a release from outside while somebody is inside, at most one caller of
a key is between its successful reservation and its release. -/
theorem protected_actions_exclusive (maxAttempts : Nat) (start : Valkey) {config : Server}
    (run : Reaches (server maxAttempts) releasesOwn (Config.start start) config) (key : String) :
    {thread | Inside config.history key thread}.Subsingleton :=
  (guarded_along run key).2

/-- So nobody else is inside when a protected action is made. -/
theorem acts_alone (run : Reaches (server maxAttempts) releasesOwn (Config.start start) before)
    {thread : Nat} {event : Event}
    (answers : Answers (server maxAttempts) releasesOwn before after thread event) {key : String}
    (isAction : event.1 = .act key) {other : Nat} (inside : Inside before.history key other) :
    other = thread :=
  (guarded_along run key).2 inside (acts_inside run answers isAction)

end Runs

/-! ## Where a second release falls inside -/

instance (call : Call) : DecidableEq (Reply call) := by
  cases call <;> infer_instance

instance (history : List (Nat × Event)) (key : String) (thread : Nat) :
    Decidable (Inside history key thread) :=
  inferInstanceAs (Decidable (_ ∈ _ ∧ ¬ ∃ event ∈ _, _))

def idleValkey : Valkey where
  attempts _ := none
  reserved _ := false

def checkOwnRelease (config : Server) (thread : Nat) (event : Event) : Bool :=
  match event.1 with
  | .release key => decide (Inside config.history key thread) ||
      config.history.all fun entry => !decide (Inside config.history key entry.1)
  | _ => true

theorem releasesOwn_of_check (config : Server) (thread : Nat) (event : Event)
    (passed : checkOwnRelease config thread event = true) : releasesOwn config thread event := by
  intro key isRelease
  simp only [checkOwnRelease, isRelease, Bool.or_eq_true, decide_eq_true_eq, List.all_eq_true,
    Bool.not_eq_true', decide_eq_false_iff_not] at passed
  refine passed.imp_right fun nobody other inside => ?_
  exact nobody _ ((mem_traceOf _ _ _).mp inside.1) inside

/-- One password reset runs to its end before the next one begins. -/
def resetsInTurn : List (Move Request String) :=
  .begin (.passwordResetConfirm "ann") :: Move.turns 0 7 ++
    .begin (.passwordResetConfirm "ann") :: Move.turns 1 3

theorem protected_actions_exclusive_inTurn :
    Inside ((Config.start idleValkey).follow (server 5) resetsInTurn).history "ann" 1 ∧
      {thread | Inside ((Config.start idleValkey).follow (server 5) resetsInTurn).history "ann"
        thread}.Subsingleton := by
  refine ⟨by decide +kernel, protected_actions_exclusive 5 idleValkey ?_ "ann"⟩
  exact Config.follow_permitted (server 5) checkOwnRelease releasesOwn_of_check _ _
    (by decide +kernel)

/-- The first caller has finished; its second release frees the reservation of the second one,
and the third one enters. -/
def resetsOverlap : List (Move Request String) :=
  .begin (.passwordResetConfirm "ann") :: Move.turns 0 6 ++
    .begin (.passwordResetConfirm "ann") :: Move.turns 1 2 ++ Move.turns 0 1 ++
    .begin (.passwordResetConfirm "ann") :: Move.turns 2 2

theorem protected_actions_overlap :
    ¬ ∀ (maxAttempts : Nat) (start : Valkey) (config : Server),
      Reaches (server maxAttempts) anyCall (Config.start start) config → ∀ key,
        {thread | Inside config.history key thread}.Subsingleton := by
  intro exclusive
  have same := exclusive 5 idleValkey _ (Config.follow_reaches (server 5) _ resetsOverlap) "ann"
  have second : Inside ((Config.start idleValkey).follow (server 5) resetsOverlap).history "ann"
      1 := by decide +kernel
  have third : Inside ((Config.start idleValkey).follow (server 5) resetsOverlap).history "ann"
      2 := by decide +kernel
  exact absurd (same second third) (by decide)

end MysticAuth.Confirmation
