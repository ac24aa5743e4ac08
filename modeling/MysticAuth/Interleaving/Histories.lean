import MysticAuth.Interleaving.System

/-!
# Invariants over the state and the history

An invariant that mentions no program needs to be looked at only where the
state changes from outside and where a call is answered.  A program may also
be embedded into a system with more calls than it makes itself.
-/

set_option autoImplicit false

namespace Interleaving

variable {Request State Environment Call : Type} {Reply : Call → Type} {ε α : Type}

/-- What one thread has called, newest first. -/
def traceOf (history : List (Nat × Event Reply)) (thread : Nat) : List (Event Reply) :=
  history.filterMap fun entry => if entry.1 = thread then some entry.2 else none

@[simp] theorem traceOf_nil (thread : Nat) : traceOf ([] : List (Nat × Event Reply)) thread = [] :=
  rfl

@[simp] theorem traceOf_cons_self (history : List (Nat × Event Reply)) (thread : Nat)
    (event : Event Reply) :
    traceOf ((thread, event) :: history) thread = event :: traceOf history thread := by
  simp [traceOf]

theorem traceOf_cons_ne (history : List (Nat × Event Reply)) {thread other : Nat}
    (differs : thread ≠ other) (event : Event Reply) :
    traceOf ((thread, event) :: history) other = traceOf history other := by
  simp [traceOf, differs]

@[simp] theorem mem_traceOf (history : List (Nat × Event Reply)) (thread : Nat)
    (event : Event Reply) : event ∈ traceOf history thread ↔ (thread, event) ∈ history := by
  simp only [traceOf, List.mem_filterMap, Prod.exists]
  constructor
  · rintro ⟨actor, event', member, same⟩
    split at same
    · rename_i isThread
      rw [← isThread, ← Option.some.inj same]
      exact member
    · simp at same
  · intro member
    exact ⟨thread, event, member, by simp⟩

section Invariants

variable {system : System Request State Environment Reply ε α}
variable {permits : Config Request State Reply ε α → Nat → Event Reply → Prop}
variable {config config' : Config Request State Reply ε α}

/-- What disturbances and answers keep holds of every state and history of a run. -/
theorem Reaches.keeps (invariant : State → List (Nat × Event Reply) → Prop)
    (run : Reaches system permits config config')
    (holds : invariant config.state config.history)
    (disturbed : ∀ event state history, invariant state history →
      invariant (system.disturb event state) history)
    (answered : ∀ before after thread event, Reaches system permits config before →
      Answers system permits before after thread event →
        invariant before.state before.history →
          invariant after.state ((thread, event) :: before.history)) :
    invariant config'.state config'.history := by
  refine run.preserves (fun config => invariant config.state config.history) holds ?_
  intro before after earlier inv step
  rcases step.cases_answers with ⟨history, same | ⟨event, changed⟩⟩ | ⟨thread, event, answers⟩
  · rw [history, same]
    exact inv
  · rw [history, changed]
    exact disturbed event before.state before.history inv
  · rw [answers.recorded]
    exact answered before after thread event earlier answers inv

/-- Every entry of a history was answered at a step of the run, before what is newer. -/
theorem Reaches.answered_at {state : State}
    (run : Reaches system permits (Config.start state) config)
    {newer older : List (Nat × Event Reply)} {thread : Nat} {event : Event Reply}
    (split : config.history = newer ++ (thread, event) :: older) :
    ∃ before after, Reaches system permits (Config.start state) before ∧
      before.history = older ∧ Answers system permits before after thread event ∧
        Reaches system permits after config := by
  induction run generalizing newer with
  | refl => simp [Config.start] at split
  | @tail middle last earlier step ih =>
    rcases step.cases_answers with ⟨history, -⟩ | ⟨actor, event', answers⟩
    · rw [history] at split
      obtain ⟨before, after, first, isOlder, answers, rest⟩ := ih split
      exact ⟨before, after, first, isOlder, answers, rest.tail step⟩
    · have recorded := answers.recorded
      rw [split] at recorded
      cases newer with
      | nil =>
        obtain ⟨same, isOlder⟩ := List.cons.inj recorded
        obtain ⟨rfl, rfl⟩ := Prod.mk.inj same
        exact ⟨middle, last, earlier, isOlder.symm, answers, .refl⟩
      | cons head newer =>
        obtain ⟨before, after, first, isOlder, answers', rest⟩ :=
          ih (List.cons.inj recorded).2.symm
        exact ⟨before, after, first, isOlder, answers', rest.tail step⟩

/-- A program that meets its specification keeps what every allowed call keeps. -/
theorem Program.Meets.keeping {discipline : Discipline Reply}
    {post : Except ε α → List (Event Reply) → Prop} {program : Program Reply ε α}
    {trace : List (Event Reply)} (holds : List (Event Reply) → Prop)
    (kept : ∀ trace (event : Event Reply), discipline.allows trace event.1 → holds trace →
      holds (event :: trace))
    (meets : program.Meets discipline post trace) (now : holds trace) :
    program.Meets ⟨fun trace call => discipline.allows trace call ∧ holds trace,
      discipline.answers⟩ (fun result later => post result later ∧ holds later) trace := by
  induction program generalizing trace with
  | done result => exact ⟨meets, now⟩
  | call request next ih =>
    refine ⟨⟨meets.1, now⟩, fun reply answered => ih reply (meets.2 reply answered) ?_⟩
    exact kept trace ⟨request, reply⟩ meets.1 now

/-- What every allowed call keeps holds of the trace of every thread. -/
theorem Reaches.traces {discipline : Request → Discipline Reply}
    {returns : Request → Except ε α → List (Event Reply) → Prop}
    (obeys : system.Obeys discipline returns) {state : State}
    (run : Reaches system permits (Config.start state) config)
    (holds : Request → List (Event Reply) → Prop) (empty : ∀ request, holds request [])
    (kept : ∀ request trace (event : Event Reply), (discipline request).allows trace event.1 →
      holds request trace → holds request (event :: trace))
    {index : Nat} {thread : Thread Request Reply ε α}
    (present : config.threads[index]? = some thread) :
    holds thread.request (config.trace index) := by
  have keeping : system.Obeys
      (fun request => ⟨fun trace call => (discipline request).allows trace call ∧
        holds request trace, (discipline request).answers⟩)
      (fun request result later => returns request result later ∧ holds request later) :=
    ⟨fun request => (obeys.programs request).keeping (holds request) (kept request)
      (empty request), obeys.answers⟩
  have meets := run.disciplined keeping state index thread present
  cases isProgram : thread.program with
  | done result =>
    rw [isProgram] at meets
    exact meets.2
  | call call next =>
    rw [isProgram] at meets
    exact meets.1.2

end Invariants

/-! ## Programs of a smaller system -/

section Embedding

variable {Call' : Type} {Reply' : Call' → Type}

/-- The program with each call made as a call of the larger system. -/
def Program.embed (call : Call → Call') (reply : ∀ request, Reply' (call request) → Reply request) :
    Program Reply ε α → Program Reply' ε α
  | .done result => .done result
  | .call request next => .call (call request) fun answer => (next (reply request answer)).embed call reply

/-- An embedded program makes only embedded calls. -/
theorem Program.embed_confined (call : Call → Call')
    (reply : ∀ request, Reply' (call request) → Reply request) (program : Program Reply ε α) :
    (program.embed call reply).Confined fun request => ∃ inner, request = call inner := by
  induction program with
  | done result => trivial
  | call request next ih => exact ⟨⟨request, rfl⟩, fun answer => ih (reply request answer)⟩

variable {ε' : Type}

/-- The program as a part of a larger one, with its exceptions as exceptions of that. -/
def Program.host (call : Call → Call') (reply : ∀ request, Reply' (call request) → Reply request)
    (failure : ε → ε') : Program Reply ε α → Program Reply' ε' α
  | .done (.ok value) => .done (.ok value)
  | .done (.error raised) => .done (.error (failure raised))
  | .call request next =>
      .call (call request) fun answer => (next (reply request answer)).host call reply failure

section Host

variable {β : Type} (call : Call → Call')
variable (reply : ∀ request, Reply' (call request) → Reply request) (failure : ε → ε')

theorem Program.host_bind (body : Program Reply ε α) (rest : α → Program Reply ε β) :
    (body >>= rest).host call reply failure =
      body.host call reply failure >>= fun value => (rest value).host call reply failure := by
  change (body.bind rest).host call reply failure = (body.host call reply failure).bind _
  induction body with
  | done result => cases result <;> rfl
  | call request next ih =>
    simp only [Program.bind, Program.host]
    congr 1
    funext answer
    exact ih (reply request answer)

/-- A handler that does not look at the exception. -/
theorem Program.host_tryCatch (body alternative : Program Reply ε α) :
    (tryCatch body fun _ => alternative).host call reply failure =
      tryCatch (body.host call reply failure)
        fun _ => alternative.host call reply failure := by
  change (body.resume _).host call reply failure = (body.host call reply failure).resume _
  induction body with
  | done result => cases result <;> rfl
  | call request next ih =>
    simp only [Program.resume, Program.host]
    congr 1
    funext answer
    exact ih (reply request answer)

end Host

end Embedding

/-- Lets a thread make its next calls, each with its first outcome. -/
def Move.turns (thread calls : Nat) : List (Move Request Environment) :=
  List.replicate calls (.reply thread 0)

/-- A step is permitted where what it answers is. -/
theorem Step.permitted {system : System Request State Environment Reply ε α}
    {permits : Config Request State Reply ε α → Nat → Event Reply → Prop}
    {before after : Config Request State Reply ε α} (step : Step system anyCall before after)
    (permitted : ∀ entry, after.history = entry :: before.history →
      permits before entry.1 entry.2) : Step system permits before after := by
  cases step with
  | begin request => exact .begin before request
  | disturb event => exact .disturb before event
  | reply thread request call next outcome running possible _ =>
    exact .reply before thread request call next outcome running possible (permitted _ rfl)

section Steps

variable (system : System Request State Environment Reply ε α)
variable (check : Config Request State Reply ε α → Config Request State Reply ε α → Bool)

/-- Every step of the schedule passes the check. -/
def Config.steps (config : Config Request State Reply ε α) :
    List (Move Request Environment) → Bool
  | [] => true
  | move :: rest =>
      match config.move system move with
      | none => true
      | some next => check config next && next.steps rest

/-- A schedule whose steps pass the check is a run of the steps that do. -/
theorem Config.follow_steps
    {relation : Config Request State Reply ε α → Config Request State Reply ε α → Prop}
    (related : ∀ before after, Step system anyCall before after → check before after = true →
      relation before after)
    (config : Config Request State Reply ε α) (moves : List (Move Request Environment))
    (passed : config.steps system check moves = true) :
    Relation.ReflTransGen relation config (config.follow system moves) := by
  unfold Config.follow
  cases played : config.play system moves with
  | none => exact .refl
  | some last =>
    rw [Option.getD_some]
    induction moves generalizing config with
    | nil =>
      obtain rfl := Option.some.inj played
      exact .refl
    | cons move rest ih =>
      obtain ⟨next, moved, played'⟩ := Option.bind_eq_some_iff.mp played
      simp only [Config.steps, moved, Bool.and_eq_true] at passed
      have step : Step system anyCall config next :=
        Config.move_step system move moved fun _ _ => trivial
      exact .head (related config next step passed.1) (ih next passed.2 played')

end Steps

/-! ## Clean-up -/

/-- An exception of the clean-up replaces the body's result. -/
def afterCleanup (result : Except ε α) : Except ε Unit → Except ε α
  | .ok _ => result
  | .error failure => .error failure

/-- Runs a clean-up after the body, whether or not the body raises. -/
def Program.finally (body : Program Reply ε α) (cleanup : Program Reply ε Unit) :
    Program Reply ε α :=
  body.resume fun result => cleanup.resume fun outcome => .done (afterCleanup result outcome)

@[simp] theorem Program.meets_finally {discipline : Discipline Reply} (body : Program Reply ε α)
    (cleanup : Program Reply ε Unit) {post : Except ε α → List (Event Reply) → Prop}
    {trace : List (Event Reply)} :
    (body.finally cleanup).Meets discipline post trace ↔
      body.Meets discipline (fun result =>
        cleanup.Meets discipline fun outcome => post (afterCleanup result outcome)) trace := by
  rw [Program.finally, Program.meets_resume]
  refine iff_of_eq (congrArg (fun goal => body.Meets discipline goal trace) ?_)
  funext result later
  exact propext (Program.meets_resume _ _)

end Interleaving
