import MysticAuth.Interleaving.Histories

/-!
# Programs that run alone

A program without competition is specified over the states it goes through:
what it is answered depends on the state alone.  It is never blocked, and
every way its calls may be answered ends in the postcondition.
-/

set_option autoImplicit false

namespace Interleaving

variable {Request State Environment Call : Type} {Reply : Call → Type} {ε ε' α β : Type}

namespace Program

section Specifications

variable (outcomes : (call : Call) → State → List (Reply call × State))
variable (answers : (call : Call) → Reply call → Prop)

/-- Nothing but this program acts, and calls get only the answers in question. -/
def Alone : Program Reply ε α → (Except ε α → State → Prop) → State → Prop
  | .done result, post, state => post result state
  | .call request next, post, state =>
      (∃ outcome ∈ outcomes request state, answers request outcome.1) ∧
        ∀ outcome ∈ outcomes request state, answers request outcome.1 →
          (next outcome.1).Alone post outcome.2

variable {outcomes answers} {post post' : Except ε α → State → Prop} {state : State}

@[simp] theorem alone_pure (value : α) :
    (pure value : Program Reply ε α).Alone outcomes answers post state ↔ post (.ok value) state :=
  Iff.rfl

@[simp] theorem alone_throw (failure : ε) :
    (throw failure : Program Reply ε α).Alone outcomes answers post state ↔
      post (.error failure) state :=
  Iff.rfl

theorem Alone.mono {program : Program Reply ε α} (alone : program.Alone outcomes answers post state)
    (weaker : ∀ result later, post result later → post' result later) :
    program.Alone outcomes answers post' state := by
  induction program generalizing state with
  | done result => exact weaker result state alone
  | call request next ih =>
    exact ⟨alone.1, fun outcome possible answered =>
      ih outcome.1 (alone.2 outcome possible answered)⟩

end Specifications

end Program

/-! ## Runs of a single thread -/

section Runs

variable {system : System Request State Environment Reply ε α}
variable {answers : (call : Call) → Reply call → Prop}
variable {post : Except ε α → State → Prop} {request : Request} {state : State}
variable {config : Config Request State Reply ε α}

/-- Calls get only the answers in question. -/
def answering (answers : (call : Call) → Reply call → Prop)
    (_ : Config Request State Reply ε α) (_ : Nat) (event : Event Reply) : Prop :=
  answers event.1 event.2

/-- The first thread is the only one, and what is left of its program leads to `post`. -/
def Config.AloneTo (system : System Request State Environment Reply ε α)
    (answers : (call : Call) → Reply call → Prop) (post : Except ε α → State → Prop)
    (request : Request) (config : Config Request State Reply ε α) : Prop :=
  ∀ program, config.threads = [⟨request, program⟩] →
    program.Alone (system.outcomes 0) answers post config.state

theorem Step.aloneTo [IsEmpty Environment] {before after : Config Request State Reply ε α}
    (step : Step system (answering answers) before after)
    (fresh : before.threads = [] →
      (system.handle request).Alone (system.outcomes 0) answers post before.state)
    (holds : before.AloneTo system answers post request) :
    after.AloneTo system answers post request := by
  cases step with
  | begin other =>
    intro program single
    simp only [Config.begin] at single
    obtain ⟨none, isThread⟩ := List.append_eq_singleton_iff.mp single |>.resolve_right fun both =>
      absurd both.2 (List.cons_ne_nil _ _)
    obtain ⟨rfl, rfl⟩ := Thread.mk.inj (List.cons.inj isThread).1
    exact fresh none
  | disturb event => exact isEmptyElim event
  | reply thread other call next outcome running possible permitted =>
    intro program single
    simp only [Config.reply] at single
    have length : before.threads.length = 1 := by
      simpa using congrArg List.length single
    obtain ⟨only, isOnly⟩ := List.length_eq_one_iff.mp length
    have bound := (List.getElem?_eq_some_iff.mp running).1
    obtain rfl : thread = 0 := by omega
    rw [isOnly] at running single
    obtain rfl := Option.some.inj running
    obtain ⟨rfl, rfl⟩ := Thread.mk.inj (List.cons.inj single).1
    exact (holds _ isOnly).2 outcome possible permitted

/-- What a program does alone, every run does in which it is the only thread. -/
theorem Reaches.alone [IsEmpty Environment]
    (run : Reaches system (answering answers) (Config.start state) config)
    (alone : (system.handle request).Alone (system.outcomes 0) answers post state)
    {result : Except ε α} (finished : config.threads = [⟨request, .done result⟩]) :
    post result config.state := by
  have kept : (config.threads = [] → config.state = state) ∧
      config.AloneTo system answers post request := by
    refine run.preserves (fun config => (config.threads = [] → config.state = state) ∧
      config.AloneTo system answers post request) ⟨fun _ => rfl, ?_⟩ ?_
    · intro program single
      cases single
    · rintro before after - ⟨untouched, holds⟩ step
      refine ⟨fun none => ?_, step.aloneTo (fun none => by rw [untouched none]; exact alone) holds⟩
      cases step with
      | begin other => exact absurd none (by simp [Config.begin])
      | disturb event => exact isEmptyElim event
      | reply thread other call next outcome running possible permitted =>
        have empty : before.threads = [] := by simpa [Config.reply] using none
        rw [empty] at running
        cases running
  exact kept.2 _ finished

/-- And there is such a run, up to the end. -/
theorem Program.Alone.reaches (request : Request) {program : Program Reply ε α}
    (alone : program.Alone (system.outcomes 0) answers post state)
    (history : List (Nat × Event Reply)) :
    ∃ config, Reaches system (answering answers) ⟨state, [⟨request, program⟩], history⟩ config ∧
      ∃ result, config.threads = [⟨request, .done result⟩] ∧ post result config.state := by
  induction program generalizing state history with
  | done result => exact ⟨_, .refl, result, rfl, alone⟩
  | call call next ih =>
    obtain ⟨⟨outcome, possible, answered⟩, onward⟩ := alone
    obtain ⟨config, run, ended⟩ := ih outcome.1 (onward outcome possible answered)
      ((0, ⟨call, outcome.1⟩) :: history)
    exact ⟨config, .head (.reply _ 0 request call next outcome rfl possible answered) run, ended⟩

theorem Program.Alone.run (alone : (system.handle request).Alone (system.outcomes 0) answers post
    state) : ∃ config, Reaches system (answering answers) (Config.start state) config ∧
      ∃ result, config.threads = [⟨request, .done result⟩] ∧ post result config.state := by
  obtain ⟨config, run, ended⟩ := alone.reaches request []
  exact ⟨config, .head (.begin _ request) run, ended⟩

end Runs

end Interleaving
