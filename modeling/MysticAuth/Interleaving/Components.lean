import MysticAuth.Interleaving.Histories

/-!
# Components of a system

The calls of a component may be made by the programs of a larger system, among
calls of other kinds.  What the component's own calls keep to at home, judged
by nothing but its own history, they keep to there.
-/

set_option autoImplicit false

namespace Interleaving

variable {Call Call' : Type} {Reply : Call → Type} {Reply' : Call' → Type} {ε α : Type}

/-- How a component's calls are made in a larger system, and which events of that are its own. -/
structure Component (Reply : Call → Type) (Reply' : Call' → Type) where
  call : Call → Call'
  reply : ∀ request, Reply' (call request) → Reply request
  event : Event Reply' → Option (Event Reply)
  injective : Function.Injective call
  event_call : ∀ request answer,
    event ⟨call request, answer⟩ = some ⟨request, reply request answer⟩

namespace Component

variable (component : Component Reply Reply')

def trace (trace : List (Event Reply')) : List (Event Reply) :=
  trace.filterMap component.event

def history (history : List (Nat × Event Reply')) : List (Nat × Event Reply) :=
  history.filterMap fun entry => (component.event entry.2).map (entry.1, ·)

/-- A program of the component as one of the larger system. -/
def embed (program : Program Reply ε α) : Program Reply' ε α :=
  program.embed component.call component.reply

variable {component} {trace : List (Event Reply')} {history : List (Nat × Event Reply')}

theorem trace_own (request : Call) (answer : Reply' (component.call request)) :
    component.trace (⟨component.call request, answer⟩ :: trace) =
      ⟨request, component.reply request answer⟩ :: component.trace trace :=
  List.filterMap_cons_some (component.event_call request answer)

theorem trace_other {event : Event Reply'} (other : component.event event = none) :
    component.trace (event :: trace) = component.trace trace :=
  List.filterMap_cons_none other

theorem history_own (thread : Nat) {event : Event Reply'} {inner : Event Reply}
    (own : component.event event = some inner) :
    component.history ((thread, event) :: history) = (thread, inner) :: component.history history := by
  apply List.filterMap_cons_some
  rw [own]
  rfl

theorem history_other (thread : Nat) {event : Event Reply'}
    (other : component.event event = none) :
    component.history ((thread, event) :: history) = component.history history := by
  apply List.filterMap_cons_none
  rw [other]
  rfl

/-- Of a thread, the component sees what the thread has called of it. -/
theorem traceOf_history (thread : Nat) :
    traceOf (component.history history) thread = component.trace (traceOf history thread) := by
  induction history with
  | nil => rfl
  | cons entry rest ih =>
    obtain ⟨actor, event⟩ := entry
    cases own : component.event event with
    | none =>
      rw [history_other actor own, ih]
      by_cases isThread : actor = thread
      · subst isThread
        rw [traceOf_cons_self, trace_other own]
      · rw [traceOf_cons_ne rest isThread]
    | some inner =>
      rw [history_own actor own]
      by_cases isThread : actor = thread
      · subst isThread
        rw [traceOf_cons_self, traceOf_cons_self, ih]
        exact (List.filterMap_cons_some own).symm
      · rw [traceOf_cons_ne _ isThread, traceOf_cons_ne rest isThread, ih]

section Disciplines

variable {inner : Discipline Reply} {outer : Discipline Reply'} {program : Program Reply ε α}
variable {post : Except ε α → List (Event Reply) → Prop}

/-- An embedded program keeps to every discipline of the larger system that allows what its own
allows. -/
theorem embed_meets (meets : program.Meets inner post (component.trace trace))
    (allowed : ∀ later request, trace <:+ later →
      inner.allows (component.trace later) request → outer.allows later (component.call request))
    (answered : ∀ request answer, outer.answers (component.call request) answer →
      inner.answers request (component.reply request answer)) :
    (component.embed program).Meets outer
      (fun result later => trace <:+ later ∧ post result (component.trace later)) trace := by
  induction program generalizing trace with
  | done result => exact ⟨List.suffix_refl trace, meets⟩
  | call request next ih =>
    refine ⟨allowed trace request (List.suffix_refl trace) meets.1, fun answer isAnswer => ?_⟩
    have onward := meets.2 (component.reply request answer) (answered request answer isAnswer)
    rw [← trace_own request answer] at onward
    refine (ih _ onward fun later other extended => ?_).mono ?_
    · exact allowed later other ((List.suffix_cons _ _).trans extended)
    · rintro result later - ⟨extended, returned⟩
      exact ⟨(List.suffix_cons _ _).trans extended, returned⟩

end Disciplines

end Component

end Interleaving
