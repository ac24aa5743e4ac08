import MysticAuth.Interleaving.Histories

/-!
# Programs that make boundedly many calls

A bound on a program holds for every sequence of replies.  It adds up where
programs continue each other, and it bounds the trace of every thread of a run.
-/

set_option autoImplicit false

namespace Interleaving

variable {Request State Environment Call : Type} {Reply : Call → Type} {ε ε' α β : Type}

namespace Program

/-- Whatever it is answered, the program makes at most so many calls. -/
def AtMost : Program Reply ε α → Nat → Prop
  | .done _, _ => True
  | .call _ _, 0 => False
  | .call _ next, bound + 1 => ∀ reply, (next reply).AtMost bound

variable {program : Program Reply ε α} {bound bound' : Nat}

theorem AtMost.mono (atMost : program.AtMost bound) (le : bound ≤ bound') :
    program.AtMost bound' := by
  induction program generalizing bound bound' with
  | done result => trivial
  | call request next ih =>
    cases bound with
    | zero => exact atMost.elim
    | succ bound =>
      cases bound' with
      | zero => omega
      | succ bound' => exact fun reply => ih reply (atMost reply) (by omega)

theorem AtMost.resume {rest : Except ε α → Program Reply ε' β} (body : program.AtMost bound)
    (tail : ∀ result, (rest result).AtMost bound') :
    (program.resume rest).AtMost (bound + bound') := by
  induction program generalizing bound with
  | done result => exact (tail result).mono (by omega)
  | call request next ih =>
    cases bound with
    | zero => exact body.elim
    | succ bound =>
      rw [show bound + 1 + bound' = bound + bound' + 1 by omega]
      exact fun reply => ih reply (body reply)

/-- No call is made once the bound is reached. -/
def callsBelow (Reply : Call → Type) (bound : Nat) : Discipline Reply where
  allows trace _ := trace.length < bound
  answers _ _ := True

theorem AtMost.meets (atMost : program.AtMost bound) (trace : List (Event Reply)) :
    program.Meets (callsBelow Reply (trace.length + bound)) (fun _ _ => True) trace := by
  induction program generalizing bound trace with
  | done result => trivial
  | call request next ih =>
    cases bound with
    | zero => exact atMost.elim
    | succ bound =>
      refine ⟨by simp only [callsBelow]; omega, fun reply _ => ?_⟩
      have rest := ih reply (atMost reply) (⟨request, reply⟩ :: trace)
      rw [List.length_cons, show trace.length + 1 + bound = trace.length + (bound + 1) by omega]
        at rest
      exact rest

end Program

/-- A bound on the programs bounds what each thread has called. -/
theorem Reaches.calls_le {system : System Request State Environment Reply ε α}
    {permits : Config Request State Reply ε α → Nat → Event Reply → Prop}
    {config : Config Request State Reply ε α} {state : State} {bound : Nat}
    (run : Reaches system permits (Config.start state) config)
    (atMost : ∀ request, (system.handle request).AtMost bound) (thread : Nat) :
    (config.trace thread).length ≤ bound := by
  have obeys : system.Obeys (fun _ => Program.callsBelow Reply bound) (fun _ _ _ => True) := by
    refine ⟨fun request => ?_, fun _ _ _ _ _ _ => trivial⟩
    have meets := (atMost request).meets []
    rw [List.length_nil, Nat.zero_add] at meets
    exact meets
  rcases Nat.lt_or_ge thread config.threads.length with begun | fresh
  · exact run.traces obeys (fun _ trace => trace.length ≤ bound) (fun _ => Nat.zero_le _)
      (fun _ _ _ allowed _ => allowed) (List.getElem?_eq_getElem begun)
  · rw [(run.attributed (Config.attributed_start state)).trace_eq_nil fresh]
    exact Nat.zero_le _

end Interleaving
