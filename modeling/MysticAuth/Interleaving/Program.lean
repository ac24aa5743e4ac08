import Mathlib.Data.List.Basic

/-!
# Programs that call a shared store

A program is a tree of calls, each followed by a continuation for every reply.
Its calls and results are specified over the trace of what it has called so
far, newest first, whatever other programs do to the store in between.
-/

set_option autoImplicit false

namespace Interleaving

variable {Call : Type} {Reply : Call → Type} {ε ε' α β : Type}

/-- A call together with the reply it got. -/
abbrev Event (Reply : Call → Type) :=
  (call : Call) × Reply call

inductive Program (Reply : Call → Type) (ε α : Type) where
  | done (result : Except ε α)
  | call (request : Call) (next : Reply request → Program Reply ε α)

namespace Program

def bind : Program Reply ε α → (α → Program Reply ε β) → Program Reply ε β
  | .done (.ok value), rest => rest value
  | .done (.error failure), _ => .done (.error failure)
  | .call request next, rest => .call request fun reply => (next reply).bind rest

/-- Runs the program to its result and continues with the result, value or exception. -/
def resume : Program Reply ε α → (Except ε α → Program Reply ε' β) → Program Reply ε' β
  | .done result, rest => rest result
  | .call request next, rest => .call request fun reply => (next reply).resume rest

instance : Monad (Program Reply ε) where
  pure value := .done (.ok value)
  bind := bind

instance : MonadExcept ε (Program Reply ε) where
  throw failure := .done (.error failure)
  tryCatch body handler := body.resume fun
    | .ok value => .done (.ok value)
    | .error failure => handler failure

/-- One call whose reply is the value. -/
def perform (request : Call) : Program Reply ε (Reply request) :=
  .call request fun reply => .done (.ok reply)

/-- One call whose reply is a value or an exception. -/
def attempt (request : Call) (result : Reply request → Except ε α) : Program Reply ε α :=
  .call request fun reply => .done (result reply)

end Program

/-! ## Specifications over traces -/

/-- What a program may call after a trace, and what a call may be answered. -/
structure Discipline (Reply : Call → Type) where
  allows : List (Event Reply) → Call → Prop
  answers : (call : Call) → Reply call → Prop

namespace Program

variable (discipline : Discipline Reply)

/-- Every call made after `trace` is allowed, and every result meets `post` there. -/
def Meets : Program Reply ε α → (Except ε α → List (Event Reply) → Prop) → List (Event Reply) → Prop
  | .done result, post, trace => post result trace
  | .call request next, post, trace =>
      discipline.allows trace request ∧ ∀ reply, discipline.answers request reply →
        (next reply).Meets post (⟨request, reply⟩ :: trace)

variable {discipline} {post post' : Except ε α → List (Event Reply) → Prop}
variable {trace : List (Event Reply)}

@[simp] theorem meets_pure (value : α) :
    (pure value : Program Reply ε α).Meets discipline post trace ↔ post (.ok value) trace :=
  Iff.rfl

@[simp] theorem meets_throw (failure : ε) :
    (throw failure : Program Reply ε α).Meets discipline post trace ↔
      post (.error failure) trace :=
  Iff.rfl

@[simp] theorem meets_perform (request : Call)
    {post : Except ε (Reply request) → List (Event Reply) → Prop} :
    (perform request : Program Reply ε (Reply request)).Meets discipline post trace ↔
      discipline.allows trace request ∧ ∀ reply, discipline.answers request reply →
        post (.ok reply) (⟨request, reply⟩ :: trace) :=
  Iff.rfl

@[simp] theorem meets_attempt (request : Call) (result : Reply request → Except ε α) :
    (attempt request result).Meets discipline post trace ↔
      discipline.allows trace request ∧ ∀ reply, discipline.answers request reply →
        post (result reply) (⟨request, reply⟩ :: trace) :=
  Iff.rfl

theorem meets_resume (program : Program Reply ε α) (rest : Except ε α → Program Reply ε' β)
    {post : Except ε' β → List (Event Reply) → Prop} :
    (program.resume rest).Meets discipline post trace ↔
      program.Meets discipline (fun result => (rest result).Meets discipline post) trace := by
  induction program generalizing trace with
  | done result => rfl
  | call request next ih =>
    simp only [resume, Meets, ih]

@[simp] theorem meets_bind (program : Program Reply ε α) (rest : α → Program Reply ε β)
    {post : Except ε β → List (Event Reply) → Prop} :
    (program >>= rest).Meets discipline post trace ↔
      program.Meets discipline (fun result later => match result with
        | .ok value => (rest value).Meets discipline post later
        | .error failure => post (.error failure) later) trace := by
  change (program.bind rest).Meets discipline post trace ↔ _
  induction program generalizing trace with
  | done result => cases result <;> rfl
  | call request next ih => simp only [bind, Meets, ih]

@[simp] theorem meets_tryCatch (body : Program Reply ε α) (handler : ε → Program Reply ε α) :
    (tryCatch body handler).Meets discipline post trace ↔
      body.Meets discipline (fun result later => match result with
        | .ok value => post (.ok value) later
        | .error failure => (handler failure).Meets discipline post later) trace := by
  change (body.resume _).Meets discipline post trace ↔ _
  rw [meets_resume]
  have same : (fun result : Except ε α => (match result with
      | .ok value => (.done (.ok value) : Program Reply ε α)
      | .error failure => handler failure).Meets discipline post) =
      fun result later => match result with
        | .ok value => post (.ok value) later
        | .error failure => (handler failure).Meets discipline post later := by
    funext result later
    cases result <;> rfl
  exact iff_of_eq (congrArg (fun goal => body.Meets discipline goal trace) same)

theorem Meets.mono {program : Program Reply ε α} (meets : program.Meets discipline post trace)
    (weaker : ∀ result later, trace <:+ later → post result later → post' result later) :
    program.Meets discipline post' trace := by
  induction program generalizing trace with
  | done result => exact weaker result trace (List.suffix_refl trace) meets
  | call request next ih =>
    refine ⟨meets.1, fun reply answered => ih reply (meets.2 reply answered) ?_⟩
    intro result later extended holds
    exact weaker result later ((List.suffix_cons _ _).trans extended) holds

theorem Meets.and {program : Program Reply ε α} (meets : program.Meets discipline post trace)
    (meets' : program.Meets discipline post' trace) :
    program.Meets discipline (fun result later => post result later ∧ post' result later) trace := by
  induction program generalizing trace with
  | done result => exact ⟨meets, meets'⟩
  | call request next ih =>
    exact ⟨meets.1, fun reply answered => ih reply (meets.2 reply answered) (meets'.2 reply answered)⟩

/-! ## Programs confined to a kind of call -/

/-- Whatever it is answered, the program makes only calls of the given kind. -/
def Confined (kind : Call → Prop) : Program Reply ε α → Prop
  | .done _ => True
  | .call request next => kind request ∧ ∀ reply, (next reply).Confined kind

variable {kind : Call → Prop}

@[simp] theorem confined_pure (value : α) :
    (pure value : Program Reply ε α).Confined kind :=
  trivial

@[simp] theorem confined_throw (failure : ε) :
    (throw failure : Program Reply ε α).Confined kind :=
  trivial

@[simp] theorem confined_perform (request : Call) :
    (perform request : Program Reply ε (Reply request)).Confined kind ↔ kind request :=
  ⟨fun confined => confined.1, fun isKind => ⟨isKind, fun _ => trivial⟩⟩

@[simp] theorem confined_attempt (request : Call) (result : Reply request → Except ε α) :
    (attempt request result).Confined kind ↔ kind request :=
  ⟨fun confined => confined.1, fun isKind => ⟨isKind, fun _ => trivial⟩⟩

theorem confined_resume (program : Program Reply ε α) (rest : Except ε α → Program Reply ε' β)
    (body : program.Confined kind) (tail : ∀ result, (rest result).Confined kind) :
    (program.resume rest).Confined kind := by
  induction program with
  | done result => exact tail result
  | call request next ih => exact ⟨body.1, fun reply => ih reply (body.2 reply)⟩

theorem confined_of_resume (program : Program Reply ε α) (rest : Except ε α → Program Reply ε' β)
    (confined : (program.resume rest).Confined kind) : program.Confined kind := by
  induction program with
  | done result => trivial
  | call request next ih => exact ⟨confined.1, fun reply => ih reply (confined.2 reply)⟩

theorem confined_bind (program : Program Reply ε α) (rest : α → Program Reply ε β)
    (body : program.Confined kind) (tail : ∀ value, (rest value).Confined kind) :
    (program >>= rest).Confined kind := by
  change (program.bind rest).Confined kind
  induction program with
  | done result =>
    cases result with
    | ok value => exact tail value
    | error failure => trivial
  | call request next ih => exact ⟨body.1, fun reply => ih reply (body.2 reply)⟩

theorem confined_tryCatch (body : Program Reply ε α) (handler : ε → Program Reply ε α)
    (inside : body.Confined kind) (caught : ∀ failure, (handler failure).Confined kind) :
    (tryCatch body handler).Confined kind := by
  refine confined_resume body _ inside fun result => ?_
  cases result with
  | ok value => trivial
  | error failure => exact caught failure

/-- A confined program adds only events of its kind, whatever else it computes. -/
theorem Confined.meets {program : Program Reply ε α} (confined : program.Confined kind)
    (allowed : ∀ later, trace <:+ later → ∀ request, kind request →
      discipline.allows later request)
    (returns : ∀ result added, (∀ event ∈ added, kind event.1) →
      post result (added ++ trace)) : program.Meets discipline post trace := by
  induction program generalizing trace with
  | done result => exact returns result [] (by simp)
  | call request next ih =>
    refine ⟨allowed trace (List.suffix_refl trace) request confined.1, fun reply _ => ?_⟩
    refine ih reply (confined.2 reply) ?_ ?_
    · intro later extended
      exact allowed later ((List.suffix_cons _ _).trans extended)
    · intro result added isKind
      have whole := returns result (added ++ [⟨request, reply⟩]) (by
        intro event member
        rcases List.mem_append.mp member with inAdded | isLast
        · exact isKind event inAdded
        · rw [List.mem_singleton.mp isLast]
          exact confined.1)
      simpa using whole

end Program

end Interleaving
