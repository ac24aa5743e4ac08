import MysticAuth.Interleaving.Histories

/-!
# Tickets that are taken once

A state holds a ticket or does not.  Where every take uses up a ticket and only
an issue brings one, there are never more takes than issues.
-/

set_option autoImplicit false

namespace Interleaving

variable {Request State Environment Call : Type} {Reply : Call → Type} {ε α : Type}

/-! ## Counts along a run -/

/-- A take uses up the ticket of a state, and only an issue brings one. -/
structure Ticketed (system : System Request State Environment Reply ε α) (holds : State → Bool)
    (issues takes : Event Reply → Bool) : Prop where
  disturbed : ∀ event state, holds (system.disturb event state) = true → holds state = true
  answered : ∀ thread call state outcome, outcome ∈ system.outcomes thread call state →
    (takes ⟨call, outcome.1⟩).toNat + (holds outcome.2).toNat ≤
      (holds state).toNat + (issues ⟨call, outcome.1⟩).toNat

section Runs

variable {system : System Request State Environment Reply ε α} {holds : State → Bool}
variable {issues takes : Event Reply → Bool}
variable {permits : Config Request State Reply ε α → Nat → Event Reply → Prop}
variable {start : State} {config : Config Request State Reply ε α}

theorem Ticketed.takes_le (ticketed : Ticketed system holds issues takes)
    (run : Reaches system permits (Config.start start) config) :
    config.history.countP (fun entry => takes entry.2) + (holds config.state).toNat ≤
      config.history.countP (fun entry => issues entry.2) + (holds start).toNat := by
  refine run.keeps (fun state history =>
    history.countP (fun entry => takes entry.2) + (holds state).toNat ≤
      history.countP (fun entry => issues entry.2) + (holds start).toNat) (by simp [Config.start])
    ?_ ?_
  · intro event state history bounded
    have kept := ticketed.disturbed event state
    cases later : holds (system.disturb event state) with
    | false => simp only [Bool.toNat_false]; omega
    | true =>
      rw [kept later] at bounded
      exact bounded
  · intro before after thread event _ answers bounded
    have step : (takes event).toNat + (holds after.state).toNat ≤
        (holds before.state).toNat + (issues event).toNat :=
      ticketed.answered thread event.1 before.state _ answers.possible
    have one : ∀ p : Event Reply → Bool,
        ((thread, event) :: before.history).countP (fun entry => p entry.2) =
          before.history.countP (fun entry => p entry.2) + (p event).toNat := by
      intro p
      rw [List.countP_cons]
      cases p event <;> rfl
    rw [one, one]
    omega

/-- A ticket that nobody held at the start was issued. -/
theorem Ticketed.issued (ticketed : Ticketed system holds issues takes)
    (run : Reaches system permits (Config.start start) config) (none : holds start = false)
    (held : holds config.state = true) : ∃ entry ∈ config.history, issues entry.2 = true := by
  have bounded := ticketed.takes_le run
  rw [none, held] at bounded
  simp only [Bool.toNat_true, Bool.toNat_false] at bounded
  have some : 0 < config.history.countP fun entry => issues entry.2 := by omega
  exact List.countP_pos_iff.mp some

end Runs

/-! ## Counts by thread -/

theorem countP_split (history : List (Nat × Event Reply)) (p : Nat → Event Reply → Bool)
    (thread : Nat) :
    history.countP (fun entry => p entry.1 entry.2) =
      (traceOf history thread).countP (p thread) +
        (history.filter fun entry => entry.1 ≠ thread).countP (fun entry => p entry.1 entry.2) := by
  induction history with
  | nil => rfl
  | cons entry rest ih =>
    obtain ⟨actor, event⟩ := entry
    by_cases own : actor = thread
    · subst own
      rw [traceOf_cons_self, List.filter_cons_of_neg (by simp), List.countP_cons, List.countP_cons,
        ih]
      exact Nat.add_right_comm _ _ _
    · rw [traceOf_cons_ne rest own, List.filter_cons_of_pos (by simpa using own), List.countP_cons,
        List.countP_cons, ih]
      omega

theorem traceOf_others (history : List (Nat × Event Reply)) {thread other : Nat}
    (differs : other ≠ thread) :
    traceOf (history.filter fun entry => entry.1 ≠ thread) other = traceOf history other := by
  induction history with
  | nil => rfl
  | cons entry rest ih =>
    obtain ⟨actor, event⟩ := entry
    by_cases own : actor = thread
    · subst own
      rw [List.filter_cons_of_neg (by simp), traceOf_cons_ne rest (Ne.symm differs), ih]
    · rw [List.filter_cons_of_pos (by simpa using own)]
      by_cases isOther : actor = other
      · subst isOther
        rw [traceOf_cons_self, traceOf_cons_self, ih]
      · rw [traceOf_cons_ne _ isOther, traceOf_cons_ne _ isOther, ih]

/-- What holds of the counts in each trace holds of the counts in the history. -/
theorem countP_le_of_traces {p q : Nat → Event Reply → Bool} (history : List (Nat × Event Reply))
    (each : ∀ thread, (traceOf history thread).countP (p thread) ≤
      (traceOf history thread).countP (q thread)) :
    history.countP (fun entry => p entry.1 entry.2) ≤
      history.countP (fun entry => q entry.1 entry.2) := by
  induction size : history.length using Nat.strongRecOn generalizing history with
  | ind length ih =>
    cases history with
    | nil => simp
    | cons entry rest =>
      have own := each entry.1
      have shorter : ((entry :: rest).filter fun other => other.1 ≠ entry.1).length < length := by
        rw [List.filter_cons_of_neg (by simp), ← size, List.length_cons]
        exact Nat.lt_succ_of_le (List.length_filter_le _ _)
      have others := ih _ shorter ((entry :: rest).filter fun other => other.1 ≠ entry.1) (by
        intro thread
        by_cases isOwn : thread = entry.1
        · subst isOwn
          have empty : traceOf ((entry :: rest).filter fun other => other.1 ≠ entry.1) entry.1 =
              [] := by
            rw [traceOf, List.filterMap_eq_nil_iff]
            intro other member
            have differs := of_decide_eq_true (List.mem_filter.mp member).2
            rw [if_neg differs]
          rw [empty]
          exact Nat.le_refl _
        · rw [traceOf_others _ isOwn]
          exact each thread) rfl
      rw [countP_split (entry :: rest) p entry.1, countP_split (entry :: rest) q entry.1]
      omega

end Interleaving
