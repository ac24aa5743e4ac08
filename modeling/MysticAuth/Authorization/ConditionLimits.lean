import MysticAuth.Authorization.ConditionValidator
import Mathlib.Data.List.TakeWhile

/-!
# The size guard of a condition block

The guard walks a block with an explicit stack.  Here the loop is taken pass by
pass, and what it accepts is said by recursion over the block.
-/

set_option autoImplicit false

namespace MysticAuth.ConditionLimits

open Python

/-! ## The loop -/

/-- The variables of `_validate_size_and_depth`. -/
structure Walk where
  errors : List ConditionError
  stack : List (Json × Nat)
  nodeCount : Nat

def Walk.start (conditions : Json) : Walk :=
  ⟨[], [(conditions, 0)], 0⟩

/-- `for key, value in node.items()`: a long key ends this loop and not the walk. -/
def pushEntries (depth : Nat) :
    List (String × Json) → List (Json × Nat) → List ConditionError × List (Json × Nat)
  | [], stack => ([], stack)
  | (key, value) :: entries, stack =>
      if key.length > maxConditionStringLength then ([.keyTooLong], stack)
      else pushEntries depth entries ((value, depth + 1) :: stack)

/-- One pass through the body of `while stack`: the variables after it, or what is returned. -/
def Walk.pass (walk : Walk) : Walk ⊕ List ConditionError :=
  match walk.stack with
  | [] => .inr walk.errors
  | (node, depth) :: stack =>
      let nodeCount := walk.nodeCount + 1
      if nodeCount > maxConditionNodes then .inr (walk.errors ++ [.tooManyNodes])
      else if depth > maxConditionDepth then .inr (walk.errors ++ [.tooDeep])
      else
        match node with
        | .obj keys values =>
            let (problems, stack) := pushEntries depth (keys.val.zip values) stack
            .inl ⟨walk.errors ++ problems, stack, nodeCount⟩
        | .arr items =>
            .inl ⟨walk.errors, (items.map fun item => (item, depth + 1)).reverse ++ stack, nodeCount⟩
        | .str text =>
            if text.length > maxConditionStringLength then .inr (walk.errors ++ [.stringTooLong])
            else .inl ⟨walk.errors, stack, nodeCount⟩
        | _ => .inl ⟨walk.errors, stack, nodeCount⟩

/-- The loop ends and the errors are returned. -/
inductive Walk.Returns : Walk → List ConditionError → Prop
  | ends {walk errors} (last : walk.pass = .inr errors) : Returns walk errors
  | again {walk next errors} (more : walk.pass = .inl next) (rest : Returns next errors) :
      Returns walk errors

/-- The read-side replacement of a block that the guard rejects. -/
def omittedConditions : Json :=
  .obj ⟨["_error"], by decide⟩
    [.str "conditions omitted: exceeds size/depth limits, needs repair via direct DB access"]

def sanitizeConditionsForRead (conditions : Json) : Json :=
  if conditions.isNull || (validateSizeAndDepth conditions).isEmpty then conditions
  else omittedConditions

/-! ## The limits, by recursion -/

mutual

/-- The nodes of a block with their depths, a block before what it contains. -/
def nodesFrom (depth : Nat) : Json → List (Json × Nat)
  | .arr items => (.arr items, depth) :: nodesOfItems (depth + 1) items
  | .obj keys values => (.obj keys values, depth) :: nodesOfEntries (depth + 1) keys.val values
  | leaf => [(leaf, depth)]

def nodesOfItems (depth : Nat) : List Json → List (Json × Nat)
  | [] => []
  | item :: items => nodesFrom depth item ++ nodesOfItems depth items

def nodesOfEntries (depth : Nat) : List String → List Json → List (Json × Nat)
  | _ :: keys, value :: values => nodesFrom depth value ++ nodesOfEntries depth keys values
  | _, _ => []

end

/-- The keys of an object, or the text of a string. -/
def ownTexts : Json → List String
  | .obj keys values => (keys.val.zip values).map Prod.fst
  | .str text => [text]
  | _ => []

def NodeWithinLimits (node : Json × Nat) : Prop :=
  node.2 ≤ maxConditionDepth ∧
    ∀ text ∈ ownTexts node.1, text.length ≤ maxConditionStringLength

structure WithinLimits (conditions : Json) : Prop where
  nodes : (nodesFrom 0 conditions).length ≤ maxConditionNodes
  depth : ∀ node ∈ nodesFrom 0 conditions, node.2 ≤ maxConditionDepth
  texts : ∀ node ∈ nodesFrom 0 conditions, ∀ text ∈ ownTexts node.1,
    text.length ≤ maxConditionStringLength

/-! ## The loop computes the walk -/

theorem pushEntries_eq (depth : Nat) (entries : List (String × Json))
    (stack : List (Json × Nat)) :
    pushEntries depth entries stack =
      (if (entries.takeWhile fun entry =>
            decide (entry.1.length ≤ maxConditionStringLength)).length < entries.length then
          [.keyTooLong] else [],
        ((entries.takeWhile fun entry =>
            decide (entry.1.length ≤ maxConditionStringLength)).map fun entry =>
          (entry.2, depth + 1)).reverse ++ stack) := by
  induction entries generalizing stack with
  | nil => rfl
  | cons entry entries ih =>
      obtain ⟨key, value⟩ := entry
      by_cases long : key.length > maxConditionStringLength
      · have stops : ¬ key.length ≤ maxConditionStringLength := by omega
        simp [pushEntries, long, stops]
      · have goesOn : key.length ≤ maxConditionStringLength := by omega
        rw [pushEntries, if_neg long, ih]
        simp [goesOn]

/-- What a pass leaves to be reported. -/
def Continues (remaining : Nat) (walk : Walk) : Walk ⊕ List ConditionError → Prop
  | .inr errors => errors = walk.errors ++ walkSizeAndDepth remaining walk.stack
  | .inl next => ∃ less, remaining = less + 1 ∧ next.nodeCount + less = maxConditionNodes ∧
      next.errors ++ walkSizeAndDepth less next.stack =
        walk.errors ++ walkSizeAndDepth remaining walk.stack

theorem pass_continues (remaining : Nat) (walk : Walk)
    (budget : walk.nodeCount + remaining = maxConditionNodes) :
    Continues remaining walk walk.pass := by
  obtain ⟨errors, stack, nodeCount⟩ := walk
  simp only at budget
  cases stack with
  | nil => simp [Continues, Walk.pass, walkSizeAndDepth]
  | cons top stack =>
      obtain ⟨node, depth⟩ := top
      cases remaining with
      | zero =>
          have full : nodeCount + 1 > maxConditionNodes := by omega
          simp [Continues, Walk.pass, walkSizeAndDepth, full]
      | succ remaining =>
          have room : ¬ nodeCount + 1 > maxConditionNodes := by omega
          have counted : nodeCount + 1 + remaining = maxConditionNodes := by omega
          by_cases deep : depth > maxConditionDepth
          · simp [Continues, Walk.pass, walkSizeAndDepth, room, deep]
          · cases node with
            | obj keys values =>
                simp only [Walk.pass, if_neg room, if_neg deep, pushEntries_eq]
                refine ⟨remaining, rfl, counted, ?_⟩
                simp only [walkSizeAndDepth, if_neg deep, List.append_assoc]
            | arr items =>
                simp only [Walk.pass, if_neg room, if_neg deep]
                refine ⟨remaining, rfl, counted, ?_⟩
                simp only [walkSizeAndDepth, if_neg deep]
            | str text =>
                simp only [Walk.pass, if_neg room, if_neg deep]
                split
                · rename_i long
                  simp only [Continues, walkSizeAndDepth, if_neg deep, if_pos long]
                · rename_i short
                  refine ⟨remaining, rfl, counted, ?_⟩
                  simp only [walkSizeAndDepth, if_neg deep, if_neg short]
            | null | bool | int | float =>
                simp only [Walk.pass, if_neg room, if_neg deep]
                refine ⟨remaining, rfl, counted, ?_⟩
                simp only [walkSizeAndDepth, if_neg deep]

theorem returns_walkSizeAndDepth (remaining : Nat) (walk : Walk)
    (budget : walk.nodeCount + remaining = maxConditionNodes) :
    walk.Returns (walk.errors ++ walkSizeAndDepth remaining walk.stack) := by
  induction remaining generalizing walk with
  | zero =>
      have continues := pass_continues 0 walk budget
      cases passed : walk.pass with
      | inr errors =>
          rw [passed] at continues
          exact continues ▸ Walk.Returns.ends passed
      | inl next =>
          rw [passed] at continues
          obtain ⟨less, absurdity, _⟩ := continues
          omega
  | succ remaining ih =>
      have continues := pass_continues (remaining + 1) walk budget
      cases passed : walk.pass with
      | inr errors =>
          rw [passed] at continues
          exact continues ▸ Walk.Returns.ends passed
      | inl next =>
          rw [passed] at continues
          obtain ⟨less, more, counted, same⟩ := continues
          obtain rfl : remaining = less := by omega
          exact same ▸ Walk.Returns.again passed (ih next counted)

theorem returns_unique (walk : Walk) (errors errors' : List ConditionError)
    (first : walk.Returns errors) (second : walk.Returns errors') : errors = errors' := by
  induction first with
  | ends last =>
      cases second with
      | ends last' => exact Sum.inr.inj (last.symm.trans last')
      | again more _ => simp [last] at more
  | again more _ ih =>
      cases second with
      | ends last => simp [more] at last
      | again more' rest =>
          obtain rfl := Sum.inl.inj (more.symm.trans more')
          exact ih rest

/-- The loop returns, and what it returns is the list of the validator. -/
theorem returns_iff (conditions : Json) (errors : List ConditionError) :
    (Walk.start conditions).Returns errors ↔ errors = validateSizeAndDepth conditions := by
  have returned := returns_walkSizeAndDepth maxConditionNodes (Walk.start conditions)
    (Nat.zero_add _)
  constructor
  · intro returned'
    exact returns_unique _ _ _ returned' returned
  · rintro rfl
    exact returned

/-! ## The walk accepts what is within the limits -/

/-- The nodes that a stack stands for. -/
def nodesOfStack (stack : List (Json × Nat)) : List (Json × Nat) :=
  stack.flatMap fun top => nodesFrom top.2 top.1

theorem nodesOfItems_eq (depth : Nat) (items : List Json) :
    nodesOfItems depth items = nodesOfStack (items.map fun item => (item, depth)) := by
  induction items with
  | nil => rfl
  | cons item items ih =>
      rw [nodesOfItems, ih]
      rfl

theorem nodesOfEntries_eq (depth : Nat) (keys : List String) (values : List Json) :
    nodesOfEntries depth keys values =
      nodesOfStack ((keys.zip values).map fun entry => (entry.2, depth)) := by
  induction values generalizing keys with
  | nil => cases keys <;> rfl
  | cons value values ih =>
      cases keys with
      | nil => rfl
      | cons key keys =>
          rw [nodesOfEntries, ih]
          rfl

/-- At most so many nodes, each of them within its limits. -/
def Within (remaining : Nat) (nodes : List (Json × Nat)) : Prop :=
  nodes.length ≤ remaining ∧ ∀ node ∈ nodes, NodeWithinLimits node

theorem within_perm (remaining : Nat) (nodes nodes' : List (Json × Nat))
    (same : nodes.Perm nodes') : Within remaining nodes ↔ Within remaining nodes' := by
  unfold Within
  rw [same.length_eq]
  simp only [same.mem_iff]

theorem within_cons (remaining : Nat) (node : Json × Nat) (nodes : List (Json × Nat)) :
    Within (remaining + 1) (node :: nodes) ↔ NodeWithinLimits node ∧ Within remaining nodes := by
  unfold Within
  rw [List.forall_mem_cons, List.length_cons]
  constructor
  · intro ⟨short, own, others⟩
    exact ⟨own, by omega, others⟩
  · intro ⟨own, short, others⟩
    exact ⟨by omega, own, others⟩

/-- The children of a node are pushed in reverse. -/
theorem within_pushed (remaining : Nat) (children stack : List (Json × Nat)) :
    Within remaining (nodesOfStack (children.reverse ++ stack)) ↔
      Within remaining (nodesOfStack children ++ nodesOfStack stack) := by
  apply within_perm
  rw [nodesOfStack, List.flatMap_append]
  exact ((List.reverse_perm children).flatMap_right _).append_right _

theorem nodesFrom_head (depth : Nat) (node : Json) :
    ∃ below, nodesFrom depth node = (node, depth) :: below := by
  cases node <;> exact ⟨_, rfl⟩

theorem takeWhile_short (entries : List (String × Json))
    (short : ∀ entry ∈ entries, entry.1.length ≤ maxConditionStringLength) :
    entries.takeWhile (fun entry => decide (entry.1.length ≤ maxConditionStringLength)) =
      entries := by
  apply List.takeWhile_eq_self_iff.mpr
  intro entry member
  exact decide_eq_true (short entry member)

/-- A long key is where the walk of an object stops short. -/
theorem length_takeWhile_lt (entries : List (String × Json))
    (long : ¬ ∀ entry ∈ entries, entry.1.length ≤ maxConditionStringLength) :
    (entries.takeWhile fun entry =>
      decide (entry.1.length ≤ maxConditionStringLength)).length < entries.length := by
  apply lt_of_le_of_ne (List.takeWhile_prefix _).length_le
  intro whole
  have all := (List.takeWhile_prefix _).eq_of_length whole
  apply long
  intro entry member
  exact of_decide_eq_true (List.takeWhile_eq_self_iff.mp all entry member)

theorem walk_obj (remaining depth : Nat) (keys : UniqueKeys) (values : List Json)
    (stack : List (Json × Nat)) (shallow : depth ≤ maxConditionDepth)
    (ih : ∀ stack, walkSizeAndDepth remaining stack = [] ↔ Within remaining (nodesOfStack stack)) :
    walkSizeAndDepth (remaining + 1) ((.obj keys values, depth) :: stack) = [] ↔
      Within (remaining + 1) (nodesOfStack ((.obj keys values, depth) :: stack)) := by
  have below : nodesOfStack ((.obj keys values, depth) :: stack) =
      (.obj keys values, depth) ::
        (nodesOfStack ((keys.val.zip values).map fun entry => (entry.2, depth + 1)) ++
          nodesOfStack stack) := by
    rw [← nodesOfEntries_eq]
    rfl
  have own : NodeWithinLimits (.obj keys values, depth) ↔
      ∀ entry ∈ keys.val.zip values, entry.1.length ≤ maxConditionStringLength := by
    simp only [NodeWithinLimits, ownTexts, List.forall_mem_map]
    exact and_iff_right shallow
  rw [below, within_cons, own, ← within_pushed, ← ih]
  simp only [walkSizeAndDepth, if_neg shallow.not_gt]
  by_cases short : ∀ entry ∈ keys.val.zip values, entry.1.length ≤ maxConditionStringLength
  · rw [takeWhile_short _ short, if_neg (lt_irrefl _), List.nil_append]
    exact (and_iff_right short).symm
  · rw [if_pos (length_takeWhile_lt _ short), and_iff_left_of_imp (fun own => absurd own short)]
    simpa using short

theorem walk_eq_nil_iff (remaining : Nat) (stack : List (Json × Nat)) :
    walkSizeAndDepth remaining stack = [] ↔ Within remaining (nodesOfStack stack) := by
  induction remaining generalizing stack with
  | zero =>
      cases stack with
      | nil => simp [walkSizeAndDepth, nodesOfStack, Within]
      | cons top stack =>
          obtain ⟨below, head⟩ := nodesFrom_head top.2 top.1
          simp [walkSizeAndDepth, nodesOfStack, Within, head]
  | succ remaining ih =>
      cases stack with
      | nil => simp [walkSizeAndDepth, nodesOfStack, Within]
      | cons top stack =>
          obtain ⟨node, depth⟩ := top
          by_cases deep : depth > maxConditionDepth
          · obtain ⟨below, head⟩ := nodesFrom_head depth node
            have outside : ¬ NodeWithinLimits (node, depth) := fun own => absurd own.1 deep.not_ge
            have first : nodesOfStack ((node, depth) :: stack) =
                (node, depth) :: (below ++ nodesOfStack stack) := by
              rw [nodesOfStack, List.flatMap_cons, head]
              rfl
            rw [first, within_cons]
            simp [walkSizeAndDepth, deep, outside]
          · have shallow : depth ≤ maxConditionDepth := not_lt.mp deep
            cases node with
            | obj keys values => exact walk_obj remaining depth keys values stack shallow ih
            | arr items =>
                have below : nodesOfStack ((.arr items, depth) :: stack) = (.arr items, depth) ::
                    (nodesOfStack (items.map fun item => (item, depth + 1)) ++
                      nodesOfStack stack) := by
                  rw [← nodesOfItems_eq]
                  rfl
                have own : NodeWithinLimits (.arr items, depth) := ⟨shallow, by simp [ownTexts]⟩
                rw [below, within_cons, ← within_pushed, ← ih]
                simp only [walkSizeAndDepth, if_neg deep, own, true_and]
            | str text =>
                have own : NodeWithinLimits (.str text, depth) ↔
                    text.length ≤ maxConditionStringLength := by
                  simp [NodeWithinLimits, ownTexts, shallow]
                have first : nodesOfStack ((.str text, depth) :: stack) =
                    (.str text, depth) :: nodesOfStack stack := rfl
                rw [first, within_cons, own, ← ih]
                simp only [walkSizeAndDepth, if_neg deep]
                split
                · rename_i long
                  simp [long.not_ge]
                · rename_i short
                  exact (and_iff_right (not_lt.mp short)).symm
            | null | bool | int | float =>
                have own (leaf : Json) (silent : ownTexts leaf = []) :
                    NodeWithinLimits (leaf, depth) := ⟨shallow, by simp [silent]⟩
                simp only [walkSizeAndDepth, if_neg deep, ih]
                exact (and_iff_right (own _ rfl)).symm.trans (within_cons remaining _ _).symm

theorem withinLimits_iff (conditions : Json) :
    WithinLimits conditions ↔ Within maxConditionNodes (nodesFrom 0 conditions) := by
  constructor
  · intro limits
    exact ⟨limits.nodes, fun node member => ⟨limits.depth node member, limits.texts node member⟩⟩
  · intro ⟨count, own⟩
    exact ⟨count, fun node member => (own node member).1, fun node member => (own node member).2⟩

theorem validateSizeAndDepth_eq_nil_iff (conditions : Json) :
    validateSizeAndDepth conditions = [] ↔ WithinLimits conditions := by
  rw [withinLimits_iff, validateSizeAndDepth, walk_eq_nil_iff]
  simp [nodesOfStack]

theorem sanitize_of_accepted (runtime : Runtime) (conditions : Json)
    (accepted : validateConditions runtime conditions = []) :
    sanitizeConditionsForRead conditions = conditions := by
  cases conditions with
  | null => rfl
  | obj keys values =>
      have empty : validateSizeAndDepth (.obj keys values) = [] := by
        by_contra rejected
        simp only [validateConditions, List.isEmpty_iff, if_neg rejected] at accepted
        exact rejected accepted
      simp [sanitizeConditionsForRead, empty]
  | bool | int | float | str | arr => simp [validateConditions] at accepted

theorem size_guard_exact (conditions : Json) :
    (∃ errors, (Walk.start conditions).Returns errors) ∧
      (∀ errors, (Walk.start conditions).Returns errors →
        (errors = [] ↔ WithinLimits conditions)) ∧
      ∀ runtime, validateConditions runtime conditions = [] →
        sanitizeConditionsForRead conditions = conditions := by
  refine ⟨⟨_, (returns_iff conditions _).mpr rfl⟩, ?_,
    fun runtime => sanitize_of_accepted runtime conditions⟩
  intro errors returned
  rw [(returns_iff conditions errors).mp returned]
  exact validateSizeAndDepth_eq_nil_iff conditions

end MysticAuth.ConditionLimits
