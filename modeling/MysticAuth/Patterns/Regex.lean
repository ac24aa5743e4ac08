import Mathlib.Data.List.Basic

/-!
# Searching with a regular expression

The expressions are sequences of word boundaries, characters of a kind, and
greedy repetitions of them.  The ends of a match are listed in the order in
which a backtracking matcher tries them, and the first one counts.
-/

set_option autoImplicit false

namespace Regex

/-- A place in a text: the character in front of it, and what follows. -/
structure Place where
  before : Option Char
  rest : List Char
  deriving DecidableEq

/-- The same place when the text goes on. -/
def Place.append (place : Place) (more : List Char) : Place :=
  ⟨place.before, place.rest ++ more⟩

inductive Item where
  | boundary
  | one (accepts : Char → Bool)
  | atLeast (least : Nat) (accepts : Char → Bool)

/-- The places behind accepted characters, the farthest first. -/
def greedy (accepts : Char → Bool) : Option Char → List Char → List Place
  | before, [] => [⟨before, []⟩]
  | before, c :: rest =>
      if accepts c then greedy accepts (some c) rest ++ [⟨before, c :: rest⟩]
      else [⟨before, c :: rest⟩]

def repeated (accepts : Char → Bool) : Nat → Option Char → List Char → List Place
  | 0, before, rest => greedy accepts before rest
  | _ + 1, _, [] => []
  | least + 1, _, c :: rest =>
      if accepts c then repeated accepts least (some c) rest else []

/-- The place behind all accepted characters. -/
def run (accepts : Char → Bool) : Option Char → List Char → Place
  | before, [] => ⟨before, []⟩
  | before, c :: rest => if accepts c then run accepts (some c) rest else ⟨before, c :: rest⟩

section Matching

variable (isWord : Char → Bool)

/-- The assertion `\b`. -/
def isBoundary (place : Place) : Bool :=
  place.before.any isWord != place.rest.head?.any isWord

def Item.ends : Item → Place → List Place
  | .boundary, place => if isBoundary isWord place then [place] else []
  | .one accepts, place =>
      match place.rest with
      | [] => []
      | c :: rest => if accepts c then [⟨some c, rest⟩] else []
  | .atLeast least accepts, place => repeated accepts least place.before place.rest

def ends : List Item → Place → List Place
  | [], place => [place]
  | item :: items, place => (item.ends isWord place).flatMap (ends items)

/-- `Pattern.match` -/
def match? (pattern : List Item) (place : Place) : Option Place :=
  (ends isWord pattern place).head?

inductive Token where
  | kept (c : Char)
  | matched (text : List Char)

/-- What `Pattern.sub` replaces and what it keeps, for a pattern that takes no empty text. -/
def tokens (pattern : List Item) (before : Option Char) (text : List Char) : List Token :=
  match text with
  | [] => []
  | c :: rest =>
      match match? isWord pattern ⟨before, c :: rest⟩ with
      | none => .kept c :: tokens pattern (some c) rest
      | some stop =>
          if stop.rest.length ≤ rest.length then
            .matched ((c :: rest).take ((c :: rest).length - stop.rest.length)) ::
              tokens pattern stop.before stop.rest
          else .kept c :: tokens pattern (some c) rest
  termination_by text.length

end Matching

def Token.source : Token → List Char
  | kept c => [c]
  | matched text => text

def source (tokens : List Token) : List Char :=
  tokens.flatMap Token.source

@[simp]
theorem source_nil : source [] = [] := rfl

@[simp]
theorem source_cons (token : Token) (tokens : List Token) :
    source (token :: tokens) = token.source ++ source tokens := rfl

@[simp]
theorem source_append (left right : List Token) :
    source (left ++ right) = source left ++ source right :=
  List.flatMap_append

section Greedy

variable {accepts : Char → Bool}

/-- What goes on only behind all accepted characters goes on at one place. -/
theorem flatMap_greedy {next : Place → List Place}
    (stuck : ∀ b c rest, accepts b = true → accepts c = true → next ⟨some b, c :: rest⟩ = [])
    {b : Char} (accepted : accepts b = true) (rest : List Char) :
    (greedy accepts (some b) rest).flatMap next = next (run accepts (some b) rest) := by
  induction rest generalizing b with
  | nil => simp [greedy, run]
  | cons c rest ih =>
    by_cases further : accepts c = true
    · simp [greedy, run, further, ih further, stuck b c rest accepted further]
    · simp [greedy, run, further]

theorem run_append {c : Char} (stops : ¬accepts c = true) (before : Option Char)
    (text more : List Char) :
    run accepts before (text ++ c :: more) = (run accepts before text).append (c :: more) := by
  induction text generalizing before with
  | nil => simp [run, stops, Place.append]
  | cons d text ih =>
    by_cases further : accepts d = true
    · simp [run, further, ih]
    · simp [run, further, Place.append]

variable (accepts) in
theorem run_head (before : Option Char) (text : List Char) :
    (run accepts before text).rest.head? = text.find? (!accepts ·) := by
  induction text generalizing before with
  | nil => rfl
  | cons c text ih =>
    by_cases further : accepts c = true
    · simp [run, further, ih]
    · simp [run, further]

theorem run_all {text : List Char} (all : ∀ c ∈ text, accepts c = true) (before : Option Char) :
    (run accepts before text).rest = [] := by
  have head := run_head accepts before text
  rw [List.find?_eq_none.mpr (by simpa using all)] at head
  exact List.head?_eq_none_iff.mp head

variable (accepts) in
theorem run_split (before : Option Char) (text : List Char) :
    ∃ used, text = used ++ (run accepts before text).rest ∧ ∀ c ∈ used, accepts c = true := by
  induction text generalizing before with
  | nil => exact ⟨[], rfl, by simp⟩
  | cons c text ih =>
    rw [run]
    split
    · rename_i further
      obtain ⟨used, split, all⟩ := ih (some c)
      exact ⟨c :: used, by rw [List.cons_append, ← split],
        List.forall_mem_cons.mpr ⟨further, all⟩⟩
    · exact ⟨[], rfl, by simp⟩

theorem run_before {b : Char} (accepted : accepts b = true) (text : List Char) :
    ∃ c, (run accepts (some b) text).before = some c ∧ accepts c = true := by
  induction text generalizing b with
  | nil => exact ⟨b, rfl, accepted⟩
  | cons c text ih =>
    rw [run]
    split
    · rename_i further
      exact ih further
    · exact ⟨b, rfl, accepted⟩

end Greedy

/-! ## What is kept and what is replaced -/

section Search

variable {isWord : Char → Bool} {pattern : List Item}

theorem greedy_suffix {accepts : Char → Bool} {before : Option Char} {text : List Char}
    {stop : Place} (member : stop ∈ greedy accepts before text) : stop.rest <:+ text := by
  induction text generalizing before with
  | nil =>
    cases List.mem_singleton.mp member
    exact List.suffix_refl _
  | cons c text ih =>
    simp only [greedy] at member
    split at member
    · rcases List.mem_append.mp member with further | here
      · exact (ih further).trans (List.suffix_cons c text)
      · cases List.mem_singleton.mp here
        exact List.suffix_refl _
    · cases List.mem_singleton.mp member
      exact List.suffix_refl _

theorem repeated_suffix {accepts : Char → Bool} {least : Nat} {before : Option Char}
    {text : List Char} {stop : Place} (member : stop ∈ repeated accepts least before text) :
    stop.rest <:+ text := by
  induction least generalizing before text with
  | zero => exact greedy_suffix member
  | succ least ih =>
    cases text with
    | nil => simp [repeated] at member
    | cons c text =>
      simp only [repeated] at member
      split at member
      · exact (ih member).trans (List.suffix_cons c text)
      · cases member

theorem Item.ends_suffix {item : Item} {place stop : Place}
    (member : stop ∈ item.ends isWord place) : stop.rest <:+ place.rest := by
  cases item with
  | boundary =>
    simp only [Item.ends] at member
    split at member
    · cases List.mem_singleton.mp member
      exact List.suffix_refl _
    · cases member
  | one accepts =>
    obtain ⟨before, text⟩ := place
    cases text with
    | nil => cases member
    | cons c text =>
      simp only [Item.ends] at member
      split at member
      · cases List.mem_singleton.mp member
        exact List.suffix_cons c text
      · cases member
  | atLeast least accepts => exact repeated_suffix member

theorem ends_suffix {place stop : Place} (member : stop ∈ ends isWord pattern place) :
    stop.rest <:+ place.rest := by
  induction pattern generalizing place with
  | nil =>
    cases List.mem_singleton.mp member
    exact List.suffix_refl _
  | cons item pattern ih =>
    obtain ⟨next, first, others⟩ := List.mem_flatMap.mp member
    exact (ih others).trans (Item.ends_suffix first)

theorem tokens_kept {before : Option Char} {c : Char} {rest : List Char}
    (unmatched : match? isWord pattern ⟨before, c :: rest⟩ = none) :
    tokens isWord pattern before (c :: rest) =
      .kept c :: tokens isWord pattern (some c) rest := by
  rw [tokens, unmatched]

theorem tokens_matched {before : Option Char} {text used : List Char} {stop : Place}
    (found : match? isWord pattern ⟨before, text⟩ = some stop) (split : text = used ++ stop.rest)
    (some_ : used ≠ []) :
    tokens isWord pattern before text =
      .matched used :: tokens isWord pattern stop.before stop.rest := by
  obtain ⟨c, used, rfl⟩ := List.exists_cons_of_ne_nil some_
  subst split
  have shorter : stop.rest.length ≤ (used ++ stop.rest).length := by
    simp
  rw [List.cons_append] at found ⊢
  rw [tokens, found]
  simp only [if_pos shorter]
  congr 2
  rw [← List.cons_append]
  have length : (c :: used).length =
      (c :: used ++ stop.rest).length - stop.rest.length := by
    simp only [List.length_append]
    omega
  exact List.take_left' length

/-- The tokens are the text, cut up. -/
theorem source_tokens (before : Option Char) (text : List Char) :
    source (tokens isWord pattern before text) = text := by
  induction before, text using tokens.induct isWord pattern with
  | case1 before => simp [tokens]
  | case2 before c rest unmatched ih =>
    rw [tokens_kept unmatched, source_cons, ih]
    rfl
  | case3 before c rest stop found shorter ih =>
    obtain ⟨used, split⟩ := ends_suffix (List.mem_of_head? found)
    have some_ : used ≠ [] := by
      rintro rfl
      have longer : stop.rest = c :: rest := split
      rw [longer, List.length_cons] at shorter
      omega
    rw [tokens_matched found split.symm some_, source_cons, ih]
    exact split
  | case4 before c rest stop found longer ih =>
    rw [tokens, found]
    simp only [if_neg longer, source_cons, ih]
    rfl

end Search

/-! ## What remains of a piece of the text -/

def Token.marks : Token → List Bool
  | kept _ => [true]
  | matched text => List.replicate text.length false

/-- For every character of the text, whether it is kept. -/
def marks (tokens : List Token) : List Bool :=
  tokens.flatMap Token.marks

/-- The kept ones among the characters from `start` on. -/
def remaining (tokens : List Token) (start length : Nat) : List Char :=
  ((((source tokens).zip (marks tokens)).drop start).take length).filterMap fun (c, shown) =>
    if shown then some c else none

@[simp]
theorem marks_cons (token : Token) (tokens : List Token) :
    marks (token :: tokens) = token.marks ++ marks tokens := rfl

@[simp]
theorem marks_append (left right : List Token) :
    marks (left ++ right) = marks left ++ marks right :=
  List.flatMap_append

@[simp]
theorem marks_map_kept (text : List Char) :
    marks (text.map .kept) = List.replicate text.length true := by
  induction text with
  | nil => rfl
  | cons c text ih => simpa [Token.marks, List.replicate_succ] using ih

@[simp]
theorem source_map_kept (text : List Char) : source (text.map .kept) = text := by
  induction text with
  | nil => rfl
  | cons c text ih => simpa [Token.source] using ih

@[simp]
theorem length_marks (tokens : List Token) :
    (marks tokens).length = (source tokens).length := by
  induction tokens with
  | nil => rfl
  | cons token tokens ih => cases token <;> simp [Token.marks, Token.source, ih]

theorem remaining_nil_iff (tokens : List Token) (start length : Nat) :
    remaining tokens start length = [] ↔
      ∀ i, start ≤ i → i < start + length → (marks tokens)[i]? ≠ some true := by
  rw [remaining, List.filterMap_eq_nil_iff]
  constructor
  · intro none_ i low high shown
    have inside : i < (source tokens).length := by
      rw [← length_marks]
      exact (List.getElem?_eq_some_iff.mp shown).1
    have here : ((((source tokens).zip (marks tokens)).drop start).take length)[i - start]? =
        some ((source tokens)[i], true) := by
      rw [List.getElem?_take_of_lt (by omega), List.getElem?_drop, Nat.add_sub_cancel' low,
        List.getElem?_zip_eq_some]
      exact ⟨List.getElem?_eq_getElem inside, shown⟩
    simpa using none_ _ (List.mem_of_getElem? here)
  · rintro hidden ⟨c, shown⟩ member
    obtain ⟨j, here⟩ := List.mem_iff_getElem?.mp member
    have below : j < length := by
      have bound := (List.getElem?_eq_some_iff.mp here).1
      simp only [List.length_take] at bound
      omega
    rw [List.getElem?_take_of_lt below, List.getElem?_drop, List.getElem?_zip_eq_some] at here
    have notShown : shown ≠ true := by
      rintro rfl
      exact hidden (start + j) (by omega) (by omega) here.2
    simp [notShown]

/-- The token over a position is one of a kind. -/
theorem covering_unique {left left' right right' : List Token} {token token' : Token} {i : Nat}
    (same : left ++ token :: right = left' ++ token' :: right')
    (begun : (source left).length ≤ i)
    (unfinished : i < (source left).length + token.source.length)
    (begun' : (source left').length ≤ i)
    (unfinished' : i < (source left').length + token'.source.length) :
    left = left' ∧ token = token' ∧ right = right' := by
  induction left generalizing left' i with
  | nil =>
    cases left' with
    | nil =>
      cases same
      exact ⟨rfl, rfl, rfl⟩
    | cons first left' =>
      cases same
      simp only [source_cons, source_nil, List.length_append, List.length_nil] at *
      omega
  | cons first left ih =>
    cases left' with
    | nil =>
      cases same
      simp only [source_cons, source_nil, List.length_append, List.length_nil] at *
      omega
    | cons first' left' =>
      obtain ⟨rfl, others⟩ := List.cons.inj same
      simp only [source_cons, List.length_append] at *
      obtain ⟨rfl, rfl, rfl⟩ := ih (i := i - first.source.length) others (by omega) (by omega)
        (by omega) (by omega)
      exact ⟨rfl, rfl, rfl⟩

end Regex
