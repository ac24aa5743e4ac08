import MysticAuth.Patterns.Regex

/-!
# The pattern of email addresses

`\b[A-Z0-9._%+-]+@[A-Z0-9.-]+\.[A-Z]{2,}\b` without regard to case, and what
it matches: the local part reaches back to a word boundary, and the domain to
the last label that can end it.
-/

set_option autoImplicit false

namespace MysticAuth.Logging

open Regex

/-- The characters outside ASCII that are case variants of letters in it. -/
def caseVariants : List Char :=
  ['\u0130', '\u0131', '\u017f', '\u212a']

/-- What `\w` matches. -/
structure WordTable where
  isWord : Char → Bool
  ascii : ∀ c : Char, c.toNat < 128 → isWord c = (c.isAlphanum || c == '_')
  variants : ∀ c ∈ caseVariants, isWord c = true

/-- `[A-Z]` without regard to case. -/
def isLetter (c : Char) : Bool :=
  c.isAlpha || decide (c ∈ caseVariants)

def isDomain (c : Char) : Bool :=
  isLetter c || c.isDigit || decide (c ∈ ['.', '-'])

def isLocal (c : Char) : Bool :=
  isLetter c || c.isDigit || decide (c ∈ ['.', '_', '%', '+', '-'])

/-- `_EMAIL_RE` -/
def emailRe : List Item :=
  [.boundary, .atLeast 1 isLocal, .one (· == '@'), .atLeast 1 isDomain, .one (· == '.'),
    .atLeast 2 isLetter, .boundary]

section Ends

variable (words : WordTable)

/-- The end of the last label, in the text behind its dot. -/
def topLevelEnd : List Char → Option Place
  | c :: d :: rest =>
      if isLetter c && isLetter d then
        let stop := run isLetter (some d) rest
        if stop.rest.head?.any words.isWord then none else some stop
      else none
  | _ => none

/-- The last place at which a domain can end. -/
def domainEnd : List Char → Option Place
  | [] => none
  | c :: rest =>
      if isDomain c then (domainEnd rest).or (if c = '.' then topLevelEnd words rest else none)
      else none

/-- The end of an address, in the text behind its `@`. -/
def addressEnd : List Char → Option Place
  | [] => none
  | c :: rest => if isDomain c then domainEnd words rest else none

/-- The text can be a local part from here on. -/
def isStart (before : Option Char) (text : List Char) : Bool :=
  text != [] && text.all isLocal && isBoundary words.isWord ⟨before, text⟩

/-- From the first place on at which a local part can start. -/
def localPart (before : Option Char) : List Char → Option (List Char)
  | [] => none
  | c :: rest =>
      if isStart words before (c :: rest) then some (c :: rest) else localPart (some c) rest

end Ends

/-! ## Characters -/

section Characters

variable {words : WordTable}

theorem isWord_of_isLetter {c : Char} (letter : isLetter c = true) : words.isWord c = true := by
  simp only [isLetter, Bool.or_eq_true, decide_eq_true_eq] at letter
  rcases letter with ascii | variant
  · have below : c.toNat < 128 := by
      change (decide (c.val ≥ 'A'.val ∧ c.val ≤ 'Z'.val) ||
        (decide (c.val ≥ 'a'.val) && decide (c.val ≤ 'z'.val))) = true at ascii
      simp only [Bool.or_eq_true, Bool.and_eq_true, decide_eq_true_eq, ge_iff_le,
        UInt32.le_iff_toNat_le] at ascii
      have upper : 'Z'.val.toNat = 90 := rfl
      have lower : 'z'.val.toNat = 122 := rfl
      have value : c.toNat = c.val.toNat := rfl
      omega
    rw [words.ascii c below]
    simp [Char.isAlphanum, ascii]
  · exact words.variants c variant

theorem isDomain_of_isLetter {c : Char} (letter : isLetter c = true) : isDomain c = true := by
  simp [isDomain, letter]

theorem isLocal_at : ¬isLocal '@' = true := by
  decide

theorem isDomain_at : ¬isDomain '@' = true := by
  decide

theorem isWord_at : words.isWord '@' = false :=
  words.ascii '@' (by decide)

theorem isLetter_at : ¬isLetter '@' = true := by
  decide

end Characters

/-! ## The end of a match -/

section Matching

variable {words : WordTable}

variable (words) in
theorem letters_ends {b : Char} (letter : isLetter b = true) (rest : List Char) :
    ((greedy isLetter (some b) rest).flatMap (ends words.isWord [.boundary])).head? =
      if (run isLetter (some b) rest).rest.head?.any words.isWord then none
      else some (run isLetter (some b) rest) := by
  have stuck : ∀ b c rest, isLetter b = true → isLetter c = true →
      ends words.isWord [.boundary] ⟨some b, c :: rest⟩ = [] := by
    intro b c rest letterB letterC
    simp [ends, Item.ends, isBoundary, isWord_of_isLetter letterB, isWord_of_isLetter letterC]
  rw [flatMap_greedy stuck letter]
  obtain ⟨c, before, letterC⟩ := run_before letter rest
  have word : (run isLetter (some b) rest).before.any words.isWord = true := by
    simp [before, isWord_of_isLetter letterC]
  simp only [ends, Item.ends, isBoundary, word]
  by_cases next : (run isLetter (some b) rest).rest.head?.any words.isWord = true
  · simp [next]
  · simp [next]

theorem topLevel_ends (before : Option Char) (text : List Char) :
    (ends words.isWord [.one (· == '.'), .atLeast 2 isLetter, .boundary] ⟨before, text⟩).head? =
      match text with
      | [] => none
      | c :: rest => if c = '.' then topLevelEnd words rest else none := by
  cases text with
  | nil => rfl
  | cons c rest =>
    by_cases dot : c = '.'
    · subst dot
      cases rest with
      | nil => rfl
      | cons d rest =>
        cases rest with
        | nil => simp [ends, Item.ends, repeated, topLevelEnd]
        | cons e rest =>
          by_cases letterD : isLetter d = true
          · by_cases letterE : isLetter e = true
            · have last := letters_ends words letterE rest
              simpa [ends, Item.ends, repeated, topLevelEnd, letterD, letterE] using last
            · simp [ends, Item.ends, repeated, topLevelEnd, letterD, letterE]
          · simp [ends, Item.ends, repeated, topLevelEnd, letterD]
    · simp [ends, Item.ends, dot]

variable (words) in
theorem domain_ends (before : Option Char) (text : List Char) :
    ((greedy isDomain before text).flatMap
      (ends words.isWord [.one (· == '.'), .atLeast 2 isLetter, .boundary])).head? =
        domainEnd words text := by
  induction text generalizing before with
  | nil => simp [greedy, domainEnd, topLevel_ends]
  | cons c rest ih =>
    by_cases further : isDomain c = true
    · rw [greedy, if_pos further, List.flatMap_append, List.head?_append, ih, domainEnd,
        if_pos further]
      simp [topLevel_ends]
    · have notDot : c ≠ '.' := by
        rintro rfl
        exact further (by decide)
      simp [greedy, domainEnd, further, topLevel_ends, notDot]

variable (words) in
theorem address_ends (text : List Char) :
    (ends words.isWord [.atLeast 1 isDomain, .one (· == '.'), .atLeast 2 isLetter, .boundary]
      ⟨some '@', text⟩).head? = addressEnd words text := by
  cases text with
  | nil => rfl
  | cons c rest =>
    by_cases further : isDomain c = true
    · have last := domain_ends words (some c) rest
      simpa [ends, Item.ends, repeated, addressEnd, further] using last
    · simp [ends, Item.ends, repeated, addressEnd, further]

/-- What follows the local part. -/
def fromAt : List Item :=
  [.one (· == '@'), .atLeast 1 isDomain, .one (· == '.'), .atLeast 2 isLetter, .boundary]

theorem fromAt_ends (place : Place) :
    (ends words.isWord fromAt place).head? =
      if place.rest.head? = some '@' then addressEnd words place.rest.tail else none := by
  obtain ⟨before, text⟩ := place
  cases text with
  | nil => rfl
  | cons c rest =>
    by_cases at_ : c = '@'
    · subst at_
      have last := address_ends words rest
      simpa [fromAt, ends, Item.ends] using last
    · simp [fromAt, ends, Item.ends, at_]

theorem match?_local {c : Char} (accepted : isLocal c = true) (before : Option Char)
    (rest : List Char) :
    match? words.isWord emailRe ⟨before, c :: rest⟩ =
      if isBoundary words.isWord ⟨before, c :: rest⟩ = true then
        (ends words.isWord fromAt (run isLocal (some c) rest)).head?
      else none := by
  have stuck : ∀ b c rest, isLocal b = true → isLocal c = true →
      ends words.isWord fromAt ⟨some b, c :: rest⟩ = [] := by
    intro b c rest _ localC
    have notAt : c ≠ '@' := by
      rintro rfl
      exact isLocal_at localC
    simp [fromAt, ends, Item.ends, notAt]
  rw [← flatMap_greedy stuck accepted, match?, emailRe, ends, Item.ends]
  by_cases boundary : isBoundary words.isWord ⟨before, c :: rest⟩ = true
  · simp only [if_pos boundary, List.flatMap_cons, List.flatMap_nil, List.append_nil]
    simp [ends, Item.ends, repeated, accepted, fromAt]
  · simp [if_neg boundary]

theorem match?_other {c : Char} (other : ¬isLocal c = true) (before : Option Char)
    (rest : List Char) :
    match? words.isWord emailRe ⟨before, c :: rest⟩ = none := by
  rw [match?, emailRe, ends, Item.ends]
  by_cases boundary : isBoundary words.isWord ⟨before, c :: rest⟩ = true
  · simp [if_pos boundary, ends, Item.ends, repeated, other]
  · simp [if_neg boundary]

variable (words) in
/-- At a place before an `@`, the text up to it is the local part. -/
theorem match?_at {piece : List Char} (noAt : '@' ∉ piece) (before : Option Char)
    (rest : List Char) :
    match? words.isWord emailRe ⟨before, piece ++ '@' :: rest⟩ =
      if isStart words before piece = true then addressEnd words rest else none := by
  cases piece with
  | nil => exact match?_other isLocal_at before rest
  | cons c piece =>
    by_cases localC : isLocal c = true
    · rw [List.cons_append, match?_local localC, fromAt_ends]
      by_cases localRest : ∀ d ∈ piece, isLocal d = true
      · have all : piece.all isLocal = true := List.all_eq_true.mpr localRest
        rw [run_append isLocal_at]
        simp [isStart, isBoundary, localC, all, Place.append, run_all localRest]
      · push Not at localRest
        obtain ⟨d, member, otherD⟩ := localRest
        have notAll : ¬piece.all isLocal = true := by
          intro all
          exact otherD (List.all_eq_true.mp all d member)
        have notAt : (piece ++ '@' :: rest).find? (!isLocal ·) ≠ some '@' := by
          rw [List.find?_append]
          cases found : piece.find? (!isLocal ·) with
          | none => simp_all
          | some e =>
            rintro ⟨⟩
            exact noAt (List.mem_cons_of_mem c (List.mem_of_find?_eq_some found))
        rw [run_head, if_neg notAt]
        simp [isStart, notAll]
    · rw [List.cons_append, match?_other localC]
      simp [isStart, localC]

theorem match?_none {text : List Char} (noAt : '@' ∉ text) (before : Option Char) :
    match? words.isWord emailRe ⟨before, text⟩ = none := by
  cases text with
  | nil =>
    rw [match?, emailRe, ends, Item.ends]
    by_cases boundary : isBoundary words.isWord ⟨before, []⟩ = true
    · simp [if_pos boundary, ends, Item.ends, repeated]
    · simp [if_neg boundary]
  | cons c text =>
    by_cases localC : isLocal c = true
    · have notAt : text.find? (!isLocal ·) ≠ some '@' := by
        intro found
        exact noAt (List.mem_cons_of_mem c (List.mem_of_find?_eq_some found))
      rw [match?_local localC, fromAt_ends, run_head, if_neg notAt]
      simp
    · exact match?_other localC before text

end Matching

/-! ## What the parts of a match consume -/

section Consumed

variable {words : WordTable}

theorem topLevelEnd_at (text more : List Char) :
    topLevelEnd words (text ++ '@' :: more) =
      (topLevelEnd words text).map (·.append ('@' :: more)) := by
  match text with
  | [] => cases more <;> simp [topLevelEnd, isLetter_at]
  | [c] => simp [topLevelEnd, isLetter_at]
  | c :: d :: rest =>
    have head :
        ((run isLetter (some d) rest).append ('@' :: more)).rest.head?.any words.isWord =
          (run isLetter (some d) rest).rest.head?.any words.isWord := by
      rw [Place.append]
      cases (run isLetter (some d) rest).rest with
      | nil => simp [isWord_at]
      | cons e text => rfl
    simp only [List.cons_append, topLevelEnd, run_append isLetter_at, head]
    split
    · split <;> rfl
    · rfl

theorem domainEnd_at (text more : List Char) :
    domainEnd words (text ++ '@' :: more) =
      (domainEnd words text).map (·.append ('@' :: more)) := by
  induction text with
  | nil => simp [domainEnd, isDomain_at]
  | cons c text ih =>
    simp only [List.cons_append, domainEnd, ih, topLevelEnd_at]
    split
    · cases domainEnd words text with
      | some stop => rfl
      | none =>
        split <;> rfl
    · rfl

/-- The end of an address is found before the next `@`. -/
theorem addressEnd_at (text more : List Char) :
    addressEnd words (text ++ '@' :: more) =
      (addressEnd words text).map (·.append ('@' :: more)) := by
  cases text with
  | nil => simp [addressEnd, isDomain_at]
  | cons c text =>
    simp only [List.cons_append, addressEnd, domainEnd_at]
    split <;> rfl

theorem topLevelEnd_suffix {text : List Char} {stop : Place}
    (found : topLevelEnd words text = some stop) :
    ∃ used, text = used ++ stop.rest ∧ ∀ c ∈ used, isDomain c = true := by
  match text, found with
  | c :: d :: rest, found =>
    simp only [topLevelEnd] at found
    split at found
    · rename_i letters
      obtain ⟨letterC, letterD⟩ := Bool.and_eq_true_iff.mp letters
      split at found
      · cases found
      · cases found
        obtain ⟨used, split, all⟩ := run_split isLetter (some d) rest
        refine ⟨c :: d :: used, by simp [← split], ?_⟩
        intro e member
        simp only [List.mem_cons] at member
        rcases member with rfl | rfl | member
        · exact isDomain_of_isLetter letterC
        · exact isDomain_of_isLetter letterD
        · exact isDomain_of_isLetter (all e member)
    · cases found

theorem domainEnd_suffix {text : List Char} {stop : Place}
    (found : domainEnd words text = some stop) :
    ∃ used, text = used ++ stop.rest ∧ ∀ c ∈ used, isDomain c = true := by
  induction text with
  | nil => simp [domainEnd] at found
  | cons c text ih =>
    simp only [domainEnd] at found
    split at found
    · rename_i domainC
      have inner : ∃ used, text = used ++ stop.rest ∧ ∀ c ∈ used, isDomain c = true := by
        rcases Option.or_eq_some_iff.mp found with further | ⟨-, here⟩
        · exact ih further
        · split at here
          · exact topLevelEnd_suffix here
          · cases here
      obtain ⟨used, split, all⟩ := inner
      exact ⟨c :: used, by rw [split, List.cons_append], List.forall_mem_cons.mpr ⟨domainC, all⟩⟩
    · cases found

/-- An address ends behind characters of a domain. -/
theorem addressEnd_suffix {text : List Char} {stop : Place}
    (found : addressEnd words text = some stop) :
    ∃ used, text = used ++ stop.rest ∧ ∀ c ∈ used, isDomain c = true := by
  cases text with
  | nil => cases found
  | cons c text =>
    simp only [addressEnd] at found
    split at found
    · rename_i domainC
      obtain ⟨used, split, all⟩ := domainEnd_suffix found
      exact ⟨c :: used, by rw [split, List.cons_append], List.forall_mem_cons.mpr ⟨domainC, all⟩⟩
    · cases found

theorem localPart_suffix {before : Option Char} {text found : List Char}
    (start : localPart words before text = some found) :
    ∃ skipped, text = skipped ++ found := by
  induction text generalizing before with
  | nil => cases start
  | cons c text ih =>
    simp only [localPart] at start
    split at start
    · cases start
      exact ⟨[], rfl⟩
    · obtain ⟨skipped, split⟩ := ih start
      exact ⟨c :: skipped, by rw [split, List.cons_append]⟩

end Consumed

end MysticAuth.Logging
