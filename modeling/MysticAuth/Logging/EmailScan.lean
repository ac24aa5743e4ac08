import MysticAuth.Logging.EmailPattern

/-!
# Which part of a message is replaced

The search goes from one `@` to the next.  Between two of them lies the rest
of a domain, what is kept, and the local part of the next address.
-/

set_option autoImplicit false

namespace MysticAuth.Logging

open Regex

section Scan

variable (words : WordTable)

def emailTokens (before : Option Char) (text : List Char) : List Token :=
  tokens words.isWord emailRe before text

theorem source_emailTokens (before : Option Char) (text : List Char) :
    source (emailTokens words before text) = text :=
  source_tokens before text

variable {words}

theorem isStart_of_localPart {before : Option Char} {text : List Char}
    (start : localPart words before text = some text) : isStart words before text = true := by
  cases text with
  | nil => cases start
  | cons c text =>
    simp only [localPart] at start
    split at start
    · assumption
    · obtain ⟨skipped, split⟩ := localPart_suffix start
      have length := congrArg List.length split
      simp only [List.length_append, List.length_cons] at length
      omega

theorem localPart_of_isStart {before : Option Char} {text : List Char}
    (start : isStart words before text = true) : localPart words before text = some text := by
  cases text with
  | nil => simp [isStart] at start
  | cons c text => rw [localPart, if_pos start]

theorem localPart_cons_none {before : Option Char} {c : Char} {text : List Char}
    (never : localPart words before (c :: text) = none) :
    ¬isStart words before (c :: text) = true ∧ localPart words (some c) text = none := by
  simp only [localPart] at never
  split at never
  · cases never
  · exact ⟨by assumption, never⟩

theorem emailTokens_none {text : List Char} (noAt : '@' ∉ text) (before : Option Char) :
    emailTokens words before text = text.map .kept := by
  induction text generalizing before with
  | nil => simp [emailTokens, tokens]
  | cons c text ih =>
    rw [emailTokens, tokens_kept (match?_none noAt before)]
    exact congrArg (Token.kept c :: ·) (ih (fun member => noAt (List.mem_cons_of_mem c member)) _)

/-- An address is replaced from the start of its local part to its end. -/
theorem emailTokens_address {skipped found used : List Char} {before : Option Char} {stop : Place}
    (noAt : '@' ∉ skipped ++ found)
    (start : localPart words before (skipped ++ found) = some found)
    (ended : addressEnd words (used ++ stop.rest) = some stop) :
    emailTokens words before (skipped ++ found ++ '@' :: (used ++ stop.rest)) =
      skipped.map .kept ++ .matched (found ++ '@' :: used) ::
        emailTokens words stop.before stop.rest := by
  induction skipped generalizing before with
  | nil =>
    simp only [List.nil_append] at noAt start ⊢
    have matched := match?_at words noAt before (used ++ stop.rest)
    rw [if_pos (isStart_of_localPart start), ended] at matched
    exact tokens_matched matched (by simp) (by simp)
  | cons c skipped ih =>
    simp only [List.cons_append, localPart] at start
    split at start
    · have length := congrArg List.length (Option.some.inj start)
      simp only [List.length_append, List.length_cons] at length
      omega
    · rename_i notHere
      have unmatched := match?_at words noAt before (used ++ stop.rest)
      rw [List.cons_append, if_neg notHere, List.cons_append] at unmatched
      rw [emailTokens, List.cons_append, List.cons_append, tokens_kept unmatched]
      exact congrArg (Token.kept c :: ·)
        (ih (fun member => noAt (List.mem_cons_of_mem c member)) start)

/-- Without a local part in front of an `@`, or an end behind it, nothing up to it is replaced. -/
theorem emailTokens_plain {piece rest : List Char} {before : Option Char} (noAt : '@' ∉ piece)
    (plain : localPart words before piece = none ∨ addressEnd words rest = none) :
    emailTokens words before (piece ++ '@' :: rest) =
      piece.map .kept ++ .kept '@' :: emailTokens words (some '@') rest := by
  induction piece generalizing before with
  | nil =>
    have unmatched := match?_at words noAt before rest
    simp only [isStart, bne_self_eq_false, Bool.false_and, Bool.false_eq_true, if_false]
      at unmatched
    exact tokens_kept unmatched
  | cons c piece ih =>
    have unmatched := match?_at words noAt before rest
    have here : (if isStart words before (c :: piece) = true then addressEnd words rest
        else none) = none := by
      rcases plain with never | endless
      · exact if_neg (localPart_cons_none never).1
      · rw [endless, ite_self]
    rw [here, List.cons_append] at unmatched
    rw [emailTokens, List.cons_append, tokens_kept unmatched]
    exact congrArg (Token.kept c :: ·)
      (ih (fun member => noAt (List.mem_cons_of_mem c member))
        (plain.imp_left fun never => (localPart_cons_none never).2))

end Scan

/-! ## Up to an `@` -/

/-- The text before the first `@`, and the texts behind each. -/
def pieces : List Char → List Char × List (List Char)
  | [] => ([], [])
  | c :: rest =>
      if c = '@' then ([], (pieces rest).1 :: (pieces rest).2)
      else (c :: (pieces rest).1, (pieces rest).2)

def joined (piece : List Char) (others : List (List Char)) : List Char :=
  piece ++ others.flatMap ('@' :: ·)

/-- Where the search goes on when it has passed every `@` between the pieces. -/
def arrive (words : WordTable) (before : Option Char) (piece : List Char) :
    List (List Char) → Place
  | [] => ⟨before, piece⟩
  | next :: others =>
      match localPart words before piece, addressEnd words next with
      | some _, some stop => arrive words stop.before stop.rest others
      | _, _ => arrive words (some '@') next others

/-- The search has come to `place`, and keeps nothing of the last piece in front of it. -/
structure Arrived (text : List Char) (place : Place) (front : List Token) : Prop where
  text_eq : text = source front ++ place.rest
  noAt : '@' ∉ place.rest
  shown : ∀ i, (marks front)[i]? = some true → '@' ∈ text.drop i

section Pieces

variable {words : WordTable}

theorem joined_cons (piece next : List Char) (others : List (List Char)) :
    joined piece (next :: others) = piece ++ '@' :: joined next others := rfl

theorem joined_append (front piece : List Char) (others : List (List Char)) :
    joined (front ++ piece) others = front ++ joined piece others :=
  List.append_assoc ..

theorem joined_pieces (text : List Char) :
    joined (pieces text).1 (pieces text).2 = text := by
  induction text with
  | nil => rfl
  | cons c text ih =>
    by_cases at_ : c = '@'
    · subst at_
      rw [pieces, if_pos rfl, joined_cons, ih]
      rfl
    · rw [pieces, if_neg at_]
      exact congrArg (c :: ·) ih

theorem pieces_noAt (text : List Char) :
    '@' ∉ (pieces text).1 ∧ ∀ piece ∈ (pieces text).2, '@' ∉ piece := by
  induction text with
  | nil => simp [pieces]
  | cons c text ih =>
    by_cases at_ : c = '@'
    · rw [pieces, if_pos at_]
      exact ⟨List.not_mem_nil, List.forall_mem_cons.mpr ih⟩
    · rw [pieces, if_neg at_]
      refine ⟨?_, ih.2⟩
      simp only [List.mem_cons, not_or]
      exact ⟨fun same => at_ same.symm, ih.1⟩

theorem joined_goes_on (others : List (List Char)) (tail : List Char) :
    ∃ more, ∀ piece, joined piece others ++ '@' :: tail = piece ++ '@' :: more := by
  cases others with
  | nil => exact ⟨tail, by simp [joined]⟩
  | cons next others => exact ⟨joined next others ++ '@' :: tail, by simp [joined]⟩

theorem mem_drop_left {left right : List Char} {i : Nat} (before : i ≤ left.length) :
    '@' ∈ (left ++ '@' :: right).drop i := by
  rw [List.drop_append_of_le_length before]
  exact List.mem_append_right _ List.mem_cons_self

/-- The arrival behind a front that is shown only up to an `@`. -/
theorem Arrived.behind {text earlier : List Char} {place : Place} {passed front : List Token}
    (arrived : Arrived text place front) (same : source passed = earlier)
    (shown : ∀ i, (marks passed)[i]? = some true → '@' ∈ (earlier ++ text).drop i) :
    Arrived (earlier ++ text) place (passed ++ front) where
  text_eq := by
    rw [source_append, same, List.append_assoc, ← arrived.text_eq]
  noAt := arrived.noAt
  shown := by
    intro i mark
    rw [marks_append] at mark
    by_cases inside : i < (marks passed).length
    · rw [List.getElem?_append_left inside] at mark
      exact shown i mark
    · rw [List.getElem?_append_right (Nat.le_of_not_lt inside)] at mark
      have later := arrived.shown _ mark
      rw [length_marks, same] at inside later
      rwa [List.drop_append, List.drop_eq_nil_of_le (Nat.le_of_not_lt inside), List.nil_append]

/-- Behind a piece whose `@` is kept. -/
theorem Arrived.behind_plain {piece text : List Char} {place : Place} {front : List Token}
    (arrived : Arrived text place front) :
    Arrived (piece ++ '@' :: text) place (piece.map .kept ++ .kept '@' :: front) := by
  have shown : ∀ i, (marks (piece.map .kept ++ [.kept '@']))[i]? = some true →
      '@' ∈ (piece ++ ['@'] ++ text).drop i := by
    intro i mark
    have inside := (List.getElem?_eq_some_iff.mp mark).1
    rw [length_marks] at inside
    simp [Token.source] at inside
    rw [List.append_assoc]
    exact mem_drop_left (by omega)
  have behind := arrived.behind (by simp [Token.source]) shown
  simpa using behind

/-- Behind an address. -/
theorem Arrived.behind_address {skipped found used text : List Char} {place : Place}
    {front : List Token} (arrived : Arrived text place front) :
    Arrived (skipped ++ found ++ '@' :: (used ++ text)) place
      (skipped.map .kept ++ .matched (found ++ '@' :: used) :: front) := by
  have shown : ∀ i,
      (marks (skipped.map .kept ++ [.matched (found ++ '@' :: used)]))[i]? = some true →
        '@' ∈ (skipped ++ (found ++ '@' :: used) ++ text).drop i := by
    intro i mark
    rw [marks_append, marks_map_kept] at mark
    by_cases inside : i < skipped.length
    · have split : skipped ++ (found ++ '@' :: used) ++ text =
          (skipped ++ found) ++ '@' :: (used ++ text) := by
        simp
      rw [split]
      exact mem_drop_left (by simp; omega)
    · rw [List.getElem?_append_right (by simpa using inside)] at mark
      simp [marks, Token.marks, List.getElem?_replicate] at mark
  have behind := arrived.behind (by simp [Token.source]) shown
  simpa using behind

variable (words) in
theorem emailTokens_arrive {piece : List Char} {others : List (List Char)}
    (noAt : '@' ∉ piece) (noAts : ∀ other ∈ others, '@' ∉ other) (before : Option Char)
    (tail : List Char) :
    ∃ front, Arrived (joined piece others) (arrive words before piece others) front ∧
      emailTokens words before (joined piece others ++ '@' :: tail) =
        front ++ emailTokens words (arrive words before piece others).before
          ((arrive words before piece others).rest ++ '@' :: tail) := by
  induction others generalizing before piece with
  | nil =>
    refine ⟨[], ⟨?_, noAt, ?_⟩, ?_⟩
    · simp [joined, arrive]
    · simp [marks]
    · simp [joined, arrive]
  | cons next others ih =>
    obtain ⟨noAtNext, noAtOthers⟩ := List.forall_mem_cons.mp noAts
    obtain ⟨more, goesOn⟩ := joined_goes_on others tail
    rw [joined_cons, List.append_assoc, List.cons_append]
    have endsIn : addressEnd words (joined next others ++ '@' :: tail) =
        (addressEnd words next).map (·.append ('@' :: more)) := by
      rw [goesOn, addressEnd_at]
    cases start : localPart words before piece with
    | none =>
      obtain ⟨front, arrived, split⟩ := ih noAtNext noAtOthers (some '@')
      simp only [arrive, start]
      refine ⟨_, arrived.behind_plain, ?_⟩
      rw [emailTokens_plain noAt (.inl start), split]
      simp
    | some found =>
      cases ended : addressEnd words next with
      | none =>
        obtain ⟨front, arrived, split⟩ := ih noAtNext noAtOthers (some '@')
        simp only [arrive, start, ended]
        refine ⟨_, arrived.behind_plain, ?_⟩
        rw [ended] at endsIn
        rw [emailTokens_plain noAt (.inr endsIn), split]
        simp
      | some stop =>
        obtain ⟨skipped, rfl⟩ := localPart_suffix start
        obtain ⟨used, same, -⟩ := addressEnd_suffix ended
        have noAtRest : '@' ∉ stop.rest := by
          intro member
          exact noAtNext (same ▸ List.mem_append_right used member)
        obtain ⟨front, arrived, split⟩ := ih noAtRest noAtOthers stop.before
        simp only [arrive, start, ended]
        rw [same, joined_append]
        refine ⟨_, arrived.behind_address, ?_⟩
        rw [ended, same, joined_append, List.append_assoc, goesOn] at endsIn
        have found_ : addressEnd words (used ++ (stop.append ('@' :: more)).rest) =
            some (stop.append ('@' :: more)) := endsIn
        have address := emailTokens_address noAt start found_
        rw [List.append_assoc used, goesOn]
        rw [goesOn] at split
        refine address.trans ?_
        rw [Place.append, split]
        simp

end Pieces

/-! ## From a place on -/

/-- The text up to the next `@` is the local part of an address. -/
def Taken (words : WordTable) (place : Place) : Prop :=
  ∃ piece more, place.rest = piece ++ '@' :: more ∧ '@' ∉ piece ∧
    isStart words place.before piece = true ∧ (addressEnd words more).isSome = true

section Marks

variable {words : WordTable}

theorem marks_address {skipped found used : List Char} {before : Option Char} {stop : Place}
    (noAt : '@' ∉ skipped ++ found)
    (start : localPart words before (skipped ++ found) = some found)
    (ended : addressEnd words (used ++ stop.rest) = some stop) :
    marks (emailTokens words before (skipped ++ found ++ '@' :: (used ++ stop.rest))) =
      List.replicate skipped.length true ++
        (List.replicate (found.length + (used.length + 1)) false ++
          marks (emailTokens words stop.before stop.rest)) := by
  rw [emailTokens_address noAt start ended]
  simp [Token.marks]

theorem hidden_of_taken {place : Place} {piece more : List Char}
    (split : place.rest = piece ++ '@' :: more) (noAt : '@' ∉ piece)
    (start : isStart words place.before piece = true)
    (ended : (addressEnd words more).isSome = true) {i : Nat} (inside : i ≤ piece.length) :
    (marks (emailTokens words place.before place.rest))[i]? ≠ some true := by
  obtain ⟨stop, ended⟩ := Option.isSome_iff_exists.mp ended
  obtain ⟨used, rfl, -⟩ := addressEnd_suffix ended
  rw [split, ← List.nil_append piece, marks_address noAt (localPart_of_isStart start) ended]
  simp only [List.length_nil, List.replicate_zero, List.nil_append]
  rw [List.getElem?_append_left (by simp; omega), List.getElem?_replicate]
  split <;> simp

theorem first_hidden_iff {place : Place} (some_ : place.rest ≠ []) :
    (marks (emailTokens words place.before place.rest))[0]? ≠ some true ↔ Taken words place := by
  constructor
  · intro hidden
    by_cases at_ : '@' ∈ place.rest
    · obtain ⟨piece, more, split, noAt⟩ := List.eq_append_cons_of_mem at_
      refine ⟨piece, more, split, noAt, ?_⟩
      have plain : ¬(localPart words place.before piece = none ∨ addressEnd words more = none) := by
        intro plain
        rw [split, emailTokens_plain noAt plain] at hidden
        cases piece <;> simp [Token.marks] at hidden
      obtain ⟨start, ended⟩ := not_or.mp plain
      obtain ⟨found, start⟩ := Option.ne_none_iff_exists'.mp start
      obtain ⟨stop, ended⟩ := Option.ne_none_iff_exists'.mp ended
      obtain ⟨skipped, rfl⟩ := localPart_suffix start
      obtain ⟨used, rfl, -⟩ := addressEnd_suffix ended
      rw [split, marks_address noAt start ended] at hidden
      cases skipped with
      | nil => exact ⟨isStart_of_localPart start, by rw [ended]; rfl⟩
      | cons c skipped => simp [List.replicate_succ] at hidden
    · rw [emailTokens_none at_, marks_map_kept] at hidden
      obtain ⟨c, rest, split⟩ := List.exists_cons_of_ne_nil some_
      simp [split, List.replicate_succ] at hidden
  · rintro ⟨piece, more, split, noAt, start, ended⟩
    exact hidden_of_taken split noAt start ended (Nat.zero_le _)

end Marks

end MysticAuth.Logging
