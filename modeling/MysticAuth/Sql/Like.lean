import MysticAuth.Patterns.Wildcards
import MysticAuth.Python.Replace

/-!
# `LIKE`

`%` stands for any text and `_` for any character.  The escape character takes
away the meaning of the one behind it, and a pattern that ends in it is an
error.  `ILIKE` compares what the locale lowers the text and the pattern to.
-/

set_option autoImplicit false

namespace Sql

open Wildcards Python

def likePiece (c : Char) : Piece Char :=
  if c = '%' then .many
  else if c = '_' then .one fun _ => true
  else .one fun d => decide (d = c)

def likePieces (escape : Char) : List Char → Option (List (Piece Char))
  | [] => some []
  | c :: rest =>
      if c = escape then
        match rest with
        | [] => none
        | d :: rest => (.one (fun e => decide (e = d)) :: ·) <$> likePieces escape rest
      else (likePiece c :: ·) <$> likePieces escape rest

/-- `text LIKE pattern ESCAPE escape` -/
def like (escape : Char) (text pattern : List Char) : Option Bool :=
  (likePieces escape pattern).map fun pieces => accepts pieces text

/-- `text ILIKE pattern ESCAPE escape` -/
def ilike (lower : Char → Char) (escape : Char) (text pattern : List Char) : Option Bool :=
  like escape (text.map lower) (pattern.map lower)

/-! ## Escaped text -/

/-- The characters that a pattern does not take for themselves. -/
def likeSpecial (escape : Char) : List Char :=
  [escape, '%', '_']

section Escaped

variable {escape : Char}

theorem likePieces_cons {c : Char} (own : c ≠ escape) (rest : List Char) :
    likePieces escape (c :: rest) = (likePiece c :: ·) <$> likePieces escape rest := by
  cases rest <;> simp [likePieces, own]

theorem likePieces_escape (c : Char) (rest : List Char) :
    likePieces escape (escape :: c :: rest) =
      (.one (fun d => decide (d = c)) :: ·) <$> likePieces escape rest := by
  simp [likePieces]

theorem likePieces_escaped_append (literal rest : List Char) :
    likePieces escape (literal.flatMap (escapeWith escape (likeSpecial escape)) ++ rest) =
      (alike id literal ++ ·) <$> likePieces escape rest := by
  induction literal with
  | nil => simp [alike]
  | cons c literal ih =>
    rw [List.flatMap_cons, List.append_assoc]
    by_cases special : c ∈ likeSpecial escape
    · simp [escapeWith, special, likePieces_escape, ih, alike, Function.comp_def]
    · have own : c ≠ escape := fun same => special (by simp [likeSpecial, same])
      have plain : likePiece c = .one fun d => decide (d = c) := by
        rw [likePiece, if_neg, if_neg]
        · rintro rfl
          exact special (by simp [likeSpecial])
        · rintro rfl
          exact special (by simp [likeSpecial])
      simp [escapeWith, special, likePieces_cons own, plain, ih, alike, Function.comp_def]

/-- Between two `%`, escaped text is looked for as it is. -/
theorem like_containing (wild : escape ≠ '%') (literal text : List Char) :
    like escape text
        ('%' :: (literal.flatMap (escapeWith escape (likeSpecial escape)) ++ ['%'])) =
      some (decide (literal <:+: text)) := by
  have pieces : likePieces escape
        ('%' :: (literal.flatMap (escapeWith escape (likeSpecial escape)) ++ ['%'])) =
      some (.many :: (alike id literal ++ [.many])) := by
    rw [likePieces_cons wild.symm, likePieces_escaped_append, likePieces_cons wild.symm]
    simp [likePieces, likePiece]
  rw [like, pieces, Option.map_some]
  congr 1
  rw [Bool.eq_iff_iff, accepts_containing, List.map_id, decide_eq_true_iff]

end Escaped

/-- The locale lowers nothing to a character of the list but the character itself. -/
def Reflects (lower : Char → Char) (special : List Char) : Prop :=
  ∀ c ∈ special, ∀ d, lower d = c ↔ d = c

/-- Lowering an escaped text escapes the lowered one. -/
theorem map_escapeWith {lower : Char → Char} {escape : Char} {special : List Char}
    (known : escape ∈ special) (reflects : Reflects lower special) (text : List Char) :
    (text.flatMap (escapeWith escape special)).map lower =
      (text.map lower).flatMap (escapeWith escape special) := by
  have own : lower escape = escape := (reflects escape known escape).mpr rfl
  have kept (c : Char) : lower c ∈ special ↔ c ∈ special := by
    constructor
    · intro member
      have same : c = lower c := (reflects _ member c).mp rfl
      rwa [← same] at member
    · intro member
      rwa [(reflects c member c).mpr rfl]
  rw [List.map_flatMap, List.flatMap_map]
  apply List.flatMap_congr
  intro c _
  by_cases member : c ∈ special
  · simp [escapeWith, member, kept, own]
  · simp [escapeWith, member, kept]

end Sql
