import MysticAuth.Patterns.Wildcards
import MysticAuth.Python.Replace

/-!
# Glob patterns

`*` stands for any text, `?` for any character and `[...]` for one of the
listed characters and ranges, or with `[^...]` for one of the others.  `\`
takes away the meaning of the character behind it.  A class that is not closed
ends with the pattern.
-/

set_option autoImplicit false

namespace Glob

open Wildcards Python

/-- How much of an escape or of a class has been read: `item` is a character that may be the first
of a range, `dashed` one with its hyphen. -/
inductive Mode where
  | outside
  | escaped
  | opened
  | inside (negated : Bool) (listed : Char → Bool)
  | quoted (negated : Bool) (listed : Char → Bool)
  | item (negated : Bool) (listed : Char → Bool) (c : Char)
  | dashed (negated : Bool) (listed : Char → Bool) (first : Char)

def literal (c : Char) : Piece Char :=
  .one fun d => decide (d = c)

def oneOf (negated : Bool) (listed : Char → Bool) : Piece Char :=
  .one fun c => listed c != negated

def nothing (_ : Char) : Bool :=
  false

/-- A range may be written in either direction. -/
def listing (listed : Char → Bool) (first last c : Char) : Bool :=
  listed c || decide (first ≤ c ∧ c ≤ last) || decide (last ≤ c ∧ c ≤ first)

def readInside (negated : Bool) (listed : Char → Bool) (c : Char) : Mode × List (Piece Char) :=
  if c = '\\' then (.quoted negated listed, [])
  else if c = ']' then (.outside, [oneOf negated listed])
  else (.item negated listed c, [])

def read : Mode → Char → Mode × List (Piece Char)
  | .outside, c =>
      if c = '*' then (.outside, [.many])
      else if c = '?' then (.outside, [.one fun _ => true])
      else if c = '[' then (.opened, [])
      else if c = '\\' then (.escaped, [])
      else (.outside, [literal c])
  | .escaped, c => (.outside, [literal c])
  | .opened, c => if c = '^' then (.inside true nothing, []) else readInside false nothing c
  | .inside negated listed, c => readInside negated listed c
  | .quoted negated listed, c => (.inside negated (listing listed c c), [])
  | .item negated listed c, d =>
      if d = '-' then (.dashed negated listed c, [])
      else readInside negated (listing listed c c) d
  | .dashed negated listed first, last => (.inside negated (listing listed first last), [])

/-- What the pattern breaks off in stands for itself. -/
def finish : Mode → List (Piece Char)
  | .outside => []
  | .escaped => [literal '\\']
  | .opened => [oneOf false nothing]
  | .inside negated listed => [oneOf negated listed]
  | .quoted negated listed => [oneOf negated (listing listed '\\' '\\')]
  | .item negated listed c => [oneOf negated (listing listed c c)]
  | .dashed negated listed first =>
      [oneOf negated (listing (listing listed first first) '-' '-')]

def pieces : Mode → List Char → List (Piece Char)
  | mode, [] => finish mode
  | mode, c :: rest => (read mode c).2 ++ pieces (read mode c).1 rest

/-- The text matches the pattern. -/
def globMatch (pattern text : List Char) : Bool :=
  accepts (pieces .outside pattern) text

example : globMatch "h[^a-dx]ll\\?*".toList "hell?o".toList = true := by decide

/-! ## Escaped text -/

def metacharacters : List Char :=
  ['\\', '*', '?', '[', ']']

theorem pieces_plain {c : Char} (plain : c ∉ metacharacters) (rest : List Char) :
    pieces .outside (c :: rest) = literal c :: pieces .outside rest := by
  simp only [metacharacters, List.mem_cons, List.not_mem_nil, or_false, not_or] at plain
  simp [pieces, read, plain]

theorem pieces_escaped (c : Char) (rest : List Char) :
    pieces .outside ('\\' :: c :: rest) = literal c :: pieces .outside rest := by
  simp [pieces, read]

/-- A part of a pattern means the same whatever comes behind it. -/
def Means (part : List Char) (meant : List (Piece Char)) : Prop :=
  ∀ rest, pieces .outside (part ++ rest) = meant ++ pieces .outside rest

theorem Means.append {first second : List Char} {meant meant' : List (Piece Char)}
    (left : Means first meant) (right : Means second meant') :
    Means (first ++ second) (meant ++ meant') := by
  intro rest
  rw [List.append_assoc, left, right, List.append_assoc]

theorem means_star : Means ['*'] [.many] :=
  fun _ => rfl

theorem means_plain {text : List Char} (plain : ∀ c ∈ text, c ∉ metacharacters) :
    Means text (alike id text) := by
  intro rest
  induction text with
  | nil => rfl
  | cons c text ih =>
    rw [List.cons_append, pieces_plain (plain c List.mem_cons_self),
      ih fun d member => plain d (List.mem_cons_of_mem c member)]
    rfl

theorem means_escaped (text : List Char) :
    Means (text.flatMap (escapeWith '\\' metacharacters)) (alike id text) := by
  intro rest
  induction text with
  | nil => rfl
  | cons c text ih =>
    rw [List.flatMap_cons, List.append_assoc]
    by_cases special : c ∈ metacharacters
    · rw [escapeWith, if_pos special, List.cons_append, List.cons_append, List.nil_append,
        pieces_escaped, ih]
      rfl
    · rw [escapeWith, if_neg special, List.cons_append, List.nil_append, pieces_plain special, ih]
      rfl

theorem globMatch_of_means {pattern : List Char} {meant : List (Piece Char)}
    (means : Means pattern meant) (text : List Char) :
    globMatch pattern text = accepts meant text := by
  have whole := means []
  rw [List.append_nil] at whole
  rw [globMatch, whole]
  exact congrArg (accepts · text) (List.append_nil meant)

end Glob
