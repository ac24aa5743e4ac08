import Mathlib.Data.List.Basic

/-!
# Texts that are stripped and split

`str.strip` without an argument, and the list of the entries of a text that
are left when it is split at commas, stripped and rid of its blanks.
-/

set_option autoImplicit false

namespace Python

/-- `str.isspace` of one character, by code point. -/
def isSpace (c : Char) : Bool :=
  (9 ≤ c.toNat && c.toNat ≤ 13) || (0x1c ≤ c.toNat && c.toNat ≤ 0x20) ||
    (0x2000 ≤ c.toNat && c.toNat ≤ 0x200a) ||
    [0x85, 0xa0, 0x1680, 0x2028, 0x2029, 0x202f, 0x205f, 0x3000].contains c.toNat

def strip (text : List Char) : List Char :=
  ((text.dropWhile isSpace).reverse.dropWhile isSpace).reverse

/-- `[entry.strip() for entry in text.split(",") if entry.strip()]` -/
def commaEntries (text : List Char) : List (List Char) :=
  ((text.splitOn ',').map strip).filter (· ≠ [])

theorem dropWhile_isSpace_of_not {text : List Char} (solid : ∀ c ∈ text, isSpace c = false) :
    text.dropWhile isSpace = text := by
  cases text with
  | nil => rfl
  | cons c rest =>
    apply List.dropWhile_cons_of_neg
    rw [solid c List.mem_cons_self]
    exact Bool.false_ne_true

theorem strip_of_solid {text : List Char} (solid : ∀ c ∈ text, isSpace c = false) :
    strip text = text := by
  rw [strip, dropWhile_isSpace_of_not solid, dropWhile_isSpace_of_not, List.reverse_reverse]
  intro c member
  exact solid c (List.mem_reverse.mp member)

theorem strip_cons_of_isSpace {c : Char} (blank : isSpace c = true) (text : List Char) :
    strip (c :: text) = strip text := by
  rw [strip, List.dropWhile_cons_of_pos blank, strip]

theorem commaEntries_append_comma (left right : List Char) :
    commaEntries (left ++ ',' :: right) = commaEntries left ++ commaEntries right := by
  rw [commaEntries, List.splitOn_append_cons_self, List.map_append, List.filter_append, commaEntries,
    commaEntries]

theorem commaEntries_of_no_comma {text : List Char} (noComma : ',' ∉ text) (visible : strip text ≠ []) :
    commaEntries text = [strip text] := by
  rw [commaEntries, List.splitOn_eq_singleton noComma, List.map_singleton, List.filter_cons_of_pos]
  · rfl
  · exact decide_eq_true visible

end Python
