import Mathlib.Data.List.Basic

/-!
# Replacing a character

`str.replace` with one character to look for acts on one character after the
other.  Characters that are escaped in turn, the escape character first, are
all escaped once.
-/

set_option autoImplicit false

namespace Python

/-- What a character becomes. -/
def replaceChar (old : Char) (new : List Char) (c : Char) : List Char :=
  if c = old then new else [c]

section Search

open String.Slice.Pattern String.Slice.Pattern.Model

variable {slice : String.Slice} (old : Char) (new : String)

/-- One step of the search, and the text that has been put together by then. -/
def replaceStep (sofar : String) (step : SearchStep slice) : String :=
  match sofar, step with
  | sofar, .matched .. => sofar ++ String.ToSlice.toSlice new
  | sofar, .rejected start stop => sofar ++ slice.slice! start stop

theorem absent_of_rejected {start stop : slice.Pos} {before rejected after : String}
    (splits : start.Splits before (rejected ++ after))
    (splits' : stop.Splits (before ++ rejected) after)
    (unmatched : ∀ pos, start ≤ pos → pos < stop → ¬ MatchesAt (String.singleton old) pos) :
    old ∉ rejected.toList := by
  intro member
  obtain ⟨front, back, split⟩ := List.append_of_mem member
  have texts : rejected = String.ofList front ++ (String.singleton old ++ String.ofList back) := by
    apply String.toList_inj.mp
    simp [split]
  have whole : slice.copy =
      (before ++ String.ofList front) ++ (String.singleton old ++ (String.ofList back ++ after)) := by
    rw [splits.eq_append, texts]
    simp only [String.append_assoc]
  have found := String.Slice.Pos.splits_ofEqAppend whole
  refine unmatched (String.Slice.Pos.ofEqAppend whole) ?_ ?_
    (ForwardStringSearcher.matchesAt_iff_splits.mpr ⟨_, _, found⟩)
  · exact (splits.le_iff_exists_eq_append found).mpr ⟨String.ofList front, rfl, by
      rw [texts]; simp only [String.append_assoc]⟩
  · refine (found.lt_iff_exists_eq_append splits').mpr
      ⟨String.singleton old ++ String.ofList back, ?_, ?_, ?_⟩
    · simp
    · rw [texts]; simp only [String.append_assoc]
    · simp only [String.append_assoc]

theorem toList_foldl_replaceStep {pos : slice.Pos} {steps : List (SearchStep slice)}
    (valid : IsValidSearchFrom (String.singleton old) pos steps) {before after : String}
    (splits : pos.Splits before after) (sofar : String) :
    (steps.foldl (replaceStep new) sofar).toList =
      sofar.toList ++ after.toList.flatMap (replaceChar old new.toList) := by
  induction valid generalizing before after sofar with
  | endPos =>
    obtain ⟨-, rfl⟩ := String.Slice.splits_endPos_iff.mp splits
    simp
  | matched longest valid ih =>
    obtain ⟨before', after', splits', following⟩ :=
      ForwardStringSearcher.isLongestMatchAt_iff_splits.mp longest
    obtain rfl := splits.eq_right splits'
    have replaced : (String.ToSlice.toSlice new).copy = new := String.copy_toSlice
    rw [List.foldl_cons, ih following]
    simp [replaceStep, replaceChar, replaced]
  | mismatched later unmatched valid ih =>
    rename_i rest start stop
    have following := stop.splits
    obtain ⟨rejected, -, leftText, rightText⟩ :=
      (splits.lt_iff_exists_eq_append following).mp later
    rw [leftText] at following
    subst rightText
    have absent := absent_of_rejected old splits following unmatched
    have piece : (slice.slice! start stop).copy = rejected := by
      obtain ⟨ordered, copied⟩ :=
        String.Slice.copy_slice_eq_iff_splits.mpr ⟨_, _, splits, following⟩
      rw [← String.Slice.slice_eq_slice! (h := ordered)]
      exact copied
    have unchanged : rejected.toList.flatMap (replaceChar old new.toList) = rejected.toList := by
      have each : ∀ c ∈ rejected.toList, replaceChar old new.toList c = [c] := by
        intro c member
        apply if_neg
        rintro rfl
        exact absent member
      rw [List.flatMap_congr each]
      simp
    rw [List.foldl_cons, ih following]
    simp [replaceStep, piece, unchanged]

end Search

/-- `text.replace(old, new)` -/
theorem toList_replace (text : String) (old : Char) (new : String) :
    (text.replace (String.singleton old) new).toList =
      text.toList.flatMap (replaceChar old new.toList) := by
  have some_ : String.singleton old ≠ "" := by simp
  have lawful :=
    String.Slice.Pattern.Model.ForwardStringSearcher.lawfulToForwardSearcherModel some_
  have folded : text.replace (String.singleton old) new =
      (String.Slice.Pattern.ToForwardSearcher.toSearcher (String.singleton old)
        text.toSlice).toList.foldl (replaceStep new) "" := by
    rw [Std.Iter.foldl_toList]
    rfl
  rw [folded, toList_foldl_replaceStep old new (lawful.isValidSearchFrom_toList _)
    (String.Slice.splits_startPos _)]
  simp

/-! ## Escaping -/

def escapeWith (escape : Char) (special : List Char) (c : Char) : List Char :=
  if c ∈ special then [escape, c] else [c]

/-- One more character is escaped, and what has been put before others is left alone. -/
theorem flatMap_escapeWith {escape c : Char} {special : List Char} (known : escape ∈ special)
    (fresh : c ∉ special) (text : List Char) :
    (text.flatMap (escapeWith escape special)).flatMap (replaceChar c [escape, c]) =
      text.flatMap (escapeWith escape (special ++ [c])) := by
  rw [List.flatMap_assoc]
  apply List.flatMap_congr
  intro d _
  have differs : escape ≠ c := fun same => fresh (same ▸ known)
  by_cases escaped : d ∈ special
  · have differs' : d ≠ c := fun same => fresh (same ▸ escaped)
    simp [escapeWith, replaceChar, escaped, differs, differs']
  · by_cases same : d = c
    · simp [escapeWith, replaceChar, fresh, same]
    · simp [escapeWith, replaceChar, escaped, same]

theorem toList_foldl_replace {escape : Char} (others special : List Char)
    (known : escape ∈ special) (distinct : (special ++ others).Nodup) (text : String)
    (original : List Char) (escaped : text.toList = original.flatMap (escapeWith escape special)) :
    (others.foldl (fun text c => text.replace (String.singleton c) (String.ofList [escape, c]))
        text).toList = original.flatMap (escapeWith escape (special ++ others)) := by
  induction others generalizing special text with
  | nil => rwa [List.foldl_nil, List.append_nil]
  | cons c rest ih =>
    have fresh : c ∉ special := fun member =>
      (List.nodup_append.mp distinct).2.2 c member c List.mem_cons_self rfl
    have regrouped : special ++ c :: rest = special ++ [c] ++ rest := by simp
    rw [List.foldl_cons, regrouped]
    apply ih
    · exact List.mem_append_left _ known
    · rwa [← regrouped]
    · rw [toList_replace, escaped, String.toList_ofList, flatMap_escapeWith known fresh]

/-- `for char in special: text = text.replace(char, escape + char)` -/
theorem toList_escape (escape : Char) (others : List Char) (distinct : (escape :: others).Nodup)
    (text : String) :
    ((escape :: others).foldl
        (fun text c => text.replace (String.singleton c) (String.ofList [escape, c])) text).toList =
      text.toList.flatMap (escapeWith escape (escape :: others)) := by
  rw [List.foldl_cons]
  apply toList_foldl_replace others [escape] List.mem_cons_self distinct
  rw [toList_replace, String.toList_ofList]
  apply List.flatMap_congr
  intro c _
  by_cases same : c = escape
  · simp [escapeWith, replaceChar, same]
  · simp [escapeWith, replaceChar, same]

end Python
