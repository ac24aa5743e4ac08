import MysticAuth.Sql.Like
import MysticAuth.Users.UserQueries

/-!
# Searching for a text

A search is a pattern with a wildcard on either side, in which the characters
that mean something to `LIKE` are escaped.
-/

set_option autoImplicit false

namespace MysticAuth.Users

open Python Sql

theorem toList_ilikePattern (value : String) :
    (ilikePattern value).toList =
      '%' :: (value.toList.flatMap (escapeWith '\\' (likeSpecial '\\')) ++ ['%']) := by
  have escaped := toList_escape '\\' ['%', '_'] (by decide) value
  have texts : ilikePattern value =
      "%" ++ ['\\', '%', '_'].foldl
        (fun text c => text.replace (String.singleton c) (String.ofList ['\\', c])) value ++ "%" :=
    rfl
  rw [texts, String.toList_append, String.toList_append, escaped]
  rfl

/-- A text is found exactly where it occurs, and under `ILIKE` exactly where it occurs letter case
aside. -/
theorem search_literal (value text : String) :
    like '\\' text.toList (ilikePattern value).toList =
        some (decide (value.toList <:+: text.toList)) ∧
      ∀ lower : Char → Char, Reflects lower (likeSpecial '\\') →
        ilike lower '\\' text.toList (ilikePattern value).toList =
          some (decide (value.toList.map lower <:+: text.toList.map lower)) := by
  rw [toList_ilikePattern]
  refine ⟨like_containing (by decide) _ _, ?_⟩
  intro lower reflects
  have percent : lower '%' = '%' := (reflects '%' (by decide) '%').mpr rfl
  rw [ilike, List.map_cons, List.map_append, map_escapeWith (by decide) reflects, List.map_singleton,
    percent]
  exact like_containing (by decide) _ _

/-- Lower case of the ASCII letters touches none of the special characters. -/
theorem reflects_toLower : Reflects Char.toLower (likeSpecial '\\') := by
  have noLetters : ∀ c ∈ likeSpecial '\\',
      ¬ (65 ≤ c.toNat ∧ c.toNat ≤ 90) ∧ ¬ (97 ≤ c.toNat ∧ c.toNat ≤ 122) := by
    simp [likeSpecial]
  intro c member d
  obtain ⟨notUpper, notLower⟩ := noLetters c member
  by_cases upper : 'A'.val ≤ d.val ∧ d.val ≤ 'Z'.val
  · have first : 65 ≤ d.toNat := UInt32.le_iff_toNat_le.mp upper.1
    have last : d.toNat ≤ 90 := UInt32.le_iff_toNat_le.mp upper.2
    have lowered : d.toLower.toNat = d.toNat + 32 := by
      have value : d.toLower.val = d.val + 32 :=
        congrArg Char.val (dif_pos upper)
      have numbers := congrArg UInt32.toNat value
      rw [UInt32.toNat_add] at numbers
      change d.toLower.toNat = (d.toNat + 32) % 2 ^ 32 at numbers
      omega
    constructor
    · rintro rfl
      omega
    · rintro rfl
      omega
  · have lowered : d.toLower = d := dif_neg upper
    rw [lowered]

/-- All three special characters in one search. -/
theorem search_literal_discount :
    ilike Char.toLower '\\' "C:\\SALE\\50%_OFF".toList (ilikePattern "\\50%_off").toList = some true ∧
      ilike Char.toLower '\\' "C:\\SALE\\50 per cent".toList (ilikePattern "\\50%_off").toList =
        some false := by
  have found := (search_literal "\\50%_off" "C:\\SALE\\50%_OFF").2 Char.toLower reflects_toLower
  have missed := (search_literal "\\50%_off" "C:\\SALE\\50 per cent").2 Char.toLower reflects_toLower
  exact ⟨found.trans (by decide), missed.trans (by decide)⟩

end MysticAuth.Users
