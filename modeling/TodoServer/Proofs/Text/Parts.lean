import Mathlib.Tactic.Basic
import TodoServer.Text.Ascii

/-!
# Parts between separators

A text is made of its parts with the separator between neighbours, and parts that do not hold the
separator are found again in the text that is made of them.
-/

namespace TodoServer.Text

/-- What holds of the signs of three texts holds of the signs of the text that they make. -/
theorem all_around {p : Char → Bool} {a s b : String} (ha : a.toList.all p = true)
    (h : s.toList.all p = true) (hb : b.toList.all p = true) :
    (a ++ s ++ b).toList.all p = true := by
  simp only [String.toList_append, List.all_append, ha, h, hb, Bool.and_self]

/-- What holds of the signs of the parts and of the separator holds of the signs of the whole. -/
theorem all_join {p : Char → Bool} {separator : String} (between : separator.toList.all p = true)
    {parts : List String} (h : ∀ part ∈ parts, part.toList.all p = true) :
    (join separator parts).toList.all p = true := by
  match parts, h with
  | [], _ => rfl
  | [part], h =>
    rw [join, String.intercalate_singleton]
    exact h part List.mem_cons_self
  | part :: other :: rest, h =>
    have behind : (join separator (other :: rest)).toList.all p = true :=
      all_join between fun part mem => h part (List.mem_cons_of_mem _ mem)
    rw [join, String.intercalate_cons_cons]
    exact all_around (h part List.mem_cons_self) between behind

theorem splitChars_eq_splitOn (separator : Char) (cs : List Char) :
    splitChars separator cs = cs.splitOn separator := by
  induction cs with
  | nil => rfl
  | cons c rest ih =>
    rw [splitChars, List.splitOn_cons_eq_if_modifyHead, ih]
    by_cases same : c = separator
    · rw [if_pos same, if_pos (beq_iff_eq.2 same)]
    · rw [if_neg same, if_neg (mt beq_iff_eq.1 same)]
      cases parts : rest.splitOn separator with
      | nil => exact absurd parts (List.splitOn_ne_nil separator rest)
      | cons part parts => rfl

/-- Parts without the separator are found again. -/
theorem splitChars_intercalate {separator : Char} {parts : List (List Char)}
    (some : parts ≠ []) (pure : ∀ part ∈ parts, separator ∉ part) :
    splitChars separator ([separator].intercalate parts) = parts := by
  rw [splitChars_eq_splitOn, List.splitOn_intercalate separator pure some]

end TodoServer.Text
