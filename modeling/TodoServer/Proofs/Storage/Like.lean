import TodoServer.Sql.Inlined
import TodoServer.Storage.Like
import Mathlib.Data.List.Infix

/-!
# What patterns match

Matching as a relation between patterns and texts, which the matcher decides. The escaped form of a
text between percent signs matches the texts that contain it.
-/

namespace TodoServer

namespace Storage.Like

/-- Which patterns match which texts. -/
inductive Matches : List Char → List Char → Prop
  | nil : Matches [] []
  | run (skipped : List Char) {pattern text : List Char} :
    Matches pattern text → Matches ('%' :: pattern) (skipped ++ text)
  | one (c : Char) {pattern text : List Char} :
    Matches pattern text → Matches ('_' :: pattern) (c :: text)
  | escaped {c d : Char} {pattern text : List Char} :
    c.toLower = d.toLower → Matches pattern text → Matches ('\\' :: c :: pattern) (d :: text)
  | plain {c d : Char} {pattern text : List Char} :
    c ≠ '%' → c ≠ '_' → c ≠ '\\' → c.toLower = d.toLower → Matches pattern text →
    Matches (c :: pattern) (d :: text)

theorem sameChar_iff {a b : Char} : sameChar a b = true ↔ a.toLower = b.toLower := beq_iff_eq

theorem anyEnd_iff {rest : List Char → Bool} {text : List Char} :
    anyEnd rest text = true ↔ ∃ skipped after, text = skipped ++ after ∧ rest after = true := by
  induction text with
  | nil =>
    constructor
    · exact fun holds => ⟨[], [], rfl, holds⟩
    · rintro ⟨skipped, after, parts, holds⟩
      obtain ⟨rfl, rfl⟩ := List.append_eq_nil_iff.1 parts.symm
      exact holds
  | cons c text ih =>
    rw [anyEnd, Bool.or_eq_true, ih]
    constructor
    · rintro (holds | ⟨skipped, after, rfl, holds⟩)
      · exact ⟨[], c :: text, rfl, holds⟩
      · exact ⟨c :: skipped, after, rfl, holds⟩
    · rintro ⟨skipped, after, parts, holds⟩
      cases skipped with
      | nil =>
        rw [List.nil_append] at parts
        exact .inl (parts ▸ holds)
      | cons d skipped =>
        cases parts
        exact .inr ⟨skipped, after, rfl, holds⟩

variable {c : Char} {pattern text : List Char}

theorem matches_run_iff :
    Matches ('%' :: pattern) text ↔
      ∃ skipped after, text = skipped ++ after ∧ Matches pattern after := by
  constructor
  · intro holds
    cases holds with
    | run skipped later => exact ⟨skipped, _, rfl, later⟩
    | plain percent => exact absurd rfl percent
  · rintro ⟨skipped, after, rfl, later⟩
    exact .run skipped later

theorem matches_one_iff :
    Matches ('_' :: pattern) text ↔ ∃ d after, text = d :: after ∧ Matches pattern after := by
  constructor
  · intro holds
    cases holds with
    | one d later => exact ⟨d, _, rfl, later⟩
    | plain _ underscore => exact absurd rfl underscore
  · rintro ⟨d, after, rfl, later⟩
    exact .one d later

theorem matches_escaped_iff :
    Matches ('\\' :: c :: pattern) text ↔
      ∃ d after, text = d :: after ∧ c.toLower = d.toLower ∧ Matches pattern after := by
  constructor
  · intro holds
    cases holds with
    | escaped same later => exact ⟨_, _, rfl, same, later⟩
    | plain _ _ backslash => exact absurd rfl backslash
  · rintro ⟨d, after, rfl, same, later⟩
    exact .escaped same later

theorem matches_plain_iff (percent : c ≠ '%') (underscore : c ≠ '_') (backslash : c ≠ '\\') :
    Matches (c :: pattern) text ↔
      ∃ d after, text = d :: after ∧ c.toLower = d.toLower ∧ Matches pattern after := by
  constructor
  · intro holds
    cases holds with
    | run => exact absurd rfl percent
    | one => exact absurd rfl underscore
    | escaped => exact absurd rfl backslash
    | plain _ _ _ same later => exact ⟨_, _, rfl, same, later⟩
  · rintro ⟨d, after, rfl, same, later⟩
    exact .plain percent underscore backslash same later

theorem isMatch_run (pattern text : List Char) :
    isMatch ('%' :: pattern) text = anyEnd (isMatch pattern) text := by
  cases pattern <;> rfl

theorem isMatch_single (percent : c ≠ '%') (backslash : c ≠ '\\') (pattern text : List Char) :
    isMatch (c :: pattern) text = match text with
      | [] => false
      | d :: text => (c = '_' || sameChar c d) && isMatch pattern text := by
  have lone : c = '\\' → pattern = [] → False := fun same => absurd same backslash
  have more : ∀ d rest, c = '\\' → pattern = d :: rest → False :=
    fun _ _ same => absurd same backslash
  cases text with
  | nil => rw [isMatch, if_neg percent] <;> assumption
  | cons d text => rw [isMatch, if_neg percent] <;> assumption

/-- The matcher decides which patterns match which texts. -/
theorem isMatch_iff (pattern text : List Char) :
    isMatch pattern text = true ↔ Matches pattern text := by
  -- An escape takes two characters of the pattern at once, so the recursion is on its length.
  match pattern with
  | [] =>
    rw [isMatch, List.isEmpty_iff]
    constructor
    · rintro rfl
      exact .nil
    · intro holds
      cases holds
      rfl
  | c :: pattern =>
    by_cases percent : c = '%'
    · subst percent
      rw [isMatch_run, anyEnd_iff, matches_run_iff]
      simp only [isMatch_iff pattern]
    by_cases underscore : c = '_'
    · subst underscore
      rw [isMatch_single percent (by decide), matches_one_iff]
      cases text with
      | nil => simp
      | cons d text => simp [isMatch_iff pattern text]
    by_cases backslash : c = '\\'
    · subst backslash
      match pattern with
      | [] =>
        refine ⟨fun absurd => Bool.noConfusion absurd, fun holds => ?_⟩
        cases holds with
        | plain _ _ backslash => exact absurd rfl backslash
      | c :: pattern =>
        rw [matches_escaped_iff]
        cases text with
        | nil => simp [isMatch]
        | cons d text => simp [isMatch, sameChar_iff, isMatch_iff pattern text]
    · rw [isMatch_single percent backslash, matches_plain_iff percent underscore backslash]
      cases text with
      | nil => simp
      | cons d text => simp [underscore, sameChar_iff, isMatch_iff pattern text]
termination_by pattern.length

instance (pattern text : List Char) : Decidable (Matches pattern text) :=
  decidable_of_iff _ (isMatch_iff pattern text)

example : Matches ['%', '\\', '%', 'O', '%'] ['5', '0', '%', 'o', 'f', 'f'] := by decide

/-! ## Escaped texts -/

theorem matches_escapeLikeChar_iff :
    Matches (Sql.escapeLikeChar c ++ pattern) text ↔
      ∃ d after, text = d :: after ∧ c.toLower = d.toLower ∧ Matches pattern after := by
  rw [Sql.escapeLikeChar]
  split
  · exact matches_escaped_iff
  · next ordinary =>
    simp only [not_or] at ordinary
    exact matches_plain_iff ordinary.2.1 ordinary.2.2 ordinary.1

/-- The escaped form of a text matches that text alone, up to the case of ASCII letters. -/
theorem matches_escaped_text_iff {sought : List Char} :
    Matches (sought.flatMap Sql.escapeLikeChar ++ pattern) text ↔
      ∃ found after, text = found ++ after ∧
        sought.map Char.toLower = found.map Char.toLower ∧ Matches pattern after := by
  induction sought generalizing text with
  | nil =>
    constructor
    · exact fun holds => ⟨[], text, rfl, rfl, holds⟩
    · rintro ⟨found, after, rfl, same, holds⟩
      obtain rfl : found = [] := List.map_eq_nil_iff.1 same.symm
      exact holds
  | cons c sought ih =>
    rw [List.flatMap_cons, List.append_assoc, matches_escapeLikeChar_iff]
    constructor
    · rintro ⟨d, rest, rfl, head, holds⟩
      obtain ⟨found, after, rfl, tail, holds⟩ := ih.1 holds
      exact ⟨d :: found, after, rfl, by rw [List.map_cons, List.map_cons, head, tail], holds⟩
    · rintro ⟨found, after, rfl, same, holds⟩
      cases found with
      | nil => cases same
      | cons d found =>
        rw [List.map_cons, List.map_cons, List.cons.injEq] at same
        exact ⟨d, found ++ after, rfl, same.1, ih.2 ⟨found, after, rfl, same.2, holds⟩⟩

end Storage.Like

/-- Whether a text contains another one, up to the case of ASCII letters. -/
def Text.Contains (sought text : String) : Prop :=
  sought.toList.map Char.toLower <:+: text.toList.map Char.toLower

namespace Storage.Like

/-- The escaped form of a text between percent signs matches the texts that contain it. -/
theorem matches_containing_iff {sought text : List Char} :
    Matches ('%' :: (sought.flatMap Sql.escapeLikeChar ++ ['%'])) text ↔
      sought.map Char.toLower <:+: text.map Char.toLower := by
  have tail (text : List Char) : Matches ['%'] text :=
    matches_run_iff.2 ⟨text, [], (List.append_nil text).symm, .nil⟩
  rw [matches_run_iff]
  constructor
  · rintro ⟨front, rest, rfl, holds⟩
    obtain ⟨found, back, rfl, same, _⟩ := matches_escaped_text_iff.1 holds
    exact ⟨front.map Char.toLower, back.map Char.toLower, by simp [same]⟩
  · rintro ⟨front, back, parts⟩
    obtain ⟨before, back, rfl, front, rfl⟩ := List.map_eq_append_iff.1 parts.symm
    obtain ⟨skipped, found, rfl, rfl, same⟩ := List.map_eq_append_iff.1 front
    exact ⟨skipped, found ++ back, List.append_assoc _ _ _,
      matches_escaped_text_iff.2 ⟨found, back, rfl, same.symm, tail back⟩⟩

end Storage.Like

end TodoServer
