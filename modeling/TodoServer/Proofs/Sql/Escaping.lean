import TodoServer.Proofs.Storage.Like

/-!
# Texts inside patterns

A text goes into a pattern with a backslash in front of each backslash, percent sign and underscore.
Escaping the three signs one after the other in the whole text comes to the same, as the backslashes
are the first of them: those that the later ones put in are not escaped again. The pattern then
matches the text and nothing else, up to the case of ASCII letters.
-/

namespace TodoServer

namespace Storage.Like

/-- Whether a pattern ends in a backslash that escapes nothing. -/
def dangles : List Char → Bool
  | [] => false
  | ['\\'] => true
  | '\\' :: _ :: pattern => dangles pattern
  | _ :: pattern => dangles pattern

theorem dangles_cons {c : Char} (plain : c ≠ '\\') (pattern : List Char) :
    dangles (c :: pattern) = dangles pattern := by
  rw [dangles]
  · intro same
    exact absurd same plain
  · intro other rest same
    exact absurd same plain

/-- A sign that is escaped, or needs no escape, leaves the rest of a pattern as it is. -/
theorem dangles_escapeLikeChar (c : Char) (pattern : List Char) :
    dangles (Sql.escapeLikeChar c ++ pattern) = dangles pattern := by
  rw [Sql.escapeLikeChar]
  split
  · rfl
  · next ordinary => exact dangles_cons (fun same => ordinary (.inl same)) pattern

theorem dangles_escaped_text (text pattern : List Char) :
    dangles (text.flatMap Sql.escapeLikeChar ++ pattern) = dangles pattern := by
  induction text with
  | nil => rfl
  | cons c text ih =>
    rw [List.flatMap_cons, List.append_assoc, dangles_escapeLikeChar]
    exact ih

end Storage.Like

namespace Sql

/-! ## Escaping sign by sign -/

/-- A text with a backslash in front of each occurrence of a sign. -/
def escapedSign (sign : Char) (text : List Char) : List Char :=
  text.flatMap fun c => if c = sign then ['\\', sign] else [c]

theorem escapedSign_append (sign : Char) (text others : List Char) :
    escapedSign sign (text ++ others) = escapedSign sign text ++ escapedSign sign others :=
  List.flatMap_append

/-- One pass over a text escapes what three passes escape, backslashes first. -/
theorem flatMap_escapeLikeChar (text : List Char) :
    text.flatMap escapeLikeChar =
      escapedSign '_' (escapedSign '%' (escapedSign '\\' text)) := by
  have single (c : Char) : escapeLikeChar c =
      escapedSign '_' (escapedSign '%' (escapedSign '\\' [c])) := by
    by_cases backslash : c = '\\'
    · subst backslash
      rfl
    by_cases percent : c = '%'
    · subst percent
      rfl
    by_cases underscore : c = '_'
    · subst underscore
      rfl
    · simp [escapeLikeChar, escapedSign, backslash, percent, underscore]
  induction text with
  | nil => rfl
  | cons c text ih =>
    have parts : c :: text = [c] ++ text := rfl
    rw [List.flatMap_cons, ih, single, parts, escapedSign_append, escapedSign_append,
      escapedSign_append]

/-! ## Reading escapes back -/

theorem escapeLikeChar_ne_nil (c : Char) : escapeLikeChar c ≠ [] := by
  rw [escapeLikeChar]
  split <;> simp

/-- The first sign of a text can be read off its escaped form. -/
theorem escapeLikeChar_append_inj {c d : Char} {text others : List Char}
    (same : escapeLikeChar c ++ text = escapeLikeChar d ++ others) : c = d ∧ text = others := by
  rw [escapeLikeChar, escapeLikeChar] at same
  -- A sign that needs no escape is no backslash, so it is not taken for the start of one.
  split at same <;> split at same
  · simpa using same
  · next escaped ordinary =>
    simp only [List.cons_append, List.nil_append, List.cons.injEq] at same
    exact absurd (.inl same.1.symm) ordinary
  · next ordinary escaped =>
    simp only [List.cons_append, List.nil_append, List.cons.injEq] at same
    exact absurd (.inl same.1) ordinary
  · simpa using same

theorem flatMap_escapeLikeChar_inj {text others : List Char}
    (same : text.flatMap escapeLikeChar = others.flatMap escapeLikeChar) : text = others := by
  induction text generalizing others with
  | nil =>
    cases others with
    | nil => rfl
    | cons d others => simp [escapeLikeChar_ne_nil] at same
  | cons c text ih =>
    cases others with
    | nil => simp [escapeLikeChar_ne_nil] at same
    | cons d others =>
      rw [List.flatMap_cons, List.flatMap_cons] at same
      obtain ⟨rfl, rest⟩ := escapeLikeChar_append_inj same
      rw [ih rest]

theorem escapeLike_injective : Function.Injective escapeLike := by
  intro s t same
  have spelled := flatMap_escapeLikeChar_inj (String.ofList_injective same)
  exact String.toList_inj.1 spelled

theorem toList_escapeLike (s : String) :
    (escapeLike s).toList = s.toList.flatMap escapeLikeChar := by
  rw [escapeLike, String.toList_ofList]

end Sql

open Storage

/-- The escaped form of a text is a pattern that matches the text and no other, and between percent
signs one that matches the texts which contain it, up to the case of ASCII letters. Neither ends in
a backslash that escapes nothing. The escaped form tells texts apart and goes part by part, and it
is what comes of escaping the three signs with a meaning one after the other. -/
theorem escapeLike_exact :
    (∀ sought text : String,
      (Like.Matches (Sql.escapeLike sought).toList text.toList ↔
        text.toList.map Char.toLower = sought.toList.map Char.toLower) ∧
      (Like.Matches ("%" ++ Sql.escapeLike sought ++ "%").toList text.toList ↔
        Text.Contains sought text)) ∧
    (∀ sought : String, Like.dangles (Sql.escapeLike sought).toList = false ∧
      Like.dangles ("%" ++ Sql.escapeLike sought ++ "%").toList = false) ∧
    Function.Injective Sql.escapeLike ∧
    (∀ a b : String, Sql.escapeLike (a ++ b) = Sql.escapeLike a ++ Sql.escapeLike b) ∧
    (∀ s : String, (Sql.escapeLike s).toList =
      Sql.escapedSign '_' (Sql.escapedSign '%' (Sql.escapedSign '\\' s.toList))) := by
  have spelled (s : String) : ("%" ++ Sql.escapeLike s ++ "%").toList =
      '%' :: (s.toList.flatMap Sql.escapeLikeChar ++ ['%']) := by
    simp [Sql.toList_escapeLike]
  refine ⟨fun sought text => ⟨?_, ?_⟩, fun sought => ⟨?_, ?_⟩, Sql.escapeLike_injective,
    Sql.escapeLike_append, fun s => ?_⟩
  · have whole := @Like.matches_escaped_text_iff [] text.toList sought.toList
    rw [List.append_nil] at whole
    rw [Sql.toList_escapeLike, whole]
    constructor
    · rintro ⟨found, after, parts, same, ended⟩
      cases ended
      rw [parts, List.append_nil, same]
    · intro same
      exact ⟨text.toList, [], (List.append_nil _).symm, same.symm, .nil⟩
  · rw [spelled]
    exact Like.matches_containing_iff
  · have plain := Like.dangles_escaped_text sought.toList []
    rw [List.append_nil] at plain
    rw [Sql.toList_escapeLike, plain]
    rfl
  · rw [spelled, Like.dangles_cons (by decide), Like.dangles_escaped_text]
    rfl
  · rw [Sql.toList_escapeLike, Sql.flatMap_escapeLikeChar]

example : Like.Matches (Sql.escapeLike "5\\%").toList "5\\%".toList ∧
    ¬Like.Matches (Sql.escapeLike "5%").toList "50%".toList := by decide +kernel

end TodoServer
