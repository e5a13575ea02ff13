/-!
# White space

The characters with the Unicode property `White_Space`, and texts freed of them at both ends.
-/

namespace TodoServer.Text

/-- Whether a character has the Unicode property `White_Space`. -/
def isBlank (c : Char) : Bool :=
  let n := c.toNat
  (9 ≤ n && n ≤ 13) || n == 0x20 || n == 0x85 || n == 0xA0 || n == 0x1680 ||
    (0x2000 ≤ n && n ≤ 0x200A) || n == 0x2028 || n == 0x2029 || n == 0x202F ||
    n == 0x205F || n == 0x3000

/-- Characters without the blanks in front. -/
def trimStart (cs : List Char) : List Char :=
  cs.dropWhile isBlank

/-- Characters without the blanks at the end. -/
def trimEnd (cs : List Char) : List Char :=
  (cs.reverse.dropWhile isBlank).reverse

/-- A text without the blanks at either end. -/
def trim (s : String) : String :=
  String.ofList (trimEnd (trimStart s.toList))

/-- Whether a text holds nothing but blanks. -/
def isAllBlank (s : String) : Bool :=
  s.toList.all isBlank

theorem dropWhile_eq_nil {p : Char → Bool} {cs : List Char} :
    cs.dropWhile p = [] ↔ cs.all p = true := by
  induction cs with
  | nil => simp
  | cons c rest ih => by_cases h : p c = true <;> simp_all

theorem head_trimStart_not_isBlank (cs : List Char) :
    ∀ c ∈ (trimStart cs).head?, isBlank c = false := by
  induction cs with
  | nil => simp [trimStart]
  | cons c rest ih =>
    by_cases h : isBlank c = true
    · simpa [trimStart, List.dropWhile_cons, h] using ih
    · simp [trimStart, h]

/-- A text trims to nothing exactly when it is all blank. -/
theorem trim_eq_empty_iff (s : String) : trim s = "" ↔ isAllBlank s = true := by
  have key : trimEnd (trimStart s.toList) = [] ↔ s.toList.all isBlank = true := by
    have h := head_trimStart_not_isBlank s.toList
    rw [trimEnd, List.reverse_eq_nil_iff, dropWhile_eq_nil, List.all_reverse]
    rw [← @dropWhile_eq_nil isBlank s.toList]
    change (trimStart s.toList).all isBlank = true ↔ trimStart s.toList = []
    rcases ht : trimStart s.toList with _ | ⟨c, rest⟩
    · simp
    · simp [ht] at h
      simp [h]
  rw [trim, isAllBlank, ← key, ← String.ofList_nil, String.ofList_inj]

end TodoServer.Text
