/-!
# Comparing secrets

All bytes are looked at whatever they hold, so that the time taken says nothing about them.
-/

namespace TodoServer.Crypto

/-- The bits in which two lists of bytes differ, gathered into one byte. -/
def difference (a b : List UInt8) : UInt8 :=
  (List.zipWith (· ^^^ ·) a b).foldl (· ||| ·) 0

/-- Whether two lists of bytes are equal. -/
def constantTimeEq (a b : List UInt8) : Bool :=
  a.length == b.length && difference a b == 0

theorem foldl_or_eq_zero_iff (bytes : List UInt8) (start : UInt8) :
    bytes.foldl (· ||| ·) start = 0 ↔ start = 0 ∧ ∀ b ∈ bytes, b = 0 := by
  induction bytes generalizing start with
  | nil => simp
  | cons b rest ih => simp [ih, and_assoc]

theorem constantTimeEq_iff (a b : List UInt8) : constantTimeEq a b = true ↔ a = b := by
  have key : ∀ a b : List UInt8, a.length = b.length →
      ((∀ x ∈ List.zipWith (· ^^^ ·) a b, x = 0) ↔ a = b) := by
    intro a
    induction a with
    | nil => intro b h; cases b <;> simp_all
    | cons x rest ih =>
      intro b h
      cases b with
      | nil => simp at h
      | cons y others =>
        have h : rest.length = others.length := by simpa using h
        simp only [List.zipWith_cons_cons, List.mem_cons, forall_eq_or_imp,
          UInt8.xor_eq_zero_iff, ih others h, List.cons.injEq]
  rw [constantTimeEq, Bool.and_eq_true, beq_iff_eq, beq_iff_eq, difference, foldl_or_eq_zero_iff]
  constructor
  · rintro ⟨h, _, all⟩
    exact (key a b h).1 all
  · rintro rfl
    exact ⟨rfl, rfl, (key a a rfl).2 rfl⟩

end TodoServer.Crypto
