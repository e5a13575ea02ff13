import TodoServer.Auth.Manager
import TodoServer.Proofs.Json.Reading

/-!
# Reading tokens back

A token that was made with a key holds, under that key, the claims that it was made of, and nothing
else: until its time is over it is accepted with these claims.
-/

namespace TodoServer

/-! ## Segments -/

namespace Text.Base64Url

/-- Base 64 is written with visible characters, and without points. -/
theorem visible_of_mem_encode (bytes : List UInt8) :
    ∀ c ∈ encode bytes, (0x20 < c.toNat ∧ c.toNat < 0x7f) ∧ c ≠ '.' := by
  have one (n : Nat) :
      (0x20 < (character n).toNat ∧ (character n).toNat < 0x7f) ∧ character n ≠ '.' := by
    have small : ∀ n < 64,
        (0x20 < (character n).toNat ∧ (character n).toNat < 0x7f) ∧ character n ≠ '.' := by
      decide
    by_cases six : n < 64
    · exact small n six
    · rw [character, if_neg (by omega), if_neg (by omega), if_neg (by omega), if_neg (by omega)]
      decide
  fun_induction encode bytes with
  | case1 => exact List.forall_mem_nil _
  | case2 | case3 =>
    simp only [List.forall_mem_cons]
    simp [one]
  | case4 a b c rest ih =>
    simp only [List.forall_mem_cons]
    exact ⟨one _, one _, one _, one _, ih⟩

theorem point_notMem_text (bytes : List UInt8) : '.' ∉ (text bytes).toList := by
  rw [text, String.toList_ofList]
  exact fun mem => (visible_of_mem_encode bytes '.' mem).2 rfl

end Text.Base64Url

namespace Auth

/-- Times of 64 bits, of which the end is not before 1970. -/
def Claims.IsDated (c : Claims) : Prop :=
  (-9223372036854775808 ≤ c.issuedAt ∧ c.issuedAt ≤ 9223372036854775807) ∧
    0 ≤ c.expiresAt ∧ c.expiresAt ≤ 9223372036854775807

namespace Token

open Json

/-- A text is cut at its last point. -/
theorem cutLast?_append (before : String) {last : String} (bare : '.' ∉ last.toList) :
    cutLast? (before ++ "." ++ last) = some (before, last) := by
  have reversed : (before ++ "." ++ last).toList.reverse =
      last.toList.reverse ++ '.' :: before.toList.reverse := by
    simp
  have plain : ∀ c ∈ last.toList.reverse, (c != '.') = true := by
    intro c mem
    rw [bne_iff_ne]
    rintro rfl
    exact bare (List.mem_reverse.1 mem)
  rw [cutLast?, reversed]
  simp [List.takeWhile_append_of_pos plain, List.dropWhile_append_of_pos plain]

/-- A document is read back from its segment. -/
theorem bytes?_segment (j : Json) :
    Text.Base64Url.bytes? (segment j) = some (Text.utf8 j.compact) := by
  rw [segment, Text.Base64Url.bytes?, Text.Base64Url.text, String.toList_ofList,
    Text.Base64Url.decode?_encode]

theorem algorithm?_header : algorithm? (segment header) = some algorithm := by
  have read := Draft.ofGlyphs_compact Shape.skippedNesting header rfl (by decide)
  rw [algorithm?, bytes?_segment, Option.bind_eq_bind, Option.bind_some, Shape.read, read]
  rfl

/-! ## Claims -/

theorem fit_number_int (n : Int) : number.fit (.int n) =
    if -9223372036854775808 ≤ n ∧ n ≤ 9223372036854775807 then .ok (.integer n)
    else .error .mismatched := by
  rw [number, Shape.fit]

/-- A number of 64 bits fits, and nothing else does that is written as a whole number. -/
theorem fit_number {n : Int} {datum : Datum} : number.fit (Draft.ofInt n) = .ok datum ↔
    (-9223372036854775808 ≤ n ∧ n ≤ 9223372036854775807) ∧ datum = .integer n := by
  constructor
  · intro fitted
    cases read : Draft.ofInt n with
    | int m =>
      obtain ⟨rfl, -⟩ := Draft.ofInt_eq_int_iff.1 read
      rw [read, fit_number_int] at fitted
      split at fitted
      · next inside =>
        cases fitted
        exact ⟨inside, rfl⟩
      · cases fitted
    | _ =>
      rw [read] at fitted
      cases fitted
  · rintro ⟨inside, rfl⟩
    have bits : Draft.hasBits n = true := by
      rw [Draft.hasBits, Bool.and_eq_true, decide_eq_true_eq, decide_eq_true_eq]
      omega
    rw [Draft.ofInt_eq_int_iff.2 ⟨rfl, bits⟩, fit_number_int, if_pos inside]

theorem fit_claims (c : Claims) : claimsShape.fit c.toJson.reread =
    (do
      let issuedAt ← number.fit (Draft.ofInt c.issuedAt)
      let expiresAt ← number.fit (Draft.ofInt c.expiresAt)
      .ok (.object [.text c.subject, issuedAt, expiresAt, .text c.id])) := by
  have read : c.toJson.reread = .obj [("sub", .str c.subject), ("iat", .ofInt c.issuedAt),
    ("exp", .ofInt c.expiresAt), ("jti", .str c.id)] true := by
    simp only [Claims.toJson, reread, rereadMembers]
  have text (s : String) : Shape.text.fit (.str s) = .ok (.text s) := rfl
  rw [read, claimsShape, Shape.fit]
  simp only [Shape.fieldFits]
  rw [Shape.fitMembers_cons (i := 0) rfl rfl rfl, text]
  simp only [bind, Except.bind]
  rw [Shape.fitMembers_cons (i := 1) rfl rfl rfl]
  cases number.fit (Draft.ofInt c.issuedAt) with
  | error e => rfl
  | ok issuedAt =>
    simp only [bind, Except.bind]
    rw [Shape.fitMembers_cons (i := 2) rfl rfl rfl]
    cases number.fit (Draft.ofInt c.expiresAt) with
    | error e => rfl
    | ok expiresAt =>
      simp only [bind, Except.bind]
      rw [Shape.fitMembers_cons (i := 3) rfl rfl rfl, text]
      rfl

/-- The segment of claims holds these claims and no others. -/
theorem claims?_segment {c found : Claims} :
    claims? (segment c.toJson) = some found ↔ c.IsDated ∧ found = c := by
  have shallow : c.toJson.nesting ≤ Shape.skippedNesting := Nat.le_of_ble_eq_true rfl
  have read := Draft.ofGlyphs_compact Shape.skippedNesting c.toJson rfl shallow
  have members : c.toJson.reread = .obj [("sub", .str c.subject), ("iat", .ofInt c.issuedAt),
    ("exp", .ofInt c.expiresAt), ("jti", .str c.id)] true := by
    simp only [Claims.toJson, reread, rereadMembers]
  have allowed : allowsUse [("sub", .str c.subject), ("iat", .ofInt c.issuedAt),
    ("exp", .ofInt c.expiresAt), ("jti", .str c.id)] = true := rfl
  have fitted := fit_claims c
  rw [members] at read fitted
  rw [claims?, bytes?_segment, Option.bind_eq_bind, Option.bind_some, read]
  simp only [fitted, allowed, and_true]
  cases issued : number.fit (Draft.ofInt c.issuedAt) with
  | error e =>
    refine iff_of_false (fun taken => by cases taken) fun dated => ?_
    rw [fit_number.2 ⟨dated.1.1, rfl⟩] at issued
    cases issued
  | ok datum =>
    obtain ⟨first, rfl⟩ := fit_number.1 issued
    cases expires : number.fit (Draft.ofInt c.expiresAt) with
    | error e =>
      refine iff_of_false (fun taken => by cases taken) fun dated => ?_
      have second : -9223372036854775808 ≤ c.expiresAt := by
        have := dated.1.2.1
        omega
      rw [fit_number.2 ⟨⟨second, dated.1.2.2⟩, rfl⟩] at expires
      cases expires
    | ok datum =>
      obtain ⟨second, rfl⟩ := fit_number.1 expires
      simp only [bind, Except.bind]
      constructor
      · intro taken
        split at taken
        · next later =>
          cases taken
          exact ⟨⟨first, later, second.2⟩, rfl⟩
        · cases taken
      · rintro ⟨dated, rfl⟩
        exact if_pos dated.2.1

/-! ## Tokens -/

variable {now : Int} {key : List UInt8} {c found : Claims}

/-- A token that was made with a key passes the checks of header and tag under that key. -/
theorem validate_sign_eq (now : Int) (key : List UInt8) (c : Claims) :
    validate now key (sign key c) =
      match claims? (segment c.toJson) with
      | none => .error .invalid
      | some claims => if claims.expiresAt + leeway < now then .error .expired else .ok claims := by
  have tagged := cutLast?_append (segment header ++ "." ++ segment c.toJson)
    (Text.Base64Url.point_notMem_text
      ((Crypto.Hmac.ofKey key).tag (Text.utf8 (segment header ++ "." ++ segment c.toJson))).bytes)
  have headed := cutLast?_append (segment header)
    (Text.Base64Url.point_notMem_text (Text.utf8 c.toJson.compact))
  rw [← signature] at tagged
  rw [← segment] at headed
  have untampered : ¬algorithm? (segment header) ≠ some algorithm :=
    Decidable.not_not.2 algorithm?_header
  rw [validate, sign]
  simp only [tagged, headed]
  rewrite [if_neg untampered, if_neg (Decidable.not_not.2 rfl)]
  rfl

/-- Claims that are dated are accepted until their time is over. -/
theorem validate_sign (dated : c.IsDated) : validate now key (sign key c) =
    if c.expiresAt + leeway < now then .error .expired else .ok c := by
  rw [validate_sign_eq, claims?_segment.2 ⟨dated, rfl⟩]

/-- No other claims are accepted. -/
theorem eq_of_validate_sign (valid : validate now key (sign key c) = .ok found) : found = c := by
  rw [validate_sign_eq] at valid
  cases read : claims? (segment c.toJson) with
  | none =>
    rw [read] at valid
    cases valid
  | some claims =>
    obtain ⟨-, rfl⟩ := claims?_segment.1 read
    rw [read] at valid
    simp only at valid
    split at valid <;> cases valid
    rfl

/-- Tokens are made of visible characters. -/
theorem visible_of_mem_sign (key : List UInt8) (c : Claims) :
    ∀ char ∈ (sign key c).toList, 0x20 < char.toNat ∧ char.toNat < 0x7f := by
  have visible (bytes : List UInt8) : ∀ char ∈ (Text.Base64Url.text bytes).toList,
      0x20 < char.toNat ∧ char.toNat < 0x7f := by
    rw [Text.Base64Url.text, String.toList_ofList]
    exact fun char mem => (Text.Base64Url.visible_of_mem_encode bytes char mem).1
  have point : ∀ char ∈ ".".toList, 0x20 < char.toNat ∧ char.toNat < 0x7f :=
    List.forall_mem_singleton.2 (by decide)
  simp only [sign, segment, signature, String.toList_append, List.forall_mem_append]
  exact ⟨⟨⟨⟨visible _, point⟩, visible _⟩, point⟩, visible _⟩

theorem sign_ne_empty (key : List UInt8) (c : Claims) : sign key c ≠ "" := by
  intro empty
  have cut := cutLast?_append (segment header ++ "." ++ segment c.toJson)
    (Text.Base64Url.point_notMem_text
      ((Crypto.Hmac.ofKey key).tag (Text.utf8 (segment header ++ "." ++ segment c.toJson))).bytes)
  have same : segment header ++ "." ++ segment c.toJson ++ "." ++
      signature key (segment header ++ "." ++ segment c.toJson) = "" := empty
  rw [← signature, same] at cut
  cases cut

end Token

namespace Manager

variable {m : Manager} {now : Instant} {tokenId : String} {userId : Int}

/-- A new token of an account is accepted for that account until its time is over. -/
theorem validate_issue {later : Instant} (dated : (m.claims now tokenId userId).IsDated)
    (early : later.seconds ≤ now.seconds + m.expiresIn + Token.leeway) :
    m.validate later (m.issue now tokenId userId).token = .ok (m.claims now tokenId userId) := by
  have inTime : ¬(m.claims now tokenId userId).expiresAt + Token.leeway < later.seconds :=
    Int.not_lt.2 early
  rw [validate, issue, Token.validate_sign dated, if_neg inTime]

/-- A new token of an account names that account and no other one, whenever it is looked at. -/
theorem eq_of_validate_issue {later : Instant} {found : Claims} {named : Int}
    (valid : m.validate later (m.issue now tokenId userId).token = .ok found)
    (names : found.userId? = some named) : named = userId := by
  have same := Token.eq_of_validate_sign valid
  rw [same, Claims.userId?, claims, Text.signed64?_decimal] at names
  split at names <;> cases names
  rfl

end Manager

end Auth

end TodoServer
