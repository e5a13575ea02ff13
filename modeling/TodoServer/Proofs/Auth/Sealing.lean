import Mathlib.Algebra.Order.Ring.Int
import Mathlib.Data.Nat.Cast.Order.Ring
import Mathlib.Data.List.TakeWhile
import TodoServer.Proofs.Auth.Token

/-!
# Sealed tokens

A token is accepted exactly when it is made of two segments and of the keyed hash of these, when its
header names the one way of signing, and when the time of its claims is not over. So a token that
was made with a key is read back under that key, and is refused under every key that hashes its
segments to another tag.
-/

namespace TodoServer

/-! ## Segments -/

namespace Text.Base64Url

theorem encode_injective : Function.Injective encode := by
  intro bytes others same
  have read : decode? (encode bytes) = decode? (encode others) := congrArg decode? same
  rw [decode?_encode, decode?_encode] at read
  exact Option.some.inj read

theorem text_injective : Function.Injective text :=
  fun _ _ same => encode_injective (String.ofList_injective same)

theorem point_notMem_of_decode? {cs : List Char} {bytes : List UInt8}
    (read : decode? cs = some bytes) : '.' ∉ cs := by
  have foreign : bits? '.' = none := by decide
  have known {c : Char} {n : Nat} (digit : bits? c = some n) : '.' ≠ c := by
    rintro rfl
    rw [foreign] at digit
    cases digit
  fun_induction decode? cs generalizing bytes with
  | case1 => exact List.not_mem_nil
  | case2 => cases read
  | case3 w x =>
    simp only [Option.bind_eq_bind, Option.bind_eq_some_iff] at read
    obtain ⟨_, hw, _, hx, -⟩ := read
    simp [known hw, known hx]
  | case4 w x y =>
    simp only [Option.bind_eq_bind, Option.bind_eq_some_iff] at read
    obtain ⟨_, hw, _, hx, _, hy, -⟩ := read
    simp [known hw, known hx, known hy]
  | case5 w x y z rest ih =>
    simp only [Option.bind_eq_bind, Option.bind_eq_some_iff] at read
    obtain ⟨_, hw, _, hx, _, hy, _, hz, _, hrest, -⟩ := read
    simp [known hw, known hx, known hy, known hz, ih hrest]

end Text.Base64Url

/-! ## Keyed hashing -/

namespace Crypto

namespace Digest

theorem wordBytes_injective : Function.Injective wordBytes := by
  intro w v same
  simp only [wordBytes, List.cons.injEq, ← UInt8.toNat_inj, UInt32.toNat_toUInt8,
    UInt32.toNat_shiftRight, UInt32.toNat_ofNat, Nat.shiftRight_eq_div_pow, Nat.reduceMod,
    Nat.reducePow, and_true] at same
  have hw := w.toNat_lt
  have hv := v.toNat_lt
  exact UInt32.toNat_inj.1 (by omega)

/-- The bytes of a digest are those of no other digest. -/
theorem bytes_injective : Function.Injective bytes := by
  have cut (w v : UInt32) (rest others : List UInt8) :
      wordBytes w ++ rest = wordBytes v ++ others ↔ w = v ∧ rest = others := by
    constructor
    · intro same
      obtain ⟨front, back⟩ := List.append_inj same rfl
      exact ⟨wordBytes_injective front, back⟩
    · rintro ⟨rfl, rfl⟩
      rfl
  rintro ⟨⟩ ⟨⟩ same
  simpa [bytes, words, cut, wordBytes_injective.eq_iff] using same

end Digest

/-- The first block leads to a state from which the rest of a message is hashed. -/
theorem Sha256.finish_block {block : List UInt8} (whole : block.length = 64) (s : Digest)
    (message : List UInt8) :
    finish s 0 (block ++ message) = finish (absorb 1 s block) 64 message := by
  have size : 0 + (block ++ message).length = 64 + message.length := by
    rw [List.length_append, whole, Nat.zero_add]
  have blocks (rest : List UInt8) : (block ++ rest).length / 64 = rest.length / 64 + 1 := by
    rw [List.length_append, whole]
    omega
  rw [finish, finish, size]
  simp only [List.append_assoc, blocks]
  rw [absorb, List.take_left' whole, List.drop_left' whole, absorb, absorb,
    List.take_of_length_le (Nat.le_of_eq whole)]

namespace Hmac

/-- The keyed hash, made of two whole hashes. -/
def hash (key message : List UInt8) : Digest :=
  let block := keyBlock key
  sha256 (block.map (· ^^^ 0x5c) ++ (sha256 (block.map (· ^^^ 0x36) ++ message)).bytes)

theorem length_keyBlock (key : List UInt8) : (keyBlock key).length = 64 := by
  have short : (if 64 < key.length then (sha256 key).bytes else key).length ≤ 64 := by
    split
    · rw [Digest.length_bytes]
      omega
    · omega
  rw [keyBlock, List.length_append, List.length_replicate]
  omega

/-- The states of a key lead to the keyed hash. -/
theorem tag_ofKey (key message : List UInt8) : (ofKey key).tag message = hash key message := by
  have whole (mask : UInt8) : ((keyBlock key).map (· ^^^ mask)).length = 64 := by
    rw [List.length_map, length_keyBlock]
  rw [hash, sha256, sha256, Sha256.finish_block (whole _), Sha256.finish_block (whole _)]
  rfl

end Hmac

end Crypto

/-! ## Tokens -/

namespace Auth

namespace Token

variable {now : Int} {key : List UInt8} {c found : Claims} {token : String}

/-- A text is cut at a point with no further point behind it. -/
theorem cutLast?_eq_some_iff {s before last : String} : cutLast? s = some (before, last) ↔
    s = before ++ "." ++ last ∧ '.' ∉ last.toList := by
  constructor
  · intro cut
    have halves : s.toList.reverse.takeWhile (· != '.') ++ s.toList.reverse.dropWhile (· != '.') =
        s.toList.reverse := List.takeWhile_append_dropWhile
    have bare : '.' ∉ s.toList.reverse.takeWhile (· != '.') := by
      intro mem
      have other := List.mem_takeWhile_imp mem
      simp at other
    rw [cutLast?] at cut
    cases rest : s.toList.reverse.dropWhile (· != '.') with
    | nil =>
      simp only [rest] at cut
      cases cut
    | cons c tail =>
      have point : c = '.' := by
        have stops := List.head?_dropWhile_not (· != '.') s.toList.reverse
        rw [rest] at stops
        simpa using stops
      subst point
      simp only [rest] at cut halves
      cases cut
      have turned := congrArg List.reverse halves
      rw [List.reverse_reverse] at turned
      refine ⟨String.toList_inj.1 (turned.symm.trans ?_), by simpa using bare⟩
      simp
  · rintro ⟨rfl, bare⟩
    exact cutLast?_append before bare

theorem signature_eq (key : List UInt8) (signed : String) : signature key signed =
    Text.Base64Url.text (Crypto.Hmac.hash key (Text.utf8 signed)).bytes := by
  rw [signature, Crypto.Hmac.tag_ofKey]

/-- Two keys sign a text in one way only when they hash it to one tag. -/
theorem signature_eq_signature_iff {other : List UInt8} {signed : String} :
    signature other signed = signature key signed ↔
      Crypto.Hmac.hash other (Text.utf8 signed) = Crypto.Hmac.hash key (Text.utf8 signed) := by
  rw [signature_eq, signature_eq, Text.Base64Url.text_injective.eq_iff,
    Crypto.Digest.bytes_injective.eq_iff]

theorem expired_or_ok_iff : (if found.expiresAt + leeway < now then .error .expired else .ok found :
    Except TokenError Claims) = .ok c ↔ found = c ∧ now ≤ c.expiresAt + leeway := by
  split
  · next late =>
    refine iff_of_false nofun ?_
    rintro ⟨rfl, inTime⟩
    omega
  · next inTime =>
    rw [Except.ok.injEq]
    constructor
    · rintro rfl
      exact ⟨rfl, by omega⟩
    · exact And.left

/-- What is looked at in a text of three parts. -/
theorem validate_join {head body tag : String} (bodyBare : '.' ∉ body.toList)
    (tagBare : '.' ∉ tag.toList) :
    validate now key (head ++ "." ++ body ++ "." ++ tag) = .ok c ↔
      algorithm? head = some algorithm ∧ tag = signature key (head ++ "." ++ body) ∧
        claims? body = some c ∧ now ≤ c.expiresAt + leeway := by
  rw [validate]
  simp only [cutLast?_append _ tagBare, cutLast?_append _ bodyBare]
  by_cases headed : algorithm? head = some algorithm
  · by_cases tagged : tag = signature key (head ++ "." ++ body)
    · simp only [headed, tagged, ne_eq, not_true_eq_false, if_false, true_and]
      cases claims? body with
      | none => simp
      | some claims => simp only [expired_or_ok_iff, Option.some.injEq]
    · simp [headed, tagged]
  · simp [headed]

/-- What is accepted has three parts. -/
theorem exists_parts_of_validate (valid : validate now key token = .ok c) :
    ∃ head body tag, token = head ++ "." ++ body ++ "." ++ tag ∧
      '.' ∉ body.toList ∧ '.' ∉ tag.toList := by
  rw [validate] at valid
  split at valid
  · cases valid
  · next signed tag outer =>
    obtain ⟨rfl, tagBare⟩ := cutLast?_eq_some_iff.1 outer
    split at valid
    · cases valid
    · next head body inner =>
      obtain ⟨rfl, bodyBare⟩ := cutLast?_eq_some_iff.1 inner
      exact ⟨head, body, tag, rfl, bodyBare, tagBare⟩

theorem point_notMem_of_claims? {body : String} (claimed : claims? body = some c) :
    '.' ∉ body.toList := by
  rw [claims?, Option.bind_eq_bind, Option.bind_eq_some_iff] at claimed
  obtain ⟨bytes, read, -⟩ := claimed
  exact Text.Base64Url.point_notMem_of_decode? read

/-- A text is accepted exactly when it is a header, claims and the keyed hash of both, each in base
64 and without points of its own. -/
theorem validate_eq_ok_iff : validate now key token = .ok c ↔ ∃ head body,
    token = head ++ "." ++ body ++ "." ++
        Text.Base64Url.text (Crypto.Hmac.hash key (Text.utf8 (head ++ "." ++ body))).bytes ∧
      algorithm? head = some algorithm ∧ claims? body = some c ∧ now ≤ c.expiresAt + leeway := by
  constructor
  · intro valid
    obtain ⟨head, body, tag, rfl, bodyBare, tagBare⟩ := exists_parts_of_validate valid
    obtain ⟨headed, rfl, claimed, inTime⟩ := (validate_join bodyBare tagBare).1 valid
    exact ⟨head, body, by rw [signature_eq], headed, claimed, inTime⟩
  · rintro ⟨head, body, rfl, headed, claimed, inTime⟩
    rw [← signature_eq]
    have tagBare : '.' ∉ (signature key (head ++ "." ++ body)).toList :=
      Text.Base64Url.point_notMem_text _
    exact (validate_join (point_notMem_of_claims? claimed) tagBare).2
      ⟨headed, rfl, claimed, inTime⟩

/-- The part of a token in front of its tag. -/
def signedText (c : Claims) : String :=
  segment header ++ "." ++ segment c.toJson

/-- A token under another key than its own: it is read as under its own key if both keys hash it to
one tag, and else its tag is refused. -/
theorem validate_sign_under (now : Int) (key other : List UInt8) (c : Claims) :
    validate now other (sign key c) =
      if Crypto.Hmac.hash other (Text.utf8 (signedText c)) =
          Crypto.Hmac.hash key (Text.utf8 (signedText c)) then validate now key (sign key c)
      else .error .invalidSignature := by
  split
  · next same =>
    have tags : signature other (signedText c) = signature key (signedText c) :=
      signature_eq_signature_iff.2 same
    rw [validate_sign_eq, ← validate_sign_eq now other, sign, sign]
    simp only [signedText] at tags
    rw [tags]
  · next differ =>
    have tags : signature key (signedText c) ≠ signature other (signedText c) := fun same =>
      differ (signature_eq_signature_iff.1 same.symm)
    have outer := cutLast?_append (signedText c)
      (Text.Base64Url.point_notMem_text
        ((Crypto.Hmac.ofKey key).tag (Text.utf8 (signedText c))).bytes)
    have inner := cutLast?_append (segment header)
      (Text.Base64Url.point_notMem_text (Text.utf8 c.toJson.compact))
    rw [← signature] at outer
    rw [← segment, ← signedText] at inner
    have made : sign key c = signedText c ++ "." ++ signature key (signedText c) := rfl
    rw [validate, made]
    simp only [outer, inner]
    rw [if_neg (Decidable.not_not.2 algorithm?_header), if_pos tags]

end Token

/-! ## Managers -/

namespace Manager

theorem span_of_lifetime (minutes : Int) (positive : 0 ≤ minutes)
    (short : minutes ≤ longestLifetime) :
    ∃ s : Span, Span.ofMinutes? minutes = some s ∧ s.seconds = minutes * 60 := by
  have cap : (longestLifetime : Int) = 43200 := rfl
  have bounded : -9223372036854775 ≤ minutes * 60 ∧ minutes * 60 ≤ 9223372036854775 := by omega
  exact ⟨⟨minutes * 60, bounded⟩, dif_pos bounded, rfl⟩

/-- A cut number of minutes keeps its value as a signed number. -/
theorem toInt_min_longestLifetime (minutes : UInt64) :
    (min minutes (UInt64.ofNat longestLifetime)).toInt64.toInt =
      (min minutes.toNat longestLifetime : Nat) := by
  have value : (min minutes (UInt64.ofNat longestLifetime)).toNat =
      min minutes.toNat longestLifetime := by
    have cap : (UInt64.ofNat longestLifetime).toNat = longestLifetime := rfl
    rw [← cap, Nat.min_def, Std.min_eq_if]
    exact apply_ite UInt64.toNat _ _ _
  have small : min minutes.toNat longestLifetime ≤ 43200 := Nat.min_le_right _ _
  rw [← value]
  refine BitVec.toInt_eq_toNat_of_lt ?_
  rw [UInt64.toBitVec_toInt64, UInt64.toNat_toBitVec, value]
  omega

/-- Whatever number of minutes is configured, a manager is made. -/
theorem of?_eq (secret? : Option String) (randomKey : List UInt8) (minutes : UInt64) :
    of? secret? randomKey minutes = some (of secret? randomKey minutes.toNat) := by
  obtain ⟨s, made, seconds⟩ := span_of_lifetime (min minutes.toNat longestLifetime : Nat)
    (Int.natCast_nonneg _) (Int.ofNat_le.2 (Nat.min_le_right _ _))
  have read : s.minutes.toNat = min minutes.toNat longestLifetime := by
    rw [Span.minutes, seconds, Int.mul_tdiv_cancel _ (by decide), Int.toNat_natCast]
  rw [of?, toInt_min_longestLifetime, made, Option.bind_eq_bind, Option.bind_some, read, of]

/-- A token is issued as long as its lifetime ends within the calendar. -/
theorem issue?_eq {m : Manager} (short : m.lifetime ≤ longestLifetime) (now : Instant)
    (tokenId : String) (userId : Int64) : m.issue? now tokenId userId =
      if now.seconds + m.expiresIn ≤ Instant.lastSecond then
        some (m.issue now tokenId userId.toInt)
      else none := by
  obtain ⟨s, made, seconds⟩ := span_of_lifetime m.lifetime (Int.natCast_nonneg _)
    (Int.ofNat_le.2 short)
  have lasts : s.seconds = m.expiresIn := by
    rw [seconds, expiresIn, Int.mul_comm]
  have started : Instant.firstSecond ≤ now.seconds + m.expiresIn := by
    rw [Instant.firstSecond, expiresIn]
    omega
  rw [issue?, made, Option.bind_eq_bind, Option.bind_some, Instant.secondAfter?, lasts]
  simp only [started, true_and]
  split <;> rfl

theorem isDated_claims {m : Manager} {now : Instant} (tokenId : String) (userId : Int)
    (inCalendar : now.seconds + m.expiresIn ≤ Instant.lastSecond) :
    (m.claims now tokenId userId).IsDated := by
  have last : Instant.lastSecond = 8210266876799 := rfl
  simp only [Claims.IsDated, claims, expiresIn] at inCalendar ⊢
  omega

theorem userId?_claims (m : Manager) (now : Instant) (tokenId : String) (userId : Int64) :
    (m.claims now tokenId userId.toInt).userId? = some userId.toInt := by
  have low := userId.le_toInt
  have high := userId.toInt_le
  have most : Int64.maxValue.toInt = 9223372036854775807 := rfl
  rw [Claims.userId?, claims, Text.signed64?_decimal, if_pos (by omega)]

end Manager

/-- Tokens are read back under their key until their time is over, and are refused under a key that
hashes them to another tag. What is accepted is a header that names the one way of signing, claims,
and the keyed hash of both. A manager is made for every number of minutes, its lifetime is cut to
thirty days, and as long as the calendar lasts it issues tokens of that lifetime, in which every
manager with the same key reads the account that they were issued for. -/
theorem tokens_sealed :
    (∀ (now : Int) (key : List UInt8) (c : Claims), c.IsDated →
      Token.validate now key (Token.sign key c) =
        if c.expiresAt + Token.leeway < now then .error .expired else .ok c) ∧
    (∀ (now : Int) (key other : List UInt8) (c : Claims),
      Token.validate now other (Token.sign key c) =
        if Crypto.Hmac.hash other (Text.utf8 (Token.signedText c)) =
            Crypto.Hmac.hash key (Text.utf8 (Token.signedText c)) then
          Token.validate now key (Token.sign key c)
        else .error .invalidSignature) ∧
    (∀ (now : Int) (key : List UInt8) (token : String) (c : Claims),
      Token.validate now key token = .ok c ↔ ∃ head body,
        token = head ++ "." ++ body ++ "." ++
            Text.Base64Url.text (Crypto.Hmac.hash key (Text.utf8 (head ++ "." ++ body))).bytes ∧
          Token.algorithm? head = some Token.algorithm ∧ Token.claims? body = some c ∧
          now ≤ c.expiresAt + Token.leeway) ∧
    ∀ (secret? : Option String) (randomKey : List UInt8) (minutes : UInt64) (userId : Int64),
      ∃ m, Manager.of? secret? randomKey minutes = some m ∧
        m.key = Manager.signingKey secret? randomKey ∧
        m.expiresIn = 60 * min minutes.toNat 43200 ∧
        ∀ (now : Instant) (tokenId : String), now.seconds + m.expiresIn ≤ Instant.lastSecond →
          ∃ issued c, m.issue? now tokenId userId = some issued ∧ issued.expiresIn = m.expiresIn ∧
            c.issuedAt = (now.seconds : Int) ∧ c.expiresAt - c.issuedAt = m.expiresIn ∧
            c.userId? = some userId.toInt ∧
            ∀ (other : Manager) (later : Instant), other.key = m.key →
              other.validate later issued.token =
                if c.expiresAt + Token.leeway < later.seconds then .error .expired else .ok c := by
  refine ⟨fun now key c dated => Token.validate_sign dated, Token.validate_sign_under,
    fun now key token c => Token.validate_eq_ok_iff, ?_⟩
  intro secret? randomKey minutes userId
  have short : (Manager.of secret? randomKey minutes.toNat).lifetime ≤ Manager.longestLifetime :=
    Nat.min_le_right _ _
  refine ⟨_, Manager.of?_eq secret? randomKey minutes, rfl, ?_, ?_⟩
  · have cap : Manager.longestLifetime = 43200 := rfl
    rw [Manager.expiresIn, Manager.of, cap, Nat.cast_min]
  · intro now tokenId inCalendar
    have issued := Manager.issue?_eq short now tokenId userId
    rw [if_pos inCalendar] at issued
    have dated := Manager.isDated_claims tokenId userId.toInt inCalendar
    have names := (Manager.of secret? randomKey minutes.toNat).userId?_claims now tokenId userId
    refine ⟨_, _, issued, rfl, rfl, ?_, names, ?_⟩
    · rw [Manager.claims, add_sub_cancel_left]
    · intro other later same
      rw [Manager.validate, same]
      exact Token.validate_sign dated

/-- Claims of a quarter of an hour. -/
def Claims.sample : Claims := ⟨"7", 0, 900, "0"⟩

theorem sample_token_sealed : Claims.sample.IsDated ∧
    Token.validate 960 [0] (Token.sign [0] Claims.sample) = .ok Claims.sample ∧
    Token.validate 961 [0] (Token.sign [0] Claims.sample) = .error .expired ∧
    ∃ m, Manager.of? (some "secret") [] 18446744073709551615 = some m ∧ m.expiresIn = 2592000 ∧
      ∃ issued c, m.issue? ⟨0⟩ "" 7 = some issued ∧ c.userId? = some 7 ∧
        m.validate ⟨2592060999⟩ issued.token = .ok c := by
  have dated : Claims.sample.IsDated := by
    unfold Claims.IsDated
    decide
  obtain ⟨own, -, -, issues⟩ := tokens_sealed
  obtain ⟨m, made, -, lasts, issued⟩ := issues (some "secret") [] 18446744073709551615 7
  have month : m.expiresIn = 2592000 := lasts
  obtain ⟨token, c, given, -, start, length, names, read⟩ := issued ⟨0⟩ "" (by rw [month]; decide)
  have start : c.issuedAt = 0 := start
  have inTime : ¬c.expiresAt + Token.leeway < (⟨2592060999⟩ : Instant).seconds := by
    have grace : Token.leeway = 60 := rfl
    have clock : ((⟨2592060999⟩ : Instant).seconds : Int) = 2592060 := rfl
    omega
  refine ⟨dated, own 960 [0] Claims.sample dated, own 961 [0] Claims.sample dated, m, made, month,
    token, c, given, names, ?_⟩
  rw [read m ⟨2592060999⟩ rfl, if_neg inTime]

end Auth

end TodoServer
