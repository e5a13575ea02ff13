/-!
# Texts as bytes

Encoding and decoding of UTF-8. Decoding keeps the place of bytes that belong to no character: a
glyph is a character, or `none` for a longest run of bytes that begins a character and breaks off.
-/

namespace TodoServer.Text

/-- A character, or `none` for stray bytes. -/
abbrev Glyph := Option Char

/-- The bytes of a text. -/
def utf8 (s : String) : List UInt8 :=
  s.toUTF8.toList

/-- Whether a byte continues a character. -/
def isContinuation (b : UInt8) : Bool :=
  0x80 ≤ b && b ≤ 0xBF

/-- The low six bits of a continuation byte. -/
def payload (b : UInt8) : Nat :=
  b.toNat % 64

/-- The bounds of the second byte after a leading byte of three or four. -/
def secondByteBounds (lead : UInt8) : UInt8 × UInt8 :=
  if lead == 0xE0 then (0xA0, 0xBF)
  else if lead == 0xED then (0x80, 0x9F)
  else if lead == 0xF0 then (0x90, 0xBF)
  else if lead == 0xF4 then (0x80, 0x8F)
  else (0x80, 0xBF)

/-- The glyph that starts with `lead`, and how many of the bytes after it belong to it. -/
def glyphAt (lead : UInt8) (rest : List UInt8) : Glyph × Nat :=
  let second := secondByteBounds lead
  if lead < 0x80 then (some (Char.ofNat lead.toNat), 0)
  else if 0xC2 ≤ lead && lead ≤ 0xDF then
    match rest with
    | b :: _ =>
      if isContinuation b then (some (Char.ofNat ((lead.toNat - 0xC0) * 64 + payload b)), 1)
      else (none, 0)
    | [] => (none, 0)
  else if 0xE0 ≤ lead && lead ≤ 0xEF then
    match rest with
    | b :: more =>
      if second.1 ≤ b && b ≤ second.2 then
        match more with
        | c :: _ =>
          if isContinuation c then
            (some (Char.ofNat (((lead.toNat - 0xE0) * 64 + payload b) * 64 + payload c)), 2)
          else (none, 1)
        | [] => (none, 1)
      else (none, 0)
    | [] => (none, 0)
  else if 0xF0 ≤ lead && lead ≤ 0xF4 then
    match rest with
    | b :: more =>
      if second.1 ≤ b && b ≤ second.2 then
        match more with
        | c :: more =>
          if isContinuation c then
            match more with
            | d :: _ =>
              if isContinuation d then
                (some (Char.ofNat
                  ((((lead.toNat - 0xF0) * 64 + payload b) * 64 + payload c) * 64 + payload d)), 3)
              else (none, 2)
            | [] => (none, 2)
          else (none, 1)
        | [] => (none, 1)
      else (none, 0)
    | [] => (none, 0)
  else (none, 0)

/-- The glyphs of a sequence of bytes behind those already found, which stand in reverse. -/
def glyphsAfter (found : List Glyph) : List UInt8 → List Glyph
  | [] => found.reverse
  | lead :: rest =>
    let (glyph, count) := glyphAt lead rest
    glyphsAfter (glyph :: found) (rest.drop count)
termination_by bytes => bytes.length
decreasing_by
  simp only [List.length_drop, List.length_cons]
  omega

/-- The glyphs of a sequence of bytes, from left to right. -/
def glyphs (bytes : List UInt8) : List Glyph :=
  glyphsAfter [] bytes

/-- The text of bytes that hold characters only. -/
def decode? (bytes : List UInt8) : Option String :=
  let found := glyphs bytes
  if found.all Option.isSome then some (String.ofList (found.filterMap id)) else none

/-- The text of bytes, with U+FFFD in the place of each stray run. -/
def decodeLossy (bytes : List UInt8) : String :=
  String.ofList ((glyphs bytes).map (·.getD '\uFFFD'))

/-- The glyphs of a text, none of them stray. -/
def glyphsOf (s : String) : List Glyph :=
  s.toList.map some

end TodoServer.Text
