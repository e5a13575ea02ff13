import TodoServer.Proofs.Data.Record
import TodoServer.Proofs.Json.Floats

/-!
# Records as documents

The text of a record is read as an object with a member for each field, in order, and each member is
read as a scalar of the kind it was written from. Whatever is no float comes back as what it was.
-/

namespace TodoServer

namespace Scalar

/-! ## Reading scalars -/

/-- The readings of a JSON value as a scalar, in the order in which they are tried. A float may be
written as a whole number. -/
def readings : List (Json → Option Scalar) :=
  [fun | .null => some null | _ => none,
    fun | .bool b => some (bool b) | _ => none,
    fun | .int n => if fits64 n then some (integer n) else none | _ => none,
    fun | .float d => some (float d) | .int n => some (float (Double.ofInt n)) | _ => none,
    fun | .str s => some (text s) | _ => none]

/-- A JSON value is the scalar of the first reading that accepts it. -/
theorem ofJson?_eq_findSome? (j : Json) : ofJson? j = readings.findSome? (· j) := by
  cases j with
  | int n =>
    simp only [ofJson?, readings, List.findSome?_cons]
    cases fits64 n <;> rfl
  | _ => rfl

/-- Whether a document can hold a value: an integer has 64 bits, and a float is a number. -/
def isPlain : Scalar → Bool
  | integer n => fits64 n
  | float d => d.isFinite
  | _ => true

/-- A value comes back as another one: of the same kind, and the same unless it is a float. -/
def Survives (given found : Scalar) : Prop :=
  found.kind = given.kind ∧ (given.kind ≠ .float → found = given)

theorem survives_refl (value : Scalar) : value.Survives value :=
  ⟨rfl, fun _ => rfl⟩

end Scalar

namespace Json

open Text (Glyph)
open Draft

/-- What the text of a value is read as in front of anything else. -/
def Reads (j : Json) (draft : Draft) : Prop :=
  ∀ (depth : Nat) (rest : List Glyph), EndsNumber rest →
    value depth (j.chars.map some ++ rest) = (draft, rest)

theorem reads_of_isFloatless {j : Json} (floatless : j.isFloatless = true) (flat : j.nesting = 0) :
    j.Reads j.reread :=
  fun depth rest ends => value_chars j depth rest floatless (flat ▸ Nat.zero_le depth) ends

/-- What the text of a value is read as. -/
def readAlone (j : Json) : Draft := (value 0 (j.chars.map some)).1

theorem Reads.readAlone_eq {j : Json} {found : Draft} (reads : j.Reads found) :
    j.readAlone = found := by
  have alone := reads 0 [] endsNumber_nil
  rw [List.append_nil] at alone
  rw [readAlone, alone]

end Json

namespace Scalar

/-- The text of a scalar is read as a scalar of the same kind. -/
theorem exists_reads {given : Scalar} (plain : given.isPlain = true) :
    ∃ (draft : Json.Draft) (j : Json) (found : Scalar), given.toJson.Reads draft ∧
      draft.whole? = some j ∧ ofJson? j = some found ∧ given.Survives found := by
  cases given with
  | null =>
    exact ⟨_, _, _, Json.reads_of_isFloatless rfl rfl, rfl, rfl, survives_refl _⟩
  | bool b =>
    exact ⟨_, _, _, Json.reads_of_isFloatless rfl rfl, rfl, rfl, survives_refl _⟩
  | integer n =>
    have fits : fits64 n = true := plain
    have bits : Json.Draft.hasBits n = true := by
      simp only [fits64, Json.Draft.hasBits, Bool.and_eq_true, decide_eq_true_eq] at fits ⊢
      omega
    have reads := Json.reads_of_isFloatless (j := .int n) rfl rfl
    rw [Json.reread, Json.Draft.ofInt_eq_int_iff.2 ⟨rfl, bits⟩] at reads
    exact ⟨_, _, integer n, reads, rfl, by rw [ofJson?, if_pos fits], survives_refl _⟩
  | float d =>
    obtain ⟨x, reads⟩ := Json.Draft.value_float plain
    exact ⟨_, _, float x, reads, rfl, rfl, rfl, fun other => absurd rfl other⟩
  | text s =>
    exact ⟨_, _, _, Json.reads_of_isFloatless rfl rfl, rfl, rfl, survives_refl _⟩

end Scalar

namespace Record

/-- The members of an object hold the values of a record, as far as they can be read. -/
def Kept (fields : List (String × Scalar)) (members : List (String × Json)) : Prop :=
  List.Forall₂ (fun field member => member.1 = field.1 ∧
    ∃ found, Scalar.ofJson? member.2 = some found ∧ field.2.Survives found) fields members

theorem kept_of_isPlain : ∀ {fields : List (String × Scalar)}, (∀ f ∈ fields, f.2.isPlain = true) →
    ∃ members, Json.Draft.wholeMembers? (fields.map fun f => (f.1, f.2.toJson.readAlone)) =
      some members ∧ Kept fields members
  | [], _ => ⟨[], rfl, .nil⟩
  | (name, given) :: rest, plain => by
    obtain ⟨draft, j, found, reads, whole, read, survives⟩ :=
      Scalar.exists_reads (plain (name, given) List.mem_cons_self)
    obtain ⟨members, others, kept⟩ :=
      kept_of_isPlain fun f mem => plain f (List.mem_cons_of_mem _ mem)
    refine ⟨(name, j) :: members, ?_, .cons ⟨rfl, found, read, survives⟩ kept⟩
    rw [List.map_cons, reads.readAlone_eq, Json.Draft.wholeMembers?, whole, others]
    rfl

/-- The text of a record is read as an object. -/
theorem parse?_toJson {r : Record} (plain : ∀ f ∈ r.fields, f.2.isPlain = true) :
    ∃ members, Json.parse? r.toJson.compact = some (.obj members) ∧ Kept r.fields members := by
  obtain ⟨fields⟩ := r
  obtain ⟨members, whole, kept⟩ := kept_of_isPlain plain
  refine ⟨members, ?_, kept⟩
  have reads : ∀ m ∈ fields.map fun f => (f.1, f.2.toJson), ∀ rest, Json.Draft.EndsNumber rest →
      Json.Draft.value 126 (m.2.chars.map some ++ rest) = (m.2.readAlone, rest) := by
    intro m mem rest ends
    obtain ⟨f, inside, rfl⟩ := List.mem_map.1 mem
    obtain ⟨draft, -, -, reads, -⟩ := Scalar.exists_reads (plain f inside)
    rw [reads.readAlone_eq]
    exact reads 126 rest ends
  have read := Json.Draft.value_obj Json.readAlone _ reads []
  rw [List.append_nil, List.map_map] at read
  rw [Json.parse?, Text.glyphsOf, Json.compact, String.toList_ofList, Json.ofGlyphs?,
    Json.Draft.ofGlyphs, toJson, Json.nestingLimit, read]
  exact congrArg (Option.map Json.obj) whole

theorem Kept.names {fields : List (String × Scalar)} {members : List (String × Json)}
    (kept : Kept fields members) : members.map (·.1) = fields.map (·.1) := by
  induction kept with
  | nil => rfl
  | cons first _ ih => rw [List.map_cons, List.map_cons, ih, first.1]

/-- **Records survive as documents.** The text of a record is read as an object whose members are
its fields in order, each once. Each member is the scalar of the first reading that accepts it: of
the kind of the field, and the value of the field unless that is a float. -/
theorem survives_as_document {r : Record} (built : r.Built)
    (plain : ∀ f ∈ r.fields, f.2.isPlain = true) :
    (∃ members, Json.parse? r.toJson.compact = some (.obj members) ∧
      (members.map (·.1)).Nodup ∧ Kept r.fields members) ∧
    ∀ j, Scalar.ofJson? j = Scalar.readings.findSome? (· j) := by
  obtain ⟨members, parsed, kept⟩ := parse?_toJson plain
  refine ⟨⟨members, parsed, ?_, kept⟩, Scalar.ofJson?_eq_findSome?⟩
  rw [kept.names]
  exact built.nodup_names

/-- A record of all kinds, with the least integer, a whole float and names that need escapes. -/
def mixedRecord : Record :=
  ofList [("\"\\\n", .text "\x00é𝄞"), ("", .null), ("\x7b\x7d", .bool true),
    ("least", .integer (-9223372036854775808)), ("one", .float ⟨0x3ff0000000000000⟩)]

theorem mixedRecord_survives : ∃ members,
    Json.parse? mixedRecord.toJson.compact = some (.obj members) ∧
      (members.map (·.1)).Nodup ∧ Kept mixedRecord.fields members :=
  (survives_as_document (.ofList _) (by decide +kernel)).1

end Record

end TodoServer
