import Mathlib.Data.List.Nodup
import TodoServer.Data.Record

/-!
# The fields of records

However a record is made, no field of it occurs twice. So a record is told by its names in order and
the value that is found for each. From that follows what comes of setting fields one after another:
the later value of a field counts, and different fields are set in either order unless both are new.
-/

namespace TodoServer.Record

/-- The records that can be made. -/
inductive Built : Record → Prop where
  | empty : Built empty
  | ofList (entries : List (String × Scalar)) : Built (ofList entries)
  | set {r : Record} (built : Built r) (field : String) (value : Scalar) : Built (r.set field value)

/-! ## Names -/

theorem names_place (field : String) (value : Scalar) (entries : List (String × Scalar)) :
    (place field value entries).map (·.1) =
      if field ∈ entries.map (·.1) then entries.map (·.1) else entries.map (·.1) ++ [field] := by
  induction entries with
  | nil => rfl
  | cons entry rest ih =>
    obtain ⟨name, old⟩ := entry
    rw [place, List.map_cons]
    by_cases same : name = field
    · simp [same]
    · rw [if_neg same, List.map_cons, ih]
      by_cases later : field ∈ rest.map (·.1)
      · simp only [later, List.mem_cons_of_mem, if_true]
      · simp only [later, List.mem_cons, Ne.symm same, or_false, if_false, List.cons_append]

/-- A field that is set keeps its place or comes last. -/
theorem names_set (r : Record) (field : String) (value : Scalar) :
    (r.set field value).names = if field ∈ r.names then r.names else r.names ++ [field] :=
  names_place field value r.fields

theorem mem_names_set (r : Record) (field other : String) (value : Scalar) :
    other ∈ (r.set field value).names ↔ other = field ∨ other ∈ r.names := by
  rw [names_set]
  split
  · next present =>
    refine ⟨Or.inr, ?_⟩
    rintro (rfl | mem)
    · exact present
    · exact mem
  · rw [List.mem_append, List.mem_singleton, or_comm]

/-- A second field keeps its place or comes behind the first one. -/
theorem names_set_set (r : Record) {a b : String} (different : a ≠ b) (v w : Scalar) :
    ((r.set a v).set b w).names =
      if b ∈ r.names then (r.set a v).names else (r.set a v).names ++ [b] := by
  rw [names_set]
  refine if_congr ?_ rfl rfl
  rw [mem_names_set]
  exact or_iff_right different.symm

/-- Setting a field moves no other field. -/
theorem getElem?_names_set (r : Record) {field other : String} (value : Scalar)
    (different : other ≠ field) (i : Nat) :
    (r.set field value).names[i]? = some other ↔ r.names[i]? = some other := by
  rw [names_set]
  split
  · exact Iff.rfl
  · rw [List.getElem?_append]
    split
    · exact Iff.rfl
    · next behind =>
      rw [List.getElem?_eq_none (Nat.not_lt.1 behind), List.getElem?_singleton]
      split <;> simp [different.symm]

theorem nodup_names_set {r : Record} (distinct : r.names.Nodup) (field : String) (value : Scalar) :
    (r.set field value).names.Nodup := by
  rw [names_set]
  split
  · exact distinct
  · next absent =>
    refine List.nodup_append.2 ⟨distinct, List.nodup_cons.2 ⟨nofun, List.nodup_nil⟩, ?_⟩
    intro name mem other single same
    rw [same, List.mem_singleton.1 single] at mem
    exact absent mem

theorem Built.nodup_names {r : Record} (built : r.Built) : r.names.Nodup := by
  induction built with
  | empty => exact List.nodup_nil
  | ofList entries =>
    refine List.foldlRecOn (motive := fun r : Record => r.names.Nodup) entries _ List.nodup_nil ?_
    exact fun r distinct entry _ => nodup_names_set distinct entry.1 entry.2
  | set built field value ih => exact nodup_names_set ih field value

/-! ## Values -/

theorem get?_set (r : Record) (field other : String) (value : Scalar) :
    (r.set field value).get? other = if other = field then some value else r.get? other := by
  split
  · next same => rw [same, get?_set_self]
  · next different => exact get?_set_of_ne r value different

section

variable {r s : Record} (distinct : r.names.Nodup)
include distinct

/-- The value of a field, when no name is given twice. -/
theorem get?_eq_some_iff {field : String} {value : Scalar} :
    r.get? field = some value ↔ (field, value) ∈ r.fields := by
  rw [get?, Option.map_eq_some_iff]
  constructor
  · rintro ⟨⟨name, held⟩, found, rfl⟩
    have same : name = field := by simpa using List.find?_some found
    exact same ▸ List.mem_of_find?_eq_some found
  · intro mem
    have present : (r.fields.find? (·.1 = field)).isSome = true :=
      List.find?_isSome.2 ⟨_, mem, decide_eq_true rfl⟩
    obtain ⟨entry, found⟩ := Option.isSome_iff_exists.1 present
    have same : entry.1 = field := by simpa using List.find?_some found
    have unique := List.inj_on_of_nodup_map distinct (List.mem_of_find?_eq_some found) mem same
    exact ⟨entry, found, by rw [unique]⟩

/-- The entry in a position is told by its name and the value that is found for it. -/
theorem getElem?_fields (i : Nat) : r.fields[i]? =
    r.names[i]?.bind fun field => (r.get? field).map fun value => (field, value) := by
  rw [names, List.getElem?_map]
  cases placed : r.fields[i]? with
  | none => rfl
  | some entry =>
    have found : r.get? entry.1 = some entry.2 :=
      (get?_eq_some_iff distinct).2 (List.mem_of_getElem? placed)
    rw [Option.map_some, Option.bind_some, found, Option.map_some]

/-- The value in the position of a field is the one that is found for it. -/
theorem getElem?_values {i : Nat} {field : String} (placed : r.names[i]? = some field) :
    r.values[i]? = r.get? field := by
  rw [values, List.getElem?_map, getElem?_fields distinct, placed, Option.bind_some,
    Option.map_map]
  exact Option.map_id'

/-- Records are told apart by their names and the values that are found for these. -/
theorem eq_of_get? (same : r.names = s.names) (found : ∀ field, r.get? field = s.get? field) :
    r = s := by
  have fields : r.fields = s.fields := by
    refine List.ext_getElem? fun i => ?_
    rw [getElem?_fields distinct, getElem?_fields (same ▸ distinct), same]
    simp only [found]
  obtain ⟨_⟩ := r
  exact congrArg mk fields

/-! ## Fields set one after the other -/

/-- Of two values that are set for a field the later one counts. -/
theorem set_set (field : String) (old value : Scalar) :
    (r.set field old).set field value = r.set field value := by
  have twice := nodup_names_set (nodup_names_set distinct field old) field value
  refine eq_of_get? twice ?_ fun other => ?_
  · have present : field ∈ (r.set field old).names :=
      (mem_names_set r field field old).2 (Or.inl rfl)
    rw [names_set, if_pos present, names_set, names_set]
  · rw [get?_set, get?_set, get?_set]
    split <;> rfl

/-- Two fields are set in either order with the same result unless both are new. -/
theorem set_comm_iff {a b : String} (different : a ≠ b) (v w : Scalar) :
    (r.set a v).set b w = (r.set b w).set a v ↔ a ∈ r.names ∨ b ∈ r.names := by
  have names := names_set_set r different v w
  have names' := names_set_set r different.symm w v
  rw [names_set r a v] at names
  rw [names_set r b w] at names'
  constructor
  · intro same
    by_contra absent
    obtain ⟨newA, newB⟩ := not_or.1 absent
    rw [if_neg newA, if_neg newB] at names names'
    -- The field that is set last comes last, and that is not the same one on both sides.
    rw [same, names'] at names
    have last := congrArg List.getLast? names
    rw [List.getLast?_concat, List.getLast?_concat] at last
    exact different (Option.some.inj last)
  · intro present
    refine eq_of_get? (nodup_names_set (nodup_names_set distinct a v) b w) ?_ fun other => ?_
    · rw [names, names']
      by_cases old : a ∈ r.names
      · rw [if_pos old, if_pos old]
      · rw [if_pos (present.resolve_left old), if_pos (present.resolve_left old)]
    · rw [get?_set, get?_set, get?_set, get?_set]
      by_cases first : other = a
      · rw [if_pos first, if_pos first, if_neg (first ▸ different)]
      · rw [if_neg first, if_neg first]

end

end TodoServer.Record
