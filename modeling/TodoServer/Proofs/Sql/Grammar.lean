import TodoServer.Filter.Truth
import TodoServer.Proofs.Sql.Token

/-!
# The grammar of conditions

Parentheses bind first, then comparisons with their escape clause, then AND and then OR. `Derives`
states the rules and `read?` follows them from left to right. Both agree on all tokens, so what is
read at all is read in one way.
-/

namespace TodoServer.Sql

/-- A condition text that has been read. -/
inductive Formula where
  /-- A comparison, with the escape character that it names for its pattern. -/
  | comparison (condition : Condition) (escape? : Option String)
  | joined (connective : Connective) (first second : Formula)
  deriving DecidableEq, Repr

namespace Formula

/-- The truth of a formula under an assignment of truth values to conditions. -/
def truth (value : Condition → Truth) : Formula → Truth
  | comparison condition _ => value condition
  | joined connective first second => connective.combine (first.truth value) (second.truth value)

/-- The comparisons of a formula from left to right. -/
def comparisons : Formula → List (Condition × Option String)
  | comparison condition escape? => [(condition, escape?)]
  | joined _ first second => first.comparisons ++ second.comparisons

end Formula

/-- What a part of a formula may consist of without parentheses around it. -/
inductive Level where
  | term
  /-- Parts of the level below with a connective between them. -/
  | chain (connective : Connective)
  deriving DecidableEq, Repr

/-- The level of the parts that a connective joins. -/
def Level.below : Connective → Level
  | .and => .term
  | .or => .chain .and

/-- The rules of the grammar. -/
inductive Derives : Level → List Token → Formula → Prop where
  | comparison (field : String) (comparison : Comparison) (value : Scalar) :
    Derives .term [.name field, .comparison comparison, .value value]
      (.comparison ⟨field, comparison, value⟩ none)
  | escaped (field : String) (value : Scalar) (escape : String) :
    Derives .term [.name field, .comparison .like, .value value, .escape, .quoted escape]
      (.comparison ⟨field, .like, value⟩ (some escape))
  | grouped {tokens : List Token} {f : Formula} (inner : Derives (.chain .or) tokens f) :
    Derives .term (.opening :: (tokens ++ [.closing])) f
  | single {connective : Connective} {tokens : List Token} {f : Formula}
    (only : Derives (Level.below connective) tokens f) : Derives (.chain connective) tokens f
  | joined {connective : Connective} {tokens others : List Token} {f g : Formula}
    (first : Derives (Level.below connective) tokens f)
    (second : Derives (.chain connective) others g) :
    Derives (.chain connective) (tokens ++ .connective connective :: others)
      (.joined connective f g)

/-- Reads as much of some tokens as belongs to a level. `depth` bounds how deep rules are nested. -/
def parse? : Nat → Level → List Token → Option (Formula × List Token)
  | 0, _, _ => none
  | depth + 1, .term, .opening :: tokens =>
    match parse? depth (.chain .or) tokens with
    | some (f, .closing :: rest) => some (f, rest)
    | _ => none
  | _ + 1, .term, .name field :: .comparison .like :: .value value :: .escape :: .quoted escape ::
      rest => some (.comparison ⟨field, .like, value⟩ (some escape), rest)
  | _ + 1, .term, .name field :: .comparison comparison :: .value value :: rest =>
    some (.comparison ⟨field, comparison, value⟩ none, rest)
  | _ + 1, .term, _ => none
  | depth + 1, .chain connective, tokens =>
    match parse? depth (Level.below connective) tokens with
    | some (f, .connective other :: rest) =>
      if other = connective then
        (parse? depth (.chain connective) rest).map fun (g, rest) =>
          (.joined connective f g, rest)
      else some (f, .connective other :: rest)
    | found => found

/-- The formula that all of some tokens make. -/
def read? (tokens : List Token) : Option Formula :=
  match parse? (3 * tokens.length + 2) (.chain .or) tokens with
  | some (f, []) => some f
  | _ => none

/-! ## Rules and reading agree -/

/-- What is read follows the rules. -/
theorem derives_of_parse? {depth : Nat} {level : Level} {tokens rest : List Token} {f : Formula}
    (h : parse? depth level tokens = some (f, rest)) :
    ∃ used, tokens = used ++ rest ∧ Derives level used f := by
  fun_induction parse? depth level tokens generalizing rest f with
  | case1 | case3 | case6 => simp at h
  | case2 depth tokens g behind found ih =>
    obtain ⟨rfl, rfl⟩ := Prod.mk.inj (Option.some.inj h)
    obtain ⟨used, rfl, inner⟩ := ih found
    exact ⟨.opening :: (used ++ [.closing]), by simp, .grouped inner⟩
  | case4 _ field value escape behind =>
    obtain ⟨rfl, rfl⟩ := Prod.mk.inj (Option.some.inj h)
    exact ⟨_, rfl, .escaped field value escape⟩
  | case5 _ field comparison value behind =>
    obtain ⟨rfl, rfl⟩ := Prod.mk.inj (Option.some.inj h)
    exact ⟨_, rfl, .comparison field comparison value⟩
  | case7 depth tokens g connective behind found ihFirst ihSecond =>
    obtain ⟨⟨g', behind'⟩, found', same⟩ := Option.map_eq_some_iff.1 h
    obtain ⟨rfl, rfl⟩ := Prod.mk.inj same
    obtain ⟨used, rfl, first⟩ := ihFirst found
    obtain ⟨others, rfl, second⟩ := ihSecond found'
    exact ⟨used ++ .connective connective :: others, by simp, .joined first second⟩
  | case8 depth connective tokens g other behind found _ ih =>
    obtain ⟨rfl, rfl⟩ := Prod.mk.inj (Option.some.inj h)
    obtain ⟨used, rfl, only⟩ := ih found
    exact ⟨used, rfl, .single only⟩
  | case9 depth connective tokens _ ih =>
    obtain ⟨used, rfl, only⟩ := ih h
    exact ⟨used, rfl, .single only⟩

/-- The tokens that end a part of a level. -/
def Level.EndedBy : Level → Token → Prop
  | _, .closing => True
  | .term, .connective _ => True
  | .chain .and, .connective .or => True
  | _, _ => False

/-- How many levels stand below. -/
def Level.rank : Level → Nat
  | .term => 0
  | .chain .and => 1
  | .chain .or => 2

theorem Level.endedBy_below {connective : Connective} {t : Token}
    (h : (Level.chain connective).EndedBy t) : (Level.below connective).EndedBy t := by
  cases connective <;> cases t <;> simp_all [EndedBy, Level.below]

theorem Level.endedBy_connective (connective : Connective) :
    (Level.below connective).EndedBy (.connective connective) := by
  cases connective <;> simp [EndedBy, Level.below]

theorem Level.not_endedBy_connective (connective : Connective) :
    ¬ (Level.chain connective).EndedBy (.connective connective) := by
  cases connective <;> simp [EndedBy]

theorem Level.rank_below (connective : Connective) :
    (Level.chain connective).rank = (Level.below connective).rank + 1 := by
  cases connective <;> rfl

/-- A chain whose first part is followed by something else ends there. -/
theorem parse?_single {depth : Nat} {connective : Connective} {tokens rest : List Token}
    {f : Formula} (h : parse? depth (Level.below connective) tokens = some (f, rest))
    (ended : ∀ t ∈ rest.head?, (Level.chain connective).EndedBy t) :
    parse? (depth + 1) (.chain connective) tokens = some (f, rest) := by
  rw [parse?, h]
  match rest, ended with
  | .connective other :: rest, ended =>
    have different : other ≠ connective := by
      rintro rfl
      exact Level.not_endedBy_connective other (ended _ rfl)
    simp [different]
  | [], _ | .opening :: _, _ | .closing :: _, _ | .comma :: _, _ | .star :: _, _ | .name _ :: _, _
  | .comparison _ :: _, _ | .escape :: _, _ | .quoted _ :: _, _ | .mark _ :: _, _
  | .value _ :: _, _ | .stray :: _, _ => rfl

/-- A chain goes on behind its connective. -/
theorem parse?_joined {depth : Nat} {connective : Connective} {tokens others rest : List Token}
    {f g : Formula}
    (first : parse? depth (Level.below connective) tokens =
      some (f, .connective connective :: others))
    (second : parse? depth (.chain connective) others = some (g, rest)) :
    parse? (depth + 1) (.chain connective) tokens = some (.joined connective f g, rest) := by
  rw [parse?, first]
  simp [second]

/-- What follows the rules is read, as far as it goes. -/
theorem parse?_of_derives {level : Level} {tokens : List Token} {f : Formula}
    (h : Derives level tokens f) {depth : Nat} {rest : List Token}
    (deep : 3 * tokens.length + level.rank ≤ depth) (ended : ∀ t ∈ rest.head?, level.EndedBy t) :
    parse? depth level (tokens ++ rest) = some (f, rest) := by
  induction h generalizing depth rest with
  | comparison field comparison value =>
    obtain ⟨depth, rfl⟩ : ∃ n, depth = n + 1 := ⟨depth - 1, by simp at deep; omega⟩
    have unescaped (escape : String) (behind : List Token) :
        rest ≠ .escape :: .quoted escape :: behind := by
      rintro rfl
      exact ended .escape rfl
    simp [parse?, unescaped]
  | escaped field value escape =>
    obtain ⟨depth, rfl⟩ : ∃ n, depth = n + 1 := ⟨depth - 1, by simp at deep; omega⟩
    rfl
  | @grouped tokens f inner ih =>
    obtain ⟨depth, rfl⟩ : ∃ n, depth = n + 1 := ⟨depth - 1, by simp at deep; omega⟩
    have found : parse? depth (.chain .or) (tokens ++ .closing :: rest) =
        some (f, .closing :: rest) :=
      ih (by simp [Level.rank] at deep ⊢; omega) (by simp [Level.EndedBy])
    simp [parse?, found]
  | @single connective tokens f only ih =>
    rw [Level.rank_below] at deep
    obtain ⟨depth, rfl⟩ : ∃ n, depth = n + 1 := ⟨depth - 1, by omega⟩
    have found : parse? depth (Level.below connective) (tokens ++ rest) = some (f, rest) :=
      ih (by omega) fun t h => Level.endedBy_below (ended t h)
    exact parse?_single found ended
  | @joined connective tokens others f g first second ihFirst ihSecond =>
    simp only [List.length_append, List.length_cons, Level.rank_below] at deep
    obtain ⟨depth, rfl⟩ : ∃ n, depth = n + 1 := ⟨depth - 1, by omega⟩
    rw [List.append_assoc, List.cons_append]
    refine parse?_joined (ihFirst (by omega) ?_) (ihSecond ?_ ended)
    · simp [Level.endedBy_connective]
    · rw [Level.rank_below]
      omega

/-- Tokens are read as a formula exactly when the rules derive it. -/
theorem read?_eq_some_iff {tokens : List Token} {f : Formula} :
    read? tokens = some f ↔ Derives (.chain .or) tokens f := by
  constructor
  · intro h
    simp only [read?] at h
    split at h
    · next found =>
      obtain rfl := Option.some.inj h
      obtain ⟨used, rfl, derived⟩ := derives_of_parse? found
      simpa using derived
    · cases h
  · intro h
    have found : parse? (3 * tokens.length + 2) (.chain .or) (tokens ++ []) = some (f, []) :=
      parse?_of_derives h (Nat.le_refl _) (by simp)
    rw [List.append_nil] at found
    simp [read?, found]

end TodoServer.Sql
