import Mathlib.Algebra.Ring.Parity
import TodoServer.Proofs.Store.Run

/-!
# Flips of a flag

However callers take turns, a flag that does not come back once it is gone is flipped once by each
turn that changes it. So what it is at one turn is what an earlier turn made of it if there is an
even number of flips in between.
-/

namespace TodoServer

/-! ## Turns -/

/-- Whether a turn leaves a flag that is not what it was. -/
def Turn.flips {τ σ : Type} (flag : σ → Option Bool) (turn : Turn τ σ) : Bool :=
  (flag turn.target).isSome && flag turn.source ≠ flag turn.target

/-- A turn flips a flag that does not come back once it is gone, or else what is left of the flag is
what it was. -/
theorem Turn.flips_cases {τ σ : Type} {flag : σ → Option Bool} {turn : Turn τ σ}
    (stays : flag turn.source = none → flag turn.target = none) :
    (turn.flips flag = true ∧
        ∃ seen, flag turn.source = some seen ∧ flag turn.target = some !seen) ∨
      (turn.flips flag = false ∧
        ∀ now, flag turn.target = some now → flag turn.source = some now) := by
  rw [flips]
  cases target : flag turn.target with
  | none => exact .inr ⟨rfl, fun _ left => by cases left⟩
  | some now =>
    cases source : flag turn.source with
    | none => cases target.symm.trans (stays source)
    | some seen =>
      by_cases same : seen = now
      · subst same
        exact .inr ⟨by simp, fun _ left => left⟩
      · have opposite : now = !seen := Bool.eq_not_of_ne (Ne.symm same)
        exact .inl ⟨by simp [same], seen, rfl, congrArg some opposite⟩

/-! ## Runs -/

namespace Run

variable {τ σ : Type}

/-- The turns of a caller that flipped a flag. -/
def flipsOf (flag : σ → Option Bool) (run : Run τ σ) (caller : Nat) : List (Turn τ σ) :=
  (run.turnsOf caller).filter (Turn.flips flag)

/-- A flag is, at every turn, what it was at the start, flipped once for each flip so far. -/
structure FlipsCounted (flag : σ → Option Bool) (initial : Bool) (run : Run τ σ) : Prop where
  now : ∀ now, flag run.state = some now →
    now = Nat.iterate Bool.not (run.turns.countP (Turn.flips flag)) initial
  before : ∀ front turn back, run.turns = front ++ turn :: back → ∀ now,
    flag turn.source = some now →
    now = Nat.iterate Bool.not (front.countP (Turn.flips flag)) initial
  flipped : ∀ turn ∈ run.turns, turn.flips flag = true →
    ∃ seen, flag turn.source = some seen ∧ flag turn.target = some !seen
  alternate : (run.turns.filter (Turn.flips flag)).map (flag ·.target) =
    (List.range (run.turns.countP (Turn.flips flag))).map fun i =>
      some (Nat.iterate Bool.not (i + 1) initial)

section

variable {flag : σ → Option Bool} {run : Run τ σ} {turn : Turn τ σ} {tasks : List τ}
  {state : σ} {caller : Nat} {initial : Bool}

theorem mem_flipsOf : turn ∈ run.flipsOf flag caller ↔
    turn ∈ run.turns ∧ turn.caller = caller ∧ turn.flips flag = true := by
  rw [flipsOf, turnsOf, List.mem_filter, List.mem_filter, decide_eq_true_eq, and_assoc]

theorem flipsOf_of_ne (apart : turn.caller ≠ caller) :
    flipsOf flag ⟨tasks, state, run.turns ++ [turn]⟩ caller = run.flipsOf flag caller := by
  simp [flipsOf, turnsOf, apart]

theorem flipsOf_of_silent (silent : turn.flips flag = false) :
    flipsOf flag ⟨tasks, state, run.turns ++ [turn]⟩ caller = run.flipsOf flag caller := by
  rw [flipsOf, turnsOf, List.filter_append, List.filter_append, flipsOf, turnsOf]
  by_cases mine : turn.caller = caller <;> simp [mine, silent]

theorem flipsOf_of_flips (mine : turn.caller = caller) (flips : turn.flips flag = true) :
    flipsOf flag ⟨tasks, state, run.turns ++ [turn]⟩ caller =
      run.flipsOf flag caller ++ [turn] := by
  rw [flipsOf, turnsOf, List.filter_append, List.filter_append, flipsOf, turnsOf]
  simp [mine, flips]

theorem FlipsCounted.start (present : flag state = some initial) :
    (Run.start tasks state).FlipsCounted flag initial := by
  refine ⟨?_, ?_, by simp [Run.start], rfl⟩
  · intro now left
    exact Option.some_inj.1 (left.symm.trans present)
  · intro front turn back turns
    cases front <;> cases turns

section

variable (counted : run.FlipsCounted flag initial) (source : turn.source = run.state)
  (stays : flag turn.source = none → flag turn.target = none)

include counted source stays

theorem FlipsCounted.now_step (now : Bool) (left : flag turn.target = some now) :
    now = Nat.iterate Bool.not ((run.turns ++ [turn]).countP (Turn.flips flag)) initial := by
  rw [List.countP_append, List.countP_singleton]
  rcases Turn.flips_cases stays with ⟨flips, seen, before, after⟩ | ⟨silent, same⟩
  · have opposite : now = !seen := Option.some_inj.1 (left.symm.trans after)
    rw [source] at before
    rw [if_pos flips, Function.iterate_succ_apply', ← counted.now seen before]
    exact opposite
  · rw [silent]
    exact counted.now now (source ▸ same now left)

theorem FlipsCounted.alternate_step :
    ((run.turns ++ [turn]).filter (Turn.flips flag)).map (flag ·.target) =
      (List.range ((run.turns ++ [turn]).countP (Turn.flips flag))).map fun i =>
        some (Nat.iterate Bool.not (i + 1) initial) := by
  rw [List.filter_append, List.map_append, List.countP_append, List.countP_singleton,
    List.filter_singleton, counted.alternate]
  rcases Turn.flips_cases stays with ⟨flips, seen, before, after⟩ | ⟨silent, -⟩
  · rw [source] at before
    rw [if_pos flips, flips, cond_true, List.range_succ, List.map_append, List.map_singleton,
      List.map_singleton, after, Function.iterate_succ_apply', ← counted.now seen before]
  · rw [silent]
    simp

/-- A turn that does not bring the flag back keeps the count of its flips. -/
theorem FlipsCounted.step (target : turn.target = state) :
    FlipsCounted flag initial ⟨tasks, state, run.turns ++ [turn]⟩ := by
  subst target
  refine ⟨counted.now_step source stays, ?_, ?_, counted.alternate_step source stays⟩
  · intro front last back turns
    obtain ⟨rfl, rfl⟩ | ⟨others, earlier⟩ := eq_or_eq_of_append_singleton turns
    · rw [source]
      exact counted.now
    · exact counted.before front last others earlier
  · intro last mem flips
    rcases List.mem_append.1 mem with old | new
    · exact counted.flipped last old flips
    · rw [List.mem_singleton.1 new] at flips ⊢
      rcases Turn.flips_cases stays with ⟨-, flipped⟩ | ⟨silent, -⟩
      · exact flipped
      · cases flips.symm.trans silent

end

/-- What a flag is at a turn is what an earlier turn made of it if there is an even number of flips
in between. -/
theorem FlipsCounted.eq_iff_even (counted : run.FlipsCounted flag initial)
    {front between back : List (Turn τ σ)} {flip later : Turn τ σ} {own now : Bool}
    (turns : run.turns = front ++ flip :: between ++ later :: back)
    (flips : flip.flips flag = true) (source : flag flip.source = some !own)
    (found : flag later.source = some now) :
    now = own ↔ Even (between.countP (Turn.flips flag)) := by
  have first : (!own) = Nat.iterate Bool.not (front.countP (Turn.flips flag)) initial := by
    rw [List.append_assoc] at turns
    exact counted.before front flip (between ++ later :: back) turns (!own) source
  have last : now = Nat.iterate Bool.not (between.countP (Turn.flips flag)) own := by
    rw [counted.before (front ++ flip :: between) later back turns now found, List.countP_append,
      List.countP_cons_of_pos flips, Nat.add_comm, Function.iterate_add_apply, ← first,
      Function.iterate_succ_apply, Bool.not_not]
  rw [last]
  rcases Nat.even_or_odd (between.countP (Turn.flips flag)) with even | odd
  · rw [Bool.involutive_not.iterate_even even]
    exact ⟨fun _ => even, fun _ => rfl⟩
  · rw [Bool.involutive_not.iterate_odd odd]
    constructor
    · intro same
      cases own <;> cases same
    · intro even
      exact absurd odd (Nat.not_odd_iff_even.2 even)

end

section

variable {ρ : Type} {f : σ → ρ} {shown : ρ → Option Bool} {flag : σ → Option Bool}
  (same : ∀ s, shown (f s) = flag s)

include same

theorem flips_map (turn : Turn τ σ) : (turn.map f).flips shown = turn.flips flag := by
  simp only [Turn.flips, Turn.map, same]

theorem filter_flips_map (turns : List (Turn τ σ)) :
    (turns.map (Turn.map f)).filter (Turn.flips shown) =
      (turns.filter (Turn.flips flag)).map (Turn.map f) := by
  rw [List.filter_map]
  exact congrArg (List.map (Turn.map f)) (List.filter_congr fun turn _ => flips_map same turn)

theorem countP_flips_map (turns : List (Turn τ σ)) :
    (turns.map (Turn.map f)).countP (Turn.flips shown) = turns.countP (Turn.flips flag) := by
  rw [List.countP_map]
  exact List.countP_congr fun turn _ => by rw [Function.comp_apply, flips_map same]

theorem flipsOf_map (run : Run τ σ) (caller : Nat) :
    (run.map f).flipsOf shown caller = (run.flipsOf flag caller).map (Turn.map f) := by
  rw [flipsOf, turnsOf_map, filter_flips_map same]
  rfl

end

end Run

end TodoServer
