import TodoServer.Address.Email

/-!
# Violated rules

A form has rules for its fields. A value that breaks one has a violation with the wording of the
rule.
-/

namespace TodoServer.Api

/-- A rule that a field breaks. For a field of an item of a list, `item` is the place of the item.
-/
structure Violation where
  field : String
  message : String
  item : Option Nat
  deriving DecidableEq, Repr

namespace Violation

/-- The violation of a rule that does not hold. -/
def check (holds : Bool) (field message : String) : List Violation :=
  if holds then [] else [⟨field, message, none⟩]

/-- The violation of the bounds of a length in characters. -/
def ofLength (low : Nat) (high : Option Nat) (field message value : String) : List Violation :=
  check (low ≤ value.length && high.all (value.length ≤ ·)) field message

/-- The violation of the rule for email addresses. -/
def ofEmail (field message value : String) : List Violation :=
  check (Address.isEmail value) field message

/-- The violations of a value that may be left out. -/
def ofGiven {α : Type} (rule : α → List Violation) : Option α → List Violation
  | some value => rule value
  | none => []

/-- The violations of the items of a list, from a place on. -/
def ofItems {α : Type} (rules : α → List Violation) : Nat → List α → List Violation
  | _, [] => []
  | place, item :: rest =>
    (rules item).map (fun v => { v with item := some place }) ++ ofItems rules (place + 1) rest

/-- The wording of some violations: those of the form itself, sorted and joined. -/
def text (violations : List Violation) : String :=
  let own := violations.filter (·.item.isNone)
  Text.join "; " ((own.map (·.message)).mergeSort (· ≤ ·))

end Violation

end TodoServer.Api
