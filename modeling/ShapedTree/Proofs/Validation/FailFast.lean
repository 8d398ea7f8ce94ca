import ShapedTree.Proofs.Schema.History
import ShapedTree.Proofs.Validation.NodeLockstep

namespace ShapedTree

open Run RunState

/-- The issues of a result. -/
def ValidationResult.issues : ValidationResult → List Issue
  | .valid _ => []
  | .invalid issues => issues

namespace Validation

theorem pathRelation_eq : PathRelation (· = ·) where
  label _ := by rintro rfl; rfl
  segment _ := by rintro rfl; rfl

/-- What a run comes to, with the issues it recorded. -/
def outcome : Except Fault (Option Node) × RunState → Except Fault ValidationResult
  | (.error fault, _) => .error fault
  | (.ok (some n), s) => if s.issues.isEmpty then .ok (.valid n) else .ok (.invalid s.issues.toList)
  | (.ok none, s) => .ok (.invalid s.issues.toList)

theorem validate_eq {r : Registry} (frozen : r.frozen = true) (memory : Memory) (raw : Value)
    (schema : String) (o : ValidateOptions) :
    (r.validate memory raw schema o).result = outcome (o.run r raw schema { memory }) ∧
      (r.validate memory raw schema o).log = (o.run r raw schema { memory }).2.log.toList := by
  unfold Registry.validate
  rcases o.run r raw schema { memory } with ⟨_ | (_ | n), s⟩ <;> simp [frozen, outcome]

theorem frozen_of_ok {r : Registry} {memory : Memory} {raw : Value} {schema : String}
    {o : ValidateOptions} {result : ValidationResult}
    (returned : (r.validate memory raw schema o).result = .ok result) : r.frozen = true := by
  unfold Registry.validate at returned
  cases frozen : r.frozen with
  | true => rfl
  | false => simp [frozen] at returned

theorem outcome_eq_ok {x : Except Fault (Option Node) × RunState} {result : ValidationResult}
    (h : outcome x = .ok result) : ∃ answer s, x = (.ok answer, s) := by
  rcases x with ⟨_ | answer, s⟩
  · cases h
  · exact ⟨answer, s, rfl⟩

/-- In step two runs have no issues; parted, the second one has the first issue of the first. -/
theorem outcome_agrees {a b : Option Node} {s t : RunState} {result : ValidationResult}
    (after : InStep (· = ·) .failFast [] [] s t ∧ b = a ∨
      Parted (· = ·) .failFast [] [] s t ∧ b = none)
    (first : outcome (.ok a, s) = .ok result) :
    ∃ quick, outcome (.ok b, t) = .ok quick ∧ (∀ n, quick = .valid n ↔ result = .valid n) ∧
      quick.issues = result.issues.take 1 ∧
      warnings t.log.toList <+: warnings s.log.toList := by
  rcases after with ⟨step, rfl⟩ | ⟨parted, rfl⟩
  · have ht : t.issues = #[] := step.clean
    have hs : s.issues = #[] := step.clean_iff.mpr step.clean
    obtain ⟨d, hslog, htlog⟩ := step.log
    have same : outcome (.ok b, t) = outcome (.ok b, s) := by
      cases b <;> simp [outcome, hs, ht]
    have none : result.issues = [] := by
      cases b <;> simp [outcome, hs] at first <;> subst first <;> rfl
    refine ⟨result, same.trans first, fun n => Iff.rfl, by rw [none]; rfl, ?_⟩
    simp [hslog, htlog]
  · obtain ⟨i, is, j, hs, ht, path, like⟩ := parted.issues
    obtain ⟨d, d', hslog, htlog, fewer⟩ := parted.log
    have flawed : s.issues.isEmpty = false := by simpa [Clean] using parted.not_clean
    have invalid : result = .invalid (i :: is) := by
      cases a <;> simp [outcome, flawed, hs] at first <;> exact first.symm
    refine ⟨.invalid [j], by simp [outcome, ht], by simp [invalid], ?_, ?_⟩
    · rw [invalid, like, ← path]
      rfl
    · simpa only [hslog, htlog, List.nil_append] using fewer

end Validation

namespace Registry

open Validation

/-- A validation that stops at its first issue agrees with one that collects all of them: it comes
to a result as well, to the same node or to the first of the issues, and its warnings come first
among the warnings of the other one. -/
theorem failFast_of_batch {r : Registry} {memory memory' : Memory} {raw : Value} {schema : String}
    {o : ValidateOptions} {result : ValidationResult}
    (builtin : r.Every (FieldSpec.Builtin r.kinds)) (fixed : r.Every FieldSpec.FixedPattern)
    (steady : r.Every FieldSpec.PureDefault)
    (returned : (r.validate memory raw schema { o with errors := .batch }).result = .ok result) :
    ∃ quick, (r.validate memory' raw schema { o with errors := .failFast }).result = .ok quick ∧
      (∀ n, quick = .valid n ↔ result = .valid n) ∧ quick.issues = result.issues.take 1 ∧
      warnings (r.validate memory' raw schema { o with errors := .failFast }).log <+:
        warnings (r.validate memory raw schema { o with errors := .batch }).log := by
  have frozen := frozen_of_ok returned
  obtain ⟨first, firstLog⟩ := validate_eq frozen memory raw schema { o with errors := .batch }
  obtain ⟨second, secondLog⟩ := validate_eq frozen memory' raw schema { o with errors := .failFast }
  rw [second, firstLog, secondLog]
  rw [first] at returned
  have plain : r.Every (FieldSpec.Memoryless r.kinds) := fun s hs top ht part hp =>
    ⟨builtin s hs top ht part hp, fixed s hs top ht part hp, steady s hs top ht part hp⟩
  have pace : Pace (ValidateOptions.rules { o with errors := .batch } r)
      (ValidateOptions.rules { o with errors := .failFast } r) := ⟨rfl, .inr rfl⟩
  have follows := checkNodeAt_follows pathRelation_eq pace plain (levels o.maxDepth) raw schema
    ⟨[], o.stack, o.kwargs, 1⟩ ⟨[], o.stack, o.kwargs, 1⟩ ⟨rfl, rfl⟩
  obtain ⟨answer, s, batch⟩ := outcome_eq_ok returned
  obtain ⟨b, t, quick, after⟩ := follows.tracks [] [] _ _ _ _ (.fresh memory memory') batch
  have quick : ValidateOptions.run { o with errors := .failFast } r raw schema
    { memory := memory' } = (.ok b, t) := quick
  rw [batch] at returned ⊢
  rw [quick]
  exact outcome_agrees after returned

end Registry

namespace Library

/-- A book with a wrong title, no parts and a wrong rank. -/
def flawed : Value := .record [("title", .number 5), ("rank", .text "first")] true

def flaws : List Issue := [
  ⟨["book.title"], .typeMismatch, "the value must be a string", some "Use the string \"5\".",
    some "5"⟩,
  ⟨["book.rank"], .typeMismatch, "the value must be an integer", none, some "\"first\""⟩,
  ⟨["book.parts"], .missingField, "the required field 'parts' is missing", none, none⟩]

set_option maxRecDepth 4000 in
theorem validate_flawed : (registry.validate [] flawed "book" {}).result = .ok (.invalid flaws) :=
  rfl

/-- Of the three flaws the first one is left. -/
theorem validate_flawed_failFast :
    (registry.validate [] flawed "book" {}).result = .ok (.invalid flaws) ∧
      ∃ quick, (registry.validate [] flawed "book" { errors := .failFast }).result = .ok quick ∧
        (∀ n, quick = .valid n ↔ ValidationResult.invalid flaws = .valid n) ∧
        quick.issues = flaws.take 1 ∧
        warnings (registry.validate [] flawed "book" { errors := .failFast }).log <+:
          warnings (registry.validate [] flawed "book" {}).log :=
  ⟨validate_flawed, Registry.failFast_of_batch (o := {}) registry_builtin
    (registry_plain.mono fun _ h => h.1) (registry_plain.mono fun _ h => h.2.2.2) validate_flawed⟩

end Library

end ShapedTree
