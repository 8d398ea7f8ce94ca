import ShapedTree.Proofs.Validation.Confinement
import ShapedTree.Proofs.Validation.FailFast

namespace ShapedTree

open Run Validation

/-- A validation that is asked for. -/
structure Request where
  raw : Value
  schema : String
  options : ValidateOptions

/-- What is remembered after validations one after another. -/
def Registry.memoryAfter (r : Registry) (memory : Memory) (earlier : List Request) : Memory :=
  earlier.foldl (fun m q => (r.validate m q.raw q.schema q.options).memory) memory

namespace Registry

variable {r : Registry} {K : Set Nat}

/-- Two memories that agree on the cells of a registry make no difference to a validation. -/
theorem validate_of_reads (confined : r.ConfinedTo K) {m m' : Memory}
    (same : ∀ c ∈ K, m.read c = m'.read c) (raw : Value) (schema : String) (o : ValidateOptions) :
    (r.validate m raw schema o).result = (r.validate m' raw schema o).result ∧
      (r.validate m raw schema o).log = (r.validate m' raw schema o).log := by
  cases frozen : r.frozen with
  | false => simp [validate, frozen]
  | true =>
    obtain ⟨result, log⟩ := validate_eq frozen m raw schema o
    obtain ⟨result', log'⟩ := validate_eq frozen m' raw schema o
    have rules : (o.rules r).registry.ConfinedTo K := confined
    have ends : EndAlike K (o.run r raw schema { memory := m })
        (o.run r raw schema { memory := m' }) :=
      (checkNodeAt_confined rules _ raw schema _).alike ⟨rfl, rfl, same⟩
    rw [result, result', log, log']
    generalize o.run r raw schema { memory := m } = x at ends ⊢
    generalize o.run r raw schema { memory := m' } = y at ends ⊢
    cases ends with
    | error e log => exact ⟨rfl, by rw [log]⟩
    | ok answer after =>
      refine ⟨?_, by rw [after.log]⟩
      cases answer <;> simp only [outcome, after.issues]

/-- Whatever was validated before, a validation gives the same result and the same messages as on
the registry as it was, if the patterns that remember where they stopped are back where they were.
-/
theorem history_independent (confined : r.ConfinedTo K) (memory : Memory) (earlier : List Request)
    (back : ∀ c ∈ K, (r.memoryAfter memory earlier).read c = memory.read c) (raw : Value)
    (schema : String) (o : ValidateOptions) :
    (r.validate (r.memoryAfter memory earlier) raw schema o).result =
        (r.validate memory raw schema o).result ∧
      (r.validate (r.memoryAfter memory earlier) raw schema o).log =
        (r.validate memory raw schema o).log :=
  validate_of_reads confined back raw schema o

end Registry

namespace Labels

/-- The pattern `/a/g`. -/
def letterA : Pattern where
  source := "a"
  flags := { global := true }
  term := .andThen (.code 97) .empty
  groups := 0
  cell := 0

example : Pattern.ofSource? "a" "g" 0 = some letterA := rfl

def label : Schema where
  name := "label"
  fields := [.leaf {
    name := "text", kind := "string", constraints := { pattern := some letterA } }]

/-- Labels whose text has to match a pattern with the flag `g`. -/
def registry : Registry := { kinds := .builtin, schemas := [label], frozen := true }

/-- A label with the text `a`. -/
def request : Request := ⟨.record [("text", .text "a")] true, "label", {}⟩

theorem registry_made : registry.Made := by
  have labels := Registry.Made.schema (.empty .builtin) (show Registry.register? _ label.name
    (.specs label.fields) label.info = .ok (_, label) from rfl)
  exact .frozen labels rfl rfl

theorem registry_confined : registry.ConfinedTo {0} := by
  refine ⟨?_, ?_, fun _ _ _ found custom => (KindCatalog.builtin_rule found custom).elim⟩
  · simp [Registry.Every, FieldSpec.Every, registry, label, Schema.allFields, FieldSpec.walk,
      FieldSpec.ConfinedTo, FieldSpec.info, letterA]
  · simp [Registry.Every, FieldSpec.Every, registry, label, Schema.allFields, FieldSpec.walk,
      FieldSpec.PureDefault, FieldSpec.info]

/-- Asked for twice, the label is refused the second time: the pattern goes on behind the letter. -/
theorem label_refused_again :
    registry.Made ∧ registry.ConfinedTo {0} ∧
      (registry.validate [] request.raw request.schema request.options).result =
        .ok (.valid ⟨"label", [("text", .text "a")], [], none, []⟩) ∧
      (registry.validate (registry.memoryAfter [] [request]) request.raw request.schema
        request.options).result = .ok (.invalid [{
          path := ["label.text"], kind := .constraintViolation
          message := "the value does not match the pattern /a/g", received := some "\"a\"" }]) :=
  ⟨registry_made, registry_confined, rfl, rfl⟩

/-- The refusal sets the pattern back, so that after two labels another one is accepted. -/
theorem label_accepted_again :
    (registry.validate (registry.memoryAfter [] [request, request]) request.raw request.schema
      request.options).result = .ok (.valid ⟨"label", [("text", .text "a")], [], none, []⟩) := by
  have back : ∀ c ∈ ({0} : Set Nat),
      (registry.memoryAfter [] [request, request]).read c = Memory.read [] c := by
    rintro c rfl
    rfl
  have first : (registry.validate [] request.raw request.schema request.options).result =
      .ok (.valid ⟨"label", [("text", .text "a")], [], none, []⟩) := rfl
  rw [(Registry.history_independent registry_confined [] [request, request] back _ _ _).1]
  exact first

end Labels

end ShapedTree
