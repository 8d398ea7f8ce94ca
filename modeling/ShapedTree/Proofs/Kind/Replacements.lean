import Mathlib.Algebra.Order.Field.Rat
import Mathlib.Tactic.Linarith
import ShapedTree.Proofs.Kind.Stored

namespace ShapedTree

namespace Identifier

theorem isNameChar_underscore : isNameChar '_' = true := by decide

theorem unitsOfChar_ne_nil (c : Char) : Text.unitsOfChar c ≠ [] := by
  unfold Text.unitsOfChar
  split <;> simp

theorem mem_cleanChar {c d : Char} (h : d ∈ cleanChar c) : isNameChar d = true := by
  unfold cleanChar at h
  split at h
  next name => exact List.mem_singleton.mp h ▸ name
  next => exact (List.mem_replicate.mp h).2 ▸ isNameChar_underscore

theorem isNameChar_of_mem_clean {cs : List Char} {d : Char} (h : d ∈ clean cs) :
    isNameChar d = true := by
  have cleaned : ∀ d ∈ cs.flatMap cleanChar, isNameChar d = true := by
    intro d hd
    obtain ⟨c, -, hd⟩ := List.mem_flatMap.mp hd
    exact mem_cleanChar hd
  unfold clean at h
  split at h
  next => exact List.mem_singleton.mp h ▸ isNameChar_underscore
  next c rest split_ =>
    rw [split_] at cleaned
    split at h
    next =>
      rcases List.mem_cons.mp h with rfl | h
      · exact isNameChar_underscore
      · exact cleaned d h
    next => exact cleaned d h

/-- A cleaned text has the shape of a name. -/
theorem isShaped_clean (cs : List Char) : isShaped (clean cs) = true := by
  have names : ∀ d ∈ clean cs, isNameChar d = true := fun d => isNameChar_of_mem_clean
  obtain ⟨d, rest, shape, start⟩ : ∃ d rest, clean cs = d :: rest ∧ d.isDigit = false := by
    unfold clean
    split
    next => exact ⟨'_', [], rfl, by decide⟩
    next c rest _ =>
      cases digit : c.isDigit with
      | true => exact ⟨'_', c :: rest, by simp, by decide⟩
      | false => exact ⟨c, rest, by simp, digit⟩
  rw [shape] at names ⊢
  obtain ⟨first, others⟩ := List.forall_mem_cons.mp names
  simpa [isShaped, first, start] using others

/-- Cleaning leaves a text as it is or puts an underscore into it. -/
theorem clean_eq_self {cs : List Char} (bare : '_' ∉ clean cs) : clean cs = cs := by
  have kept : ∀ c ∈ cs, isNameChar c = true := by
    intro c hc
    by_contra other
    have replaced : '_' ∈ cleanChar c := by
      simp [cleanChar, other, unitsOfChar_ne_nil]
    have inside : '_' ∈ cs.flatMap cleanChar := List.mem_flatMap.mpr ⟨c, hc, replaced⟩
    apply bare
    unfold clean
    split
    next => exact List.mem_singleton_self _
    next c rest split_ =>
      rw [split_] at inside
      split
      next => exact List.mem_cons_self
      next => exact inside
  have same : cs.flatMap cleanChar = cs := by
    have single : ∀ c ∈ cs, cleanChar c = [c] := fun c hc => by simp [cleanChar, kept c hc]
    rw [List.flatMap_congr single, List.flatMap_singleton']
  unfold clean at bare ⊢
  rw [same] at bare ⊢
  split
  next => exact absurd (List.mem_singleton_self _) bare
  next c rest =>
    split
    next digit => exact absurd (by simp [digit]) bare
    next => rfl

theorem clean_of_isShaped {cs : List Char} (shaped : isShaped cs = true) : clean cs = cs := by
  cases cs with
  | nil => cases shaped
  | cons c cs =>
    simp only [isShaped, Bool.and_eq_true, Bool.not_eq_true', List.all_eq_true] at shaped
    obtain ⟨⟨first, start⟩, others⟩ := shaped
    have single : ∀ d ∈ c :: cs, cleanChar d = [d] := by
      refine List.forall_mem_cons.mpr ⟨?_, fun d hd => ?_⟩
      · simp [cleanChar, first]
      · simp [cleanChar, others d hd]
    simp [clean, List.flatMap_congr single, start]

theorem underscore_notMem_reserved : ∀ word ∈ reserved, '_' ∉ word.toList := by decide

theorem isShaped_reserved : ∀ word ∈ reserved, isShaped word.toList = true := by decide

/-- A cleaned text is reserved only if the text was. -/
theorem sanitize_mem_reserved_iff {s : String} : sanitize s ∈ reserved ↔ s ∈ reserved := by
  constructor
  · intro h
    have bare := underscore_notMem_reserved _ h
    rw [sanitize, String.toList_ofList] at bare
    rw [sanitize, clean_eq_self bare, String.ofList_toList] at h
    exact h
  · intro h
    rw [sanitize, clean_of_isShaped (isShaped_reserved s h), String.ofList_toList]
    exact h

theorem isIdentifier_sanitize_iff {s : String} :
    isIdentifier (sanitize s) = true ↔ s ∉ reserved := by
  rw [← sanitize_mem_reserved_iff]
  simp [isIdentifier, sanitize, isShaped_clean]

end Identifier

namespace Number

theorem lt_irrefl (n : Number) : n.lt n = false := by
  cases n with
  | finite q => simp [lt]
  | _ => simp [lt]

theorem finite_lt {p q : Rat} : lt (.finite p) (.finite q) = true ↔ p < q := by
  simp [lt]

theorem finite_not_lt {p q : Rat} : lt (.finite p) (.finite q) = false ↔ q ≤ p := by
  simp [lt]

end Number

namespace FieldBuilder

/-- What is built keeps its settings, and its lower limit is not above the upper one. -/
theorem build_eq_ok {b : FieldBuilder} {name : String} {spec : FieldSpec}
    (h : b.build name = .ok spec) :
    spec.info = b.info name ∧
      crossed spec.info.constraints.min spec.info.constraints.max = false := by
  unfold build at h
  split at h
  next => cases h
  next uncrossed =>
    split at h
    next => cases h
    next =>
      split at h
      next => cases h
      next =>
        have same : spec.info = b.info name := by
          cases h
          cases b.parts <;> rfl
        rw [same]
        exact ⟨rfl, Bool.eq_false_iff.mpr uncrossed⟩

end FieldBuilder

namespace Kind

variable {c : Constraints} {n bound : Number}

/-- A limit that is broken is the lower one of a smaller number or the upper one of a larger. -/
theorem nearestBound_eq_some (h : nearestBound n c.min c.max = some bound) :
    c.min = some bound ∧ n.lt bound = true ∨ c.max = some bound ∧ bound.lt n = true := by
  unfold nearestBound at h
  split at h
  next low high hl hh =>
    split at h
    next below => cases h; exact .inl ⟨hl, below⟩
    next =>
      obtain ⟨above, same⟩ := Option.ite_none_right_eq_some.mp h
      cases same
      exact .inr ⟨hh, above⟩
  next low hl _ =>
    obtain ⟨below, same⟩ := Option.ite_none_right_eq_some.mp h
    cases same
    exact .inl ⟨hl, below⟩
  next high _ hh =>
    obtain ⟨above, same⟩ := Option.ite_none_right_eq_some.mp h
    cases same
    exact .inr ⟨hh, above⟩
  next => cases h

/-- Limits that leave room for a number leave room for each other. -/
theorem inRange_of_nearestBound (room : FieldBuilder.crossed c.min c.max = false)
    (h : nearestBound n c.min c.max = some bound) : InRange c bound := by
  rcases nearestBound_eq_some h with ⟨own, -⟩ | ⟨own, -⟩
  · refine ⟨fun low hl => ?_, fun high hh => ?_⟩
    · cases own.symm.trans hl
      exact bound.lt_irrefl
    · simpa [FieldBuilder.crossed, own, hh] using room
  · refine ⟨fun low hl => ?_, fun high hh => ?_⟩
    · simpa [FieldBuilder.crossed, own, hl] using room
    · cases own.symm.trans hh
      exact bound.lt_irrefl

/-- No number within the limits is nearer than the limit that is broken. -/
theorem nearestBound_nearest {p q r : Rat}
    (h : nearestBound (.finite p) c.min c.max = some (.finite q)) (range : InRange c (.finite r)) :
    |p - q| ≤ |p - r| := by
  rcases nearestBound_eq_some h with ⟨own, below⟩ | ⟨own, above⟩
  · have lower := Number.finite_lt.mp below
    have within := Number.finite_not_lt.mp (range.1 _ own)
    rw [abs_sub_comm p q, abs_sub_comm p r, abs_of_nonneg (by linarith), abs_of_nonneg (by linarith)]
    linarith
  · have higher := Number.finite_lt.mp above
    have within := Number.finite_not_lt.mp (range.2 _ own)
    rw [abs_of_nonneg (by linarith), abs_of_nonneg (by linarith)]
    linarith

/-- The advice to take a limit. -/
def limitAdvice (text : String) : String := s!"The closest allowed value is {text}."

/-- The advice to take a name. -/
def nameAdvice (name : String) : String := s!"Try '{name}'."

theorem enclosed_injective {before behind s t : String}
    (h : before ++ s ++ behind = before ++ t ++ behind) : s = t := by
  have chars := congrArg String.toList h
  simp only [String.toList_append, List.append_assoc, List.append_cancel_left_eq,
    List.append_cancel_right_eq] at chars
  exact String.toList_inj.mp chars

theorem limitAdvice_eq (text : String) :
    limitAdvice text = "The closest allowed value is " ++ text ++ "." := rfl

theorem nameAdvice_eq (name : String) : nameAdvice name = "Try '" ++ name ++ "'." := rfl

theorem limitAdvice_injective {s t : String} (h : limitAdvice s = limitAdvice t) : s = t :=
  enclosed_injective h

theorem nameAdvice_injective {s t : String} (h : nameAdvice s = nameAdvice t) : s = t :=
  enclosed_injective h

/-- A result gives an advice. -/
def Suggests {α : Type} (result : Except (List Finding) α) (advice : String) : Prop :=
  ∃ fs, result = .error fs ∧ ∃ f ∈ fs, f.suggestion = some advice

theorem suggests_single {α : Type} {f : Finding} {advice : String}
    (h : Suggests (.error [f] : Except (List Finding) α) advice) : f.suggestion = some advice := by
  obtain ⟨fs, ⟨⟩, g, hg, advises⟩ := h
  rwa [← List.mem_singleton.mp hg]

theorem limitAdvice_head (text : String) : (limitAdvice text).toList.head? = some 'T' := by
  rw [limitAdvice_eq]
  simp

/-- The closest allowed value is not the closest integer. -/
theorem limitAdvice_letter (text : String) : (limitAdvice text).toList[12]? = some 'a' := by
  rw [limitAdvice_eq]
  simp

theorem nameAdvice_head (name : String) : (nameAdvice name).toList.head? = some 'T' := by
  rw [nameAdvice_eq]
  simp

/-- Advice about numerals and texts begins with another word. -/
theorem numeralHint_head {raw : Value} {advice : String} (h : numeralHint raw = some advice) :
    advice.toList.head? = some 'U' := by
  unfold numeralHint at h
  split at h
  next s =>
    split at h
    next => cases h
    next =>
      split at h
      next n _ =>
        split at h
        next =>
          rw [← Option.some.inj h]
          simp [toString]
        next => cases h
      next => cases h
  next => cases h

theorem textHint_head {raw : Value} {advice : String} (h : textHint raw = some advice) :
    advice.toList.head? = some 'U' := by
  unfold textHint at h
  split at h
  next n =>
    rw [← Option.some.inj h]
    simp [toString]
  next =>
    rw [← Option.some.inj h]
    rfl
  next =>
    rw [← Option.some.inj h]
    rfl
  next => cases h

theorem numeralHint_ne_limitAdvice (raw : Value) (text : String) :
    numeralHint raw ≠ some (limitAdvice text) := by
  intro h
  cases (numeralHint_head h).symm.trans (limitAdvice_head text)

theorem textHint_ne_nameAdvice (raw : Value) (name : String) :
    textHint raw ≠ some (nameAdvice name) := by
  intro h
  cases (textHint_head h).symm.trans (nameAdvice_head name)

theorem checkRange_suggests {held : Value} {text : String}
    (h : Suggests (checkRange c n held) (limitAdvice text)) :
    ∃ bound, nearestBound n c.min c.max = some bound ∧ bound.text = text := by
  unfold checkRange at h
  split at h
  next =>
    obtain ⟨fs, failed, -⟩ := h
    cases failed
  next bound broken =>
    have advice := Option.some.inj (suggests_single h)
    exact ⟨bound, broken, limitAdvice_injective advice⟩

theorem checkNumber_suggests {raw : Value} {text : String}
    (h : Suggests (checkNumber c raw) (limitAdvice text)) :
    ∃ p bound, raw = .number (.finite p) ∧ nearestBound (.finite p) c.min c.max = some bound ∧
      bound.text = text := by
  unfold checkNumber at h
  split at h
  next n =>
    split at h
    next finite =>
      cases n with
      | finite p =>
        obtain ⟨bound, broken, named⟩ := checkRange_suggests h
        exact ⟨p, bound, rfl, broken, named⟩
      | _ => cases finite
    next => cases suggests_single h
  next => exact absurd (suggests_single h) (numeralHint_ne_limitAdvice _ _)

theorem checkInteger_suggests {raw : Value} {text : String}
    (h : Suggests (checkInteger c raw) (limitAdvice text)) :
    ∃ p bound, raw = .number (.finite p) ∧ nearestBound (.finite p) c.min c.max = some bound ∧
      bound.text = text := by
  unfold checkInteger at h
  split at h
  next n =>
    split at h
    next whole =>
      obtain ⟨m, rfl⟩ := ofInt_of_isInteger whole
      obtain ⟨bound, broken, named⟩ := checkRange_suggests h
      exact ⟨m, bound, rfl, broken, named⟩
    next =>
      have advice := suggests_single h
      simp only [Finding.mismatch] at advice
      split at advice
      next =>
        have letter := limitAdvice_letter text
        rw [← Option.some.inj advice] at letter
        simp [toString] at letter
      next => cases advice
  next => exact absurd (suggests_single h) (numeralHint_ne_limitAdvice _ _)

/-- A text that breaks the limits of its length is not told another name. -/
theorem textLength_ne_nameAdvice {length : Nat} {f : Finding} (h : textLength c length = some f)
    (name : String) : f.suggestion ≠ some (nameAdvice name) := by
  intro advises
  have first : f.suggestion.map (·.toList.head?) = some (some 'T') := by
    rw [advises, Option.map_some, nameAdvice_head]
  simp only [textLength, Option.or_eq_some_iff, Option.bind_eq_some_iff,
    Option.ite_none_right_eq_some, Option.some.injEq] at h
  rcases h with ⟨_, _, _, rfl⟩ | ⟨_, _, _, _, rfl⟩ <;>
    simp [Finding.violation, toString] at first

/-- The check of a text takes the text as it is or finds something for which no name is offered. -/
theorem checkText_returns (test : Pattern → String → Run Bool) (raw : Value) :
    Run.Returns (checkText test c raw) fun result => (∃ s, raw = .text s ∧ result = .ok s) ∨
      ∃ f, result = .error [f] ∧ ∀ name, f.suggestion ≠ some (nameAdvice name) := by
  unfold checkText
  split
  next s =>
    split
    next f broken => exact .pure (.inr ⟨f, rfl, textLength_ne_nameAdvice broken⟩)
    next =>
      split
      next => exact .pure (.inl ⟨s, rfl, rfl⟩)
      next p _ =>
        refine .bind fun found => ?_
        cases found with
        | true => exact .pure (.inl ⟨s, rfl, rfl⟩)
        | false => exact .pure (.inr ⟨_, rfl, nofun⟩)
  next => exact .pure (.inr ⟨_, rfl, textHint_ne_nameAdvice raw⟩)

theorem checkIdentifier_suggests {s name : String}
    (h : Suggests (checkIdentifier s) (nameAdvice name)) : name = Identifier.sanitize s := by
  unfold checkIdentifier at h
  split at h
  next =>
    obtain ⟨fs, failed, -⟩ := h
    cases failed
  next => exact (nameAdvice_injective (Option.some.inj (suggests_single h))).symm

end Kind

namespace BuiltinKind

/-- The numbers that a kind of numbers is about. -/
def Takes : BuiltinKind → Number → Prop
  | .number, n => n.isFinite = true
  | .integer, n => n.isInteger = true
  | _, _ => False

/-- A kind of numbers accepts those that it is about, within the limits. -/
theorem verdict_number_iff {k : BuiltinKind} (numeric : k = .number ∨ k = .integer)
    {c : Constraints} {n : Number} :
    k.verdict c (.number n) = .ok (.number n) ↔ k.Takes n ∧ Kind.InRange c n := by
  rcases numeric with rfl | rfl
  · rw [verdict, Kind.checkNumber_eq_ok]
    constructor
    · rintro ⟨q, ⟨⟩, -, range⟩
      exact ⟨rfl, range⟩
    · rintro ⟨finite, range⟩
      cases n with
      | finite q => exact ⟨q, rfl, rfl, range⟩
      | _ => cases finite
  · rw [verdict, Kind.checkInteger_eq_ok]
    constructor
    · rintro ⟨m, ⟨⟩, -, range⟩
      exact ⟨Kind.isInteger_ofInt m, range⟩
    · rintro ⟨whole, range⟩
      obtain ⟨m, rfl⟩ := Kind.ofInt_of_isInteger whole
      exact ⟨m, rfl, rfl, range⟩

theorem verdict_suggests {k : BuiltinKind} (numeric : k = .number ∨ k = .integer)
    {c : Constraints} {raw : Value} {text : String}
    (h : Kind.Suggests (k.verdict c raw) (Kind.limitAdvice text)) :
    ∃ p bound, raw = .number (.finite p) ∧ nearestBound (.finite p) c.min c.max = some bound ∧
      bound.text = text := by
  rcases numeric with rfl | rfl
  · exact Kind.checkNumber_suggests h
  · exact Kind.checkInteger_suggests h

end BuiltinKind

/-- A context that answers nothing. -/
def KindContext.silent : KindContext Run where
  path := []
  kwargs := {}
  halted := pure false
  node _ _ _ := pure none
  choice _ _ _ := pure none
  value _ _ _ := pure none
  test _ _ := pure false
  afresh _ x := x

namespace KindCatalog

/-- Somewhere in a run, the kind of a specification answers a value with findings, one of which
gives the advice. -/
def Advises (kinds : KindCatalog) (spec : FieldSpec) (raw : Value) (advice : String) : Prop :=
  ∃ (ctx : KindContext Run) (parts : PartChecks Run) (s t : RunState) (result : KindResult),
    kinds.check spec.kind ctx parts spec raw s = (.ok result, t) ∧ Kind.Suggests result advice

/-- Wherever it is asked, the kind of a specification accepts a value as it is. -/
def Accepts (kinds : KindCatalog) (spec : FieldSpec) (raw : Value) : Prop :=
  ∀ (ctx : KindContext Run) (parts : PartChecks Run) (s : RunState),
    kinds.check spec.kind ctx parts spec raw s = (.ok (.ok raw), s)

variable {kinds : KindCatalog} {spec : FieldSpec} {k : BuiltinKind}

theorem check_numeric (numeric : k = .number ∨ k = .integer) (known : kinds.Knows k spec)
    (ctx : KindContext Run) (parts : PartChecks Run) (raw : Value) (s : RunState) :
    kinds.check spec.kind ctx parts spec raw s =
      (.ok (k.verdict spec.info.constraints raw), s) := by
  rw [known.check_eq]
  rcases numeric with rfl | rfl <;> rfl

theorem advises_numeric (numeric : k = .number ∨ k = .integer) (known : kinds.Knows k spec)
    {raw : Value} {advice : String} (h : kinds.Advises spec raw advice) :
    Kind.Suggests (k.verdict spec.info.constraints raw) advice := by
  obtain ⟨ctx, parts, s, t, result, answer, suggests⟩ := h
  rw [check_numeric numeric known] at answer
  cases answer
  exact suggests

theorem accepts_numeric_iff (numeric : k = .number ∨ k = .integer) (known : kinds.Knows k spec)
    {n : Number} : kinds.Accepts spec (.number n) ↔
      k.Takes n ∧ Kind.InRange spec.info.constraints n := by
  rw [← BuiltinKind.verdict_number_iff numeric]
  constructor
  · intro accepts
    have answer := accepts .silent .none {}
    rw [check_numeric numeric known] at answer
    exact Except.ok.inj (Prod.mk.inj answer).1
  · intro verdict ctx parts s
    rw [check_numeric numeric known, verdict]

/-- The name that a kind of names offers is the cleaned text. -/
theorem advises_identifier (known : kinds.Knows .identifier spec) {raw : Value} {name : String}
    (h : kinds.Advises spec raw (Kind.nameAdvice name)) :
    ∃ s, raw = .text s ∧ name = Identifier.sanitize s := by
  obtain ⟨ctx, parts, s, t, result, answer, suggests⟩ := h
  rw [known.check_eq] at answer
  obtain ⟨checked, u, asked, rest⟩ := Computation.bind_eq_ok answer
  have last : ((.ok (checked.bind Kind.checkIdentifier), u) : Except Fault KindResult × RunState) =
      (.ok result, t) := rest
  cases last
  rcases Kind.checkText_returns ctx.test raw s checked t asked with
    ⟨text, rfl, rfl⟩ | ⟨f, rfl, silent⟩
  · exact ⟨text, rfl, Kind.checkIdentifier_suggests suggests⟩
  · exact absurd (Kind.suggests_single suggests) (silent name)

end KindCatalog

open KindCatalog

/-- A limit that a kind of numbers offers instead of a number is accepted exactly if it is a number
of the kind, and no accepted number is nearer; a name that is offered instead of a text is one
unless the text was a reserved word. -/
theorem FieldBuilder.replacements_accepted {b : FieldBuilder} {name : String} {spec : FieldSpec}
    (built : b.build name = .ok spec) (kinds : KindCatalog) (raw : Value) :
    (∀ k, k = .number ∨ k = .integer → kinds.Knows k spec →
      ∀ text, kinds.Advises spec raw (Kind.limitAdvice text) →
        ∃ p bound, raw = .number (.finite p) ∧ bound.text = text ∧
          (spec.info.constraints.min = some bound ∨ spec.info.constraints.max = some bound) ∧
          (kinds.Accepts spec (.number bound) ↔ k.Takes bound) ∧
          ∀ q r, bound = .finite q → kinds.Accepts spec (.number (.finite r)) →
            |p - q| ≤ |p - r|) ∧
    (kinds.Knows .identifier spec →
      ∀ word, kinds.Advises spec raw (Kind.nameAdvice word) →
        ∃ s, raw = .text s ∧ (isIdentifier word = true ↔ s ∉ Identifier.reserved)) := by
  obtain ⟨-, room⟩ := build_eq_ok built
  constructor
  · intro k numeric known text advised
    obtain ⟨p, bound, rfl, broken, named⟩ :=
      BuiltinKind.verdict_suggests numeric (advises_numeric numeric known advised)
    have own := (Kind.nearestBound_eq_some broken).imp And.left And.left
    have range := Kind.inRange_of_nearestBound room broken
    refine ⟨p, bound, rfl, named, own, ?_, ?_⟩
    · rw [accepts_numeric_iff numeric known]
      exact and_iff_left range
    · rintro q r rfl accepted
      have within := ((accepts_numeric_iff numeric known).mp accepted).2
      exact Kind.nearestBound_nearest broken within
  · intro known word advised
    obtain ⟨s, rfl, rfl⟩ := advises_identifier known advised
    exact ⟨s, rfl, Identifier.isIdentifier_sanitize_iff⟩

namespace Gauges

/-- An integer from one and a half to ten. -/
def level : FieldBuilder :=
  { kind := "integer", constraints := { min := some (.finite (3 / 2)), max := some 10 } }

def levelSpec : FieldSpec := .leaf (level.info "level")

def labelSpec : FieldSpec := .leaf (Field.identifier.info "label")

theorem level_known : KindCatalog.builtin.Knows .integer levelSpec := ⟨rfl, rfl⟩

theorem label_known : KindCatalog.builtin.Knows .identifier labelSpec := ⟨rfl, rfl⟩

theorem level_built : level.build "level" = .ok levelSpec := by
  have room : Number.lt 10 (.finite (3 / 2)) = false := by decide +kernel
  simp [FieldBuilder.build, FieldBuilder.crossed, FieldBuilder.defaultsToNull, level, levelSpec,
    room]

theorem level_advises {n bound : Number} {text : String} (whole : n.isInteger = true)
    (broken : nearestBound n levelSpec.info.constraints.min levelSpec.info.constraints.max =
      some bound) (named : bound.text = text) :
    KindCatalog.builtin.Advises levelSpec (.number n) (Kind.limitAdvice text) := by
  refine ⟨.silent, .none, {}, {}, _, check_numeric (.inr rfl) level_known _ _ _ _, ?_⟩
  simp only [BuiltinKind.verdict, Kind.checkInteger, whole, if_true, Kind.checkRange, broken]
  exact ⟨_, rfl, _, List.mem_singleton_self _, named ▸ rfl⟩

theorem label_advises {s : String} (other : isIdentifier s = false) :
    KindCatalog.builtin.Advises labelSpec (.text s) (Kind.nameAdvice (Identifier.sanitize s)) := by
  refine ⟨.silent, .none, {}, {}, Kind.checkIdentifier s, by rw [label_known.check_eq]; rfl, ?_⟩
  simp only [Kind.checkIdentifier, other]
  exact ⟨_, rfl, _, List.mem_singleton_self _, rfl⟩

/-- Twelve is lowered to ten, and blanks in a name become underscores. -/
theorem twelve_lowered :
    (level.build "level" = .ok levelSpec ∧
      KindCatalog.builtin.Advises levelSpec (.number 12) (Kind.limitAdvice "10") ∧
      KindCatalog.builtin.Accepts levelSpec (.number 10)) ∧
    Field.identifier.build "label" = .ok labelSpec ∧
      KindCatalog.builtin.Advises labelSpec (.text "my label") (Kind.nameAdvice "my_label") ∧
      isIdentifier "my_label" = true := by
  have lowered : KindCatalog.builtin.Advises levelSpec (.number 12) (Kind.limitAdvice "10") :=
    @level_advises 12 10 "10" (by decide +kernel) (by decide +kernel) (by decide +kernel)
  have renamed : KindCatalog.builtin.Advises labelSpec (.text "my label")
      (Kind.nameAdvice "my_label") := label_advises (s := "my label") (by decide +kernel)
  have label : Field.identifier.build "label" = .ok labelSpec := rfl
  refine ⟨⟨level_built, lowered, ?_⟩, label, renamed, ?_⟩
  · obtain ⟨p, bound, -, named, own, accepted, -⟩ :=
      (FieldBuilder.replacements_accepted level_built .builtin (.number 12)).1 .integer (.inr rfl)
        level_known _ lowered
    rcases own with low | high
    · cases low
      exact absurd named (by decide +kernel)
    · cases high
      exact accepted.mpr rfl
  · obtain ⟨s, ⟨⟩, accepted⟩ :=
      (FieldBuilder.replacements_accepted label .builtin (.text "my label")).2 label_known _ renamed
    exact accepted.mpr (by decide)

/-- One is raised to one and a half, which is no integer, and a reserved word is offered again. -/
theorem one_raised :
    (level.build "level" = .ok levelSpec ∧
      KindCatalog.builtin.Advises levelSpec (.number 1) (Kind.limitAdvice "1.5") ∧
      ¬ KindCatalog.builtin.Accepts levelSpec (.number (.finite (3 / 2)))) ∧
    Field.identifier.build "label" = .ok labelSpec ∧
      KindCatalog.builtin.Advises labelSpec (.text "class") (Kind.nameAdvice "class") ∧
      isIdentifier "class" = false := by
  have raised : KindCatalog.builtin.Advises levelSpec (.number 1) (Kind.limitAdvice "1.5") :=
    @level_advises 1 (.finite (3 / 2)) "1.5" (by decide +kernel) (by decide +kernel)
      (by decide +kernel)
  have again : KindCatalog.builtin.Advises labelSpec (.text "class") (Kind.nameAdvice "class") :=
    label_advises (s := "class") (by decide +kernel)
  refine ⟨⟨level_built, raised, ?_⟩, rfl, again, by decide +kernel⟩
  have half : (Number.finite (3 / 2)).isInteger = false := by decide +kernel
  rw [accepts_numeric_iff (.inr rfl) level_known]
  rintro ⟨whole, -⟩
  cases half.symm.trans whole

end Gauges

end ShapedTree
