import Mathlib.Computability.Language
import ShapedTree.Pattern.Matcher
import ShapedTree.Proofs.Lists

namespace ShapedTree

namespace Pattern

/-- As many words of a language as a repetition allows. -/
def between (L : Language Nat) (least : Nat) (most : Option Nat) : Language Nat :=
  {w | ∃ n, least ≤ n ∧ (∀ m, most = some m → n ≤ m) ∧ w ∈ L ^ n}

theorem mem_between {L : Language Nat} {least : Nat} {most : Option Nat} {w : List Nat} :
    w ∈ between L least most ↔
      ∃ n, least ≤ n ∧ (∀ m, most = some m → n ≤ m) ∧ w ∈ L ^ n :=
  Iff.rfl

theorem between_zero (L : Language Nat) : between L 0 (some 0) = 1 := by
  ext w
  constructor
  · rintro ⟨n, -, le, hw⟩
    obtain rfl : n = 0 := Nat.le_zero.mp (le 0 rfl)
    simpa using hw
  · intro hw
    exact ⟨0, le_rfl, by simp, by simpa using hw⟩

/-- A repetition that asks for a round has one word and then the others. -/
theorem between_of_least {L : Language Nat} {least : Nat} {most : Option Nat} (pos : least ≠ 0)
    (le : ∀ m, most = some m → least ≤ m) :
    between L least most = L * between L (least - 1) (most.map (· - 1)) := by
  ext w
  rw [Language.mem_mul]
  constructor
  · rintro ⟨n, ge, bound, hw⟩
    obtain ⟨k, rfl⟩ : ∃ k, n = k + 1 := ⟨n - 1, by omega⟩
    rw [pow_succ', Language.mem_mul] at hw
    obtain ⟨u, hu, v, hv, rfl⟩ := hw
    refine ⟨u, hu, v, ⟨k, by omega, ?_, hv⟩, rfl⟩
    intro m hm
    obtain ⟨most', rfl, rfl⟩ := Option.map_eq_some_iff.mp hm
    have := bound most' rfl
    omega
  · rintro ⟨u, hu, v, ⟨k, ge, bound, hv⟩, rfl⟩
    refine ⟨k + 1, by omega, ?_, ?_⟩
    · intro m hm
      have := bound (m - 1) (by rw [hm]; rfl)
      have := le m hm
      omega
    · rw [pow_succ', Language.mem_mul]
      exact ⟨u, hu, v, hv, rfl⟩

/-- A repetition that asks for no round is over or has a word that is not empty before others. -/
theorem between_of_free {L : Language Nat} {most : Option Nat} (more : most ≠ some 0) :
    between L 0 most = 1 + (L - 1) * between L 0 (most.map (· - 1)) := by
  ext w
  rw [Language.mem_add, Language.mem_mul]
  constructor
  · rintro ⟨n, -, bound, hw⟩
    induction n with
    | zero => exact .inl (by simpa using hw)
    | succ n ih =>
      rw [pow_succ', Language.mem_mul] at hw
      obtain ⟨u, hu, v, hv, rfl⟩ := hw
      by_cases moves : u = []
      · subst moves
        exact ih (fun m hm => Nat.le_of_succ_le (bound m hm)) hv
      · refine .inr ⟨u, ⟨hu, moves⟩, v, ⟨n, Nat.zero_le n, ?_, hv⟩, rfl⟩
        intro m hm
        obtain ⟨most', rfl, rfl⟩ := Option.map_eq_some_iff.mp hm
        have := bound most' rfl
        omega
  · rintro (hw | ⟨u, hu, v, ⟨n, -, bound, hv⟩, rfl⟩)
    · exact ⟨0, le_rfl, by simp, by simpa using hw⟩
    · refine ⟨n + 1, Nat.zero_le _, ?_, ?_⟩
      · intro m hm
        have := bound (m - 1) (by rw [hm]; rfl)
        have : m ≠ 0 := fun h => more (by rw [hm, h])
        omega
      · rw [pow_succ', Language.mem_mul]
        exact ⟨u, hu.1, v, hv, rfl⟩

/-- The word stands in the text at the position. -/
def Subject.Shows (s : Subject) (position : Nat) (w : List Nat) : Prop :=
  w <+: s.codes.toList.drop position

namespace Subject

variable {s : Subject}

@[simp] theorem shows_nil (p : Nat) : s.Shows p [] := List.nil_prefix

theorem shows_append {p : Nat} {u v : List Nat} :
    s.Shows p (u ++ v) ↔ s.Shows p u ∧ s.Shows (p + u.length) v := by
  rw [Shows, append_prefix_iff, List.drop_drop]
  rfl

theorem shows_singleton {p c : Nat} : s.Shows p [c] ↔ s.codes[p]? = some c := by
  rw [Shows, List.singleton_prefix_iff_head?_eq_some]
  simp

theorem size_of_shows {p : Nat} {w : List Nat} (h : s.Shows p w) : w.length ≤ s.codes.size - p := by
  simpa using h.length_le

/-- A word of a product stands where its first part stands with the second one behind it. -/
theorem exists_mem_mul {L M : Language Nat} {p : Nat} {Q : List Nat → Prop} :
    (∃ w ∈ L * M, s.Shows p w ∧ Q w) ↔
      ∃ u ∈ L, s.Shows p u ∧ ∃ v ∈ M, s.Shows (p + u.length) v ∧ Q (u ++ v) := by
  constructor
  · rintro ⟨w, hw, shown, q⟩
    obtain ⟨u, hu, v, hv, rfl⟩ := Language.mem_mul.mp hw
    have both := shows_append.mp shown
    exact ⟨u, hu, both.1, v, hv, both.2, q⟩
  · rintro ⟨u, hu, shown, v, hv, shown', q⟩
    exact ⟨u ++ v, Language.append_mem_mul hu hv, shows_append.mpr ⟨shown, shown'⟩, q⟩

/-- A way of matching finds the words of a language: it succeeds if one of them stands at the
position and the continuation succeeds behind it. -/
def Finds (s : Subject) (way : Spot → (Spot → Option Spot) → Option Spot) (L : Language Nat) :
    Prop :=
  ∀ (spot : Spot) (next : Spot → Option Spot) (Q : List Nat → Prop),
    (∀ w ∈ L, s.Shows spot.position w → ∀ groups,
      ((next ⟨spot.position + w.length, groups⟩).isSome ↔ Q w)) →
    ((way spot next).isSome ↔ ∃ w ∈ L, s.Shows spot.position w ∧ Q w)

end Subject

/-- The words of one code that passes a test. -/
def single (test : Nat → Bool) : Language Nat := {w | ∃ c, test c = true ∧ w = [c]}

theorem mem_single {test : Nat → Bool} {w : List Nat} :
    w ∈ single test ↔ ∃ c, test c = true ∧ w = [c] :=
  Iff.rfl

section

variable {s : Subject} {way other : Spot → (Spot → Option Spot) → Option Spot}
  {L M : Language Nat}

theorem finds_one : s.Finds (fun spot next => next spot) 1 := by
  intro spot next Q h
  have here := h [] (by simp) (Subject.shows_nil _) spot.groups
  simpa using here

/-- Matching one code finds the codes that pass. -/
theorem finds_step (test : Nat → Bool) :
    s.Finds (fun spot next => (s.step false test spot).bind next) (single test) := by
  intro spot next Q h
  have words : (∃ w ∈ single test, s.Shows spot.position w ∧ Q w) ↔
      ∃ c, test c = true ∧ s.codes[spot.position]? = some c ∧ Q [c] := by
    constructor
    · rintro ⟨w, ⟨c, pass, rfl⟩, shown, q⟩
      exact ⟨c, pass, Subject.shows_singleton.mp shown, q⟩
    · rintro ⟨c, pass, hc, q⟩
      exact ⟨[c], ⟨c, pass, rfl⟩, Subject.shows_singleton.mpr hc, q⟩
  rw [words]
  simp only [Subject.step, Bool.false_eq_true, ↓reduceIte]
  cases hc : s.codes[spot.position]? with
  | none => simp
  | some c =>
    by_cases pass : test c = true
    · have behind := h [c] ⟨c, pass, rfl⟩ (Subject.shows_singleton.mpr hc) spot.groups
      simpa [pass] using behind
    · simp [pass]

/-- What holds behind the words of a product holds behind a first part for what goes on there. -/
theorem behind_of_mul {p : Nat} {next : Spot → Option Spot} {Q : List Nat → Prop}
    (h : ∀ w ∈ L * M, s.Shows p w → ∀ groups, ((next ⟨p + w.length, groups⟩).isSome ↔ Q w))
    {u : List Nat} (hu : u ∈ L) (shown : s.Shows p u) :
    ∀ v ∈ M, s.Shows (p + u.length) v → ∀ groups,
      ((next ⟨p + u.length + v.length, groups⟩).isSome ↔ Q (u ++ v)) := by
  intro v hv shown' groups
  have whole := h (u ++ v) (Language.append_mem_mul hu hv)
    (Subject.shows_append.mpr ⟨shown, shown'⟩) groups
  rwa [List.length_append, ← Nat.add_assoc] at whole

/-- One behind the other, with the second as the continuation of the first. -/
theorem finds_mul (hm : s.Finds way L) (ho : s.Finds other M) :
    s.Finds (fun spot next => way spot fun spot' => other spot' next) (L * M) := by
  intro spot next Q h
  rw [Subject.exists_mem_mul]
  exact hm spot _ _ fun u hu shown groups => ho ⟨_, groups⟩ next _ (behind_of_mul h hu shown)

theorem finds_add (hm : s.Finds way L) (ho : s.Finds other M) :
    s.Finds (fun spot next =>
      match way spot next with
      | some found => some found
      | none => other spot next) (L + M) := by
  intro spot next Q h
  have left := hm spot next Q fun w hw => h w (.inl hw)
  have right := ho spot next Q fun w hw => h w (.inr hw)
  have either : (match way spot next with
      | some found => some found
      | none => other spot next).isSome ↔
        (way spot next).isSome ∨ (other spot next).isSome := by
    cases way spot next <;> simp
  rw [either, left, right]
  simp only [Language.mem_add, or_and_right, exists_or]

theorem finds_noted (hm : s.Finds way L) (note : Spot → Spot → List (Option (Nat × Nat))) :
    s.Finds (fun spot next => way spot fun spot' => next { spot' with groups := note spot spot' })
      L :=
  fun spot _ Q h => hm spot _ Q fun w hw shown _ => h w hw shown _

theorem isSome_tried (greedy : Bool) (a b : Option Spot) :
    (if greedy = true then (match a with | some found => some found | none => b)
      else (match b with | some found => some found | none => a)).isSome ↔ a.isSome ∨ b.isSome := by
  cases greedy <;> cases a <;> cases b <;> simp

/-- Rounds find the words of a repetition if there is fuel for what is asked for and for a round
at every code behind. -/
theorem finds_rounds (hm : s.Finds way L) {greedy : Bool} {first count : Nat}
    {next : Spot → Option Spot} (fuel : Nat) :
    ∀ (least : Nat) (most : Option Nat) (spot : Spot) (Q : List Nat → Prop),
      least + (s.codes.size - spot.position) < fuel → (∀ m, most = some m → least ≤ m) →
      (∀ w ∈ between L least most, s.Shows spot.position w → ∀ groups,
        ((next ⟨spot.position + w.length, groups⟩).isSome ↔ Q w)) →
      ((rounds way greedy first count next fuel least most spot).isSome ↔
        ∃ w ∈ between L least most, s.Shows spot.position w ∧ Q w) := by
  induction fuel with
  | zero => intro least most spot Q enough; exact absurd enough (Nat.not_lt_zero _)
  | succ fuel ih =>
    intro least most spot Q enough le h
    rw [rounds]
    by_cases ended : most = some 0
    · obtain rfl : least = 0 := Nat.le_zero.mp (le 0 ended)
      rw [ended, between_zero] at h ⊢
      simpa using finds_one spot next Q h
    rw [if_neg ended]
    have le' : ∀ m, most.map (· - 1) = some m → least - 1 ≤ m := by
      intro m hm
      obtain ⟨most', rfl, rfl⟩ := Option.map_eq_some_iff.mp hm
      have := le most' rfl
      omega
    by_cases free : least = 0
    · subst free
      rw [between_of_free ended] at h ⊢
      have stop : (next spot).isSome ↔ Q [] := h [] (.inl rfl) (Subject.shows_nil _) spot.groups
      have words : (∃ w ∈ 1 + (L - 1) * between L 0 (most.map (· - 1)),
          s.Shows spot.position w ∧ Q w) ↔
          (∃ u ∈ L, s.Shows spot.position u ∧ (u ≠ [] ∧ ∃ v ∈ between L 0 (most.map (· - 1)),
            s.Shows (spot.position + u.length) v ∧ Q (u ++ v))) ∨ Q [] := by
        simp only [Language.mem_add, or_and_right, exists_or, Subject.exists_mem_mul,
          Language.mem_sub, Language.mem_one]
        grind [Subject.shows_nil]
      rw [words, ← stop]
      rw [if_neg (not_not_intro rfl)]
      refine (isSome_tried greedy _ _).trans (or_congr_left ?_)
      refine hm _ _ _ fun u hu shown groups => ?_
      -- Behind a round that moves the induction takes over; one that does not move fails.
      by_cases moves : u = []
      · simp [moves]
      have pos := List.length_pos_iff.mpr moves
      have room : u.length ≤ s.codes.size - spot.position := Subject.size_of_shows shown
      have moved : ¬ (0 = 0 ∧ spot.position + u.length = spot.position) := by omega
      rw [if_neg moved]
      refine (ih 0 _ ⟨spot.position + u.length, groups⟩ _ (by simp only; omega) le' ?_).trans
        (and_iff_right moves).symm
      exact behind_of_mul (fun w hw => h w (.inr hw)) ⟨hu, moves⟩ shown
    · simp only [ne_eq, free, not_false_eq_true, ↓reduceIte, false_and]
      rw [between_of_least free le] at h ⊢
      rw [Subject.exists_mem_mul]
      exact hm _ _ _ fun u hu shown groups =>
        ih _ _ ⟨_, groups⟩ _ (by simp only; omega) le' (behind_of_mul h hu shown)

end

namespace Term

/-- A term that asks only for codes: no mark of a position, no reference to a group, no look
around. -/
def Plain : Term → Prop
  | .empty | .code _ | .anyCode | .oneOf _ _ => True
  | .group _ body => body.Plain
  | .repeated body least most _ _ _ => body.Plain ∧ ∀ m, most = some m → least ≤ m
  | .andThen a b | .orElse a b => a.Plain ∧ b.Plain
  | _ => False

/-- The words that a plain term stands for. -/
def language (s : Subject) : Term → Language Nat
  | .empty => 1
  | .code value => single fun c => s.folded c == s.folded value
  | .anyCode => single fun c => s.flags.dotAll || !Subject.isLineEnd c
  | .oneOf negated items => single (s.accepts negated items)
  | .group _ body => body.language s
  | .repeated body least most _ _ _ => between (body.language s) least most
  | .andThen a b => a.language s * b.language s
  | .orElse a b => a.language s + b.language s
  | _ => 0

/-- Matching a plain term finds its words, however it goes through them. -/
theorem finds (s : Subject) (t : Term) (plain : t.Plain) :
    s.Finds (t.run s false) (t.language s) := by
  induction t with
  | empty => exact finds_one
  | code value => exact finds_step _
  | anyCode => exact finds_step _
  | oneOf negated items => exact finds_step _
  | group number body ih => exact finds_noted (ih plain) _
  | repeated body least most greedy first count ih =>
    intro spot next Q h
    exact finds_rounds (ih plain.1) _ least most spot Q (by omega) plain.2 h
  | andThen a b ha hb =>
    have both : s.Finds (fun spot next => a.run s false spot fun spot' => b.run s false spot' next)
        (a.language s * b.language s) := finds_mul (ha plain.1) (hb plain.2)
    exact both
  | orElse a b ha hb => exact finds_add (ha plain.1) (hb plain.2)
  | _ => exact plain.elim

/-- Terms one behind the other. -/
def row (terms : List Term) : Term := terms.foldr .andThen .empty

theorem run_row_append (s : Subject) (terms others : List Term) (spot : Spot)
    (next : Spot → Option Spot) :
    (row (terms ++ others)).run s false spot next =
      (row terms).run s false spot fun spot' => (row others).run s false spot' next := by
  induction terms generalizing spot with
  | nil => rfl
  | cons t terms ih => exact congrArg (t.run s false spot) (funext fun spot' => ih spot')

/-- The words depend on the switches of a subject, not on its text. -/
theorem language_congr (s s' : Subject) (same : s.flags = s'.flags) (t : Term) :
    t.language s = t.language s' := by
  obtain ⟨codes, flags⟩ := s
  obtain ⟨codes', flags'⟩ := s'
  obtain rfl : flags = flags' := same
  induction t with
  | code value => rfl
  | oneOf negated items => rfl
  | group number body ih => exact ih
  | repeated body least most greedy first count ih => simp only [language, ih]
  | andThen a b ha hb => simp only [language, ha, hb]
  | orElse a b ha hb => simp only [language, ha, hb]
  | _ => rfl

/-- The words of a term in a pattern without flags. -/
def words (t : Term) : Language Nat := t.language ⟨#[], {}⟩

theorem words_row (terms : List Term) : (row terms).words = (terms.map words).prod := by
  induction terms with
  | nil => rfl
  | cons t terms ih => exact congrArg (t.words * ·) ih

end Term

section

variable {s : Subject} {terms : List Term}

/-- The start of a text stands at no later position. -/
theorem firstMatch_eq_none_of_lineStart (flags : s.flags = {}) (groups tries : Nat) :
    ∀ start, start ≠ 0 → firstMatch s (Term.row (.lineStart :: terms)) groups tries start = none := by
  induction tries with
  | zero => intro start _; rfl
  | succ tries ih =>
    intro start later
    have fails : (Term.row (.lineStart :: terms)).run s false
        ⟨start, List.replicate groups none⟩ some = none := by
      simp [Term.row, Term.run, later, flags]
    simp only [firstMatch, fails, ih (start + 1) (Nat.succ_ne_zero start), ite_self]

/-- Between the marks of start and end a plain row matches its words as whole texts. -/
theorem firstMatch_isSome_iff (flags : s.flags = {}) (plain : (Term.row terms).Plain)
    (groups tries : Nat) :
    (firstMatch s (Term.row (.lineStart :: (terms ++ [.lineEnd]))) groups (tries + 1) 0).isSome ↔
      s.codes.toList ∈ (Term.row terms).language s := by
  have atStart : (Term.row (.lineStart :: (terms ++ [.lineEnd]))).run s false
      ⟨0, List.replicate groups none⟩ some =
      (Term.row terms).run s false ⟨0, List.replicate groups none⟩ fun spot =>
        (Term.row [.lineEnd]).run s false spot some := by
    rw [← Term.run_row_append]
    simp [Term.row, Term.run]
  have found := (Term.row terms).finds s plain ⟨0, List.replicate groups none⟩
    (fun spot => (Term.row [.lineEnd]).run s false spot some) (fun w => w.length = s.codes.size)
    (by intro w _ _ groups; simp [Term.row, Term.run, flags, Option.isSome_ite])
  have whole : (∃ w ∈ (Term.row terms).language s, s.Shows 0 w ∧ w.length = s.codes.size) ↔
      s.codes.toList ∈ (Term.row terms).language s := by
    constructor
    · rintro ⟨w, hw, shown, full⟩
      have same : w = s.codes.toList := by simpa using shown.eq_of_length (by simpa using full)
      rwa [← same]
    · intro hw
      exact ⟨_, hw, by simp [Subject.Shows], by simp⟩
  rw [← whole, ← found, ← atStart]
  simp only [firstMatch, Nat.not_lt_zero, ↓reduceIte]
  cases run : (Term.row (.lineStart :: (terms ++ [.lineEnd]))).run s false
      ⟨0, List.replicate groups none⟩ some with
  | some spot => simp
  | none => simp [firstMatch_eq_none_of_lineStart flags groups tries 1 Nat.one_ne_zero]

/-- A pattern without flags between the marks of start and end accepts the words of what stands
there, and remembers nothing. -/
theorem test_anchored {p : Pattern} (flags : p.flags = {}) (plain : (Term.row terms).Plain)
    (term : p.term = Term.row (.lineStart :: (terms ++ [.lineEnd]))) (last : Nat) (text : String) :
    ((p.test last text).1 = true ↔ Text.units text ∈ (Term.row terms).words) ∧
      (p.test last text).2 = last := by
  have forgets : p.remembers = false := by simp [remembers, flags]
  simp only [test, forgets, Bool.false_eq_true, ↓reduceIte, and_true]
  rw [flags, term, firstMatch_isSome_iff rfl plain,
    Term.language_congr ⟨(codesOf ({} : Flags).unicode text).toArray, {}⟩ ⟨#[], {}⟩ rfl]
  simp [codesOf, Term.words]

end

end Pattern

end ShapedTree
