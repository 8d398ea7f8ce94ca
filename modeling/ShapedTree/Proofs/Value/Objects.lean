import Mathlib.Data.Finite.Prod
import Mathlib.Data.Fintype.Card
import Mathlib.Logic.Relation
import ShapedTree.Ancestors
import ShapedTree.Proofs.Lists
import ShapedTree.Proofs.Run.Observation
import ShapedTree.Proofs.Value.PlainData

namespace ShapedTree

variable {n : Nat}

/-- What is handed in: a value without parts, or one of `n` objects. -/
inductive Item (n : Nat) where
  | primitive (v : Value) (flat : v.isObject = false)
  | object (place : Fin n)

/-- At an index of a list, no item is there. -/
def Item.isHole : Item n → Bool
  | .primitive v _ => v.isHole
  | .object _ => false

/-- What an object holds. A list has an item or a hole at every index, a record has every key
once. -/
inductive Object (n : Nat) where
  | list (items : List (Item n))
  | record (entries : Entries (Item n)) (distinct : (entries.map Prod.fst).Nodup) (plain : Bool)
  | exotic (made : ObjectClass)
  | node (node : Node)

namespace Object

/-- The items that an object refers to. -/
def parts : Object n → List (Item n)
  | .list items => items
  | .record entries _ _ => entries.map Prod.snd
  | .exotic _ | .node _ => []

/-- The value of an object, from the values of its parts. -/
def assemble : Object n → List Value → Value
  | .list _, vs => .list vs
  | .record entries _ plain, vs => .record ((entries.map Prod.fst).zip vs) plain
  | .exotic made, _ => .exotic made
  | .node m, _ => .node m

end Object

/-- The objects, each at its place. -/
abbrev Heap (n : Nat) := Fin n → Object n

namespace Heap

variable {h : Heap n} {i : Item n} {p q : Fin n} {v : Value}

/-- The entries of a record with their keys in the order of units. -/
def ascending (entries : Entries (Item n)) : Entries (Item n) :=
  entries.mergeSort fun a b => Text.unitsLE a.1 b.1

theorem ascending_perm (entries : Entries (Item n)) : (ascending entries).Perm entries :=
  List.mergeSort_perm _ _

/-- A computation that marks objects. -/
abbrev Walk (n : Nat) (α : Type) := Computation (Finset (Fin n)) α

/-- An object is marked while something is done inside of it, whatever that comes to. -/
def visiting {α : Type} (p : Fin n) (x : Walk n α) : Walk n α := fun seen =>
  let (r, left) := x (insert p seen)
  (r, left.erase p)

/-- The copies of items, one after another, as long as there are copies. What is missing has none. -/
def copyEach (copy : Item n → Walk n (Option Value)) :
    List (Item n) → Walk n (Option (List Value))
  | [] => return some []
  | i :: is => do
    match ← copy i with
    | none => return none
    | some c => return (← copyEach copy is).map (c :: ·)

/-- The copy of an object. The keys of a record are put in order first, and their copies are inserted
in this order. -/
def copyObject (copy : Item n → Walk n (Option Value)) : Object n → Walk n (Option Value)
  | .list items => return (← copyEach copy items).map .list
  | .record entries _ _ => do
    let keys := (ascending entries).map Prod.fst
    let copies ← copyEach copy ((ascending entries).map Prod.snd)
    return copies.map fun cs => .record (Record.ofList (keys.zip cs)) true
  | .exotic _ | .node _ => return none

/-- The copy of an item, going down a number of levels. A marked object has none. -/
def copyingAt (h : Heap n) : Nat → Item n → Walk n (Option Value)
  | _, .primitive v _ => return v.jsonCopy?
  | levels, .object p => do
    let seen ← get
    if p ∈ seen then return none
    else
      match levels with
      | 0 => throw .overflow
      | levels + 1 => visiting p (copyObject (copyingAt h levels) (h p))

/-- All items pass the test; the first one that does not ends it. -/
def every (judge : Item n → Except Fault Bool) : List (Item n) → Except Fault Bool
  | [] => return true
  | i :: is => do
    if ← judge i then every judge is else return false

/-- The test of an object. The items that a list misses are passed over. -/
def judgeObject (judge : Item n → Except Fault Bool) : Object n → Except Fault Bool
  | .list items => every judge (items.filter fun i => !i.isHole)
  | .record entries _ _ => every judge (entries.map Prod.snd)
  | .exotic _ | .node _ => return false

/-- The test of an item, going down a number of levels. Nothing is marked. -/
def judgingAt (h : Heap n) : Nat → Item n → Except Fault Bool
  | _, .primitive v _ => return v.isJson
  | 0, .object _ => throw .overflow
  | levels + 1, .object p => judgeObject (judgingAt h levels) (h p)

/-- An item is the finite value, with every object that comes again written out again. -/
inductive Unfolds (h : Heap n) : Item n → Value → Prop
  | primitive {v : Value} (flat : v.isObject = false) : Unfolds h (.primitive v flat) v
  | object {p : Fin n} {vs : List Value} (length : (h p).parts.length = vs.length)
      (each : ∀ j v, (j, v) ∈ (h p).parts.zip vs → Unfolds h j v) :
      Unfolds h (.object p) ((h p).assemble vs)

/-- One object is a part of another one. -/
def Holds (h : Heap n) (p q : Fin n) : Prop := .object q ∈ (h p).parts

/-- An object lies somewhere in an item. -/
def Reaches (h : Heap n) : Item n → Fin n → Prop
  | .primitive _ _, _ => False
  | .object p, q => Relation.ReflTransGen (Holds h) p q

/-- No object in the item lies in itself. -/
def Acyclic (h : Heap n) (i : Item n) : Prop :=
  ∀ q, Reaches h i q → ¬ Relation.TransGen (Holds h) q q

/-- A list somewhere in an item misses an item of its own. -/
def Gapped (h : Heap n) (i : Item n) : Prop :=
  ∃ p, Reaches h i p ∧ ∃ items, h p = .list items ∧ ∃ j ∈ items, j.isHole = true

theorem Reaches.step (reach : Reaches h i p) (part : Holds h p q) : Reaches h i q := by
  cases i with
  | primitive => exact reach
  | object => exact reach.tail part

theorem transGen_of_part {j : Item n} (part : j ∈ (h p).parts) (reach : Reaches h j q) :
    Relation.TransGen (Holds h) p q := by
  cases j with
  | primitive => exact reach.elim
  | object => exact .head' part reach

theorem acyclic_of_parts (parts : ∀ j ∈ (h p).parts, Acyclic h j) : Acyclic h (.object p) := by
  intro q reach cycle
  have inside : Relation.TransGen (Holds h) p q := by
    rcases Relation.reflTransGen_iff_eq_or_transGen.mp reach with rfl | below
    · exact cycle
    · exact below
  obtain ⟨r, part, reach⟩ := Relation.TransGen.head'_iff.mp inside
  exact parts (.object r) part q reach cycle

theorem Unfolds.acyclic (unfolds : Unfolds h i v) : Acyclic h i := by
  induction unfolds with
  | primitive => exact fun q reach => reach.elim
  | object length each ih =>
    refine acyclic_of_parts fun j hj => ?_
    rw [← List.map_fst_zip length.le] at hj
    obtain ⟨⟨j, v⟩, pair, rfl⟩ := List.mem_map.mp hj
    exact ih j v pair

theorem Unfolds.isHole_eq (unfolds : Unfolds h i v) : i.isHole = v.isHole := by
  cases unfolds with
  | primitive => rfl
  | @object p => cases shape : h p <;> rfl

theorem gapped_object_iff : Gapped h (.object p) ↔
    (∃ items, h p = .list items ∧ ∃ j ∈ items, j.isHole = true) ∨
      ∃ j ∈ (h p).parts, Gapped h j := by
  constructor
  · rintro ⟨q, reach, gap⟩
    rcases Relation.ReflTransGen.cases_head reach with rfl | ⟨r, part, rest⟩
    · exact .inl gap
    · exact .inr ⟨.object r, part, q, rest, gap⟩
  · rintro (gap | ⟨j, part, q, reach, gap⟩)
    · exact ⟨p, .refl, gap⟩
    · exact ⟨q, (transGen_of_part part reach).to_reflTransGen, gap⟩

theorem assemble_gap_iff {o : Object n} {vs : List Value}
    (each : List.Forall₂ (fun j v => j.isHole = v.isHole) o.parts vs) :
    (o.assemble vs).Gap ↔
      (∃ items, o = .list items ∧ ∃ j ∈ items, j.isHole = true) ∨ ∃ v ∈ vs, v.Gap := by
  cases o with
  | list items =>
    have missing : .hole ∈ vs ↔ ∃ j ∈ items, j.isHole = true := by
      constructor
      · intro mem
        obtain ⟨j, hj, same⟩ := exists_left_of_mem each _ mem
        exact ⟨j, hj, same⟩
      · rintro ⟨j, hj, hole⟩
        obtain ⟨v, hv, same⟩ := exists_left_of_mem each.flip j hj
        cases Value.isHole_iff.mp (same.symm.trans hole)
        exact hv
    simp [Object.assemble, Value.gap_list_iff, missing]
  | record entries distinct plain =>
    have length : vs.length ≤ (entries.map Prod.fst).length := by
      rw [← each.length_eq, Object.parts, List.length_map, List.length_map]
    have values : (∃ e ∈ (entries.map Prod.fst).zip vs, e.2.Gap) ↔ ∃ v ∈ vs, v.Gap := by
      conv_rhs => rw [← List.map_snd_zip length]
      simp only [List.mem_map, exists_exists_and_eq_and]
    simpa [Object.assemble, Value.gap_record_iff] using values
  | exotic | node =>
    cases each
    simp only [Object.assemble, reduceCtorEq, false_and, List.not_mem_nil, exists_false, or_self,
      iff_false]
    exact nofun

/-- A value misses items where the lists that it unfolds do. -/
theorem Unfolds.gap_iff (unfolds : Unfolds h i v) : v.Gap ↔ Gapped h i := by
  induction unfolds with
  | primitive flat =>
    refine ⟨fun gap => ?_, fun ⟨_, reach, _⟩ => reach.elim⟩
    cases gap <;> cases flat
  | @object p vs length each ih =>
    have alike : List.Forall₂ (fun j v => j.isHole = v.isHole ∧ (v.Gap ↔ Gapped h j)) (h p).parts
        vs := List.forall₂_iff_zip.mpr
      ⟨length, fun pair => ⟨(each _ _ pair).isHole_eq, ih _ _ pair⟩⟩
    rw [assemble_gap_iff (alike.imp fun _ _ => And.left), gapped_object_iff]
    refine or_congr_right ⟨?_, ?_⟩
    · rintro ⟨v, hv, gap⟩
      obtain ⟨j, hj, -, same⟩ := exists_left_of_mem alike v hv
      exact ⟨j, hj, same.mp gap⟩
    · rintro ⟨j, hj, gap⟩
      obtain ⟨v, hv, -, same⟩ := exists_left_of_mem alike.flip j hj
      exact ⟨v, hv, same.mpr gap⟩

theorem exists_unfolding_of_parts (parts : ∀ j ∈ (h p).parts, ∃ v, Unfolds h j v) :
    ∃ v, Unfolds h (.object p) v := by
  obtain ⟨vs, alike⟩ := exists_forall₂ parts
  obtain ⟨length, each⟩ := List.forall₂_iff_zip.mp alike
  exact ⟨_, .object length fun _ _ => each⟩

/-- What does not hold itself anywhere can be written out. -/
theorem exists_unfolding (acyclic : Acyclic h i) : ∃ v, Unfolds h i v := by
  -- Of finitely many objects none of which lies in itself, the parts come first.
  let Below : {q // Reaches h i q} → {q // Reaches h i q} → Prop := fun a b =>
    Relation.TransGen (Holds h) b.1 a.1
  have transitive : IsTrans _ Below := ⟨fun _ _ _ lower upper => upper.trans lower⟩
  have irreflexive : Std.Irrefl Below := ⟨fun a => acyclic a.1 a.2⟩
  have founded : WellFounded Below := Finite.wellFounded_of_trans_of_irrefl Below
  have objects : ∀ q : {q // Reaches h i q}, ∃ v, Unfolds h (.object q.1) v := by
    intro q
    induction q using founded.induction with
    | _ q ih =>
      refine exists_unfolding_of_parts fun j part => ?_
      cases j with
      | primitive v flat => exact ⟨v, .primitive flat⟩
      | object r => exact ih ⟨r, q.2.step part⟩ (.single part)
  cases i with
  | primitive v flat => exact ⟨v, .primitive flat⟩
  | object p => exact objects ⟨p, .refl⟩

theorem acyclic_iff : Acyclic h i ↔ ∃ v, Unfolds h i v :=
  ⟨exists_unfolding, fun ⟨_, unfolds⟩ => unfolds.acyclic⟩

section Walk

variable {copy : Item n → Walk n (Option Value)} {judge : Item n → Except Fault Bool}
  {seen : Finset (Fin n)} {is : List (Item n)} {vs : List Value} {o : Object n}

theorem visiting_apply {α : Type} {x : Walk n α} {r : Except Fault α} (new : p ∉ seen)
    (run : x (insert p seen) = (r, insert p seen)) : visiting p x seen = (r, seen) := by
  simp only [visiting, run, Finset.erase_insert new]

/-- If every copy comes to an end and leaves the marks, so do the copies one after another. -/
theorem copyEach_ends {P : Item n → Prop}
    (each : ∀ i ∈ is, ∃ r, copy i seen = (.ok r, seen) ∧ (r.isSome = true → P i)) :
    ∃ r, copyEach copy is seen = (.ok r, seen) ∧ (r.isSome = true → ∀ i ∈ is, P i) := by
  induction is with
  | nil => exact ⟨some [], rfl, by simp⟩
  | cons i is ih =>
    obtain ⟨⟨first, run, holds⟩, rest⟩ := List.forall_mem_cons.mp each
    obtain ⟨others, runs, hold⟩ := ih rest
    rw [copyEach, Computation.bind_apply, run]
    cases first with
    | none => exact ⟨none, rfl, by simp⟩
    | some c =>
      refine ⟨others.map (c :: ·), ?_, fun all => ?_⟩
      · simp only [Computation.bind_apply, runs]
        rfl
      · rw [Option.isSome_map] at all
        exact List.forall_mem_cons.mpr ⟨holds rfl, hold all⟩

theorem map_apply {α β : Type} {x : Walk n (Option α)} {r : Option α} (f : α → β)
    (run : x seen = (.ok r, seen)) :
    (x >>= fun r => pure (r.map f)) seen = (.ok (r.map f), seen) := by
  rw [Computation.bind_apply, run]
  rfl

theorem copyObject_ends {P : Item n → Prop}
    (each : ∀ j ∈ o.parts, ∃ r, copy j seen = (.ok r, seen) ∧ (r.isSome = true → P j)) :
    ∃ r, copyObject copy o seen = (.ok r, seen) ∧ (r.isSome = true → ∀ j ∈ o.parts, P j) := by
  cases o with
  | list items =>
    obtain ⟨r, run, hold⟩ := copyEach_ends each
    exact ⟨_, map_apply _ run, by rwa [Option.isSome_map]⟩
  | record entries distinct plain =>
    have perm : ((ascending entries).map Prod.snd).Perm (entries.map Prod.snd) :=
      (ascending_perm entries).map Prod.snd
    obtain ⟨r, run, hold⟩ := copyEach_ends fun j hj => each j (perm.mem_iff.mp hj)
    refine ⟨_, map_apply _ run, fun copied j hj => ?_⟩
    rw [Option.isSome_map] at copied
    exact hold copied j (perm.mem_iff.mpr hj)
  | exotic | node => exact ⟨none, rfl, by simp⟩

theorem copyEach_eq
    (each : List.Forall₂ (fun i v => copy i seen = (.ok v.jsonCopy?, seen)) is vs) :
    copyEach copy is seen = (.ok (Value.copyItems? vs), seen) := by
  induction each with
  | nil => rfl
  | @cons i v is vs run _ ih =>
    rw [copyEach, Computation.bind_apply, run, Value.copyItems?]
    cases v.jsonCopy? with
    | none => rfl
    | some c =>
      simp only [Computation.bind_apply, ih]
      rfl

/-- Copies of the parts make the copy of the whole. -/
theorem copyObject_eq
    (each : List.Forall₂ (fun j v => copy j seen = (.ok v.jsonCopy?, seen)) o.parts vs) :
    copyObject copy o seen = (.ok (o.assemble vs).jsonCopy?, seen) := by
  cases o with
  | list items => exact map_apply _ (copyEach_eq each)
  | record entries distinct plain =>
    have length : (entries.map Prod.fst).length ≤ vs.length := by
      rw [← each.length_eq, Object.parts, List.length_map, List.length_map]
    have distinct : (((entries.map Prod.fst).zip vs).map Prod.fst).Nodup := by
      rwa [List.map_fst_zip length]
    obtain ⟨fs, alike, perm⟩ := List.perm_comp_forall₂ (ascending_perm entries) (forall₂_zip_keys each)
    have keys : (ascending entries).map Prod.fst = fs.map Prod.fst :=
      Entries.keys_eq_of_forall₂ alike
    have copies : copyEach copy ((ascending entries).map Prod.snd) seen =
        (.ok (Value.copyItems? (fs.map Prod.snd)), seen) :=
      copyEach_eq (List.forall₂_map_left_iff.mpr
        (List.forall₂_map_right_iff.mpr (alike.imp fun _ _ pair => pair.2)))
    have sorted : (fs.map Prod.fst).Pairwise fun a b => Text.unitsLE a b = true := by
      rw [← keys]
      exact Record.ascending_mergeSort_units entries
    rw [Object.assemble, Value.jsonCopy?_perm distinct perm.symm, Value.jsonCopy?_ascending sorted,
      ← keys]
    exact map_apply _ copies
  | exotic | node => rfl

theorem every_filter_eq
    (each : List.Forall₂ (fun i v => judge i = .ok v.isJson ∧ i.isHole = v.isHole) is vs) :
    every judge (is.filter fun i => !i.isHole) = .ok (Value.areJson vs) := by
  induction each with
  | nil => rfl
  | @cons i v is vs first _ ih =>
    obtain ⟨run, same⟩ := first
    rw [List.filter_cons, same, Value.areJson]
    cases v.isHole with
    | true => exact ih
    | false =>
      simp only [Bool.not_false, if_true, Bool.false_or, every, run]
      cases v.isJson with
      | false => rfl
      | true => exact ih

theorem every_entries_eq {entries : Entries (Item n)}
    (each : List.Forall₂ (fun i v => judge i = .ok v.isJson) (entries.map Prod.snd) vs) :
    every judge (entries.map Prod.snd) =
      .ok (Value.haveJson ((entries.map Prod.fst).zip vs)) := by
  induction entries generalizing vs with
  | nil => rfl
  | cons e entries ih =>
    cases each with
    | @cons _ v _ vs run rest =>
      simp only [List.map_cons, List.zip_cons_cons, Value.haveJson, every, run]
      cases v.isJson with
      | false => rfl
      | true => exact ih rest

theorem judgeObject_eq
    (each : List.Forall₂ (fun j v => judge j = .ok v.isJson ∧ j.isHole = v.isHole) o.parts vs) :
    judgeObject judge o = .ok (o.assemble vs).isJson := by
  cases o with
  | list items => exact every_filter_eq each
  | record entries distinct plain => exact every_entries_eq (each.imp fun _ _ => And.left)
  | exotic | node => rfl

end Walk

/-- There are never more marks than objects, so that the copy of an object always comes to an end.
The marks are as they were, and only what can be written out has a copy. -/
theorem copyingAt_ends (h : Heap n) (levels : Nat) (i : Item n) (seen : Finset (Fin n))
    (enough : n < levels + seen.card) :
    ∃ r, copyingAt h levels i seen = (.ok r, seen) ∧
      (r.isSome = true → ∃ v, Unfolds h i v) := by
  induction levels generalizing i seen with
  | zero =>
    have := card_finset_fin_le seen
    omega
  | succ levels ih =>
    cases i with
    | primitive v flat => exact ⟨v.jsonCopy?, rfl, fun _ => ⟨v, .primitive flat⟩⟩
    | object p =>
      by_cases marked : p ∈ seen
      · refine ⟨none, ?_, by simp⟩
        simp only [copyingAt, Computation.get_bind_apply, if_pos marked]
        rfl
      · have enough : n < levels + (insert p seen).card := by
          rw [Finset.card_insert_of_notMem marked]
          omega
        obtain ⟨r, run, unfold⟩ := copyObject_ends fun j (_ : j ∈ (h p).parts) =>
          ih j (insert p seen) enough
        refine ⟨r, ?_, fun some => exists_unfolding_of_parts (unfold some)⟩
        simp only [copyingAt, Computation.get_bind_apply, if_neg marked]
        exact visiting_apply marked run

/-- On what can be written out, as long as nothing in it is marked, the copy and the test do what
they do on the finite value. -/
theorem Unfolds.walks (unfolds : Unfolds h i v) (levels : Nat) (seen : Finset (Fin n))
    (enough : n < levels + seen.card) (new : ∀ q, Reaches h i q → q ∉ seen) :
    copyingAt h levels i seen = (.ok v.jsonCopy?, seen) ∧ judgingAt h levels i = .ok v.isJson := by
  induction unfolds generalizing levels seen with
  | primitive => cases levels <;> exact ⟨rfl, rfl⟩
  | @object p vs length each ih =>
    have apart : ¬ Relation.TransGen (Holds h) p p :=
      (Unfolds.object length each).acyclic p .refl
    have fresh : p ∉ seen := new p .refl
    cases levels with
    | zero =>
      have := card_finset_fin_le seen
      omega
    | succ levels =>
      have enough : n < levels + (insert p seen).card := by
        rw [Finset.card_insert_of_notMem fresh]
        omega
      have parts : ∀ j v, (j, v) ∈ (h p).parts.zip vs →
          copyingAt h levels j (insert p seen) = (.ok v.jsonCopy?, insert p seen) ∧
            judgingAt h levels j = .ok v.isJson := by
        intro j v pair
        refine ih j v pair levels _ enough fun q reach marked => ?_
        have inside := transGen_of_part (List.of_mem_zip pair).1 reach
        rcases Finset.mem_insert.mp marked with rfl | marked
        · exact apart inside
        · exact new q inside.to_reflTransGen marked
      constructor
      · simp only [copyingAt, Computation.get_bind_apply, if_neg fresh]
        refine visiting_apply fresh (copyObject_eq ?_)
        exact List.forall₂_iff_zip.mpr ⟨length, fun pair => (parts _ _ pair).1⟩
      · exact judgeObject_eq (List.forall₂_iff_zip.mpr
          ⟨length, fun pair => ⟨(parts _ _ pair).2, (each _ _ pair).isHole_eq⟩⟩)

/-- Exactly plain data has a copy, which is what the test lets pass but for the items that lists
miss, and the copy is one that is its own copy. On the objects of any heap the copy comes to an end
without marks left behind; it is there exactly if the item can be written out as plain data, and it
is the copy of the value written out. On an item without cycles the test comes to an end too, and
there is a copy exactly if it passes and no list misses an item. -/
theorem plain_data_copied (v : Value) {n : Nat} (h : Heap n) (i : Item n) (levels : Nat)
    (enough : n < levels) :
    ((v.jsonCopy?.isSome = true ↔ v.PlainData) ∧
      (v.jsonCopy?.isSome = true ↔ v.isJson = true ∧ ¬ v.Gap) ∧
      ∀ c, v.jsonCopy? = some c → v.CopyOf c ∧ c.jsonCopy? = some c) ∧
    ∃ r, copyingAt h levels i ∅ = (.ok r, ∅) ∧
      (r.isSome = true ↔ ∃ w, Unfolds h i w ∧ w.PlainData) ∧
      (∀ w, Unfolds h i w → r = w.jsonCopy?) ∧
      (Acyclic h i → ∃ passes, judgingAt h levels i = .ok passes ∧
        (r.isSome = true ↔ passes = true ∧ ¬ Gapped h i)) := by
  refine ⟨⟨Value.isSome_jsonCopy?_iff, Value.isSome_jsonCopy?_iff.trans Value.plainData_iff,
    fun c => Value.jsonCopy?_faithful⟩, ?_⟩
  have enough : n < levels + (∅ : Finset (Fin n)).card := Nat.lt_add_right 0 enough
  have walks : ∀ v, Unfolds h i v →
      copyingAt h levels i ∅ = (.ok v.jsonCopy?, ∅) ∧ judgingAt h levels i = .ok v.isJson :=
    fun v unfolds => unfolds.walks levels ∅ enough fun _ _ => Finset.notMem_empty _
  obtain ⟨r, run, unfolding⟩ := copyingAt_ends h levels i ∅ enough
  have same : ∀ v, Unfolds h i v → r = v.jsonCopy? := fun v unfolds =>
    Except.ok.inj (Prod.mk.inj (run.symm.trans (walks v unfolds).1)).1
  refine ⟨r, run, ⟨fun copied => ?_, ?_⟩, same, fun acyclic => ?_⟩
  · obtain ⟨v, unfolds⟩ := unfolding copied
    exact ⟨v, unfolds, Value.isSome_jsonCopy?_iff.mp (same v unfolds ▸ copied)⟩
  · rintro ⟨v, unfolds, data⟩
    rw [same v unfolds]
    exact Value.isSome_jsonCopy?_iff.mpr data
  · obtain ⟨v, unfolds⟩ := exists_unfolding acyclic
    refine ⟨v.isJson, (walks v unfolds).2, ?_⟩
    rw [same v unfolds, Value.isSome_jsonCopy?_iff, Value.plainData_iff, unfolds.gap_iff]

/-- A record that holds one list under two keys, a record that holds itself, and a list without an
item at its first index. -/
def shelf : Heap 4
  | 0 => .record [("b", .object 1), ("__proto__", .object 1)] (by decide) true
  | 1 => .list [.primitive .null rfl]
  | 2 => .record [("self", .object 2)] (by decide) true
  | 3 => .list [.primitive .hole rfl, .primitive (.number 1) rfl]

theorem shelf_copied :
    copyingAt shelf 5 (.object 0) ∅ =
      (.ok (some (.record [("__proto__", .list [.null]), ("b", .list [.null])] true)), ∅) ∧
    judgingAt shelf 5 (.object 0) = .ok true ∧ copyingAt shelf 5 (.object 2) ∅ = (.ok none, ∅) := by
  have list : Unfolds shelf (.object 1) (.list [.null]) := by
    refine @Unfolds.object _ shelf 1 [.null] rfl fun j v pair => ?_
    cases List.mem_singleton.mp pair
    exact .primitive rfl
  let tree : Value := .record [("b", .list [.null]), ("__proto__", .list [.null])] true
  have record : Unfolds shelf (.object 0) tree := by
    refine @Unfolds.object _ shelf 0 [.list [.null], .list [.null]] rfl fun j v pair => ?_
    rcases List.mem_pair.mp pair with same | same <;> cases same <;> exact list
  have copy : tree.jsonCopy? =
      some (.record [("__proto__", .list [.null]), ("b", .list [.null])] true) := by
    rw [Value.jsonCopy?_perm (by decide) (.swap _ _ []), Value.jsonCopy?_ascending (by decide)]
    rfl
  obtain ⟨r, run, -, same, tested⟩ := (plain_data_copied tree shelf (.object 0) 5 (by decide)).2
  obtain ⟨kept, run', written, -, -⟩ := (plain_data_copied tree shelf (.object 2) 5 (by decide)).2
  have cycle : Holds shelf 2 2 := List.mem_singleton.mpr rfl
  have refused : kept = none := by
    rw [← Option.not_isSome_iff_eq_none, written]
    rintro ⟨v, unfolds, -⟩
    exact unfolds.acyclic 2 .refl (.single cycle)
  obtain ⟨passes, judged, both⟩ := tested record.acyclic
  rw [same tree record, copy] at run both
  cases (both.mp rfl).1
  exact ⟨run, judged, refused ▸ run'⟩

/-- The test lets a list pass that misses an item: it has no copy, and a generator that stands in
for what is no plain data hands it on. -/
theorem gap_passes :
    Acyclic shelf (.object 3) ∧ Unfolds shelf (.object 3) (.list [.hole, .number 1]) ∧
    judgingAt shelf 5 (.object 3) = .ok true ∧ copyingAt shelf 5 (.object 3) ∅ = (.ok none, ∅) ∧
    Generator.fromKwarg "k" .null {
      stack := [], siblings := {}, field := "size"
      kwargs := { entries := [("k", .list [.hole, .number 1])] } } =
        .ok (.list [.hole, .number 1]) := by
  have list : Unfolds shelf (.object 3) (.list [.hole, .number 1]) := by
    refine @Unfolds.object _ shelf 3 [.hole, .number 1] rfl fun j v pair => ?_
    rcases List.mem_pair.mp pair with same | same <;> cases same <;> exact .primitive rfl
  exact ⟨list.acyclic, list, rfl, rfl, rfl⟩

end Heap

end ShapedTree
