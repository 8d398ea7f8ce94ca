import Mathlib.Data.List.Forall2
import Mathlib.Data.List.Perm.Basic
import ShapedTree.Proofs.Kind.Verdict
import ShapedTree.Proofs.Lists
import ShapedTree.Proofs.Record.Sorting
import ShapedTree.Proofs.Value.Copy

namespace ShapedTree

/-- The values differ in nothing but the order in which records, at any depth, list their keys. -/
inductive Value.Reordered : Value → Value → Prop
  | refl (v : Value) : Reordered v v
  | list {vs ws : List Value} (length : vs.length = ws.length)
      (items : ∀ (i : Nat) v w, vs[i]? = some v → ws[i]? = some w → Reordered v w) :
      Reordered (.list vs) (.list ws)
  | record {es fs : List (String × Value)} {plain : Bool} (distinct : (es.map Prod.fst).Nodup)
      (keys : (es.map Prod.fst).Perm (fs.map Prod.fst))
      (values : ∀ key v w, (key, v) ∈ es → (key, w) ∈ fs → Reordered v w) :
      Reordered (.record es plain) (.record fs plain)
  | node {schema : String} {es fs : List (String × Value)} {defaulted compactable : List String}
      {choiceType : Option String} (keys : es.map Prod.fst = fs.map Prod.fst)
      (values : ∀ (i : Nat) e f, es[i]? = some e → fs[i]? = some f → Reordered e.2 f.2) :
      Reordered (.node ⟨schema, es, defaulted, choiceType, compactable⟩)
        (.node ⟨schema, fs, defaulted, choiceType, compactable⟩)

namespace Entries

variable {α β : Type} {R : α → α → Prop} {es fs : Entries α}

/-- Entries under the same keys in any order, with related values. -/
def Matched (R : α → α → Prop) (es fs : Entries α) : Prop :=
  ∃ gs, List.Forall₂ (fun e g : String × α => e.1 = g.1 ∧ R e.2 g.2) es gs ∧ gs.Perm fs

theorem Matched.of_keys (distinct : (es.map Prod.fst).Nodup)
    (keys : (es.map Prod.fst).Perm (fs.map Prod.fst))
    (values : ∀ key v w, (key, v) ∈ es → (key, w) ∈ fs → R v w) : Matched R es fs := by
  have distinct' : (fs.map Prod.fst).Nodup := keys.nodup_iff.mp distinct
  let partner : String → α → α := fun key v => (fs.lookup key).getD v
  let gs : Entries α := es.map fun e => (e.1, partner e.1 e.2)
  have found : ∀ e ∈ es, (e.1, partner e.1 e.2) ∈ fs := by
    intro e he
    obtain ⟨f, hf, same⟩ := List.mem_map.mp (keys.mem_iff.mp (List.mem_map_of_mem he))
    have held : fs.lookup e.1 = some f.2 := same ▸ lookup_of_mem distinct' hf
    have chosen : partner e.1 e.2 = f.2 := by simp only [partner, held, Option.getD_some]
    rw [chosen, ← same]
    exact hf
  have names : gs.map Prod.fst = es.map Prod.fst := by simp [gs]
  refine ⟨gs, ?_, ?_⟩
  · refine List.forall₂_map_right_iff.mpr (List.forall₂_same.mpr fun e he => ⟨rfl, ?_⟩)
    exact values e.1 _ _ he (found e he)
  · have members : gs ⊆ fs := by
      intro g hg
      obtain ⟨e, he, rfl⟩ := List.mem_map.mp hg
      exact found e he
    refine (List.subperm_of_subset ?_ members).perm_of_length_le ?_
    · exact List.Nodup.of_map Prod.fst (names ▸ distinct)
    · have := keys.length_eq
      simp only [List.length_map] at this
      simp [gs, this]

theorem Matched.refl (refl : ∀ a, R a a) (es : Entries α) : Matched R es es :=
  ⟨es, List.forall₂_same.mpr fun e _ => ⟨rfl, refl e.2⟩, .refl es⟩

theorem Matched.of_keys_eq (keys : es.map Prod.fst = fs.map Prod.fst)
    (values : ∀ (i : Nat) e f, es[i]? = some e → fs[i]? = some f → R e.2 f.2) :
    Matched R es fs := by
  have length : es.length = fs.length := by simpa using congrArg List.length keys
  refine ⟨fs, forall₂_iff_getElem?.mpr ⟨length, fun i e f he hf => ⟨?_, values i e f he hf⟩⟩, .refl fs⟩
  have same : (es.map Prod.fst)[i]? = (fs.map Prod.fst)[i]? := by rw [keys]
  simpa [he, hf] using same

theorem Matched.exists_forall₂ (h : Matched R es fs) {P Q : String × α → β → Prop} {bs : List β}
    (all : List.Forall₂ P es bs)
    (imp : ∀ e f b, e.1 = f.1 → R e.2 f.2 → P e b → Q f b) :
    ∃ cs, List.Forall₂ Q fs cs ∧ cs.Perm bs := by
  obtain ⟨gs, alike, perm⟩ := h
  have matched : List.Forall₂ Q gs bs :=
    forall₂_transfer alike all fun e g b pair => imp e g b pair.1 pair.2
  exact List.perm_comp_forall₂ perm.symm matched

theorem keys_eq_of_forall₂ {gs : Entries β} {S : String × α → String × β → Prop}
    (h : List.Forall₂ (fun e g => e.1 = g.1 ∧ S e g) es gs) :
    es.map Prod.fst = gs.map Prod.fst := by
  rw [← List.forall₂_eq_eq_eq]
  exact List.forall₂_map_left_iff.mpr
    (List.forall₂_map_right_iff.mpr (h.imp fun _ _ pair => pair.1))

theorem Matched.keys_perm (h : Matched R es fs) : (es.map Prod.fst).Perm (fs.map Prod.fst) := by
  obtain ⟨gs, alike, perm⟩ := h
  rw [keys_eq_of_forall₂ alike]
  exact perm.map Prod.fst

/-- Entries under the same keys in any order, whose values differ in such orders only. -/
structure Reordered (es fs : Entries Value) : Prop where
  matched : Matched Value.Reordered es fs
  lookup : ∀ key, Option.Rel Value.Reordered (es.lookup key) (fs.lookup key)

theorem Reordered.of_keys {es fs : Entries Value} (distinct : (es.map Prod.fst).Nodup)
    (keys : (es.map Prod.fst).Perm (fs.map Prod.fst))
    (values : ∀ key v w, (key, v) ∈ es → (key, w) ∈ fs → Value.Reordered v w) :
    Reordered es fs where
  matched := .of_keys distinct keys values
  lookup key := by
    cases left : es.lookup key with
    | none =>
      have absent : fs.lookup key = none := by
        rw [lookup_eq_none_iff] at left ⊢
        exact fun hm => left (keys.mem_iff.mpr hm)
      rw [absent]
      exact .none
    | some v =>
      cases right : fs.lookup key with
      | none =>
        rw [lookup_eq_none_iff] at right
        exact absurd (keys.mem_iff.mp (List.mem_map_of_mem (mem_of_lookup left))) right
      | some w => exact .some (values key v w (mem_of_lookup left) (mem_of_lookup right))

theorem Reordered.refl (es : Entries Value) : Reordered es es where
  matched := .refl .refl es
  lookup _ := optionRel_refl .refl _

end Entries

namespace Value

variable {v w : Value}

namespace Reordered

theorem symm (h : v.Reordered w) : w.Reordered v := by
  induction h with
  | refl v => exact .refl v
  | list length items ih => exact .list length.symm fun i w v hw hv => ih i v w hv hw
  | record distinct keys values ih =>
    exact .record (keys.nodup_iff.mp distinct) keys.symm fun key w v hw hv => ih key v w hv hw
  | node keys values ih => exact .node keys.symm fun i f e hf he => ih i e f he hf

theorem isNull_eq (h : v.Reordered w) : v.isNull = w.isNull := by cases h <;> rfl

theorem isUndefined_eq (h : v.Reordered w) : v.isUndefined = w.isUndefined := by cases h <;> rfl

theorem isPrimitive_eq (h : v.Reordered w) : v.isPrimitive = w.isPrimitive := by cases h <;> rfl

theorem same_eq (h : v.Reordered w) (u : Value) : v.same u = w.same u := by cases h <;> rfl

theorem read (h : v.Reordered w) : v.read.Reordered w.read := by
  cases h with
  | refl => exact .refl _
  | list length items => exact .list length items
  | record distinct keys values => exact .record distinct keys values
  | node keys values => exact .node keys values

theorem items? (h : v.Reordered w) : Option.Rel (List.Forall₂ Reordered) v.items? w.items? := by
  cases h with
  | refl => exact optionRel_refl (fun _ => List.forall₂_same.mpr fun v _ => .refl v) _
  | list length items =>
    refine .some (List.forall₂_map_left_iff.mpr (List.forall₂_map_right_iff.mpr ?_))
    exact forall₂_iff_getElem?.mpr ⟨length, fun i v w hv hw => (items i v w hv hw).read⟩
  | record | node => exact .none

theorem entries? (h : v.Reordered w) : Option.Rel Entries.Reordered v.entries? w.entries? := by
  cases h with
  | refl => exact optionRel_refl .refl _
  | list => exact .none
  | record distinct keys values => exact .some (.of_keys distinct keys values)
  | node => exact .some (.refl _)

end Reordered

theorem sortEntries_perm {es fs : Entries Value} (distinct : (es.map Prod.fst).Nodup)
    (h : es.Perm fs) : sortEntries es = sortEntries fs := by
  simp only [sortEntries_eq]
  refine Record.sortBy_perm ?_ Text.unitsLE_total distinct ?_ h
  · exact fun _ _ _ => Text.unitsLE_trans
  · exact fun _ _ _ _ => Text.unitsLE_antisymm

/-- The copy of plain data does not show in which order records listed their keys. -/
theorem Reordered.jsonCopy?_eq_some (h : v.Reordered w) :
    ∀ c, v.jsonCopy? = some c → w.jsonCopy? = some c := by
  induction h with
  | refl v => exact fun c copy => copy
  | @list vs ws length items ih =>
    intro c copy
    obtain ⟨cs, copies, rfl⟩ := Option.map_eq_some_iff.mp copy
    have copies' : copyItems? ws = some cs := by
      rw [copyItems?_eq_some] at copies ⊢
      exact forall₂_transfer (forall₂_iff_getElem?.mpr ⟨length, ih⟩) copies fun _ _ c step => step c
    simp only [jsonCopy?, copies', Option.map_some]
  | @record es fs plain distinct keys values ih =>
    intro c copy
    obtain ⟨cs, copies, rfl⟩ := Option.map_eq_some_iff.mp copy
    rw [copyEntries?_eq_some] at copies
    obtain ⟨ds, copies', perm⟩ := (Entries.Matched.of_keys distinct keys ih).exists_forall₂ copies
      (Q := fun f d => f.1 = d.1 ∧ f.2.jsonCopy? = some d.2)
      fun e f d key step pair => ⟨key ▸ pair.1, step _ pair.2⟩
    have nodup : (cs.map Prod.fst).Nodup := Entries.keys_eq_of_forall₂ copies ▸ distinct
    simp only [jsonCopy?, copyEntries?_eq_some.mpr copies', Option.map_some]
    rw [sortEntries_perm nodup perm.symm]
  | node => exact fun c copy => by cases copy

theorem Reordered.jsonCopy?_eq (h : v.Reordered w) : v.jsonCopy? = w.jsonCopy? :=
  Option.ext fun c => ⟨h.jsonCopy?_eq_some c, h.symm.jsonCopy?_eq_some c⟩

end Value

namespace Kind

variable {vs ws : List Value}

theorem badItem?_congr (options : List String) (h : List.Forall₂ Value.Reordered vs ws) :
    badItem? options vs = badItem? options ws := by
  induction h with
  | nil => rfl
  | @cons v w vs ws first _ ih =>
    cases first with
    | refl =>
      cases v with
      | text s => simp only [badItem?, ih]
      | _ => rfl
    | _ => rfl

theorem any_isText_congr (s : String) (h : List.Forall₂ Value.Reordered vs ws) :
    vs.any (isText s) = ws.any (isText s) := by
  induction h with
  | nil => rfl
  | cons first _ ih =>
    rw [List.any_cons, List.any_cons, ih]
    congr 1
    cases first <;> rfl

end Kind

/-- A kind without parts does not see in which order records list their keys. -/
theorem BuiltinKind.verdict_reordered (k : BuiltinKind) (c : Constraints) {v w : Value}
    (h : v.Reordered w) : k.verdict c v = k.verdict c w := by
  cases k with
  | json => simp only [verdict, Kind.checkJson, h.jsonCopy?_eq]
  | multiselection =>
    cases h with
    | list length items =>
      have alike := forall₂_iff_getElem?.mpr ⟨length, items⟩
      simp only [verdict, Kind.checkMultiselection, Kind.badItem?_congr _ alike,
        Kind.any_isText_congr _ alike]
    | _ => rfl
  | _ => cases h <;> rfl

end ShapedTree
