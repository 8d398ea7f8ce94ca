import Mathlib.Data.List.ReduceOption
import ShapedTree.Proofs.Kind.MappingOrder
import ShapedTree.Proofs.Run.Echo
import ShapedTree.Proofs.Validation.Calls
import ShapedTree.Proofs.Validation.ValueSoundness
import ShapedTree.Proofs.Value.Reordering

namespace ShapedTree

open Run ShapedTree.Computation

/-- One check of a part is echoed by another one on related values. -/
def PartEchoed (R : Value → Value → Prop) (check check' : PartCheck Run) : Prop :=
  ∀ raw raw' label, R raw raw' → Echoed Eq (check raw label) (check' raw' label)

namespace Kind

variable {rules rules' : Rules} {key key' value value' : PartCheck Run} {byInteger : Bool}

/-- The second check of a kind comes to what the first one comes to, unless the first one finds
something wrong. -/
structure Mirrored (x y : Run KindResult) : Prop where
  grows : Ensures x fun _ => True
  agrees : ∀ r, Accepted x r → (∃ f fs, r = .error (f :: fs)) ∨ Spotless y (Eq r)

namespace Mirrored

theorem pure (r : KindResult) : Mirrored (pure r) (pure r) where
  grows := .pure trivial
  agrees r' accepted := by
    obtain ⟨s, t, run, -⟩ := accepted
    cases run
    exact .inr (.pure rfl)

theorem found {y : Run KindResult} (f : Finding) : Mirrored (.pure (.error [f])) y where
  grows := .pure trivial
  agrees r accepted := by
    obtain ⟨s, t, run, -⟩ := accepted
    cases run
    exact .inl ⟨f, [], rfl⟩

theorem of_echoed {x y : Run KindResult} (h : Echoed Eq x y) : Mirrored x y :=
  ⟨h.grows, fun r accepted => .inr (h.agrees r accepted)⟩

/-- What a kind finds wrong has to be reported, so that nothing is said of what follows. -/
theorem bind {α : Type} {R : α → α → Prop} {x y : Run KindResult} {f g : KindResult → Run α}
    (h : Mirrored x y)
    (wrong : ∀ finding more, Ensures (f (.error (finding :: more))) fun _ => False)
    (hf : ∀ r, Echoed R (f r) (g r)) : Echoed R (x >>= f) (y >>= g) where
  grows := h.grows.bind fun r => (hf r).grows.mono fun _ _ _ => trivial
  agrees a accepted := by
    obtain ⟨s, u, run, clean⟩ := accepted
    obtain ⟨r, t, first, second⟩ := bind_eq_ok run
    have between := ((hf r).grows t a u second).1.clean clean
    rcases h.agrees r ⟨s, t, first, between⟩ with ⟨finding, more, rfl⟩ | same
    · exact ((wrong finding more t a u second).2 clean).elim
    · refine same.bind ?_
      rintro _ rfl
      exact (hf r).agrees a ⟨t, u, second, clean⟩

end Mirrored

/-- The mapping of the entries that were checked; a failure where some entry came to nothing. -/
def gathered (byInteger failed : Bool) (past : List (String × Value))
    (os : List (Option (String × Value))) : KindResult :=
  if failed || os.any Option.isNone then reported
  else .ok (.record (sortMapping byInteger (Record.ofList (past ++ os.reduceOption))) true)

variable {failed : Bool} {past : List (String × Value)} {os : List (Option (String × Value))}

theorem gathered_nil : gathered byInteger failed past [] =
    if failed then reported
    else .ok (.record (sortMapping byInteger (Record.ofList past)) true) := by
  simp only [gathered, List.any_nil, Bool.or_false, List.reduceOption_nil, List.append_nil]

theorem gathered_some (f : String × Value) :
    gathered byInteger failed past (some f :: os) = gathered byInteger failed (past ++ [f]) os := by
  simp only [gathered, List.any_cons, Option.isNone_some, Bool.false_or,
    List.reduceOption_cons_of_some, List.append_assoc, List.singleton_append]

theorem gathered_none :
    gathered byInteger failed past (none :: os) = gathered byInteger true past os := by
  simp [gathered]

/-- The order of the entries does not show in the mapping. -/
theorem gathered_perm {os' : List (Option (String × Value))}
    (distinct : (os.reduceOption.map Prod.fst).Nodup)
    (integers : byInteger = true → IntegerKeys os.reduceOption) (perm : os.Perm os') :
    gathered byInteger failed [] os = gathered byInteger failed [] os' := by
  have entries : os.reduceOption.Perm os'.reduceOption := perm.filterMap id
  have distinct' : (os'.reduceOption.map Prod.fst).Nodup :=
    (entries.map Prod.fst).nodup_iff.mp distinct
  have records : (Record.ofList os.reduceOption).Perm (Record.ofList os'.reduceOption) :=
    (Record.ofList_perm distinct).trans (entries.trans (Record.ofList_perm distinct').symm)
  have sorted : sortMapping byInteger (Record.ofList os.reduceOption) =
      sortMapping byInteger (Record.ofList os'.reduceOption) :=
    sortMapping_perm (Record.nodup_ofList _)
      (fun yes key hm => integers yes key (Record.mem_keys_ofList.mp hm)) records
  simp only [gathered, List.nil_append, perm.any_eq, sorted]

/-- The entries of a mapping are checked one by one, unless two of them have the same key. -/
theorem checkEntries_gathers {keyLaw : String → Option Value → Prop}
    {valueLaw : String × Value → Option Value → Prop}
    {es : List (String × Value)}
    (hkey : ∀ e ∈ es, Ensures (key (.text e.1) (Validation.entryLabel e.1)) (keyLaw e.1))
    (hvalue : ∀ e ∈ es, Ensures (value e.2 (Validation.entryLabel e.1)) (valueLaw e))
    (failed : Bool) (past : List (String × Value))
    (distinct : (past.map Prod.fst).Nodup) :
    Ensures (checkEntries (halted rules) byInteger key value failed (Record.ofList past) es)
      fun result => (∃ f, result = .error [f]) ∨ ∃ os,
        List.Forall₂ (fun e o => ∃ k v, keyLaw e.1 k ∧ valueLaw e v ∧ o = settled k v) es os ∧
        ((past ++ os.reduceOption).map Prod.fst).Nodup ∧
        result = gathered byInteger failed past os := by
  -- What is done so far is always the record of the entries that are past.
  induction es generalizing failed past with
  | nil => exact .pure (.inr ⟨[], .nil, by simpa using distinct, gathered_nil.symm⟩)
  | cons e rest ih =>
    obtain ⟨firstKey, otherKeys⟩ := List.forall_mem_cons.mp hkey
    obtain ⟨firstValue, otherValues⟩ := List.forall_mem_cons.mp hvalue
    have ih := ih otherKeys otherValues
    rw [checkEntries_cons]
    refine firstKey.bind fun k => firstValue.bind fun v => ?_
    cases entry : settled k v with
    | some f =>
      simp only
      split
      next => exact .pure fun _ _ => .inl ⟨_, rfl⟩
      next new =>
        refine Ensures.halted.bind fun stopped => ?_
        cases stopped with
        | true => exact .pure fun no => by cases no
        | false =>
          have step := ih failed (past ++ [f]) (nodup_concat distinct new)
          rw [Record.ofList_concat] at step
          refine step.mono fun result outcome _ hv hk => outcome.imp_right ?_
          rintro ⟨os, all, nodup, rfl⟩
          refine ⟨some f :: os, .cons ⟨k, v, hk, hv, entry.symm⟩ all, ?_, (gathered_some f).symm⟩
          simpa using nodup
    | none =>
      refine Ensures.halted.bind fun stopped => ?_
      cases stopped with
      | true => exact .pure fun no => by cases no
      | false =>
        refine (ih true past distinct).mono fun result outcome _ hv hk => outcome.imp_right ?_
        rintro ⟨os, all, nodup, rfl⟩
        refine ⟨none :: os, .cons ⟨k, v, hk, hv, entry.symm⟩ all, ?_, gathered_none.symm⟩
        simpa using nodup

theorem checkEntries_spotless {es : List (String × Value)} {os : List (Option (String × Value))}
    (h : List.Forall₂ (fun e o => ∃ k v,
      Spotless (key (.text e.1) (Validation.entryLabel e.1)) (Eq k) ∧
      Spotless (value e.2 (Validation.entryLabel e.1)) (Eq v) ∧ o = settled k v) es os)
    (failed : Bool) (past : List (String × Value))
    (distinct : ((past ++ os.reduceOption).map Prod.fst).Nodup) :
    Spotless (checkEntries (halted rules) byInteger key value failed (Record.ofList past) es)
      (Eq (gathered byInteger failed past os)) := by
  induction h generalizing failed past with
  | nil => exact .pure gathered_nil
  | @cons e o es os first _ ih =>
    obtain ⟨k, v, hk, hv, rfl⟩ := first
    rw [checkEntries_cons]
    refine hk.bind ?_
    rintro _ rfl
    refine hv.bind ?_
    rintro _ rfl
    cases entry : settled k v with
    | some f =>
      rw [entry, List.reduceOption_cons_of_some] at distinct
      have new : ¬ Entries.has (Record.ofList past) f.1 = true := by
        rw [Entries.has_iff, Record.mem_keys_ofList]
        intro old
        rw [List.map_append, List.map_cons] at distinct
        exact (List.nodup_append.mp distinct).2.2 _ old f.1 (by simp) rfl
      have step := ih failed (past ++ [f]) (by simpa using distinct)
      rw [Record.ofList_concat] at step
      simp only [new, gathered_some]
      exact .guard step
    | none =>
      rw [entry, List.reduceOption_cons_of_none] at distinct
      rw [gathered_none]
      exact .guard (ih true past distinct)

/-- The key of a mapping by integers is the canonical spelling of one. -/
def KeyOfInteger (answer : Option Value) : Prop :=
  ∀ s, answer = some (.text s) →
    ∃ n : Int, n.natAbs < Number.exactLimit ∧ s = Decimal.integerText n

/-- Related entries in another order make the same mapping. -/
theorem checkEntries_mirrored {K R : Value → Value → Prop} (left : ∀ v w, R v w → R v v)
    (hkey : PartEchoed K key key') (hvalue : PartEchoed R value value')
    (integers : byInteger = true → ∀ s label, Ensures (key (.text s) label) KeyOfInteger)
    {es fs : Entries Value} (keys : ∀ e ∈ es, K (.text e.1) (.text e.1))
    (h : Entries.Matched R es fs) :
    Mirrored (checkEntries (halted rules) byInteger key value false [] es)
      (checkEntries (halted rules') byInteger key' value' false [] fs) := by
  have taken : ∀ e ∈ es, Ensures (key (.text e.1) (Validation.entryLabel e.1)) fun k =>
      (Accepted (key (.text e.1) (Validation.entryLabel e.1)) k ∧ K (.text e.1) (.text e.1)) ∧
        (byInteger = true → KeyOfInteger k) := by
    intro e he
    have grows := (hkey _ _ (Validation.entryLabel e.1) (keys e he)).grows
    refine (grows.accepted.mono fun _ accepted => ⟨accepted, keys e he⟩).and ?_
    cases byInteger with
    | true => exact (integers rfl e.1 _).mono fun _ canonical _ => canonical
    | false => exact grows.mono fun _ _ no => by cases no
  have held : ∀ e ∈ es, R e.2 e.2 := by
    obtain ⟨gs, alike, -⟩ := h
    intro e he
    obtain ⟨g, -, pair⟩ := exists_left_of_mem alike.flip e he
    exact left _ _ pair.2
  have gathers := @checkEntries_gathers rules key value byInteger
    (fun s k => (Accepted (key (.text s) (Validation.entryLabel s)) k ∧ K (.text s) (.text s)) ∧
      (byInteger = true → KeyOfInteger k)) _ es taken
    (fun e he => (hvalue e.2 e.2 _ (held e he)).grows.accepted) false [] List.nodup_nil
  refine ⟨gathers.mono fun _ _ => trivial, ?_⟩
  rintro r ⟨s, t, run, clean⟩
  rcases (gathers s r t run).2 clean with ⟨f, rfl⟩ | ⟨os, all, distinct, rfl⟩
  · exact .inl ⟨f, [], rfl⟩
  · obtain ⟨os', all', perm⟩ := h.exists_forall₂ all
      (Q := fun f o => ∃ k v, Spotless (key' (.text f.1) (Validation.entryLabel f.1)) (Eq k) ∧
        Spotless (value' f.2 (Validation.entryLabel f.1)) (Eq v) ∧ o = settled k v) (by
      rintro ⟨name, v⟩ ⟨_, w⟩ o rfl alike ⟨k, held, hk, hv, ho⟩
      exact ⟨k, held, (hkey _ _ _ hk.1.2).agrees k hk.1.1,
        (hvalue _ _ _ alike).agrees held hv, ho⟩)
    have canonical : byInteger = true → IntegerKeys os.reduceOption := by
      intro yes name hm
      obtain ⟨f, hf, rfl⟩ := List.mem_map.mp hm
      obtain ⟨e, -, k, v, hk, -, ho⟩ :=
        exists_left_of_mem all _ (List.reduceOption_mem_iff.mp hf)
      exact hk.2 yes f.1 (settled_eq_some.mp ho.symm).1
    rw [gathered_perm distinct canonical perm.symm]
    have distinct' : (os'.reduceOption.map Prod.fst).Nodup :=
      ((perm.filterMap id).map Prod.fst).nodup_iff.mpr distinct
    exact .inr (checkEntries_spotless all' false [] distinct')

end Kind

end ShapedTree
