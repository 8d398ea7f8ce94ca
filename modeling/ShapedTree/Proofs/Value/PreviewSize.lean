import Mathlib.Data.List.TakeDrop
import ShapedTree.Proofs.Number.TextLength
import ShapedTree.Value.Preview

namespace ShapedTree

namespace Value

/-- A value is written in the preview of another above so many more levels. -/
inductive Shows : Nat → Value → Value → Prop
  | self (depth : Nat) (v : Value) : Shows depth v v
  | item {depth : Nat} {items : List Value} {v w : Value} (first : v ∈ items.take previewItems)
      (inner : Shows depth v w) : Shows (depth + 1) (.list items) w
  | entry {depth : Nat} {es : Entries Value} {plain : Bool} {e : String × Value} {w : Value}
      (small : es.length ≤ previewFields) (held : e ∈ es) (inner : Shows depth e.2 w) :
      Shows (depth + 1) (.record es plain) w

/-- A value as a run can hold it: a number is binary64, and no list or record has more entries than
there are indices. -/
def Representable : Value → Prop
  | .number n => n.isBinary64 = true
  | .list items => items.length ≤ Record.largestIndex + 1
  | .record es _ => es.length ≤ Record.largestIndex + 1
  | _ => True

/-- The keys of a record that is small enough to show them have at most `longest` units. -/
def KeysWithin (longest : Nat) : Value → Prop
  | .record es _ => es.length ≤ previewFields → ∀ e ∈ es, Text.size e.1 ≤ longest
  | _ => True

/-- A value whose plain text is short: a big integer with few digits, or an object that has its
conversion from its class. -/
inductive ShortPlainText (longest : Nat) : Value → Prop
  | bigint {n : Int} (few : (Decimal.digits n.natAbs).length ≤ longest) :
      ShortPlainText longest (.bigint n)
  | record {es : Entries Value} (inherited : Entries.has es "toString" = false) :
      ShortPlainText longest (.record es true)

/-- The units that so many levels of a preview take with keys of at most `longest` units. -/
def previewLimit (longest : Nat) : Nat → Nat
  | 0 => 5
  | levels + 1 => 4000 + 60 * longest + 10 * previewLimit longest levels

variable {longest depth : Nat} {v w : Value}

theorem five_le_previewLimit (longest levels : Nat) : 5 ≤ previewLimit longest levels := by
  cases levels with
  | zero => exact Nat.le_refl 5
  | succ levels => rw [previewLimit]; omega

theorem size_beyond : Text.size beyond = 5 := by decide

theorem size_shortText_le (s : String) : Text.size (shortText s) ≤ 602 := by
  unfold shortText
  split
  next short =>
    have := Text.size_quote_le s
    have : previewUnits = 100 := rfl
    omega
  next =>
    have cut := Text.size_quoteShortened_le s (previewUnits - 3) "..."
    have tail : Text.size "..." = 3 := by decide
    have units : previewUnits - 3 = 97 := rfl
    rw [tail, units] at cut
    rwa [units]

theorem size_recordText_le {es : List (String × String)} {key bound : Nat}
    (keys : ∀ e ∈ es, Text.size e.1 ≤ key) (texts : ∀ e ∈ es, Text.size e.2 ≤ bound) :
    Text.size (recordText es) ≤ 2 + es.length * (6 * key + 4 + bound) := by
  have each : ∀ part ∈ es.map entryText, Text.size part ≤ 6 * key + 3 + bound := by
    intro part hp
    obtain ⟨e, he, rfl⟩ := List.mem_map.mp hp
    have := Text.size_quote_le e.1
    have := keys e he
    have := texts e he
    have colon : Text.size ":" = 1 := by decide
    rw [entryText, Text.size_append, Text.size_append, colon]
    omega
  have joined := Text.size_intercalate_le "," each
  have comma : Text.size "," = 1 := by decide
  have opening : Text.size "\x7b" = 1 := by decide
  have closing : Text.size "\x7d" = 1 := by decide
  have sum : 6 * key + 3 + bound + 1 = 6 * key + 4 + bound := by omega
  rw [List.length_map, comma, sum] at joined
  rw [recordText, Text.size_append, Text.size_append, opening, closing]
  omega

theorem size_listText_le {items : List String} {bound : Nat}
    (texts : ∀ t ∈ items, Text.size t ≤ bound) :
    Text.size (listText items) ≤ 2 + items.length * (bound + 1) := by
  have joined := Text.size_intercalate_le "," texts
  have comma : Text.size "," = 1 := by decide
  have opening : Text.size "[" = 1 := by decide
  have closing : Text.size "]" = 1 := by decide
  rw [comma] at joined
  rw [listText, Text.size_append, Text.size_append, opening, closing]
  omega

theorem size_count_le {n : Nat} (few : n ≤ Record.largestIndex + 1) :
    Text.size (toString n) ≤ 10 := by
  have digits : (toString n).toList = Decimal.digits n := Nat.toList_repr
  have plane : ∀ c ∈ Decimal.digits n, c.toNat < 0x10000 := fun c hc => by
    have : 48 ≤ c.toNat ∧ c.toNat ≤ 57 := Char.isDigit_iff_toNat.mp (Numeral.isDigit_digits hc)
    omega
  rw [Text.size_eq_width, digits, Text.width_eq_length plane]
  exact (Decimal.length_digits_le (by decide)).mpr (Nat.lt_of_le_of_lt few (by decide))

theorem size_countText_le {n : Nat} (few : n ≤ Record.largestIndex + 1) :
    Text.size (countText n) ≤ 40 := by
  have text : countText n = "\"[an object with " ++ toString n ++ " fields]\"" := rfl
  have before : Text.size "\"[an object with " = 17 := by decide
  have behind : Text.size " fields]\"" = 9 := by decide
  have := size_count_le few
  rw [text, Text.size_append, Text.size_append, before, behind]
  omega

theorem size_moreText_le {n : Nat} (few : n ≤ Record.largestIndex + 1) :
    Text.size s!"\"[{n} more]\"" ≤ 40 := by
  have text : s!"\"[{n} more]\"" = "\"[" ++ toString n ++ " more]\"" := rfl
  have before : Text.size "\"[" = 2 := by decide
  have behind : Text.size " more]\"" = 7 := by decide
  have := size_count_le few
  rw [text, Text.size_append, Text.size_append, before, behind]
  omega

theorem size_knotText_le (longest depth : Nat) :
    Text.size (knotText depth) ≤ previewLimit longest (depth + 1) := by
  have one : ∀ text : String, Text.size (recordText [("self", text)]) ≤ 30 + Text.size text := by
    intro text
    have keys : ∀ e ∈ [("self", text)], Text.size e.1 ≤ 4 :=
      List.forall_mem_singleton.mpr (by decide : Text.size "self" ≤ 4)
    have texts : ∀ e ∈ [("self", text)], Text.size e.2 ≤ Text.size text :=
      List.forall_mem_singleton.mpr (Nat.le_refl _)
    have size := size_recordText_le keys texts
    rw [List.length_singleton] at size
    omega
  induction depth with
  | zero =>
    have := one beyond
    have := size_beyond
    rw [knotText, previewLimit]
    omega
  | succ depth ih =>
    have := one (knotText depth)
    rw [knotText, previewLimit]
    omega

theorem size_nodeText_le (depth : Nat) (schema : String) (choiceType : Option String) :
    Text.size (nodeText depth schema choiceType) ≤ 4000 := by
  cases depth with
  | zero =>
    have closed : Text.size (nodeText 0 "" none) ≤ 4000 := by decide
    exact closed
  | succ depth =>
    have hidden : Text.size (recordText []) = 2 := by decide
    rw [nodeText]
    refine Nat.le_trans (@size_recordText_le _ 11 602 ?_ ?_) ?_
    · cases choiceType <;> simp <;> decide
    · cases choiceType <;> simp [hidden, size_shortText_le]
    · cases choiceType <;> simp

/-- The first items of a list take as many texts, each as long as its item allows. -/
theorem shortenItems_size {count bound : Nat} {items : List Value} {texts : List String}
    (least : 5 ≤ bound)
    (each : ∀ d, depth = d + 1 → ∀ v ∈ items.take count, ∀ shown, shorten d v = some shown →
      ∀ text ∈ shown, Text.size text ≤ bound)
    (h : shortenItems depth count items = some texts) :
    texts.length ≤ count ∧ ∀ text ∈ texts, Text.size text ≤ bound := by
  induction items generalizing count texts with
  | nil =>
    have none : shortenItems depth count [] = some [] := by cases count <;> simp [shortenItems]
    cases none.symm.trans h
    simp
  | cons v items ih =>
    cases count with
    | zero =>
      have none : shortenItems depth 0 (v :: items) = some [] := by simp [shortenItems]
      cases none.symm.trans h
      simp
    | succ count =>
      cases depth with
      | zero =>
        rw [shortenItems] at h
        obtain ⟨rest, others, made⟩ := Option.bind_eq_some_iff.mp h
        cases made
        obtain ⟨length, sizes⟩ := ih nofun others
        refine ⟨Nat.succ_le_succ length, List.forall_mem_cons.mpr ⟨?_, sizes⟩⟩
        refine Nat.le_trans ?_ least
        cases v.isHole <;> decide
      | succ depth =>
        rw [shortenItems] at h
        obtain ⟨shown, first, h⟩ := Option.bind_eq_some_iff.mp h
        obtain ⟨rest, others, made⟩ := Option.bind_eq_some_iff.mp h
        cases made
        obtain ⟨length, sizes⟩ := ih (fun d hd w hw => each d hd w (by simp [hw])) others
        refine ⟨Nat.succ_le_succ length, List.forall_mem_cons.mpr ⟨?_, sizes⟩⟩
        cases shown with
        | none => exact Nat.le_trans (by decide : Text.size "null" ≤ 5) least
        | some text => exact each depth rfl v (by simp) _ first text rfl

/-- The entries of a record take at most as many texts, under keys of the record. -/
theorem shortenEntries_size {bound : Nat} {es : Entries Value} {texts : List (String × String)}
    (least : 5 ≤ bound)
    (each : ∀ d, depth = d + 1 → ∀ e ∈ es, ∀ shown, shorten d e.2 = some shown →
      ∀ text ∈ shown, Text.size text ≤ bound)
    (h : shortenEntries depth es = some texts) :
    texts.length ≤ es.length ∧
      ∀ e ∈ texts, e.1 ∈ es.map Prod.fst ∧ Text.size e.2 ≤ bound := by
  induction es generalizing texts with
  | nil =>
    have none : shortenEntries depth [] = some [] := by cases depth <;> simp [shortenEntries]
    cases none.symm.trans h
    simp
  | cons e es ih =>
    have widen : ∀ {rest : List (String × String)},
        (∀ t ∈ rest, t.1 ∈ es.map Prod.fst ∧ Text.size t.2 ≤ bound) →
        ∀ t ∈ rest, t.1 ∈ (e :: es).map Prod.fst ∧ Text.size t.2 ≤ bound := fun all t ht =>
      ⟨List.mem_cons_of_mem _ (all t ht).1, (all t ht).2⟩
    cases depth with
    | zero =>
      rw [shortenEntries] at h
      obtain ⟨rest, others, made⟩ := Option.bind_eq_some_iff.mp h
      cases made
      obtain ⟨length, sizes⟩ := ih nofun others
      refine ⟨Nat.succ_le_succ length, List.forall_mem_cons.mpr ⟨?_, widen sizes⟩⟩
      exact ⟨by simp, size_beyond ▸ least⟩
    | succ depth =>
      rw [shortenEntries] at h
      obtain ⟨shown, first, h⟩ := Option.bind_eq_some_iff.mp h
      obtain ⟨rest, others, h⟩ := Option.bind_eq_some_iff.mp h
      obtain ⟨length, sizes⟩ := ih (fun d hd f hf => each d hd f (by simp [hf])) others
      cases shown with
      | none =>
        cases h
        exact ⟨Nat.le_succ_of_le length, widen sizes⟩
      | some text =>
        cases h
        refine ⟨Nat.succ_le_succ length, List.forall_mem_cons.mpr ⟨?_, widen sizes⟩⟩
        exact ⟨by simp, each depth rfl e (by simp) _ first text rfl⟩

theorem size_shortened_list {levels : Nat} {items : List Value} {texts : List String}
    (few : items.length ≤ Record.largestIndex + 1) (length : texts.length ≤ previewItems)
    (sizes : ∀ text ∈ texts, Text.size text ≤ previewLimit longest levels) :
    Text.size (listText (texts ++ if previewItems < items.length then
      [s!"\"[{items.length - previewItems} more]\""] else [])) ≤
      previewLimit longest (levels + 1) := by
  have three : previewItems = 3 := rfl
  have more := size_moreText_le (Nat.le_trans (Nat.sub_le items.length previewItems) few)
  rw [previewLimit]
  split
  next =>
    refine Nat.le_trans (@size_listText_le _ (previewLimit longest levels + 40) ?_) ?_
    · intro text ht
      rcases List.mem_append.mp ht with ht | ht
      · exact Nat.le_add_right_of_le (sizes text ht)
      · cases List.mem_singleton.mp ht
        omega
    · rw [List.length_append, List.length_singleton]
      have : (texts.length + 1) * (previewLimit longest levels + 40 + 1) ≤
          4 * (previewLimit longest levels + 40 + 1) := Nat.mul_le_mul_right _ (by omega)
      omega
  next =>
    rw [List.append_nil]
    refine Nat.le_trans (size_listText_le sizes) ?_
    have : texts.length * (previewLimit longest levels + 1) ≤
        3 * (previewLimit longest levels + 1) := Nat.mul_le_mul_right _ (by omega)
    omega

theorem size_shortened_record {levels : Nat} {es : Entries Value}
    {texts : List (String × String)} (small : es.length ≤ previewFields)
    (keys : ∀ e ∈ es, Text.size e.1 ≤ longest) (length : texts.length ≤ es.length)
    (sizes : ∀ t ∈ texts, t.1 ∈ es.map Prod.fst ∧ Text.size t.2 ≤ previewLimit longest levels) :
    Text.size (recordText texts) ≤ previewLimit longest (levels + 1) := by
  have ten : previewFields = 10 := rfl
  have own : ∀ t ∈ texts, Text.size t.1 ≤ longest := fun t ht => by
    obtain ⟨e, he, same⟩ := List.mem_map.mp (sizes t ht).1
    exact same ▸ keys e he
  refine Nat.le_trans (size_recordText_le own fun t ht => (sizes t ht).2) ?_
  have : texts.length * (6 * longest + 4 + previewLimit longest levels) ≤
      10 * (6 * longest + 4 + previewLimit longest levels) := Nat.mul_le_mul_right _ (by omega)
  rw [previewLimit]
  omega

/-- What is shown of a value has the size that its depth and its keys allow. -/
theorem shorten_size (held : ∀ w, Shows depth v w → w.Representable)
    (keys : ∀ w, Shows depth v w → w.KeysWithin longest) {shown : Option String}
    (h : shorten depth v = some shown) {text : String} (written : text ∈ shown) :
    Text.size text ≤ previewLimit longest (depth + 1) := by
  induction depth using Nat.strongRecOn generalizing v shown text with
  | ind depth ih =>
    have least := five_le_previewLimit longest depth
    have self := held v (.self depth v)
    have own := keys v (.self depth v)
    -- What is shown without parts stays below the least limit that there is.
    have fixed : ∀ bound, Text.size text ≤ bound → bound ≤ 4000 →
        Text.size text ≤ previewLimit longest (depth + 1) := fun bound le small => by
      rw [previewLimit]
      omega
    cases v with
    | undefined | hole => cases h; cases written
    | null => cases h; cases written; exact fixed 4 (by decide) (by decide)
    | bool b => cases h; cases written; exact fixed 5 (by cases b <;> decide) (by decide)
    | number n =>
      cases h
      cases written
      refine fixed 26 ?_ (by decide)
      split
      · exact Number.size_text_le self
      · decide
    | text s => cases h; cases written; exact fixed _ (size_shortText_le s) (by decide)
    | bigint n => cases h
    | exotic made => cases h; cases written; exact fixed 2 (by decide) (by decide)
    | knot => cases h; cases written; exact size_knotText_le longest depth
    | node n => cases h; cases written; exact fixed _ (size_nodeText_le depth _ _) (by decide)
    | list items =>
      rw [shorten] at h
      obtain ⟨texts, made, h⟩ := Option.bind_eq_some_iff.mp h
      cases h
      cases written
      obtain ⟨length, sizes⟩ := shortenItems_size least (fun d hd v hv shown hs text ht => by
        subst hd
        exact ih d (Nat.lt_succ_self d) (fun w hw => held w (.item hv hw))
          (fun w hw => keys w (.item hv hw)) hs ht) made
      exact size_shortened_list self length sizes
    | record es plain =>
      rw [shorten] at h
      by_cases large : previewFields < es.length
      · rw [if_pos large] at h
        cases h
        cases written
        exact fixed _ (size_countText_le self) (by decide)
      · rw [if_neg large] at h
        obtain ⟨texts, made, h⟩ := Option.bind_eq_some_iff.mp h
        cases h
        cases written
        have small : es.length ≤ previewFields := Nat.le_of_not_lt large
        obtain ⟨length, sizes⟩ := shortenEntries_size least (fun d hd e he shown hs text ht => by
          subst hd
          exact ih d (Nat.lt_succ_self d) (fun w hw => held w (.entry small he hw))
            (fun w hw => keys w (.entry small he hw)) hs ht) made
        exact size_shortened_record small (own small) length sizes

theorem shortenItems_none {count : Nat} {items : List Value}
    (h : shortenItems depth count items = none) :
    ∃ d, depth = d + 1 ∧ ∃ v ∈ items.take count, shorten d v = none := by
  induction items generalizing count with
  | nil => cases count <;> simp [shortenItems] at h
  | cons v items ih =>
    cases count with
    | zero => simp [shortenItems] at h
    | succ count =>
      cases depth with
      | zero =>
        rw [shortenItems, bind_pure_comp] at h
        obtain ⟨d, impossible, -⟩ := ih (Option.map_eq_none_iff.mp h)
        cases impossible
      | succ depth =>
        rw [shortenItems] at h
        cases first : shorten depth v with
        | none => exact ⟨depth, rfl, v, by simp, first⟩
        | some shown =>
          have others : shortenItems (depth + 1) count items = none :=
            Option.eq_none_iff_forall_ne_some.mpr (by simpa [first] using h)
          obtain ⟨d, same, w, hw, none⟩ := ih others
          exact ⟨d, same, w, by simp [hw], none⟩

theorem shortenEntries_none {es : Entries Value} (h : shortenEntries depth es = none) :
    ∃ d, depth = d + 1 ∧ ∃ e ∈ es, shorten d e.2 = none := by
  induction es with
  | nil => cases depth <;> simp [shortenEntries] at h
  | cons e es ih =>
    cases depth with
    | zero =>
      rw [shortenEntries, bind_pure_comp] at h
      obtain ⟨d, impossible, -⟩ := ih (Option.map_eq_none_iff.mp h)
      cases impossible
    | succ depth =>
      rw [shortenEntries] at h
      cases first : shorten depth e.2 with
      | none => exact ⟨depth, rfl, e, by simp, first⟩
      | some shown =>
        rw [first] at h
        have others : shortenEntries (depth + 1) es = none := by
          cases rest : shortenEntries (depth + 1) es with
          | none => rfl
          | some texts => cases shown <;> simp [rest] at h
        obtain ⟨d, same, f, hf, none⟩ := ih others
        exact ⟨d, same, f, by simp [hf], none⟩

/-- Nothing but a big integer that shows keeps a value from having its preview. -/
theorem shows_bigint (h : shorten depth v = none) : ∃ n, Shows depth v (.bigint n) := by
  induction depth using Nat.strongRecOn generalizing v with
  | ind depth ih =>
    cases v with
    | bigint n => exact ⟨n, .self depth _⟩
    | list items =>
      rw [shorten, bind_pure_comp] at h
      obtain ⟨d, rfl, v, hv, none⟩ := shortenItems_none (Option.map_eq_none_iff.mp h)
      obtain ⟨n, within⟩ := ih d (Nat.lt_succ_self d) none
      exact ⟨n, .item hv within⟩
    | record es plain =>
      rw [shorten] at h
      by_cases large : previewFields < es.length
      · rw [if_pos large] at h
        cases h
      · rw [if_neg large, bind_pure_comp] at h
        obtain ⟨d, rfl, e, he, none⟩ := shortenEntries_none (Option.map_eq_none_iff.mp h)
        obtain ⟨n, within⟩ := ih d (Nat.lt_succ_self d) none
        exact ⟨n, .entry (Nat.le_of_not_lt large) he within⟩
    | _ => cases h

theorem size_integerText_le (n : Int) :
    Text.size (Decimal.integerText n) ≤ 1 + (Decimal.digits n.natAbs).length := by
  have plane : ∀ c ∈ (Decimal.integerText n).toList, c.toNat < 0x10000 := fun c hc => by
    rw [Numeral.toList_integerText] at hc
    rcases List.mem_append.mp hc with hc | hc
    · split at hc
      · cases List.mem_singleton.mp hc; decide
      · cases hc
    · have : 48 ≤ c.toNat ∧ c.toNat ≤ 57 := Char.isDigit_iff_toNat.mp (Numeral.isDigit_digits hc)
      omega
  rw [Text.size_eq_width, Text.width_eq_length plane, Numeral.toList_integerText,
    List.length_append]
  split
  · exact Nat.le_refl _
  · exact Nat.add_le_add_right (Nat.zero_le 1) _

theorem ShortPlainText.plainText (h : ShortPlainText longest v) :
    ∃ text, v.plainText = .ok text ∧ Text.size text ≤ 15 + longest := by
  cases h with
  | @bigint n few =>
    have := size_integerText_le n
    exact ⟨_, rfl, by omega⟩
  | @record es inherited =>
    refine ⟨"[object Object]", ?_, Nat.le_trans (by decide) (Nat.le_add_right 15 longest)⟩
    simp [Value.plainText, inherited]

/-- The preview of a value is of bounded size, however large the value is, if the keys of the small
records in it are bounded and no big integer shows but where its plain text is short. -/
theorem preview_bounded (held : ∀ w, Shows previewDepth v w → w.Representable)
    (keys : ∀ w, Shows previewDepth v w → w.KeysWithin longest)
    (bigints : ∀ n, Shows previewDepth v (.bigint n) → v.ShortPlainText longest) :
    ∃ text, v.preview = .ok text ∧
      Text.size text ≤ previewLimit longest (previewDepth + 1) := by
  have small : ∀ {bound}, bound ≤ 4000 + longest →
      bound ≤ previewLimit longest (previewDepth + 1) := fun le => by
    rw [previewLimit]
    omega
  cases made : shorten previewDepth v with
  | none =>
    obtain ⟨n, within⟩ := shows_bigint made
    obtain ⟨text, written, size⟩ := (bigints n within).plainText
    refine ⟨text, ?_, Nat.le_trans size (small (by omega))⟩
    rw [preview, made]
    exact written
  | some shown =>
    have size : ∀ text ∈ shown, Text.size text ≤ previewLimit longest (previewDepth + 1) :=
      fun _ => shorten_size held keys made
    cases v with
    | number n =>
      refine ⟨n.text, by rw [preview, made], ?_⟩
      exact Nat.le_trans (Number.size_text_le (held _ (.self _ _))) (small (by omega))
    | _ =>
      refine ⟨shown.getD "undefined", by rw [preview, made], ?_⟩
      cases shown with
      | none => exact Nat.le_trans (by decide : Text.size "undefined" ≤ 9) (small (by omega))
      | some text => exact size text rfl

/-- A record of which the preview gives up, for a big integer shows: its plain text is fixed. -/
theorem preview_sizes :
    (∀ w, Shows previewDepth (.record [("sizes", .list [.number 3, .bigint 7])] true) w →
      w.Representable) ∧
    ∃ text, (Value.record [("sizes", .list [.number 3, .bigint 7])] true).preview = .ok text ∧
      Text.size text ≤ previewLimit 5 (previewDepth + 1) := by
  have parts : ∀ w, Shows previewDepth (.record [("sizes", .list [.number 3, .bigint 7])] true) w →
      w = .record [("sizes", .list [.number 3, .bigint 7])] true ∨
        w = .list [.number 3, .bigint 7] ∨ w = .number 3 ∨ w = .bigint 7 := by
    intro w h
    cases h with
    | self => exact Or.inl rfl
    | entry _ held inner =>
      cases List.mem_singleton.mp held
      cases inner with
      | self => exact Or.inr (Or.inl rfl)
      | item first inner =>
        simp only [previewItems, List.take, List.mem_cons, List.not_mem_nil, or_false] at first
        rcases first with rfl | rfl <;> cases inner <;> simp
  have held : ∀ w, Shows previewDepth (.record [("sizes", .list [.number 3, .bigint 7])] true) w →
      w.Representable := by
    intro w h
    rcases parts w h with rfl | rfl | rfl | rfl
    · exact Nat.le_of_ble_eq_true rfl
    · exact Nat.le_of_ble_eq_true rfl
    · exact (by decide +kernel : (3 : Number).isBinary64 = true)
    · trivial
  refine ⟨held, preview_bounded held ?_ fun _ _ => .record (by decide)⟩
  intro w h
  rcases parts w h with rfl | rfl | rfl | rfl
  · intro _ e he
    cases List.mem_singleton.mp he
    exact Nat.le_of_eq (by decide : Text.size "sizes" = 5)
  all_goals trivial

/-- No bound holds of every preview: a long key shows whole, a long text shows whole beside a big
integer, and beside one a record without inherited names has no preview at all. -/
theorem preview_unbounded :
    (∀ bound, ∃ key text, (Value.record [(key, .null)] true).preview = .ok text ∧
      bound < Text.size text) ∧
    (∀ bound, ∃ s text, (Value.list [.text s, .bigint 1]).preview = .ok text ∧
      bound < Text.size text) ∧
    (Value.record [("tally", .bigint 1)] false).preview = .error .unwritable := by
  have long : ∀ n, Text.size (String.ofList (List.replicate n 'k')) = n := by
    intro n
    have plane : ∀ c ∈ List.replicate n 'k', c.toNat < 0x10000 := fun c hc => by
      rw [List.eq_of_mem_replicate hc]
      decide
    rw [Text.size_ofList, Text.width_eq_length plane, List.length_replicate]
  have quoted : ∀ n, (List.replicate n 'k').flatMap Text.quoteChar = List.replicate n 'k' := by
    intro n
    induction n with
    | zero => rfl
    | succ n ih => rw [List.replicate_succ, List.flatMap_cons, ih]; rfl
  refine ⟨fun bound => ?_, fun bound => ?_, rfl⟩
  · refine ⟨String.ofList (List.replicate bound 'k'), _, rfl, ?_⟩
    have quote : Text.size (Text.quote (String.ofList (List.replicate bound 'k'))) = bound + 2 := by
      have mark : (Text.unitsOfChar '"').length = 1 := by decide
      rw [Text.quote, String.toList_ofList, quoted, Text.size_ofList, List.cons_append,
        Text.width_cons, Text.width_append, Text.width_cons, Text.width_nil, mark,
        ← Text.size_ofList, long]
      omega
    have entry : ∀ e, recordText [e] = "\x7b" ++ entryText e ++ "\x7d" := fun _ => by
      rw [recordText, List.map_singleton, String.intercalate_singleton]
    rw [entry, Option.getD_some, Text.size_append, Text.size_append, entryText, Text.size_append,
      Text.size_append, quote]
    omega
  · refine ⟨String.ofList (List.replicate bound 'k'), _, rfl, ?_⟩
    rw [String.intercalate_cons_cons, Text.size_append, Text.size_append, long]
    have comma : Text.size "," = 1 := by decide
    omega

end Value

end ShapedTree
