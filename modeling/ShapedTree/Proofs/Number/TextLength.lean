import Mathlib.Algebra.Order.Field.Power
import Mathlib.Data.Nat.Cast.Order.Field
import Mathlib.Data.Nat.Log
import Mathlib.Data.Rat.Cast.Order
import Mathlib.Tactic.FieldSimp
import Mathlib.Tactic.Linarith
import Mathlib.Tactic.Positivity
import Mathlib.Tactic.Ring
import ShapedTree.Proofs.Number.IntegerText
import ShapedTree.Proofs.Text.Size

namespace ShapedTree

namespace Binary64

variable {n d : Nat}

theorem pow_toNat_div {b : Rat} (nonzero : b ≠ 0) (k : Int) :
    b ^ k.toNat / b ^ (-k).toNat = b ^ k := by
  rw [← zpow_natCast, ← zpow_natCast, ← zpow_sub₀ nonzero]
  congr 1
  omega

theorem scaled_div (n d : Nat) (e : Int) :
    ((scaled n d e).1 : Rat) / (scaled n d e).2 = n / d / 2 ^ e := by
  rw [← pow_toNat_div two_ne_zero e]
  unfold scaled
  split
  next =>
    have none : (-e).toNat = 0 := by omega
    simp [none, div_div]
  next =>
    have none : e.toNat = 0 := by omega
    simp [none, mul_div_right_comm]

/-- The digits kept of a value do not exceed it. -/
theorem significand_le (n d : Nat) (e : Int) :
    (((scaled n d e).1 / (scaled n d e).2 : Nat) : Rat) * 2 ^ e ≤ n / d := by
  have unit : (0 : Rat) < 2 ^ e := by positivity
  calc (((scaled n d e).1 / (scaled n d e).2 : Nat) : Rat) * 2 ^ e
      ≤ (scaled n d e).1 / (scaled n d e).2 * 2 ^ e :=
        mul_le_mul_of_nonneg_right Nat.cast_div_le unit.le
    _ = n / d := by rw [scaled_div, div_mul_cancel₀ _ unit.ne']

theorem lt_unitExponent (positive : 0 < d) :
    (n : Rat) / d < 2 ^ (unitExponent n d + 54) := by
  have above : (n : Rat) < 2 ^ (Nat.log2 n + 1) := by exact_mod_cast Nat.lt_log2_self
  have below : (2 : Rat) ^ Nat.log2 d ≤ d := by exact_mod_cast Nat.log2_self_le positive.ne'
  have guess : (Nat.log2 n : Int) - Nat.log2 d - 53 ≤ unitExponent n d := by
    unfold unitExponent
    simp only
    split <;> omega
  calc (n : Rat) / d < 2 ^ (Nat.log2 n + 1) / 2 ^ Nat.log2 d :=
        div_lt_div₀ above below (by positivity) (by positivity)
    _ = 2 ^ ((Nat.log2 n : Int) - Nat.log2 d - 53 + 54) := by
        rw [← zpow_natCast, ← zpow_natCast, ← zpow_sub₀ two_ne_zero]
        congr 1
        push_cast
        ring
    _ ≤ 2 ^ (unitExponent n d + 54) := zpow_le_zpow_right₀ one_le_two (by omega)

theorem significand_lt (positive : 0 < d) :
    (scaled n d (unitExponent n d)).1 / (scaled n d (unitExponent n d)).2 < 2 ^ 54 := by
  have unit : (0 : Rat) < 2 ^ unitExponent n d := by positivity
  have below := lt_of_le_of_lt (significand_le n d (unitExponent n d)) (lt_unitExponent positive)
  rw [add_comm, zpow_add₀ two_ne_zero] at below
  exact_mod_cast lt_of_mul_lt_mul_right below unit.le

end Binary64

namespace Decimal

variable {n d : Nat}

theorem length_digits_le {k : Nat} (positive : 0 < k) :
    (digits n).length ≤ k ↔ n < 10 ^ k :=
  Nat.length_toDigits_le_iff (by decide) positive

theorem length_digits_pos (n : Nat) : 0 < (digits n).length := Nat.length_toDigits_pos

theorem lt_ten_pow_length (n : Nat) : n < 10 ^ (digits n).length :=
  (length_digits_le (length_digits_pos n)).mp le_rfl

theorem ten_pow_le {n : Nat} (positive : 0 < n) : 10 ^ ((digits n).length - 1) ≤ n := by
  have some := length_digits_pos n
  rcases Nat.eq_or_lt_of_le some with one | more
  · rw [← one]
    exact positive
  · by_contra less
    have shorter := (length_digits_le (Nat.sub_pos_of_lt more)).mpr (Nat.lt_of_not_le less)
    omega

/-- A value lies below the power of ten that its magnitude names. -/
theorem lt_magnitude (hn : 0 < n) (hd : 0 < d) : (n : Rat) / d < 10 ^ magnitude n d := by
  have denominator : (0 : Rat) < d := by exact_mod_cast hd
  rw [div_lt_iff₀ denominator]
  unfold magnitude
  split
  next =>
    rw [zpow_natCast]
    have below : n < 10 ^ (digits (n / d)).length * d :=
      (Nat.div_lt_iff_lt_mul hd).mp (lt_ten_pow_length (n / d))
    exact_mod_cast below
  next less =>
    have positive : 0 < d / n := Nat.div_pos (by omega) hn
    have some := length_digits_pos (d / n)
    have le : n * 10 ^ ((digits (d / n)).length - 1) ≤ d :=
      le_trans (Nat.mul_le_mul_left n (ten_pow_le positive)) (Nat.mul_div_le d n)
    generalize (digits (d / n)).length = k at some le ⊢
    have power : (10 : Rat) ^ (1 - (k : Int)) * 10 ^ (k - 1) = 1 := by
      rw [← zpow_natCast, ← zpow_add₀ (by norm_num)]
      have none : 1 - (k : Int) + ((k - 1 : Nat) : Int) = 0 := by omega
      rw [none, zpow_zero]
    simp only [Nat.pow_eq]
    split
    next equal =>
      have value : (n : Rat) = 10 ^ (1 - (k : Int)) * d := by
        rw [← equal]
        push_cast
        rw [mul_comm (n : Rat), ← mul_assoc, power, one_mul]
      rw [value]
      refine mul_lt_mul_of_pos_right ?_ denominator
      exact zpow_lt_zpow_right₀ (by norm_num) (by omega)
    next unequal =>
      have lt : (n : Rat) * 10 ^ (k - 1) < d := by
        exact_mod_cast lt_of_le_of_ne le unequal
      calc (n : Rat) = 10 ^ (1 - (k : Int)) * (n * 10 ^ (k - 1)) := by
            rw [mul_left_comm, power, mul_one]
        _ < 10 ^ (1 - (k : Int)) * d := mul_lt_mul_of_pos_left lt (by positivity)

theorem magnitude_range (hd : d ≤ 2 ^ 1074) (below : n < 2 ^ 1024 * d) :
    -324 ≤ magnitude n d ∧ magnitude n d ≤ 309 := by
  unfold magnitude
  split
  next le =>
    have positive : 0 < d := by
      rcases Nat.eq_zero_or_pos d with rfl | positive
      · rw [Nat.mul_zero] at below
        exact absurd below (Nat.not_lt_zero n)
      · exact positive
    have short : (digits (n / d)).length ≤ 309 := by
      refine (length_digits_le (by decide)).mpr (lt_trans ?_ (by decide +kernel : 2 ^ 1024 < 10 ^ 309))
      exact (Nat.div_lt_iff_lt_mul positive).mpr below
    omega
  next less =>
    have short : (digits (d / n)).length ≤ 324 := by
      refine (length_digits_le (by decide)).mpr ?_
      exact lt_of_le_of_lt (le_trans (Nat.div_le_self d n) hd) (by decide +kernel)
    have some := length_digits_pos (d / n)
    simp only
    split <;> omega

variable {m c : Nat} {e g p : Int}

theorem le_of_onGrid? (found : onGrid? m e g = some c) : (c : Rat) ≤ m * 2 ^ e / 10 ^ g + 1 := by
  have two := Binary64.pow_toNat_div (b := 2) two_ne_zero (e - 2)
  have ten := Binary64.pow_toNat_div (b := 10) (by norm_num) g
  rw [neg_sub] at two
  have quotient : ((4 * m * (2 ^ (e - 2).toNat * 10 ^ (-g).toNat) /
      (2 ^ (2 - e).toNat * 10 ^ g.toNat) : Nat) : Rat) ≤ m * 2 ^ e / 10 ^ g := by
    refine le_trans Nat.cast_div_le (le_of_eq ?_)
    have unit : (2 : Rat) ^ e = 2 ^ (e - 2) * 4 := by
      rw [zpow_sub₀ two_ne_zero]
      norm_num
    rw [← ten, unit, ← two]
    push_cast
    field_simp
  have near : c ≤ 4 * m * (2 ^ (e - 2).toNat * 10 ^ (-g).toNat) /
      (2 ^ (2 - e).toNat * 10 ^ g.toNat) + 1 := by
    unfold onGrid? at found
    simp only [Nat.pow_eq] at found
    split at found
    · cases found
    · cases found; omega
    · cases found; omega
    · split at found
      · cases found; omega
      · split at found
        · cases found; omega
        · split at found <;> cases found <;> omega
  have cast : (c : Rat) ≤ ((4 * m * (2 ^ (e - 2).toNat * 10 ^ (-g).toNat) /
      (2 ^ (2 - e).toNat * 10 ^ g.toNat) : Nat) : Rat) + 1 := by exact_mod_cast near
  exact le_trans cast (by linarith)

/-- The search stops at a decimal of at most 18 digits, below the magnitude. -/
theorem search_bounds (small : m < 2 ^ 54) (below : (m : Rat) * 2 ^ e < 10 ^ p)
    {tries count : Nat} (some : 0 < count) (all : tries + count = 18) :
    (search m e p tries count).1 < 10 ^ 18 ∧ p - 18 ≤ (search m e p tries count).2 ∧
      (search m e p tries count).2 < p := by
  fun_induction search m e p tries count with
  | case1 count => simp only; omega
  | case2 tries count c found =>
    have power : (0 : Rat) < 10 ^ (p - count) := by positivity
    have quotient : (m : Rat) * 2 ^ e / 10 ^ (p - count) < 10 ^ count := by
      rw [div_lt_iff₀ power, ← zpow_natCast, ← zpow_add₀ (by norm_num), add_sub_cancel]
      exact below
    have digits : c < 10 ^ count + 1 := by
      exact_mod_cast lt_of_le_of_lt (le_of_onGrid? found) (add_lt_add_left quotient 1)
    have most : 10 ^ count ≤ 10 ^ 17 := Nat.pow_le_pow_right (by decide) (by omega)
    refine ⟨by omega, by simp only; omega, by simp only; omega⟩
  | case3 tries count _ ih => exact ih (by omega) (by omega)

theorem trimZeros_bounds (k c : Nat) (g : Int) :
    (trimZeros k c g).1 ≤ c ∧ g ≤ (trimZeros k c g).2 ∧ (trimZeros k c g).2 ≤ g + k := by
  fun_induction trimZeros k c g with
  | case1 => simp
  | case2 k c g _ ih => omega
  | case3 => simp only; omega

theorem trimmed_bounds {r : Nat × Int} (range : -324 ≤ p ∧ p ≤ 309)
    (found : r.1 < 10 ^ 18 ∧ p - 18 ≤ r.2 ∧ r.2 < p) :
    (trimZeros 20 r.1 r.2).1 < 10 ^ 18 ∧ -400 ≤ (trimZeros 20 r.1 r.2).2 ∧
      (trimZeros 20 r.1 r.2).2 ≤ 400 := by
  have trimmed := trimZeros_bounds 20 r.1 r.2
  omega

/-- What holds of the decimal found, trimmed, holds of the shortest decimal. -/
theorem shortest_of {P : Nat × Int → Prop} {n d : Nat}
    (found : ∀ r, r = search ((Binary64.scaled n d (Binary64.unitExponent n d)).1 /
        (Binary64.scaled n d (Binary64.unitExponent n d)).2)
        (Binary64.unitExponent n d) (magnitude n d) 17 1 → P (trimZeros 20 r.1 r.2)) :
    P (shortest n d) := by
  -- opened as a function: applied, its calls would be evaluated
  generalize opened : shortest = f
  delta shortest at opened
  subst opened
  beta_reduce
  lift_lets
  intro e
  split
  next a b scaled =>
    split
    next c g searched =>
      rw [scaled] at found
      exact found (c, g) searched.symm

/-- Positive binary64 values are written with at most 18 digits and a short exponent. -/
theorem shortest_bounds (hn : 0 < n) (positive : 0 < d) (hd : d ≤ 2 ^ 1074)
    (below : n < 2 ^ 1024 * d) :
    (shortest n d).1 < 10 ^ 18 ∧ -400 ≤ (shortest n d).2 ∧ (shortest n d).2 ≤ 400 := by
  have significand := lt_of_le_of_lt (Binary64.significand_le n d (Binary64.unitExponent n d))
    (lt_magnitude hn positive)
  have found := search_bounds (Binary64.significand_lt positive) significand Nat.one_pos
    (by decide : 17 + 1 = 18)
  refine shortest_of (P := fun r => r.1 < 10 ^ 18 ∧ -400 ≤ r.2 ∧ r.2 ≤ 400) fun r same => ?_
  rw [← same] at found
  exact trimmed_bounds (magnitude_range hd below) found

theorem length_layout_le {ds : List Char} {point : Int} (short : ds.length ≤ 18)
    (near : point.natAbs ≤ 1000) : (layout ds point).length ≤ 25 := by
  have exponent : (digits (point - 1).natAbs).length ≤ 4 :=
    (length_digits_le (by decide)).mpr (by omega)
  unfold layout
  simp only
  split
  next =>
    rw [List.length_append, List.length_replicate]
    omega
  next =>
    split
    next =>
      rw [List.length_append, List.length_take, List.length_cons, List.length_drop]
      omega
    next =>
      split
      next =>
        simp only [List.length_append, List.length_cons, List.length_replicate]
        omega
      next =>
        rw [List.length_append, List.length_cons, List.length_cons]
        split
        all_goals
          simp only [List.length_cons, List.length_nil] at short ⊢
          omega

theorem mem_layout {ds : List Char} {point : Int} {c : Char} (h : c ∈ layout ds point) :
    c ∈ ds ∨ c.isDigit = true ∨ c ∈ ['.', 'e', '+', '-'] := by
  unfold layout at h
  simp only at h
  split at h
  next =>
    rcases List.mem_append.mp h with h | h
    · exact Or.inl h
    · exact Or.inr (Or.inl (List.eq_of_mem_replicate h ▸ rfl))
  next =>
    split at h
    next =>
      rcases List.mem_append.mp h with h | h
      · exact Or.inl (List.mem_of_mem_take h)
      · rcases List.mem_cons.mp h with rfl | h
        · simp
        · exact Or.inl (List.mem_of_mem_drop h)
    next =>
      split at h
      next =>
        rcases List.mem_append.mp h with h | h
        · simp only [List.mem_cons, List.mem_replicate] at h
          rcases h with rfl | rfl | ⟨-, rfl⟩
          all_goals simp [Char.isDigit]
        · exact Or.inl h
      next =>
        have exponent : ∀ {n}, c ∈ digits n → c.isDigit = true := Numeral.isDigit_digits
        split at h
        all_goals
          split at h
          all_goals
            simp only [List.nil_append, List.cons_append, List.mem_cons, List.mem_append] at h ⊢
            rcases h with h
            grind

end Decimal

namespace Number

/-- A number that rounding keeps, as every number of a run is. -/
def isBinary64 : Number → Bool
  | .finite q => decide (ofRat q = .finite q)
  | _ => true

end Number

namespace Binary64

theorem den_ofParts (m : Nat) {e : Int} (least : -1074 ≤ e) : (ofParts m e).den ≤ 2 ^ 1074 := by
  unfold ofParts
  split
  next =>
    rw [Rat.den_natCast]
    exact one_le_pow₀ one_le_two
  next =>
    have power : ∀ k, Nat.pow 2 k = 2 ^ k := fun _ => rfl
    have fits : (-e).toNat ≤ 1074 := by omega
    rw [power, Rat.den_mkRat, if_neg (pow_pos two_pos _).ne']
    exact le_trans (Nat.div_le_self _ _) (pow_le_pow_right₀ one_le_two fits)

theorem ofParts_nonneg (m : Nat) (e : Int) : 0 ≤ ofParts m e := by
  unfold ofParts
  split
  next => exact Nat.cast_nonneg _
  next =>
    rw [Rat.mkRat_eq_div]
    positivity

/-- A rounded magnitude that is not zero is a row of digits at some unit, and in range. -/
theorem parts_of_roundMagnitude {n d : Nat} {q : Rat} (h : roundMagnitude n d = some q) :
    q = 0 ∨ ∃ m e, -1074 ≤ e ∧ q = ofParts m e ∧ q < (2 ^ 1024 : Nat) := by
  unfold roundMagnitude at h
  split at h
  next => exact Or.inl (Option.some.inj h).symm
  next =>
    have least : -1074 ≤ unitExponent n d := le_max_right _ _
    extract_lets e at h
    split at h
    next a b _ =>
      extract_lets value at h
      split at h
      next => cases h
      next inRange =>
        have same : value = q := Option.some.inj h
        have power : ∀ k, Nat.pow 2 k = 2 ^ k := fun _ => rfl
        simp only [power, same] at inRange
        exact Or.inr ⟨nearestEven a b, e, least, same.symm, not_le.mp inRange⟩

/-- A rounded magnitude has a small denominator and stays below the first power out of range. -/
theorem roundMagnitude_bounds {n d : Nat} {q : Rat} (h : roundMagnitude n d = some q) :
    q.den ≤ 2 ^ 1074 ∧ q.num.natAbs < 2 ^ 1024 * q.den := by
  rcases parts_of_roundMagnitude h with zero | ⟨m, e, least, parts, inRange⟩
  · rw [zero]
    exact ⟨one_le_pow₀ one_le_two, Nat.mul_pos (pow_pos two_pos _) Nat.one_pos⟩
  · have nonneg : 0 ≤ q := by
      rw [parts]
      exact ofParts_nonneg m e
    have numerator : (q.num.natAbs : Rat) = q * q.den := by
      rw [Rat.mul_den_eq_num, Nat.cast_natAbs, abs_of_nonneg (Rat.num_nonneg.mpr nonneg)]
    have denominator : (0 : Rat) < q.den := Nat.cast_pos.mpr q.pos
    have small : q.den ≤ 2 ^ 1074 := by
      rw [parts]
      exact den_ofParts m least
    refine ⟨small, ?_⟩
    have below := mul_lt_mul_of_pos_right inRange denominator
    rw [← numerator, ← Nat.cast_mul] at below
    exact Nat.cast_lt.mp below

end Binary64

namespace Number

theorem bounds_of_isBinary64 {q : Rat} (h : (finite q).isBinary64 = true) :
    q.den ≤ 2 ^ 1074 ∧ q.num.natAbs < 2 ^ 1024 * q.den := by
  have kept : ofRat q = .finite q := of_decide_eq_true h
  unfold ofRat at kept
  split at kept
  next whole =>
    rw [whole.1]
    refine ⟨one_le_pow₀ one_le_two, ?_⟩
    rw [Nat.mul_one]
    exact lt_of_le_of_lt whole.2 (by decide +kernel)
  next =>
    cases rounded : Binary64.roundMagnitude q.num.natAbs q.den with
    | none => rw [rounded] at kept; cases kept
    | some m =>
      have bounds := Binary64.roundMagnitude_bounds rounded
      rw [rounded] at kept
      simp only [finite.injEq] at kept
      split at kept
      next => rw [← kept, Rat.neg_den, Rat.neg_num, Int.natAbs_neg]; exact bounds
      next => rwa [← kept]

/-- A finite number is written as an integer or as a decimal behind its sign. -/
theorem text_finite (q : Rat) : (q.den = 1 ∧ q.num.natAbs ≤ exactLimit ∧
      (finite q).text = Decimal.integerText q.num) ∨
    (¬ (q.den = 1 ∧ q.num.natAbs ≤ exactLimit) ∧
      ∃ c g, (c, g) = Decimal.shortest q.num.natAbs q.den ∧ (finite q).text.toList =
        (if q < 0 then ['-'] else []) ++
          Decimal.layout (Decimal.digits c) ((Decimal.digits c).length + g)) := by
  generalize opened : text = f
  delta text at opened
  subst opened
  beta_reduce
  split
  next impossible => cases impossible
  next impossible => cases impossible
  next same =>
    cases same
    split
    next whole => exact Or.inl ⟨whole.1, whole.2, rfl⟩
    next other =>
      split
      next c g found =>
        refine Or.inr ⟨other, c, g, found.symm, ?_⟩
        extract_lets ds body
        split <;> simp [ds, body]

theorem visible_of_all {cs : List Char} {c : Char}
    (h : cs.all fun c => 32 < c.toNat ∧ c.toNat < 127) (hc : c ∈ cs) :
    32 < c.toNat ∧ c.toNat < 127 := of_decide_eq_true (List.all_eq_true.mp h c hc)

/-- The characters of a number's text are visible ASCII characters. -/
theorem mem_text {n : Number} {c : Char} (h : c ∈ n.text.toList) :
    32 < c.toNat ∧ c.toNat < 127 := by
  have digit : c.isDigit = true → 32 < c.toNat ∧ c.toNat < 127 := fun h => by
    have : 48 ≤ c.toNat ∧ c.toNat ≤ 57 := Char.isDigit_iff_toNat.mp h
    omega
  have mark : ∀ c ∈ ['.', 'e', '+', '-'], 32 < c.toNat ∧ c.toNat < 127 :=
    fun _ => visible_of_all (by decide)
  have sign : ∀ {p : Prop} [Decidable p], c ∈ (if p then ['-'] else []) →
      32 < c.toNat ∧ c.toNat < 127 := fun h => by
    split at h
    · exact mark c (by simp [List.mem_singleton.mp h])
    · cases h
  cases n with
  | nan => exact visible_of_all (by decide) h
  | infinity negative => cases negative <;> exact visible_of_all (by decide) h
  | finite q =>
    rcases text_finite q with ⟨-, -, written⟩ | ⟨-, k, g, -, written⟩
    · rw [written, Numeral.toList_integerText] at h
      exact (List.mem_append.mp h).elim sign fun h => digit (Numeral.isDigit_digits h)
    · rw [written] at h
      rcases List.mem_append.mp h with h | h
      · exact sign h
      · rcases Decimal.mem_layout h with h | h | h
        · exact digit (Numeral.isDigit_digits h)
        · exact digit h
        · exact mark c h

theorem length_text_le {n : Number} (rounded : n.isBinary64 = true) :
    n.text.toList.length ≤ 26 := by
  have sign : ∀ {p : Prop} [Decidable p], (if p then ['-'] else []).length ≤ 1 := by
    intro p _
    split <;> decide
  cases n with
  | nan => decide
  | infinity negative => cases negative <;> decide
  | finite q =>
    rcases text_finite q with ⟨-, small, written⟩ | ⟨large, c, g, found, written⟩
    · have short : (Decimal.digits q.num.natAbs).length ≤ 16 :=
        (Decimal.length_digits_le (by decide)).mpr (lt_of_le_of_lt small (by decide))
      rw [written, Numeral.toList_integerText, List.length_append]
      have := @sign (q.num < 0) _
      omega
    · obtain ⟨den, num⟩ := bounds_of_isBinary64 rounded
      have positive : 0 < q.num.natAbs := by
        rcases Nat.eq_zero_or_pos q.num.natAbs with zero | positive
        · refine absurd ⟨?_, zero ▸ Nat.zero_le _⟩ large
          rw [Rat.num_eq_zero.mp (Int.natAbs_eq_zero.mp zero)]
          rfl
        · exact positive
      obtain ⟨digits, low, high⟩ := found ▸ Decimal.shortest_bounds positive q.pos den num
      have short : (Decimal.digits c).length ≤ 18 :=
        (Decimal.length_digits_le (by decide)).mpr digits
      have near : ((Decimal.digits c).length + g : Int).natAbs ≤ 1000 := by
        simp only at low high
        omega
      have body := Decimal.length_layout_le short near
      rw [written, List.length_append]
      have := @sign (q < 0) _
      omega

/-- The text of a binary64 number has at most 26 units. -/
theorem size_text_le {n : Number} (rounded : n.isBinary64 = true) : Text.size n.text ≤ 26 := by
  have plane : ∀ c ∈ n.text.toList, c.toNat < 0x10000 := fun c hc =>
    lt_trans (mem_text hc).2 (by decide)
  rw [Text.size_eq_width, Text.width_eq_length plane]
  exact length_text_le rounded

end Number

end ShapedTree
