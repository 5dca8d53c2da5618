import Countersign.Decimal.Shortest
import Mathlib

/-!
What a binary number stands for, and which ratios round to it: those between its two neighbouring
midpoints, with the midpoints themselves when its mantissa is even.
-/

namespace Countersign.Decimal

theorem one_lt_ten : (1 : ℚ) < 10 := by norm_num

theorem zpow_eq_div (b : ℚ) (e : ℤ) : b ^ e = b ^ e.toNat / b ^ (-e).toNat := by
  rcases Int.le_total 0 e with h | h
  · obtain ⟨n, rfl⟩ := Int.eq_ofNat_of_zero_le h
    simp
  · obtain ⟨n, hn⟩ := Int.eq_ofNat_of_zero_le (Int.neg_nonneg.2 h)
    obtain rfl : e = -n := by omega
    simp

namespace Binary64

/-! ### Rounding a ratio to an integer -/

theorem roundDiv_eq {num den k : ℕ} (hlow : 2 * (k * den) ≤ 2 * num + den)
    (hhigh : 2 * num ≤ 2 * (k * den) + den)
    (htie : 2 * (k * den) = 2 * num + den ∨ 2 * num = 2 * (k * den) + den → k % 2 = 0)
    (hden : 0 < den) : roundDiv num den = k := by
  have hdiv : num = num / den * den + num % den := (Nat.div_add_mod' num den).symm
  have hmod := Nat.mod_lt num hden
  rw [roundDiv]
  generalize num / den = q at *
  generalize num % den = r at *
  have hle : k ≤ q + 1 := by
    by_contra hgt
    have := Nat.mul_le_mul_right den (show q + 2 ≤ k by omega)
    rw [Nat.add_mul] at this
    omega
  have hge : q ≤ k := by
    by_contra hlt
    have := Nat.mul_le_mul_right den (show k + 1 ≤ q by omega)
    rw [Nat.add_mul] at this
    omega
  rcases (show k = q ∨ k = q + 1 by omega) with rfl | rfl
  · split_ifs <;> omega
  · rw [Nat.add_mul] at hlow hhigh htie
    split_ifs <;> omega

/-- The integer nearest to `t`, the even one where two are. -/
def IsNearest (k : ℕ) (t : ℚ) : Prop :=
  2 * (k : ℚ) - 1 < 2 * t ∧ 2 * t < 2 * k + 1 ∨
    k % 2 = 0 ∧ 2 * (k : ℚ) - 1 ≤ 2 * t ∧ 2 * t ≤ 2 * k + 1

theorem roundDiv_of_isNearest {num den k : ℕ} (hden : 0 < den)
    (h : IsNearest k (num / den)) : roundDiv num den = k := by
  have hden' : (0 : ℚ) < den := by exact_mod_cast hden
  generalize ht : (num / den : ℚ) = t at h
  have hnum : (num : ℚ) = t * den := by rw [← ht]; field_simp
  have hbetween : 2 * (k : ℚ) - 1 ≤ 2 * t ∧ 2 * t ≤ 2 * k + 1 := by
    rcases h with ⟨h1, h2⟩ | ⟨-, h⟩
    · exact ⟨h1.le, h2.le⟩
    · exact h
  refine roundDiv_eq ?_ ?_ ?_ hden
  · have : 2 * ((k : ℚ) * den) ≤ 2 * num + den := by rw [hnum]; nlinarith
    exact_mod_cast this
  · have : 2 * (num : ℚ) ≤ 2 * (k * den) + den := by rw [hnum]; nlinarith
    exact_mod_cast this
  · intro htie
    rcases h with ⟨h1, h2⟩ | ⟨heven, -⟩
    · exfalso
      rcases htie with htie | htie
      · have : 2 * ((k : ℚ) * den) = 2 * num + den := by exact_mod_cast htie
        rw [hnum] at this
        nlinarith
      · have : 2 * (num : ℚ) = 2 * (k * den) + den := by exact_mod_cast htie
        rw [hnum] at this
        nlinarith
    · exact heven

theorem roundDiv_le {num den k : ℕ} (hden : 0 < den) (h : num ≤ k * den) :
    roundDiv num den ≤ k := by
  have hdiv : num = num / den * den + num % den := (Nat.div_add_mod' num den).symm
  have hq : num / den ≤ k := Nat.div_le_of_le_mul (by rwa [Nat.mul_comm])
  rw [roundDiv]
  rcases hq.eq_or_lt with hq | hq
  · rw [hq] at hdiv
    have hr : num % den = 0 := by omega
    simp [hr, hden, hq]
  · split_ifs <;> omega

theorem le_roundDiv {num den k : ℕ} (hden : 0 < den) (h : k * den ≤ num) :
    k ≤ roundDiv num den := by
  have hq : k ≤ num / den := (Nat.le_div_iff_mul_le hden).2 h
  rw [roundDiv]
  split_ifs <;> omega

theorem scaled_div (num : ℕ) {den : ℕ} (hden : 0 < den) (e : ℤ) :
    ((num * 2 ^ (-e).toNat : ℕ) : ℚ) / (den * 2 ^ e.toNat : ℕ) = num / den / 2 ^ e := by
  have : (den : ℚ) ≠ 0 := by exact_mod_cast hden.ne'
  rw [zpow_eq_div 2]
  push_cast
  field_simp

theorem roundDiv_scaled_le {num den : ℕ} (hden : 0 < den) {e : ℤ}
    (h : (num / den : ℚ) ≤ 2 ^ (53 + e)) :
    roundDiv (num * 2 ^ (-e).toNat) (den * 2 ^ e.toNat) ≤ 2 ^ 53 := by
  have hpos : 0 < den * 2 ^ e.toNat := by positivity
  apply roundDiv_le hpos
  have hratio : (num / den / 2 ^ e : ℚ) ≤ 2 ^ 53 := by
    rw [div_le_iff₀ (by positivity)]
    rw [zpow_add₀ (by norm_num)] at h
    exact_mod_cast h
  rw [← scaled_div num hden, div_le_iff₀ (by exact_mod_cast hpos)] at hratio
  exact_mod_cast hratio

theorem le_roundDiv_scaled {num den : ℕ} (hden : 0 < den) {e : ℤ}
    (h : (2 : ℚ) ^ (52 + e) ≤ num / den) :
    2 ^ 52 ≤ roundDiv (num * 2 ^ (-e).toNat) (den * 2 ^ e.toNat) := by
  have hpos : 0 < den * 2 ^ e.toNat := by positivity
  apply le_roundDiv hpos
  have hratio : (2 : ℚ) ^ 52 ≤ num / den / 2 ^ e := by
    rw [le_div_iff₀ (by positivity)]
    rw [zpow_add₀ (by norm_num)] at h
    exact_mod_cast h
  rw [← scaled_div num hden, le_div_iff₀ (by exact_mod_cast hpos)] at hratio
  exact_mod_cast hratio

/-! ### The order of magnitude of a ratio -/

theorem binaryOrder_spec {num den : ℕ} (hnum : 0 < num) (hden : 0 < den) :
    (2 : ℚ) ^ binaryOrder num den ≤ num / den ∧
      (num / den : ℚ) < 2 ^ (binaryOrder num den + 1) := by
  have hden' : (0 : ℚ) < den := by exact_mod_cast hden
  have hnumLow : (2 : ℚ) ^ (Nat.log2 num : ℤ) ≤ num := by
    exact_mod_cast Nat.log2_self_le hnum.ne'
  have hnumHigh : (num : ℚ) < 2 ^ ((Nat.log2 num : ℤ) + 1) := by
    exact_mod_cast Nat.lt_log2_self
  have hdenLow : (2 : ℚ) ^ (Nat.log2 den : ℤ) ≤ den := by
    exact_mod_cast Nat.log2_self_le hden.ne'
  have hdenHigh : (den : ℚ) < 2 ^ ((Nat.log2 den : ℤ) + 1) := by
    exact_mod_cast Nat.lt_log2_self
  rw [binaryOrder]
  -- the difference of the bit lengths is the order, or one more than it
  generalize hdiff : (Nat.log2 num : ℤ) - Nat.log2 den = e
  have hnumExp : (Nat.log2 num : ℤ) = e + Nat.log2 den := by omega
  rw [hnumExp] at hnumLow hnumHigh
  have hupper : (num / den : ℚ) < 2 ^ (e + 1) := by
    rw [div_lt_iff₀ hden']
    refine hnumHigh.trans_le ?_
    rw [show e + Nat.log2 den + 1 = e + 1 + Nat.log2 den by ring, zpow_add₀ (by norm_num)]
    gcongr
  have hlower : (2 : ℚ) ^ (e - 1) ≤ num / den := by
    rw [le_div_iff₀ hden']
    refine le_trans ?_ hnumLow
    rw [show e + (Nat.log2 den : ℤ) = e - 1 + (Nat.log2 den + 1) by ring, zpow_add₀ (by norm_num)]
    gcongr
  have hcompare : den * 2 ^ e.toNat ≤ num * 2 ^ (-e).toNat ↔ (2 : ℚ) ^ e ≤ num / den := by
    rw [le_div_iff₀ hden', zpow_eq_div 2, div_mul_eq_mul_div, div_le_iff₀ (by positivity), mul_comm]
    exact_mod_cast Iff.rfl
  split_ifs with h
  · exact ⟨hcompare.1 h, hupper⟩
  · rw [hcompare, not_le] at h
    exact ⟨hlower, by simpa using h⟩

theorem binaryOrder_eq {num den : ℕ} (hnum : 0 < num) (hden : 0 < den) {e : ℤ}
    (hlow : (2 : ℚ) ^ e ≤ num / den) (hhigh : (num / den : ℚ) < 2 ^ (e + 1)) :
    binaryOrder num den = e := by
  obtain ⟨hle, hlt⟩ := binaryOrder_spec hnum hden
  have h1 := (zpow_lt_zpow_iff_right₀ one_lt_two).1 (hlow.trans_lt hlt)
  have h2 := (zpow_lt_zpow_iff_right₀ one_lt_two).1 (hle.trans_lt hhigh)
  omega

/-! ### The ratios that round to a number -/

structure WellFormed (x : Binary64) : Prop where
  mantissa_lt : x.mantissa < 2 ^ 53
  least_le : leastExponent ≤ x.exponent
  le_greatest : x.exponent ≤ greatestExponent
  normal : 2 ^ 52 ≤ x.mantissa ∨ x.exponent = leastExponent

def magnitude (x : Binary64) : ℚ :=
  x.mantissa * 2 ^ x.exponent

def lower (x : Binary64) : ℚ :=
  (4 * x.mantissa - x.gapBelow) * 2 ^ (x.exponent - 2)

def upper (x : Binary64) : ℚ :=
  (4 * x.mantissa + 2) * 2 ^ (x.exponent - 2)

def Rounds (x : Binary64) (q : ℚ) : Prop :=
  x.lower < q ∧ q < x.upper ∨ x.mantissa % 2 = 0 ∧ (q = x.lower ∨ q = x.upper)

variable {x : Binary64} {q : ℚ}

theorem gapBelow_pos (x : Binary64) : 1 ≤ x.gapBelow := by
  unfold gapBelow
  split <;> decide

theorem gapBelow_le (x : Binary64) : x.gapBelow ≤ 2 := by
  unfold gapBelow
  split <;> decide

theorem quarter (e : ℤ) : (2 : ℚ) ^ (e - 2) = 2 ^ e / 4 := by
  rw [zpow_sub₀ (by norm_num)]
  norm_num

theorem lower_eq (x : Binary64) : x.lower = (x.mantissa - x.gapBelow / 4) * 2 ^ x.exponent := by
  rw [lower, quarter]
  ring

theorem upper_eq (x : Binary64) : x.upper = (x.mantissa + 1 / 2) * 2 ^ x.exponent := by
  rw [upper, quarter]
  ring

theorem lower_lt_upper (x : Binary64) : x.lower < x.upper := by
  unfold lower upper
  have hgap : (1 : ℚ) ≤ x.gapBelow := by exact_mod_cast x.gapBelow_pos
  have : (0 : ℚ) < 2 ^ (x.exponent - 2) := by positivity
  gcongr
  linarith

theorem Rounds.between (h : x.Rounds q) : x.lower ≤ q ∧ q ≤ x.upper := by
  rcases h with ⟨hlow, hhigh⟩ | ⟨-, rfl | rfl⟩
  · exact ⟨hlow.le, hhigh.le⟩
  · exact ⟨le_rfl, x.lower_lt_upper.le⟩
  · exact ⟨x.lower_lt_upper.le, le_rfl⟩

theorem Rounds.pos (hm : 0 < x.mantissa) (h : x.Rounds q) : 0 < q := by
  refine lt_of_lt_of_le ?_ h.between.1
  have hgap : (x.gapBelow : ℚ) ≤ 2 := by exact_mod_cast x.gapBelow_le
  have hm' : (1 : ℚ) ≤ x.mantissa := by exact_mod_cast hm
  unfold lower
  have : (0 : ℚ) < 4 * x.mantissa - x.gapBelow := by linarith
  positivity

theorem Rounds.scaled (h : x.Rounds q) :
    IsNearest x.mantissa (q / 2 ^ x.exponent) := by
  have hgap : (x.gapBelow : ℚ) ≤ 2 := by exact_mod_cast x.gapBelow_le
  have hpos : (0 : ℚ) < 2 ^ x.exponent := by positivity
  generalize ht : q / 2 ^ x.exponent = t
  obtain rfl : q = t * 2 ^ x.exponent := by rw [← ht]; field_simp
  rcases h with ⟨h1, h2⟩ | ⟨heven, h⟩
  · rw [lower_eq, mul_lt_mul_iff_left₀ hpos] at h1
    rw [upper_eq, mul_lt_mul_iff_left₀ hpos] at h2
    left
    constructor <;> linarith
  · rw [lower_eq, upper_eq, mul_left_inj' hpos.ne', mul_left_inj' hpos.ne'] at h
    right
    have hgap' : (1 : ℚ) ≤ x.gapBelow := by exact_mod_cast x.gapBelow_pos
    rcases h with rfl | rfl <;> exact ⟨heven, by linarith, by linarith⟩

theorem WellFormed.upper_lt (hx : x.WellFormed) : x.upper < 2 ^ (53 + x.exponent) := by
  have hm : (x.mantissa : ℚ) + 1 ≤ 2 ^ 53 := by exact_mod_cast hx.mantissa_lt
  rw [upper_eq, zpow_add₀ (by norm_num)]
  gcongr
  norm_num at hm ⊢
  linarith

theorem WellFormed.boundary (hx : x.WellFormed) (he : x.exponent ≠ leastExponent)
    (h : x.Rounds q) (hq : q < 2 ^ (52 + x.exponent)) :
    x.mantissa = 2 ^ 52 ∧ ((2 : ℚ) ^ 52 - 1 / 4) * 2 ^ x.exponent ≤ q := by
  have hle : leastExponent < x.exponent := lt_of_le_of_ne hx.least_le (Ne.symm he)
  have hpos : (0 : ℚ) < 2 ^ x.exponent := by positivity
  have hlow := h.between.1
  rw [lower_eq] at hlow
  have hgap : (x.gapBelow : ℚ) ≤ 2 := by exact_mod_cast x.gapBelow_le
  have hlt : (x.mantissa : ℚ) - x.gapBelow / 4 < 2 ^ 52 := by
    have := hlow.trans_lt hq
    rw [zpow_add₀ (by norm_num)] at this
    exact_mod_cast lt_of_mul_lt_mul_right this hpos.le
  have hmantissa : x.mantissa = 2 ^ 52 := by
    refine le_antisymm ?_ (hx.normal.resolve_right he)
    have : (x.mantissa : ℚ) < 2 ^ 52 + 1 := by linarith
    exact Nat.lt_succ_iff.1 (by exact_mod_cast this)
  have hone : x.gapBelow = 1 := by
    unfold gapBelow
    rw [if_pos ⟨hmantissa, hle⟩]
  rw [hmantissa, hone] at hlow
  exact ⟨hmantissa, by exact_mod_cast hlow⟩

theorem roundDiv_boundary {num den : ℕ} (hden : 0 < den) {e : ℤ}
    (hlow : ((2 : ℚ) ^ 52 - 1 / 4) * 2 ^ e ≤ num / den) (hbelow : (num / den : ℚ) < 2 ^ (52 + e)) :
    roundDiv (num * 2 ^ (-(e - 1)).toNat) (den * 2 ^ (e - 1).toNat) = 2 ^ 53 := by
  apply roundDiv_of_isNearest (by positivity)
  rw [scaled_div _ hden]
  have hhalf : (2 : ℚ) ^ e = 2 * 2 ^ (e - 1) := by
    rw [zpow_sub_one₀ (by norm_num)]
    ring
  have hpos : (0 : ℚ) < 2 ^ (e - 1) := by positivity
  rw [hhalf] at hlow
  rw [zpow_add₀ (by norm_num), hhalf] at hbelow
  have hge : (2 ^ 53 - 1 / 2 : ℚ) ≤ num / den / 2 ^ (e - 1) := by
    rw [le_div_iff₀ hpos]
    linarith
  have hlt : (num / den / 2 ^ (e - 1) : ℚ) < 2 ^ 53 := by
    rw [div_lt_iff₀ hpos]
    norm_num at hbelow ⊢
    linarith
  -- the lower end may be a tie, which goes to the even mantissa
  right
  refine ⟨by norm_num, ?_, ?_⟩
  · push_cast
    linarith
  · push_cast
    linarith

/-- Below its own power of two a number is reached by a carry. -/
theorem ofRatio?_boundary (hx : x.WellFormed) (he : x.exponent ≠ leastExponent) {num den : ℕ}
    (hnum : 0 < num) (hden : 0 < den) (h : x.Rounds (num / den))
    (hbelow : (num / den : ℚ) < 2 ^ (52 + x.exponent)) :
    ofRatio? x.negative num den = some x := by
  obtain ⟨hmantissa, hlow⟩ := hx.boundary he h hbelow
  have horder : binaryOrder num den = 51 + x.exponent := by
    refine binaryOrder_eq hnum hden ?_ (by rwa [show 51 + x.exponent + 1 = 52 + x.exponent by ring])
    refine le_trans ?_ hlow
    rw [zpow_add₀ (by norm_num)]
    gcongr
    norm_num
  have hleast := hx.least_le
  have hexp : max (binaryOrder num den - 52) leastExponent = x.exponent - 1 := by
    rw [horder]
    omega
  have hgreatest : ¬ greatestExponent < x.exponent - 1 + 1 := by
    have := hx.le_greatest
    omega
  rw [ofRatio?, if_neg hnum.ne']
  simp only [hexp, roundDiv_boundary hden hlow hbelow, if_true, if_neg hgreatest]
  rw [← hmantissa, sub_add_cancel]

theorem ofRatio?_regular (hx : x.WellFormed) {num den : ℕ} (hnum : 0 < num) (hden : 0 < den)
    (h : x.Rounds (num / den))
    (hge : x.exponent = leastExponent ∨ (2 : ℚ) ^ (52 + x.exponent) ≤ num / den) :
    ofRatio? x.negative num den = some x := by
  have hhigh : (num / den : ℚ) < 2 ^ (53 + x.exponent) := h.between.2.trans_lt hx.upper_lt
  have hleast := hx.least_le
  have hexp : max (binaryOrder num den - 52) leastExponent = x.exponent := by
    rcases hge with he | hge
    · obtain ⟨hle, -⟩ := binaryOrder_spec hnum hden
      have hlt := (zpow_lt_zpow_iff_right₀ one_lt_two).1 (hle.trans_lt hhigh)
      omega
    · have horder := binaryOrder_eq hnum hden hge
        (by rwa [show 52 + x.exponent + 1 = 53 + x.exponent by ring])
      omega
  have hround : roundDiv (num * 2 ^ (-x.exponent).toNat) (den * 2 ^ x.exponent.toNat)
      = x.mantissa := by
    apply roundDiv_of_isNearest (by positivity)
    rw [scaled_div _ hden]
    exact h.scaled
  have hgreatest : ¬ greatestExponent < x.exponent := by
    have := hx.le_greatest
    omega
  rw [ofRatio?, if_neg hnum.ne']
  simp only [hexp, hround, if_neg hx.mantissa_lt.ne, if_neg hgreatest]

theorem ofRatio?_eq_some (hx : x.WellFormed) (hm : 0 < x.mantissa) {num den : ℕ} (hden : 0 < den)
    (h : x.Rounds (num / den)) : ofRatio? x.negative num den = some x := by
  have hden' : (0 : ℚ) < den := by exact_mod_cast hden
  have hnum : 0 < num := by
    have := (div_pos_iff_of_pos_right hden').1 (h.pos hm)
    exact_mod_cast this
  by_cases he : x.exponent = leastExponent
  · exact ofRatio?_regular hx hnum hden h (.inl he)
  · rcases lt_or_ge (num / den : ℚ) (2 ^ (52 + x.exponent)) with hbelow | hge
    · exact ofRatio?_boundary hx he hnum hden h hbelow
    · exact ofRatio?_regular hx hnum hden h (.inr hge)

theorem wellFormed_zero (negative : Bool) : (zero negative).WellFormed :=
  ⟨by simp [zero], le_rfl, by simp [zero, leastExponent, greatestExponent], .inr rfl⟩

theorem WellFormed.eq_zero (hx : x.WellFormed) (hm : x.mantissa = 0) : x = zero x.negative := by
  have hexp : x.exponent = leastExponent := hx.normal.resolve_left (by rw [hm]; norm_num)
  cases x
  cases hm
  cases hexp
  rfl

theorem ofRatio?_wellFormed {negative : Bool} {num den : ℕ} (hden : 0 < den)
    (h : ofRatio? negative num den = some x) : x.WellFormed := by
  rw [ofRatio?] at h
  split at h
  · obtain rfl := Option.some.inj h
    exact wellFormed_zero negative
  next hnum =>
  obtain ⟨hle, hlt⟩ := binaryOrder_spec (Nat.pos_of_ne_zero hnum) hden
  generalize hexp : max (binaryOrder num den - 52) leastExponent = e at h
  have hleast : leastExponent ≤ e := by omega
  -- the exponent leaves at most 53 bits before the point, and exactly 53 above the least exponent
  have hupper : roundDiv (num * 2 ^ (-e).toNat) (den * 2 ^ e.toNat) ≤ 2 ^ 53 :=
    roundDiv_scaled_le hden (hlt.le.trans (zpow_le_zpow_right₀ one_le_two (by omega)))
  have hlower : e = leastExponent ∨
      2 ^ 52 ≤ roundDiv (num * 2 ^ (-e).toNat) (den * 2 ^ e.toNat) := by
    by_cases he : e = leastExponent
    · exact .inl he
    · exact .inr (le_roundDiv_scaled hden
        ((zpow_le_zpow_right₀ one_le_two (by omega)).trans hle))
  dsimp only at h
  generalize roundDiv (num * 2 ^ (-e).toNat) (den * 2 ^ e.toNat) = m at *
  by_cases hcarry : m = 2 ^ 53
  · simp only [hcarry, if_true] at h
    split at h
    · cases h
    · next hgreatest =>
      obtain rfl := Option.some.inj h
      exact ⟨by norm_num, by dsimp only; omega, not_lt.1 hgreatest, .inl le_rfl⟩
  · simp only [if_neg hcarry] at h
    split at h
    · cases h
    · next hgreatest =>
      obtain rfl := Option.some.inj h
      exact ⟨lt_of_le_of_ne hupper hcarry, hleast, not_lt.1 hgreatest, hlower.symm⟩

theorem ofDecimal?_wellFormed {negative : Bool} {digits : ℕ} {exponent : ℤ}
    (h : ofDecimal? negative digits exponent = some x) : x.WellFormed := by
  rw [ofDecimal?] at h
  split_ifs at h
  · obtain rfl := Option.some.inj h
    exact wellFormed_zero negative
  · exact ofRatio?_wellFormed (by positivity) h

/-! ### Rounding a decimal -/

theorem WellFormed.least_lt (hx : x.WellFormed) (hm : 0 < x.mantissa) (h : x.Rounds q) :
    (10 : ℚ) ^ (-330 : ℤ) < q := by
  refine lt_of_lt_of_le ?_ h.between.1
  have hgap : (x.gapBelow : ℚ) ≤ 2 := by exact_mod_cast x.gapBelow_le
  have hm' : (1 : ℚ) ≤ x.mantissa := by exact_mod_cast hm
  have hunit : (2 : ℚ) ^ (-1080 : ℤ) ≤ 2 ^ (x.exponent - 2) := by
    apply zpow_le_zpow_right₀ one_le_two
    have := hx.least_le
    unfold leastExponent at this
    omega
  have hsmall : (10 : ℚ) ^ (-330 : ℤ) < 2 ^ (-1080 : ℤ) := by
    -- the powers are compared by their roots, which are small enough to write out
    have hpow : ((2 : ℚ) ^ 108) ^ 10 < (10 ^ 33) ^ 10 :=
      pow_lt_pow_left₀ (by norm_num) (by positivity) (by decide)
    rw [← pow_mul, ← pow_mul] at hpow
    rw [zpow_neg, zpow_neg]
    exact inv_strictAnti₀ (by positivity) hpow
  refine hsmall.trans_le (hunit.trans ?_)
  unfold lower
  refine le_mul_of_one_le_left (by positivity) ?_
  linarith

theorem WellFormed.lt_greatest (hx : x.WellFormed) (h : x.Rounds q) : q < (10 : ℚ) ^ (310 : ℤ) := by
  have hexp : (2 : ℚ) ^ (53 + x.exponent) ≤ 2 ^ (1025 : ℤ) := by
    apply zpow_le_zpow_right₀ one_le_two
    have := hx.le_greatest
    unfold greatestExponent at this
    omega
  have hpow : ((2 : ℚ) ^ 205) ^ 5 < (10 ^ 62) ^ 5 :=
    pow_lt_pow_left₀ (by norm_num) (by positivity) (by decide)
  rw [← pow_mul, ← pow_mul] at hpow
  exact h.between.2.trans_lt (hx.upper_lt.trans (hexp.trans_lt hpow))

theorem length_toDigits_spec {n : ℕ} (hn : 0 < n) :
    (10 : ℚ) ^ (((Nat.toDigits 10 n).length : ℤ) - 1) ≤ n ∧
      (n : ℚ) < 10 ^ ((Nat.toDigits 10 n).length : ℤ) := by
  have hlen : 0 < (Nat.toDigits 10 n).length := Nat.length_toDigits_pos
  constructor
  · rcases Nat.eq_or_lt_of_le (show 1 ≤ (Nat.toDigits 10 n).length from hlen) with h1 | h1
    · rw [← h1]
      norm_num
      exact_mod_cast hn
    · have hge : ¬ n < 10 ^ ((Nat.toDigits 10 n).length - 1) := by
        rw [← Nat.length_toDigits_le_iff (by norm_num) (by omega)]
        omega
      have hcast : ((Nat.toDigits 10 n).length : ℤ) - 1 = ((Nat.toDigits 10 n).length - 1 : ℕ) := by
        omega
      rw [hcast, zpow_natCast]
      exact_mod_cast not_lt.1 hge
  · rw [zpow_natCast]
    exact_mod_cast (Nat.length_toDigits_le_iff (by norm_num) hlen).1 le_rfl

/-- The settled orders of magnitude are out of reach of what rounds to a number other than zero. -/
theorem ofDecimal?_eq_some (hx : x.WellFormed) (hm : 0 < x.mantissa) {digits : ℕ} {exponent : ℤ}
    (h : x.Rounds (digits * 10 ^ exponent)) : ofDecimal? x.negative digits exponent = some x := by
  have hpos := h.pos hm
  have hdigits : 0 < digits := by
    by_contra hzero
    rw [Nat.eq_zero_of_not_pos hzero] at hpos
    simp at hpos
  obtain ⟨hle, hlt⟩ := length_toDigits_spec hdigits
  have hten : (0 : ℚ) < 10 ^ exponent := by positivity
  have hplacesLow : -330 < ((Nat.toDigits 10 digits).length : ℤ) + exponent := by
    have := (hx.least_lt hm h).trans ((mul_lt_mul_iff_left₀ hten).2 hlt)
    rw [← zpow_add₀ (by norm_num)] at this
    exact (zpow_lt_zpow_iff_right₀ one_lt_ten).1 this
  have hplacesHigh : ((Nat.toDigits 10 digits).length : ℤ) - 1 + exponent < 310 := by
    have := ((mul_le_mul_iff_left₀ hten).2 hle).trans_lt (hx.lt_greatest h)
    rw [← zpow_add₀ (by norm_num)] at this
    exact (zpow_lt_zpow_iff_right₀ one_lt_ten).1 this
  have hratio : (digits * 10 ^ exponent : ℚ)
      = (digits * 10 ^ exponent.toNat : ℕ) / (10 ^ (-exponent).toNat : ℕ) := by
    rw [zpow_eq_div 10]
    push_cast
    ring
  rw [ofDecimal?, if_neg (by omega), if_neg (by omega)]
  rw [hratio] at h
  exact ofRatio?_eq_some hx hm (by positivity) h

end Binary64
end Countersign.Decimal
