import Countersign.Proofs.Rounding
import Mathlib

/-! The shortest decimal of a binary number rounds to that number. -/

namespace Countersign.Decimal

theorem decimalOrder_le {num den : ℕ} (hnum : 0 < num) (hden : 0 < den) :
    (10 : ℚ) ^ decimalOrder num den ≤ num / den := by
  have hnum' : (0 : ℚ) < num := by exact_mod_cast hnum
  have hden' : (0 : ℚ) < den := by exact_mod_cast hden
  simp only [decimalOrder]
  split_ifs with hle hpow
  · refine (Binary64.length_toDigits_spec (Nat.div_pos hle hden)).1.trans ?_
    exact Nat.cast_div_le
  · have hlen : 0 < (Nat.toDigits 10 (den / num)).length := Nat.length_toDigits_pos
    generalize (Nat.toDigits 10 (den / num)).length = places at *
    rw [le_div_iff₀ hden', ← hpow, Nat.cast_mul, ← mul_assoc, Nat.cast_pow, Nat.cast_ofNat,
      ← zpow_natCast, ← zpow_add₀ (by norm_num),
      show 1 - (places : ℤ) + (places - 1 : ℕ) = 0 by omega, zpow_zero, one_mul]
  · have hlt : den / num < 10 ^ (Nat.toDigits 10 (den / num)).length :=
      (Nat.length_toDigits_le_iff (by norm_num) Nat.length_toDigits_pos).1 le_rfl
    have hlt := (Nat.div_lt_iff_lt_mul hnum).1 hlt
    rw [zpow_neg, zpow_natCast, inv_le_iff_one_le_mul₀ (by positivity), mul_comm, ← mul_div_assoc,
      le_div_iff₀ hden', one_mul]
    exact_mod_cast hlt.le

namespace Binary64

variable {x : Binary64} {power : ℤ}

theorem grid_scale (power binary : ℤ) : ∃ c : ℚ, 0 < c ∧
    ((Grid.of power binary).step : ℚ) = 10 ^ power * c ∧
    ((Grid.of power binary).unit : ℚ) = 2 ^ (binary - 2) * c := by
  refine ⟨10 ^ (-power).toNat * 2 ^ (2 - binary).toNat, by positivity, ?_, ?_⟩
  · rw [Grid.of, zpow_eq_div 10]
    push_cast
    field_simp
  · rw [Grid.of, zpow_eq_div 2, neg_sub]
    push_cast
    field_simp

theorem covers_iff (hm : 0 < x.mantissa) (k : ℕ) :
    x.covers (.of power x.exponent) k = true ↔ x.Rounds (k * 10 ^ power) := by
  obtain ⟨c, hc, hstep, hunit⟩ := grid_scale power x.exponent
  have hgap := x.gapBelow_le
  have hsub : ((4 * x.mantissa - x.gapBelow : ℕ) : ℚ) = 4 * x.mantissa - x.gapBelow := by
    rw [Nat.cast_sub (by omega)]
    push_cast
    rfl
  have hlow : (((4 * x.mantissa - x.gapBelow) * (Grid.of power x.exponent).unit : ℕ) : ℚ)
      = x.lower * c := by
    rw [Nat.cast_mul, hsub, hunit, lower, mul_assoc]
  have hhigh : (((4 * x.mantissa + 2) * (Grid.of power x.exponent).unit : ℕ) : ℚ)
      = x.upper * c := by
    rw [Nat.cast_mul, hunit, upper]
    push_cast
    ring
  have hat : ((k * (Grid.of power x.exponent).step : ℕ) : ℚ) = k * 10 ^ power * c := by
    rw [Nat.cast_mul, hstep, mul_assoc]
  rw [covers, Rounds]
  simp only [Bool.or_eq_true, Bool.and_eq_true, decide_eq_true_eq, beq_iff_eq]
  generalize (4 * x.mantissa - x.gapBelow) * (Grid.of power x.exponent).unit = low at *
  generalize (4 * x.mantissa + 2) * (Grid.of power x.exponent).unit = high at *
  generalize k * (Grid.of power x.exponent).step = at_k at *
  have hlowLt : low < at_k ↔ x.lower < k * 10 ^ power := by
    rw [← mul_lt_mul_iff_left₀ hc, ← hlow, ← hat, Nat.cast_lt]
  have hltHigh : at_k < high ↔ k * 10 ^ power < x.upper := by
    rw [← mul_lt_mul_iff_left₀ hc, ← hhigh, ← hat, Nat.cast_lt]
  have hlowEq : at_k = low ↔ k * 10 ^ power = x.lower := by
    rw [← mul_left_inj' hc.ne', ← hlow, ← hat, Nat.cast_inj]
  have hhighEq : at_k = high ↔ k * 10 ^ power = x.upper := by
    rw [← mul_left_inj' hc.ne', ← hhigh, ← hat, Nat.cast_inj]
  rw [hlowLt, hltHigh, hlowEq, hhighEq]

theorem onGrid?_covers {g : Grid} {k : ℕ} (h : x.onGrid? g = some k) : x.covers g k = true := by
  rw [onGrid?] at h
  generalize 4 * x.mantissa * g.unit / g.step = n at h
  dsimp only at h
  split at h
  · cases h
  · next hn _ => cases h; exact hn
  · next _ hn => cases h; exact hn
  · next hn hn' =>
    obtain rfl := Option.some.inj h
    split_ifs
    · exact hn
    · exact hn'
    · rcases Nat.mod_two_eq_zero_or_one n with hmod | hmod
      · rwa [hmod, add_zero]
      · rwa [hmod]

theorem lower_lt_magnitude (x : Binary64) : x.lower < x.magnitude := by
  have hgap : (1 : ℚ) ≤ x.gapBelow := by exact_mod_cast x.gapBelow_pos
  rw [lower_eq, magnitude]
  gcongr
  linarith

theorem magnitude_lt_upper (x : Binary64) : x.magnitude < x.upper := by
  rw [upper_eq, magnitude]
  gcongr
  linarith

theorem onGrid?_isSome (hm : 0 < x.mantissa) (hfine : (10 : ℚ) ^ power < x.upper - x.lower) :
    (x.onGrid? (.of power x.exponent)).isSome := by
  obtain ⟨c, hc, hstep, hunit⟩ := grid_scale power x.exponent
  have hten : (0 : ℚ) < 10 ^ power := by positivity
  have hvalue : ((4 * x.mantissa * (Grid.of power x.exponent).unit : ℕ) : ℚ) = x.magnitude * c := by
    rw [Nat.cast_mul, hunit, magnitude, quarter]
    push_cast
    ring
  have hpos : 0 < (Grid.of power x.exponent).step := by
    have : (0 : ℚ) < (Grid.of power x.exponent).step := by
      rw [hstep]
      positivity
    exact_mod_cast this
  rw [onGrid?]
  generalize hk : 4 * x.mantissa * (Grid.of power x.exponent).unit / (Grid.of power x.exponent).step
    = k
  have hbelow : k * 10 ^ power ≤ x.magnitude := by
    have hfloor : ((k * (Grid.of power x.exponent).step : ℕ) : ℚ)
        ≤ (4 * x.mantissa * (Grid.of power x.exponent).unit : ℕ) := by
      rw [← hk, Nat.cast_le]
      exact Nat.div_mul_le_self _ _
    rwa [hvalue, Nat.cast_mul, hstep, ← mul_assoc, mul_le_mul_iff_left₀ hc] at hfloor
  have habove : x.magnitude < (k + 1 : ℕ) * 10 ^ power := by
    have hceil : ((4 * x.mantissa * (Grid.of power x.exponent).unit : ℕ) : ℚ)
        < ((k + 1) * (Grid.of power x.exponent).step : ℕ) := by
      rw [← hk, Nat.cast_lt]
      exact Nat.lt_mul_of_div_lt (Nat.lt_succ_self _) hpos
    rwa [hvalue, Nat.cast_mul, hstep, ← mul_assoc, mul_lt_mul_iff_left₀ hc] at hceil
  -- of the two points around the number one is in the gap, since the gap is wider than their distance
  have hcovered : x.covers (.of power x.exponent) k = true ∨
      x.covers (.of power x.exponent) (k + 1) = true := by
    rw [covers_iff hm, covers_iff hm]
    by_cases hlow : x.lower < k * 10 ^ power
    · exact .inl (.inl ⟨hlow, hbelow.trans_lt x.magnitude_lt_upper⟩)
    · refine .inr (.inl ⟨x.lower_lt_magnitude.trans habove, ?_⟩)
      push_cast
      linarith
  dsimp only
  rcases hcovered with h | h
  · rw [h]
    split <;> simp_all
  · rw [h]
    split <;> simp_all

theorem WellFormed.magnitude_lt (hx : x.WellFormed) : x.magnitude < 2 ^ 53 * 2 ^ x.exponent := by
  have hm : (x.mantissa : ℚ) < 2 ^ 53 := by exact_mod_cast hx.mantissa_lt
  rw [magnitude]
  gcongr

/-- Seventeen digits tell every binary number from its neighbours. -/
theorem WellFormed.seventeen_suffice (hx : x.WellFormed) {order : ℤ}
    (h : (10 : ℚ) ^ order ≤ x.magnitude) : (10 : ℚ) ^ (order - 16) < x.upper - x.lower := by
  have hpos : (0 : ℚ) < 2 ^ x.exponent := by positivity
  have hstep : (10 : ℚ) ^ (order - 16) ≤ x.magnitude / 10 ^ 16 := by
    rw [zpow_sub₀ (by norm_num)]
    exact_mod_cast div_le_div_of_nonneg_right h (by positivity)
  refine hstep.trans_lt ?_
  rw [upper_eq, lower_eq]
  by_cases hgap : x.mantissa = 2 ^ 52 ∧ leastExponent < x.exponent
  · rw [gapBelow, if_pos hgap, magnitude, hgap.1]
    norm_num
    linarith
  · rw [gapBelow, if_neg hgap]
    have := hx.magnitude_lt
    norm_num at this ⊢
    linarith

theorem WellFormed.shortest_rounds (hx : x.WellFormed) (hm : 0 < x.mantissa) :
    x.Rounds (x.shortest.1 * 10 ^ x.shortest.2) := by
  simp only [shortest]
  generalize horder : decimalOrder (4 * x.mantissa * 2 ^ (x.exponent - 2).toNat)
    (2 ^ (2 - x.exponent).toNat) = order
  have hle : (10 : ℚ) ^ order ≤ x.magnitude := by
    have hratio : ((4 * x.mantissa * 2 ^ (x.exponent - 2).toNat : ℕ) : ℚ)
        / (2 ^ (2 - x.exponent).toNat : ℕ) = x.magnitude := by
      rw [show x.magnitude = 4 * x.mantissa * 2 ^ (x.exponent - 2) by rw [magnitude, quarter]; ring,
        zpow_eq_div 2, neg_sub]
      push_cast
      ring
    rw [← horder, ← hratio]
    exact decimalOrder_le (by positivity) (by positivity)
  obtain ⟨k, hk⟩ := Option.isSome_iff_exists.1 (onGrid?_isSome hm (hx.seventeen_suffice hle))
  generalize hattempt : (fun i : ℕ => Option.map (fun n => (n, order - i))
    (x.onGrid? (Grid.of (order - i) x.exponent))) = attempt
  have hsome : ((List.range 17).findSome? attempt).isSome := by
    rw [List.findSome?_isSome_iff]
    refine ⟨16, by simp, ?_⟩
    subst hattempt
    simp [hk]
  obtain ⟨r, hr⟩ := Option.isSome_iff_exists.1 hsome
  rw [hr, Option.getD_some]
  obtain ⟨i, -, hi⟩ := List.exists_of_findSome?_eq_some hr
  subst hattempt
  obtain ⟨n, hn, rfl⟩ := Option.map_eq_some_iff.1 hi
  exact (covers_iff hm n).1 (onGrid?_covers hn)

end Binary64
end Countersign.Decimal
