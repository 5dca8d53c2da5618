import Countersign.Proofs.Candidate
import Countersign.Proposal.Threshold
import Mathlib

/-! Percentages of a total weight. A decimal text is taken exactly, as long as 32 bits hold the number of
its places, and the number of approvals rounded up; a text that is no decimal number is refused, unless
underscores or a plus sign make it one. -/

namespace Countersign.Percentage

open Text

/-- ASCII digits, with at most one point among them. -/
def IsDecimal (cs : List Char) : Prop :=
  (∀ c ∈ cs, c.isDigit = true ∨ c = '.') ∧ cs.count '.' ≤ 1 ∧ ∃ c ∈ cs, c.isDigit = true

def fractionValue : List Char → ℚ
  | [] => 0
  | c :: cs => ((c.toNat - '0'.toNat : ℕ) + fractionValue cs) / 10

def value (cs : List Char) : ℚ :=
  Nat.ofDigitChars 10 (cs.takeWhile (· != '.')) 0 + fractionValue (cs.dropWhile (· != '.')).tail

/-- A digit, and then digits and underscores, behind at most one plus sign. -/
def IsLoose (cs : List Char) : Prop :=
  ∃ c rest, (cs = c :: rest ∨ cs = '+' :: c :: rest) ∧ c.isDigit = true ∧
    ∀ d ∈ rest, d.isDigit = true ∨ d = '_'

def places (cs : List Char) : ℕ :=
  (cs.dropWhile (· != '.')).tail.length

/-- The number that is made of a text that is loose but for its first point. Each character behind the
point takes a place there, an underscore too, and the places are counted in 32 bits. -/
def looseValue (cs : List Char) : ℚ :=
  Nat.ofDigitChars 10 (cs.filter Char.isDigit) 0 / 10 ^ (places cs % 2 ^ 32)

/-- The rule asks for the least whole number that is not below this part of the total, unless 64 bits do
not hold it. -/
def AsksFor (v : ℚ) (percentage : String) (total : UInt64) : Prop :=
  ∃ n : ℕ, IsLeast {k : ℤ | (total.toNat : ℚ) * v ≤ k} n ∧
    (Threshold.absolutePercentage percentage total).required =
      if n < 2 ^ 64 then .ok (UInt64.ofNat n) else .error s!"absolute_percentage {percentage}"

variable {cs : List Char}

/-! ### Whole numbers with underscores and a plus sign -/

theorem isDigit_of_digit? {c : Char} {d : ℕ} (h : digit? c = some d) : c.isDigit = true := by
  rw [digit?, Option.ite_none_right_eq_some] at h
  exact Char.isDigit_iff_toNat.2 h.1

theorem forall_isDigit_of_mapM {ds : List ℕ} (h : cs.mapM digit? = some ds) :
    ∀ c ∈ cs, c.isDigit = true := by
  have hread := mapM_eq_some_iff.1 h
  clear h
  induction hread with
  | nil => simp
  | cons hd _ ih => exact List.forall_mem_cons.2 ⟨isDigit_of_digit? hd, ih⟩

theorem filter_underscore (h : ∀ c ∈ cs, c.isDigit = true ∨ c = '_') :
    cs.filter (· != '_') = cs.filter Char.isDigit := by
  refine List.filter_congr fun c hc => ?_
  rcases h c hc with hdigit | rfl
  · have hne : c ≠ '_' := by
      rintro rfl
      cases hdigit
    rw [hdigit, bne_iff_ne.2 hne]
  · rfl

theorem magnitude?_eq_some {n : ℕ} :
    magnitude? cs = some n ↔ ∃ c rest, cs = c :: rest ∧ c.isDigit = true ∧
      (∀ d ∈ rest, d.isDigit = true ∨ d = '_') ∧
        Nat.ofDigitChars 10 (cs.filter Char.isDigit) 0 = n := by
  constructor
  · intro h
    rw [magnitude?.eq_def] at h
    split at h
    · cases h
    · cases h
    · next hne hlead =>
      obtain ⟨ds, hds, rfl⟩ := Option.map_eq_some_iff.1 h
      have hdigits := forall_isDigit_of_mapM hds
      have hloose : ∀ d ∈ cs, d.isDigit = true ∨ d = '_' := by
        intro d hd
        by_cases hd' : d = '_'
        · exact .inr hd'
        · exact .inl (hdigits d (List.mem_filter.2 ⟨hd, bne_iff_ne.2 hd'⟩))
      obtain ⟨c, rest, rfl⟩ := List.exists_cons_of_ne_nil hne
      obtain ⟨hc, hrest⟩ := List.forall_mem_cons.1 hloose
      rw [mapM_digit? hdigits, Option.some.injEq] at hds
      refine ⟨c, rest, rfl, hc.resolve_right fun h => hlead rest (h ▸ rfl), hrest, ?_⟩
      rw [← filter_underscore hloose, ← hds, ofDigits_values]
  · rintro ⟨c, rest, rfl, hc, hrest, rfl⟩
    have hloose : ∀ d ∈ c :: rest, d.isDigit = true ∨ d = '_' :=
      List.forall_mem_cons.2 ⟨.inl hc, hrest⟩
    have hdigits : ∀ d ∈ (c :: rest).filter Char.isDigit, d.isDigit = true :=
      fun d hd => (List.mem_filter.1 hd).2
    have hlead : ∀ rest', c :: rest ≠ '_' :: rest' := by
      rintro rest' ⟨⟩
      cases hc
    rw [magnitude?.eq_3 (c :: rest) (List.cons_ne_nil c rest) hlead, filter_underscore hloose,
      mapM_digit? hdigits, Option.map_some, ofDigits_values]

theorem unsigned?_eq_some {n : ℕ} :
    unsigned? cs = some n ↔
      IsLoose cs ∧ Nat.ofDigitChars 10 (cs.filter Char.isDigit) 0 = n := by
  by_cases hplus : cs.head? = some '+'
  · obtain ⟨tail, rfl⟩ := List.head?_eq_some_iff.1 hplus
    rw [unsigned?, magnitude?_eq_some]
    constructor
    · rintro ⟨c, rest, rfl, hc, hrest, hn⟩
      exact ⟨⟨c, rest, .inr rfl, hc, hrest⟩, hn⟩
    · rintro ⟨⟨c, rest, h | h, hc, hrest⟩, hn⟩
      · cases h
        cases hc
      · exact ⟨c, rest, (List.cons.inj h).2, hc, hrest, hn⟩
  · have hhead : ∀ tail, cs ≠ '+' :: tail := by
      rintro tail rfl
      exact hplus rfl
    rw [unsigned?.eq_2 cs hhead, magnitude?_eq_some]
    constructor
    · rintro ⟨c, rest, h, hc, hrest, hn⟩
      exact ⟨⟨c, rest, .inl h, hc, hrest⟩, hn⟩
    · rintro ⟨⟨c, rest, h, hc, hrest⟩, hn⟩
      exact ⟨c, rest, h.resolve_right (hhead _), hc, hrest, hn⟩

/-! ### Around the point -/

theorem append_splitPoint (cs : List Char) :
    (splitPoint cs).1 ++ (splitPoint cs).2 = cs.erase '.' := by
  induction cs with
  | nil => rfl
  | cons c cs ih =>
    by_cases hc : c = '.'
    · subst hc
      simp [splitPoint]
    · simpa [splitPoint, hc] using ih

theorem filter_isDigit_erase (cs : List Char) :
    (cs.erase '.').filter Char.isDigit = cs.filter Char.isDigit := by
  induction cs with
  | nil => rfl
  | cons c cs ih =>
    by_cases hc : c = '.'
    · subst hc
      rw [List.erase_cons_head]
      rfl
    · rw [List.erase_cons_tail (by simpa using hc), List.filter_cons, List.filter_cons, ih]

theorem add_fractionValue (n : ℕ) (cs : List Char) :
    n + fractionValue cs = Nat.ofDigitChars 10 cs n / 10 ^ cs.length := by
  induction cs generalizing n with
  | nil => simp [fractionValue]
  | cons c cs ih =>
    have htail := ih (10 * n + (c.toNat - '0'.toNat))
    rw [Nat.ofDigitChars_cons, List.length_cons, pow_succ, ← div_div, ← htail, fractionValue]
    push_cast
    ring

theorem isDigit_of_mem_erase (h : IsDecimal cs) : ∀ c ∈ cs.erase '.', c.isDigit = true := by
  obtain ⟨hallowed, hpoint, -⟩ := h
  have hno : '.' ∉ cs.erase '.' := by
    rw [← List.count_eq_zero, List.count_erase_self]
    omega
  intro c hc
  refine (hallowed c (List.mem_of_mem_erase hc)).resolve_right fun hpoint => ?_
  exact hno (hpoint ▸ hc)

theorem IsDecimal.isLoose (h : IsDecimal cs) : IsLoose (cs.erase '.') := by
  have hdigits := isDigit_of_mem_erase h
  obtain ⟨-, -, c, hc, hdigit⟩ := h
  have hne : c ≠ '.' := by
    rintro rfl
    cases hdigit
  obtain ⟨d, rest, hglued⟩ :=
    List.exists_cons_of_ne_nil (List.ne_nil_of_mem ((List.mem_erase_of_ne hne).2 hc))
  rw [hglued, List.forall_mem_cons] at hdigits
  exact ⟨d, rest, .inl hglued, hdigits.1, fun e he => .inl (hdigits.2 e he)⟩

theorem IsDecimal.value_eq (h : IsDecimal cs) :
    value cs = Nat.ofDigitChars 10 (cs.filter Char.isDigit) 0 / 10 ^ places cs := by
  have hglued : cs.takeWhile (· != '.') ++ (cs.dropWhile (· != '.')).tail = cs.filter Char.isDigit := by
    rw [← filter_isDigit_erase, List.filter_eq_self.2 (isDigit_of_mem_erase h), ← append_splitPoint,
      splitPoint, List.drop_one]
  rw [value, add_fractionValue, ← Nat.ofDigitChars_append, hglued, places]

theorem IsDecimal.looseValue_eq (h : IsDecimal cs) :
    looseValue cs = value cs * 10 ^ (places cs - places cs % 2 ^ 32) := by
  have hscale : (10 : ℚ) ^ places cs =
      10 ^ (places cs % 2 ^ 32) * 10 ^ (places cs - places cs % 2 ^ 32) := by
    rw [← pow_add, Nat.add_sub_cancel' (Nat.mod_le _ _)]
  rw [looseValue, h.value_eq, hscale]
  field_simp

theorem IsDecimal.looseValue_of_lt (h : IsDecimal cs) (hplaces : places cs < 2 ^ 32) :
    looseValue cs = value cs := by
  rw [h.looseValue_eq, Nat.mod_eq_of_lt hplaces, Nat.sub_self, pow_zero, mul_one]

theorem looseValue_nonneg (cs : List Char) : 0 ≤ looseValue cs := by
  rw [looseValue]
  positivity

/-! ### Rounding up -/

theorem roundUp_eq (n : ℕ) {d : ℕ} (hd : 0 < d) :
    n / d + (if n % d = 0 then 0 else 1) = ⌈(n : ℚ) / d⌉₊ := by
  refine eq_of_forall_ge_iff fun k => ?_
  have hpos : (0 : ℚ) < d := by exact_mod_cast hd
  rw [Nat.ceil_le, div_le_iff₀ hpos, ← Nat.cast_mul, Nat.cast_le]
  split_ifs with hzero
  · rw [add_zero, Nat.div_le_iff_le_mul_of_dvd hd.ne' (Nat.dvd_of_mod_eq_zero hzero)]
  · have hne : n ≠ k * d := by
      rintro rfl
      exact hzero (Nat.mul_mod_left k d)
    rw [Nat.add_one_le_iff, Nat.div_lt_iff_lt_mul hd]
    exact ⟨le_of_lt, fun hle => lt_of_le_of_ne hle hne⟩

/-- A text gives a number of approvals exactly when it is loose and the number fits 64 bits. -/
theorem ceilPercentage?_eq_some {total n : ℕ} :
    ceilPercentage? cs total = some n ↔
      IsLoose ((trimmed cs).erase '.') ∧ ⌈(total : ℚ) * looseValue (trimmed cs)⌉₊ = n ∧ n < 2 ^ 64 := by
  have hscale : ∀ digits places : ℕ, digits * total / 10 ^ places +
      (if digits * total % 10 ^ places = 0 then 0 else 1) =
        ⌈(total : ℚ) * (digits / 10 ^ places)⌉₊ := by
    intro digits places
    rw [roundUp_eq _ (pow_pos (by norm_num) places)]
    push_cast
    ring_nf
  simp only [ceilPercentage?, Option.bind_eq_bind, Option.bind_eq_some_iff, append_splitPoint,
    unsigned?_eq_some, filter_isDigit_erase, hscale, Option.ite_none_right_eq_some, Option.some.injEq]
  have hvalue : looseValue (trimmed cs) = Nat.ofDigitChars 10 ((trimmed cs).filter Char.isDigit) 0 /
      10 ^ ((splitPoint (trimmed cs)).2.length % 2 ^ 32) := by
    rw [looseValue, places, splitPoint, List.drop_one]
  rw [hvalue]
  constructor
  · rintro ⟨_, ⟨hloose, rfl⟩, hfits, hn⟩
    exact ⟨hloose, hn, hn ▸ hfits⟩
  · rintro ⟨hloose, hn, hfits⟩
    exact ⟨_, ⟨hloose, rfl⟩, hn ▸ hfits, hn⟩

/-! ### The number of approvals -/

section required

variable {percentage : String} {total : UInt64}

theorem required_eq_ok {r : UInt64} :
    (Threshold.absolutePercentage percentage total).required = .ok r ↔
      IsLoose ((trimmed percentage.toList).erase '.') ∧
        ⌈(total.toNat : ℚ) * looseValue (trimmed percentage.toList)⌉₊ = r.toNat := by
  rw [Threshold.required]
  cases hread : ceilPercentage? percentage.toList total.toNat with
  | none =>
    refine iff_of_false (by rintro ⟨⟩) fun ⟨hloose, hr⟩ => ?_
    rw [ceilPercentage?_eq_some.2 ⟨hloose, hr, r.toNat_lt⟩] at hread
    cases hread
  | some n =>
    obtain ⟨hloose, hn, hfits⟩ := ceilPercentage?_eq_some.1 hread
    rw [hn, Except.ok.injEq, and_iff_right hloose, ← UInt64.toNat_inj, UInt64.toNat_ofNat_of_lt' hfits]

theorem required_eq_error :
    (Threshold.absolutePercentage percentage total).required =
        .error s!"absolute_percentage {percentage}" ↔
      ¬IsLoose ((trimmed percentage.toList).erase '.') ∨
        2 ^ 64 ≤ ⌈(total.toNat : ℚ) * looseValue (trimmed percentage.toList)⌉₊ := by
  rw [← not_lt, ← not_and_or, Threshold.required]
  cases hread : ceilPercentage? percentage.toList total.toNat with
  | none =>
    refine iff_of_true rfl fun ⟨hloose, hfits⟩ => ?_
    rw [ceilPercentage?_eq_some.2 ⟨hloose, rfl, hfits⟩] at hread
    cases hread
  | some n =>
    obtain ⟨hloose, rfl, hfits⟩ := ceilPercentage?_eq_some.1 hread
    exact iff_of_false (by rintro ⟨⟩) (not_not.2 ⟨hloose, hfits⟩)

theorem asksFor_looseValue (h : IsLoose ((trimmed percentage.toList).erase '.')) :
    AsksFor (looseValue (trimmed percentage.toList)) percentage total := by
  have hnonneg := looseValue_nonneg (trimmed percentage.toList)
  refine ⟨⌈(total.toNat : ℚ) * looseValue (trimmed percentage.toList)⌉₊, ?_, ?_⟩
  · rw [Int.natCast_ceil_eq_ceil (by positivity)]
    constructor
    · exact Int.le_ceil ((total.toNat : ℚ) * looseValue (trimmed percentage.toList))
    · exact fun k hk => Int.ceil_le.2 hk
  · split_ifs with hfits
    · exact required_eq_ok.2 ⟨h, (UInt64.toNat_ofNat_of_lt' hfits).symm⟩
    · exact required_eq_error.2 (.inr (not_lt.1 hfits))

end required

/-- A decimal percentage asks for the least whole number of approvals that is not below that part of
the total, unless 64 bits do not hold it. Up to one whole it asks for no more than the total, and a
greater percentage or total never asks for less. So it is with fewer than `2 ^ 32` places; with more, only
those are scaled by that the count leaves over. -/
theorem required_exact {percentage : String} (h : IsDecimal (trimmed percentage.toList))
    (total : UInt64) :
    let text := trimmed percentage.toList
    let required := (Threshold.absolutePercentage percentage total).required
    AsksFor (value text * 10 ^ (places text - places text % 2 ^ 32)) percentage total ∧
      (places text < 2 ^ 32 →
        AsksFor (value text) percentage total ∧
        (value text ≤ 1 → ∃ r, required = .ok r ∧ r ≤ total) ∧
        ∀ percentage' total' r r', IsDecimal (trimmed percentage'.toList) →
          places (trimmed percentage'.toList) < 2 ^ 32 →
            value text ≤ value (trimmed percentage'.toList) → total ≤ total' → required = .ok r →
              (Threshold.absolutePercentage percentage' total').required = .ok r' → r ≤ r') := by
  intro text required
  have hasks : AsksFor (looseValue text) percentage total := asksFor_looseValue h.isLoose
  refine ⟨h.looseValue_eq ▸ hasks, fun hplaces => ?_⟩
  have hv : looseValue text = value text := h.looseValue_of_lt hplaces
  have hnonneg : 0 ≤ value text := hv ▸ looseValue_nonneg _
  refine ⟨hv ▸ hasks, fun hone => ?_, ?_⟩
  · have hle : ⌈(total.toNat : ℚ) * value text⌉₊ ≤ total.toNat :=
      Nat.ceil_le.2 (mul_le_of_le_one_right (by positivity) hone)
    have hr := UInt64.toNat_ofNat_of_lt' (hle.trans_lt total.toNat_lt)
    refine ⟨_, required_eq_ok.2 ⟨h.isLoose, by rw [hv, hr]⟩, ?_⟩
    rwa [UInt64.le_iff_toNat_le, hr]
  · intro percentage' total' r r' h' hplaces' hvalue htotal hr hr'
    obtain ⟨-, hr⟩ := required_eq_ok.1 hr
    obtain ⟨-, hr'⟩ := required_eq_ok.1 hr'
    rw [UInt64.le_iff_toNat_le, ← hr, ← hr', hv, h'.looseValue_of_lt hplaces']
    refine Nat.ceil_le_ceil (mul_le_mul ?_ hvalue hnonneg (by positivity))
    exact_mod_cast UInt64.le_iff_toNat_le.1 htotal

theorem value_quarter :
    IsDecimal (trimmed " .250 ".toList) ∧ value (trimmed " .250 ".toList) = 1 / 4 ∧
      places (trimmed " .250 ".toList) < 2 ^ 32 := by
  have htext : trimmed " .250 ".toList = ['.', '2', '5', '0'] := by decide +kernel
  rw [htext]
  refine ⟨⟨by simp, by decide, '2', by simp, rfl⟩, ?_, by decide⟩
  change ((0 : ℕ) : ℚ) + ((2 : ℕ) + ((5 : ℕ) + ((0 : ℕ) + 0) / 10) / 10) / 10 = 1 / 4
  norm_num

theorem value_half :
    IsDecimal (trimmed "0.5".toList) ∧ value (trimmed "0.5".toList) = 1 / 2 ∧
      places (trimmed "0.5".toList) < 2 ^ 32 := by
  have htext : trimmed "0.5".toList = ['0', '.', '5'] := by decide +kernel
  rw [htext]
  refine ⟨⟨by simp, by decide, '5', by simp, rfl⟩, ?_, by decide⟩
  change ((0 : ℕ) : ℚ) + ((5 : ℕ) + 0) / 10 = 1 / 2
  norm_num

theorem required_exact_quarter :
    let quarter := (Threshold.absolutePercentage " .250 " 3).required
    let half := (Threshold.absolutePercentage "0.5" 4).required
    IsLeast {k : ℤ | (3 : ℚ) * (1 / 4) ≤ k} 1 ∧ quarter = .ok 1 ∧
      (∃ r, quarter = .ok r ∧ r ≤ 3) ∧ ∀ r r', quarter = .ok r → half = .ok r' → r ≤ r' := by
  intro quarter half
  have hleast : IsLeast {k : ℤ | (3 : ℚ) * (1 / 4) ≤ k} 1 := by
    constructor
    · change (3 : ℚ) * (1 / 4) ≤ (1 : ℤ)
      norm_num
    · intro k (hk : (3 : ℚ) * (1 / 4) ≤ k)
      have hpos : (0 : ℚ) < k := lt_of_lt_of_le (by norm_num) hk
      exact_mod_cast hpos
  obtain ⟨hdecimal, hvalue, hplaces⟩ := value_quarter
  obtain ⟨hdecimal', hvalue', hplaces'⟩ := value_half
  obtain ⟨⟨n, hn, hrequired⟩, hle, hmono⟩ := (required_exact hdecimal 3).2 hplaces
  rw [hvalue] at hn hle hmono
  have hone : n = 1 := by exact_mod_cast hn.unique hleast
  rw [hone] at hrequired
  exact ⟨hleast, hrequired, hle (by norm_num), fun r r' =>
    hmono "0.5" 4 r r' hdecimal' hplaces' (by rw [hvalue']; norm_num) (by decide)⟩

/-! ### More places than are counted -/

def tiny (zeros : ℕ) : String :=
  String.ofList ('.' :: (List.replicate zeros '0' ++ ['1']))

section tiny

variable (n : ℕ)

theorem mem_tiny {c : Char} (hc : c ∈ '.' :: (List.replicate n '0' ++ ['1'])) :
    c = '.' ∨ c = '0' ∨ c = '1' := by
  simp only [List.mem_cons, List.mem_append, List.mem_replicate, List.not_mem_nil, or_false] at hc
  exact hc.imp_right (Or.imp_left And.right)

theorem trimmed_tiny :
    trimmed (tiny n).toList = '.' :: (List.replicate n '0' ++ ['1']) := by
  rw [tiny, String.toList_ofList]
  refine trimmed_eq_self fun c hc => ?_
  rcases mem_tiny n hc with rfl | rfl | rfl <;> rfl

theorem isDecimal_tiny : IsDecimal (trimmed (tiny n).toList) := by
  rw [trimmed_tiny]
  refine ⟨fun c hc => ?_, ?_, '1', by simp, rfl⟩
  · rcases mem_tiny n hc with rfl | rfl | rfl
    · exact .inr rfl
    · exact .inl rfl
    · exact .inl rfl
  · simp [List.count_replicate]

theorem places_tiny : places (trimmed (tiny n).toList) = n + 1 := by
  simp [trimmed_tiny, places]

theorem value_tiny : value (trimmed (tiny n).toList) = 1 / 10 ^ (n + 1) := by
  have hfraction : fractionValue (List.replicate n '0' ++ ['1']) = 1 / 10 ^ (n + 1) := by
    induction n with
    | zero => simp [fractionValue]
    | succ n ih =>
      rw [List.replicate_succ, List.cons_append, fractionValue, ih, pow_succ _ (n + 1), ← div_div]
      simp
  simpa [trimmed_tiny, value] using hfraction

variable {n}

theorem looseValue_tiny (hn : n + 1 = 2 ^ 32) : looseValue (trimmed (tiny n).toList) = 1 := by
  have hcounted : (n + 1) % 2 ^ 32 = 0 := by rw [hn, Nat.mod_self]
  rw [(isDecimal_tiny n).looseValue_eq, places_tiny, value_tiny, hcounted, Nat.sub_zero]
  exact one_div_mul_cancel (pow_ne_zero _ (by norm_num))

theorem isLeast_tiny (hn : 1 ≤ n) :
    IsLeast {k : ℤ | (100 : ℚ) * value (trimmed (tiny n).toList) ≤ k} 1 := by
  rw [value_tiny]
  constructor
  · have hpow : (10 : ℚ) ^ 2 ≤ 10 ^ (n + 1) := pow_le_pow_right₀ (by norm_num) (by omega)
    change (100 : ℚ) * (1 / 10 ^ (n + 1)) ≤ (1 : ℤ)
    rw [mul_one_div, Int.cast_one, div_le_one (by positivity)]
    linarith
  · intro k (hk : (100 : ℚ) * (1 / 10 ^ (n + 1)) ≤ k)
    have hpos : (0 : ℚ) < k := lt_of_lt_of_le (by positivity) hk
    exact_mod_cast hpos

theorem required_tiny (hn : n + 1 = 2 ^ 32) :
    (Threshold.absolutePercentage (tiny n) 100).required = .ok 100 := by
  refine required_eq_ok.2 ⟨(isDecimal_tiny n).isLoose, ?_⟩
  rw [looseValue_tiny hn, mul_one, Nat.ceil_natCast]

end tiny

/-- Of a hundred, one approval is asked for at a value this close to nothing, and a hundred are taken. -/
theorem required_wrapped :
    let text := trimmed (tiny (2 ^ 32 - 1)).toList
    IsDecimal text ∧ IsLeast {k : ℤ | (100 : ℚ) * value text ≤ k} 1 ∧
      (Threshold.absolutePercentage (tiny (2 ^ 32 - 1)) 100).required = .ok 100 :=
  ⟨isDecimal_tiny _, isLeast_tiny (by norm_num), required_tiny (by norm_num)⟩

/-! ### Texts that are no decimal numbers -/

theorem isDecimal_of_isLoose {cs : List Char} (h : IsLoose (cs.erase '.')) (hunderscore : '_' ∉ cs)
    (hplus : '+' ∉ cs) : IsDecimal cs := by
  obtain ⟨c, rest, hglued, hc, hrest⟩ := h
  have hmem : ∀ d ∈ cs.erase '.', d ∈ cs := fun d hd => List.mem_of_mem_erase hd
  have hglued : cs.erase '.' = c :: rest := by
    refine hglued.resolve_right fun h => hplus (hmem _ ?_)
    rw [h]
    exact List.mem_cons_self
  have hdigits : ∀ d ∈ cs.erase '.', d.isDigit = true := by
    intro d hd
    rw [hglued] at hd
    rcases List.mem_cons.1 hd with rfl | hd
    · exact hc
    · refine (hrest d hd).resolve_right fun h => hunderscore (hmem _ ?_)
      rw [hglued, ← h]
      exact List.mem_cons_of_mem _ hd
  have hpoint : (cs.erase '.').count '.' = 0 := by
    refine List.count_eq_zero.2 fun h => ?_
    cases hdigits '.' h
  rw [List.count_erase_self] at hpoint
  refine ⟨fun d hd => ?_, Nat.sub_eq_zero_iff_le.1 hpoint, c, hmem c ?_, hc⟩
  · by_cases hd' : d = '.'
    · exact .inr hd'
    · exact .inl (hdigits d ((List.mem_erase_of_ne hd').2 hd))
  · rw [hglued]
    exact List.mem_cons_self

/-- A text that is no decimal number is refused, unless it is loose but for its first point; so it is
whenever it holds no underscore and no plus sign. -/
theorem malformed_refused_iff {percentage : String} (h : ¬IsDecimal (trimmed percentage.toList))
    (total : UInt64) :
    let text := trimmed percentage.toList
    let required := (Threshold.absolutePercentage percentage total).required
    let refusal : Except String UInt64 := .error s!"absolute_percentage {percentage}"
    (required = refusal ↔
        ¬IsLoose (text.erase '.') ∨ 2 ^ 64 ≤ ⌈(total.toNat : ℚ) * looseValue text⌉₊) ∧
      ('_' ∉ text → '+' ∉ text → required = refusal) := by
  intro text required refusal
  refine ⟨required_eq_error, fun hunderscore hplus => required_eq_error.2 (.inl fun hloose => ?_)⟩
  exact h (isDecimal_of_isLoose hloose hunderscore hplus)

theorem malformed_refused_points :
    ¬IsDecimal (trimmed "0.5.1".toList) ∧
      (Threshold.absolutePercentage "0.5.1" 100).required = .error "absolute_percentage 0.5.1" := by
  have hmalformed : ¬IsDecimal (trimmed "0.5.1".toList) :=
    fun h => absurd h.2.1 (by decide +kernel)
  have hrefused := (malformed_refused_iff hmalformed 100).2 (by decide +kernel) (by decide +kernel)
  exact ⟨hmalformed, hrefused⟩

/-- With an underscore behind its point, a half is taken for a twentieth. -/
theorem malformed_accepted :
    ¬IsDecimal (trimmed "0._5".toList) ∧
      (Threshold.absolutePercentage "0.5" 100).required = .ok 50 ∧
      (Threshold.absolutePercentage "0._5" 100).required = .ok 5 := by
  have hunderscore : '_' ∈ trimmed "0._5".toList := by decide +kernel
  have hmalformed : ¬IsDecimal (trimmed "0._5".toList) :=
    fun h => absurd (h.1 '_' hunderscore) (by decide)
  exact ⟨hmalformed, rfl, rfl⟩

end Countersign.Percentage
