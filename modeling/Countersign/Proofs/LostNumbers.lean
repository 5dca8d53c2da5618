import Countersign.Proofs.JsonText
import Countersign.Proofs.Reordering
import Mathlib

/-!
Every number that is not read as an integer shares its reading with a literal of another value, so a
document with such a number is alike to a document that it is not the same as.
-/

namespace Countersign

namespace Decimal.Binary64

variable {x : Binary64}

theorem magnitude_rounds (x : Binary64) : x.Rounds x.magnitude :=
  .inl ⟨x.lower_lt_magnitude, x.magnitude_lt_upper⟩

theorem exists_magnitude_eq (x : Binary64) :
    ∃ (digits : ℕ) (places : ℕ), x.magnitude = digits * 10 ^ (-(places : ℤ)) := by
  refine ⟨x.mantissa * 2 ^ x.exponent.toNat * 5 ^ (-x.exponent).toNat, (-x.exponent).toNat, ?_⟩
  have hten : (10 : ℚ) ^ (-x.exponent).toNat
      = 2 ^ (-x.exponent).toNat * 5 ^ (-x.exponent).toNat := by
    rw [← mul_pow]
    norm_num
  rw [magnitude, zpow_eq_div 2, zpow_neg, zpow_natCast, hten]
  push_cast
  field_simp

theorem exists_two_decimals (hx : x.WellFormed) : ∃ (a b : ℕ) (i j : ℤ),
    (a * 10 ^ i : ℚ) ≠ b * 10 ^ j ∧ ofDecimal? x.negative a i = some x ∧
      ofDecimal? x.negative b j = some x := by
  rcases Nat.eq_zero_or_pos x.mantissa with hm | hm
  · have hzero := hx.eq_zero hm
    have hsmall : (0 : ℚ) < 10 ^ (-400 : ℤ) := by positivity
    refine ⟨0, 1, 0, -400, ?_, ?_, ?_⟩
    · rw [Nat.cast_zero, zero_mul, Nat.cast_one, one_mul]
      exact hsmall.ne
    · rw [ofDecimal?_zero, ← hzero]
    · rw [ofDecimal?, if_pos (.inr (by decide)), ← hzero]
  · obtain ⟨digits, places, hmagnitude⟩ := x.exists_magnitude_eq
    obtain ⟨more, hmore⟩ := exists_pow_lt_of_lt_one (sub_pos.2 x.magnitude_lt_upper)
      (show (10 : ℚ)⁻¹ < 1 by norm_num)
    -- one more digit, far enough behind the last one
    have hnext : ((digits * 10 ^ more + 1 : ℕ) : ℚ) * 10 ^ (-(places : ℤ) - more)
        = x.magnitude + 10 ^ (-(places : ℤ) - more) := by
      rw [hmagnitude, zpow_sub₀ (by norm_num), zpow_natCast]
      push_cast
      field_simp
    have hpos : (0 : ℚ) < 10 ^ (-(places : ℤ) - more) := by positivity
    have hsmall : (10 : ℚ) ^ (-(places : ℤ) - more) < x.upper - x.magnitude := by
      refine lt_of_le_of_lt ?_ hmore
      rw [inv_pow, ← zpow_natCast, ← zpow_neg]
      exact zpow_le_zpow_right₀ one_lt_ten.le (by omega)
    refine ⟨digits, digits * 10 ^ more + 1, -places, -places - more, ?_, ?_, ?_⟩
    · rw [hnext, hmagnitude]
      linarith
    · apply ofDecimal?_eq_some hx hm
      rw [← hmagnitude]
      exact x.magnitude_rounds
    · apply ofDecimal?_eq_some hx hm
      rw [hnext]
      exact .inl ⟨by linarith [x.lower_lt_magnitude], by linarith⟩

end Decimal.Binary64

namespace Literal

theorem written_of_not_plain {n : Literal} (h : n.plain = false) : n.Written := by
  intro hplain
  rw [h] at hplain
  cases hplain

theorem exists_readAlike_ne {n : Literal} {x : Decimal.Binary64} (h : n.toJson? = some (.float x)) :
    ∃ m, m.Written ∧ n.ReadAlike m ∧ ¬ n.SameValue m := by
  have hx : x.WellFormed := by
    cases Document.toJson?_number_readable 0 h with
    | float hx => exact hx
  obtain ⟨a, b, i, j, hne, ha, hb⟩ := Decimal.Binary64.exists_two_decimals hx
  have hfirst := Document.toJson?_decimal (n := ⟨x.negative, a, i, false⟩) rfl ha
  have hsecond := Document.toJson?_decimal (n := ⟨x.negative, b, j, false⟩) rfl hb
  -- the two decimals differ, so one of them is not what `n` writes
  by_cases hsame : n.SameValue ⟨x.negative, a, i, false⟩
  · refine ⟨⟨x.negative, b, j, false⟩, written_of_not_plain rfl, h.trans hsecond.symm, ?_⟩
    intro hother
    have hexact := hsame.symm.trans hother
    simp only [exact, mul_assoc] at hexact
    refine hne (mul_left_cancel₀ ?_ hexact)
    split <;> norm_num
  · exact ⟨_, written_of_not_plain rfl, h.trans hfirst.symm, hsame⟩

end Literal

namespace Document

/-! ### Texts of documents -/

theorem exists_numberText {n : Literal} (hn : n.Written) : ∃ cs, Numeric cs ∧
    ∀ rest, Closed rest → number? (cs ++ rest) = some (n, rest) := by
  obtain ⟨negative, significand, exponent, plain⟩ := n
  have hdigit := Text.isDigit_toDigits significand
  cases plain with
  | true =>
    obtain rfl : exponent = 0 := hn rfl
    have hread := fun rest (hrest : Closed rest) => unsignedNumber?_whole negative
      Nat.toDigits_ne_nil hdigit Text.length_toDigits_of_zero hrest
    rw [Nat.ofDigitChars_ten_toDigits] at hread
    obtain ⟨hnumber, hnumeric⟩ := number?_of_body hread
    exact ⟨_, hnumeric, hnumber⟩
  | false =>
    have hread := fun rest (hrest : Closed rest) => unsignedNumber?_scientific negative
      (exponent + (Nat.toDigits 10 significand).length - 1) Nat.toDigits_ne_nil hdigit hrest
    rw [Nat.ofDigitChars_ten_toDigits] at hread
    obtain ⟨hnumber, hnumeric⟩ := number?_of_body hread
    rw [show exponent + (Nat.toDigits 10 significand).length - 1 + 1
      - (Nat.toDigits 10 significand).length = exponent by ring] at hnumber
    exact ⟨_, hnumeric, hnumber⟩

theorem exists_text {depth : ℕ} {d : Document} {v : Json} (hd : d.Each Literal.Written)
    (hv : d.toJson? depth = some v) : ∃ cs, Writes cs d := by
  induction d using induct generalizing depth v with
  | null => exact ⟨_, writes_null⟩
  | bool b => exact ⟨_, writes_bool b⟩
  | number n =>
    cases hd with | number hn =>
    obtain ⟨cs, hnumeric, hread⟩ := exists_numberText hn
    exact ⟨cs, writes_number hnumeric hread⟩
  | text s =>
    rw [toJson?] at hv
    obtain ⟨s, rfl, -⟩ := Option.map_eq_some_iff.1 hv
    exact ⟨_, writes_text s⟩
  | list items ih =>
    cases hd with | list hd =>
    obtain ⟨inner, vs, rfl, hvs, rfl⟩ := toJson?_list.1 hv
    have htexts : ∀ e ∈ items, ∃ cs, Writes cs e := by
      intro e he
      obtain ⟨w, -, hw⟩ := exists_left_of_mem hvs.flip he
      exact ih e he (hd e he) hw
    obtain ⟨texts, htexts⟩ := exists_forall₂ htexts
    exact ⟨_, writes_list htexts.flip⟩
  | object entries ih =>
    cases hd with | object hd =>
    obtain ⟨inner, es, rfl, hes, rfl⟩ := toJson?_object.1 hv
    have htexts : ∀ e ∈ entries, ∃ cs, WritesEntry cs e := by
      intro e he
      obtain ⟨f, -, hkey, hf⟩ := exists_left_of_mem hes.flip he
      obtain ⟨cs, hcs⟩ := ih e he (hd e he) hf
      exact ⟨_, by rw [← Prod.mk.eta (p := e), hkey]; exact writesEntry f.1 hcs⟩
    obtain ⟨texts, htexts⟩ := exists_forall₂ htexts
    exact ⟨_, writes_object htexts.flip⟩

/-! ### A document with another number -/

theorem eq_of_perm_of_keys {κ α : Type} {as bs : List (κ × α)} (hnodup : (as.map Prod.fst).Nodup)
    (hperm : as.Perm bs) (hkeys : as.map Prod.fst = bs.map Prod.fst) : as = bs := by
  induction as generalizing bs with
  | nil => exact (List.nil_perm.1 hperm).symm
  | cons a as ih =>
    cases bs with
    | nil => cases hkeys
    | cons b bs =>
      rw [List.map_cons, List.map_cons] at hkeys
      obtain ⟨-, hrest⟩ := List.cons.inj hkeys
      obtain ⟨hnew, hnodup⟩ := List.nodup_cons.1 hnodup
      have hab : a = b := by
        rcases List.mem_cons.1 (hperm.mem_iff.1 List.mem_cons_self) with hab | hab
        · exact hab
        · rw [hrest] at hnew
          exact absurd (List.mem_map_of_mem hab) hnew
      subst hab
      rw [ih hnodup hperm.cons_inv hrest]

theorem zip_replaced {α : Type} {before after : List α} {a b : α} {p : α × α}
    (h : p ∈ (before ++ a :: after).zip (before ++ b :: after)) : p.1 = p.2 ∨ p = (a, b) := by
  rw [List.zip_append rfl, List.zip_cons_cons] at h
  rcases List.mem_append.1 h with h | h
  · exact .inl (zip_self h).1
  · rcases List.mem_cons.1 h with h | h
    · exact .inr h
    · exact .inl (zip_self h).1

theorem mem_zip_replaced {α : Type} (before after : List α) (a b : α) :
    (a, b) ∈ (before ++ a :: after).zip (before ++ b :: after) := by
  rw [List.zip_append rfl, List.zip_cons_cons]
  exact List.mem_append_right _ List.mem_cons_self

theorem forall_mem_replaced {α : Type} {P : α → Prop} {before after : List α} {a b : α}
    (h : ∀ c ∈ before ++ a :: after, P c) (hb : P b) : ∀ c ∈ before ++ b :: after, P c := by
  simp only [List.forall_mem_append, List.forall_mem_cons] at h ⊢
  exact ⟨h.1, hb, h.2.2⟩

theorem exists_number_lost {depth : ℕ} {d : Document} {v : Json} (hkeys : d.DistinctKeys)
    (hwritten : d.Each Literal.Written) (hv : d.toJson? depth = some v)
    (hlost : ¬ d.Each (·.integer?.isSome)) : ∃ d' : Document,
      d'.DistinctKeys ∧ d'.Each Literal.Written ∧ d.Alike Literal.ReadAlike d' ∧
        ¬ d.Alike Literal.SameValue d' := by
  induction d using induct generalizing depth v with
  | null => exact absurd .null hlost
  | bool b => exact absurd (.bool b) hlost
  | text s => exact absurd (.text s) hlost
  | number n =>
    rw [toJson?] at hv
    obtain ⟨i, rfl⟩ | ⟨x, rfl⟩ := Literal.toJson?_number hv
    · exact absurd (.number (by rw [Literal.toJson?_eq_int.1 hv]; rfl)) hlost
    · obtain ⟨m, hm, halike, hne⟩ := Literal.exists_readAlike_ne hv
      refine ⟨.number m, .number m, .number hm, .number halike, fun h => ?_⟩
      cases h with | number h => exact hne h
  | list items ih =>
    cases hkeys with | list hkeys =>
    cases hwritten with | list hwritten =>
    obtain ⟨inner, vs, rfl, hvs, rfl⟩ := toJson?_list.1 hv
    obtain ⟨d, hd, hlost⟩ : ∃ d ∈ items, ¬ d.Each (·.integer?.isSome) := by
      by_contra hall
      push Not at hall
      exact hlost (.list hall)
    obtain ⟨w, -, hw⟩ := exists_left_of_mem hvs.flip hd
    obtain ⟨d', hkeys', hwritten', halike, hne⟩ := ih d hd (hkeys d hd) (hwritten d hd) hw hlost
    obtain ⟨before, after, rfl⟩ := List.append_of_mem hd
    refine ⟨.list (before ++ d' :: after), .list (forall_mem_replaced hkeys hkeys'),
      .list (forall_mem_replaced hwritten hwritten'), .list (by simp) fun p hp => ?_, fun h => ?_⟩
    · rcases zip_replaced hp with heq | rfl
      · exact heq ▸ alike_self (R := Literal.ReadAlike) (fun _ => rfl) p.1
      · exact halike
    · cases h with | list _ h => exact hne (h _ (mem_zip_replaced before after d d'))
  | object entries ih =>
    cases hkeys with | object hdistinct hkeys =>
    cases hwritten with | object hwritten =>
    obtain ⟨inner, es, rfl, hes, rfl⟩ := toJson?_object.1 hv
    obtain ⟨⟨key, d⟩, hd, hlost⟩ : ∃ e ∈ entries, ¬ e.2.Each (·.integer?.isSome) := by
      by_contra hall
      push Not at hall
      exact hlost (.object hall)
    obtain ⟨f, -, -, hf⟩ := exists_left_of_mem hes.flip hd
    obtain ⟨d', hkeys', hwritten', halike, hne⟩ := ih _ hd (hkeys _ hd) (hwritten _ hd) hf hlost
    have hnodup : (entries.map Prod.fst).Nodup := by
      rw [keys_of_forall₂ hes, ← List.map_map]
      exact (nodup_of_forall₂ hdistinct hes).map (Option.some_injective _)
    obtain ⟨before, after, rfl⟩ := List.append_of_mem hd
    have hsameKeys : (before ++ (key, d) :: after).map Prod.fst
        = (before ++ (key, d') :: after).map Prod.fst := by simp
    refine ⟨.object (before ++ (key, d') :: after), .object ?_ (forall_mem_replaced hkeys hkeys'),
      .object (forall_mem_replaced hwritten hwritten'), .object (.refl _) hsameKeys fun p hp => ?_,
      fun h => ?_⟩
    · simpa [List.filterMap_append, List.filterMap_cons] using hdistinct
    · rcases zip_replaced hp with heq | rfl
      · exact heq ▸ alike_self (R := Literal.ReadAlike) (fun _ => rfl) p.1.2
      · exact halike
    · -- distinct keys leave one way to pair the entries
      cases h with | object hperm hkeys h =>
      obtain rfl := eq_of_perm_of_keys hnodup hperm (hsameKeys.trans hkeys.symm)
      exact hne (h _ (mem_zip_replaced before after (key, d) (key, d')))

end Document

end Countersign
