import Countersign.Json.Reader
import Countersign.Json.Writer
import Countersign.Proofs.Shortest
import Mathlib

/-! A number's text reads as that number, whatever closes it. -/

namespace Countersign

namespace Text

theorem ofDigits_values (cs : List Char) :
    ofDigits (cs.map fun c => c.toNat - '0'.toNat) = Nat.ofDigitChars 10 cs 0 := by
  rw [ofDigits, Nat.ofDigitChars_eq_foldl, List.foldl_map]

theorem head?_toDigits_ne {n : ℕ} (hn : 0 < n) : (Nat.toDigits 10 n).head? ≠ some '0' := by
  induction n using Nat.strongRecOn with
  | ind n ih =>
    rw [Nat.toDigits_eq_if (by norm_num)]
    split
    · interval_cases n <;> decide
    · rw [List.head?_append_of_ne_nil _ Nat.toDigits_ne_nil]
      exact ih _ (by omega) (by omega)

theorem length_toDigits_of_zero {n : ℕ} (h : (Nat.toDigits 10 n).head? = some '0') :
    (Nat.toDigits 10 n).length = 1 := by
  rcases Nat.eq_zero_or_pos n with rfl | hn
  · rfl
  · exact absurd h (head?_toDigits_ne hn)

theorem isDigit_toDigits (n : ℕ) : ∀ c ∈ Nat.toDigits 10 n, c.isDigit = true :=
  fun _ h => Nat.isDigit_of_mem_toDigits (by norm_num) (by norm_num) h

end Text

namespace Document

def Closed (rest : List Char) : Prop :=
  ∀ c, rest.head? = some c → c = ',' ∨ c = ']' ∨ c = '}'

variable {cs rest : List Char}

theorem digits?_append (hne : cs ≠ []) (hdigit : ∀ c ∈ cs, c.isDigit = true)
    (hrest : ∀ c, rest.head? = some c → c.isDigit = false) :
    digits? (cs ++ rest) = some (cs.map fun c => c.toNat - '0'.toNat, rest) := by
  have htake : rest.takeWhile Char.isDigit = [] := by
    cases rest with
    | nil => rfl
    | cons c rest => rw [List.takeWhile_cons, hrest c rfl]; rfl
  have hdrop : rest.dropWhile Char.isDigit = rest := by
    cases rest with
    | nil => rfl
    | cons c rest => rw [List.dropWhile_cons, hrest c rfl]; rfl
  rw [digits?, List.takeWhile_append_of_pos hdigit, List.dropWhile_append_of_pos hdigit, htake,
    hdrop, List.append_nil]
  simp [hne]

theorem head?_cons_not_digit {c : Char} (hc : c.isDigit = false) (cs : List Char) :
    ∀ d, (c :: cs).head? = some d → d.isDigit = false := by
  rintro d ⟨⟩
  exact hc

theorem Closed.not_digit (h : Closed rest) : ∀ c, rest.head? = some c → c.isDigit = false := by
  intro c hc
  rcases h c hc with rfl | rfl | rfl <;> rfl

theorem fraction?_closed (h : Closed rest) : fraction? rest = some ([], rest) := by
  unfold fraction?
  split
  · next cs => rcases h '.' rfl with h | h | h <;> simp at h
  · rfl

theorem power?_closed (h : Closed rest) : power? rest = some (none, rest) := by
  cases rest with
  | nil => rfl
  | cons c cs =>
    unfold power?
    rcases h c rfl with rfl | rfl | rfl <;> rfl

/-! ### Whole numbers -/

theorem head?_values (cs : List Char) (hdigit : ∀ c ∈ cs, c.isDigit = true) :
    (cs.map fun c => c.toNat - '0'.toNat).head? = some 0 ↔ cs.head? = some '0' := by
  cases cs with
  | nil => simp
  | cons c cs =>
    have hc := Char.isDigit_iff_toNat.1 (hdigit c (by simp))
    simp only [List.map_cons, List.head?_cons, Option.some.injEq]
    rw [← Char.toNat_inj]
    omega

theorem unsignedNumber?_eq (negative : Bool) {whole fraction : List ℕ} {power : Option ℤ}
    {afterWhole afterFraction : List Char} (hwhole : digits? cs = some (whole, afterWhole))
    (hzero : whole.head? = some 0 → whole.length = 1)
    (hfraction : fraction? afterWhole = some (fraction, afterFraction))
    (hpower : power? afterFraction = some (power, rest)) :
    unsignedNumber? negative cs
      = some (⟨negative, Text.ofDigits (whole ++ fraction), power.getD 0 - fraction.length,
          fraction.isEmpty && power.isNone⟩, rest) := by
  have hleading : ¬ (whole.head? = some 0 ∧ whole.length ≠ 1) := by tauto
  rw [unsignedNumber?, hwhole]
  simp only [Option.bind_eq_bind, Option.bind_some, if_neg hleading, hfraction, hpower]
  rfl

theorem unsignedNumber?_whole (negative : Bool) (hne : cs ≠ [])
    (hdigit : ∀ c ∈ cs, c.isDigit = true) (hzero : cs.head? = some '0' → cs.length = 1)
    (hrest : Closed rest) :
    unsignedNumber? negative (cs ++ rest)
      = some (⟨negative, Nat.ofDigitChars 10 cs 0, 0, true⟩, rest) := by
  rw [← head?_values cs hdigit] at hzero
  rw [unsignedNumber?_eq negative (digits?_append hne hdigit hrest.not_digit) (by simpa using hzero)
    (fraction?_closed hrest) (power?_closed hrest), List.append_nil, Text.ofDigits_values]
  rfl

/-! ### Numbers with a point or an exponent -/

theorem fraction?_point (hne : cs ≠ []) (hdigit : ∀ c ∈ cs, c.isDigit = true)
    (hrest : ∀ c, rest.head? = some c → c.isDigit = false) :
    fraction? ('.' :: (cs ++ rest)) = some (cs.map fun c => c.toNat - '0'.toNat, rest) :=
  digits?_append hne hdigit hrest

theorem unsignedNumber?_point (negative : Bool) {whole fraction : List Char} (hwhole : whole ≠ [])
    (hfraction : fraction ≠ []) (hdigit : ∀ c ∈ whole ++ fraction, c.isDigit = true)
    (hzero : whole.head? = some '0' → whole.length = 1) (hrest : Closed rest) :
    unsignedNumber? negative (whole ++ '.' :: (fraction ++ rest))
      = some (⟨negative, Nat.ofDigitChars 10 (whole ++ fraction) 0, -(fraction.length : ℤ), false⟩,
          rest) := by
  have hwholeDigit : ∀ c ∈ whole, c.isDigit = true := fun c hc => hdigit c (by simp [hc])
  have hfractionDigit : ∀ c ∈ fraction, c.isDigit = true := fun c hc => hdigit c (by simp [hc])
  rw [← head?_values whole hwholeDigit] at hzero
  have hread := digits?_append hwhole hwholeDigit
    (head?_cons_not_digit (c := '.') rfl (fraction ++ rest))
  rw [unsignedNumber?_eq negative hread (by simpa using hzero)
    (fraction?_point hfraction hfractionDigit hrest.not_digit) (power?_closed hrest),
    ← List.map_append, Text.ofDigits_values]
  simp [hfraction]

theorem power?_order (order : ℤ) (hrest : Closed rest) :
    power? ('e' :: (if order < 0 then '-' else '+') :: Nat.toDigits 10 order.natAbs ++ rest)
      = some (some order, rest) := by
  have hdigits := digits?_append Nat.toDigits_ne_nil (Text.isDigit_toDigits order.natAbs)
    hrest.not_digit
  unfold power?
  split_ifs with hneg
  · simp only [List.cons_append, true_or, if_true, hdigits, Option.map_some, Text.ofDigits_values,
      Nat.ofDigitChars_ten_toDigits]
    rw [show -(order.natAbs : ℤ) = order by omega]
  · simp only [List.cons_append, true_or, if_true, hdigits, Option.map_some, Text.ofDigits_values,
      Nat.ofDigitChars_ten_toDigits, Bool.false_eq_true, if_false]
    rw [show (order.natAbs : ℤ) = order by omega]

theorem unsignedNumber?_scientific (negative : Bool) (order : ℤ) (hne : cs ≠ [])
    (hdigit : ∀ c ∈ cs, c.isDigit = true) (hrest : Closed rest) :
    unsignedNumber? negative (Decimal.Layout.scientific cs order ++ rest)
      = some (⟨negative, Nat.ofDigitChars 10 cs 0, order + 1 - cs.length, false⟩, rest) := by
  obtain ⟨c, ds, rfl⟩ := List.exists_cons_of_ne_nil hne
  have hpower := power?_order order hrest
  have hfirst : ∀ d ∈ [c], d.isDigit = true := fun d hd => hdigit d (by simp_all)
  rw [Decimal.Layout.scientific]
  cases ds with
  | nil =>
    have hwhole := digits?_append (show [c] ≠ [] by simp) hfirst
      (head?_cons_not_digit (c := 'e') rfl ((if order < 0 then '-' else '+') :: (Nat.toDigits 10 order.natAbs ++ rest)))
    have hread := unsignedNumber?_eq negative hwhole (by simp) rfl hpower
    rw [List.append_nil, Text.ofDigits_values] at hread
    simpa using hread
  | cons d ds =>
    have hdigitRest : ∀ e ∈ d :: ds, e.isDigit = true := fun e he => hdigit e (by simp [he])
    have hfraction := fraction?_point (by simp) hdigitRest (head?_cons_not_digit (c := 'e') rfl
      ((if order < 0 then '-' else '+') :: (Nat.toDigits 10 order.natAbs ++ rest)))
    have hwhole := digits?_append (show [c] ≠ [] by simp) hfirst
      (head?_cons_not_digit (c := '.') rfl (d :: ds ++ 'e' ::
        (if order < 0 then '-' else '+') :: (Nat.toDigits 10 order.natAbs ++ rest)))
    have hread := unsignedNumber?_eq negative hwhole (by simp) hfraction hpower
    rw [← List.map_append, Text.ofDigits_values] at hread
    simpa using hread

end Document

namespace Decimal

theorem significant_spec {n : ℕ} (hn : 0 < n) (power : ℤ) : ∃ ds order,
    significant n power = (ds, order) ∧ ds ≠ [] ∧ (∀ c ∈ ds, c.isDigit = true) ∧
      ds.head? ≠ some '0' ∧
      (Nat.ofDigitChars 10 ds 0 : ℚ) * 10 ^ (order + 1 - ds.length) = n * 10 ^ power := by
  have hsplit := List.rdropWhile_append_rtakeWhile (p := (· == '0')) (l := Nat.toDigits 10 n)
  obtain ⟨z, hz⟩ : ∃ z, (Nat.toDigits 10 n).rtakeWhile (· == '0') = List.replicate z '0' :=
    ⟨_, List.eq_replicate_of_mem fun c hc => by simpa using List.mem_rtakeWhile_imp hc⟩
  rw [hz] at hsplit
  -- what is known of the digits with their zeros is brought to the digits without them
  have hvalue := Nat.ofDigitChars_ten_toDigits (n := n)
  have hdigit := Text.isDigit_toDigits n
  have hhead := Text.head?_toDigits_ne hn
  rw [significant, ← List.rdropWhile]
  generalize (Nat.toDigits 10 n).rdropWhile (· == '0') = ds at *
  rw [← hsplit] at hvalue hdigit hhead ⊢
  rw [Nat.ofDigitChars_append, Nat.ofDigitChars_replicate_zero] at hvalue
  have hne : ds ≠ [] := by
    rintro rfl
    rw [Nat.ofDigitChars_nil, mul_zero] at hvalue
    omega
  refine ⟨ds, _, rfl, hne, fun c hc => hdigit c (by simp [hc]), ?_, ?_⟩
  · rwa [List.head?_append_of_ne_nil _ hne] at hhead
  · rw [← hvalue]
    push_cast [List.length_append, List.length_replicate]
    rw [show (ds.length : ℤ) + z - 1 + power + 1 - ds.length = z + power by ring,
      zpow_add₀ (by norm_num), zpow_natCast]
    ring

theorem isDigit_replicate (k : ℕ) : ∀ c ∈ List.replicate k '0', c.isDigit = true := by
  intro c hc
  rw [List.eq_of_mem_replicate hc]
  rfl

theorem positional_spec {ds : List Char} (order : ℤ) (hne : ds ≠ [])
    (hdigit : ∀ c ∈ ds, c.isDigit = true) (hzero : ds.head? ≠ some '0') : ∃ whole fraction,
    Layout.positional ds order = whole ++ '.' :: fraction ∧ whole ≠ [] ∧ fraction ≠ [] ∧
      (∀ c ∈ whole ++ fraction, c.isDigit = true) ∧
      (whole.head? = some '0' → whole.length = 1) ∧
      (Nat.ofDigitChars 10 (whole ++ fraction) 0 : ℚ) * 10 ^ (-(fraction.length : ℤ))
        = Nat.ofDigitChars 10 ds 0 * 10 ^ (order + 1 - ds.length) := by
  have hten : (10 : ℚ) ≠ 0 := by norm_num
  rw [Layout.positional]
  by_cases hneg : order < 0
  · -- zeros lead up to the digits
    rw [if_pos hneg]
    refine ⟨['0'], List.replicate (-order - 1).toNat '0' ++ ds, by simp, by simp, by simp [hne], ?_,
      fun _ => rfl, ?_⟩
    · intro c hc
      rw [List.singleton_append] at hc
      rcases List.mem_cons.1 hc with rfl | hc
      · rfl
      · exact (List.mem_append.1 hc).elim (isDigit_replicate _ c) (hdigit c)
    · rw [Nat.ofDigitChars_append, Nat.ofDigitChars_append, Nat.ofDigitChars_cons,
        Nat.ofDigitChars_nil, Nat.ofDigitChars_replicate_zero, List.length_append,
        List.length_replicate]
      simp only [mul_zero, Nat.zero_add, Nat.sub_self]
      congr 2
      push_cast
      omega
  · rw [if_neg hneg]
    by_cases hlen : ds.length ≤ order.toNat + 1
    · -- zeros fill the places up to the point
      have hdrop : ds.drop (order.toNat + 1) = [] := List.drop_eq_nil_of_le hlen
      have htake : ds.take (order.toNat + 1) = ds := List.take_of_length_le hlen
      refine ⟨ds ++ List.replicate (order.toNat + 1 - ds.length) '0', ['0'], by simp [hdrop, htake],
        by simp [hne], by simp, ?_, ?_, ?_⟩
      · intro c hc
        rcases List.mem_append.1 hc with hc | hc
        · exact (List.mem_append.1 hc).elim (hdigit c) (isDigit_replicate _ c)
        · rw [List.mem_singleton.1 hc]
          rfl
      · intro hhead
        rw [List.head?_append_of_ne_nil _ hne] at hhead
        exact absurd hhead hzero
      · rw [Nat.ofDigitChars_append, Nat.ofDigitChars_append, Nat.ofDigitChars_replicate_zero,
          Nat.ofDigitChars_cons, Nat.ofDigitChars_nil]
        simp only [Nat.sub_self, Nat.add_zero, List.length_singleton]
        push_cast
        have hplaces : order + 1 - ds.length = ((order.toNat + 1 - ds.length : ℕ) : ℤ) := by omega
        rw [hplaces, zpow_natCast]
        field_simp
    · have hfraction : ds.drop (order.toNat + 1) ≠ [] := by
        rw [ne_eq, List.drop_eq_nil_iff]
        exact hlen
      -- the point falls among the digits
      refine ⟨ds.take (order.toNat + 1), ds.drop (order.toNat + 1), ?_, by simp [hne], hfraction,
        ?_, ?_, ?_⟩
      · simp [hfraction, show order.toNat + 1 - ds.length = 0 by omega]
      · rwa [List.take_append_drop]
      · intro hhead
        rw [List.head?_take] at hhead
        exact absurd (by simpa using hhead) hzero
      · rw [List.take_append_drop, List.length_drop]
        congr 2
        omega

theorem write_significant {x : Binary64} (hm : x.mantissa ≠ 0) {ds : List Char} {order : ℤ}
    (h : significant x.shortest.1 x.shortest.2 = (ds, order)) (l : Layout) :
    l.write x = if x.negative then
      '-' :: if l.least ≤ order ∧ order ≤ l.greatest then Layout.positional ds order
        else Layout.scientific ds order
    else if l.least ≤ order ∧ order ≤ l.greatest then Layout.positional ds order
      else Layout.scientific ds order := by
  rcases hshortest : x.shortest with ⟨digits, power⟩
  rw [hshortest] at h
  rw [Layout.write, if_neg hm, hshortest]
  dsimp only at h ⊢
  rw [h]

end Decimal

namespace Document

open Decimal

/-- A text that a number, and no other value, starts with. -/
def Numeric (cs : List Char) : Prop :=
  ∃ c, cs.head? = some c ∧ (c = '-' ∨ c.isDigit = true)

theorem number?_signed {body : List Char} (negative : Bool) (hne : body ≠ [])
    (hdigit : ∀ c, body.head? = some c → c.isDigit = true) (rest : List Char) :
    number? ((if negative then '-' :: body else body) ++ rest)
      = unsignedNumber? negative (body ++ rest) := by
  obtain ⟨c, cs, rfl⟩ := List.exists_cons_of_ne_nil hne
  have hc := hdigit c rfl
  cases negative with
  | true => rfl
  | false =>
    have hminus : c ≠ '-' := by
      rintro rfl
      cases hc
    simp [number?, hminus]

theorem unsignedNumber?_layout {ds : List Char} (order : ℤ) (hne : ds ≠ [])
    (hdigit : ∀ c ∈ ds, c.isDigit = true) (hzero : ds.head? ≠ some '0') (l : Layout) :
    ∃ significand exponent,
      (∀ negative rest, Closed rest → unsignedNumber? negative
        ((if l.least ≤ order ∧ order ≤ l.greatest then Layout.positional ds order
          else Layout.scientific ds order) ++ rest)
        = some (⟨negative, significand, exponent, false⟩, rest)) ∧
      (significand : ℚ) * 10 ^ exponent
        = Nat.ofDigitChars 10 ds 0 * 10 ^ (order + 1 - ds.length) := by
  split
  · obtain ⟨whole, fraction, htext, hwhole, hfraction, hdigits, hfirst, hvalue⟩ :=
      positional_spec order hne hdigit hzero
    refine ⟨_, _, fun negative rest hrest => ?_, hvalue⟩
    rw [htext, List.append_assoc]
    exact unsignedNumber?_point negative hwhole hfraction hdigits hfirst hrest
  · refine ⟨_, _, fun negative rest hrest => ?_, rfl⟩
    exact unsignedNumber?_scientific negative order hne hdigit hrest

theorem unsignedNumber?_head {negative : Bool} {r : Literal × List Char}
    (h : unsignedNumber? negative cs = some r) : ∃ c, cs.head? = some c ∧ c.isDigit = true := by
  cases cs with
  | nil => cases h
  | cons c cs =>
    refine ⟨c, rfl, ?_⟩
    by_contra hc
    have hnone : digits? (c :: cs) = none := by
      rw [digits?, List.takeWhile_cons, if_neg hc]
      rfl
    rw [unsignedNumber?, hnone] at h
    cases h

theorem closed_nil : Closed [] := by
  rintro c ⟨⟩

theorem number?_of_body {body : List Char} {negative : Bool} {n : Literal}
    (h : ∀ rest, Closed rest → unsignedNumber? negative (body ++ rest) = some (n, rest)) :
    (∀ rest, Closed rest →
      number? ((if negative then '-' :: body else body) ++ rest) = some (n, rest)) ∧
      Numeric (if negative then '-' :: body else body) := by
  obtain ⟨c, hc, hdigit⟩ := unsignedNumber?_head (h [] closed_nil)
  rw [List.append_nil] at hc
  have hne : body ≠ [] := by
    rintro rfl
    cases hc
  have hfirst : ∀ d, body.head? = some d → d.isDigit = true := by
    intro d hd
    rw [hc] at hd
    exact Option.some.inj hd ▸ hdigit
  refine ⟨fun rest hrest => ?_, ?_⟩
  · rw [number?_signed negative hne hfirst]
    exact h rest hrest
  · cases negative with
    | true => exact ⟨'-', rfl, .inl rfl⟩
    | false => exact ⟨c, hc, .inr hdigit⟩

theorem number?_int {i : ℤ} (hi : Json.isInteger i = true) : ∃ n : Literal,
    (∀ rest, Closed rest → number? (Json.intChars i ++ rest) = some (n, rest)) ∧
      n.toJson? = some (.int i) ∧ Numeric (Json.intChars i) := by
  have hread := fun rest (hrest : Closed rest) => unsignedNumber?_whole (decide (i < 0))
    Nat.toDigits_ne_nil (Text.isDigit_toDigits i.natAbs) Text.length_toDigits_of_zero hrest
  rw [Nat.ofDigitChars_ten_toDigits] at hread
  obtain ⟨hnumber, hnumeric⟩ := number?_of_body hread
  simp only [decide_eq_true_eq] at hnumber hnumeric
  refine ⟨_, hnumber, ?_, hnumeric⟩
  have hinteger : Literal.integer? ⟨decide (i < 0), i.natAbs, 0, true⟩ = some i := by
    simp only [Json.isInteger, Bool.and_eq_true, decide_eq_true_eq] at hi
    rw [Literal.integer?]
    simp only [Bool.not_true, Bool.false_eq_true, if_false, decide_eq_true_eq]
    split_ifs <;> first | omega | (congr 1; omega)
  rw [Literal.toJson?, hinteger]

theorem toJson?_decimal {x : Binary64} {n : Literal} (hplain : n.plain = false)
    (h : Binary64.ofDecimal? n.negative n.significand n.exponent = some x) :
    n.toJson? = some (.float x) := by
  have hinteger : n.integer? = none := by
    rw [Literal.integer?, hplain]
    rfl
  rw [Literal.toJson?, hinteger, h]
  rfl

theorem number?_float {x : Binary64} (hx : x.WellFormed) : ∃ n : Literal,
    (∀ rest, Closed rest → number? (Json.floatLayout.write x ++ rest) = some (n, rest)) ∧
      n.toJson? = some (.float x) ∧ Numeric (Json.floatLayout.write x) := by
  rcases Nat.eq_zero_or_pos x.mantissa with hm | hm
  · have hread : ∀ rest, Closed rest → unsignedNumber? x.negative (['0', '.', '0'] ++ rest)
        = some (⟨x.negative, 0, -1, false⟩, rest) := fun rest hrest =>
      unsignedNumber?_point x.negative (show ['0'] ≠ [] by simp) (show ['0'] ≠ [] by simp) (by simp)
        (by simp) hrest
    obtain ⟨hnumber, hnumeric⟩ := number?_of_body hread
    have hwrite : Json.floatLayout.write x
        = if x.negative then '-' :: ['0', '.', '0'] else ['0', '.', '0'] := by
      rw [Layout.write, if_pos hm]
      rfl
    rw [hwrite]
    refine ⟨_, hnumber, toJson?_decimal rfl ?_, hnumeric⟩
    rw [hx.eq_zero hm]
    rfl
  · have hrounds := hx.shortest_rounds hm
    have hdigits : 0 < x.shortest.1 := by
      by_contra hzero
      have := hrounds.pos hm
      rw [Nat.eq_zero_of_not_pos hzero] at this
      simp at this
    obtain ⟨ds, order, hsignificant, hne, hdigit, hzero, hvalue⟩ :=
      significant_spec hdigits x.shortest.2
    obtain ⟨significand, exponent, hread, hliteral⟩ :=
      unsignedNumber?_layout order hne hdigit hzero Json.floatLayout
    obtain ⟨hnumber, hnumeric⟩ := number?_of_body (hread x.negative)
    rw [write_significant hm.ne' hsignificant]
    refine ⟨_, hnumber, toJson?_decimal rfl ?_, hnumeric⟩
    apply Binary64.ofDecimal?_eq_some hx hm
    rw [hliteral, hvalue]
    exact hrounds

end Document

end Countersign
