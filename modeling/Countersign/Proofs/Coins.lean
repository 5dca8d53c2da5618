import Countersign.Message.Coin
import Countersign.Proofs.NumberText
import Mathlib

/-!
Lists of coins are brought to one form by a stable sort, so two lists have the same form when every
denom has the same amounts in the same order.
-/

namespace Countersign

theorem bind_eq_ok {ε α β : Type} {r : Except ε α} {f : α → Except ε β} {b : β} :
    r >>= f = .ok b ↔ ∃ a, r = .ok a ∧ f a = .ok b := by
  cases r with
  | error e => exact ⟨nofun, fun ⟨_, h, _⟩ => nomatch h⟩
  | ok a => exact ⟨fun h => ⟨a, rfl, h⟩, fun ⟨_, h, hf⟩ => Except.ok.inj h ▸ hf⟩

theorem map_eq_ok {ε α β : Type} {r : Except ε α} {f : α → β} {b : β} :
    r.map f = .ok b ↔ ∃ a, r = .ok a ∧ f a = b := by
  cases r <;> simp [Except.map]

namespace Text

theorem digit?_of_isDigit {c : Char} (hc : c.isDigit = true) :
    digit? c = some (c.toNat - '0'.toNat) := by
  rw [digit?, if_pos]
  have := Char.isDigit_iff_toNat.1 hc
  exact this

theorem mapM_digit? {cs : List Char} (h : ∀ c ∈ cs, c.isDigit = true) :
    cs.mapM digit? = some (cs.map fun c => c.toNat - '0'.toNat) := by
  induction cs with
  | nil => rfl
  | cons c cs ih =>
    rw [List.mapM_cons, digit?_of_isDigit (h c (by simp)), ih fun d hd => h d (by simp [hd])]
    rfl

theorem magnitude?_toDigits (n : ℕ) : magnitude? (Nat.toDigits 10 n) = some n := by
  have hdigit := isDigit_toDigits n
  have hvalue := Nat.ofDigitChars_ten_toDigits (n := n)
  have hne : Nat.toDigits 10 n ≠ [] := Nat.toDigits_ne_nil
  generalize Nat.toDigits 10 n = cs at *
  obtain ⟨c, cs, rfl⟩ := List.exists_cons_of_ne_nil hne
  have hunderscore : ∀ d ∈ c :: cs, d ≠ '_' := by
    rintro d hd rfl
    exact absurd (hdigit '_' hd) (by decide)
  have hfilter : (c :: cs).filter (· != '_') = c :: cs := by
    rw [List.filter_eq_self]
    intro d hd
    simpa using hunderscore d hd
  rw [magnitude?, hfilter, mapM_digit? hdigit, Option.map_some, ofDigits_values, hvalue]
  · simp
  · exact fun _ h => hunderscore c (by simp) (List.cons.inj h).1

theorem toDigits_ne_cons {c : Char} (hc : c.isDigit = false) (n : ℕ) (cs : List Char) :
    Nat.toDigits 10 n ≠ c :: cs := by
  intro h
  have hdigit := isDigit_toDigits n c (by rw [h]; exact List.mem_cons_self)
  rw [hc] at hdigit
  cases hdigit

theorem unsigned?_toDigits (n : ℕ) : unsigned? (Nat.toDigits 10 n) = some n := by
  rw [unsigned?.eq_2 _ (toDigits_ne_cons rfl n), magnitude?_toDigits]

theorem isBlank_of_isDigit {c : Char} (hc : c.isDigit = true) : isBlank c = false := by
  have := Char.isDigit_iff_toNat.1 hc
  have h0 : '0'.toNat = 48 := rfl
  have h9 : '9'.toNat = 57 := rfl
  simp only [isBlank, Bool.or_eq_false_iff, Bool.and_eq_false_iff, decide_eq_false_iff_not,
    beq_eq_false_iff_ne]
  omega

end Text

namespace Coin

def amount? (c : Coin) : Option ℕ :=
  Text.unsigned? (Text.trimmed c.amount.toList)

def amounts (denom : String) (coins : List Coin) : List (Option ℕ) :=
  (coins.filter (·.denom = denom)).map amount?

def Equivalent (as bs : List Coin) : Prop :=
  ∀ denom, amounts denom as = amounts denom bs

/-! ### The stable sort -/

variable {as bs : List Coin}

theorem sorted_place (c : Coin) {coins : List Coin} (h : coins.Pairwise (·.denom ≤ ·.denom)) :
    (place c coins).Pairwise (·.denom ≤ ·.denom) := by
  induction coins with
  | nil => simp [place]
  | cons d rest ih =>
    obtain ⟨hd, hrest⟩ := List.pairwise_cons.1 h
    rw [place]
    split
    · next hlt =>
      refine List.pairwise_cons.2 ⟨fun e he => ?_, ih hrest⟩
      rcases List.mem_cons.1 ((place_perm c rest).mem_iff.1 he) with rfl | he
      · exact hlt.le
      · exact hd e he
    · next hge =>
      have hcd : c.denom ≤ d.denom := not_lt.1 hge
      refine List.pairwise_cons.2 ⟨fun e he => ?_, h⟩
      rcases List.mem_cons.1 he with rfl | he
      · exact hcd
      · exact hcd.trans (hd e he)

theorem sorted_ordered (coins : List Coin) : (ordered coins).Pairwise (·.denom ≤ ·.denom) := by
  induction coins with
  | nil => exact .nil
  | cons c rest ih => exact sorted_place c ih

theorem filter_place (denom : String) (c : Coin) (coins : List Coin) :
    (place c coins).filter (·.denom = denom) = (c :: coins).filter (·.denom = denom) := by
  induction coins with
  | nil => rfl
  | cons d rest ih =>
    rw [place]
    split
    · next hlt =>
      rw [List.filter_cons, ih]
      by_cases hd : d.denom = denom
      · have hc : c.denom ≠ denom := fun hc => by
          rw [hc, hd] at hlt
          exact lt_irrefl _ hlt
        simp [hd, hc]
      · simp [List.filter_cons, hd]
    · rfl

theorem filter_ordered (denom : String) (coins : List Coin) :
    (ordered coins).filter (·.denom = denom) = coins.filter (·.denom = denom) := by
  induction coins with
  | nil => rfl
  | cons c rest ih =>
    change (place c (ordered rest)).filter _ = _
    rw [filter_place, List.filter_cons, List.filter_cons, ih]

theorem head_le_of_filter_eq {a b : Coin} (hbs : (b :: bs).Pairwise (·.denom ≤ ·.denom))
    (h : ∀ denom, (a :: as).filter (·.denom = denom) = (b :: bs).filter (·.denom = denom)) :
    b.denom ≤ a.denom := by
  have ha : a ∈ (b :: bs).filter (·.denom = a.denom) := by
    rw [← h]
    simp
  rcases List.mem_cons.1 (List.mem_filter.1 ha).1 with rfl | ha
  · exact le_rfl
  · exact (List.pairwise_cons.1 hbs).1 a ha

theorem eq_of_filter_eq (has : as.Pairwise (·.denom ≤ ·.denom))
    (hbs : bs.Pairwise (·.denom ≤ ·.denom))
    (h : ∀ denom, as.filter (·.denom = denom) = bs.filter (·.denom = denom)) : as = bs := by
  induction as generalizing bs with
  | nil =>
    cases bs with
    | nil => rfl
    | cons b bs => simpa using h b.denom
  | cons a as ih =>
    cases bs with
    | nil => simpa using h a.denom
    | cons b bs =>
      have hdenom : a.denom = b.denom :=
        le_antisymm (head_le_of_filter_eq has fun denom => (h denom).symm)
          (head_le_of_filter_eq hbs h)
      have hhead := h a.denom
      rw [List.filter_cons_of_pos (by simp), List.filter_cons_of_pos (by simp [hdenom])] at hhead
      obtain rfl := (List.cons.inj hhead).1
      -- the heads are of one denom, and at every denom they are both kept or both left out
      have htail : ∀ denom, as.filter (·.denom = denom) = bs.filter (·.denom = denom) := by
        intro denom
        have hboth := h denom
        rw [List.filter_cons, List.filter_cons] at hboth
        split at hboth
        · exact (List.cons.inj hboth).2
        · exact hboth
      rw [ih (List.pairwise_cons.1 has).2 (List.pairwise_cons.1 hbs).2 htail]

/-! ### Canonical lists -/

def plain (c : Coin) : Coin :=
  { c with amount := String.ofList (Nat.toDigits 10 (c.amount?.getD 0)) }

theorem canonical_eq_ok {c d : Coin} :
    c.canonical = .ok d ↔ c.amount?.isSome ∧ c.plain = d := by
  unfold canonical plain amount?
  cases Text.unsigned? (Text.trimmed c.amount.toList) <;> simp

theorem amount?_plain {c : Coin} (h : c.amount?.isSome) : c.plain.amount? = c.amount? := by
  obtain ⟨n, hn⟩ := Option.isSome_iff_exists.1 h
  rw [hn, plain, amount?, String.toList_ofList, hn, Option.getD_some,
    Text.trimmed_eq_self fun c hc => Text.isBlank_of_isDigit (Text.isDigit_toDigits n c hc),
    Text.unsigned?_toDigits]

theorem mapM_canonical_eq_ok {coins cs : List Coin} :
    coins.mapM canonical = .ok cs ↔ (∀ c ∈ coins, c.amount?.isSome) ∧ coins.map plain = cs := by
  induction coins generalizing cs with
  | nil => simp [pure, Except.pure]
  | cons c rest ih =>
    rw [List.mapM_cons, List.map_cons, List.forall_mem_cons]
    simp only [bind_eq_ok, ih, canonical_eq_ok]
    constructor
    · rintro ⟨_, ⟨hc, rfl⟩, _, ⟨hrest, rfl⟩, hcs⟩
      exact ⟨⟨hc, hrest⟩, Except.ok.inj hcs⟩
    · rintro ⟨⟨hc, hrest⟩, rfl⟩
      exact ⟨_, ⟨hc, rfl⟩, _, ⟨hrest, rfl⟩, rfl⟩

theorem canonicalList_eq_ok {coins cs : List Coin} : canonicalList coins = .ok cs ↔
    (∀ c ∈ coins, c.amount?.isSome) ∧ ordered (coins.map plain) = cs := by
  rw [canonicalList, map_eq_ok]
  simp only [mapM_canonical_eq_ok]
  constructor
  · rintro ⟨_, ⟨hcoins, rfl⟩, hcs⟩
    exact ⟨hcoins, hcs⟩
  · rintro ⟨hcoins, hcs⟩
    exact ⟨_, ⟨hcoins, rfl⟩, hcs⟩

theorem filter_map_plain (denom : String) (coins : List Coin) :
    (coins.map plain).filter (·.denom = denom) = (coins.filter (·.denom = denom)).map plain := by
  rw [List.filter_map]
  rfl

theorem ordered_plain_eq_iff (has : ∀ c ∈ as, c.amount?.isSome) (hbs : ∀ c ∈ bs, c.amount?.isSome) :
    ordered (as.map plain) = ordered (bs.map plain) ↔ Equivalent as bs := by
  constructor
  · intro h denom
    have hread : ∀ coins : List Coin, (∀ c ∈ coins, c.amount?.isSome) →
        ((ordered (coins.map plain)).filter (·.denom = denom)).map amount?
          = amounts denom coins := by
      intro coins hcoins
      rw [filter_ordered, filter_map_plain, List.map_map, amounts]
      refine List.map_congr_left fun c hc => ?_
      exact amount?_plain (hcoins c (List.mem_filter.1 hc).1)
    rw [← hread as has, ← hread bs hbs, h]
  · intro h
    apply eq_of_filter_eq (sorted_ordered _) (sorted_ordered _)
    intro denom
    have hwrite : ∀ coins : List Coin, (ordered (coins.map plain)).filter (·.denom = denom)
        = (amounts denom coins).map
            fun n => ⟨denom, String.ofList (Nat.toDigits 10 (n.getD 0))⟩ := by
      intro coins
      rw [filter_ordered, filter_map_plain, amounts, List.map_map]
      refine List.map_congr_left fun c hc => ?_
      have hdenom : c.denom = denom := by simpa using (List.mem_filter.1 hc).2
      rw [← hdenom]
      rfl
    rw [hwrite as, hwrite bs, h denom]

theorem canonicalList_eq_iff {cs ds : List Coin} (has : canonicalList as = .ok cs)
    (hbs : canonicalList bs = .ok ds) : cs = ds ↔ Equivalent as bs := by
  obtain ⟨hread, rfl⟩ := canonicalList_eq_ok.1 has
  obtain ⟨hread', rfl⟩ := canonicalList_eq_ok.1 hbs
  exact ordered_plain_eq_iff hread hread'

end Coin

end Countersign
