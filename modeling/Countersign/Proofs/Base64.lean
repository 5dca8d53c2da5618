import Countersign.Base64
import Countersign.Text.Blank
import Mathlib

/-! Decoding takes an encoding back to its bytes, so no two byte lists, and no two texts, have the
same encoding. The symbols of an encoding have the bits of the bytes. -/

namespace Countersign.Base64

theorem sextet?_symbol : ∀ n < 64, sextet? (symbol n) = some n := by decide

theorem symbol_ne_padding : ∀ n < 64, symbol n ≠ '=' := by decide

theorem ofNat_toNat_eq {n : Nat} {a : UInt8} (h : n % 256 = a.toNat) : UInt8.ofNat n = a := by
  rw [← UInt8.toNat_inj, UInt8.toNat_ofNat', h]

theorem encode_eq_nil {bytes : List UInt8} : encode bytes = [] ↔ bytes = [] := by
  fun_cases encode bytes <;> simp

theorem decode?_encode (bytes : List UInt8) : decode? (encode bytes) = some bytes := by
  fun_induction encode bytes with
  | case1 => rfl
  | case2 a n =>
    have ha := a.toNat_lt
    have hn : n = a.toNat * 16 := rfl
    rw [decode?, quad?, sextet?_symbol _ (by omega), sextet?_symbol _ (by omega)]
    have hzero : (n / 64 * 64 + n % 64) % 16 = 0 := by omega
    have hbyte : UInt8.ofNat ((n / 64 * 64 + n % 64) / 16) = a := ofNat_toNat_eq (by omega)
    simp [hzero, hbyte]
  | case3 a b n =>
    have ha := a.toNat_lt
    have hb := b.toNat_lt
    have hn : n = (a.toNat * 256 + b.toNat) * 4 := rfl
    rw [decode?, quad?, sextet?_symbol _ (by omega), sextet?_symbol _ (by omega)]
    have hpad := symbol_ne_padding (n % 64) (by omega)
    have hjoin : (n / 4096 * 64 + n / 64 % 64) * 64 + n % 64 = n := by omega
    have hzero : n % 4 = 0 := by omega
    have hfirst : UInt8.ofNat (n / 1024) = a := ofNat_toNat_eq (by omega)
    have hsecond : UInt8.ofNat (n / 4) = b := ofNat_toNat_eq (by omega)
    simp [hpad, sextet?_symbol (n % 64) (by omega), hjoin, hzero, hfirst, hsecond]
  | case4 a b c rest n ih =>
    have ha := a.toNat_lt
    have hb := b.toNat_lt
    have hc := c.toNat_lt
    have hn : n = (a.toNat * 256 + b.toNat) * 256 + c.toNat := rfl
    rw [decode?, quad?, sextet?_symbol _ (by omega), sextet?_symbol _ (by omega)]
    have hpad := symbol_ne_padding (n % 64) (by omega)
    have hjoin : ((n / 262144 * 64 + n / 4096 % 64) * 64 + n / 64 % 64) * 64 + n % 64 = n := by
      omega
    have hfirst : UInt8.ofNat (n / 65536) = a := ofNat_toNat_eq (by omega)
    have hsecond : UInt8.ofNat (n / 256) = b := ofNat_toNat_eq (by omega)
    have hthird : UInt8.ofNat n = c := ofNat_toNat_eq (by omega)
    simp only [Option.bind_eq_bind, Option.bind_some, if_neg hpad,
      sextet?_symbol (n / 64 % 64) (by omega), sextet?_symbol (n % 64) (by omega), hjoin, hfirst,
      hsecond, hthird, ih]
    split
    · next hend => rw [encode_eq_nil.1 (List.isEmpty_iff.1 hend)]
    · rfl

theorem encode_injective : Function.Injective encode := by
  intro as bs h
  have hdecode := decode?_encode as
  rw [h, decode?_encode] at hdecode
  exact (Option.some.inj hdecode).symm

theorem ofBytes_inj {as bs : List UInt8} : ofBytes as = ofBytes bs ↔ as = bs := by
  rw [ofBytes, ofBytes, String.ofList_inj]
  exact encode_injective.eq_iff

theorem decode?_ofBytes (bytes : List UInt8) : decode? (ofBytes bytes).toList = some bytes := by
  rw [ofBytes, String.toList_ofList, decode?_encode]

theorem ofText_eq_ofBytes (s : String) : ofText s = ofBytes s.toUTF8.data.toList := rfl

theorem toText?_eq_some {bytes : List UInt8} {s : String} :
    toText? bytes = some s ↔ s.toUTF8.data.toList = bytes := by
  rw [toText?, String.fromUTF8?]
  constructor
  · intro h
    split at h
    · next hvalid =>
      obtain rfl := Option.some.inj h
      rfl
    · cases h
  · rintro rfl
    have hvalid : ByteArray.IsValidUTF8 ⟨s.toUTF8.data.toList.toArray⟩ := s.isValidUTF8
    rw [dif_pos hvalid]
    rfl

theorem isBlank_symbol (n : ℕ) : Text.isBlank (symbol n) = false := by
  by_cases hn : n < 64
  · revert n
    decide
  · have hlast : symbol n = '/' := by
      unfold symbol
      split_ifs <;> first | omega | rfl
    rw [hlast]
    rfl

theorem isBlank_encode (bytes : List UInt8) : ∀ c ∈ encode bytes, Text.isBlank c = false := by
  have hpadding : Text.isBlank '=' = false := rfl
  fun_induction encode bytes <;> simp_all [isBlank_symbol]

theorem trimmed_ofBytes (bytes : List UInt8) :
    decode? (Text.trimmed (ofBytes bytes).toList) = some bytes := by
  rw [Text.trimmed_eq_self, decode?_ofBytes]
  rw [ofBytes, String.toList_ofList]
  exact isBlank_encode bytes

/-! ### The encoding by its bits -/

def alphabet : List Char :=
  "ABCDEFGHIJKLMNOPQRSTUVWXYZabcdefghijklmnopqrstuvwxyz0123456789+/".toList

def bits : (width : ℕ) → ℕ → List Bool
  | 0, _ => []
  | width + 1, n => bits width (n / 2) ++ [n % 2 == 1]

/-- Standard base64 with padding: the bits of the bytes six by six, the last six filled up with zeros,
each six as their symbol in the alphabet, and `=` up to a multiple of four characters. -/
def Standard (bytes : List UInt8) (cs : List Char) : Prop :=
  ∃ (sextets : List ℕ) (symbols : List Char) (zeros padding : ℕ),
    sextets.map (alphabet[·]?) = symbols.map some ∧
    sextets.flatMap (bits 6) =
      (bytes.flatMap fun b => bits 8 b.toNat) ++ List.replicate zeros false ∧ zeros < 6 ∧
    cs = symbols ++ List.replicate padding '=' ∧ padding < 4 ∧ 4 ∣ cs.length

theorem bits_add (m n k : ℕ) : bits (m + n) k = bits m (k / 2 ^ n) ++ bits n k := by
  induction n generalizing k with
  | zero => simp [bits]
  | succ n ih =>
    rw [← Nat.add_assoc, bits, ih, bits, List.append_assoc, Nat.div_div_eq_div_mul,
      Nat.pow_succ']

theorem bits_mod (n k : ℕ) : bits n (k % 2 ^ n) = bits n k := by
  induction n generalizing k with
  | zero => rfl
  | succ n ih =>
    have hbit : k % 2 ^ (n + 1) % 2 = k % 2 := Nat.mod_mod_of_dvd k (Dvd.intro_left (2 ^ n) rfl)
    rw [bits, bits, hbit, Nat.pow_succ', Nat.mod_mul_right_div_self, ih]

theorem bits_append {m n k x y : ℕ} (hk : k = x * 2 ^ n + y) (hy : y < 2 ^ n) :
    bits m x ++ bits n y = bits (m + n) k := by
  have hhigh : k / 2 ^ n = x := by
    rw [hk, Nat.mul_comm, Nat.mul_add_div (Nat.two_pow_pos n), Nat.div_eq_of_lt hy, Nat.add_zero]
  have hlow : bits n k = bits n y := by
    rw [hk, ← bits_mod, Nat.mul_comm, Nat.mul_add_mod, bits_mod]
  rw [bits_add, hhigh, hlow]

theorem bits_sextets (n : ℕ) :
    bits 6 (n / 4096) ++ (bits 6 (n / 64 % 64) ++ bits 6 (n % 64)) = bits 18 n := by
  rw [bits_append (k := n % 4096) (by omega) (by omega)]
  exact bits_append (n := 12) (by omega) (by omega)

theorem bits_octets {a b : ℕ} (hb : b < 256) : bits 8 a ++ bits 8 b = bits 16 (a * 256 + b) :=
  bits_append (n := 8) rfl hb

theorem symbol_mem : ∀ n < 64, alphabet[n]? = some (symbol n) := by decide

theorem standard_encode (bytes : List UInt8) : Standard bytes (encode bytes) := by
  fun_induction encode bytes with
  | case1 => exact ⟨[], [], 0, 0, rfl, rfl, by decide, rfl, by decide, by decide⟩
  | case2 a n =>
    have ha := a.toNat_lt
    refine ⟨[n / 64, n % 64], [symbol (n / 64), symbol (n % 64)], 4, 2, ?_, ?_, by decide, rfl,
      by decide, by simp⟩
    · simp [symbol_mem _ (show n / 64 < 64 by omega), symbol_mem _ (show n % 64 < 64 by omega)]
    · have hzeros : List.replicate 4 false = bits 4 0 := rfl
      simp only [List.flatMap_cons, List.flatMap_nil, List.append_nil, hzeros]
      exact (bits_append (k := n) (by omega) (by omega)).trans
        (bits_append (n := 4) (by omega) (by omega)).symm
  | case3 a b n =>
    have ha := a.toNat_lt
    have hb := b.toNat_lt
    refine ⟨[n / 4096, n / 64 % 64, n % 64],
      [symbol (n / 4096), symbol (n / 64 % 64), symbol (n % 64)], 2, 1, ?_, ?_, by decide, rfl,
      by decide, by simp⟩
    · simp [symbol_mem _ (show n / 4096 < 64 by omega),
        symbol_mem _ (show n / 64 % 64 < 64 by omega), symbol_mem _ (show n % 64 < 64 by omega)]
    · have hzeros : List.replicate 2 false = bits 2 0 := rfl
      simp only [List.flatMap_cons, List.flatMap_nil, List.append_nil, hzeros, List.append_assoc]
      rw [bits_sextets, ← List.append_assoc, bits_octets hb]
      exact (bits_append (n := 2) (by omega) (by omega)).symm
  | case4 a b c rest n ih =>
    have ha := a.toNat_lt
    have hb := b.toNat_lt
    have hc := c.toNat_lt
    obtain ⟨sextets, symbols, zeros, padding, hsymbols, hbits, hzeros, heq, hpadding, hlength⟩ := ih
    refine ⟨n / 262144 :: n / 4096 % 64 :: n / 64 % 64 :: n % 64 :: sextets,
      symbol (n / 262144) :: symbol (n / 4096 % 64) :: symbol (n / 64 % 64) :: symbol (n % 64) ::
        symbols, zeros, padding, ?_, ?_, hzeros, by rw [heq]; rfl, hpadding, ?_⟩
    · simp [symbol_mem _ (show n / 262144 < 64 by omega),
        symbol_mem _ (show n / 4096 % 64 < 64 by omega),
        symbol_mem _ (show n / 64 % 64 < 64 by omega), symbol_mem _ (show n % 64 < 64 by omega),
        hsymbols]
    · have hquad : bits 6 (n / 262144) ++ (bits 6 (n / 4096 % 64) ++
          (bits 6 (n / 64 % 64) ++ bits 6 (n % 64))) =
          bits 8 a.toNat ++ (bits 8 b.toNat ++ bits 8 c.toNat) := by
        have hlow := bits_sextets (n % 262144)
        rw [show n % 262144 / 4096 = n / 4096 % 64 by omega,
          show n % 262144 / 64 % 64 = n / 64 % 64 by omega,
          show n % 262144 % 64 = n % 64 by omega] at hlow
        rw [hlow, ← List.append_assoc, bits_octets hb]
        exact (bits_append (k := n) (by omega) (by omega)).trans
          (bits_append (n := 8) rfl hc).symm
      simp only [List.flatMap_cons, hbits]
      simp only [← List.append_assoc] at hquad ⊢
      rw [hquad]
    · simpa [Nat.dvd_add_left] using hlength

end Countersign.Base64
