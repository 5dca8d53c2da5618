import Countersign.Json.Reader
import Countersign.Proofs.JsonValue
import Mathlib

/-! A text found inside a text is shorter, in bytes, than the text that holds it: an escape is never
shorter than the character it stands for, and the quotes around the inner text are not part of it. -/

namespace Countersign

open String (utf8Len)

namespace Document

variable {α : Type}

/-! ### What is left is no longer than what was there -/

def Consumes (read : List Char → Option (α × List Char)) : Prop :=
  ∀ cs a rest, read cs = some (a, rest) → utf8Len rest ≤ utf8Len cs

theorem utf8Len_skipSpace (cs : List Char) : utf8Len (skipSpace cs) ≤ utf8Len cs :=
  String.utf8Len_le_of_suffix (List.dropWhile_suffix _)

theorem consumes_digits? : Consumes digits? := by
  intro cs ds rest h
  rw [digits?] at h
  split at h
  · cases h
  · cases h
    exact String.utf8Len_le_of_suffix (List.dropWhile_suffix _)

theorem consumes_fraction? : Consumes fraction? := by
  intro cs ds rest h
  rw [fraction?.eq_def] at h
  split at h
  · have hdigits := consumes_digits? _ _ _ h
    rw [String.utf8Len_cons]
    omega
  · cases h
    exact le_rfl

theorem consumes_power? : Consumes power? := by
  intro cs p rest h
  rw [power?.eq_def] at h
  split at h
  · next c cs =>
    split at h
    · dsimp only at h
      obtain ⟨⟨ds, left⟩, hdigits, heq⟩ := Option.map_eq_some_iff.1 h
      cases heq
      have hleft := consumes_digits? _ _ _ hdigits
      rw [String.utf8Len_cons]
      split at hleft <;> simp only [String.utf8Len_cons] at hleft ⊢ <;> omega
    · cases h
      exact le_rfl
  · cases h
    exact le_rfl

theorem consumes_unsignedNumber? (negative : Bool) : Consumes (unsignedNumber? negative) := by
  intro cs n rest h
  rw [unsignedNumber?] at h
  obtain ⟨⟨whole, left⟩, hwhole, h⟩ := Option.bind_eq_some_iff.1 h
  dsimp only at h
  split at h
  · cases h
  · obtain ⟨⟨fraction, left'⟩, hfraction, h⟩ := Option.bind_eq_some_iff.1 h
    obtain ⟨⟨power, left''⟩, hpower, h⟩ := Option.bind_eq_some_iff.1 h
    cases h
    exact (consumes_power? _ _ _ hpower).trans
      ((consumes_fraction? _ _ _ hfraction).trans (consumes_digits? _ _ _ hwhole))

theorem consumes_number? : Consumes number? := by
  intro cs n rest h
  rw [number?.eq_def] at h
  split at h
  · have hleft := consumes_unsignedNumber? true _ _ _ h
    rw [String.utf8Len_cons]
    omega
  · exact consumes_unsignedNumber? false _ _ _ h

/-! ### Texts -/

def Piece.size : Piece → ℕ
  | .char c => c.utf8Size
  | .unit _ => 6

theorem utf8Size_unescape? {e c : Char} (h : unescape? e = some c) : c.utf8Size = 1 := by
  unfold unescape? at h
  split at h <;> cases h <;> rfl

theorem pieces?_size {cs rest : List Char} {ps : List Piece} (h : pieces? cs = some (ps, rest)) :
    (ps.map Piece.size).sum + 1 + utf8Len rest ≤ utf8Len cs := by
  have hquote : Char.utf8Size '"' = 1 := rfl
  have hslash : Char.utf8Size '\\' = 1 := rfl
  fun_induction pieces? cs generalizing ps with
  | case1 => cases h
  | case2 cs =>
    cases h
    rw [List.map_nil, List.sum_nil, String.utf8Len_cons]
    omega
  | case3 a b c d cs ih =>
    obtain ⟨n, -, h⟩ := Option.bind_eq_some_iff.1 h
    obtain ⟨⟨qs, left⟩, hqs, h⟩ := Option.bind_eq_some_iff.1 h
    cases h
    have hrest := ih hqs
    have hunit : Char.utf8Size 'u' = 1 := rfl
    have ha := a.utf8Size_pos
    have hb := b.utf8Size_pos
    have hc := c.utf8Size_pos
    have hd := d.utf8Size_pos
    simp only [List.map_cons, List.sum_cons, Piece.size, String.utf8Len_cons]
    omega
  | case4 e cs _ ih =>
    obtain ⟨c, hc, h⟩ := Option.bind_eq_some_iff.1 h
    obtain ⟨⟨qs, left⟩, hqs, h⟩ := Option.bind_eq_some_iff.1 h
    cases h
    have hrest := ih hqs
    have hchar := utf8Size_unescape? hc
    simp only [List.map_cons, List.sum_cons, Piece.size, String.utf8Len_cons]
    omega
  | case5 => cases h
  | case6 c cs _ _ _ _ ih =>
    obtain ⟨⟨qs, left⟩, hqs, h⟩ := Option.bind_eq_some_iff.1 h
    cases h
    have hrest := ih hqs
    simp only [List.map_cons, List.sum_cons, Piece.size, String.utf8Len_cons]
    omega

theorem utf8Len_resolve? {ps : List Piece} {cs : List Char} (h : resolve? ps = some cs) :
    utf8Len cs ≤ (ps.map Piece.size).sum := by
  fun_induction resolve? ps generalizing cs with
  | case1 =>
    cases h
    exact le_rfl
  | case2 c ps ih =>
    obtain ⟨ds, hds, rfl⟩ := Option.map_eq_some_iff.1 h
    have hrest := ih hds
    simp only [List.map_cons, List.sum_cons, Piece.size, String.utf8Len_cons]
    omega
  | case3 n _ m ps _ ih =>
    obtain ⟨ds, hds, rfl⟩ := Option.map_eq_some_iff.1 h
    have hrest := ih hds
    have hpair := (Char.ofNat (0x10000 + (n - 0xD800) * 0x400 + (m - 0xDC00))).utf8Size_le_four
    simp only [List.map_cons, List.sum_cons, Piece.size, String.utf8Len_cons]
    omega
  | case4 => cases h
  | case5 => cases h
  | case6 => cases h
  | case7 n ps _ _ ih =>
    obtain ⟨ds, hds, rfl⟩ := Option.map_eq_some_iff.1 h
    have hrest := ih hds
    have hunit := (Char.ofNat n).utf8Size_le_four
    simp only [List.map_cons, List.sum_cons, Piece.size, String.utf8Len_cons]
    omega

theorem text?_size {cs rest : List Char} {t : Option String} (h : text? cs = some (t, rest)) :
    utf8Len rest < utf8Len cs ∧ ∀ s, t = some s → s.utf8ByteSize < utf8Len cs := by
  obtain ⟨⟨ps, left⟩, hpieces, heq⟩ := Option.map_eq_some_iff.1 h
  cases heq
  have hsize := pieces?_size hpieces
  refine ⟨by omega, fun s hs => ?_⟩
  obtain ⟨ds, hds, rfl⟩ := Option.map_eq_some_iff.1 hs
  have hresolved := utf8Len_resolve? hds
  rw [String.utf8ByteSize_ofList]
  omega

/-! ### Values -/

inductive HasText (s : String) : Document → Prop
  | self : HasText s (.text (some s))
  | entry {key : Option String} {entries : List (Option String × Document)}
      (h : (key, .text (some s)) ∈ entries) : HasText s (.object entries)

/-- What a reader leaves over, and the texts that it finds, are no longer than what it was given. -/
def Measured (read : List Char → Option (Document × List Char)) : Prop :=
  ∀ cs d rest, read cs = some (d, rest) →
    utf8Len rest ≤ utf8Len cs ∧ ∀ s, d.HasText s → s.utf8ByteSize < utf8Len cs

section Measured

variable {read : List Char → Option (Document × List Char)} {cs rest : List Char}

theorem Measured.items? (h : Measured read) {n : ℕ} {ds : List Document}
    (hread : items? read n cs = some (ds, rest)) : utf8Len rest ≤ utf8Len cs := by
  induction n generalizing cs ds with
  | zero => cases hread
  | succ n ih =>
    obtain ⟨⟨d, left⟩, hd, hread⟩ := Option.bind_eq_some_iff.1 hread
    have hfirst := (h _ _ _ hd).1
    have hspace := utf8Len_skipSpace cs
    have hspace' := utf8Len_skipSpace left
    dsimp only at hread
    split at hread
    · next more hmore =>
      obtain ⟨⟨ds', left'⟩, hds, heq⟩ := Option.bind_eq_some_iff.1 hread
      cases heq
      have hmany := ih hds
      rw [hmore, String.utf8Len_cons] at hspace'
      omega
    · next more hmore =>
      cases hread
      rw [hmore, String.utf8Len_cons] at hspace'
      omega
    · cases hread

theorem Measured.entry? (h : Measured read) {e : Option String × Document}
    (hread : entry? read cs = some (e, rest)) :
    utf8Len rest ≤ utf8Len cs ∧ ∀ s, e.2 = .text (some s) → s.utf8ByteSize < utf8Len cs := by
  have hspace := utf8Len_skipSpace cs
  rw [Document.entry?] at hread
  split at hread
  · next quoted hquoted =>
    obtain ⟨⟨key, left⟩, hkey, hread⟩ := Option.bind_eq_some_iff.1 hread
    have hname := (text?_size hkey).1
    have hspace' := utf8Len_skipSpace left
    rw [hquoted, String.utf8Len_cons] at hspace
    dsimp only at hread
    split at hread
    · next value hvalue =>
      obtain ⟨⟨d, left'⟩, hd, heq⟩ := Option.bind_eq_some_iff.1 hread
      cases heq
      obtain ⟨hleft, htext⟩ := h _ _ _ hd
      have hspace'' := utf8Len_skipSpace value
      rw [hvalue, String.utf8Len_cons] at hspace'
      refine ⟨show utf8Len left' ≤ utf8Len cs by omega, fun s hs => ?_⟩
      have hs : d = .text (some s) := hs
      have hvalue := htext s (hs ▸ .self)
      omega
    · cases hread
  · cases hread

theorem Measured.entries? (h : Measured read) {n : ℕ} {es : List (Option String × Document)}
    (hread : entries? read n cs = some (es, rest)) : utf8Len rest ≤ utf8Len cs ∧
      ∀ key s, (key, .text (some s)) ∈ es → s.utf8ByteSize < utf8Len cs := by
  induction n generalizing cs es with
  | zero => cases hread
  | succ n ih =>
    obtain ⟨⟨e, left⟩, he, hread⟩ := Option.bind_eq_some_iff.1 hread
    obtain ⟨hfirst, htext⟩ := h.entry? he
    have hspace := utf8Len_skipSpace left
    dsimp only at hread
    split at hread
    · next more hmore =>
      obtain ⟨⟨es', left'⟩, hes, heq⟩ := Option.bind_eq_some_iff.1 hread
      cases heq
      obtain ⟨hmany, htexts⟩ := ih hes
      rw [hmore, String.utf8Len_cons] at hspace
      refine ⟨by omega, fun key s hmem => ?_⟩
      rcases List.mem_cons.1 hmem with rfl | hmem
      · exact htext s rfl
      · have hs := htexts key s hmem
        omega
    · next more hmore =>
      cases hread
      rw [hmore, String.utf8Len_cons] at hspace
      refine ⟨by omega, fun key s hmem => ?_⟩
      obtain rfl := List.mem_singleton.1 hmem
      exact htext s rfl
    · cases hread

end Measured

theorem measured_value? (depth : ℕ) : Measured (value? depth) := by
  induction depth with
  | zero =>
    intro cs d rest h
    rw [value?] at h
    cases h
  | succ depth ih =>
    intro cs d rest h
    rw [value?.eq_def] at h
    split at h
    · cases h
    -- the three names hold no text
    · cases h
      exact ⟨by simp only [String.utf8Len_cons]; omega, nofun⟩
    · cases h
      exact ⟨by simp only [String.utf8Len_cons]; omega, nofun⟩
    · cases h
      exact ⟨by simp only [String.utf8Len_cons]; omega, nofun⟩
    · obtain ⟨⟨t, left⟩, ht, heq⟩ := Option.map_eq_some_iff.1 h
      cases heq
      obtain ⟨hleft, htext⟩ := text?_size ht
      rw [String.utf8Len_cons]
      refine ⟨by omega, fun s hs => ?_⟩
      cases hs
      have hs := htext s rfl
      omega
    · next inner cs hdepth =>
      obtain rfl := Nat.succ.inj hdepth
      have hspace := utf8Len_skipSpace cs
      rw [String.utf8Len_cons]
      split at h
      · next hclosed =>
        cases h
        rw [hclosed, String.utf8Len_cons] at hspace
        exact ⟨by omega, nofun⟩
      · obtain ⟨⟨ds, left⟩, hds, heq⟩ := Option.map_eq_some_iff.1 h
        cases heq
        have hitems := ih.items? hds
        exact ⟨by omega, nofun⟩
    · next inner cs hdepth =>
      obtain rfl := Nat.succ.inj hdepth
      have hspace := utf8Len_skipSpace cs
      rw [String.utf8Len_cons]
      split at h
      · next hclosed =>
        cases h
        rw [hclosed, String.utf8Len_cons] at hspace
        refine ⟨by omega, fun s hs => ?_⟩
        cases hs with
        | entry hmem => cases hmem
      · obtain ⟨⟨es, left⟩, hes, heq⟩ := Option.map_eq_some_iff.1 h
        cases heq
        obtain ⟨hentries, htexts⟩ := ih.entries? hes
        refine ⟨by omega, fun s hs => ?_⟩
        cases hs with
        | @entry key _ hmem =>
          have hs := htexts key s hmem
          omega
    · obtain ⟨⟨n, left⟩, hn, heq⟩ := Option.map_eq_some_iff.1 h
      cases heq
      exact ⟨consumes_number? _ _ _ hn, nofun⟩

theorem HasText.shorter {cs : List Char} {d : Document} {s : String} (h : d.HasText s)
    (hread : ofChars? cs = some d) : s.utf8ByteSize < utf8Len cs := by
  obtain ⟨⟨v, rest⟩, hv, hread⟩ := Option.bind_eq_some_iff.1 hread
  dsimp only at hread
  split at hread
  · cases hread
    exact ((measured_value? _ _ _ _ hv).2 s h).trans_le (utf8Len_skipSpace cs)
  · cases hread

end Document

namespace Json

inductive HasText (s : String) : Json → Prop
  | self : HasText s (.text s)
  | entry {key : String} {entries : List (String × Json)} (h : (key, .text s) ∈ entries) :
      HasText s (.object entries)

theorem not_hasText_number {n : Literal} {v : Json} (h : n.toJson? = some v) (s : String) :
    ¬v.HasText s := by
  intro hs
  rw [Literal.toJson?] at h
  split at h
  · cases h
    cases hs
  · obtain ⟨x, -, rfl⟩ := Option.map_eq_some_iff.1 h
    cases hs

theorem toJson?_eq_text {depth : ℕ} {d : Document} {s : String}
    (h : d.toJson? depth = some (.text s)) : d = .text (some s) := by
  cases d with
  | null => simp [Document.toJson?] at h
  | bool b => simp [Document.toJson?] at h
  | number n =>
    rw [Document.toJson?] at h
    exact absurd .self (not_hasText_number h s)
  | text t =>
    rw [Document.toJson?] at h
    obtain ⟨u, rfl, heq⟩ := Option.map_eq_some_iff.1 h
    cases heq
    rfl
  | list items =>
    obtain ⟨_, _, -, -, heq⟩ := Document.toJson?_list.1 h
    cases heq
  | object entries =>
    obtain ⟨_, _, -, -, heq⟩ := Document.toJson?_object.1 h
    cases heq

theorem HasText.document {depth : ℕ} {d : Document} {v : Json} {s : String} (h : v.HasText s)
    (hvalue : d.toJson? depth = some v) : d.HasText s := by
  cases d with
  | null =>
    rw [Document.toJson?] at hvalue
    cases hvalue
    cases h
  | bool b =>
    rw [Document.toJson?] at hvalue
    cases hvalue
    cases h
  | number n =>
    rw [Document.toJson?] at hvalue
    exact absurd h (not_hasText_number hvalue s)
  | text t =>
    rw [Document.toJson?] at hvalue
    obtain ⟨u, rfl, rfl⟩ := Option.map_eq_some_iff.1 hvalue
    cases h
    exact .self
  | list items =>
    obtain ⟨_, _, -, -, rfl⟩ := Document.toJson?_list.1 hvalue
    cases h
  | object entries =>
    obtain ⟨inner, es, -, hes, rfl⟩ := Document.toJson?_object.1 hvalue
    cases h with
    | @entry key _ hmem =>
      obtain ⟨⟨name, d⟩, hd, -, hvalue⟩ := exists_left_of_mem hes (Entries.mem_ofList hmem)
      obtain rfl : d = .text (some s) := toJson?_eq_text hvalue
      exact .entry hd

theorem HasText.shorter {raw s : String} {v : Json} (h : v.HasText s)
    (hread : parse? raw = some v) : s.utf8ByteSize < raw.utf8ByteSize := by
  obtain ⟨d, hd, hvalue⟩ := Option.bind_eq_some_iff.1 hread
  rw [← String.utf8Len_toList raw]
  exact (h.document hvalue).shorter hd

end Json
end Countersign
