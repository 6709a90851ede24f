import Mathlib.Tactic.NormNum
import SchemaEditor.Text.Utf8

/-!
# Reading UTF-8 loses nothing

The octets of a text that was read without a malformed piece are the octets it is written
as (`encode_of_decode?`), and texts of characters are told apart by their octets
(`encode_inj`).

The machine that reads octets knows of a character what its first octets settle:
`Partial.Fits` holds of the numbers that are still possible.  The octets after the first
are the last digits of the number to the base 64 (`tail`).  The first octet settles how
many there are (`first_cases`), and each further one leaves one digit fewer open
(`Partial.Fits.before`), so a character that is read is one whose octets were there
(`pieces_partial`).
-/

namespace SchemaEditor.Text.Utf8

/-- The last `k` octets of the character with number `n`. -/
def tail (n : Nat) : Nat → List UInt8
  | 0 => []
  | k + 1 => UInt8.ofNat (n / 64 ^ k % 64 + 0x80) :: tail n k

/-- The number is one of a character that starts with what has been read. -/
structure Partial.Fits (p : Partial) (n : Nat) : Prop where
  value : n / 64 ^ (p.further + 1) = p.value
  low : p.low ≤ n / 64 ^ p.further % 64 + 0x80
  high : n / 64 ^ p.further % 64 + 0x80 ≤ p.high

theorem ofNat_eq {n : Nat} {b : UInt8} (h : n = b.toNat) : UInt8.ofNat n = b := by
  rw [h, UInt8.ofNat_toNat]

/-! ## First octets -/

/-- The octets after the first are digits to the base 64. -/
theorem encodePoint_ofNat {n : Nat} (hn : n.isValidChar) :
    encodePoint (.char (Char.ofNat n)) =
      if n ≤ 0x7F then [UInt8.ofNat n]
      else if n ≤ 0x7FF then UInt8.ofNat (n / 64 ^ 1 % 0x20 + 0xC0) :: tail n 1
      else if n ≤ 0xFFFF then UInt8.ofNat (n / 64 ^ 2 % 0x10 + 0xE0) :: tail n 2
      else UInt8.ofNat (n / 64 ^ 3 % 0x08 + 0xF0) :: tail n 3 := by
  have hval : (Char.ofNat n).val.toNat = n := by
    unfold Char.ofNat
    rw [dif_pos hn]
    rfl
  simp only [encodePoint, String.utf8EncodeChar, hval, tail]
  norm_num

theorem encodePoint_of_two {n : Nat} {b : UInt8} (hv : n / 64 ^ 1 = b.toNat - 0xC0)
    (hb : 0xC2 ≤ b.toNat) (hb' : b.toNat < 0xE0) :
    encodePoint (.char (Char.ofNat n)) = b :: tail n 1 := by
  rw [encodePoint_ofNat (Or.inl (by omega)), if_neg (by omega), if_pos (by omega),
    ofNat_eq (b := b) (by omega)]

theorem encodePoint_of_three {n : Nat} {b : UInt8} (hv : n / 64 ^ 2 = b.toNat - 0xE0)
    (hb : 0xE0 ≤ b.toNat) (hb' : b.toNat < 0xF0) (hn : n.isValidChar) (hlow : 0x7FF < n) :
    encodePoint (.char (Char.ofNat n)) = b :: tail n 2 := by
  rw [encodePoint_ofNat hn, if_neg (by omega), if_neg (by omega), if_pos (by omega),
    ofNat_eq (b := b) (by omega)]

theorem encodePoint_of_four {n : Nat} {b : UInt8} (hv : n / 64 ^ 3 = b.toNat - 0xF0)
    (hb : 0xF0 ≤ b.toNat) (hlow : 0xFFFF < n) (hhigh : n < 0x110000) :
    encodePoint (.char (Char.ofNat n)) = b :: tail n 3 := by
  rw [encodePoint_ofNat (Or.inr (by omega)), if_neg (by omega), if_neg (by omega),
    if_neg (by omega), ofNat_eq (b := b) (by omega)]

/-- A first octet is a character, the first of several octets, or malformed. -/
theorem first_cases (b : UInt8) :
    (first b.toNat = ([some (.char (Char.ofNat b.toNat))], none) ∧
        encodePoint (.char (Char.ofNat b.toNat)) = [b]) ∨
      (∃ p, first b.toNat = ([], some p) ∧ 0x80 ≤ p.low ∧ p.high ≤ 0xBF ∧
        ∀ n, p.Fits n → encodePoint (.char (Char.ofNat n)) = b :: tail n (p.further + 1)) ∨
      first b.toNat = ([none], none) := by
  have hb := b.toNat_lt
  generalize hread : first b.toNat = read
  unfold first at hread
  split_ifs at hread with h1 h2 h3 h4 h5 h6 h7 h8
  all_goals subst hread
  · refine Or.inl ⟨rfl, ?_⟩
    rw [encodePoint_ofNat (Or.inl (by omega)), if_pos (by omega), UInt8.ofNat_toNat]
  · refine Or.inr (Or.inl ⟨_, rfl, by simp, by simp, fun n ⟨hv, hl, hh⟩ => ?_⟩)
    exact encodePoint_of_two hv h2.1 h2.2
  · refine Or.inr (Or.inl ⟨_, rfl, by simp, by simp, fun n ⟨hv, hl, hh⟩ => ?_⟩)
    dsimp only at hv hl hh
    exact encodePoint_of_three (by omega) (by omega) (by omega) (Or.inl (by omega)) (by omega)
  · refine Or.inr (Or.inl ⟨_, rfl, by simp, by simp, fun n ⟨hv, hl, hh⟩ => ?_⟩)
    dsimp only at hv hl hh
    exact encodePoint_of_three (by omega) (by omega) (by omega) (Or.inl (by omega)) (by omega)
  · refine Or.inr (Or.inl ⟨_, rfl, by simp, by simp, fun n ⟨hv, hl, hh⟩ => ?_⟩)
    dsimp only at hv hl hh
    have hn : n < 0xD800 ∨ 0xDFFF < n ∧ n < 0x110000 := by omega
    exact encodePoint_of_three (by omega) (by omega) (by omega) hn (by omega)
  · refine Or.inr (Or.inl ⟨_, rfl, by simp, by simp, fun n ⟨hv, hl, hh⟩ => ?_⟩)
    dsimp only at hv hl hh
    exact encodePoint_of_four (by omega) (by omega) (by omega) (by omega)
  · refine Or.inr (Or.inl ⟨_, rfl, by simp, by simp, fun n ⟨hv, hl, hh⟩ => ?_⟩)
    dsimp only at hv hl hh
    exact encodePoint_of_four (by omega) (by omega) (by omega) (by omega)
  · refine Or.inr (Or.inl ⟨_, rfl, by simp, by simp, fun n ⟨hv, hl, hh⟩ => ?_⟩)
    dsimp only at hv hl hh
    exact encodePoint_of_four (by omega) (by omega) (by omega) (by omega)
  · exact Or.inr (Or.inr rfl)

/-! ## The octets after the first -/

/-- What fits after one more octet fitted before it, and the octet was its digit. -/
theorem fits_of_digit {value further low high b n : Nat} (hb : low ≤ b ∧ b ≤ high)
    (hlow : 0x80 ≤ low) (hhigh : high ≤ 0xBF)
    (h : n / 64 ^ further = value * 64 + (b - 0x80)) :
    (⟨value, further, low, high⟩ : Partial).Fits n ∧ n / 64 ^ further % 64 + 0x80 = b := by
  have hdigit : n / 64 ^ further % 64 + 0x80 = b := by omega
  have hvalue : n / 64 ^ (further + 1) = value := by
    rw [pow_succ, ← Nat.div_div_eq_div_mul, h]
    omega
  exact ⟨⟨hvalue, hb.1.trans_eq hdigit.symm, hdigit.trans_le hb.2⟩, hdigit⟩

theorem tail_of_digit {n k : Nat} {b : UInt8} (h : n / 64 ^ k % 64 + 0x80 = b.toNat) :
    tail n (k + 1) = b :: tail n k := by
  rw [tail, ofNat_eq h]

section Steps
variable {value low high : Nat} {b : UInt8}

theorem pieces_step (state : Option Partial) (b : UInt8) (octets : List UInt8) :
    pieces state (b :: octets) =
      (step state b.toNat).1 ++ pieces (step state b.toNat).2 octets := by
  cases state <;> rfl

/-- The last octet of a character. -/
theorem step_last (hb : low ≤ b.toNat ∧ b.toNat ≤ high) :
    step (some ⟨value, 0, low, high⟩) b.toNat =
      ([some (.char (Char.ofNat (value * 64 + (b.toNat - 0x80))))], none) :=
  if_pos hb

/-- An octet inside a character. -/
theorem step_inside (k : Nat) (hb : low ≤ b.toNat ∧ b.toNat ≤ high) :
    step (some ⟨value, k + 1, low, high⟩) b.toNat =
      ([], some ⟨value * 64 + (b.toNat - 0x80), k, 0x80, 0xBF⟩) :=
  if_pos hb

/-- An octet that does not go on with the character makes a malformed piece. -/
theorem none_mem_of_outside {p : Partial} (hb : ¬ (p.low ≤ b.toNat ∧ b.toNat ≤ p.high))
    (octets : List UInt8) : none ∈ pieces (some p) (b :: octets) := by
  have hstep : step (some p) b.toNat = (none :: (first b.toNat).1, (first b.toNat).2) := if_neg hb
  rw [pieces_step, hstep]
  exact List.mem_cons_self ..

end Steps

/-- A character of which a part has been read is read to its end, if no piece is
malformed. -/
theorem pieces_partial {p : Partial} (hlow : 0x80 ≤ p.low) (hhigh : p.high ≤ 0xBF)
    {octets : List UInt8} (h : none ∉ pieces (some p) octets) :
    ∃ n rest, p.Fits n ∧ octets = tail n (p.further + 1) ++ rest ∧
      pieces (some p) octets = some (.char (Char.ofNat n)) :: pieces none rest := by
  obtain ⟨value, further, low, high⟩ := p
  induction further generalizing value low high octets with
  | zero =>
    cases octets with
    | nil => exact absurd (List.mem_singleton_self none) h
    | cons b rest =>
      by_cases hb : low ≤ b.toNat ∧ b.toNat ≤ high
      · have hvalue : (value * 64 + (b.toNat - 0x80)) / 64 ^ 0 = value * 64 + (b.toNat - 0x80) :=
          Nat.div_one _
        obtain ⟨hfits, hdigit⟩ := fits_of_digit hb hlow hhigh hvalue
        refine ⟨_, rest, hfits, ?_, ?_⟩
        · rw [tail_of_digit hdigit]
          rfl
        · rw [pieces_step, step_last hb]
          rfl
      · exact absurd (none_mem_of_outside hb rest) h
  | succ k ih =>
    cases octets with
    | nil => exact absurd (List.mem_singleton_self none) h
    | cons b octets =>
      by_cases hb : low ≤ b.toNat ∧ b.toNat ≤ high
      · rw [pieces_step, step_inside k hb, List.nil_append] at h ⊢
        obtain ⟨n, rest, hnext, rfl, hread⟩ := ih _ _ _ (Nat.le_refl _) (Nat.le_refl _) h
        obtain ⟨hfits, hdigit⟩ := fits_of_digit hb hlow hhigh hnext.value
        refine ⟨n, rest, hfits, ?_, hread⟩
        rw [tail_of_digit (k := k + 1) hdigit]
        rfl
      · exact absurd (none_mem_of_outside hb octets) h

/-! ## Texts -/

/-- The first character that is read is written as the octets in front. -/
theorem pieces_cons {b : UInt8} {octets : List UInt8} (h : none ∉ pieces none (b :: octets)) :
    ∃ c rest, b :: octets = encodePoint (.char c) ++ rest ∧
      pieces none (b :: octets) = some (.char c) :: pieces none rest := by
  rcases first_cases b with ⟨hfirst, henc⟩ | ⟨p, hfirst, hlow, hhigh, henc⟩ | hfirst
  · exact ⟨_, octets, by rw [henc]; rfl, by rw [pieces_step, step, hfirst]; rfl⟩
  · rw [pieces_step, step, hfirst, List.nil_append] at h ⊢
    obtain ⟨n, rest, hfits, rfl, hread⟩ := pieces_partial hlow hhigh h
    exact ⟨Char.ofNat n, rest, by rw [henc n hfits]; rfl, hread⟩
  · rw [pieces_step, step, hfirst] at h
    exact absurd (List.mem_cons_self ..) h

/-- **Octets that are read without a malformed piece are written as they were.** -/
theorem encode_of_pieces {octets : List UInt8} {t : Text} (h : pieces none octets = t.map some) :
    encode t = octets ∧ isWhole t = true := by
  have hgood : none ∉ pieces none octets := by simp [h]
  induction t generalizing octets with
  | nil =>
    cases octets with
    | nil => exact ⟨rfl, rfl⟩
    | cons b octets =>
      obtain ⟨c, rest, -, hread⟩ := pieces_cons hgood
      simp [hread] at h
  | cons c t ih =>
    cases octets with
    | nil => simp [pieces] at h
    | cons b octets =>
      obtain ⟨c', rest, hoctets, hread⟩ := pieces_cons hgood
      rw [hread, List.map_cons, List.cons.injEq, Option.some.injEq] at h
      obtain ⟨rfl, hrest⟩ := h
      obtain ⟨henc, hwhole⟩ := ih hrest (by simp [hrest])
      rw [hoctets, ← henc]
      exact ⟨rfl, by rw [isWhole, List.all_cons]; exact hwhole⟩

theorem eq_map_of_mapM {l : Pieces} {t : Text} (h : l.mapM id = some t) : l = t.map some := by
  induction l generalizing t with
  | nil => cases h; rfl
  | cons piece l ih =>
    rw [List.mapM_cons, id, Option.bind_eq_bind, Option.bind_eq_some_iff] at h
    obtain ⟨c, rfl, h⟩ := h
    rw [Option.bind_eq_bind, Option.bind_eq_some_iff] at h
    obtain ⟨rest, hrest, h⟩ := h
    rw [← Option.some.inj h, List.map_cons, ih hrest]

theorem encode_of_decode? {octets : List UInt8} {t : Text} (h : decode? octets = some t) :
    encode t = octets ∧ isWhole t = true :=
  encode_of_pieces (eq_map_of_mapM h)

/-- A text of characters. -/
theorem exists_of_isWhole {t : Text} (h : isWhole t = true) :
    ∃ cs : List Char, t = cs.map .char := by
  induction t with
  | nil => exact ⟨[], rfl⟩
  | cons c t ih =>
    rw [isWhole, List.all_cons, Bool.and_eq_true] at h
    obtain ⟨cs, rfl⟩ := ih h.2
    cases c with
    | char c => exact ⟨c :: cs, rfl⟩
    | half n => cases h.1

theorem encode_map_char (cs : List Char) : (encode (cs.map .char)).toByteArray = cs.utf8Encode := by
  rw [encode, List.flatMap_map]
  rfl

/-- **Texts of characters are told apart by their octets.** -/
theorem encode_inj {s t : Text} (hs : isWhole s = true) (ht : isWhole t = true) :
    encode s = encode t ↔ s = t := by
  refine ⟨fun h => ?_, fun h => h ▸ rfl⟩
  obtain ⟨cs, rfl⟩ := exists_of_isWhole hs
  obtain ⟨ds, rfl⟩ := exists_of_isWhole ht
  have hread : cs.utf8Encode.utf8Decode? = ds.utf8Encode.utf8Decode? := by
    rw [← encode_map_char, ← encode_map_char, h]
  rw [List.utf8Decode?_utf8Encode, List.utf8Decode?_utf8Encode] at hread
  rw [List.toArray_inj (Option.some.inj hread)]

/-! ## Decoding with replacements -/

end SchemaEditor.Text.Utf8
