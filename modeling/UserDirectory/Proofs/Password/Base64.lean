import UserDirectory.Password.Base64

/-!
# UserDirectory — Base64 texts are read back

## Results

* `decode_encode`        — the text for some bytes stands for these bytes.
* `eq_encode_of_decode`  — no other text stands for them.
* `encode_of_groups`     — the text for whole groups of three bytes has no padding.
-/

namespace UserDirectory.Password.Base64

/-- Characters of the alphabet stand for their numbers, and none of them is the padding. -/
theorem value?_symbol_all : ∀ n < 64, value? (symbol n) = some n ∧ symbol n ≠ '=' := by
  decide +kernel

theorem value?_symbol {n : Nat} (h : n < 64) : value? (symbol n) = some n :=
  (value?_symbol_all n h).1

theorem symbol_ne_padding {n : Nat} (h : n < 64) : symbol n ≠ '=' := (value?_symbol_all n h).2

/-- Four characters that are no padding stand for three bytes, whatever follows. -/
theorem decode_cons {w x y z : Nat} (hw : w < 64) (hx : x < 64) (hy : y < 64) (hz : z < 64)
    (rest : List Char) :
    decode (symbol w :: symbol x :: symbol y :: symbol z :: rest) =
      (decode rest).map fun bytes =>
        let n := ((w * 64 + x) * 64 + y) * 64 + z
        UInt8.ofNat (n / 65536) :: UInt8.ofNat (n / 256 % 256) :: UInt8.ofNat (n % 256) ::
          bytes := by
  rw [decode, value?_symbol hw, value?_symbol hx, value?_symbol hy, value?_symbol hz]
  · cases decode rest <;> rfl
  · intro h
    exact absurd h (symbol_ne_padding hy)
  · intro h
    exact absurd h (symbol_ne_padding hz)

theorem ofNat_eq_of_eq {n : Nat} {b : UInt8} (h : n = b.toNat) : UInt8.ofNat n = b := by
  rw [h, UInt8.ofNat_toNat]

theorem decode_encode (bytes : List UInt8) : decode (encode bytes) = some bytes := by
  fun_induction encode bytes with
  | case1 => rfl
  | case2 a n =>
    have ha := a.toNat_lt
    have hn : n = a.toNat := rfl
    rw [decode, value?_symbol (by omega), value?_symbol (by omega)]
    simp only [Nat.mul_mod_left, if_true, Option.some.injEq, List.cons.injEq, and_true]
    exact ofNat_eq_of_eq (by omega)
  | case3 a b n =>
    have ha := a.toNat_lt
    have hb := b.toNat_lt
    have hn : n = a.toNat * 256 + b.toNat := rfl
    rw [decode, value?_symbol (by omega), value?_symbol (by omega), value?_symbol (by omega)]
    · simp only [Nat.mul_mod_left, if_true, Option.some.injEq, List.cons.injEq, and_true]
      exact ⟨ofNat_eq_of_eq (by omega), ofNat_eq_of_eq (by omega)⟩
    · exact symbol_ne_padding (by omega)
  | case4 a b c rest n ih =>
    have ha := a.toNat_lt
    have hb := b.toNat_lt
    have hc := c.toNat_lt
    have hn : n = (a.toNat * 256 + b.toNat) * 256 + c.toNat := rfl
    rw [decode_cons (by omega) (by omega) (by omega) (by omega), ih]
    have hjoin : ((n / 262144 * 64 + n / 4096 % 64) * 64 + n / 64 % 64) * 64 + n % 64 = n := by
      omega
    simp only [hjoin, Option.map_some, Option.some.injEq, List.cons.injEq, and_true]
    exact ⟨ofNat_eq_of_eq (by omega), ofNat_eq_of_eq (by omega), ofNat_eq_of_eq (by omega)⟩

-- ---------------------------------------------------------------------------
-- One text for each sequence of bytes
-- ---------------------------------------------------------------------------

/-- A character that stands for a number is the character for that number. -/
theorem symbol_of_value? {c : Char} {n : Nat} (h : value? c = some n) : n < 64 ∧ symbol n = c := by
  have hle : ∀ a b : Char, a ≤ b ↔ a.toNat ≤ b.toNat := fun _ _ => Iff.rfl
  have hcode := c.ofNat_toNat
  have hA : 'A'.toNat = 65 := rfl
  have hZ : 'Z'.toNat = 90 := rfl
  have ha : 'a'.toNat = 97 := rfl
  have hz : 'z'.toNat = 122 := rfl
  have h0 : '0'.toNat = 48 := rfl
  have h9 : '9'.toNat = 57 := rfl
  -- the ranges of the alphabet as bounds on the code, one case for each of them
  simp only [value?, hle, hA, hZ, ha, hz, h0, h9] at h
  split at h
  · next hupper =>
    obtain rfl := Option.some.inj h
    have hlt : c.toNat - 65 < 26 := by omega
    refine ⟨by omega, ?_⟩
    rw [symbol, if_pos hlt, Nat.sub_add_cancel hupper.1, hcode]
  split at h
  · next hlower =>
    obtain rfl := Option.some.inj h
    have hge : ¬ c.toNat - 97 + 26 < 26 := by omega
    have hlt : c.toNat - 97 + 26 < 52 := by omega
    refine ⟨by omega, ?_⟩
    rw [symbol, if_neg hge, if_pos hlt, Nat.add_sub_cancel, Nat.sub_add_cancel hlower.1, hcode]
  split at h
  · next hdigit =>
    obtain rfl := Option.some.inj h
    have hge : ¬ c.toNat - 48 + 52 < 26 := by omega
    have hge' : ¬ c.toNat - 48 + 52 < 52 := by omega
    have hlt : c.toNat - 48 + 52 < 62 := by omega
    refine ⟨by omega, ?_⟩
    rw [symbol, if_neg hge, if_neg hge', if_pos hlt, Nat.add_sub_cancel,
      Nat.sub_add_cancel hdigit.1, hcode]
  split at h
  · next hplus =>
    obtain rfl := Option.some.inj h
    exact ⟨by decide, hplus.symm⟩
  split at h
  · next hslash =>
    obtain rfl := Option.some.inj h
    exact ⟨by decide, hslash.symm⟩
  · cases h

/-- Only the text that is made for some bytes stands for them: whatever else is left over at the end
of a text, or in place of a character, is not read. -/
theorem eq_encode_of_decode {text : List Char} {bytes : List UInt8} (h : decode text = some bytes) :
    text = encode bytes := by
  -- three of the cases give bytes: two characters and padding, three and padding, and a full group.
  -- In each, the test on what is left over makes the numbers of the characters those that the bytes
  -- encode to
  fun_induction decode text generalizing bytes with
  | case1 =>
    obtain rfl := Option.some.inj h
    rfl
  | case2 w x wn xn hx hw hpad =>
    obtain rfl := Option.some.inj h
    obtain ⟨hwlt, rfl⟩ := symbol_of_value? hw
    obtain ⟨hxlt, rfl⟩ := symbol_of_value? hx
    have hn : (UInt8.ofNat (wn * 4 + xn / 16)).toNat = wn * 4 + xn / 16 :=
      UInt8.toNat_ofNat_of_lt' (by simp only [UInt8.size]; omega)
    have h1 : (wn * 4 + xn / 16) / 4 = wn := by omega
    have h2 : (wn * 4 + xn / 16) % 4 * 16 = xn := by omega
    simp only [encode, hn, h1, h2]
  | case5 w x y hy wn xn yn hy' hx hw n =>
    rename_i hpad
    obtain rfl := Option.some.inj h
    obtain ⟨hwlt, rfl⟩ := symbol_of_value? hw
    obtain ⟨hxlt, rfl⟩ := symbol_of_value? hx
    obtain ⟨hylt, rfl⟩ := symbol_of_value? hy'
    have hn : n = (wn * 64 + xn) * 64 + yn := rfl
    have hfirst : (UInt8.ofNat (n / 1024)).toNat = n / 1024 :=
      UInt8.toNat_ofNat_of_lt' (by simp only [UInt8.size]; omega)
    have hsecond : (UInt8.ofNat (n / 4 % 256)).toNat = n / 4 % 256 :=
      UInt8.toNat_ofNat_of_lt' (by simp only [UInt8.size]; omega)
    have h1 : (n / 1024 * 256 + n / 4 % 256) / 1024 = wn := by omega
    have h2 : (n / 1024 * 256 + n / 4 % 256) / 16 % 64 = xn := by omega
    have h3 : (n / 1024 * 256 + n / 4 % 256) % 16 * 4 = yn := by omega
    simp only [encode, hfirst, hsecond, h1, h2, h3]
  | case8 w x y z rest hy' hz' wn xn yn zn bytes' hrest hz hy hx hw n =>
    rename_i ih
    obtain rfl := Option.some.inj h
    obtain ⟨hwlt, rfl⟩ := symbol_of_value? hw
    obtain ⟨hxlt, rfl⟩ := symbol_of_value? hx
    obtain ⟨hylt, rfl⟩ := symbol_of_value? hy
    obtain ⟨hzlt, rfl⟩ := symbol_of_value? hz
    have hn : n = ((wn * 64 + xn) * 64 + yn) * 64 + zn := rfl
    have hfirst : (UInt8.ofNat (n / 65536)).toNat = n / 65536 :=
      UInt8.toNat_ofNat_of_lt' (by simp only [UInt8.size]; omega)
    have hsecond : (UInt8.ofNat (n / 256 % 256)).toNat = n / 256 % 256 :=
      UInt8.toNat_ofNat_of_lt' (by simp only [UInt8.size]; omega)
    have hthird : (UInt8.ofNat (n % 256)).toNat = n % 256 :=
      UInt8.toNat_ofNat_of_lt' (by simp only [UInt8.size]; omega)
    have hjoin : (n / 65536 * 256 + n / 256 % 256) * 256 + n % 256 = n := by omega
    have h1 : n / 262144 = wn := by omega
    have h2 : n / 4096 % 64 = xn := by omega
    have h3 : n / 64 % 64 = yn := by omega
    have h4 : n % 64 = zn := by omega
    simp only [encode, hfirst, hsecond, hthird, hjoin, h1, h2, h3, h4, ← ih hrest]
  | case3 | case4 | case6 | case7 | case9 | case10 => contradiction

theorem encode_injective {bytes bytes' : List UInt8} (h : encode bytes = encode bytes') :
    bytes = bytes' := by
  rw [← Option.some.injEq, ← decode_encode bytes, h, decode_encode]

/-- Bytes in groups of three take four characters each, and no padding. -/
theorem encode_of_groups {bytes : List UInt8} (h : bytes.length % 3 = 0) :
    3 * (encode bytes).length = 4 * bytes.length ∧ ∀ c ∈ encode bytes, ∃ n < 64, c = symbol n := by
  -- the two cases with padding have one or two bytes over, which the length excludes
  fun_induction encode bytes with
  | case1 =>
    exact ⟨rfl, fun c hc => absurd hc List.not_mem_nil⟩
  | case2 a n =>
    simp at h
  | case3 a b n =>
    simp at h
  | case4 a b c rest n ih =>
    simp only [List.length_cons] at h
    obtain ⟨hlen, hsymbols⟩ := ih (by omega)
    have ha := a.toNat_lt
    have hb := b.toNat_lt
    have hc := c.toNat_lt
    have hn : n = (a.toNat * 256 + b.toNat) * 256 + c.toNat := rfl
    refine ⟨by simp only [List.length_cons]; omega, fun d hd => ?_⟩
    simp only [List.mem_cons] at hd
    rcases hd with rfl | rfl | rfl | rfl | hd
    · exact ⟨_, by omega, rfl⟩
    · exact ⟨_, by omega, rfl⟩
    · exact ⟨_, by omega, rfl⟩
    · exact ⟨_, by omega, rfl⟩
    · exact hsymbols d hd

end UserDirectory.Password.Base64
