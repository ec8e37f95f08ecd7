import Mathlib.Logic.ExistsUnique
import UserDirectory.Proofs.Password.Verification

/-!
# UserDirectory — the stored forms of a password

A password has one stored form for each salt, and these are the texts that accept it. Nothing else
does: not the same bytes written in another way, nor a text with more or less in it.

## Results

* `verifies_iff_exists_encode` — a stored text accepts the passwords that it was made from.
* `eq_encode_of_carries`       — of the texts that carry a salt, one accepts a password.
* `verifies_storedForm`        — both, with what such a text looks like and that it is taken in as it
  is.
-/

namespace UserDirectory.Password

variable {salt : Salt} {raw stored : String}

/-- Whether what stands behind the tag of a text, read as Base64, ends in the salt. -/
def Carries (stored : String) (salt : Salt) : Prop :=
  ∃ bytes, Base64.decode (stored.toList.drop schemeTag.length) = some (bytes ++ salt.1)

theorem verifies_iff :
    verifies stored raw = true ↔ schemeTag <+: stored.toList ∧
      ∃ payload, Base64.decode (stored.toList.drop schemeTag.length) = some payload ∧
        payload.length = 24 ∧ digest raw (payload.drop 20) = payload.take 20 := by
  rw [verifies]
  split
  · next htag =>
    rw [List.isPrefixOf_iff_prefix] at htag
    cases Base64.decode (stored.toList.drop schemeTag.length) with
    | none => simp
    | some payload => simp [htag]
  · next htag =>
    rw [List.isPrefixOf_iff_prefix] at htag
    simp [htag]

theorem verifies_encode (salt : Salt) (raw : String) : verifies (encode salt raw) raw = true :=
  verifies_encode_iff.mpr rfl

/-- A stored text accepts the passwords that it was made from, with the salt that it ends in. -/
theorem verifies_iff_exists_encode :
    verifies stored raw = true ↔ ∃ salt, stored = encode salt raw := by
  constructor
  · intro h
    obtain ⟨⟨text, htext⟩, payload, hdecode, hlen, hdigest⟩ := verifies_iff.mp h
    have hsalt : (payload.drop 20).length = 4 := by rw [List.length_drop, hlen]
    refine ⟨⟨payload.drop 20, hsalt⟩, ?_⟩
    rw [← htext, List.drop_left] at hdecode
    rw [← String.toList_inj, toList_encode, hdigest, List.take_append_drop,
      ← Base64.eq_encode_of_decode hdecode, htext]
  · rintro ⟨salt, rfl⟩
    exact verifies_encode salt raw

theorem decode_encode_drop (salt : Salt) (raw : String) :
    Base64.decode ((encode salt raw).toList.drop schemeTag.length) =
      some (digest raw salt.1 ++ salt.1) := by
  rw [toList_encode, List.drop_left, Base64.decode_encode]

theorem carries_encode (salt : Salt) (raw : String) : Carries (encode salt raw) salt :=
  ⟨_, decode_encode_drop salt raw⟩

/-- The salt is read off a text, so of the texts that carry it only one accepts a password. -/
theorem eq_encode_of_carries (hcarries : Carries stored salt) (h : verifies stored raw = true) :
    stored = encode salt raw := by
  obtain ⟨salt', rfl⟩ := verifies_iff_exists_encode.mp h
  obtain ⟨bytes, hbytes⟩ := hcarries
  rw [decode_encode_drop, Option.some.injEq] at hbytes
  have hsalt : salt'.1 = salt.1 := List.append_inj_right' hbytes (salt'.2.trans salt.2.symm)
  rw [Subtype.ext hsalt]

/-- A stored form is the tag and then thirty-two characters, none of which is padding. -/
theorem exists_symbols_encode (salt : Salt) (raw : String) :
    ∃ symbols, (encode salt raw).toList = schemeTag ++ symbols ∧ symbols.length = 32 ∧
      ∀ c ∈ symbols, ∃ n < 64, c = Base64.symbol n := by
  have hlen : (digest raw salt.1 ++ salt.1).length = 24 := by
    rw [List.length_append, length_digest, salt.2]
  obtain ⟨hcount, hsymbols⟩ := Base64.encode_of_groups (by rw [hlen])
  exact ⟨_, toList_encode salt raw, by omega, hsymbols⟩

theorem ingest_encode (salt salt' : Salt) (raw : String) :
    ingest salt' (encode salt raw) = .ok (encode salt raw) := by
  refine ingest_eq_ok_iff.mpr (.inl ⟨?_, rfl⟩)
  rw [toList_encode]
  exact List.prefix_append _ _

/-- The texts that accept a password are its stored forms, one for each salt, and all of them are
taken in as they are. So of the texts that carry a salt one accepts the password; a text with another
digest does not, and neither does one that is not the tag and thirty-two characters of the
alphabet. -/
theorem verifies_storedForm :
    (∀ stored raw, verifies stored raw = true ↔ ∃ salt, stored = encode salt raw) ∧
    (∀ (salt : Salt) raw, (encode salt raw).toList =
      schemeTag ++ Base64.encode (sha1 (utf8 raw ++ salt.1) ++ salt.1)) ∧
    (∀ salt raw, verifies (encode salt raw) raw = true) ∧
    (∀ salt raw, ∃! stored, Carries stored salt ∧ verifies stored raw = true) ∧
    (∀ (salt : Salt) raw bytes, bytes ≠ digest raw salt.1 →
      verifies (String.ofList (schemeTag ++ Base64.encode (bytes ++ salt.1))) raw = false) ∧
    (∀ stored raw, verifies stored raw = true → ∃ symbols, stored.toList = schemeTag ++ symbols ∧
      symbols.length = 32 ∧ ∀ c ∈ symbols, ∃ n < 64, c = Base64.symbol n) ∧
    ∀ salt salt' raw, ingest salt' (encode salt raw) = .ok (encode salt raw) := by
  refine ⟨fun _ _ => verifies_iff_exists_encode, toList_encode, verifies_encode, ?unique, ?digest,
    ?symbols, ingest_encode⟩
  case unique =>
    intro salt raw
    refine ⟨encode salt raw, ⟨carries_encode salt raw, verifies_encode salt raw⟩, ?_⟩
    rintro stored ⟨hcarries, h⟩
    exact eq_encode_of_carries hcarries h
  -- a text for other bytes with this salt would be the encoder's own text, which stands for no
  -- other bytes
  case digest =>
    intro salt raw bytes hne
    rw [← Bool.not_eq_true]
    intro h
    have hcarries : Carries (String.ofList (schemeTag ++ Base64.encode (bytes ++ salt.1))) salt :=
      ⟨bytes, by rw [String.toList_ofList, List.drop_left, Base64.decode_encode]⟩
    have hstored := eq_encode_of_carries hcarries h
    rw [encode, String.ofList_inj, List.append_cancel_left_eq] at hstored
    exact hne (List.append_cancel_right (Base64.encode_injective hstored))
  case symbols =>
    intro stored raw h
    obtain ⟨salt, rfl⟩ := verifies_iff_exists_encode.mp h
    exact exists_symbols_encode salt raw

/-- The stored form of a password with the salt of the bytes 1, 2, 3 and 4. -/
theorem verifies_storedForm_rightpw :
    let salt : Salt := ⟨[1, 2, 3, 4], rfl⟩
    let stored := "\x7bSSHA\x7d8xKvqqx7riK51yfBdtthDou/2ZkBAgME"
    verifies stored "rightpw" = true ∧
    (∃ symbols, stored.toList = schemeTag ++ symbols ∧ symbols.length = 32 ∧
      ∀ c ∈ symbols, ∃ n < 64, c = Base64.symbol n) ∧
    digest "wrongpw" salt.1 ≠ digest "rightpw" salt.1 ∧
    verifies (String.ofList (schemeTag ++ Base64.encode (digest "wrongpw" salt.1 ++ salt.1)))
      "rightpw" = false := by
  intro salt stored
  obtain ⟨-, -, -, -, hdigest, hsymbols, -⟩ := verifies_storedForm
  have hverifies : verifies stored "rightpw" = true := by decide +kernel
  have hne : digest "wrongpw" salt.1 ≠ digest "rightpw" salt.1 := by decide +kernel
  exact ⟨hverifies, hsymbols stored "rightpw" hverifies, hne, hdigest salt "rightpw" _ hne⟩

end UserDirectory.Password
