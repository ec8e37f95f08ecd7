import UserDirectory.Password.Basic
import UserDirectory.Proofs.Password.Base64

/-!
# UserDirectory — which passwords a stored form accepts

## Results

* `verifies_encode_iff`   — a password that was encoded accepts those with the same salted digest.
* `ingest_eq_ok_iff`      — what is stored: an encoded password as it is, a plain one encoded.
* `exists_ingest_iff`     — what is stored for a password accepts whom the password admits.
-/

namespace UserDirectory.Password

variable {salt : Salt} {raw stored value : String}

theorem toList_encode (salt : Salt) (raw : String) :
    (encode salt raw).toList = schemeTag ++ Base64.encode (digest raw salt.1 ++ salt.1) := by
  rw [encode, String.toList_ofList]

theorem length_digest (raw : String) (bytes : List UInt8) : (digest raw bytes).length = 20 :=
  length_sha1 _

theorem verifies_encode_iff :
    verifies (encode salt value) raw = true ↔ digest raw salt.1 = digest value salt.1 := by
  have hlen := length_digest value salt.1
  have htag : schemeTag.isPrefixOf (encode salt value).toList = true := by
    rw [toList_encode, List.isPrefixOf_iff_prefix]
    exact List.prefix_append _ _
  rw [verifies, if_pos htag, toList_encode, List.drop_left, Base64.decode_encode]
  simp only [List.length_append, hlen, salt.2, List.drop_left' hlen, List.take_left' hlen]
  simp

/-- What is stored for a password: itself if it is encoded, and its encoded form if it is plain. -/
theorem ingest_eq_ok_iff :
    ingest salt value = .ok stored ↔
      schemeTag <+: value.toList ∧ stored = value ∨
      value.toList.head? ≠ some '\x7b' ∧ stored = encode salt value := by
  -- the tag begins with a brace, so that its case and that of a plain password exclude each other
  by_cases htag : schemeTag <+: value.toList
  · have hhead : value.toList.head? = some '\x7b' := by
      obtain ⟨rest, hrest⟩ := htag
      rw [← hrest]
      rfl
    rw [ingest, if_pos (List.isPrefixOf_iff_prefix.mpr htag)]
    simp [htag, hhead, eq_comm]
  · rw [ingest, if_neg fun h => htag (List.isPrefixOf_iff_prefix.mp h)]
    split
    · next tagged hvalue =>
      rw [hvalue] at htag ⊢
      simp [htag]
    · next hplain =>
      have hhead : value.toList.head? ≠ some '\x7b' := by
        intro h
        obtain ⟨tagged, hvalue⟩ := List.head?_eq_some_iff.mp h
        exact hplain tagged hvalue
      simp [htag, hhead, eq_comm]

-- ---------------------------------------------------------------------------
-- Passwords in a users document
-- ---------------------------------------------------------------------------

/-- Whether the password has a tag that is not known. -/
def IsForeign (text : String) : Prop :=
  text.toList.head? = some '\x7b' ∧ ¬ schemeTag <+: text.toList

/-- Whether a password of a users document admits somebody who says `raw`: an encoded one is checked
as it is, and a plain one by its digest with the salt. -/
def Admits (salt : Salt) (text raw : String) : Prop :=
  schemeTag <+: text.toList ∧ verifies text raw = true ∨
  text.toList.head? ≠ some '\x7b' ∧ sha1 (utf8 raw ++ salt.1) = sha1 (utf8 text ++ salt.1)

theorem exists_ingest_iff {text : String} :
    (∃ stored, ingest salt text = .ok stored ∧ verifies stored raw = true) ↔
      Admits salt text raw := by
  constructor
  · rintro ⟨stored, hok, hverifies⟩
    rcases ingest_eq_ok_iff.mp hok with ⟨htag, rfl⟩ | ⟨hplain, rfl⟩
    · exact .inl ⟨htag, hverifies⟩
    · exact .inr ⟨hplain, verifies_encode_iff.mp hverifies⟩
  · rintro (⟨htag, hverifies⟩ | ⟨hplain, hdigest⟩)
    · exact ⟨text, ingest_eq_ok_iff.mpr (.inl ⟨htag, rfl⟩), hverifies⟩
    · exact ⟨_, ingest_eq_ok_iff.mpr (.inr ⟨hplain, rfl⟩), verifies_encode_iff.mpr hdigest⟩

theorem admits_self {text : String} (h : text.toList.head? ≠ some '\x7b') :
    Admits salt text text :=
  .inr ⟨h, rfl⟩

theorem IsForeign.not_admits {text : String} (h : IsForeign text) : ¬ Admits salt text raw := by
  obtain ⟨hhead, htag⟩ := h
  rintro (⟨hknown, -⟩ | ⟨hplain, -⟩)
  · exact htag hknown
  · exact hplain hhead

end UserDirectory.Password
