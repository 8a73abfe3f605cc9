import Keystore2.Types

/-!
# The AES-GCM wrappers of the crypto crate

`aes_gcm_encrypt` and `aes_gcm_decrypt` of `crypto/lib.rs` check the lengths of what they are
handed and call BoringSSL's `AES_gcm_encrypt` and `AES_gcm_decrypt` through the FFI. The C side
writes into buffers the wrapper allocates, so what it writes has the length of its buffer: the
ciphertext that of the plaintext, the tag 16 bytes, the IV 12. Decryption writes into a `ZVec`,
whose allocation locks the buffer in memory and can fail.

The result of the module is the round trip: if the FFI pair is a correct AEAD, what
`aes_gcm_encrypt` returns `aes_gcm_decrypt` opens, with the IV it made or with that IV followed
by the four ignored bytes of the legacy form, once the plaintext's buffer can be allocated, and
answers the allocation's error when it cannot. A key of any length but 16 or 32 bytes is refused
by both.
-/

namespace Keystore2

namespace Crypto

/-- `GCM_IV_LENGTH`. -/
def gcmIvLength : Nat := 12

/-- `TAG_LENGTH`. -/
def tagLength : Nat := 16

/-- `AES_256_KEY_LENGTH`. -/
def aes256KeyLength : Nat := 32

/-- `AES_128_KEY_LENGTH`. -/
def aes128KeyLength : Nat := 16

/-- `LEGACY_IV_LENGTH`: older versions made 16-byte IVs whose last four bytes are ignored. -/
def legacyIvLength : Nat := 16

/-- The errors of the crate (`error.rs` is not in src) that the two wrappers return. -/
inductive CryptoError where
  | randomNumberGenerationFailed
  | invalidIvLength
  | invalidAeadTagLength
  | invalidKeyLength
  | decryptionFailed
  | encryptionFailed
  /-- The error of `ZVec::new`: the errno of its `mlock`. -/
  | zvec (errno : Int)
  deriving DecidableEq, Repr

/-- A buffer of `n` bytes, as the C side fills it. -/
abbrev Buffer (n : Nat) := {b : Blob // b.length = n}

/-- What the wrappers call: the BoringSSL functions of `keystore2_crypto_bindgen`, each filling
the buffers it is handed or answering `false` (`none`), and `ZVec::new` of `zvec.rs` (not in
src), which allocates and locks a buffer. -/
structure CryptoLib where
  /-- `randomBytes`. -/
  randomBytes : (n : Nat) → Option (Buffer n)
  /-- `AES_gcm_encrypt(plaintext, key, iv)`: the ciphertext and the tag. -/
  gcmEncrypt : (plaintext key iv : Blob) → Option (Buffer plaintext.length × Buffer tagLength)
  /-- `AES_gcm_decrypt(data, key, iv, tag)`: the plaintext. -/
  gcmDecrypt : (data key iv tag : Blob) → Option (Buffer data.length)
  /-- `ZVec::new(size)`. -/
  zvecNew : Nat → Except CryptoError Unit

/-- The key lengths AES-GCM takes: AES-128 and AES-256. -/
def IsAesKeyLength (n : Nat) : Prop := n = aes128KeyLength ∨ n = aes256KeyLength

instance (n : Nat) : Decidable (IsAesKeyLength n) := inferInstanceAs (Decidable (_ ∨ _))

/-- The FFI pair is a correct AEAD: what `AES_gcm_encrypt` makes with an AES key and a 12-byte
IV, `AES_gcm_decrypt` opens with the same key, IV and tag. -/
def CryptoLib.CorrectAead (lib : CryptoLib) : Prop :=
  ∀ plaintext key iv ciphertext tag, IsAesKeyLength key.length → iv.length = gcmIvLength →
    lib.gcmEncrypt plaintext key iv = some (ciphertext, tag) →
    (lib.gcmDecrypt ciphertext.1 key iv tag.1).map Subtype.val = some plaintext

variable (lib : CryptoLib)

/-- `aes_gcm_decrypt`: a 16-byte IV is cut to its first 12 bytes. -/
def aesGcmDecrypt (data iv tag key : Blob) : Except CryptoError Blob := do
  let iv ← (if iv.length = gcmIvLength then pure iv
    else if iv.length = legacyIvLength then pure (iv.take gcmIvLength)
    else throw .invalidIvLength)
  if tag.length ≠ tagLength then throw .invalidAeadTagLength
  if ¬IsAesKeyLength key.length then throw .invalidKeyLength
  lib.zvecNew data.length
  match lib.gcmDecrypt data key iv tag with
  | some result => pure result.1
  | none => throw .decryptionFailed

/-- `aes_gcm_encrypt`: a fresh random IV, then the key check; the ciphertext, IV and tag. -/
def aesGcmEncrypt (plaintext key : Blob) : Except CryptoError (Blob × Blob × Blob) := do
  let some iv := lib.randomBytes gcmIvLength | throw .randomNumberGenerationFailed
  if ¬IsAesKeyLength key.length then throw .invalidKeyLength
  match lib.gcmEncrypt plaintext key iv.1 with
  | some (ciphertext, tag) => pure (ciphertext.1, iv.1, tag.1)
  | none => throw .encryptionFailed

/-! ### What each wrapper does -/

variable {lib}

/-- What a successful encryption went through: the random IV, an AES key, and the C call. -/
theorem aesGcmEncrypt_ok {plaintext key ciphertext iv tag : Blob}
    (h : aesGcmEncrypt lib plaintext key = .ok (ciphertext, iv, tag)) :
    ∃ ivBuffer ciphertextBuffer tagBuffer, lib.randomBytes gcmIvLength = some ivBuffer ∧
      IsAesKeyLength key.length ∧
      lib.gcmEncrypt plaintext key ivBuffer.1 = some (ciphertextBuffer, tagBuffer) ∧
      ciphertext = ciphertextBuffer.1 ∧ iv = ivBuffer.1 ∧ tag = tagBuffer.1 := by
  rcases hr : lib.randomBytes gcmIvLength with _ | ivBuffer
  · simp [aesGcmEncrypt, hr] at h
  by_cases hkey : IsAesKeyLength key.length
  · rcases he : lib.gcmEncrypt plaintext key ivBuffer.1 with _ | ⟨ciphertextBuffer, tagBuffer⟩
    · simp [aesGcmEncrypt, hr, hkey, he] at h
    · simp only [aesGcmEncrypt, hr, hkey, he, not_true_eq_false, if_false] at h
      cases h
      exact ⟨ivBuffer, ciphertextBuffer, tagBuffer, rfl, hkey, he, rfl, rfl, rfl⟩
  · simp [aesGcmEncrypt, hr, hkey] at h

theorem aesGcmEncrypt_of_not_aes_key {key : Blob} (hkey : ¬IsAesKeyLength key.length)
    (plaintext : Blob) (r : Blob × Blob × Blob) : aesGcmEncrypt lib plaintext key ≠ .ok r := by
  intro h
  obtain ⟨_, _, _, _, hk, _⟩ := aesGcmEncrypt_ok h
  exact hkey hk

/-- What a successful decryption went through: a 12-byte IV or the first 12 bytes of a legacy
one, a 16-byte tag, an AES key, the buffer, and the C call. -/
theorem aesGcmDecrypt_ok {data iv tag key plaintext : Blob}
    (h : aesGcmDecrypt lib data iv tag key = .ok plaintext) :
    ∃ iv', (iv.length = gcmIvLength ∧ iv' = iv ∨
        iv.length = legacyIvLength ∧ iv' = iv.take gcmIvLength) ∧
      tag.length = tagLength ∧ IsAesKeyLength key.length ∧ lib.zvecNew data.length = .ok () ∧
      (lib.gcmDecrypt data key iv' tag).map Subtype.val = some plaintext := by
  unfold aesGcmDecrypt at h
  obtain ⟨iv', hiv, h⟩ := Except.ok_of_bind h
  refine ⟨iv', ?_, ?_⟩
  · split at hiv
    · cases hiv; exact .inl ⟨‹_›, rfl⟩
    · split at hiv
      · cases hiv; exact .inr ⟨‹_›, rfl⟩
      · cases hiv
  by_cases htag : tag.length = tagLength
  · by_cases hkey : IsAesKeyLength key.length
    · rcases hz : lib.zvecNew data.length with e | ⟨⟩
      · simp [htag, hkey, hz] at h
      · rcases hd : lib.gcmDecrypt data key iv' tag with _ | result
        · simp [htag, hkey, hz, hd] at h
        · simp only [htag, hkey, hz, hd, ne_eq, not_true_eq_false, if_false] at h
          cases h
          exact ⟨htag, hkey, rfl, rfl⟩
    · simp [htag, hkey] at h
  · simp [htag] at h

theorem aesGcmDecrypt_of_not_aes_key {key : Blob} (hkey : ¬IsAesKeyLength key.length)
    (data iv tag r : Blob) : aesGcmDecrypt lib data iv tag key ≠ .ok r := by
  intro h
  obtain ⟨_, _, _, hk, _⟩ := aesGcmDecrypt_ok h
  exact hkey hk

/-- With a 12-byte IV, a 16-byte tag, an AES key and the buffer allocated, decryption answers
what `AES_gcm_decrypt` writes. -/
theorem aesGcmDecrypt_of_valid {data iv tag key plaintext : Blob} (hiv : iv.length = gcmIvLength)
    (htag : tag.length = tagLength) (hkey : IsAesKeyLength key.length)
    (hz : lib.zvecNew data.length = .ok ())
    (hd : (lib.gcmDecrypt data key iv tag).map Subtype.val = some plaintext) :
    aesGcmDecrypt lib data iv tag key = .ok plaintext := by
  obtain ⟨result, hresult, rfl⟩ := Option.map_eq_some'.mp hd
  simp [aesGcmDecrypt, hiv, htag, hkey, hz, hresult]

/-- With a 12-byte IV, a 16-byte tag and an AES key, a buffer that cannot be allocated is the
answer. -/
theorem aesGcmDecrypt_of_zvec_error {data iv tag key : Blob} {e : CryptoError}
    (hiv : iv.length = gcmIvLength) (htag : tag.length = tagLength)
    (hkey : IsAesKeyLength key.length) (hz : lib.zvecNew data.length = .error e) :
    aesGcmDecrypt lib data iv tag key = .error e := by
  simp [aesGcmDecrypt, hiv, htag, hkey, hz]

/-- The legacy IV form: four more bytes are ignored. -/
theorem aesGcmDecrypt_legacy_iv {data iv tag key x : Blob} (hiv : iv.length = gcmIvLength)
    (hx : x.length = 4) :
    aesGcmDecrypt lib data (iv ++ x) tag key = aesGcmDecrypt lib data iv tag key := by
  have hlen : (iv ++ x).length = legacyIvLength := by
    simp [hiv, hx, gcmIvLength, legacyIvLength]
  have htake : (iv ++ x).take gcmIvLength = iv := by
    rw [List.take_append_of_le_length (Nat.le_of_eq hiv.symm), ← hiv, List.take_length]
  simp only [aesGcmDecrypt, hlen, hiv, htake]
  rfl

/-! ### The round trip -/

/-- What `aes_gcm_encrypt` returns has the lengths of its buffers, and `aes_gcm_decrypt` opens it,
with the IV or its legacy 16-byte form, once the plaintext's `ZVec` is allocated; when the `ZVec`
cannot be allocated, decryption answers its error. A key of any other length than 16 or 32 bytes
is refused by both. -/
theorem aesGcm_roundtrip (hAead : lib.CorrectAead) :
    (∀ plaintext key ciphertext iv tag,
      aesGcmEncrypt lib plaintext key = .ok (ciphertext, iv, tag) →
      ciphertext.length = plaintext.length ∧ iv.length = gcmIvLength ∧ tag.length = tagLength ∧
      (lib.zvecNew ciphertext.length = .ok () →
        aesGcmDecrypt lib ciphertext iv tag key = .ok plaintext ∧
        ∀ x : Blob, x.length = 4 → aesGcmDecrypt lib ciphertext (iv ++ x) tag key = .ok plaintext) ∧
      ∀ e, lib.zvecNew ciphertext.length = .error e →
        aesGcmDecrypt lib ciphertext iv tag key = .error e ∧
        ∀ x : Blob, x.length = 4 → aesGcmDecrypt lib ciphertext (iv ++ x) tag key = .error e) ∧
    ∀ key : Blob, ¬IsAesKeyLength key.length →
      (∀ plaintext r, aesGcmEncrypt lib plaintext key ≠ .ok r) ∧
      ∀ data iv tag r, aesGcmDecrypt lib data iv tag key ≠ .ok r := by
  refine ⟨fun plaintext key _ _ _ h => ?_, fun _ hkey =>
    ⟨aesGcmEncrypt_of_not_aes_key hkey, aesGcmDecrypt_of_not_aes_key hkey⟩⟩
  obtain ⟨ivBuffer, ciphertextBuffer, tagBuffer, _, hkey, he, rfl, rfl, rfl⟩ := aesGcmEncrypt_ok h
  have hopen := hAead plaintext key ivBuffer.1 ciphertextBuffer tagBuffer hkey ivBuffer.2 he
  refine ⟨ciphertextBuffer.2, ivBuffer.2, tagBuffer.2, fun hz => ?_, fun e hz => ?_⟩
  · have hdec := aesGcmDecrypt_of_valid ivBuffer.2 tagBuffer.2 hkey hz hopen
    exact ⟨hdec, fun _ hx => (aesGcmDecrypt_legacy_iv ivBuffer.2 hx).trans hdec⟩
  · have hfail := aesGcmDecrypt_of_zvec_error ivBuffer.2 tagBuffer.2 hkey hz
    exact ⟨hfail, fun _ hx => (aesGcmDecrypt_legacy_iv ivBuffer.2 hx).trans hfail⟩

/-- A library whose cipher is the identity with a zero tag, whose random bytes are zeros, and
whose `mlock` fails with `ENOMEM` past `limit` bytes. -/
def lockLimitedLib (limit : Nat) : CryptoLib where
  randomBytes n := some ⟨List.replicate n 0, List.length_replicate n 0⟩
  gcmEncrypt plaintext _ _ :=
    some (⟨plaintext, rfl⟩, ⟨List.replicate tagLength 0, List.length_replicate _ 0⟩)
  gcmDecrypt data _ _ _ := some ⟨data, rfl⟩
  zvecNew n := if n ≤ limit then .ok () else .error (.zvec 12)

theorem lockLimitedLib_correctAead (limit : Nat) : (lockLimitedLib limit).CorrectAead := by
  intro plaintext _ _ _ _ _ _ h
  obtain ⟨rfl, rfl⟩ := Prod.mk.inj (Option.some.inj h)
  rfl

/-- With room for the buffer, a one-byte message under a 16-byte key comes back; with no room,
decryption answers the `ENOMEM` of the `mlock`. -/
theorem aesGcm_roundtrip_onOneByte :
    (lockLimitedLib 1).CorrectAead ∧
    aesGcmEncrypt (lockLimitedLib 1) [1] (List.replicate 16 7) =
      .ok ([1], List.replicate 12 0, List.replicate 16 0) ∧
    aesGcmDecrypt (lockLimitedLib 1) [1] (List.replicate 12 0) (List.replicate 16 0)
      (List.replicate 16 7) = .ok [1] ∧
    aesGcmDecrypt (lockLimitedLib 0) [1] (List.replicate 12 0) (List.replicate 16 0)
      (List.replicate 16 7) = .error (.zvec 12) :=
  have he : aesGcmEncrypt (lockLimitedLib 1) [1] (List.replicate 16 7) =
      .ok ([1], List.replicate 12 0, List.replicate 16 0) := rfl
  have he₀ : aesGcmEncrypt (lockLimitedLib 0) [1] (List.replicate 16 7) =
      .ok ([1], List.replicate 12 0, List.replicate 16 0) := rfl
  ⟨lockLimitedLib_correctAead 1, he,
    (((aesGcm_roundtrip (lockLimitedLib_correctAead 1)).1 _ _ _ _ _ he).2.2.2.1 rfl).1,
    (((aesGcm_roundtrip (lockLimitedLib_correctAead 0)).1 _ _ _ _ _ he₀).2.2.2.2 _ rfl).1⟩

/-- When the plaintext's buffer cannot be locked, what was encrypted does not decrypt. -/
theorem aesGcmDecrypt_fails_on_mlock :
    (lockLimitedLib 0).CorrectAead ∧
    aesGcmEncrypt (lockLimitedLib 0) [1] (List.replicate 16 7) =
      .ok ([1], List.replicate 12 0, List.replicate 16 0) ∧
    aesGcmDecrypt (lockLimitedLib 0) [1] (List.replicate 12 0) (List.replicate 16 0)
      (List.replicate 16 7) = .error (.zvec 12) :=
  ⟨lockLimitedLib_correctAead 0, rfl, rfl⟩

/-! ### The subject of a certificate

`parse_subject_from_certificate` asks the C side for the subject with a 200-byte buffer. The C
side answers the length it wrote, or minus the length it needs when the buffer is too small,
or `0` when it cannot parse the certificate; on a negative answer the wrapper asks again with a
buffer of exactly the length needed. -/

/-- `Error::ExtractSubjectFailed`, the error of the crate `parse_subject_from_certificate`
returns. -/
inductive ExtractError where
  | extractSubjectFailed
  deriving DecidableEq, Repr

/-- `extractSubjectFromCertificate(cert, subject, len)` of `keystore2_crypto_bindgen`: the `int`
it answers, and the `len`-byte buffer as it leaves it. -/
structure SubjectExtractor where
  extract : (cert : Blob) → (len : Nat) → BitVec 32 × Buffer len

/-- Rust's unary `-` on `i32`: a panic (`none`) on `i32::MIN` when the build checks overflow. -/
def negI32 (overflowChecks : Bool) (x : BitVec 32) : Option (BitVec 32) :=
  if overflowChecks ∧ x = BitVec.intMin 32 then none else some (-x)

/-- `usize::try_from` of an `i32`, failing with `ExtractSubjectFailed` as the wrapper maps it. -/
def usizeOfI32 (x : BitVec 32) : ExceptT ExtractError Option Nat :=
  if x.toInt < 0 then throw .extractSubjectFailed else pure x.toNat

/-- `parse_subject_from_certificate`; `none` is a panic. -/
def parseSubjectFromCertificate (x : SubjectExtractor) (overflowChecks : Bool) (certBuf : Blob) :
    ExceptT ExtractError Option Blob := do
  let (size, retval) := x.extract certBuf 200
  if size = 0 then throw .extractSubjectFailed
  let (size, retval) ← (if size.toInt < 0 then do
      let negatedSize ← usizeOfI32 (← ExceptT.lift (negI32 overflowChecks size))
      let (size, retval) := x.extract certBuf negatedSize
      if size.toInt ≤ 0 then throw .extractSubjectFailed
      pure (size, retval.1)
    else pure (size, retval.1))
  let safeSize ← usizeOfI32 size
  pure (retval.take safeSize)

/-- The contract of `extractSubjectFromCertificate` the wrapper relies on, for a certificate whose
subject is `subject cert` (`none`: it cannot be parsed): with a buffer that holds the subject it
writes it and answers its length, with a smaller one it answers minus that length, and for a
certificate it cannot parse it answers `0`. The length fits in an `int`. -/
def SubjectExtractor.Follows (x : SubjectExtractor) (subject : Blob → Option Blob) : Prop :=
  ∀ cert len, match subject cert with
    | none => (x.extract cert len).1 = 0
    | some s => s.length < 2147483648 ∧
      if s.length ≤ len then
        (x.extract cert len).1 = BitVec.ofNat 32 s.length ∧ (x.extract cert len).2.1.take s.length = s
      else (x.extract cert len).1 = -BitVec.ofNat 32 s.length

/-! #### `int` answers that fit -/

section IntAnswers

variable {n : Nat}

theorem toInt_ofNat_of_lt (h : n < 2147483648) : (BitVec.ofNat 32 n).toInt = n := by
  rw [BitVec.toInt_ofNat, Int.bmod]
  split <;> omega

theorem toInt_neg_ofNat (h0 : 0 < n) (h : n < 2147483648) : (-BitVec.ofNat 32 n).toInt = -n := by
  rw [BitVec.toInt_neg, toInt_ofNat_of_lt h, Int.bmod]
  split <;> omega

theorem ofNat_ne_zero_of_lt (h0 : 0 < n) (h : n < 2147483648) : BitVec.ofNat 32 n ≠ 0 := by
  intro he
  have := congrArg BitVec.toInt he
  rw [toInt_ofNat_of_lt h] at this
  simp at this
  omega

theorem usizeOfI32_ofNat (h : n < 2147483648) :
    usizeOfI32 (BitVec.ofNat 32 n) = pure n := by
  have hnonneg : ¬(n : Int) < 0 := by omega
  simp [usizeOfI32, toInt_ofNat_of_lt h, hnonneg, Nat.mod_eq_of_lt (by omega : n < 4294967296)]

/-- Minus a length that fits is no `i32::MIN`, so negating it back never panics. -/
theorem negI32_neg_ofNat (overflowChecks : Bool) (h0 : 0 < n) (h : n < 2147483648) :
    negI32 overflowChecks (-BitVec.ofNat 32 n) = some (BitVec.ofNat 32 n) := by
  have hmin : -BitVec.ofNat 32 n ≠ BitVec.intMin 32 := fun he => by
    have := congrArg BitVec.toInt he
    rw [toInt_neg_ofNat h0 h, BitVec.toInt_intMin] at this
    simp at this
    omega
  simp [negI32, hmin]

end IntAnswers

/-- An extractor that takes the whole certificate for its subject, and keeps the contract. -/
def wholeCertExtractor : SubjectExtractor where
  extract cert len :=
    if cert.length < 2147483648 then
      if h : cert.length ≤ len then
        (BitVec.ofNat 32 cert.length, ⟨cert ++ List.replicate (len - cert.length) 0,
          by rw [List.length_append, List.length_replicate]; omega⟩)
      else (-BitVec.ofNat 32 cert.length, ⟨List.replicate len 0, List.length_replicate _ _⟩)
    else (0, ⟨List.replicate len 0, List.length_replicate _ _⟩)

theorem wholeCertExtractor_follows :
    wholeCertExtractor.Follows fun cert => if cert.length < 2147483648 then some cert else none := by
  intro cert len
  by_cases hlt : cert.length < 2147483648
  · by_cases hle : cert.length ≤ len <;> simp [wholeCertExtractor, hlt, hle]
  · simp [wholeCertExtractor, hlt]

end Crypto

end Keystore2
