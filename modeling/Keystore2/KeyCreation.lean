import Keystore2.Operation
import Mathlib.Tactic.SplitIfs

/-!
# Generating and importing keys

`generate_key`, `import_key` and `import_wrapped_key` check the caller, complete the parameters
with those the service adds itself, have the device make the key, and file it through
`store_new_key`. `generate_key` may attest the new key with a key of the caller's, under the
upgrade protocol, or with a remotely provisioned key, whose certificate chain it appends to the
device's as one concatenated certificate. `import_wrapped_key` unwraps the new key with a stored
wrapping key, which it loads through the legacy importer.
-/

namespace Keystore2

variable {η κ α : Type} (env : Env η κ)

/-- `get_remotely_provisioned_component_name` of `globals.rs`: the declared instance of the
remote provisioning component of a security level. -/
def getRemotelyProvisionedComponentName (securityLevel : SecurityLevel) : Except Error String := do
  let instanceName ←
    if securityLevel = SecurityLevel.trustedEnvironment then do
      let inst := env.remoteProvDescriptor ++ "/default"
      pure (if ← env.isDeclared inst then some inst else none)
    else if securityLevel = SecurityLevel.strongbox then do
      let inst := env.remoteProvDescriptor ++ "/strongbox"
      pure (if ← env.isDeclared inst then some inst else none)
    else
      pure none
  match instanceName with
  | some inst => pure inst
  | none => throw (.km ErrorCode.hardwareTypeUnavailable)

namespace KeystoreSecurityLevel

/-- The certificates `store_new_key` files: the first as the leaf, and the bytes of the others,
concatenated, as the chain; each absent when there is nothing to put in it. -/
def certInfoOf (certificateChain : List Certificate) : CertificateInfo :=
  let cert := match certificateChain with
    | [] => none
    | leaf :: _ => some leaf.encodedCertificate
  let rest := certificateChain.drop 1
  ⟨cert, match rest with
    | [] => none
    | _ => some (rest.flatMap (·.encodedCertificate))⟩

/-- `store_new_key`: a `BLOB` key is handed back with its blob; any other is super-encrypted as
its domain requires, filed with this engine's uuid, and handed back as a `KEY_ID` descriptor. -/
def storeNewKey (self : KeystoreSecurityLevel) (key : KeyDescriptor)
    (creationResult : KeyCreationResult) (userId : Nat) (flags : Option Int) : Ks η κ KeyMetadata := do
  let certInfo := certInfoOf creationResult.certificateChain
  let keyParameters := env.keyCharacteristicsToInternal creationResult.keyCharacteristics ++
    [⟨⟨Tag.userId, .integer userId⟩, SecurityLevel.software⟩]
  let creationDate ← Host.now env
  let key ←
    if key.domain = Domain.blob then
      pure ⟨Domain.blob, 0, none, some creationResult.keyBlob⟩
    else do
      let (keyBlob, blobMetadata) ← Host.handleSuperEncryptionOnKeyInit env key.domain keyParameters
        flags userId creationResult.keyBlob
      let blobMetadata := blobMetadata.addKmUuid self.kmUuid
      let keyId ← Host.storeNewKey env key .client keyParameters ⟨keyBlob, blobMetadata⟩ certInfo
        ⟨some creationDate⟩ self.kmUuid
      pure ⟨Domain.keyId, keyId.id, none, none⟩
  pure
    { key := key
      keySecurityLevel := self.securityLevel
      certificate := certInfo.cert
      certificateChain := certInfo.certChain
      authorizations := env.keyParametersToAuthorizations keyParameters
      modificationTimeMs := creationDate }

/-- `duration_since(UNIX_EPOCH)` in milliseconds, converted to `i64`: it fails before the epoch
and from `2 ^ 63` on (past `i64::MAX`), with a root cause that is no `Error`. -/
def epochMillis (t : Int) : Except Error Int :=
  if t < 0 then .error (.other 0) else if t < 9223372036854775808 then .ok t else .error (.other 0)

/-- Whether a parameter list holds a parameter with tag `t`. -/
def hasTag (params : List KeyParameter) (t : Tag) : Bool := params.any (·.tag = t)

/-- The `CREATION_DATETIME` block of `add_required_parameters`, for engines of KeyMint V1 on. -/
def addCreationDatetime (self : KeystoreSecurityLevel) (creationDatetime : Int)
    (result : List KeyParameter) : Except Error (List KeyParameter) :=
  if self.hwInfo.versionNumber ≥ 100 then
    (epochMillis creationDatetime).map fun millis => result ++ [⟨Tag.creationDatetime, .dateTime millis⟩]
  else .ok result

/-- The `ATTESTATION_APPLICATION_ID` block: the application id of `uid`, when the caller asks for
attestation. -/
def addAttestationApplicationId (uid : Nat) (params result : List KeyParameter) :
    Ks η κ (List KeyParameter) :=
  if hasTag params Tag.attestationChallenge then do
    match ← Host.getAaid env uid with
    | .ok aaid => pure (result ++ [⟨Tag.attestationApplicationId, .blob aaid⟩])
    | .error e =>
      if e = ResponseCode.getAttestationApplicationIdFailed.val then
        Ks.throw (.rc ResponseCode.getAttestationApplicationIdFailed)
      else
        Ks.throw (.other e)
  else pure result

/-- Whether the caller may have a unique id in the attestation of `key`. -/
def uniqueIdPermitted (key : KeyDescriptor) : Bool :=
  (env.checkKeyPermission .genUniqueId key none).toBool || env.checkUniqueIdAttestationPermissions.toBool

/-- The `INCLUDE_UNIQUE_ID` block: `RESET_SINCE_ID_ROTATION` after a factory reset, for a
caller that may ask for a unique id. -/
def addResetSinceIdRotation (params : List KeyParameter) (key : KeyDescriptor) (creationDatetime : Int)
    (result : List KeyParameter) : Ks η κ (List KeyParameter) :=
  if hasTag params Tag.includeUniqueId then do
    if !uniqueIdPermitted env key then Ks.throw Error.perm
    if ← Host.hadFactoryResetSinceIdRotation env creationDatetime then
      pure (result ++ [⟨Tag.resetSinceIdRotation, .boolValue true⟩])
    else pure result
  else pure result

/-- The validity block: `NOT_BEFORE` and `NOT_AFTER` defaults for an asymmetric key. -/
def addCertificateValidity (params result : List KeyParameter) : List KeyParameter :=
  match params.find? (·.tag = Tag.algorithm) with
  | some ⟨_, .algorithm a⟩ =>
    if a = Algorithm.rsa ∨ a = Algorithm.ec then
      let result := if hasTag params Tag.certificateNotBefore then result
        else result ++ [⟨Tag.certificateNotBefore, .dateTime 0⟩]
      if hasTag params Tag.certificateNotAfter then result
        else result ++ [⟨Tag.certificateNotAfter, .dateTime env.undefinedNotAfter⟩]
    else result
  | _ => result

/-- `add_required_parameters`: the caller's parameters, which may not set the creation date,
followed by those the service adds, block by block. -/
def addRequiredParameters (self : KeystoreSecurityLevel) (uid : Nat) (params : List KeyParameter)
    (key : KeyDescriptor) : Ks η κ (List KeyParameter) := do
  if hasTag params Tag.creationDatetime then Ks.throw (.rc ResponseCode.invalidArgument)
  let creationDatetime ← Host.systemTimeNow env
  let result ← Ks.lift (self.addCreationDatetime creationDatetime params)
  let result ← addAttestationApplicationId env uid params result
  let result ← addResetSinceIdRotation env params key creationDatetime result
  if params.any fun kp => env.isDeviceIdAttestationTag kp.tag then
    Ks.lift env.checkDeviceAttestationPermissions
  pure (addCertificateValidity env params result)

/-- `upgrade_rkpd_keyblob_if_required_with`: the protocol, persisting through the remote
provisioning service. -/
def upgradeRkpdKeyblobIfRequiredWith {T : Type} (self : KeystoreSecurityLevel) (keyBlob : Blob)
    (params : List KeyParameter) (f : Blob → Ks η κ T) : Ks η κ (T × Option Blob) := do
  let rpcName ← Ks.lift (getRemotelyProvisionedComponentName env self.securityLevel)
  let ((v, upgradedBlob), ()) ← Utils.upgradeKeyblobIfRequiredWith env keyBlob params f
    (fun upgradedBlob () => ((), Host.storeRkpdAttestationKey env rpcName keyBlob upgradedBlob)) ()
  pure (v, upgradedBlob)

/-- The descriptor a new key is filed under: an `APP` key in the caller's namespace. -/
def newKeyDescriptor (callerUid : Nat) (key : KeyDescriptor) : KeyDescriptor :=
  if key.domain = Domain.app then ⟨key.domain, callerUid, key.alias', none⟩ else key

@[simp]
theorem newKeyDescriptor_domain (callerUid : Nat) (key : KeyDescriptor) :
    (newKeyDescriptor callerUid key).domain = key.domain := by
  unfold newKeyDescriptor
  split <;> simp_all

/-- `generate_key`, for the caller `callerUid`. -/
def generateKey (self : KeystoreSecurityLevel) (callerUid : Nat) (key : KeyDescriptor)
    (attestKeyDescriptor : Option KeyDescriptor) (params : List KeyParameter) (flags : Int) :
    Ks η κ KeyMetadata := do
  if key.domain ≠ Domain.blob ∧ key.alias' = none then Ks.throw (.km ErrorCode.invalidArgument)
  let key := newKeyDescriptor callerUid key
  Ks.lift (env.checkKeyPermission .rebind key none)
  let attestationKeyInfo ←
    if key.domain = Domain.blob then pure none
    else Host.getAttestKeyInfo env key callerUid attestKeyDescriptor params
  let params ← self.addRequiredParameters env callerUid params key
  let creationResult ← match attestationKeyInfo with
    | some (.userGenerated keyIdGuard blob blobMetadata issuerSubject) => do
      let (result, _) ← upgradeKeyblobIfRequiredWith env (some keyIdGuard) (.ref blob)
        blobMetadata.kmUuid params fun blob => Km.generateKey env params (some ⟨blob, [], issuerSubject⟩)
      pure result
    | some (.rkpdProvisioned attestationKey attestationCerts) => do
      let (result, _) ← self.upgradeRkpdKeyblobIfRequiredWith env attestationKey.keyBlob []
        fun blob => Km.generateKey env params (some ⟨blob, [], attestationKey.issuerSubjectName⟩)
      pure <| if env.useCertProcessor then
          { result with
            certificateChain := env.processCertificateChain result.certificateChain attestationCerts }
        else
          { result with certificateChain := result.certificateChain ++ [⟨attestationCerts⟩] }
    | none => Km.generateKey env params none
  self.storeNewKey env key creationResult (env.uidToAndroidUser callerUid) (some flags)

/-- The key format `import_key` derives from the algorithm. -/
def keyFormatOf (params : List KeyParameter) : Except Error KeyFormat :=
  match params.find? (·.tag = Tag.algorithm) with
  | some ⟨_, .algorithm a⟩ =>
    if a = Algorithm.aes ∨ a = Algorithm.hmac ∨ a = Algorithm.tripleDes then .ok KeyFormat.raw
    else if a = Algorithm.rsa ∨ a = Algorithm.ec then .ok KeyFormat.pkcs8
    else .error (.km ErrorCode.invalidArgument)
  | _ => .error (.km ErrorCode.invalidArgument)

/-- `import_key`, for the caller `callerUid`. -/
def importKey (self : KeystoreSecurityLevel) (callerUid : Nat) (key : KeyDescriptor)
    (_attestationKey : Option KeyDescriptor) (params : List KeyParameter) (flags : Int)
    (keyData : Blob) : Ks η κ KeyMetadata := do
  if key.domain ≠ Domain.blob ∧ key.alias' = none then Ks.throw (.km ErrorCode.invalidArgument)
  let key := newKeyDescriptor callerUid key
  Ks.lift (env.checkKeyPermission .rebind key none)
  let params ← self.addRequiredParameters env callerUid params key
  let format ← Ks.lift (keyFormatOf params)
  let creationResult ← Km.importKey env params format keyData
  self.storeNewKey env key creationResult (env.uidToAndroidUser callerUid) (some flags)

/-- The wrapped key material: the blob of an `APP` or `SELINUX` descriptor with an alias. -/
def wrappedDataOf (key : KeyDescriptor) : Except Error Blob :=
  match key.blob, key.alias' with
  | some blob, some _ =>
    if key.domain = Domain.app ∨ key.domain = Domain.selinux then .ok blob
    else .error (.km ErrorCode.invalidArgument)
  | _, _ => .error (.km ErrorCode.invalidArgument)

/-- The id of the first authenticator of a type, or `-1`. -/
def authenticatorSid (authenticators : List AuthenticatorSpec) (authenticatorType : Int) : Int :=
  ((authenticators.find? (·.authenticatorType = authenticatorType)).map (·.authenticatorId)).getD (-1)

/-- The descriptor the wrapped key is stored under: an APP key in the caller's namespace, a
SELINUX key in its own (the domain is one of the two once the wrapped data was found). -/
def wrappedKeyDescriptor (callerUid : Nat) (key : KeyDescriptor) : KeyDescriptor :=
  if key.domain = Domain.app then ⟨Domain.app, callerUid, key.alias', none⟩
  else ⟨Domain.selinux, key.nspace, key.alias', none⟩

/-- `import_wrapped_key`, for the caller `callerUid`. -/
def importWrappedKey (self : KeystoreSecurityLevel) (callerUid : Nat) (key wrappingKey : KeyDescriptor)
    (maskingKey : Option Blob) (params : List KeyParameter)
    (authenticators : List AuthenticatorSpec) : Ks η κ KeyMetadata := do
  let wrappedData ← Ks.lift (wrappedDataOf key)
  if wrappingKey.domain = Domain.blob then Ks.throw (.km ErrorCode.invalidArgument)
  let userId := env.uidToAndroidUser callerUid
  let key := wrappedKeyDescriptor callerUid key
  Ks.lift (env.checkKeyPermission .rebind key none)
  let superKey ← Host.getAfterFirstUnlockKeyByUserId env userId
  let (wrappingKeyIdGuard, wrappingKeyEntry) ← LegacyImporter.withTryImport env key callerUid superKey
    (Host.loadKeyEntry env wrappingKey .client callerUid (env.checkKeyPermission .use))
  let (wrappingKeyBlob, wrappingBlobMetadata) ← match wrappingKeyEntry.keyBlobInfo with
    | some info => pure info
    | none => Ks.throw Error.sys
  let wrappingKeyBlob ← Host.unwrapKeyIfRequired env wrappingBlobMetadata wrappingKeyBlob
  let pwSid := authenticatorSid authenticators HardwareAuthenticatorType.password
  let fpSid := authenticatorSid authenticators HardwareAuthenticatorType.fingerprint
  let maskingKey := maskingKey.getD (List.replicate 32 0)
  let (creationResult, _) ← upgradeKeyblobIfRequiredWith env (some wrappingKeyIdGuard)
    wrappingKeyBlob wrappingBlobMetadata.kmUuid [] fun wrappingBlob =>
      Km.importWrappedKey env wrappedData wrappingBlob maskingKey params pwSid fpSid
  self.storeNewKey env key creationResult userId none

end KeystoreSecurityLevel

end Keystore2

namespace Keystore2

namespace KeystoreSecurityLevel

variable {η κ : Type} (env : Env η κ)

/-! ### What `store_new_key` files and returns -/

/-- The leaf and the chain together are the certificates' bytes, in order. -/
theorem certInfoOf_bytes (certificateChain : List Certificate) :
    (certInfoOf certificateChain).cert.getD [] ++ (certInfoOf certificateChain).certChain.getD [] =
      certificateChain.flatMap (·.encodedCertificate) := by
  rcases certificateChain with _ | ⟨leaf, _ | ⟨c, rest⟩⟩ <;> simp [certInfoOf]

/-- A chain with one more certificate `r` behind the engine's `l`: `r` is the leaf when `l` is
empty, and the end of the chain otherwise. -/
theorem certInfoOf_append_certificate (l : List Certificate) (r : Blob) :
    certInfoOf (l ++ [⟨r⟩]) = match l with
      | [] => ⟨some r, none⟩
      | leaf :: rest => ⟨some leaf.encodedCertificate, some (rest.flatMap (·.encodedCertificate) ++ r)⟩ := by
  rcases l with _ | ⟨leaf, _ | ⟨c, rest⟩⟩ <;> simp [certInfoOf]

/-- What a successful `store_new_key` returns: the certificates of `certInfoOf`, this level, and
the new key's descriptor: its blob for a `BLOB` key, and a `KEY_ID` descriptor with no blob
otherwise. -/
theorem storeNewKey_ok {self : KeystoreSecurityLevel} {key : KeyDescriptor}
    {creationResult : KeyCreationResult} {userId : Nat} {flags : Option Int} {w : World η κ}
    {md : KeyMetadata} (h : (self.storeNewKey env key creationResult userId flags w).1 = .ok md) :
    md.keySecurityLevel = self.securityLevel ∧
    md.certificate = (certInfoOf creationResult.certificateChain).cert ∧
    md.certificateChain = (certInfoOf creationResult.certificateChain).certChain ∧
    (key.domain = Domain.blob → md.key = ⟨Domain.blob, 0, none, some creationResult.keyBlob⟩) ∧
    (key.domain ≠ Domain.blob → ∃ keyId, md.key = ⟨Domain.keyId, keyId, none, none⟩) := by
  rcases hn : env.now w.host with ⟨h₁, e | creationDate⟩
  · simp [storeNewKey, hn] at h
  by_cases hdom : key.domain = Domain.blob
  · simp [storeNewKey, hn, hdom] at h
    subst h
    simp [hdom]
  rcases hs : env.handleSuperEncryptionOnKeyInit h₁ key.domain
    (env.keyCharacteristicsToInternal creationResult.keyCharacteristics ++
      [⟨⟨Tag.userId, .integer userId⟩, SecurityLevel.software⟩]) flags userId creationResult.keyBlob
    with ⟨h₂, e | ⟨keyBlob, blobMetadata⟩⟩
  · simp [storeNewKey, hn, hdom, hs] at h
  rcases hst : env.storeNewKey h₂ key .client
    (env.keyCharacteristicsToInternal creationResult.keyCharacteristics ++
      [⟨⟨Tag.userId, .integer userId⟩, SecurityLevel.software⟩])
    ⟨keyBlob, blobMetadata.addKmUuid self.kmUuid⟩ (certInfoOf creationResult.certificateChain)
    ⟨some creationDate⟩ self.kmUuid with ⟨h₃, e | keyId⟩
  · simp [storeNewKey, hn, hdom, hs, hst] at h
  simp [storeNewKey, hn, hdom, hs, hst] at h
  subst h
  simp [hdom]

theorem storeNewKey_appends (self : KeystoreSecurityLevel) (key : KeyDescriptor)
    (creationResult : KeyCreationResult) (userId : Nat) (flags : Option Int) :
    Ks.Appends (self.storeNewKey env key creationResult userId flags) := by
  refine Ks.appends_bind (Ks.appends_host _ _) fun _ => ?_
  dsimp only
  split
  · exact Ks.appends_pure _
  · exact Ks.appends_bind (Ks.appends_host _ _) fun _ =>
      Ks.appends_bind (Ks.appends_host _ _) fun _ => Ks.appends_pure _

/-- A value the remote provisioning protocol returns is the answer of its last operation, whose
world it leaves as it is. -/
theorem upgradeRkpdKeyblobIfRequiredWith_of_fst_ok {T : Type} {self : KeystoreSecurityLevel}
    {keyBlob : Blob} {params : List KeyParameter} {f : Blob → Ks η κ T} {w : World η κ} {v : T}
    {upgradedBlob : Option Blob}
    (h : (self.upgradeRkpdKeyblobIfRequiredWith env keyBlob params f w).1 = .ok (v, upgradedBlob)) :
    ∃ b w₀, f b w₀ = (.ok v, (self.upgradeRkpdKeyblobIfRequiredWith env keyBlob params f w).2) := by
  simp only [upgradeRkpdKeyblobIfRequiredWith, Ks.bind_apply, Ks.lift_apply] at h ⊢
  rcases hn : getRemotelyProvisionedComponentName env self.securityLevel with e | rpcName <;>
    simp only [hn, Ks.next_ok, Ks.next_error, Ks.bind_apply] at h ⊢
  · cases h
  rcases hu : Utils.upgradeKeyblobIfRequiredWith env keyBlob params f
    (fun upgradedBlob () => ((), Host.storeRkpdAttestationKey env rpcName keyBlob upgradedBlob)) () w
    with ⟨_ | ⟨⟨v', b'⟩, ⟨⟩⟩, w'⟩ <;> rw [hu] at h
  · cases h
  · cases h
    have hfst := congrArg Prod.fst hu
    obtain ⟨b, w₀, hf⟩ := Utils.upgradeKeyblobIfRequiredWith_of_fst_ok env hfst
    exact ⟨b, w₀, by rw [hf, hu]; rfl⟩

/-- On the remote provisioning path with the certificate processor off, a successful
`generate_key` has made a `generateKey` call that the device answered with some `result`, and it
files and returns `result`'s chain with the remotely provisioned chain appended as one more
certificate. -/
theorem generateKey_rkpd_certificates {self : KeystoreSecurityLevel} {callerUid : Nat}
    {key : KeyDescriptor} {attestKeyDescriptor : Option KeyDescriptor} {params : List KeyParameter}
    {flags : Int} {w : World η κ} {attestationKey : AttestationKey} {attestationCerts : Blob}
    {md : KeyMetadata} (hdom : key.domain ≠ Domain.blob) (hcp : env.useCertProcessor = false)
    (ha : (env.getAttestKeyInfo w.host (newKeyDescriptor callerUid key) callerUid
      attestKeyDescriptor params).2 = .ok (some (.rkpdProvisioned attestationKey attestationCerts)))
    (hok : (self.generateKey env callerUid key attestKeyDescriptor params flags w).1 = .ok md) :
    ∃ completed attestBlob result,
      .generateKey completed (some ⟨attestBlob, [], attestationKey.issuerSubjectName⟩) (.ok result) ∈
        (self.generateKey env callerUid key attestKeyDescriptor params flags w).2.log ∧
      md.certificate = (certInfoOf (result.certificateChain ++ [⟨attestationCerts⟩])).cert ∧
      md.certificateChain =
        (certInfoOf (result.certificateChain ++ [⟨attestationCerts⟩])).certChain := by
  have hnew : (newKeyDescriptor callerUid key).domain ≠ Domain.blob := by simpa using hdom
  by_cases halias : key.alias' = none
  · simp only [generateKey, Ks.bind_apply, hdom, halias, ne_eq, not_false_eq_true, and_self,
      ↓reduceIte, Ks.throw_apply, Ks.next_error, reduceCtorEq] at hok
  rcases hperm : env.checkKeyPermission .rebind (newKeyDescriptor callerUid key) none with e | ⟨⟩
  · simp only [generateKey, Ks.bind_apply, hdom, halias, hperm, ne_eq, not_false_eq_true,
      and_false, ↓reduceIte, Ks.pure_bind, Ks.lift_apply, Ks.next_error, reduceCtorEq] at hok
  rcases hai : env.getAttestKeyInfo w.host (newKeyDescriptor callerUid key) callerUid
    attestKeyDescriptor params with ⟨h₁, ai⟩
  rw [hai] at ha
  subst ha
  simp only [generateKey, Ks.bind_apply, hdom, halias, ne_eq, not_false_eq_true, and_false,
    if_false, Ks.pure_apply, Ks.next_ok, Ks.lift_apply, hperm, if_neg hnew, Host.getAttestKeyInfo,
    Ks.host_apply, hai] at hok ⊢
  rcases hp : self.addRequiredParameters env callerUid params (newKeyDescriptor callerUid key)
    { w with host := h₁, log := w.log ++ [.getAttestKeyInfo (newKeyDescriptor callerUid key)
      callerUid attestKeyDescriptor (.ok (some (.rkpdProvisioned attestationKey attestationCerts)))] }
    with ⟨_ | completed, w₂⟩ <;> rw [hp] at hok
  · cases hok
  simp only [Ks.next_ok, Ks.bind_apply, hcp, Bool.false_eq_true, if_false] at hok ⊢
  rcases hu : self.upgradeRkpdKeyblobIfRequiredWith env attestationKey.keyBlob []
    (fun blob => Km.generateKey env completed (some ⟨blob, [], attestationKey.issuerSubjectName⟩)) w₂
    with ⟨_ | ⟨result, upgradedBlob⟩, w₃⟩ <;> rw [hu] at hok
  · cases hok
  obtain ⟨b, w₀, hgen⟩ := upgradeRkpdKeyblobIfRequiredWith_of_fst_ok env (congrArg Prod.fst hu)
  rw [hu] at hgen
  have hlog : w₃.log = w₀.log ++
      [.generateKey completed (some ⟨b, [], attestationKey.issuerSubjectName⟩) (.ok result)] := by
    simp only [Km.generateKey, Ks.km_apply, Prod.mk.injEq] at hgen
    obtain ⟨hresult, rfl⟩ := hgen
    rw [hresult]
  simp only [Ks.next_ok, Ks.pure_apply] at hok ⊢
  obtain ⟨-, hcert, hchain, -⟩ := storeNewKey_ok env hok
  refine ⟨completed, b, result, (storeNewKey_appends env _ _ _ _ _ w₃).subset ?_, hcert, hchain⟩
  rw [hlog]
  simp

/-- **The remotely provisioned chain can become the leaf.** `store_new_key` files the first
certificate it is handed as the leaf and the bytes of the rest as the chain, and returns the
same: nothing is lost or duplicated. But every successful run of the remotely provisioned path
of `generate_key`, with the certificate processor off, files the certificates `l` of the device's
answer with the concatenated chain `r` appended as one more certificate, so when `l` is empty,
`r` is filed and returned as the leaf, with no chain. -/
theorem rkpdChain_leaf_of_empty_engine_chain :
    (∀ l : List Certificate, (certInfoOf l).cert.getD [] ++ (certInfoOf l).certChain.getD [] =
      l.flatMap (·.encodedCertificate)) ∧
    (∀ (l : List Certificate) (r : Blob), certInfoOf (l ++ [⟨r⟩]) = match l with
      | [] => ⟨some r, none⟩
      | leaf :: rest => ⟨some leaf.encodedCertificate, some (rest.flatMap (·.encodedCertificate) ++ r)⟩) ∧
    (∀ (self : KeystoreSecurityLevel) key creationResult userId flags (w : World η κ) md,
      (self.storeNewKey env key creationResult userId flags w).1 = .ok md →
      md.certificate = (certInfoOf creationResult.certificateChain).cert ∧
      md.certificateChain = (certInfoOf creationResult.certificateChain).certChain) ∧
    (∀ (self : KeystoreSecurityLevel) callerUid key attestKeyDescriptor params flags
        (w : World η κ) attestationKey attestationCerts md,
      key.domain ≠ Domain.blob → env.useCertProcessor = false →
      (env.getAttestKeyInfo w.host (newKeyDescriptor callerUid key) callerUid attestKeyDescriptor
        params).2 = .ok (some (.rkpdProvisioned attestationKey attestationCerts)) →
      (self.generateKey env callerUid key attestKeyDescriptor params flags w).1 = .ok md →
      ∃ completed attestBlob result,
        .generateKey completed (some ⟨attestBlob, [], attestationKey.issuerSubjectName⟩)
          (.ok result) ∈ (self.generateKey env callerUid key attestKeyDescriptor params flags w).2.log ∧
        md.certificate = (certInfoOf (result.certificateChain ++ [⟨attestationCerts⟩])).cert ∧
        md.certificateChain =
          (certInfoOf (result.certificateChain ++ [⟨attestationCerts⟩])).certChain) :=
  ⟨certInfoOf_bytes, certInfoOf_append_certificate, fun _ _ _ _ _ _ _ h =>
    ⟨(storeNewKey_ok env h).2.1, (storeNewKey_ok env h).2.2.1⟩,
    fun _ _ _ _ _ _ _ _ _ _ hdom hcp ha hok => generateKey_rkpd_certificates env hdom hcp ha hok⟩

/-- A symmetric key with an attestation challenge, attested with a remotely provisioned key whose
chain is `[7, 7]`, on a device that returns no certificate for it: the chain is the leaf. -/
theorem rkpdChain_filed_as_leaf :
    ((generateKey { Store.env Store.device with
        getAttestKeyInfo := fun s _ _ _ _ => (s, .ok (some (.rkpdProvisioned ⟨[2], [], [9]⟩ [7, 7]))) }
      ⟨SecurityLevel.trustedEnvironment, ⟨100, SecurityLevel.trustedEnvironment, false⟩, ⟨1⟩⟩ 10001
      ⟨Domain.app, 0, some "k", none⟩ none
      [⟨Tag.algorithm, .algorithm Algorithm.aes⟩, ⟨Tag.attestationChallenge, .blob [1]⟩] 0
      ⟨Store.empty, (), []⟩).1.map fun md => (md.certificate, md.certificateChain)) =
      .ok (some [7, 7], none) :=
  rfl

/-! ### The parameters the service adds -/

section AddRequiredParameters

variable {self : KeystoreSecurityLevel} {uid : Nat} {params result r : List KeyParameter}
  {key : KeyDescriptor} {t : Int} {w : World η κ}

theorem addCreationDatetime_ok (h : self.addCreationDatetime t result = .ok r) :
    ∃ millis, r = result ++
      if self.hwInfo.versionNumber ≥ 100 then [⟨Tag.creationDatetime, .dateTime millis⟩] else [] := by
  unfold addCreationDatetime at h
  split_ifs at h with hv
  · cases hm : epochMillis t with
    | error e => simp [hm, Except.map] at h
    | ok millis => exact ⟨millis, by simp_all [Except.map]⟩
  · exact ⟨0, by simp_all⟩

theorem addAttestationApplicationId_ok
    (h : (addAttestationApplicationId env uid params result w).1 = .ok r) :
    (hasTag params Tag.attestationChallenge = true ∧ ∃ aaid, env.getAaid w.host uid = .ok aaid ∧
        r = result ++ [⟨Tag.attestationApplicationId, .blob aaid⟩]) ∨
      (hasTag params Tag.attestationChallenge = false ∧ r = result) := by
  unfold addAttestationApplicationId at h
  cases hc : hasTag params Tag.attestationChallenge
  · simp_all
  · rcases ha : env.getAaid w.host uid with e | aaid
    · by_cases he : e = ResponseCode.getAttestationApplicationIdFailed.val <;> simp_all
    · simp_all

theorem addResetSinceIdRotation_ok
    (h : (addResetSinceIdRotation env params key t result w).1 = .ok r) :
    r = result ∨ hasTag params Tag.includeUniqueId = true ∧ uniqueIdPermitted env key = true ∧
      r = result ++ [⟨Tag.resetSinceIdRotation, .boolValue true⟩] := by
  unfold addResetSinceIdRotation at h
  cases hc : hasTag params Tag.includeUniqueId
  · simp_all
  · cases hp : uniqueIdPermitted env key
    · simp_all
    · rcases hr : env.hadFactoryResetSinceIdRotation w.host t with e | _ | _ <;> simp_all

theorem addCertificateValidity_eq :
    ∃ part, addCertificateValidity env params result = result ++ part ∧
      ∀ p ∈ part, p.tag = Tag.certificateNotBefore ∨ p.tag = Tag.certificateNotAfter := by
  unfold addCertificateValidity
  split
  · split_ifs <;> simp
  · exact ⟨[], by simp⟩

/-- What `add_required_parameters` returns: the caller's parameters, free of a creation date,
followed by the creation date on KeyMint V1 on, the application id of `uid` when attestation is
asked for, `RESET_SINCE_ID_ROTATION` only for a permitted unique-id request, and validity
defaults. -/
theorem addRequiredParameters_ok (h : (addRequiredParameters env self uid params key w).1 = .ok result) :
    hasTag params Tag.creationDatetime = false ∧
    ∃ millis aaidPart rsirPart validity,
      result = params ++
        (if self.hwInfo.versionNumber ≥ 100 then [⟨Tag.creationDatetime, .dateTime millis⟩] else []) ++
        aaidPart ++ rsirPart ++ validity ∧
      ((hasTag params Tag.attestationChallenge = true ∧ ∃ aaid, env.getAaid w.host uid = .ok aaid ∧
          aaidPart = [⟨Tag.attestationApplicationId, .blob aaid⟩]) ∨
        (hasTag params Tag.attestationChallenge = false ∧ aaidPart = [])) ∧
      (rsirPart = [] ∨ hasTag params Tag.includeUniqueId = true ∧ uniqueIdPermitted env key = true ∧
        rsirPart = [⟨Tag.resetSinceIdRotation, .boolValue true⟩]) ∧
      ∀ p ∈ validity, p.tag = Tag.certificateNotBefore ∨ p.tag = Tag.certificateNotAfter := by
  simp only [addRequiredParameters] at h
  split at h
  · simp at h
  rename_i hcdt
  simp only [Ks.pure_bind] at h
  obtain ⟨t, w₁, ht, h⟩ := Ks.ok_of_bind h
  obtain ⟨r₁, w₂, h₁, h⟩ := Ks.ok_of_bind h
  obtain ⟨r₂, w₃, h₂, h⟩ := Ks.ok_of_bind h
  obtain ⟨r₃, w₄, h₃, h⟩ := Ks.ok_of_bind h
  have hres : result = addCertificateValidity env params r₃ := by
    split at h
    · obtain ⟨_, _, -, h⟩ := Ks.ok_of_bind h
      simpa using h.symm
    · simpa using h.symm
  simp only [Host.systemTimeNow, Prod.mk.injEq] at ht
  obtain ⟨-, rfl⟩ := ht
  simp only [Ks.lift_apply, Prod.mk.injEq] at h₁
  obtain ⟨hc, rfl⟩ := h₁
  obtain ⟨millis, rfl⟩ := addCreationDatetime_ok hc
  obtain ⟨validity, hv, hvt⟩ : ∃ part, addCertificateValidity env params r₃ = r₃ ++ part ∧
      ∀ p ∈ part, p.tag = Tag.certificateNotBefore ∨ p.tag = Tag.certificateNotAfter :=
    addCertificateValidity_eq env
  refine ⟨by simpa using hcdt, millis, ?_⟩
  rcases addAttestationApplicationId_ok env (congrArg Prod.fst h₂) with
    ⟨hch, aaid, haaid, rfl⟩ | ⟨hch, rfl⟩ <;>
  rcases addResetSinceIdRotation_ok env (congrArg Prod.fst h₃) with rfl | ⟨hu, hp, rfl⟩
  · exact ⟨_, [], validity, by rw [hres, hv]; simp, .inl ⟨hch, aaid, haaid, rfl⟩, .inl rfl, hvt⟩
  · exact ⟨_, _, validity, by rw [hres, hv], .inl ⟨hch, aaid, haaid, rfl⟩, .inr ⟨hu, hp, rfl⟩, hvt⟩
  · exact ⟨[], [], validity, by rw [hres, hv]; simp, .inr ⟨hch, rfl⟩, .inl rfl, hvt⟩
  · exact ⟨[], _, validity, by rw [hres, hv]; simp, .inr ⟨hch, rfl⟩, .inr ⟨hu, hp, rfl⟩, hvt⟩

section Calls

variable {P : Event → Prop}

theorem addAttestationApplicationId_logs (haaid : ∀ r, P (.getAaid uid r)) :
    Ks.Logs (addAttestationApplicationId env uid params result) P :=
  Ks.logs_ite (Ks.logs_bind (Ks.logs_read fun _ => haaid _) fun
    | .ok _ => Ks.logs_pure _
    | .error _ => Ks.logs_ite (Ks.logs_throw _) (Ks.logs_throw _)) (Ks.logs_pure _)

theorem addResetSinceIdRotation_logs (hreset : ∀ r, P (.hadFactoryResetSinceIdRotation r)) :
    Ks.Logs (addResetSinceIdRotation env params key t result) P := by
  refine Ks.logs_ite (Ks.logs_ite (Ks.logs_bind (Ks.logs_throw _) fun _ => ?_)
    (Ks.logs_bind (Ks.logs_pure _) fun _ => ?_)) (Ks.logs_pure _) <;>
  exact Ks.logs_bind (Ks.logs_read fun _ => hreset _) fun _ =>
    Ks.logs_ite (Ks.logs_pure _) (Ks.logs_pure _)

/-- `add_required_parameters` makes no call but the application-id and factory-reset reads. -/
theorem addRequiredParameters_logs (haaid : ∀ r, P (.getAaid uid r))
    (hreset : ∀ r, P (.hadFactoryResetSinceIdRotation r)) :
    Ks.Logs (addRequiredParameters env self uid params key) P := by
  refine Ks.logs_ite (Ks.logs_bind (Ks.logs_throw _) fun _ => ?_)
    (Ks.logs_bind (Ks.logs_pure _) fun _ => ?_) <;>
  exact Ks.logs_bind (Ks.logs_of_log_eq fun _ => rfl) fun _ =>
    Ks.logs_bind (Ks.logs_lift _) fun _ =>
    Ks.logs_bind (addAttestationApplicationId_logs env haaid) fun _ =>
    Ks.logs_bind (addResetSinceIdRotation_logs env hreset) fun _ =>
    Ks.logs_ite (Ks.logs_bind (Ks.logs_lift _) fun _ => Ks.logs_pure _)
      (Ks.logs_bind (Ks.logs_pure _) fun _ => Ks.logs_pure _)

end Calls

theorem filter_tag_eq_nil_of_hasTag {l : List KeyParameter} {t : Tag} (h : hasTag l t = false) :
    l.filter (·.tag = t) = [] := by
  simpa [hasTag, List.filter_eq_nil_iff] using h

theorem filter_tag_eq_nil_of_validity {l : List KeyParameter} {t : Tag}
    (hv : ∀ p ∈ l, p.tag = Tag.certificateNotBefore ∨ p.tag = Tag.certificateNotAfter)
    (hb : t ≠ Tag.certificateNotBefore) (ha : t ≠ Tag.certificateNotAfter) :
    l.filter (·.tag = t) = [] := by
  simp only [List.filter_eq_nil_iff, decide_eq_true_eq]
  intro p hp hpt
  rcases hv p hp with h | h <;> simp_all

/-- A block of parameters that all carry the tag `t₀` is all or nothing of a filter by tag. -/
theorem filter_tag_of_forall {l : List KeyParameter} {t₀ t : Tag} (h : ∀ p ∈ l, p.tag = t₀) :
    l.filter (·.tag = t) = if t₀ = t then l else [] := by
  split_ifs with ht
  · exact List.filter_eq_self.mpr fun p hp => by simp [h p hp, ht]
  · exact List.filter_eq_nil_iff.mpr fun p hp => by simp [h p hp, ht]

/-- **Service tags.** When `add_required_parameters` succeeds, the caller set no
`CREATION_DATETIME`, and the result holds one exactly from KeyMint V1 on. Its
`ATTESTATION_APPLICATION_ID` entries are the caller's, followed by the application id of `uid`
exactly when attestation was asked for; its `RESET_SINCE_ID_ROTATION` entries are the caller's,
followed by the service's only for a permitted unique-id request. -/
theorem addRequiredParameters_service_tags
    (h : (addRequiredParameters env self uid params key w).1 = .ok result) :
    hasTag params Tag.creationDatetime = false ∧
    (result.filter (·.tag = Tag.creationDatetime)).length =
      (if self.hwInfo.versionNumber ≥ 100 then 1 else 0) ∧
    (hasTag params Tag.attestationChallenge = true → ∃ aaid, env.getAaid w.host uid = .ok aaid ∧
      result.filter (·.tag = Tag.attestationApplicationId) =
        params.filter (·.tag = Tag.attestationApplicationId) ++
          [⟨Tag.attestationApplicationId, .blob aaid⟩]) ∧
    (hasTag params Tag.attestationChallenge = false →
      result.filter (·.tag = Tag.attestationApplicationId) =
        params.filter (·.tag = Tag.attestationApplicationId)) ∧
    (result.filter (·.tag = Tag.resetSinceIdRotation) =
        params.filter (·.tag = Tag.resetSinceIdRotation) ∨
      hasTag params Tag.includeUniqueId = true ∧ uniqueIdPermitted env key = true ∧
        result.filter (·.tag = Tag.resetSinceIdRotation) =
          params.filter (·.tag = Tag.resetSinceIdRotation) ++
            [⟨Tag.resetSinceIdRotation, .boolValue true⟩]) := by
  obtain ⟨hcdt, millis, aaidPart, rsirPart, validity, rfl, haaid, hrsir, hv⟩ :=
    addRequiredParameters_ok env h
  have hne : Tag.creationDatetime ≠ Tag.attestationApplicationId ∧
      Tag.attestationApplicationId ≠ Tag.creationDatetime ∧
      Tag.creationDatetime ≠ Tag.resetSinceIdRotation ∧
      Tag.resetSinceIdRotation ≠ Tag.creationDatetime ∧
      Tag.attestationApplicationId ≠ Tag.resetSinceIdRotation ∧
      Tag.resetSinceIdRotation ≠ Tag.attestationApplicationId := by decide
  -- each block the service adds carries one tag
  have hcdtPart : ∀ p ∈ (if self.hwInfo.versionNumber ≥ 100 then
      [(⟨Tag.creationDatetime, .dateTime millis⟩ : KeyParameter)] else []),
      p.tag = Tag.creationDatetime := by
    split_ifs <;> simp
  have haaidPart : ∀ p ∈ aaidPart, p.tag = Tag.attestationApplicationId := by
    rcases haaid with ⟨-, _, -, rfl⟩ | ⟨-, rfl⟩ <;> simp
  have hrsirPart : ∀ p ∈ rsirPart, p.tag = Tag.resetSinceIdRotation := by
    rcases hrsir with rfl | ⟨-, -, rfl⟩ <;> simp
  have hcdtv : validity.filter (·.tag = Tag.creationDatetime) = [] :=
    filter_tag_eq_nil_of_validity hv (by decide) (by decide)
  have haaidv : validity.filter (·.tag = Tag.attestationApplicationId) = [] :=
    filter_tag_eq_nil_of_validity hv (by decide) (by decide)
  have hrsirv : validity.filter (·.tag = Tag.resetSinceIdRotation) = [] :=
    filter_tag_eq_nil_of_validity hv (by decide) (by decide)
  simp only [List.filter_append, filter_tag_of_forall hcdtPart, filter_tag_of_forall haaidPart,
    filter_tag_of_forall hrsirPart, hcdtv, haaidv, hrsirv, hne, if_true, if_false,
    List.append_nil]
  refine ⟨hcdt, by simp [filter_tag_eq_nil_of_hasTag hcdt]; split_ifs <;> rfl, ?_, ?_, ?_⟩
  · intro hch
    rcases haaid with ⟨-, aaid, hget, rfl⟩ | ⟨hch', -⟩
    · exact ⟨aaid, hget, rfl⟩
    · simp [hch] at hch'
  · intro hch
    rcases haaid with ⟨hch', -⟩ | ⟨-, rfl⟩
    · simp [hch] at hch'
    · simp
  · rcases hrsir with rfl | ⟨hu, hp, rfl⟩
    · exact .inl (by simp)
    · exact .inr ⟨hu, hp, rfl⟩

end AddRequiredParameters

/-- With an attestation challenge, the reference host's application id, `[]`, is added once. -/
theorem addRequiredParameters_service_tags_onChallenge :
    (addRequiredParameters (Store.env Store.device)
        ⟨SecurityLevel.trustedEnvironment, ⟨100, SecurityLevel.trustedEnvironment, false⟩, ⟨1⟩⟩ 10001
        [⟨Tag.attestationChallenge, .blob [1]⟩] ⟨Domain.app, 10001, some "k", none⟩
        ⟨Store.empty, (), []⟩).1 =
      .ok [⟨Tag.attestationChallenge, .blob [1]⟩, ⟨Tag.creationDatetime, .dateTime 0⟩,
        ⟨Tag.attestationApplicationId, .blob []⟩] ∧
    ∃ aaid, (Store.env Store.device).getAaid Store.empty 10001 = .ok aaid ∧
      ([⟨Tag.attestationChallenge, .blob [1]⟩, ⟨Tag.creationDatetime, .dateTime 0⟩,
        ⟨Tag.attestationApplicationId, .blob []⟩] : List KeyParameter).filter
          (·.tag = Tag.attestationApplicationId) =
        ([⟨Tag.attestationChallenge, .blob [1]⟩] : List KeyParameter).filter
          (·.tag = Tag.attestationApplicationId) ++ [⟨Tag.attestationApplicationId, .blob aaid⟩] :=
  have h : (addRequiredParameters (Store.env Store.device)
      ⟨SecurityLevel.trustedEnvironment, ⟨100, SecurityLevel.trustedEnvironment, false⟩, ⟨1⟩⟩ 10001
      [⟨Tag.attestationChallenge, .blob [1]⟩] ⟨Domain.app, 10001, some "k", none⟩
      ⟨Store.empty, (), []⟩).1 =
        .ok [⟨Tag.attestationChallenge, .blob [1]⟩, ⟨Tag.creationDatetime, .dateTime 0⟩,
          ⟨Tag.attestationApplicationId, .blob []⟩] := rfl
  ⟨h, (addRequiredParameters_service_tags (Store.env Store.device) h).2.2.1 rfl⟩

/-- A caller's own `ATTESTATION_APPLICATION_ID`, with no attestation challenge, is passed on. -/
theorem attestationApplicationId_injected :
    (addRequiredParameters (Store.env Store.device)
        ⟨SecurityLevel.trustedEnvironment, ⟨100, SecurityLevel.trustedEnvironment, false⟩, ⟨1⟩⟩ 10001
        [⟨Tag.attestationApplicationId, .blob [7]⟩] ⟨Domain.app, 10001, some "k", none⟩
        ⟨Store.empty, (), []⟩).1 =
      .ok [⟨Tag.attestationApplicationId, .blob [7]⟩, ⟨Tag.creationDatetime, .dateTime 0⟩] :=
  rfl

/-! ### Which key the legacy importer is asked for -/

/-- Once the wrapped data is found and the new key may be bound, the wrapping key is loaded
through the legacy importer, which is handed the new key's descriptor. -/
theorem prefix_importWrappedKey_withTryImport (self : KeystoreSecurityLevel) {callerUid : Nat}
    {key wrappingKey : KeyDescriptor} {maskingKey : Option Blob} {params : List KeyParameter}
    {authenticators : List AuthenticatorSpec} {wrappedData : Blob}
    (hwd : wrappedDataOf key = .ok wrappedData) (hdom : wrappingKey.domain ≠ Domain.blob)
    (hperm : env.checkKeyPermission .rebind (wrappedKeyDescriptor callerUid key) none = .ok ())
    (w : World η κ) :
    (LegacyImporter.withTryImport env (wrappedKeyDescriptor callerUid key) callerUid
        (env.getAfterFirstUnlockKeyByUserId w.host (env.uidToAndroidUser callerUid))
        (Host.loadKeyEntry env wrappingKey .client callerUid (env.checkKeyPermission .use)) w).2.log <+:
      (self.importWrappedKey env callerUid key wrappingKey maskingKey params authenticators w).2.log := by
  simp only [importWrappedKey, Ks.bind_apply, Ks.lift_apply, hwd, hperm, Ks.next_ok, if_neg hdom,
    Ks.pure_apply, Host.getAfterFirstUnlockKeyByUserId]
  refine Ks.prefix_next (fun _ => ?_) _
  -- the wrapping key's entry has a blob, or the call fails
  split
  · exact Ks.appends_bind (Ks.appends_pure _) fun _ => Ks.appends_bind (Ks.appends_read _ _) fun _ =>
      Ks.appends_bind (upgradeKeyblobIfRequiredWith_appends env _ _ _ fun _ => Ks.appends_km _ _)
        fun _ => storeNewKey_appends env _ _ _ _ _
  · exact Ks.appends_throw _

/-- **The wrapping key's legacy import asks for the new key.** When the wrapping key is not in
the store, the import that follows is of the descriptor the new key is stored under, not of the
wrapping key that is loaded; in `create_operation` the import is of the key that is loaded. -/
theorem legacyImport_of_new_key_for_wrapping_key :
    (∀ (self : KeystoreSecurityLevel) (callerUid : Nat) (key wrappingKey : KeyDescriptor)
        (maskingKey : Option Blob) (params : List KeyParameter)
        (authenticators : List AuthenticatorSpec) (w : World η κ) (h₁ : η) (wrappedData : Blob),
      wrappedDataOf key = .ok wrappedData → wrappingKey.domain ≠ Domain.blob →
      env.checkKeyPermission .rebind (wrappedKeyDescriptor callerUid key) none = .ok () →
      env.loadKeyEntry w.host wrappingKey .client callerUid (env.checkKeyPermission .use) =
        (h₁, .error (.rc ResponseCode.keyNotFound)) →
      ∃ answer, w.log ++ [.loadKeyEntry wrappingKey .client callerUid
          (.error (.rc ResponseCode.keyNotFound)),
          .importLegacy (wrappedKeyDescriptor callerUid key) callerUid answer] <+:
        (self.importWrappedKey env callerUid key wrappingKey maskingKey params authenticators w).2.log) ∧
    (∀ (self : KeystoreSecurityLevel) (callerUid : Nat) (key : KeyDescriptor)
        (operationParameters : List KeyParameter) (forced : Bool) (fuel : Nat) (w : World η κ)
        (h₁ : η),
      key.domain ≠ Domain.blob →
      env.loadKeyEntry w.host key .client callerUid (usePermission env forced) =
        (h₁, .error (.rc ResponseCode.keyNotFound)) →
      ∃ answer, w.log ++ [.loadKeyEntry key .client callerUid (.error (.rc ResponseCode.keyNotFound)),
          .importLegacy key callerUid answer] <+:
        (self.createOperation env callerUid key operationParameters forced fuel w).2.log) := by
  refine ⟨fun self callerUid key wrappingKey _ _ _ w _ _ hwd hdom hperm hl => ?_,
    fun self _ _ _ _ fuel _ _ hdom hl => prefix_createOperation_legacy env self fuel hdom hl⟩
  obtain ⟨answer, h⟩ := LegacyImporter.prefix_withTryImport_load_notFound env
    (wrappedKeyDescriptor callerUid key)
    (env.getAfterFirstUnlockKeyByUserId w.host (env.uidToAndroidUser callerUid)) hl
  exact ⟨answer, h.trans (prefix_importWrappedKey_withTryImport env self hwd hdom hperm w)⟩

/-- A wrapping key still in the legacy database: the import asked for is of the new key. -/
theorem legacyImport_of_new_key_onLegacyWrappingKey :
    ∃ answer, [.loadKeyEntry ⟨Domain.app, 0, some "w", none⟩ .client 10001
        (.error (.rc ResponseCode.keyNotFound)),
        .importLegacy ⟨Domain.app, 10001, some "k", none⟩ 10001 answer] <+:
      (((⟨SecurityLevel.trustedEnvironment, ⟨100, SecurityLevel.trustedEnvironment, false⟩, ⟨1⟩⟩ :
          KeystoreSecurityLevel).importWrappedKey (Store.env Store.device) 10001
          ⟨Domain.app, 0, some "k", some [5]⟩ ⟨Domain.app, 0, some "w", none⟩ none [] []
          ⟨⟨[], [(⟨Domain.app, 10001, some "w", none⟩, ⟨some ([1], BlobMetaData.new), []⟩)], 0, 0⟩,
            (), []⟩).2.log) :=
  (legacyImport_of_new_key_for_wrapping_key (Store.env Store.device)).1 _ 10001
    ⟨Domain.app, 0, some "k", some [5]⟩ ⟨Domain.app, 0, some "w", none⟩ none [] []
    ⟨⟨[], [(⟨Domain.app, 10001, some "w", none⟩, ⟨some ([1], BlobMetaData.new), []⟩)], 0, 0⟩, (), []⟩
    _ [5] rfl (by decide) rfl rfl

/-- With the wrapping key in the legacy database, `import_wrapped_key` fails with
`KEY_NOT_FOUND` and leaves it there, while `create_operation` on the same key imports it and
succeeds. -/
theorem importWrappedKey_misses_legacy_wrapping_key :
    ((⟨SecurityLevel.trustedEnvironment, ⟨100, SecurityLevel.trustedEnvironment, false⟩, ⟨1⟩⟩ :
        KeystoreSecurityLevel).importWrappedKey (Store.env Store.device) 10001
        ⟨Domain.app, 0, some "k", some [5]⟩ ⟨Domain.app, 0, some "w", none⟩ none [] []
        ⟨⟨[], [(⟨Domain.app, 10001, some "w", none⟩, ⟨some ([1], BlobMetaData.new), []⟩)], 0, 0⟩,
          (), []⟩).1 = .error (.rc ResponseCode.keyNotFound) ∧
    ((⟨SecurityLevel.trustedEnvironment, ⟨100, SecurityLevel.trustedEnvironment, false⟩, ⟨1⟩⟩ :
        KeystoreSecurityLevel).importWrappedKey (Store.env Store.device) 10001
        ⟨Domain.app, 0, some "k", some [5]⟩ ⟨Domain.app, 0, some "w", none⟩ none [] []
        ⟨⟨[], [(⟨Domain.app, 10001, some "w", none⟩, ⟨some ([1], BlobMetaData.new), []⟩)], 0, 0⟩,
          (), []⟩).2.host.legacy =
      [(⟨Domain.app, 10001, some "w", none⟩, ⟨some ([1], BlobMetaData.new), []⟩)] ∧
    ∃ response, ((⟨SecurityLevel.trustedEnvironment, ⟨100, SecurityLevel.trustedEnvironment, false⟩,
        ⟨1⟩⟩ : KeystoreSecurityLevel).createOperation (Store.env Store.device) 10001
        ⟨Domain.app, 0, some "w", none⟩ [⟨Tag.purpose, .keyPurpose ⟨2⟩⟩] false 1
        ⟨⟨[], [(⟨Domain.app, 10001, some "w", none⟩, ⟨some ([1], BlobMetaData.new), []⟩)], 0, 0⟩,
          (), []⟩).1 = .ok response :=
  ⟨rfl, rfl, _, rfl⟩

/-! ### Stored blobs handed to the device -/

/-- Once the wrapping key loads and its blob is unwrapped, the next call is the device's
`importWrappedKey` on that blob, whatever engine the wrapping key's metadata names. -/
theorem prefix_importWrappedKey_device (self : KeystoreSecurityLevel) {callerUid : Nat}
    {key wrappingKey : KeyDescriptor} {maskingKey : Option Blob} {params : List KeyParameter}
    {authenticators : List AuthenticatorSpec} {wrappedData : Blob} {w : World η κ} {h₁ : η}
    {guard : KeyIdGuard} {entry : KeyEntry} {blob : Blob} {blobMetadata : BlobMetaData}
    {kmBlob : KeyBlob} (hwd : wrappedDataOf key = .ok wrappedData)
    (hdom : wrappingKey.domain ≠ Domain.blob)
    (hperm : env.checkKeyPermission .rebind (wrappedKeyDescriptor callerUid key) none = .ok ())
    (hl : env.loadKeyEntry w.host wrappingKey .client callerUid (env.checkKeyPermission .use) =
      (h₁, .ok (guard, entry)))
    (hb : entry.keyBlobInfo = some (blob, blobMetadata))
    (hu : env.unwrapKeyIfRequired h₁ blobMetadata blob = .ok kmBlob) :
    ∃ r, w.log ++
      [.loadKeyEntry wrappingKey .client callerUid (.ok (guard, entry)),
       .unwrapKeyIfRequired blobMetadata blob (.ok kmBlob),
       .importWrappedKey wrappedData kmBlob.bytes (maskingKey.getD (List.replicate 32 0)) params
         (authenticatorSid authenticators HardwareAuthenticatorType.password)
         (authenticatorSid authenticators HardwareAuthenticatorType.fingerprint) r] <+:
      (self.importWrappedKey env callerUid key wrappingKey maskingKey params authenticators w).2.log := by
  simp only [importWrappedKey, Ks.bind_apply, Ks.lift_apply, hwd, hperm, Ks.next_ok, if_neg hdom,
    Ks.pure_apply, Host.getAfterFirstUnlockKeyByUserId, LegacyImporter.withTryImport,
    Ks.attempt_apply, Host.loadKeyEntry, Ks.host_apply, hl, hb, Host.unwrapKeyIfRequired,
    Ks.read_apply, hu]
  exact ⟨_, List.IsPrefix.trans
    (by simp only [Km.importWrappedKey, Ks.km_apply, List.append_assoc, List.singleton_append]
        exact List.prefix_refl _)
    ((prefix_upgradeKeyblobIfRequiredWith env _ _ _ (fun _ => Ks.appends_km _ _) _).trans
      (Ks.prefix_next (fun ⟨_, _⟩ => storeNewKey_appends env _ _ _ _ _) _))⟩

/-- On the attestation path of a key of the caller's, once the parameters are complete, the
next call is `generateKey` with the attestation key's stored blob as it is, whatever engine its
metadata names. -/
theorem prefix_generateKey_userGenerated (self : KeystoreSecurityLevel) {callerUid : Nat}
    {key : KeyDescriptor} {attestKeyDescriptor : Option KeyDescriptor} {params : List KeyParameter}
    {flags : Int} {w w₂ : World η κ} {h₁ : η} {guard : KeyIdGuard} {blob : Blob}
    {blobMetadata : BlobMetaData} {issuerSubject : Blob} {completed : List KeyParameter}
    (hdom : key.domain ≠ Domain.blob) (halias : key.alias' ≠ none)
    (hperm : env.checkKeyPermission .rebind (newKeyDescriptor callerUid key) none = .ok ())
    (ha : env.getAttestKeyInfo w.host (newKeyDescriptor callerUid key) callerUid
      attestKeyDescriptor params =
        (h₁, .ok (some (.userGenerated guard blob blobMetadata issuerSubject))))
    (hp : self.addRequiredParameters env callerUid params (newKeyDescriptor callerUid key)
      { w with host := h₁, log := w.log ++ [.getAttestKeyInfo (newKeyDescriptor callerUid key)
        callerUid attestKeyDescriptor (.ok (some (.userGenerated guard blob blobMetadata
          issuerSubject)))] } = (.ok completed, w₂)) :
    ∃ r, w₂.log ++ [.generateKey completed (some ⟨blob, [], issuerSubject⟩) r] <+:
      (self.generateKey env callerUid key attestKeyDescriptor params flags w).2.log := by
  have hnew : (newKeyDescriptor callerUid key).domain ≠ Domain.blob := by simpa using hdom
  simp only [generateKey, Ks.bind_apply, hdom, halias, ne_eq, not_false_eq_true, and_false,
    if_false, Ks.pure_apply, Ks.next_ok, Ks.lift_apply, hperm, if_neg hnew, Host.getAttestKeyInfo,
    Ks.host_apply, ha, hp]
  exact ⟨_, List.IsPrefix.trans
    (by simp only [Km.generateKey, Ks.km_apply, KeyBlob.bytes]; exact List.prefix_refl _)
    ((prefix_upgradeKeyblobIfRequiredWith env _ _ _ (fun _ => Ks.appends_km _ _) _).trans
      (Ks.prefix_next (fun _ => Ks.appends_bind (Ks.appends_pure _) fun _ =>
        storeNewKey_appends env _ _ _ _ _) _))⟩

end KeystoreSecurityLevel

/-! ### Which blobs reach the engine -/

section EngineCheck

variable {η κ : Type} (env : Env η κ)


/-- The reference host whose attestation-key lookup answers a key of the caller's, of id `0`,
with blob `[1]` and metadata naming the engine with uuid `2`. -/
def foreignAttestEnv : Env Store Unit :=
  { Store.env Store.device with
    getAttestKeyInfo := fun s _ _ _ _ =>
      (s, .ok (some (.userGenerated ⟨0⟩ [1] ⟨some ⟨2⟩, []⟩ [9]))) }

end EngineCheck

end Keystore2
