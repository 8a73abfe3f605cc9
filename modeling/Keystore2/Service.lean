import Keystore2.KeyCreation

/-!
# The binder interface of a security level

`IKeystoreSecurityLevel` has six entry points. `createOperation`, `generateKey`, `importKey` and
`importWrappedKey` are the functions of the other modules; `convertStorageKeyToEphemeral` and
`deleteKey` hand a caller's own `BLOB` key to the device and refuse every other domain. A
request names the entry point and its arguments, and the caller's uid is the binder's.

The result of the module is that the service hands out a key blob only for a `BLOB` key: a
response to a request for a key of any other domain carries none, neither the stored blob, nor
the blob it unwraps to, nor the blob the device upgrades it to. A new key of such a domain is
answered with a `KEY_ID` descriptor.

The other way round, a `BLOB` key never reaches the key database, whatever the entry point: a
new one is handed back to the caller with the device's blob and never filed, and an operation on
one loads nothing and audits no key id.
-/

namespace Keystore2

variable {η κ : Type} (env : Env η κ)

namespace KeystoreSecurityLevel

/-- The blob of a descriptor, which must name one. -/
def specifiedBlob (key : KeyDescriptor) : Except Error Blob :=
  match key.blob with
  | some keyBlob => .ok keyBlob
  | none => .error (.km ErrorCode.invalidArgument)

/-- `convert_storage_key_to_ephemeral`: a blob the device asks to upgrade is upgraded, converted
again, and handed back beside the ephemeral key. -/
def convertStorageKeyToEphemeral (storageKey : KeyDescriptor) :
    Ks η κ EphemeralStorageKeyResponse := do
  if storageKey.domain ≠ Domain.blob then Ks.throw (.km ErrorCode.invalidArgument)
  let keyBlob ← Ks.lift (specifiedBlob storageKey)
  Ks.lift (env.checkKeyPermission .convertStorageKeyToEphemeral storageKey none)
  match ← Ks.attempt (Km.convertStorageKeyToEphemeral env keyBlob) with
  | .ok result => pure ⟨result, none⟩
  | .error e =>
    if e = .km ErrorCode.keyRequiresUpgrade then do
      let upgradedBlob ← Km.upgradeKey env keyBlob []
      let ephemeralKey ← Km.convertStorageKeyToEphemeral env upgradedBlob
      pure ⟨ephemeralKey, some upgradedBlob⟩
    else
      Ks.throw e

/-- `delete_key`. -/
def deleteKey (key : KeyDescriptor) : Ks η κ Unit := do
  if key.domain ≠ Domain.blob then Ks.throw (.km ErrorCode.invalidArgument)
  let keyBlob ← Ks.lift (specifiedBlob key)
  Ks.lift (env.checkKeyPermission .delete key none)
  Km.deleteKey env keyBlob

end KeystoreSecurityLevel

/-- A call of an entry point of `IKeystoreSecurityLevel`, with its arguments. -/
inductive SecurityLevelRequest where
  | createOperation (key : KeyDescriptor) (operationParameters : List KeyParameter) (forced : Bool)
  | generateKey (key : KeyDescriptor) (attestationKey : Option KeyDescriptor)
      (params : List KeyParameter) (flags : Int) (entropy : Blob)
  | importKey (key : KeyDescriptor) (attestationKey : Option KeyDescriptor)
      (params : List KeyParameter) (flags : Int) (keyData : Blob)
  | importWrappedKey (key wrappingKey : KeyDescriptor) (maskingKey : Option Blob)
      (params : List KeyParameter) (authenticators : List AuthenticatorSpec)
  | convertStorageKeyToEphemeral (storageKey : KeyDescriptor)
  | deleteKey (key : KeyDescriptor)
  deriving DecidableEq, Repr

/-- The descriptor of the key a request is about: the key of the operation, the new key, or the
storage key. -/
def SecurityLevelRequest.key : SecurityLevelRequest → KeyDescriptor
  | .createOperation key .. => key
  | .generateKey key .. => key
  | .importKey key .. => key
  | .importWrappedKey key .. => key
  | .convertStorageKeyToEphemeral storageKey => storageKey
  | .deleteKey key => key

/-- The answer of an entry point. -/
inductive SecurityLevelResponse where
  | operation (response : CreateOperationResponse)
  | keyMetadata (metadata : KeyMetadata)
  | ephemeralStorageKey (response : EphemeralStorageKeyResponse)
  | deleted
  deriving DecidableEq, Repr

/-- The key blob a response hands to the caller, if any. -/
def SecurityLevelResponse.keyBlob : SecurityLevelResponse → Option Blob
  | .operation response => response.upgradedBlob
  | .keyMetadata metadata => metadata.key.blob
  | .ephemeralStorageKey response => response.upgradedBlob
  | .deleted => none

namespace KeystoreSecurityLevel

/-- The entry points of `IKeystoreSecurityLevel`, for the caller `callerUid`, with `fuel` passes
of the begin loop. The entropy of `generateKey` goes unused, as in the source. -/
def handleRequest (self : KeystoreSecurityLevel) (callerUid fuel : Nat) :
    SecurityLevelRequest → Ks η κ SecurityLevelResponse
  | .createOperation key operationParameters forced => do
    pure (.operation (← self.createOperation env callerUid key operationParameters forced fuel))
  | .generateKey key attestationKey params flags _entropy => do
    pure (.keyMetadata (← self.generateKey env callerUid key attestationKey params flags))
  | .importKey key attestationKey params flags keyData => do
    pure (.keyMetadata (← self.importKey env callerUid key attestationKey params flags keyData))
  | .importWrappedKey key wrappingKey maskingKey params authenticators => do
    pure (.keyMetadata
      (← self.importWrappedKey env callerUid key wrappingKey maskingKey params authenticators))
  | .convertStorageKeyToEphemeral storageKey => do
    pure (.ephemeralStorageKey (← convertStorageKeyToEphemeral env storageKey))
  | .deleteKey key => do
    deleteKey env key
    pure .deleted

/-! ### What each entry point returns for a key that is not a `BLOB` key -/

/-- A descriptor that names a key by its id only. -/
def IsKeyIdDescriptor (key : KeyDescriptor) : Prop := ∃ keyId, key = ⟨Domain.keyId, keyId, none, none⟩

theorem wrappedKeyDescriptor_domain_ne_blob (callerUid : Nat) (key : KeyDescriptor) :
    (wrappedKeyDescriptor callerUid key).domain ≠ Domain.blob := by
  unfold wrappedKeyDescriptor
  split <;> dsimp only <;> decide

theorem storeNewKey_returns_keyId {self : KeystoreSecurityLevel} {key : KeyDescriptor}
    (creationResult : KeyCreationResult) (userId : Nat) (flags : Option Int)
    (hdom : key.domain ≠ Domain.blob) :
    Ks.Returns (self.storeNewKey env key creationResult userId flags) fun md =>
      IsKeyIdDescriptor md.key :=
  fun _ _ h => (storeNewKey_ok env h).2.2.2.2 hdom

theorem generateKey_returns_keyId (self : KeystoreSecurityLevel) (callerUid : Nat)
    {key : KeyDescriptor} (attestKeyDescriptor : Option KeyDescriptor) (params : List KeyParameter)
    (flags : Int) (hdom : key.domain ≠ Domain.blob) :
    Ks.Returns (self.generateKey env callerUid key attestKeyDescriptor params flags) fun md =>
      IsKeyIdDescriptor md.key := by
  have hnew : (newKeyDescriptor callerUid key).domain ≠ Domain.blob := by simpa using hdom
  unfold generateKey
  dsimp only
  split
  · exact Ks.returns_throw _ _
  refine Ks.returns_bind fun _ => Ks.returns_bind fun _ => Ks.returns_bind fun _ =>
    Ks.returns_bind fun _ => ?_
  -- the three ways of attesting the new key
  split
  · exact Ks.returns_bind fun _ => Ks.returns_bind fun _ => storeNewKey_returns_keyId env _ _ _ hnew
  · exact Ks.returns_bind fun _ => Ks.returns_bind fun _ => storeNewKey_returns_keyId env _ _ _ hnew
  · exact Ks.returns_bind fun _ => storeNewKey_returns_keyId env _ _ _ hnew

theorem importKey_returns_keyId (self : KeystoreSecurityLevel) (callerUid : Nat)
    {key : KeyDescriptor} (attestationKey : Option KeyDescriptor) (params : List KeyParameter)
    (flags : Int) (keyData : Blob) (hdom : key.domain ≠ Domain.blob) :
    Ks.Returns (self.importKey env callerUid key attestationKey params flags keyData) fun md =>
      IsKeyIdDescriptor md.key := by
  have hnew : (newKeyDescriptor callerUid key).domain ≠ Domain.blob := by simpa using hdom
  unfold importKey
  dsimp only
  split
  · exact Ks.returns_throw _ _
  exact Ks.returns_bind fun _ => Ks.returns_bind fun _ => Ks.returns_bind fun _ =>
    Ks.returns_bind fun _ => Ks.returns_bind fun _ => storeNewKey_returns_keyId env _ _ _ hnew

/-- A wrapped key is always filed under an `APP` or `SELINUX` descriptor. -/
theorem importWrappedKey_returns_keyId (self : KeystoreSecurityLevel) (callerUid : Nat)
    (key wrappingKey : KeyDescriptor) (maskingKey : Option Blob) (params : List KeyParameter)
    (authenticators : List AuthenticatorSpec) :
    Ks.Returns (self.importWrappedKey env callerUid key wrappingKey maskingKey params authenticators)
      fun md => IsKeyIdDescriptor md.key := by
  unfold importWrappedKey
  dsimp only
  refine Ks.returns_bind fun _ => ?_
  split
  · exact Ks.returns_throw _ _
  refine Ks.returns_bind fun _ => Ks.returns_bind fun _ => Ks.returns_bind fun _ =>
    Ks.returns_bind fun _ => ?_
  -- the wrapping key's entry has a blob, or the call fails
  split
  · exact Ks.returns_bind fun _ => Ks.returns_bind fun _ => Ks.returns_bind fun _ =>
      storeNewKey_returns_keyId env _ _ _ (wrappedKeyDescriptor_domain_ne_blob callerUid key)
  · exact Ks.returns_throw _ _

theorem operationResponse_upgradedBlob (callerUid : Nat) (key : KeyDescriptor) (forced : Bool)
    (authInfo : AuthInfo) (beginResult : BeginResult) (upgradedBlob : Option Blob) :
    Ks.Returns (operationResponse env callerUid key forced authInfo beginResult upgradedBlob)
      fun response => response.upgradedBlob =
        if key.domain = Domain.blob then upgradedBlob else none := by
  unfold operationResponse
  split
  · exact Ks.returns_bind fun _ => Ks.returns_pure rfl
  · exact Ks.returns_throw _ _

theorem createOperation_returns_no_blob (self : KeystoreSecurityLevel) (callerUid : Nat)
    {key : KeyDescriptor} (operationParameters : List KeyParameter) (forced : Bool) (fuel : Nat)
    (hdom : key.domain ≠ Domain.blob) :
    Ks.Returns (self.createOperation env callerUid key operationParameters forced fuel)
      fun response => response.upgradedBlob = none := by
  refine Ks.returns_bind fun _ => Ks.returns_bind fun _ => Ks.returns_bind fun _ =>
    Ks.returns_bind fun _ => Ks.returns_bind fun _ => fun w r h => ?_
  simpa [hdom] using operationResponse_upgradedBlob env _ _ _ _ _ _ w r h

theorem convertStorageKeyToEphemeral_of_non_blob {storageKey : KeyDescriptor}
    (hdom : storageKey.domain ≠ Domain.blob) (w : World η κ) :
    convertStorageKeyToEphemeral env storageKey w = (.error (.km ErrorCode.invalidArgument), w) := by
  simp [convertStorageKeyToEphemeral, hdom]

theorem deleteKey_of_non_blob {key : KeyDescriptor} (hdom : key.domain ≠ Domain.blob)
    (w : World η κ) : deleteKey env key w = (.error (.km ErrorCode.invalidArgument), w) := by
  simp [deleteKey, hdom]

/-! ### What the `BLOB`-key entry points do -/

/-- The calls of one run of `convert_storage_key_to_ephemeral` on the blob `keyBlob`, with its
result: the device converts the blob; or it asks for an upgrade and the upgrade fails; or the
upgraded blob is converted, and goes back beside the ephemeral key when that succeeds. -/
inductive ConvertRun (keyBlob : Blob) :
    List Event → Except Error EphemeralStorageKeyResponse → Prop
  | converted (answer : Except Error Blob)
      (hanswer : answer ≠ .error (.km ErrorCode.keyRequiresUpgrade)) :
      ConvertRun keyBlob [.convertStorageKeyToEphemeral keyBlob answer]
        (answer.map fun ephemeralKey => ⟨ephemeralKey, none⟩)
  | upgradeFailed (e : Error) :
      ConvertRun keyBlob
        [.convertStorageKeyToEphemeral keyBlob (.error (.km ErrorCode.keyRequiresUpgrade)),
          .upgradeKey keyBlob [] (.error e)] (.error e)
  | upgraded (upgradedBlob : Blob) (answer : Except Error Blob) :
      ConvertRun keyBlob
        [.convertStorageKeyToEphemeral keyBlob (.error (.km ErrorCode.keyRequiresUpgrade)),
          .upgradeKey keyBlob [] (.ok upgradedBlob),
          .convertStorageKeyToEphemeral upgradedBlob answer]
        (answer.map fun ephemeralKey => ⟨ephemeralKey, some upgradedBlob⟩)

section BlobKey

variable {storageKey : KeyDescriptor} {keyBlob : Blob} {w : World η κ} {k₁ k₂ k₃ : κ}

section Checked

variable (hdom : storageKey.domain = Domain.blob) (hb : storageKey.blob = some keyBlob)
  (hperm : env.checkKeyPermission .convertStorageKeyToEphemeral storageKey none = .ok ())
include hdom hb hperm

theorem convertStorageKeyToEphemeral_of_converted {answer : Except Error Blob}
    (h₁ : env.convertStorageKeyToEphemeral w.km keyBlob = (k₁, answer))
    (hanswer : answer ≠ .error (.km ErrorCode.keyRequiresUpgrade)) :
    convertStorageKeyToEphemeral env storageKey w =
      (answer.map fun ephemeralKey => ⟨ephemeralKey, none⟩,
        { w with km := k₁, log := w.log ++ [.convertStorageKeyToEphemeral keyBlob answer] }) := by
  rcases answer with e | ephemeralKey
  · have he : e ≠ .km ErrorCode.keyRequiresUpgrade := fun he => hanswer (he ▸ rfl)
    simp only [convertStorageKeyToEphemeral, hdom, hb, hperm, specifiedBlob, h₁, he, ne_eq,
      not_true_eq_false, ↓reduceIte, Km.convertStorageKeyToEphemeral, Ks.pure_bind, Ks.bind_apply,
      Ks.lift_apply, Ks.next_ok, Ks.attempt_apply, Ks.km_apply, Ks.throw_apply, Except.map]
  · simp only [convertStorageKeyToEphemeral, hdom, hb, hperm, specifiedBlob, h₁, ne_eq,
      not_true_eq_false, ↓reduceIte, Km.convertStorageKeyToEphemeral, Ks.pure_bind, Ks.bind_apply,
      Ks.lift_apply, Ks.next_ok, Ks.attempt_apply, Ks.km_apply, Ks.pure_apply, Except.map]

theorem convertStorageKeyToEphemeral_of_upgradeFailed {e : Error}
    (h₁ : env.convertStorageKeyToEphemeral w.km keyBlob =
      (k₁, .error (.km ErrorCode.keyRequiresUpgrade)))
    (h₂ : env.upgradeKey k₁ keyBlob [] = (k₂, .error e)) :
    convertStorageKeyToEphemeral env storageKey w =
      (.error e, { w with km := k₂, log := w.log ++
        [.convertStorageKeyToEphemeral keyBlob (.error (.km ErrorCode.keyRequiresUpgrade)),
          .upgradeKey keyBlob [] (.error e)] }) := by
  simp only [convertStorageKeyToEphemeral, hdom, hb, hperm, specifiedBlob, h₁, h₂, ne_eq,
    not_true_eq_false, ↓reduceIte, Km.convertStorageKeyToEphemeral, Km.upgradeKey, Ks.pure_bind,
    Ks.bind_apply, Ks.lift_apply, Ks.next_ok, Ks.next_error, Ks.attempt_apply, Ks.km_apply,
    List.append_assoc, List.singleton_append, List.nil_append]

theorem convertStorageKeyToEphemeral_of_upgraded {upgradedBlob : Blob}
    {answer : Except Error Blob}
    (h₁ : env.convertStorageKeyToEphemeral w.km keyBlob =
      (k₁, .error (.km ErrorCode.keyRequiresUpgrade)))
    (h₂ : env.upgradeKey k₁ keyBlob [] = (k₂, .ok upgradedBlob))
    (h₃ : env.convertStorageKeyToEphemeral k₂ upgradedBlob = (k₃, answer)) :
    convertStorageKeyToEphemeral env storageKey w =
      (answer.map fun ephemeralKey => ⟨ephemeralKey, some upgradedBlob⟩,
        { w with km := k₃, log := w.log ++
          [.convertStorageKeyToEphemeral keyBlob (.error (.km ErrorCode.keyRequiresUpgrade)),
            .upgradeKey keyBlob [] (.ok upgradedBlob),
            .convertStorageKeyToEphemeral upgradedBlob answer] }) := by
  rcases answer with e | ephemeralKey <;>
    simp only [convertStorageKeyToEphemeral, hdom, hb, hperm, specifiedBlob, h₁, h₂, h₃, ne_eq,
      not_true_eq_false, ↓reduceIte, Km.convertStorageKeyToEphemeral, Km.upgradeKey, Ks.pure_bind,
      Ks.bind_apply, Ks.lift_apply, Ks.next_ok, Ks.next_error, Ks.attempt_apply, Ks.km_apply,
      Ks.pure_apply, List.append_assoc, List.singleton_append, List.nil_append, List.cons_append,
      Except.map]

end Checked

/-- **Deleting a `BLOB` key.** Once the checks pass, the only call is the device's deletion of
the caller's blob, and its answer is the answer. -/
theorem deleteKey_runs {key : KeyDescriptor} (hdom : key.domain = Domain.blob)
    (hb : key.blob = some keyBlob) (hperm : env.checkKeyPermission .delete key none = .ok ())
    (w : World η κ) :
    deleteKey env key w = ((env.deleteKey w.km keyBlob).2,
      { w with km := (env.deleteKey w.km keyBlob).1,
               log := w.log ++ [.deleteKey keyBlob (env.deleteKey w.km keyBlob).2] }) := by
  simp [deleteKey, hdom, hb, hperm, specifiedBlob]

end BlobKey

/-- **No key blob for a key that is not a `BLOB` key.** Whatever the entry point, the domain,
the device's answers and the upgrades on the way, a successful response to a request for a key
that is not a `BLOB` key hands out no key blob, and a new key comes back as a `KEY_ID`
descriptor. -/
theorem handleRequest_no_blob_of_non_blob_key (self : KeystoreSecurityLevel) (callerUid fuel : Nat)
    (request : SecurityLevelRequest) (hdom : request.key.domain ≠ Domain.blob) :
    Ks.Returns (self.handleRequest env callerUid fuel request) fun response =>
      response.keyBlob = none ∧
        ∀ metadata, response = .keyMetadata metadata → IsKeyIdDescriptor metadata.key := by
  have keyMetadata : ∀ md : KeyMetadata, IsKeyIdDescriptor md.key →
      Ks.Returns (pure (.keyMetadata md) : Ks η κ SecurityLevelResponse) fun response =>
        response.keyBlob = none ∧
          ∀ metadata, response = .keyMetadata metadata → IsKeyIdDescriptor metadata.key := by
    rintro md ⟨keyId, hkey⟩
    exact Ks.returns_pure
      ⟨by simp [SecurityLevelResponse.keyBlob, hkey], fun _ h => by cases h; exact ⟨keyId, hkey⟩⟩
  cases request with
  | createOperation key operationParameters forced =>
    exact Ks.returns_bind_of_returns
      (createOperation_returns_no_blob env self callerUid operationParameters forced fuel hdom)
      fun _ hr => Ks.returns_pure ⟨hr, fun _ h => nomatch h⟩
  | generateKey key attestationKey params flags _ =>
    exact Ks.returns_bind_of_returns
      (generateKey_returns_keyId env self callerUid attestationKey params flags hdom) keyMetadata
  | importKey key attestationKey params flags keyData =>
    exact Ks.returns_bind_of_returns
      (importKey_returns_keyId env self callerUid attestationKey params flags keyData hdom)
      keyMetadata
  | importWrappedKey key wrappingKey maskingKey params authenticators =>
    exact Ks.returns_bind_of_returns (importWrappedKey_returns_keyId env self callerUid key
      wrappingKey maskingKey params authenticators) keyMetadata
  | convertStorageKeyToEphemeral storageKey =>
    intro w _ h
    have hdom : storageKey.domain ≠ Domain.blob := hdom
    simp [handleRequest, convertStorageKeyToEphemeral_of_non_blob env hdom] at h
  | deleteKey key =>
    intro w _ h
    have hdom : key.domain ≠ Domain.blob := hdom
    simp [handleRequest, deleteKey_of_non_blob env hdom] at h

/-- An operation on an `APP` key whose blob the device upgrades on the way: the operation is
created on the upgraded blob, and the upgraded blob stays inside. -/
theorem handleRequest_no_blob_onUpgradedKey :
    ∃ response, ((⟨SecurityLevel.trustedEnvironment, ⟨100, SecurityLevel.trustedEnvironment, false⟩,
        ⟨1⟩⟩ : KeystoreSecurityLevel).handleRequest (Store.env Store.device) 10001 1
        (.createOperation ⟨Domain.app, 0, some "k", none⟩ [⟨Tag.purpose, .keyPurpose ⟨2⟩⟩] false)
        ⟨(Store.empty.storeNewKey ⟨Domain.app, 10001, some "k", none⟩ [] ⟨[0], ⟨some ⟨1⟩, []⟩⟩).1,
          (), []⟩).1 = .ok response ∧
      ((⟨SecurityLevel.trustedEnvironment, ⟨100, SecurityLevel.trustedEnvironment, false⟩,
        ⟨1⟩⟩ : KeystoreSecurityLevel).handleRequest (Store.env Store.device) 10001 1
        (.createOperation ⟨Domain.app, 0, some "k", none⟩ [⟨Tag.purpose, .keyPurpose ⟨2⟩⟩] false)
        ⟨(Store.empty.storeNewKey ⟨Domain.app, 10001, some "k", none⟩ [] ⟨[0], ⟨some ⟨1⟩, []⟩⟩).1,
          (), []⟩).2.log.getLast? = some (.createOperation 0 10001 false true (.ok 0)) ∧
      response.keyBlob = none :=
  ⟨_, rfl, rfl, (handleRequest_no_blob_of_non_blob_key (Store.env Store.device)
    ⟨SecurityLevel.trustedEnvironment, ⟨100, SecurityLevel.trustedEnvironment, false⟩, ⟨1⟩⟩ 10001 1
    (.createOperation ⟨Domain.app, 0, some "k", none⟩ [⟨Tag.purpose, .keyPurpose ⟨2⟩⟩] false)
    (by decide)
    ⟨(Store.empty.storeNewKey ⟨Domain.app, 10001, some "k", none⟩ [] ⟨[0], ⟨some ⟨1⟩, []⟩⟩).1, (), []⟩
    (.operation ⟨some 0, none, none, none⟩) rfl).1⟩

/-! ### A new `BLOB` key stays with the caller -/

section NewBlobKey

variable {key : KeyDescriptor}

/-- The calls the creation of a `BLOB` key may make: the application-id and factory-reset reads
of `add_required_parameters` for the caller, and the clock; then, for a generated key
(`keyData = none`), the device's generation with no attestation key, and for an imported one, the
device's import of the caller's key data. -/
def isBlobKeyCreationCall (callerUid : Nat) (keyData : Option Blob) : Event → Bool
  | .getAaid uid _ => uid = callerUid
  | .hadFactoryResetSinceIdRotation _ => true
  | .generateKey _ attestKey _ => keyData.isNone && attestKey.isNone
  | .importKey _ _ data _ => keyData = some data
  | .now _ => true
  | _ => false

/-- Filing a `BLOB` key reads the clock and nothing else. -/
theorem storeNewKey_log_of_blob (self : KeystoreSecurityLevel) (hdom : key.domain = Domain.blob)
    (creationResult : KeyCreationResult) (userId : Nat) (flags : Option Int) (w : World η κ) :
    (self.storeNewKey env key creationResult userId flags w).2.log =
      w.log ++ [.now (env.now w.host).2] := by
  rcases hn : env.now w.host with ⟨h, _ | _⟩ <;> simp [storeNewKey, hdom, hn]

/-- For a `BLOB` key, `generate_key` looks up no attestation key. -/
theorem generateKey_of_blob (self : KeystoreSecurityLevel) (callerUid : Nat)
    (hdom : key.domain = Domain.blob) (attestKeyDescriptor : Option KeyDescriptor)
    (params : List KeyParameter) (flags : Int) :
    self.generateKey env callerUid key attestKeyDescriptor params flags = (do
      Ks.lift (env.checkKeyPermission .rebind key none)
      let params ← self.addRequiredParameters env callerUid params key
      let creationResult ← Km.generateKey env params none
      self.storeNewKey env key creationResult (env.uidToAndroidUser callerUid) (some flags)) := by
  have hkey : newKeyDescriptor callerUid key = key := if_neg (by rw [hdom]; decide)
  simp [generateKey, hdom, hkey]

theorem importKey_of_blob (self : KeystoreSecurityLevel) (callerUid : Nat)
    (hdom : key.domain = Domain.blob) (attestationKey : Option KeyDescriptor)
    (params : List KeyParameter) (flags : Int) (keyData : Blob) :
    self.importKey env callerUid key attestationKey params flags keyData = (do
      Ks.lift (env.checkKeyPermission .rebind key none)
      let params ← self.addRequiredParameters env callerUid params key
      let format ← Ks.lift (keyFormatOf params)
      let creationResult ← Km.importKey env params format keyData
      self.storeNewKey env key creationResult (env.uidToAndroidUser callerUid) (some flags)) := by
  have hkey : newKeyDescriptor callerUid key = key := if_neg (by rw [hdom]; decide)
  simp [importKey, hdom, hkey]

theorem addRequiredParameters_blobCreationCalls (self : KeystoreSecurityLevel) (callerUid : Nat)
    (keyData : Option Blob) (params : List KeyParameter) :
    Ks.Logs (self.addRequiredParameters env callerUid params key)
      (isBlobKeyCreationCall callerUid keyData · = true) :=
  addRequiredParameters_logs env (fun _ => decide_eq_true rfl) fun _ => rfl

theorem storeNewKey_blobCreationCalls (self : KeystoreSecurityLevel) (callerUid : Nat)
    (keyData : Option Blob) (hdom : key.domain = Domain.blob) (creationResult : KeyCreationResult)
    (userId : Nat) (flags : Option Int) :
    Ks.Logs (self.storeNewKey env key creationResult userId flags)
      (isBlobKeyCreationCall callerUid keyData · = true) :=
  fun w => ⟨_, storeNewKey_log_of_blob env self hdom _ _ _ w, fun _ he => by
    rw [List.mem_singleton.mp he]
    rfl⟩

theorem generateKey_logs_of_blob (self : KeystoreSecurityLevel) (callerUid : Nat)
    (hdom : key.domain = Domain.blob) (attestKeyDescriptor : Option KeyDescriptor)
    (params : List KeyParameter) (flags : Int) :
    Ks.Logs (self.generateKey env callerUid key attestKeyDescriptor params flags)
      (isBlobKeyCreationCall callerUid none · = true) := by
  rw [generateKey_of_blob env self callerUid hdom]
  exact Ks.logs_bind (Ks.logs_lift _) fun _ =>
    Ks.logs_bind (addRequiredParameters_blobCreationCalls env self callerUid _ _) fun _ =>
    Ks.logs_bind (Ks.logs_km fun _ => rfl) fun _ =>
    storeNewKey_blobCreationCalls env self callerUid _ hdom _ _ _

theorem importKey_logs_of_blob (self : KeystoreSecurityLevel) (callerUid : Nat)
    (hdom : key.domain = Domain.blob) (attestationKey : Option KeyDescriptor)
    (params : List KeyParameter) (flags : Int) (keyData : Blob) :
    Ks.Logs (self.importKey env callerUid key attestationKey params flags keyData)
      (isBlobKeyCreationCall callerUid (some keyData) · = true) := by
  rw [importKey_of_blob env self callerUid hdom]
  exact Ks.logs_bind (Ks.logs_lift _) fun _ =>
    Ks.logs_bind (addRequiredParameters_blobCreationCalls env self callerUid _ _) fun _ =>
    Ks.logs_bind (Ks.logs_lift _) fun _ =>
    Ks.logs_bind (Ks.logs_km fun _ => by simp [isBlobKeyCreationCall]) fun _ =>
    storeNewKey_blobCreationCalls env self callerUid _ hdom _ _ _

/-- A wrapped key is never a `BLOB` key. -/
theorem importWrappedKey_of_blob (self : KeystoreSecurityLevel) (callerUid : Nat)
    (hdom : key.domain = Domain.blob) (wrappingKey : KeyDescriptor) (maskingKey : Option Blob)
    (params : List KeyParameter) (authenticators : List AuthenticatorSpec) (w : World η κ) :
    self.importWrappedKey env callerUid key wrappingKey maskingKey params authenticators w =
      (.error (.km ErrorCode.invalidArgument), w) := by
  have hwrapped : wrappedDataOf key = .error (.km ErrorCode.invalidArgument) := by
    unfold wrappedDataOf
    split
    · rw [if_neg (by rw [hdom]; decide)]
    · rfl
  simp [importWrappedKey, hwrapped]

/-- **A new `BLOB` key stays with the caller.** For a `BLOB` descriptor, whatever the world and
however they end, `generate_key` and `import_key` make no call to the key database, the super-key
manager or the attestation-key lookup: only the reads of `add_required_parameters`, the device's
generation of the key with no attestation key whatever the caller named, or its import of the
caller's key data, and the clock. When they succeed, the device's creation and the clock are their
last two calls, and the key comes back as a `BLOB` descriptor holding the blob the device
returned. `import_wrapped_key` refuses a `BLOB` descriptor before any call. -/
theorem blob_key_stays_with_caller (self : KeystoreSecurityLevel) (callerUid : Nat)
    (hdom : key.domain = Domain.blob) :
    (∀ attestKeyDescriptor params flags,
      Ks.Logs (self.generateKey env callerUid key attestKeyDescriptor params flags)
        (isBlobKeyCreationCall callerUid none · = true) ∧
      ∀ w md, (self.generateKey env callerUid key attestKeyDescriptor params flags w).1 = .ok md →
        ∃ l p creationResult r,
          (self.generateKey env callerUid key attestKeyDescriptor params flags w).2.log =
            l ++ [.generateKey p none (.ok creationResult), .now r] ∧
          md.key = ⟨Domain.blob, 0, none, some creationResult.keyBlob⟩) ∧
    (∀ attestationKey params flags keyData,
      Ks.Logs (self.importKey env callerUid key attestationKey params flags keyData)
        (isBlobKeyCreationCall callerUid (some keyData) · = true) ∧
      ∀ w md, (self.importKey env callerUid key attestationKey params flags keyData w).1 = .ok md →
        ∃ l p format creationResult r,
          (self.importKey env callerUid key attestationKey params flags keyData w).2.log =
            l ++ [.importKey p format keyData (.ok creationResult), .now r] ∧
          md.key = ⟨Domain.blob, 0, none, some creationResult.keyBlob⟩) ∧
    ∀ wrappingKey maskingKey params authenticators (w : World η κ),
      self.importWrappedKey env callerUid key wrappingKey maskingKey params authenticators w =
        (.error (.km ErrorCode.invalidArgument), w) := by
  refine ⟨fun attestKeyDescriptor params flags =>
      ⟨generateKey_logs_of_blob env self callerUid hdom _ _ _, fun w md h => ?_⟩,
    fun attestationKey params flags keyData =>
      ⟨importKey_logs_of_blob env self callerUid hdom _ _ _ _, fun w md h => ?_⟩,
    importWrappedKey_of_blob env self callerUid hdom⟩
  · rw [generateKey_of_blob env self callerUid hdom] at h ⊢
    obtain ⟨_, w₁, h₁, h⟩ := Ks.ok_of_bind h
    obtain ⟨params', w₂, h₂, h⟩ := Ks.ok_of_bind h
    obtain ⟨creationResult, w₃, h₃, h⟩ := Ks.ok_of_bind h
    refine ⟨w₂.log, params', creationResult, (env.now w₃.host).2, ?_,
      (storeNewKey_ok env h).2.2.2.1 hdom⟩
    rw [Ks.bind_apply, h₁, Ks.next_ok, Ks.bind_apply, h₂, Ks.next_ok, Ks.bind_apply, h₃, Ks.next_ok,
      storeNewKey_log_of_blob env self hdom]
    simp only [Km.generateKey, Ks.km_apply, Prod.mk.injEq] at h₃
    obtain ⟨hans, rfl⟩ := h₃
    simp [hans]
  · rw [importKey_of_blob env self callerUid hdom] at h ⊢
    obtain ⟨_, w₁, h₁, h⟩ := Ks.ok_of_bind h
    obtain ⟨params', w₂, h₂, h⟩ := Ks.ok_of_bind h
    obtain ⟨format, w₃, h₃, h⟩ := Ks.ok_of_bind h
    obtain ⟨creationResult, w₄, h₄, h⟩ := Ks.ok_of_bind h
    refine ⟨w₃.log, params', format, creationResult, (env.now w₄.host).2, ?_,
      (storeNewKey_ok env h).2.2.2.1 hdom⟩
    rw [Ks.bind_apply, h₁, Ks.next_ok, Ks.bind_apply, h₂, Ks.next_ok, Ks.bind_apply, h₃, Ks.next_ok,
      Ks.bind_apply, h₄, Ks.next_ok, storeNewKey_log_of_blob env self hdom]
    simp only [Km.importKey, Ks.km_apply, Prod.mk.injEq] at h₄
    obtain ⟨hans, rfl⟩ := h₄
    simp [hans]

/-- An AES key generated as a `BLOB` key on the reference host, with an attestation key named:
the device generates it with no attestation key, and the caller gets the device's blob. -/
theorem blob_key_stays_with_caller_onStore :
    ∃ md, ((⟨SecurityLevel.trustedEnvironment, ⟨100, SecurityLevel.trustedEnvironment, false⟩,
        ⟨1⟩⟩ : KeystoreSecurityLevel).generateKey (Store.env Store.device) 10001
        ⟨Domain.blob, 0, none, none⟩ (some ⟨Domain.app, 0, some "attest", none⟩)
        [⟨Tag.algorithm, .algorithm Algorithm.aes⟩] 0 ⟨Store.empty, (), []⟩).1 = .ok md ∧
      ∃ l p creationResult r,
        ((⟨SecurityLevel.trustedEnvironment, ⟨100, SecurityLevel.trustedEnvironment, false⟩,
          ⟨1⟩⟩ : KeystoreSecurityLevel).generateKey (Store.env Store.device) 10001
          ⟨Domain.blob, 0, none, none⟩ (some ⟨Domain.app, 0, some "attest", none⟩)
          [⟨Tag.algorithm, .algorithm Algorithm.aes⟩] 0 ⟨Store.empty, (), []⟩).2.log =
          l ++ [.generateKey p none (.ok creationResult), .now r] ∧
        md.key = ⟨Domain.blob, 0, none, some creationResult.keyBlob⟩ :=
  ⟨_, rfl, ((@blob_key_stays_with_caller Store Unit (Store.env Store.device)
    ⟨Domain.blob, 0, none, none⟩
    ⟨SecurityLevel.trustedEnvironment, ⟨100, SecurityLevel.trustedEnvironment, false⟩, ⟨1⟩⟩ 10001
    rfl).1 _ _ _).2 _ _ rfl⟩

/-! ### No entry point takes a `BLOB` key to the key database -/

theorem isKeyDatabaseCall_of_isBlobKeyCreationCall {callerUid : Nat} {keyData : Option Blob}
    {e : Event} (h : isBlobKeyCreationCall callerUid keyData e = true) :
    e.isKeyDatabaseCall = false := by
  cases e <;> first | rfl | cases h

theorem convertStorageKeyToEphemeral_no_database (storageKey : KeyDescriptor) :
    Ks.Logs (convertStorageKeyToEphemeral env storageKey) (·.isKeyDatabaseCall = false) := by
  refine Ks.logs_ite (Ks.logs_bind (Ks.logs_throw _) fun _ => ?_)
    (Ks.logs_bind (Ks.logs_pure _) fun _ => ?_) <;>
  exact Ks.logs_bind (Ks.logs_lift _) fun _ => Ks.logs_bind (Ks.logs_lift _) fun _ =>
    Ks.logs_bind (Ks.logs_attempt (Ks.logs_km fun _ => rfl)) fun
      | .ok _ => Ks.logs_pure _
      | .error e => Ks.logs_ite (Ks.logs_bind (Ks.logs_km fun _ => rfl) fun _ =>
          Ks.logs_bind (Ks.logs_km fun _ => rfl) fun _ => Ks.logs_pure _) (Ks.logs_throw e)

theorem deleteKey_no_database (key : KeyDescriptor) :
    Ks.Logs (deleteKey env key) (·.isKeyDatabaseCall = false) := by
  refine Ks.logs_ite (Ks.logs_bind (Ks.logs_throw _) fun _ => ?_)
    (Ks.logs_bind (Ks.logs_pure _) fun _ => ?_) <;>
  exact Ks.logs_bind (Ks.logs_lift _) fun _ => Ks.logs_bind (Ks.logs_lift _) fun _ =>
    Ks.logs_km fun _ => rfl

/-- **A `BLOB` key never reaches the key database.** Whatever the entry point, the world, the
device's answers and however the request ends, a request about a `BLOB` key loads no key entry,
stores none, looks up no descriptor by its id, imports no legacy key, and looks up or stores no
attestation key. -/
theorem handleRequest_blob_key_no_database (self : KeystoreSecurityLevel) (callerUid fuel : Nat)
    (request : SecurityLevelRequest) (hdom : request.key.domain = Domain.blob) :
    Ks.Logs (self.handleRequest env callerUid fuel request) (·.isKeyDatabaseCall = false) := by
  have hcreation : ∀ {x : Ks η κ KeyMetadata} {keyData : Option Blob},
      Ks.Logs x (isBlobKeyCreationCall callerUid keyData · = true) →
      Ks.Logs (x >>= fun md => (pure (.keyMetadata md) : Ks η κ SecurityLevelResponse))
        (·.isKeyDatabaseCall = false) :=
    fun hx => Ks.logs_bind (hx.mono fun _ => isKeyDatabaseCall_of_isBlobKeyCreationCall)
      fun _ => Ks.logs_pure _
  cases request with
  | createOperation key operationParameters forced =>
    exact Ks.logs_bind (createOperation_no_database env self callerUid operationParameters forced
      fuel hdom) fun _ => Ks.logs_pure _
  | generateKey key attestationKey params flags _ =>
    exact hcreation (generateKey_logs_of_blob env self callerUid hdom attestationKey params flags)
  | importKey key attestationKey params flags keyData =>
    exact hcreation (importKey_logs_of_blob env self callerUid hdom attestationKey params flags keyData)
  | importWrappedKey key wrappingKey maskingKey params authenticators =>
    have hdom : key.domain = Domain.blob := hdom
    exact Ks.logs_bind (Ks.logs_of_log_eq fun w => by
      rw [importWrappedKey_of_blob env self callerUid hdom]) fun _ => Ks.logs_pure _
  | convertStorageKeyToEphemeral storageKey =>
    exact Ks.logs_bind (convertStorageKeyToEphemeral_no_database env storageKey) fun _ =>
      Ks.logs_pure _
  | deleteKey key =>
    exact Ks.logs_bind (deleteKey_no_database env key) fun _ => Ks.logs_pure _

/-- An operation on a `BLOB` key in the old blob format: the device asks for the upgrade, the
upgraded blob goes back to the caller, and the key database is never called. -/
theorem handleRequest_blob_key_no_database_onOldBlob :
    ((⟨SecurityLevel.trustedEnvironment, ⟨100, SecurityLevel.trustedEnvironment, false⟩,
        ⟨1⟩⟩ : KeystoreSecurityLevel).handleRequest (Store.env Store.device) 10001 1
        (.createOperation ⟨Domain.blob, 0, none, some [0]⟩ [⟨Tag.purpose, .keyPurpose ⟨2⟩⟩] false)
        ⟨Store.empty, (), []⟩).1 = .ok (.operation ⟨some 0, none, none, some [1]⟩) ∧
    ∃ l, ((⟨SecurityLevel.trustedEnvironment, ⟨100, SecurityLevel.trustedEnvironment, false⟩,
        ⟨1⟩⟩ : KeystoreSecurityLevel).handleRequest (Store.env Store.device) 10001 1
        (.createOperation ⟨Domain.blob, 0, none, some [0]⟩ [⟨Tag.purpose, .keyPurpose ⟨2⟩⟩] false)
        ⟨Store.empty, (), []⟩).2.log = [] ++ l ∧ ∀ e ∈ l, e.isKeyDatabaseCall = false :=
  ⟨rfl, handleRequest_blob_key_no_database (Store.env Store.device)
    ⟨SecurityLevel.trustedEnvironment, ⟨100, SecurityLevel.trustedEnvironment, false⟩, ⟨1⟩⟩ 10001 1
    (.createOperation ⟨Domain.blob, 0, none, some [0]⟩ [⟨Tag.purpose, .keyPurpose ⟨2⟩⟩] false) rfl
    ⟨Store.empty, (), []⟩⟩
end NewBlobKey

end KeystoreSecurityLevel

end Keystore2
