import Keystore2.Database

/-!
# The world keystore2 runs against

The collaborators of the core that are not in src are the KeyMint device, and the host side: the
database with the legacy importer, the super keys, the enforcements and the operation table. Each
is a state machine the model knows nothing about. Its state is a type parameter (`κ` for the
device, `η` for the host) and its answers are arbitrary functions of that state, so a theorem
about the model holds for every device and every store, and a device call cannot touch the store.

A computation `Ks η κ α` threads both states and a log of the calls made, each with the answer it
got, and fails with an `Error` keeping what it did, as a Rust function returning `Result` does.
-/

namespace Keystore2

/-- `AttestationKeyInfo` of `attestation_key_utils`. -/
inductive AttestationKeyInfo where
  | rkpdProvisioned (attestationKey : AttestationKey) (attestationCerts : Blob)
  | userGenerated (keyIdGuard : KeyIdGuard) (blob : Blob) (blobMetadata : BlobMetaData)
      (issuerSubject : Blob)
  deriving DecidableEq, Repr

/-- The authorization `ENFORCEMENTS.authorize_create` hands out for one operation. -/
structure AuthInfo where
  id : Nat
  deriving DecidableEq, Repr

/-- A call of the service to a collaborator, with the answer it got. -/
inductive Event where
  | getKeyCharacteristics (keyBlob : Blob) (answer : Except Error (List KeyCharacteristics))
  | upgradeKey (keyBlob : Blob) (params : List KeyParameter) (answer : Except Error Blob)
  | begin (purpose : KeyPurpose) (keyBlob : Blob) (params : List KeyParameter)
      (authToken : Option HardwareAuthToken) (answer : Except Error BeginResult)
  | generateKey (params : List KeyParameter) (attestKey : Option AttestationKey)
      (answer : Except Error KeyCreationResult)
  | importKey (params : List KeyParameter) (format : KeyFormat) (keyData : Blob)
      (answer : Except Error KeyCreationResult)
  | importWrappedKey (wrappedData wrappingBlob maskingKey : Blob) (params : List KeyParameter)
      (pwSid fpSid : Int) (answer : Except Error KeyCreationResult)
  | convertStorageKeyToEphemeral (keyBlob : Blob) (answer : Except Error Blob)
  | deleteKey (keyBlob : Blob) (answer : Except Error Unit)
  | loadKeyEntry (key : KeyDescriptor) (keyType : KeyType) (callerUid : Nat)
      (answer : Except Error (KeyIdGuard × KeyEntry))
  | storeNewKey (key : KeyDescriptor) (keyType : KeyType) (params : List KsKeyParam)
      (blobInfo : BlobInfo) (certInfo : CertificateInfo) (metadata : KeyMetaData) (kmUuid : Uuid)
      (answer : Except Error KeyIdGuard)
  | loadKeyDescriptor (keyId : Int) (answer : Except Error (Option KeyDescriptor))
  | logKeyIntegrityViolation (key : KeyDescriptor)
  | importLegacy (key : KeyDescriptor) (callerUid : Nat) (answer : Except Error Unit)
  | getAttestKeyInfo (key : KeyDescriptor) (callerUid : Nat)
      (attestKeyDescriptor : Option KeyDescriptor) (answer : Except Error (Option AttestationKeyInfo))
  | storeRkpdAttestationKey (rpcName : String) (keyBlob upgradedBlob : Blob)
      (answer : Except Error Unit)
  | unwrapKeyIfRequired (metadata : BlobMetaData) (blob : Blob) (answer : Except Error KeyBlob)
  | reencryptIfRequired (keyBlob : KeyBlob) (upgradedBlob : Blob)
      (answer : Except Error (Blob × Option BlobMetaData))
  | handleSuperEncryptionOnKeyInit (domain : Domain) (blob : Blob)
      (answer : Except Error (Blob × BlobMetaData))
  | authorizeCreate (purpose : KeyPurpose) (params : List KeyParameter)
      (answer : Except Error (Option HardwareAuthToken × AuthInfo))
  | prune (callerUid : Nat) (forced : Bool) (answer : Except Error Unit)
  | createOperation (kmOp : Nat) (callerUid : Nat) (forced : Bool) (keyUpgraded : Bool)
      (answer : Except Error Nat)
  | getAaid (uid : Nat) (answer : Except Error (Except Int Blob))
  | hadFactoryResetSinceIdRotation (answer : Except Error Bool)
  | now (answer : Except Error Int)

/-- The calls that read or write stored keys: a key entry loaded or stored, a descriptor looked
up by id, a legacy key imported, an attestation key looked up, a remotely provisioned key
stored. -/
def Event.isKeyDatabaseCall : Event → Bool
  | .loadKeyEntry .. => true
  | .storeNewKey .. => true
  | .loadKeyDescriptor .. => true
  | .importLegacy .. => true
  | .getAttestKeyInfo .. => true
  | .storeRkpdAttestationKey .. => true
  | _ => false

/-- `IKeyMintDevice`: each call acts on the device's state `κ`. -/
structure Device (κ : Type) where
  getKeyCharacteristics : κ → Blob → κ × Except Error (List KeyCharacteristics)
  upgradeKey : κ → Blob → List KeyParameter → κ × Except Error Blob
  begin : κ → KeyPurpose → Blob → List KeyParameter → Option HardwareAuthToken →
    κ × Except Error BeginResult
  generateKey : κ → List KeyParameter → Option AttestationKey → κ × Except Error KeyCreationResult
  importKey : κ → List KeyParameter → KeyFormat → Blob → κ × Except Error KeyCreationResult
  importWrappedKey : κ → Blob → Blob → Blob → List KeyParameter → Int → Int →
    κ × Except Error KeyCreationResult
  convertStorageKeyToEphemeral : κ → Blob → κ × Except Error Blob
  deleteKey : κ → Blob → κ × Except Error Unit

/-- The collaborators: the device, the host's calls, which act on `η`, and fixed functions of
their arguments (the policy, and helpers of `utils.rs`). -/
structure Env (η κ : Type) extends Device κ where
  /-- `KeystoreDB::load_key_entry`, which calls back the permission check it is handed. -/
  loadKeyEntry : η → KeyDescriptor → KeyType → Nat →
    (KeyDescriptor → Option (List KeyPerm) → Except Error Unit) →
    η × Except Error (KeyIdGuard × KeyEntry)
  storeNewKey : η → KeyDescriptor → KeyType → List KsKeyParam → BlobInfo → CertificateInfo →
    KeyMetaData → Uuid → η × Except Error KeyIdGuard
  loadKeyDescriptor : η → Int → η × Except Error (Option KeyDescriptor)
  logKeyIntegrityViolation : η → KeyDescriptor → η
  /-- The import `LEGACY_IMPORTER.with_try_import` makes of the legacy entry of a descriptor. -/
  importLegacy : η → KeyDescriptor → Nat → Option SuperKey → η × Except Error Unit
  getAttestKeyInfo : η → KeyDescriptor → Nat → Option KeyDescriptor → List KeyParameter →
    η × Except Error (Option AttestationKeyInfo)
  /-- `rkpd_client::store_rkpd_attestation_key`, for the named remotely provisioned component. -/
  storeRkpdAttestationKey : η → String → Blob → Blob → η × Except Error Unit
  getAfterFirstUnlockKeyByUserId : η → Nat → Option SuperKey
  unwrapKeyIfRequired : η → BlobMetaData → Blob → Except Error KeyBlob
  reencryptIfRequired : η → KeyBlob → Blob → Except Error (Blob × Option BlobMetaData)
  handleSuperEncryptionOnKeyInit : η → Domain → List KsKeyParam → Option Int → Nat → Blob →
    η × Except Error (Blob × BlobMetaData)
  authorizeCreate : η → KeyPurpose → Option (Int × List KsKeyParam) → List KeyParameter → Bool →
    η × Except Error (Option HardwareAuthToken × AuthInfo)
  finalizeCreateAuthorization : AuthInfo → Int → Option Int
  prune : η → Nat → Bool → η × Except Error Unit
  /-- `operation_db.create_operation` followed by the `IKeystoreOperation` binder for it. -/
  createOperation : η → Nat → Nat → AuthInfo → Bool → Bool → η × Except Error Nat
  getAaid : η → Nat → Except Int Blob
  hadFactoryResetSinceIdRotation : η → Int → Except Error Bool
  /-- `DateTime::now()`: the clock in milliseconds since the epoch, or the failure to read it. -/
  now : η → η × Except Error Int
  /-- `SystemTime::now()`, in milliseconds from the epoch (negative before it). -/
  systemTime : η → Int
  checkKeyPermission : KeyPerm → KeyDescriptor → Option (List KeyPerm) → Except Error Unit
  checkUniqueIdAttestationPermissions : Except Error Unit
  checkDeviceAttestationPermissions : Except Error Unit
  isDeviceIdAttestationTag : Tag → Bool
  keyCharacteristicsToInternal : List KeyCharacteristics → List KsKeyParam
  keyParametersToAuthorizations : List KsKeyParam → List KsKeyParam
  /-- The service manager's `is_declared`, for an instance name. -/
  isDeclared : String → Except Error Bool
  /-- The AIDL descriptor of `IRemotelyProvisionedComponent`. -/
  remoteProvDescriptor : String
  uidToAndroidUser : Nat → Nat
  /-- `AID_KEYSTORE`, the uid keystore2's own keys belong to. -/
  aidKeystore : Nat
  undefinedNotAfter : Int
  /-- The system property `remote_provisioning.use_cert_processor`. -/
  useCertProcessor : Bool
  processCertificateChain : List Certificate → Blob → List Certificate

/-- What keystore2 runs against: the host's state, the device's state, and the calls made so far,
oldest first. -/
structure World (η κ : Type) where
  host : η
  km : κ
  log : List Event

/-- A computation of the service. -/
def Ks (η κ α : Type) : Type := World η κ → Except Error α × World η κ

namespace Ks

variable {η κ α β : Type}

/-- Goes on from what a step left: into `f` after `Ok`, straight out after `Err`. -/
def next (f : α → Ks η κ β) : Except Error α × World η κ → Except Error β × World η κ
  | (.ok a, w) => f a w
  | (.error e, w) => (.error e, w)

instance : Monad (Ks η κ) where
  pure a := fun w => (.ok a, w)
  bind x f := fun w => next f (x w)

def throw (e : Error) : Ks η κ α := fun w => (.error e, w)

/-- `?` on a `Result` computed without effects. -/
def lift (r : Except Error α) : Ks η κ α := fun w => (r, w)

/-- The `Result` of `x` as a value, as a `match` on a call sees it. -/
def attempt (x : Ks η κ α) : Ks η κ (Except Error α) := fun w =>
  match x w with
  | (r, w') => (.ok r, w')

/-- A call to the device, logged with its answer. -/
def km (op : κ → κ × Except Error α) (ev : Except Error α → Event) : Ks η κ α := fun w =>
  match op w.km with
  | (k, r) => (r, { w with km := k, log := w.log ++ [ev r] })

/-- A call to the host, logged with its answer. -/
def host (op : η → η × Except Error α) (ev : Except Error α → Event) : Ks η κ α := fun w =>
  match op w.host with
  | (h, r) => (r, { w with host := h, log := w.log ++ [ev r] })

/-- A read of the host, logged with its answer. -/
def read (op : η → Except Error α) (ev : Except Error α → Event) : Ks η κ α :=
  host (fun h => (h, op h)) ev

@[simp]
theorem pure_apply (a : α) (w : World η κ) : (pure a : Ks η κ α) w = (.ok a, w) := rfl

@[simp]
theorem bind_apply (x : Ks η κ α) (f : α → Ks η κ β) (w : World η κ) :
    (x >>= f) w = next f (x w) := rfl

@[simp]
theorem next_ok (f : α → Ks η κ β) (a : α) (w : World η κ) : next f (.ok a, w) = f a w := rfl

@[simp]
theorem next_error (f : α → Ks η κ β) (e : Error) (w : World η κ) :
    next f (.error e, w) = (.error e, w) := rfl

@[simp]
theorem pure_bind (a : α) (f : α → Ks η κ β) : (pure a >>= f : Ks η κ β) = f a := rfl

@[simp]
theorem next_next {γ : Type} (f : α → Ks η κ β) (g : β → Ks η κ γ)
    (x : Except Error α × World η κ) : next g (next f x) = next (fun a => f a >>= g) x := by
  obtain ⟨_ | _, _⟩ := x <;> rfl

@[simp]
theorem next_pure_snd (g : α → β) (x : Except Error α × World η κ) :
    (next (fun a => (pure (g a) : Ks η κ β)) x).2 = x.2 := by
  obtain ⟨_ | _, _⟩ := x <;> rfl

/-- A bound computation that succeeds went through a first step that succeeded. -/
theorem ok_of_bind {x : Ks η κ α} {f : α → Ks η κ β} {w : World η κ} {b : β}
    (h : ((x >>= f) w).1 = .ok b) : ∃ a w', x w = (.ok a, w') ∧ (f a w').1 = .ok b := by
  rcases hx : x w with ⟨_ | a, w'⟩
  · simp [hx] at h
  · exact ⟨a, w', rfl, by simpa [hx] using h⟩

theorem eq_of_fst {x : Except Error α × World η κ} {r : Except Error α} (h : x.1 = r) :
    x = (r, x.2) :=
  Prod.ext h rfl

theorem next_of_fst_ok {f : α → Ks η κ β} {x : Except Error α × World η κ} {a : α}
    (h : x.1 = .ok a) : next f x = f a x.2 := by
  obtain ⟨_ | _, _⟩ := x <;> cases h
  rfl

theorem next_of_fst_error {f : α → Ks η κ β} {x : Except Error α × World η κ} {e : Error}
    (h : x.1 = .error e) : next f x = (.error e, x.2) := by
  obtain ⟨_ | _, _⟩ := x <;> cases h
  rfl

@[simp]
theorem throw_apply (e : Error) (w : World η κ) : (throw e : Ks η κ α) w = (.error e, w) := rfl

@[simp]
theorem lift_apply (r : Except Error α) (w : World η κ) : (lift r : Ks η κ α) w = (r, w) := rfl

@[simp]
theorem attempt_apply (x : Ks η κ α) (w : World η κ) : attempt x w = (.ok (x w).1, (x w).2) := rfl

@[simp]
theorem km_apply (op : κ → κ × Except Error α) (ev : Except Error α → Event) (w : World η κ) :
    km op ev w = ((op w.km).2, { w with km := (op w.km).1, log := w.log ++ [ev (op w.km).2] }) :=
  rfl

@[simp]
theorem host_apply (op : η → η × Except Error α) (ev : Except Error α → Event) (w : World η κ) :
    host op ev w =
      ((op w.host).2, { w with host := (op w.host).1, log := w.log ++ [ev (op w.host).2] }) :=
  rfl

@[simp]
theorem read_apply (op : η → Except Error α) (ev : Except Error α → Event) (w : World η κ) :
    read op ev w = (op w.host, { w with log := w.log ++ [ev (op w.host)] }) := rfl

/-! ### The log only grows

A computation of the service never takes a call back: what was logged before it stays a prefix
of the log after it. Each function of the model gets this from the rules below. -/

/-- `x` only adds calls to the log. -/
def Appends (x : Ks η κ α) : Prop := ∀ w, w.log <+: (x w).2.log

theorem appends_pure (a : α) : Appends (pure a : Ks η κ α) := fun _ => List.prefix_refl _

theorem appends_throw (e : Error) : Appends (throw e : Ks η κ α) := fun _ => List.prefix_refl _

theorem appends_lift (r : Except Error α) : Appends (lift r : Ks η κ α) := fun _ => List.prefix_refl _

theorem appends_km (op : κ → κ × Except Error α) (ev : Except Error α → Event) :
    Appends (km op ev : Ks η κ α) := fun _ => List.prefix_append _ _

theorem appends_host (op : η → η × Except Error α) (ev : Except Error α → Event) :
    Appends (host op ev : Ks η κ α) := fun _ => List.prefix_append _ _

theorem appends_read (op : η → Except Error α) (ev : Except Error α → Event) :
    Appends (read op ev : Ks η κ α) := fun _ => List.prefix_append _ _

theorem appends_attempt {x : Ks η κ α} (hx : Appends x) : Appends (attempt x) := hx

/-- What a step logged stays in the log of everything after it. -/
theorem prefix_next {f : α → Ks η κ β} (hf : ∀ a, Appends (f a)) (x : Except Error α × World η κ) :
    x.2.log <+: (next f x).2.log := by
  obtain ⟨_ | a, w⟩ := x
  · exact List.prefix_refl _
  · exact hf a w

theorem appends_bind {x : Ks η κ α} {f : α → Ks η κ β} (hx : Appends x)
    (hf : ∀ a, Appends (f a)) : Appends (x >>= f) :=
  fun w => (hx w).trans (prefix_next hf (x w))

theorem appends_ite {c : Prop} [Decidable c] {x y : Ks η κ α} (hx : Appends x) (hy : Appends y) :
    Appends (if c then x else y) := by
  split <;> assumption

/-! ### What a call returns

A postcondition on the values a computation returns, whatever it does to the world and however
it may fail; only the last steps of a computation decide it. -/

/-- Every value `x` returns satisfies `P`. -/
def Returns (x : Ks η κ α) (P : α → Prop) : Prop := ∀ w a, (x w).1 = .ok a → P a

theorem returns_pure {a : α} {P : α → Prop} (h : P a) : Returns (pure a : Ks η κ α) P := by
  rintro w b ⟨⟩
  exact h

theorem returns_throw (e : Error) (P : α → Prop) : Returns (throw e : Ks η κ α) P :=
  fun _ _ h => nomatch h

theorem returns_bind {x : Ks η κ α} {f : α → Ks η κ β} {P : β → Prop}
    (hf : ∀ a, Returns (f a) P) : Returns (x >>= f) P := fun _ _ h =>
  have ⟨a, w', _, h'⟩ := ok_of_bind h
  hf a w' _ h'

/-- A value the continuation receives is one the first step returns. -/
theorem returns_bind_of_returns {x : Ks η κ α} {f : α → Ks η κ β} {Q : α → Prop} {P : β → Prop}
    (hx : Returns x Q) (hf : ∀ a, Q a → Returns (f a) P) : Returns (x >>= f) P := fun w _ h =>
  have ⟨a, w', hxw, h'⟩ := ok_of_bind h
  hf a (hx w a (by rw [hxw])) w' _ h'

theorem returns_ite {c : Prop} [Decidable c] {x y : Ks η κ α} {P : α → Prop} (hx : Returns x P)
    (hy : Returns y P) : Returns (if c then x else y) P := by
  split <;> assumption

/-! ### Which calls a computation makes

A property of every call a computation adds to the log, whatever the world and however it ends;
each call the code makes must have it. -/

/-- Every call `x` adds to the log satisfies `P`. -/
def Logs (x : Ks η κ α) (P : Event → Prop) : Prop :=
  ∀ w, ∃ l, (x w).2.log = w.log ++ l ∧ ∀ e ∈ l, P e

variable {P : Event → Prop}

/-- A step that makes no call. -/
theorem logs_of_log_eq {x : Ks η κ α} (h : ∀ w, (x w).2.log = w.log) : Logs x P :=
  fun w => ⟨[], by rw [h, List.append_nil], fun _ h => nomatch h⟩

theorem logs_pure (a : α) : Logs (pure a : Ks η κ α) P := logs_of_log_eq fun _ => rfl

theorem logs_throw (e : Error) : Logs (throw e : Ks η κ α) P := logs_of_log_eq fun _ => rfl

theorem logs_lift (r : Except Error α) : Logs (lift r : Ks η κ α) P := logs_of_log_eq fun _ => rfl

theorem logs_km {op : κ → κ × Except Error α} {ev : Except Error α → Event} (h : ∀ r, P (ev r)) :
    Logs (km op ev : Ks η κ α) P :=
  fun _ => ⟨[_], rfl, by simpa using h _⟩

theorem logs_host {op : η → η × Except Error α} {ev : Except Error α → Event} (h : ∀ r, P (ev r)) :
    Logs (host op ev : Ks η κ α) P :=
  fun _ => ⟨[_], rfl, by simpa using h _⟩

theorem logs_read {op : η → Except Error α} {ev : Except Error α → Event} (h : ∀ r, P (ev r)) :
    Logs (read op ev : Ks η κ α) P :=
  logs_host h

theorem logs_next {f : α → Ks η κ β} (hf : ∀ a, Logs (f a) P) (x : Except Error α × World η κ) :
    ∃ l, (next f x).2.log = x.2.log ++ l ∧ ∀ e ∈ l, P e := by
  obtain ⟨_ | a, w⟩ := x
  · exact ⟨[], (List.append_nil _).symm, fun _ h => nomatch h⟩
  · exact hf a w

theorem logs_bind {x : Ks η κ α} {f : α → Ks η κ β} (hx : Logs x P) (hf : ∀ a, Logs (f a) P) :
    Logs (x >>= f) P := fun w =>
  have ⟨l₁, h₁, p₁⟩ := hx w
  have ⟨l₂, h₂, p₂⟩ := logs_next hf (x w)
  ⟨l₁ ++ l₂, by rw [bind_apply, h₂, h₁, List.append_assoc],
    fun e he => (List.mem_append.mp he).elim (p₁ e) (p₂ e)⟩

theorem logs_ite {c : Prop} [Decidable c] {x y : Ks η κ α} (hx : Logs x P) (hy : Logs y P) :
    Logs (if c then x else y) P := by
  split <;> assumption

theorem logs_attempt {x : Ks η κ α} (hx : Logs x P) : Logs (attempt x) P := hx

theorem Logs.mono {x : Ks η κ α} {Q : Event → Prop} (hx : Logs x P) (h : ∀ e, P e → Q e) :
    Logs x Q := fun w =>
  have ⟨l, hl, hp⟩ := hx w
  ⟨l, hl, fun e he => h e (hp e he)⟩

/-- The continuation runs only on values the first step returns. -/
theorem logs_bind_of_returns {x : Ks η κ α} {f : α → Ks η κ β} {Q : α → Prop} (hx : Logs x P)
    (hq : Returns x Q) (hf : ∀ a, Q a → Logs (f a) P) : Logs (x >>= f) P := fun w => by
  obtain ⟨l₁, h₁, p₁⟩ := hx w
  rcases hxw : x w with ⟨_ | a, w'⟩ <;> rw [hxw] at h₁
  · exact ⟨l₁, by rw [bind_apply, hxw, next_error]; exact h₁, p₁⟩
  · obtain ⟨l₂, h₂, p₂⟩ := hf a (hq w a (by rw [hxw])) w'
    exact ⟨l₁ ++ l₂, by rw [bind_apply, hxw, next_ok, h₂, h₁, List.append_assoc],
      fun e he => (List.mem_append.mp he).elim (p₁ e) (p₂ e)⟩

end Ks

/-! ### The calls

One computation per call the code makes, named as the code names the callee. -/

variable {η κ : Type} (env : Env η κ)

namespace Km

@[simp]
def getKeyCharacteristics (keyBlob : Blob) : Ks η κ (List KeyCharacteristics) :=
  Ks.km (env.getKeyCharacteristics · keyBlob) (.getKeyCharacteristics keyBlob)

@[simp]
def upgradeKey (keyBlob : Blob) (params : List KeyParameter) : Ks η κ Blob :=
  Ks.km (env.upgradeKey · keyBlob params) (.upgradeKey keyBlob params)

@[simp]
def begin (purpose : KeyPurpose) (keyBlob : Blob) (params : List KeyParameter)
    (authToken : Option HardwareAuthToken) : Ks η κ BeginResult :=
  Ks.km (env.begin · purpose keyBlob params authToken) (.begin purpose keyBlob params authToken)

@[simp]
def generateKey (params : List KeyParameter) (attestKey : Option AttestationKey) :
    Ks η κ KeyCreationResult :=
  Ks.km (env.generateKey · params attestKey) (.generateKey params attestKey)

@[simp]
def importKey (params : List KeyParameter) (format : KeyFormat) (keyData : Blob) :
    Ks η κ KeyCreationResult :=
  Ks.km (env.importKey · params format keyData) (.importKey params format keyData)

@[simp]
def importWrappedKey (wrappedData wrappingBlob maskingKey : Blob) (params : List KeyParameter)
    (pwSid fpSid : Int) : Ks η κ KeyCreationResult :=
  Ks.km (env.importWrappedKey · wrappedData wrappingBlob maskingKey params pwSid fpSid)
    (.importWrappedKey wrappedData wrappingBlob maskingKey params pwSid fpSid)

@[simp]
def convertStorageKeyToEphemeral (keyBlob : Blob) : Ks η κ Blob :=
  Ks.km (env.convertStorageKeyToEphemeral · keyBlob) (.convertStorageKeyToEphemeral keyBlob)

@[simp]
def deleteKey (keyBlob : Blob) : Ks η κ Unit :=
  Ks.km (env.deleteKey · keyBlob) (.deleteKey keyBlob)

end Km

namespace Host

@[simp]
def loadKeyEntry (key : KeyDescriptor) (keyType : KeyType) (callerUid : Nat)
    (check : KeyDescriptor → Option (List KeyPerm) → Except Error Unit) :
    Ks η κ (KeyIdGuard × KeyEntry) :=
  Ks.host (env.loadKeyEntry · key keyType callerUid check) (.loadKeyEntry key keyType callerUid)

@[simp]
def storeNewKey (key : KeyDescriptor) (keyType : KeyType) (params : List KsKeyParam)
    (blobInfo : BlobInfo) (certInfo : CertificateInfo) (metadata : KeyMetaData) (kmUuid : Uuid) :
    Ks η κ KeyIdGuard :=
  Ks.host (env.storeNewKey · key keyType params blobInfo certInfo metadata kmUuid)
    (.storeNewKey key keyType params blobInfo certInfo metadata kmUuid)

@[simp]
def loadKeyDescriptor (keyId : Int) : Ks η κ (Option KeyDescriptor) :=
  Ks.host (env.loadKeyDescriptor · keyId) (.loadKeyDescriptor keyId)

@[simp]
def logKeyIntegrityViolation (key : KeyDescriptor) : Ks η κ Unit :=
  Ks.host (fun h => (env.logKeyIntegrityViolation h key, .ok ()))
    (fun _ => .logKeyIntegrityViolation key)

@[simp]
def importLegacy (key : KeyDescriptor) (callerUid : Nat) (superKey : Option SuperKey) :
    Ks η κ Unit :=
  Ks.host (env.importLegacy · key callerUid superKey) (.importLegacy key callerUid)

@[simp]
def unwrapKeyIfRequired (metadata : BlobMetaData) (blob : Blob) : Ks η κ KeyBlob :=
  Ks.read (env.unwrapKeyIfRequired · metadata blob) (.unwrapKeyIfRequired metadata blob)

@[simp]
def reencryptIfRequired (keyBlob : KeyBlob) (upgradedBlob : Blob) :
    Ks η κ (Blob × Option BlobMetaData) :=
  Ks.read (env.reencryptIfRequired · keyBlob upgradedBlob) (.reencryptIfRequired keyBlob upgradedBlob)

@[simp]
def prune (callerUid : Nat) (forced : Bool) : Ks η κ Unit :=
  Ks.host (env.prune · callerUid forced) (.prune callerUid forced)

/-- `DateTime::now()`. -/
@[simp]
def now : Ks η κ Int :=
  Ks.host env.now .now

/-- `SystemTime::now()`, which cannot fail and is not logged. -/
@[simp]
def systemTimeNow : Ks η κ Int := fun w => (.ok (env.systemTime w.host), w)

/-- `SUPER_KEY.get_after_first_unlock_key_by_user_id`, a read of the super-key manager. -/
@[simp]
def getAfterFirstUnlockKeyByUserId (userId : Nat) : Ks η κ (Option SuperKey) :=
  fun w => (.ok (env.getAfterFirstUnlockKeyByUserId w.host userId), w)

@[simp]
def getAttestKeyInfo (key : KeyDescriptor) (callerUid : Nat)
    (attestKeyDescriptor : Option KeyDescriptor) (params : List KeyParameter) :
    Ks η κ (Option AttestationKeyInfo) :=
  Ks.host (env.getAttestKeyInfo · key callerUid attestKeyDescriptor params)
    (.getAttestKeyInfo key callerUid attestKeyDescriptor)

@[simp]
def storeRkpdAttestationKey (rpcName : String) (keyBlob upgradedBlob : Blob) : Ks η κ Unit :=
  Ks.host (env.storeRkpdAttestationKey · rpcName keyBlob upgradedBlob)
    (.storeRkpdAttestationKey rpcName keyBlob upgradedBlob)

@[simp]
def handleSuperEncryptionOnKeyInit (domain : Domain) (keyParameters : List KsKeyParam)
    (flags : Option Int) (userId : Nat) (keyBlob : Blob) : Ks η κ (Blob × BlobMetaData) :=
  Ks.host (env.handleSuperEncryptionOnKeyInit · domain keyParameters flags userId keyBlob)
    (.handleSuperEncryptionOnKeyInit domain keyBlob)

/-- `ENFORCEMENTS.authorize_create`. -/
@[simp]
def authorizeCreate (purpose : KeyPurpose) (keyProperties : Option (Int × List KsKeyParam))
    (params : List KeyParameter) (timestampTokenRequired : Bool) :
    Ks η κ (Option HardwareAuthToken × AuthInfo) :=
  Ks.host (env.authorizeCreate · purpose keyProperties params timestampTokenRequired)
    (.authorizeCreate purpose params)

@[simp]
def createOperation (kmOp callerUid : Nat) (authInfo : AuthInfo) (forced keyUpgraded : Bool) :
    Ks η κ Nat :=
  Ks.host (env.createOperation · kmOp callerUid authInfo forced keyUpgraded)
    (.createOperation kmOp callerUid forced keyUpgraded)

/-- `keystore2_aaid::get_aaid`, whose error is a bare status code. -/
@[simp]
def getAaid (uid : Nat) : Ks η κ (Except Int Blob) :=
  Ks.read (fun h => .ok (env.getAaid h uid)) (.getAaid uid)

@[simp]
def hadFactoryResetSinceIdRotation (creationDatetime : Int) : Ks η κ Bool :=
  Ks.read (env.hadFactoryResetSinceIdRotation · creationDatetime) .hadFactoryResetSinceIdRotation

end Host

end Keystore2
