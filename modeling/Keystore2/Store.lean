import Keystore2.World

/-!
# A reference host

The metadata store is not in src; section 6 of the spec gives its contract, and `Store` follows
it, with the legacy entries the importer has not moved yet beside it. `Store.env` completes it to
a host that allows every permission, keeps blobs as they are and reads a clock stopped at `0`,
around any device: a concrete keystore on which the service's functions can be run.
-/

namespace Keystore2

/-- Modelled from the spec: the metadata store of section 6. `store_new_key` files an entry under
a descriptor, replacing the one it had, and answers its key id; `load_key_entry` answers the
entry of a descriptor once the permission check passes, and `KEY_NOT_FOUND` when there is none;
`load_key_descriptor` maps a key id back to its descriptor. `legacy` holds the entries of the
legacy database, and `operations` counts the operations the pruner may evict. -/
structure Store where
  entries : List (KeyIdGuard × KeyDescriptor × KeyEntry)
  legacy : List (KeyDescriptor × KeyEntry)
  nextId : Int
  operations : Nat
  deriving DecidableEq, Repr

namespace Store

/-- The store with no entries. -/
def empty : Store := ⟨[], [], 0, 0⟩

/-- The descriptor an entry is filed under: an `APP` key lives in the caller's namespace, and
the blob field is no part of a key's name. -/
def canonical (key : KeyDescriptor) (callerUid : Nat) : KeyDescriptor :=
  { key with nspace := if key.domain = Domain.app then callerUid else key.nspace, blob := none }

def lookup (s : Store) (key : KeyDescriptor) : Option (KeyIdGuard × KeyEntry) :=
  (s.entries.find? (·.2.1 = key)).map fun e => (e.1, e.2.2)

def insert (s : Store) (key : KeyDescriptor) (entry : KeyEntry) : Store × KeyIdGuard :=
  ({ s with entries := (⟨s.nextId⟩, key, entry) :: s.entries.filter (·.2.1 ≠ key),
            nextId := s.nextId + 1 }, ⟨s.nextId⟩)

def loadKeyEntry (s : Store) (key : KeyDescriptor) (callerUid : Nat)
    (check : KeyDescriptor → Option (List KeyPerm) → Except Error Unit) :
    Store × Except Error (KeyIdGuard × KeyEntry) :=
  match s.lookup (canonical key callerUid) with
  | none => (s, .error (.rc ResponseCode.keyNotFound))
  | some r => (s, (check (canonical key callerUid) none).map fun _ => r)

def storeNewKey (s : Store) (key : KeyDescriptor) (params : List KsKeyParam) (blobInfo : BlobInfo) :
    Store × Except Error KeyIdGuard :=
  let (s', guard) := s.insert { key with blob := none }
    ⟨some (blobInfo.blob, blobInfo.metadata), params⟩
  (s', .ok guard)

def loadKeyDescriptor (s : Store) (keyId : Int) : Option KeyDescriptor :=
  (s.entries.find? (·.1.id = keyId)).map (·.2.1)

/-- The legacy importer: moves the legacy entry of a descriptor into the store. -/
def importLegacy (s : Store) (key : KeyDescriptor) (callerUid : Nat) :
    Store × Except Error Unit :=
  match s.legacy.find? (·.1 = canonical key callerUid) with
  | none => (s, .error (.rc ResponseCode.keyNotFound))
  | some (name, entry) =>
    let s := { s with legacy := s.legacy.filter (·.1 ≠ name) }
    ((s.insert name entry).1, .ok ())

/-- A device that has moved to a new blob format: it asks for the upgrade of every blob in the
old one (first byte `0`), upgrades a blob by rewriting that byte to `1`, and serves every other
call. -/
def device : Device Unit where
  getKeyCharacteristics k blob :=
    (k, if blob.head? = some 0 then .error (.km ErrorCode.keyRequiresUpgrade) else .ok [])
  upgradeKey k blob _ := (k, .ok (1 :: blob.tail))
  begin k _ blob _ _ :=
    (k, if blob.head? = some 0 then .error (.km ErrorCode.keyRequiresUpgrade) else .ok ⟨0, [], some 0⟩)
  generateKey k _ _ := (k, .ok ⟨[1], [], []⟩)
  importKey k _ _ _ := (k, .ok ⟨[1], [], []⟩)
  importWrappedKey k _ _ _ _ _ _ := (k, .ok ⟨[1], [], []⟩)
  convertStorageKeyToEphemeral k blob :=
    (k, if blob.head? = some 0 then .error (.km ErrorCode.keyRequiresUpgrade) else .ok blob)
  deleteKey k _ := (k, .ok ())

variable {κ : Type}

/-- The reference host around a device. -/
def env (device : Device κ) : Env Store κ :=
  { device with
    loadKeyEntry := fun s key _ callerUid check => s.loadKeyEntry key callerUid check
    storeNewKey := fun s key _ params blobInfo _ _ _ => s.storeNewKey key params blobInfo
    loadKeyDescriptor := fun s keyId => (s, .ok (s.loadKeyDescriptor keyId))
    logKeyIntegrityViolation := fun s _ => s
    importLegacy := fun s key callerUid _ => s.importLegacy key callerUid
    getAttestKeyInfo := fun s _ _ _ _ => (s, .ok none)
    storeRkpdAttestationKey := fun s _ _ _ => (s, .ok ())
    getAfterFirstUnlockKeyByUserId := fun _ _ => none
    unwrapKeyIfRequired := fun _ _ blob => .ok (.ref blob)
    reencryptIfRequired := fun _ _ upgradedBlob => .ok (upgradedBlob, none)
    handleSuperEncryptionOnKeyInit := fun s _ _ _ _ blob => (s, .ok (blob, BlobMetaData.new))
    authorizeCreate := fun s _ _ _ _ => (s, .ok (none, ⟨0⟩))
    finalizeCreateAuthorization := fun _ _ => none
    prune := fun s _ _ => match s.operations with
      | 0 => (s, .error (.rc ResponseCode.systemError))
      | n + 1 => ({ s with operations := n }, .ok ())
    createOperation := fun s kmOp _ _ _ _ => ({ s with operations := s.operations + 1 }, .ok kmOp)
    getAaid := fun _ _ => .ok []
    hadFactoryResetSinceIdRotation := fun _ _ => .ok false
    now := fun s => (s, .ok 0)
    systemTime := fun _ => 0
    checkKeyPermission := fun _ _ _ => .ok ()
    checkUniqueIdAttestationPermissions := .ok ()
    checkDeviceAttestationPermissions := .ok ()
    isDeviceIdAttestationTag := fun _ => false
    keyCharacteristicsToInternal := fun cs =>
      cs.flatMap fun c => c.authorizations.map (⟨·, c.securityLevel⟩)
    keyParametersToAuthorizations := id
    isDeclared := fun _ => .ok true
    remoteProvDescriptor := "android.hardware.security.keymint.IRemotelyProvisionedComponent"
    uidToAndroidUser := fun uid => uid / 100000
    aidKeystore := 1017
    undefinedNotAfter := 253402300799000
    useCertProcessor := false
    processCertificateChain := fun chain _ => chain }

end Store

end Keystore2
