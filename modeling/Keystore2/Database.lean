import Keystore2.Types

/-!
# Database records, key blobs and responses

The records of `database.rs` and the `KeyBlob` of `super_key.rs` are not in src: they are kept
with the fields the code under src reads or writes. The responses of `IKeystoreSecurityLevel`
follow, since they carry these records back to the caller.
-/

namespace Keystore2

/-- `KeyIdGuard`: the lock on one key id, held while its entry is loaded or rewritten. -/
structure KeyIdGuard where
  id : Int
  deriving DecidableEq, Repr

inductive KeyType where
  | client
  | super
  deriving DecidableEq, Repr

/-- `BlobMetaData`: the uuid of the KeyMint instance that made the blob, and the entries that
say how the blob is super-encrypted, which only the super-key manager reads. -/
structure BlobMetaData where
  kmUuid : Option Uuid
  encryption : List (Nat × Blob)
  deriving DecidableEq, Repr

namespace BlobMetaData

/-- `BlobMetaData::new()`. -/
def new : BlobMetaData := ⟨none, []⟩

/-- `add(BlobMetaEntry::KmUuid(uuid))`. -/
def addKmUuid (m : BlobMetaData) (uuid : Uuid) : BlobMetaData := { m with kmUuid := some uuid }

end BlobMetaData

structure BlobInfo where
  blob : Blob
  metadata : BlobMetaData
  deriving DecidableEq, Repr

/-- `CertificateInfo`: the leaf certificate and the rest of the chain, concatenated. -/
structure CertificateInfo where
  cert : Option Blob
  certChain : Option Blob
  deriving DecidableEq, Repr

/-- `KeyMetaData` with its `CreationDate` entry, the only one the code adds. -/
structure KeyMetaData where
  creationDate : Option Int
  deriving DecidableEq, Repr

/-- `KeyEntry` as loaded with `KeyEntryLoadBits::KM`: the key blob with its metadata, and the
key parameters. -/
structure KeyEntry where
  keyBlobInfo : Option (Blob × BlobMetaData)
  params : List KsKeyParam
  deriving DecidableEq, Repr

/-- The super key a sensitive blob is re-encrypted with. -/
structure SuperKey where
  id : Nat
  deriving DecidableEq, Repr

/-- `super_key::KeyBlob`: key material the service owns (and must re-encrypt when asked to),
or bytes it does not. -/
inductive KeyBlob where
  | sensitive (key : Blob) (reencryptWith : Option SuperKey) (forceReencrypt : Bool)
  | nonSensitive (blob : Blob)
  | ref (blob : Blob)
  deriving DecidableEq, Repr

namespace KeyBlob

/-- The bytes behind a `KeyBlob` (its `Deref`). -/
def bytes : KeyBlob → Blob
  | sensitive key _ _ => key
  | nonSensitive blob => blob
  | ref blob => blob

def forceReencrypt : KeyBlob → Bool
  | sensitive _ _ force => force
  | _ => false

variable {key blob : Blob} {reencryptWith : Option SuperKey} {force : Bool}

@[simp]
theorem bytes_sensitive : (sensitive key reencryptWith force).bytes = key := rfl

@[simp]
theorem bytes_nonSensitive : (nonSensitive blob).bytes = blob := rfl

@[simp]
theorem bytes_ref : (ref blob).bytes = blob := rfl

@[simp]
theorem forceReencrypt_sensitive : (sensitive key reencryptWith force).forceReencrypt = force := rfl

@[simp]
theorem forceReencrypt_nonSensitive : (nonSensitive blob).forceReencrypt = false := rfl

@[simp]
theorem forceReencrypt_ref : (ref blob).forceReencrypt = false := rfl

end KeyBlob

inductive KeyPerm where
  | use
  | reqForcedOp
  | rebind
  | genUniqueId
  | convertStorageKeyToEphemeral
  | delete
  deriving DecidableEq, Repr

/-- `KeyMetadata` as `store_new_key` returns it. -/
structure KeyMetadata where
  key : KeyDescriptor
  keySecurityLevel : SecurityLevel
  certificate : Option Blob
  certificateChain : Option Blob
  authorizations : List KsKeyParam
  modificationTimeMs : Int
  deriving DecidableEq, Repr

/-- `CreateOperationResponse`; the `IKeystoreOperation` binder is named by a number. -/
structure CreateOperationResponse where
  iOperation : Option Nat
  operationChallenge : Option Int
  parameters : Option (List KeyParameter)
  upgradedBlob : Option Blob
  deriving DecidableEq, Repr

structure EphemeralStorageKeyResponse where
  ephemeralKey : Blob
  upgradedBlob : Option Blob
  deriving DecidableEq, Repr

end Keystore2
