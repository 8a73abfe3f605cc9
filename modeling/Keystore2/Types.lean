import Mathlib.Logic.Function.Defs

/-!
# The data keystore2's core passes around

The AIDL enums (`SecurityLevel`, `ErrorCode`, `ResponseCode`, `Domain`, `Tag`, ...) are `i32`
newtypes, so any value can arrive over binder: each is a structure over `Int`, with the named
constants the code compares against beside it. Byte buffers are lists of bytes. Errors are kept
by their root cause, which is all that `into_logged_binder` and `root_cause().downcast_ref` read.
-/

namespace Keystore2

/-- `Vec<u8>` and `&[u8]`. -/
abbrev Blob := List UInt8

structure SecurityLevel where
  val : Int
  deriving DecidableEq, Repr

namespace SecurityLevel

def software : SecurityLevel := ⟨0⟩
def trustedEnvironment : SecurityLevel := ⟨1⟩
def strongbox : SecurityLevel := ⟨2⟩

end SecurityLevel

/-- `database::Uuid`, the name of one KeyMint instance. -/
structure Uuid where
  val : Int
  deriving DecidableEq, Repr

/-- The fields of `KeyMintHardwareInfo` that keystore2 reads. -/
structure KeyMintHardwareInfo where
  versionNumber : Int
  securityLevel : SecurityLevel
  timestampTokenRequired : Bool
  deriving DecidableEq, Repr

structure ErrorCode where
  val : Int
  deriving DecidableEq, Repr

namespace ErrorCode

def tooManyOperations : ErrorCode := ⟨-31⟩
def invalidKeyBlob : ErrorCode := ⟨-33⟩
def invalidArgument : ErrorCode := ⟨-38⟩
def keyRequiresUpgrade : ErrorCode := ⟨-62⟩
def hardwareTypeUnavailable : ErrorCode := ⟨-68⟩

end ErrorCode

structure ResponseCode where
  val : Int
  deriving DecidableEq, Repr

namespace ResponseCode

def systemError : ResponseCode := ⟨4⟩
def permissionDenied : ResponseCode := ⟨6⟩
def keyNotFound : ResponseCode := ⟨7⟩
def invalidArgument : ResponseCode := ⟨20⟩
def getAttestationApplicationIdFailed : ResponseCode := ⟨27⟩

end ResponseCode

/-- `error::Error`, and `other` for a root cause that is not one (`anyhow!(e)`). -/
inductive Error where
  | rc (code : ResponseCode)
  | km (code : ErrorCode)
  | binderTransaction (status : Int)
  | other (code : Int)
  deriving DecidableEq, Repr

namespace Error

/-- `Error::sys()`. -/
def sys : Error := .rc ResponseCode.systemError

/-- `Error::perm()`. -/
def perm : Error := .rc ResponseCode.permissionDenied

end Error

structure Domain where
  val : Int
  deriving DecidableEq, Repr

namespace Domain

def app : Domain := ⟨0⟩
def grant : Domain := ⟨1⟩
def selinux : Domain := ⟨2⟩
def blob : Domain := ⟨3⟩
def keyId : Domain := ⟨4⟩

end Domain

/-- `KeyDescriptor`: a key by alias in a namespace, by id, or as a raw blob. -/
structure KeyDescriptor where
  domain : Domain
  nspace : Int
  alias' : Option String
  blob : Option Blob
  deriving DecidableEq, Repr

structure Tag where
  val : Int
  deriving DecidableEq, Repr

namespace Tag

def algorithm : Tag := ⟨268435458⟩
def purpose : Tag := ⟨536870913⟩
def userId : Tag := ⟨805306870⟩
def creationDatetime : Tag := ⟨1610613437⟩
def certificateNotBefore : Tag := ⟨1610613744⟩
def certificateNotAfter : Tag := ⟨1610613745⟩
def includeUniqueId : Tag := ⟨1879048394⟩
def resetSinceIdRotation : Tag := ⟨1879049196⟩
def attestationChallenge : Tag := ⟨-1879047484⟩
def attestationApplicationId : Tag := ⟨-1879047483⟩

end Tag

structure Algorithm where
  val : Int
  deriving DecidableEq, Repr

namespace Algorithm

def rsa : Algorithm := ⟨1⟩
def ec : Algorithm := ⟨3⟩
def aes : Algorithm := ⟨32⟩
def tripleDes : Algorithm := ⟨33⟩
def hmac : Algorithm := ⟨128⟩

end Algorithm

structure KeyPurpose where
  val : Int
  deriving DecidableEq, Repr

structure KeyFormat where
  val : Int
  deriving DecidableEq, Repr

namespace KeyFormat

def pkcs8 : KeyFormat := ⟨1⟩
def raw : KeyFormat := ⟨3⟩

end KeyFormat

/-- `KeyParameterValue`; the enums the code never inspects keep their number. -/
inductive KeyParameterValue where
  | invalid (v : Int)
  | algorithm (a : Algorithm)
  | blockMode (v : Int)
  | paddingMode (v : Int)
  | digest (v : Int)
  | ecCurve (v : Int)
  | origin (v : Int)
  | keyPurpose (p : KeyPurpose)
  | hardwareAuthenticatorType (v : Int)
  | securityLevel (s : SecurityLevel)
  | boolValue (b : Bool)
  | integer (v : Int)
  | longInteger (v : Int)
  | dateTime (v : Int)
  | blob (b : Blob)
  deriving DecidableEq, Repr

structure KeyParameter where
  tag : Tag
  value : KeyParameterValue
  deriving DecidableEq, Repr

/-- `key_parameter::KeyParameter`: a parameter with the security level that enforces it. -/
structure KsKeyParam where
  param : KeyParameter
  securityLevel : SecurityLevel
  deriving DecidableEq, Repr

structure Certificate where
  encodedCertificate : Blob
  deriving DecidableEq, Repr

structure KeyCharacteristics where
  securityLevel : SecurityLevel
  authorizations : List KeyParameter
  deriving DecidableEq, Repr

structure KeyCreationResult where
  keyBlob : Blob
  keyCharacteristics : List KeyCharacteristics
  certificateChain : List Certificate
  deriving DecidableEq, Repr

structure AttestationKey where
  keyBlob : Blob
  attestKeyParams : List KeyParameter
  issuerSubjectName : Blob
  deriving DecidableEq, Repr

/-- `HardwareAuthToken`, handed to `begin` and never read by keystore2 itself. -/
structure HardwareAuthToken where
  challenge : Int
  mac : Blob
  deriving DecidableEq, Repr

/-- `BeginResult`; the `IKeyMintOperation` binder is named by a number. -/
structure BeginResult where
  challenge : Int
  params : List KeyParameter
  operation : Option Nat
  deriving DecidableEq, Repr

namespace HardwareAuthenticatorType

/-- `HardwareAuthenticatorType::PASSWORD`. -/
def password : Int := 1
/-- `HardwareAuthenticatorType::FINGERPRINT`. -/
def fingerprint : Int := 2

end HardwareAuthenticatorType

structure AuthenticatorSpec where
  authenticatorType : Int
  authenticatorId : Int
  deriving DecidableEq, Repr

/-! ### `Result`

A Rust `Result` is an `Except`; `?` is its bind. -/

namespace Except

variable {ε α β : Type}

@[simp]
theorem pure_eq_ok (a : α) : (pure a : Except ε α) = .ok a := rfl

@[simp]
theorem throw_eq_error (e : ε) : (throw e : Except ε α) = .error e := rfl

@[simp]
theorem ok_bind (a : α) (f : α → Except ε β) : (Except.ok a >>= f) = f a := rfl

@[simp]
theorem error_bind (e : ε) (f : α → Except ε β) : (Except.error e >>= f) = .error e := rfl

@[simp]
theorem map_ok (g : α → β) (a : α) : (g <$> Except.ok a : Except ε β) = .ok (g a) := rfl

@[simp]
theorem map_error (g : α → β) (e : ε) : (g <$> (Except.error e : Except ε α)) = .error e := rfl

/-- A `?` chain that returned `Ok` went through a first step that returned `Ok`. -/
theorem ok_of_bind {x : Except ε α} {f : α → Except ε β} {b : β} (h : (x >>= f) = .ok b) :
    ∃ a, x = .ok a ∧ f a = .ok b := by
  cases x with
  | error e => cases h
  | ok a => exact ⟨a, rfl, h⟩

end Except

end Keystore2
