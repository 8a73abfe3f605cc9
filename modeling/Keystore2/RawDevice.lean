import Keystore2.Upgrade
import Mathlib.Logic.Basic

/-!
# `KeyMintDevice`: keystore2's own keys

`raw_device.rs` serves keys keystore2 makes for itself. `lookup_or_generate_key` reuses the
stored key of a descriptor when it was made by this device and still has the characteristics the
caller wants, and otherwise generates a new one, stores it and reads it back. An entry made by
another device, or with no blob metadata, is never handed to the device: it is replaced.
-/

namespace Keystore2

variable {η κ T : Type} (env : Env η κ)

/-- `KeyMintDevice`: the uuid, version and security level of the device (the device itself is
the world's). -/
structure KeyMintDevice where
  kmUuid : Uuid
  version : Int
  securityLevel : SecurityLevel
  deriving DecidableEq, Repr

namespace KeyMintDevice

/-- `create_and_store_key`: runs the creator on the device and stores the key it makes, with
this device's uuid in the blob metadata and no certificates. -/
def createAndStoreKey (self : KeyMintDevice) (keyDesc : KeyDescriptor) (keyType : KeyType)
    (creator : Ks η κ KeyCreationResult) : Ks η κ Unit := do
  let creationResult ← creator
  let keyParameters := env.keyCharacteristicsToInternal creationResult.keyCharacteristics
  let creationDate ← Host.now env
  let keyMetadata : KeyMetaData := ⟨some creationDate⟩
  let blobMetadata := BlobMetaData.new.addKmUuid self.kmUuid
  let _ ← Host.storeNewKey env keyDesc keyType keyParameters ⟨creationResult.keyBlob, blobMetadata⟩
    ⟨none, none⟩ keyMetadata self.kmUuid
  pure ()

/-- `internal_descriptor`. -/
def internalDescriptor (alias' : String) : KeyDescriptor :=
  ⟨Domain.app, env.aidKeystore, some alias', none⟩

/-- `lookup_from_desc`: the entry, loaded as keystore2 itself with no permission check. -/
@[simp]
def lookupFromDesc (keyDesc : KeyDescriptor) (keyType : KeyType) : Ks η κ (KeyIdGuard × KeyEntry) :=
  Host.loadKeyEntry env keyDesc keyType env.aidKeystore fun _ _ => .ok ()

/-- `not_found_is_none`. -/
@[simp]
def notFoundIsNone (lookup : Except Error (KeyIdGuard × KeyEntry)) :
    Except Error (Option (KeyIdGuard × KeyEntry)) :=
  match lookup with
  | .ok result => .ok (some result)
  | .error e => if e = .rc ResponseCode.keyNotFound then .ok none else .error e

/-- The persistence callback of `upgrade_keyblob_if_required_with`: it builds the new blob
metadata, and reports success; the database write is commented out in the source. -/
def newBlobHandler (self : KeyMintDevice) (_upgradedBlob : Blob) (_ : Unit) : Unit × Ks η κ Unit :=
  ((), do
    let _newBlobMetadata := BlobMetaData.new.addKmUuid self.kmUuid
    pure ())

/-- The callback's effect writes nothing, calls nothing, and answers `Ok`. -/
@[simp]
theorem newBlobHandler_apply (self : KeyMintDevice) (upgradedBlob : Blob) (w : World η κ) :
    (self.newBlobHandler upgradedBlob ()).2 w = (.ok (), w) := rfl

/-- `upgrade_keyblob_if_required_with`: the protocol, persisting through `newBlobHandler`; the
blob it returns is the upgraded one, when there was an upgrade. -/
def upgradeKeyblobIfRequiredWith (self : KeyMintDevice) (_keyIdGuard : KeyIdGuard)
    (keyBlob : KeyBlob) (f : Blob → Ks η κ T) : Ks η κ (T × KeyBlob) := do
  let ((fResult, upgradedBlob), ()) ← Utils.upgradeKeyblobIfRequiredWith env keyBlob.bytes [] f
    self.newBlobHandler ()
  let returnedBlob := match upgradedBlob with
    | none => keyBlob
    | some upgradedBlob => .nonSensitive upgradedBlob
  pure (fResult, returnedBlob)

/-- The blob of a loaded entry, when its metadata names this device. -/
def ownBlob (self : KeyMintDevice) (keyEntry : KeyEntry) : Option Blob :=
  keyEntry.keyBlobInfo.bind fun (keyBlob, blobMetadata) =>
    if some self.kmUuid = blobMetadata.kmUuid then some keyBlob else none

theorem ownBlob_eq_some {self : KeyMintDevice} {keyEntry : KeyEntry} {stored : Blob} :
    self.ownBlob keyEntry = some stored ↔
      ∃ blobMetadata, keyEntry.keyBlobInfo = some (stored, blobMetadata) ∧
        blobMetadata.kmUuid = some self.kmUuid := by
  rcases keyEntry with ⟨_ | ⟨b, m⟩, _⟩
  · simp [ownBlob]
  · simp only [ownBlob, Option.some_bind, Option.ite_none_right_eq_some, Option.some.injEq,
      Prod.mk.injEq]
    exact ⟨fun ⟨h, hb⟩ => ⟨m, ⟨hb, rfl⟩, h.symm⟩, fun ⟨_, ⟨hb, hm⟩, h⟩ => ⟨hm ▸ h.symm, hb⟩⟩

/-- The wrapper starts with `f` on the blob as it is. -/
theorem prefix_upgradeKeyblobIfRequiredWith (self : KeyMintDevice) (kid : KeyIdGuard)
    (keyBlob : KeyBlob) (f : Blob → Ks η κ T) (hf : ∀ b, Ks.Appends (f b)) (w : World η κ) :
    (f keyBlob.bytes w).2.log <+: (self.upgradeKeyblobIfRequiredWith env kid keyBlob f w).2.log :=
  (Utils.prefix_upgradeKeyblobIfRequiredWith env hf (fun _ _ => Ks.appends_pure _) w).trans
    (Ks.prefix_next (fun _ => Ks.appends_pure _) _)

/-- The first phase of `lookup_or_generate_key`: the stored key, upgraded if need be, when it is
this device's and passes `validateCharacteristics`. -/
def lookupExisting (self : KeyMintDevice) (keyDesc : KeyDescriptor) (keyType : KeyType)
    (validateCharacteristics : List KeyCharacteristics → Bool) :
    Ks η κ (Option (KeyIdGuard × KeyBlob)) := do
  let lookup ← Ks.lift (notFoundIsNone (← Ks.attempt (lookupFromDesc env keyDesc keyType)))
  match lookup with
  | none => pure none
  | some (keyIdGuard, keyEntry) =>
    match self.ownBlob keyEntry with
    | none => pure none
    | some keyBlobVec =>
      let (keyCharacteristics, keyBlob) ← self.upgradeKeyblobIfRequiredWith env keyIdGuard
        (.nonSensitive keyBlobVec) (Km.getKeyCharacteristics env)
      pure (if validateCharacteristics keyCharacteristics then some (keyIdGuard, keyBlob) else none)

/-- `lookup_or_generate_key`: the stored key when the first phase keeps it; otherwise a new key
from `generateKey`, stored and read back. -/
def lookupOrGenerateKey (self : KeyMintDevice) (keyDesc : KeyDescriptor) (keyType : KeyType)
    (params : List KeyParameter) (validateCharacteristics : List KeyCharacteristics → Bool) :
    Ks η κ (KeyIdGuard × KeyBlob) := do
  match ← self.lookupExisting env keyDesc keyType validateCharacteristics with
  | some found => pure found
  | none =>
    self.createAndStoreKey env keyDesc keyType (Km.generateKey env params none)
    let (keyIdGuard, keyEntry) ← lookupFromDesc env keyDesc keyType
    match keyEntry.keyBlobInfo with
    | some (keyBlob, _) => pure (keyIdGuard, .nonSensitive keyBlob)
    | none => Ks.throw (.rc ResponseCode.keyNotFound)

/-! ### Reuse or regenerate -/

/-- The device calls of phase one on a stored blob of this device, and the characteristics they
got for the blob phase one would return: the stored blob itself, or its upgrade. -/
inductive CharacteristicsRun (stored : Blob) : List Event → Blob → List KeyCharacteristics → Prop
  | current (chars : List KeyCharacteristics) :
      CharacteristicsRun stored [.getKeyCharacteristics stored (.ok chars)] stored chars
  | upgraded (upgradedBlob : Blob) (chars : List KeyCharacteristics) :
      CharacteristicsRun stored
        [.getKeyCharacteristics stored (.error (.km ErrorCode.keyRequiresUpgrade)),
          .upgradeKey stored [] (.ok upgradedBlob),
          .getKeyCharacteristics upgradedBlob (.ok chars)] upgradedBlob chars

theorem CharacteristicsRun.length_le {stored blob : Blob} {calls : List Event}
    {chars : List KeyCharacteristics} (h : CharacteristicsRun stored calls blob chars) :
    calls.length ≤ 3 := by
  cases h <;> simp

variable (self : KeyMintDevice) (keyDesc : KeyDescriptor) (keyType : KeyType)
  (validate : List KeyCharacteristics → Bool)

/-- The calls of a phase one that keeps nothing: the descriptor has no entry, or its entry is not
this device's, or the characteristics of the blob it would return fail the validation. -/
def Rejected (pre : List Event) : Prop :=
  pre = [.loadKeyEntry keyDesc keyType env.aidKeystore (.error (.rc ResponseCode.keyNotFound))] ∨
  (∃ guard entry, self.ownBlob entry = none ∧
    pre = [.loadKeyEntry keyDesc keyType env.aidKeystore (.ok (guard, entry))]) ∨
  (∃ guard entry stored calls blob chars, self.ownBlob entry = some stored ∧
    CharacteristicsRun stored calls blob chars ∧ validate chars = false ∧
    pre = .loadKeyEntry keyDesc keyType env.aidKeystore (.ok (guard, entry)) :: calls)

theorem Rejected.length_pos {pre : List Event} (h : Rejected env self keyDesc keyType validate pre) :
    0 < pre.length := by
  rcases h with rfl | ⟨_, _, _, rfl⟩ | ⟨_, _, _, _, _, _, _, _, _, rfl⟩ <;> simp

/-- The upgrade wrapper around `getKeyCharacteristics` ends with characteristics for the very
blob it returns, after the calls of a `CharacteristicsRun`, or fails; the host is untouched. -/
theorem upgradeKeyblobIfRequiredWith_characteristics (kid : KeyIdGuard) (stored : Blob)
    (w : World η κ) :
    (∃ calls chars blob k, CharacteristicsRun stored calls blob chars ∧
      self.upgradeKeyblobIfRequiredWith env kid (.nonSensitive stored) (Km.getKeyCharacteristics env) w =
        (.ok (chars, .nonSensitive blob), { w with km := k, log := w.log ++ calls })) ∨
    (∃ e, (self.upgradeKeyblobIfRequiredWith env kid (.nonSensitive stored)
      (Km.getKeyCharacteristics env) w).1 = .error e) := by
  rcases hc : env.getKeyCharacteristics w.km stored with ⟨k₁, e | chars⟩
  · by_cases he : e = .km ErrorCode.keyRequiresUpgrade
    · subst he
      rcases hu : env.upgradeKey k₁ stored [] with ⟨k₂, e | b⟩
      · exact .inr ⟨e, by simp [upgradeKeyblobIfRequiredWith, Utils.upgradeKeyblobIfRequiredWith, hc, hu]⟩
      rcases hc₂ : env.getKeyCharacteristics k₂ b with ⟨k₃, e | chars⟩
      · exact .inr ⟨e, by simp [upgradeKeyblobIfRequiredWith, Utils.upgradeKeyblobIfRequiredWith, hc, hu, hc₂]⟩
      · exact .inl ⟨_, chars, b, k₃, .upgraded b chars,
          by simp [upgradeKeyblobIfRequiredWith, Utils.upgradeKeyblobIfRequiredWith, hc, hu, hc₂]⟩
    · exact .inr ⟨e, by simp [upgradeKeyblobIfRequiredWith, Utils.upgradeKeyblobIfRequiredWith, hc, he]⟩
  · exact .inl ⟨_, chars, stored, k₁, .current chars,
      by simp [upgradeKeyblobIfRequiredWith, Utils.upgradeKeyblobIfRequiredWith, hc]⟩

/-- What phase one can do: keep this device's blob, with the characteristics it validated; keep
nothing, after the calls of `Rejected`; or fail. -/
theorem lookupExisting_cases (w : World η κ) :
    (∃ guard keyBlob entry stored calls chars,
      (self.lookupExisting env keyDesc keyType validate w).1 = .ok (some (guard, keyBlob)) ∧
      self.ownBlob entry = some stored ∧ CharacteristicsRun stored calls keyBlob.bytes chars ∧
      validate chars = true ∧ keyBlob = .nonSensitive keyBlob.bytes ∧
      (self.lookupExisting env keyDesc keyType validate w).2.log =
        w.log ++ .loadKeyEntry keyDesc keyType env.aidKeystore (.ok (guard, entry)) :: calls) ∨
    ((self.lookupExisting env keyDesc keyType validate w).1 = .ok none ∧
      ∃ pre, Rejected env self keyDesc keyType validate pre ∧
        (self.lookupExisting env keyDesc keyType validate w).2.log = w.log ++ pre) ∨
    (∃ e, (self.lookupExisting env keyDesc keyType validate w).1 = .error e) := by
  rcases hl : env.loadKeyEntry w.host keyDesc keyType env.aidKeystore (fun _ _ => .ok ())
    with ⟨h₁, e | ⟨guard, entry⟩⟩
  · by_cases he : e = .rc ResponseCode.keyNotFound
    · subst he
      exact .inr (.inl ⟨by simp [lookupExisting, hl], _, .inl rfl, by simp [lookupExisting, hl]⟩)
    · exact .inr (.inr ⟨e, by simp [lookupExisting, hl, he]⟩)
  rcases ho : self.ownBlob entry with _ | stored
  · exact .inr (.inl ⟨by simp [lookupExisting, hl, ho], _, .inr (.inl ⟨guard, entry, ho, rfl⟩),
      by simp [lookupExisting, hl, ho]⟩)
  rcases upgradeKeyblobIfRequiredWith_characteristics env self guard stored
      ⟨h₁, w.km, w.log ++ [.loadKeyEntry keyDesc keyType env.aidKeystore (.ok (guard, entry))]⟩
    with ⟨calls, chars, blob, k, hrun, hu⟩ | ⟨e, hu⟩
  · cases hv : validate chars
    · exact .inr (.inl ⟨by simp [lookupExisting, hl, ho, hu, hv], _,
        .inr (.inr ⟨guard, entry, stored, calls, blob, chars, ho, hrun, hv, rfl⟩),
        by simp [lookupExisting, hl, ho, hu]⟩)
    · exact .inl ⟨guard, .nonSensitive blob, entry, stored, calls, chars,
        by simp [lookupExisting, hl, ho, hu, hv], ho, hrun, hv, rfl, by simp [lookupExisting, hl, ho, hu]⟩
  · exact .inr (.inr ⟨e, by simp [lookupExisting, hl, ho, Ks.next_of_fst_error hu]⟩)

/-- When phase one keeps nothing and the call succeeds, the rest of the log is one
`generateKey`, the clock, the store of the new blob under this device's uuid, and the load that
reads it back. -/
theorem lookupOrGenerateKey_of_none (params : List KeyParameter) {w w₁ : World η κ}
    {guard : KeyIdGuard} {blob : KeyBlob}
    (h₁ : self.lookupExisting env keyDesc keyType validate w = (.ok none, w₁))
    (hok : (self.lookupOrGenerateKey env keyDesc keyType params validate w).1 = .ok (guard, blob)) :
    ∃ creation creationDate storedGuard entry,
      entry.keyBlobInfo.map Prod.fst = some blob.bytes ∧ blob = .nonSensitive blob.bytes ∧
      (self.lookupOrGenerateKey env keyDesc keyType params validate w).2.log = w₁.log ++
        [.generateKey params none (.ok creation), .now (.ok creationDate),
         .storeNewKey keyDesc keyType (env.keyCharacteristicsToInternal creation.keyCharacteristics)
           ⟨creation.keyBlob, BlobMetaData.new.addKmUuid self.kmUuid⟩ ⟨none, none⟩
           ⟨some creationDate⟩ self.kmUuid (.ok storedGuard),
         .loadKeyEntry keyDesc keyType env.aidKeystore (.ok (guard, entry))] := by
  simp only [lookupOrGenerateKey, Ks.bind_apply, h₁, Ks.next_ok] at hok ⊢
  rcases hg : env.generateKey w₁.km params none with ⟨k₂, e | creation⟩
  · simp [createAndStoreKey, hg] at hok
  rcases hn : env.now w₁.host with ⟨h₂, e | creationDate⟩
  · simp [createAndStoreKey, hg, hn] at hok
  rcases hs : env.storeNewKey h₂ keyDesc keyType
      (env.keyCharacteristicsToInternal creation.keyCharacteristics)
      ⟨creation.keyBlob, BlobMetaData.new.addKmUuid self.kmUuid⟩ ⟨none, none⟩ ⟨some creationDate⟩
      self.kmUuid with ⟨h₃, e | storedGuard⟩
  · simp [createAndStoreKey, hg, hn, hs] at hok
  rcases hl : env.loadKeyEntry h₃ keyDesc keyType env.aidKeystore (fun _ _ => .ok ())
    with ⟨h₄, e | ⟨guard', entry⟩⟩
  · simp [createAndStoreKey, hg, hn, hs, hl] at hok
  rcases hb : entry.keyBlobInfo with _ | ⟨stored, md⟩
  · simp [createAndStoreKey, hg, hn, hs, hl, hb] at hok
  simp [createAndStoreKey, hg, hn, hs, hl, hb] at hok
  obtain ⟨rfl, rfl⟩ := hok
  exact ⟨creation, creationDate, storedGuard, entry, by simp [hb], rfl,
    by simp [createAndStoreKey, hg, hn, hs, hl, hb]⟩

/-- **Reuse or regenerate.** If `lookup_or_generate_key` returns `(guard, blob)`, exactly one of
two things happened. Either the store held an entry for the descriptor made by this device, and
`blob` is its stored blob or the upgrade of it, whose characteristics `getKeyCharacteristics`
reported and the validation accepted, with no `generateKey` and no store. Or phase one found no
entry of this device, or one whose characteristics failed the validation, and then the device
generated one key, stored under the descriptor with this device's uuid, and `blob` is what the
store gave back for the descriptor. -/
theorem lookupOrGenerateKey_reuses_or_regenerates (params : List KeyParameter) (w : World η κ)
    (guard : KeyIdGuard) (blob : KeyBlob)
    (hok : (self.lookupOrGenerateKey env keyDesc keyType params validate w).1 = .ok (guard, blob)) :
    Xor'
      (∃ entry stored calls chars, self.ownBlob entry = some stored ∧
        CharacteristicsRun stored calls blob.bytes chars ∧ validate chars = true ∧
        blob = .nonSensitive blob.bytes ∧
        (self.lookupOrGenerateKey env keyDesc keyType params validate w).2.log =
          w.log ++ .loadKeyEntry keyDesc keyType env.aidKeystore (.ok (guard, entry)) :: calls)
      (∃ pre creation creationDate storedGuard entry, Rejected env self keyDesc keyType validate pre ∧
        entry.keyBlobInfo.map Prod.fst = some blob.bytes ∧ blob = .nonSensitive blob.bytes ∧
        (self.lookupOrGenerateKey env keyDesc keyType params validate w).2.log = w.log ++ pre ++
          [.generateKey params none (.ok creation), .now (.ok creationDate),
           .storeNewKey keyDesc keyType (env.keyCharacteristicsToInternal creation.keyCharacteristics)
             ⟨creation.keyBlob, BlobMetaData.new.addKmUuid self.kmUuid⟩ ⟨none, none⟩
             ⟨some creationDate⟩ self.kmUuid (.ok storedGuard),
           .loadKeyEntry keyDesc keyType env.aidKeystore (.ok (guard, entry))]) := by
  have hnot : ∀ {entry stored calls chars pre rest} (blob' : Blob),
      CharacteristicsRun stored calls blob' chars → Rejected env self keyDesc keyType validate pre →
      (.loadKeyEntry keyDesc keyType env.aidKeystore (.ok (guard, entry)) :: calls : List Event) =
        pre ++ rest → rest.length = 4 → False := by
    intro entry stored calls chars pre rest blob' hrun hrej heq hrest
    have := congrArg List.length heq
    have := hrun.length_le
    have := hrej.length_pos
    simp only [List.length_cons, List.length_append, hrest] at *
    omega
  rcases lookupExisting_cases env self keyDesc keyType validate w
    with ⟨g, kb, entry, stored, calls, chars, hr, ho, hrun, hv, hkb, hlog⟩ | ⟨hr, pre, hrej, hlog⟩ |
      ⟨e, hr⟩
  · have heq : self.lookupOrGenerateKey env keyDesc keyType params validate w =
        (.ok (g, kb), (self.lookupExisting env keyDesc keyType validate w).2) := by
      rw [lookupOrGenerateKey, Ks.bind_apply, Ks.eq_of_fst hr]
      rfl
    rw [heq] at hok ⊢
    cases hok
    refine .inl ⟨⟨entry, stored, calls, chars, ho, hrun, hv, hkb, hlog⟩, ?_⟩
    rintro ⟨pre, _, _, _, _, hrej, -, -, hlog'⟩
    exact hnot _ hrun hrej
      (List.append_cancel_left ((hlog.symm.trans hlog').trans (List.append_assoc _ _ _))) rfl
  · obtain ⟨creation, creationDate, storedGuard, entry, hb, hblob, hlog'⟩ :=
      lookupOrGenerateKey_of_none env self keyDesc keyType validate params (Ks.eq_of_fst hr) hok
    rw [hlog] at hlog'
    refine .inr ⟨⟨pre, creation, creationDate, storedGuard, entry, hrej, hb, hblob, hlog'⟩, ?_⟩
    rintro ⟨entry', stored, calls, chars, -, hrun, -, -, hlog''⟩
    rw [List.append_assoc] at hlog'
    exact hnot _ hrun hrej (List.append_cancel_left (hlog''.symm.trans hlog')) rfl
  · simp [lookupOrGenerateKey, Ks.next_of_fst_error hr] at hok

/-- The reference host holding, under the descriptor `(APP, 1017)`, the blob `b` made by the
engine with uuid `1`. -/
def ownKeyWorld (b : Blob) : World Store Unit :=
  ⟨(Store.empty.storeNewKey ⟨Domain.app, 1017, none, none⟩ [] ⟨b, BlobMetaData.new.addKmUuid ⟨1⟩⟩).1,
    (), []⟩

/-- The device meets the three cases. On an empty store it generates the key, which the store
files under id `0`. A key of its own in the current format is reused as it is. A key of its own
in the old format is reused upgraded. -/
theorem lookupOrGenerateKey_reuses_or_regenerates_onStore :
    (((⟨⟨1⟩, 1, SecurityLevel.trustedEnvironment⟩ : KeyMintDevice).lookupOrGenerateKey
      (Store.env Store.device) ⟨Domain.app, 1017, none, none⟩ .client [] (fun _ => true)
      ⟨Store.empty, (), []⟩).1 = .ok (⟨0⟩, .nonSensitive [1]) ∧
    Xor'
      (∃ entry stored calls chars,
        (⟨⟨1⟩, 1, SecurityLevel.trustedEnvironment⟩ : KeyMintDevice).ownBlob entry = some stored ∧
        CharacteristicsRun stored calls [1] chars ∧ (fun _ => true) chars = true ∧
        (.nonSensitive [1] : KeyBlob) = .nonSensitive [1] ∧
        ((⟨⟨1⟩, 1, SecurityLevel.trustedEnvironment⟩ : KeyMintDevice).lookupOrGenerateKey
          (Store.env Store.device) ⟨Domain.app, 1017, none, none⟩ .client [] (fun _ => true)
          ⟨Store.empty, (), []⟩).2.log =
          [] ++ .loadKeyEntry ⟨Domain.app, 1017, none, none⟩ .client 1017 (.ok (⟨0⟩, entry)) :: calls)
      (∃ pre creation creationDate storedGuard entry,
        Rejected (Store.env Store.device) ⟨⟨1⟩, 1, SecurityLevel.trustedEnvironment⟩
          ⟨Domain.app, 1017, none, none⟩ .client (fun _ => true) pre ∧
        entry.keyBlobInfo.map Prod.fst = some [1] ∧
        (.nonSensitive [1] : KeyBlob) = .nonSensitive [1] ∧
        ((⟨⟨1⟩, 1, SecurityLevel.trustedEnvironment⟩ : KeyMintDevice).lookupOrGenerateKey
          (Store.env Store.device) ⟨Domain.app, 1017, none, none⟩ .client [] (fun _ => true)
          ⟨Store.empty, (), []⟩).2.log = [] ++ pre ++
          [.generateKey [] none (.ok creation), .now (.ok creationDate),
           .storeNewKey ⟨Domain.app, 1017, none, none⟩ .client
             ((Store.env Store.device).keyCharacteristicsToInternal creation.keyCharacteristics)
             ⟨creation.keyBlob, BlobMetaData.new.addKmUuid ⟨1⟩⟩ ⟨none, none⟩
             ⟨some creationDate⟩ ⟨1⟩ (.ok storedGuard),
           .loadKeyEntry ⟨Domain.app, 1017, none, none⟩ .client 1017 (.ok (⟨0⟩, entry))])) ∧
    (((⟨⟨1⟩, 1, SecurityLevel.trustedEnvironment⟩ : KeyMintDevice).lookupOrGenerateKey
          (Store.env Store.device) ⟨Domain.app, 1017, none, none⟩ .client [] (fun _ => true)
          (ownKeyWorld [1])).1 = .ok (⟨0⟩, .nonSensitive [1]) ∧
      ∃ entry stored calls chars, (⟨⟨1⟩, 1, SecurityLevel.trustedEnvironment⟩ : KeyMintDevice).ownBlob entry = some stored ∧
        CharacteristicsRun stored calls [1] chars ∧ (fun _ => true) chars = true ∧
        (.nonSensitive [1] : KeyBlob) = .nonSensitive [1] ∧
        ((⟨⟨1⟩, 1, SecurityLevel.trustedEnvironment⟩ : KeyMintDevice).lookupOrGenerateKey
          (Store.env Store.device) ⟨Domain.app, 1017, none, none⟩ .client [] (fun _ => true)
          (ownKeyWorld [1])).2.log =
          [] ++ .loadKeyEntry ⟨Domain.app, 1017, none, none⟩ .client 1017 (.ok (⟨0⟩, entry)) :: calls) ∧
    (((⟨⟨1⟩, 1, SecurityLevel.trustedEnvironment⟩ : KeyMintDevice).lookupOrGenerateKey
          (Store.env Store.device) ⟨Domain.app, 1017, none, none⟩ .client [] (fun _ => true)
          (ownKeyWorld [0])).1 = .ok (⟨0⟩, .nonSensitive [1]) ∧
      ∃ entry stored calls chars, (⟨⟨1⟩, 1, SecurityLevel.trustedEnvironment⟩ : KeyMintDevice).ownBlob entry = some stored ∧
        CharacteristicsRun stored calls [1] chars ∧ (fun _ => true) chars = true ∧
        (.nonSensitive [1] : KeyBlob) = .nonSensitive [1] ∧
        ((⟨⟨1⟩, 1, SecurityLevel.trustedEnvironment⟩ : KeyMintDevice).lookupOrGenerateKey
          (Store.env Store.device) ⟨Domain.app, 1017, none, none⟩ .client [] (fun _ => true)
          (ownKeyWorld [0])).2.log =
          [] ++ .loadKeyEntry ⟨Domain.app, 1017, none, none⟩ .client 1017 (.ok (⟨0⟩, entry)) :: calls) := by
  have hreused : ∀ b, ((⟨⟨1⟩, 1, SecurityLevel.trustedEnvironment⟩ : KeyMintDevice).lookupOrGenerateKey
          (Store.env Store.device) ⟨Domain.app, 1017, none, none⟩ .client [] (fun _ => true)
          (ownKeyWorld b)).1 = .ok (⟨0⟩, .nonSensitive [1]) →
      ((⟨⟨1⟩, 1, SecurityLevel.trustedEnvironment⟩ : KeyMintDevice).lookupOrGenerateKey
          (Store.env Store.device) ⟨Domain.app, 1017, none, none⟩ .client [] (fun _ => true)
          (ownKeyWorld b)).2.log.length < 5 → ∃ entry stored calls chars,
        (⟨⟨1⟩, 1, SecurityLevel.trustedEnvironment⟩ : KeyMintDevice).ownBlob entry = some stored ∧
        CharacteristicsRun stored calls [1] chars ∧ (fun _ => true) chars = true ∧
        (.nonSensitive [1] : KeyBlob) = .nonSensitive [1] ∧
        ((⟨⟨1⟩, 1, SecurityLevel.trustedEnvironment⟩ : KeyMintDevice).lookupOrGenerateKey
          (Store.env Store.device) ⟨Domain.app, 1017, none, none⟩ .client [] (fun _ => true)
          (ownKeyWorld b)).2.log =
          [] ++ .loadKeyEntry ⟨Domain.app, 1017, none, none⟩ .client 1017 (.ok (⟨0⟩, entry)) :: calls := by
    intro b hok hshort
    refine (lookupOrGenerateKey_reuses_or_regenerates (Store.env Store.device)
      ⟨⟨1⟩, 1, SecurityLevel.trustedEnvironment⟩ ⟨Domain.app, 1017, none, none⟩ .client
      (fun _ => true) [] _ ⟨0⟩ (.nonSensitive [1]) hok).or.resolve_right ?_
    rintro ⟨pre, _, _, _, _, hrej, -, -, hlog⟩
    have hlen := congrArg List.length hlog
    have hpre := hrej.length_pos
    simp only [List.length_append, List.length_nil, List.length_cons] at hlen
    omega
  exact ⟨⟨rfl, lookupOrGenerateKey_reuses_or_regenerates (Store.env Store.device)
    ⟨⟨1⟩, 1, SecurityLevel.trustedEnvironment⟩ ⟨Domain.app, 1017, none, none⟩ .client (fun _ => true)
    [] ⟨Store.empty, (), []⟩ ⟨0⟩ (.nonSensitive [1]) rfl⟩,
    ⟨rfl, hreused [1] rfl (by decide)⟩, ⟨rfl, hreused [0] rfl (by decide)⟩⟩

/-! ### Only this device's blobs reach it -/

/-- Phase one calls the device only on an entry whose blob metadata names this device: after the
load it either stops, or calls `getKeyCharacteristics` on the blob of an entry of its own. -/
theorem lookupExisting_device_only_on_own (w : World η κ) :
    ∃ answer, (self.lookupExisting env keyDesc keyType validate w).2.log =
        w.log ++ [.loadKeyEntry keyDesc keyType env.aidKeystore answer] ∨
      ∃ guard entry stored r, answer = .ok (guard, entry) ∧ self.ownBlob entry = some stored ∧
        w.log ++ [.loadKeyEntry keyDesc keyType env.aidKeystore answer,
          .getKeyCharacteristics stored r] <+: (self.lookupExisting env keyDesc keyType validate w).2.log := by
  rcases hl : env.loadKeyEntry w.host keyDesc keyType env.aidKeystore (fun _ _ => .ok ())
    with ⟨h₁, e | ⟨guard, entry⟩⟩
  · refine ⟨.error e, .inl ?_⟩
    by_cases he : e = .rc ResponseCode.keyNotFound <;> simp [lookupExisting, hl, he]
  rcases ho : self.ownBlob entry with _ | stored
  · exact ⟨.ok (guard, entry), .inl (by simp [lookupExisting, hl, ho])⟩
  refine ⟨.ok (guard, entry), .inr ⟨guard, entry, stored, (env.getKeyCharacteristics w.km stored).2,
    rfl, ho, ?_⟩⟩
  simp only [lookupExisting, lookupFromDesc, Host.loadKeyEntry, Ks.bind_apply, Ks.attempt_apply,
    Ks.host_apply, hl, Ks.next_ok, notFoundIsNone, Ks.lift_apply, ho]
  refine (List.IsPrefix.trans ?_ (prefix_upgradeKeyblobIfRequiredWith env self guard
    (.nonSensitive stored) (Km.getKeyCharacteristics env) (fun _ => Ks.appends_km _ _) _)).trans
    (Ks.prefix_next (fun _ => Ks.appends_pure _) _)
  simp

/-! ### Upgraded blobs are not persisted -/

omit self keyDesc keyType validate in
theorem upgradeKeyblobIfRequiredWith_host (device : KeyMintDevice) (kid : KeyIdGuard)
    (keyBlob : KeyBlob) (f : Blob → Ks η κ T) (hf : ∀ b w, (f b w).2.host = w.host)
    (w : World η κ) :
    (device.upgradeKeyblobIfRequiredWith env kid keyBlob f w).2.host = w.host := by
  have h₁ : (Utils.upgradeKeyblobIfRequiredWith env keyBlob.bytes [] f device.newBlobHandler () w).2.host =
      w.host :=
    Utils.upgradeKeyblobIfRequiredWith_host env hf (fun _ _ _ => rfl) w
  simp only [upgradeKeyblobIfRequiredWith, Ks.bind_apply]
  rcases h : Utils.upgradeKeyblobIfRequiredWith env keyBlob.bytes [] f device.newBlobHandler () w
    with ⟨e | _, w₁⟩ <;> rw [h] at h₁ <;> exact h₁

omit self keyDesc keyType validate in
/-- **Nothing is persisted.** The persistence steps of both upgrade protocols leave the host, and
so the store, as it was: the callback of `KeystoreSecurityLevel` and `store_upgraded_keyblob`,
which only re-encrypt, and the callback of `KeyMintDevice`, which does nothing at all and reports
success. So a call whose operation is a device call, upgrade or not, re-encryption or not, leaves
the store holding the blob it held before. -/
theorem upgradedBlob_never_written :
    (∀ kmUuid keyBlob upgradedBlob keyIdGuard (w : World η κ),
      ((KeystoreSecurityLevel.newBlobHandler env kmUuid keyBlob upgradedBlob keyIdGuard).2 w).2.host =
        w.host) ∧
    (∀ kid kmUuid keyBlob upgradedBlob (w : World η κ),
      (KeystoreSecurityLevel.storeUpgradedKeyblob env kid kmUuid keyBlob upgradedBlob w).2.host =
        w.host) ∧
    (∀ (device : KeyMintDevice) upgradedBlob (w : World η κ),
      (device.newBlobHandler upgradedBlob ()).2 w = (.ok (), w)) ∧
    (∀ keyIdGuard keyBlob kmUuid params (f : Blob → Ks η κ T) (w : World η κ),
      (∀ b w', (f b w').2.host = w'.host) →
      (KeystoreSecurityLevel.upgradeKeyblobIfRequiredWith env keyIdGuard keyBlob kmUuid params f w).2.host =
        w.host) ∧
    (∀ (device : KeyMintDevice) kid keyBlob (f : Blob → Ks η κ T) (w : World η κ),
      (∀ b w', (f b w').2.host = w'.host) →
      (device.upgradeKeyblobIfRequiredWith env kid keyBlob f w).2.host = w.host) :=
  ⟨fun _ _ _ g w => KeystoreSecurityLevel.newBlobHandler_host env g w,
    fun _ _ _ _ w => KeystoreSecurityLevel.storeUpgradedKeyblob_host env w,
    fun _ _ _ => rfl,
    fun g _ _ params f w hf => KeystoreSecurityLevel.upgradeKeyblobIfRequiredWith_host env g params f hf w,
    fun device kid keyBlob f w hf => upgradeKeyblobIfRequiredWith_host env device kid keyBlob f hf w⟩

/-- With `getKeyCharacteristics` as the operation, both wrappers leave the store alone. -/
theorem upgradedBlob_never_written_onCharacteristics :
    (∀ b (w : World Store Unit),
      (Km.getKeyCharacteristics (Store.env Store.device) b w).2.host = w.host) ∧
    (KeystoreSecurityLevel.upgradeKeyblobIfRequiredWith (Store.env Store.device) (some ⟨0⟩)
      (.nonSensitive [0]) (some ⟨1⟩) [] (Km.getKeyCharacteristics (Store.env Store.device))
      ⟨Store.empty, (), []⟩).2.host = Store.empty :=
  have hf : ∀ b (w : World Store Unit),
      (Km.getKeyCharacteristics (Store.env Store.device) b w).2.host = w.host := fun _ _ => rfl
  ⟨hf, (upgradedBlob_never_written (Store.env Store.device)).2.2.2.1 (some ⟨0⟩) (.nonSensitive [0])
    (some ⟨1⟩) [] (Km.getKeyCharacteristics (Store.env Store.device)) ⟨Store.empty, (), []⟩ hf⟩

/-- A key stored in the device's old format, at key id `0`. Both protocols upgrade it, and the
persistence step answers `Ok`, but the store still holds the old blob afterwards, which the
device asks to upgrade again on the next load. -/
theorem upgradedBlob_lost_onOldBlob :
    KeystoreSecurityLevel.upgradeKeyblobIfRequiredWith (Store.env Store.device) (some ⟨0⟩)
        (.nonSensitive [0]) (some ⟨1⟩) [] (Km.getKeyCharacteristics (Store.env Store.device))
        ⟨(Store.empty.storeNewKey ⟨Domain.app, 1017, none, none⟩ [] ⟨[0], ⟨some ⟨1⟩, []⟩⟩).1, (), []⟩ =
      (.ok ([], some [1]),
        ⟨(Store.empty.storeNewKey ⟨Domain.app, 1017, none, none⟩ [] ⟨[0], ⟨some ⟨1⟩, []⟩⟩).1, (),
          [.getKeyCharacteristics [0] (.error (.km ErrorCode.keyRequiresUpgrade)),
           .upgradeKey [0] [] (.ok [1]),
           .reencryptIfRequired (.nonSensitive [0]) [1] (.ok ([1], none)),
           .getKeyCharacteristics [1] (.ok [])]⟩) ∧
    (⟨⟨1⟩, 1, SecurityLevel.trustedEnvironment⟩ : KeyMintDevice).lookupExisting (Store.env Store.device)
        ⟨Domain.app, 1017, none, none⟩ .client (fun _ => true)
        ⟨(Store.empty.storeNewKey ⟨Domain.app, 1017, none, none⟩ [] ⟨[0], ⟨some ⟨1⟩, []⟩⟩).1, (), []⟩ =
      (.ok (some (⟨0⟩, .nonSensitive [1])),
        ⟨(Store.empty.storeNewKey ⟨Domain.app, 1017, none, none⟩ [] ⟨[0], ⟨some ⟨1⟩, []⟩⟩).1, (),
          [.loadKeyEntry ⟨Domain.app, 1017, none, none⟩ .client 1017
             (.ok (⟨0⟩, ⟨some ([0], ⟨some ⟨1⟩, []⟩), []⟩)),
           .getKeyCharacteristics [0] (.error (.km ErrorCode.keyRequiresUpgrade)),
           .upgradeKey [0] [] (.ok [1]),
           .getKeyCharacteristics [1] (.ok [])]⟩) ∧
    (Store.empty.storeNewKey ⟨Domain.app, 1017, none, none⟩ [] ⟨[0], ⟨some ⟨1⟩, []⟩⟩).1.lookup
        ⟨Domain.app, 1017, none, none⟩ = some (⟨0⟩, ⟨some ([0], ⟨some ⟨1⟩, []⟩), []⟩) ∧
    (Store.device.getKeyCharacteristics () [0]).2 = .error (.km ErrorCode.keyRequiresUpgrade) :=
  ⟨rfl, rfl, rfl, rfl⟩

end KeyMintDevice

end Keystore2
