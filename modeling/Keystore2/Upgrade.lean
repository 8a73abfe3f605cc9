import Keystore2.Store

/-!
# The key upgrade protocol

An operation on a stored blob may find that the device wants the blob in a newer format. The
protocol then upgrades it, hands the new blob to a persistence callback, and runs the operation
again on the new blob. `KeystoreSecurityLevel` persists through `store_upgraded_keyblob`, under
the key's lock guard, which its callback takes: so a blob it has stored after an upgrade is not
stored a second time by the forced re-encryption that follows.
-/

namespace Keystore2

variable {η κ ρ T : Type} (env : Env η κ)

namespace Utils

/-- Modelled from the spec: `utils::upgrade_keyblob_if_required_with` is not in src. Section 4.2:
run `kmOp` on the blob; when the device demands an upgrade, upgrade the blob with
`upgradeParams`, hand the new blob to `newBlobHandler` to persist it (a failure to persist is not
an operation failure), and run `kmOp` once more on the new blob, returning its result with the
new blob; any other outcome is returned as it is. The handler gives the new value of what it
captured, `ρ`, and the effect it runs. -/
def upgradeKeyblobIfRequiredWith (keyBlob : Blob) (upgradeParams : List KeyParameter)
    (kmOp : Blob → Ks η κ T) (newBlobHandler : Blob → ρ → ρ × Ks η κ Unit) (captured : ρ) :
    Ks η κ ((T × Option Blob) × ρ) := do
  match ← Ks.attempt (kmOp keyBlob) with
  | .ok v => pure ((v, none), captured)
  | .error e =>
    if e = .km ErrorCode.keyRequiresUpgrade then
      let upgradedBlob ← Km.upgradeKey env keyBlob upgradeParams
      let (captured, persist) := newBlobHandler upgradedBlob captured
      let _ ← Ks.attempt persist
      let v ← kmOp upgradedBlob
      pure ((v, some upgradedBlob), captured)
    else
      Ks.throw e

/-! ### What one run of the protocol does -/

variable {keyBlob : Blob} {upgradeParams : List KeyParameter} {kmOp : Blob → Ks η κ T}
  {newBlobHandler : Blob → ρ → ρ × Ks η κ Unit} {captured : ρ} {w w₁ : World η κ}

/-- The world after the upgrade call, from the world before it. -/
def upgraded (w₁ : World η κ) (keyBlob : Blob) (upgradeParams : List KeyParameter) (k : κ)
    (answer : Except Error Blob) : World η κ :=
  { w₁ with km := k, log := w₁.log ++ [.upgradeKey keyBlob upgradeParams answer] }

theorem upgradeKeyblobIfRequiredWith_of_ok {v : T} (h : kmOp keyBlob w = (.ok v, w₁)) :
    upgradeKeyblobIfRequiredWith env keyBlob upgradeParams kmOp newBlobHandler captured w =
      (.ok ((v, none), captured), w₁) := by
  simp [upgradeKeyblobIfRequiredWith, h]

theorem upgradeKeyblobIfRequiredWith_of_error {e : Error} (h : kmOp keyBlob w = (.error e, w₁))
    (he : e ≠ .km ErrorCode.keyRequiresUpgrade) :
    upgradeKeyblobIfRequiredWith env keyBlob upgradeParams kmOp newBlobHandler captured w =
      (.error e, w₁) := by
  simp [upgradeKeyblobIfRequiredWith, h, he]

theorem upgradeKeyblobIfRequiredWith_of_upgrade_error {e : Error} {k : κ}
    (h : kmOp keyBlob w = (.error (.km ErrorCode.keyRequiresUpgrade), w₁))
    (hu : env.upgradeKey w₁.km keyBlob upgradeParams = (k, .error e)) :
    upgradeKeyblobIfRequiredWith env keyBlob upgradeParams kmOp newBlobHandler captured w =
      (.error e, upgraded w₁ keyBlob upgradeParams k (.error e)) := by
  simp [upgradeKeyblobIfRequiredWith, Km.upgradeKey, upgraded, h, hu]

/-- After an upgrade the handler runs, whatever it answers, and the operation runs again on the
new blob. -/
theorem upgradeKeyblobIfRequiredWith_of_upgrade {upgradedBlob : Blob} {k : κ}
    (h : kmOp keyBlob w = (.error (.km ErrorCode.keyRequiresUpgrade), w₁))
    (hu : env.upgradeKey w₁.km keyBlob upgradeParams = (k, .ok upgradedBlob)) :
    upgradeKeyblobIfRequiredWith env keyBlob upgradeParams kmOp newBlobHandler captured w =
      Ks.next (fun v => pure ((v, some upgradedBlob), (newBlobHandler upgradedBlob captured).1))
        (kmOp upgradedBlob ((newBlobHandler upgradedBlob captured).2
          (upgraded w₁ keyBlob upgradeParams k (.ok upgradedBlob))).2) := by
  simp [upgradeKeyblobIfRequiredWith, Km.upgradeKey, upgraded, h, hu]

/-- A value the protocol returns is the answer of its last run of the operation, whose world
it leaves as it is. -/
theorem upgradeKeyblobIfRequiredWith_of_fst_ok {v : T} {upgradedBlob : Option Blob} {c : ρ}
    (h : (upgradeKeyblobIfRequiredWith env keyBlob upgradeParams kmOp newBlobHandler captured w).1 =
      .ok ((v, upgradedBlob), c)) :
    ∃ b w₀, kmOp b w₀ =
      (.ok v, (upgradeKeyblobIfRequiredWith env keyBlob upgradeParams kmOp newBlobHandler captured w).2) := by
  rcases h₁ : kmOp keyBlob w with ⟨e | v₁, w₁⟩
  · by_cases he : e = .km ErrorCode.keyRequiresUpgrade
    · subst he
      rcases hu : env.upgradeKey w₁.km keyBlob upgradeParams with ⟨k, e | b⟩
      · rw [upgradeKeyblobIfRequiredWith_of_upgrade_error env h₁ hu] at h ⊢
        cases h
      · rw [upgradeKeyblobIfRequiredWith_of_upgrade env h₁ hu] at h ⊢
        rcases h₂ : kmOp b ((newBlobHandler b captured).2
            (upgraded w₁ keyBlob upgradeParams k (.ok b))).2 with ⟨e | v₂, w₂⟩ <;> rw [h₂] at h
        · cases h
        · cases h
          exact ⟨b, _, h₂⟩
    · rw [upgradeKeyblobIfRequiredWith_of_error env h₁ he] at h
      cases h
  · rw [upgradeKeyblobIfRequiredWith_of_ok env h₁] at h ⊢
    cases h
    exact ⟨keyBlob, w, h₁⟩

/-- The protocol starts with the operation on the blob as it is. -/
theorem prefix_upgradeKeyblobIfRequiredWith (hop : ∀ b, Ks.Appends (kmOp b))
    (hh : ∀ b c, Ks.Appends (newBlobHandler b c).2) (w : World η κ) :
    (kmOp keyBlob w).2.log <+:
      (upgradeKeyblobIfRequiredWith env keyBlob upgradeParams kmOp newBlobHandler captured w).2.log := by
  refine Ks.prefix_next (fun r => ?_) (Ks.attempt (kmOp keyBlob) w)
  rcases r with e | v
  · refine Ks.appends_ite (Ks.appends_bind (Ks.appends_km _ _) fun b => ?_) (Ks.appends_throw e)
    exact Ks.appends_bind (Ks.appends_attempt (hh _ _)) fun _ =>
      Ks.appends_bind (hop _) fun _ => Ks.appends_pure _
  · exact Ks.appends_pure _

theorem upgradeKeyblobIfRequiredWith_appends (hop : ∀ b, Ks.Appends (kmOp b))
    (hh : ∀ b c, Ks.Appends (newBlobHandler b c).2) :
    Ks.Appends (upgradeKeyblobIfRequiredWith env keyBlob upgradeParams kmOp newBlobHandler captured) :=
  fun w => (hop keyBlob w).trans (prefix_upgradeKeyblobIfRequiredWith env hop hh w)

/-- The protocol calls nothing but the operation, the upgrade and the handler. -/
theorem upgradeKeyblobIfRequiredWith_logs {P : Event → Prop} (hop : ∀ b, Ks.Logs (kmOp b) P)
    (hup : ∀ r, P (.upgradeKey keyBlob upgradeParams r))
    (hh : ∀ b c, Ks.Logs (newBlobHandler b c).2 P) :
    Ks.Logs (upgradeKeyblobIfRequiredWith env keyBlob upgradeParams kmOp newBlobHandler captured) P :=
  Ks.logs_bind (Ks.logs_attempt (hop _)) fun
    | .ok _ => Ks.logs_pure _
    | .error e => Ks.logs_ite (Ks.logs_bind (Ks.logs_km hup) fun _ =>
        Ks.logs_bind (Ks.logs_attempt (hh _ _)) fun _ => Ks.logs_bind (hop _) fun _ => Ks.logs_pure _)
      (Ks.logs_throw e)

/-- The protocol writes to the host only through the operation and the handler. -/
theorem upgradeKeyblobIfRequiredWith_host (hop : ∀ b w, (kmOp b w).2.host = w.host)
    (hh : ∀ b c w, ((newBlobHandler b c).2 w).2.host = w.host) (w : World η κ) :
    (upgradeKeyblobIfRequiredWith env keyBlob upgradeParams kmOp newBlobHandler captured w).2.host =
      w.host := by
  have h₁ := hop keyBlob w
  rcases h : kmOp keyBlob w with ⟨e | v, w₁⟩ <;> rw [h] at h₁
  · by_cases he : e = .km ErrorCode.keyRequiresUpgrade
    · subst he
      rcases hu : env.upgradeKey w₁.km keyBlob upgradeParams with ⟨k, e | b⟩
      · rw [upgradeKeyblobIfRequiredWith_of_upgrade_error env h hu]
        exact h₁
      · rw [upgradeKeyblobIfRequiredWith_of_upgrade env h hu, Ks.next_pure_snd, hop, hh]
        exact h₁
    · rw [upgradeKeyblobIfRequiredWith_of_error env h he]
      exact h₁
  · rw [upgradeKeyblobIfRequiredWith_of_ok env h]
    exact h₁

end Utils

/-- `KeystoreSecurityLevel`: the level it serves, and the hardware info and uuid of its KeyMint
device (the device itself is the world's). -/
structure KeystoreSecurityLevel where
  securityLevel : SecurityLevel
  hwInfo : KeyMintHardwareInfo
  kmUuid : Uuid
  deriving DecidableEq, Repr

namespace KeystoreSecurityLevel

/-- `store_upgraded_keyblob`: re-encrypts the new blob as the old one was, and builds its
metadata with the uuid. The database write of both is commented out in the source, so nothing
is stored. -/
def storeUpgradedKeyblob (_keyIdGuard : KeyIdGuard) (kmUuid : Option Uuid) (keyBlob : KeyBlob)
    (upgradedBlob : Blob) : Ks η κ Unit := do
  let (_upgradedBlobToBeStored, newBlobMetadata) ← Host.reencryptIfRequired env keyBlob upgradedBlob
  let newBlobMetadata := newBlobMetadata.getD BlobMetaData.new
  let _newBlobMetadata := match kmUuid with
    | some uuid => newBlobMetadata.addKmUuid uuid
    | none => newBlobMetadata
  pure ()

/-- The persistence callback of `upgrade_keyblob_if_required_with`: it takes the guard, when one
is held, and stores the new blob under it. -/
def newBlobHandler (kmUuid : Option Uuid) (keyBlob : KeyBlob) (upgradedBlob : Blob) :
    Option KeyIdGuard → Option KeyIdGuard × Ks η κ Unit
  | some kid => (none, storeUpgradedKeyblob env kid kmUuid keyBlob upgradedBlob)
  | none => (none, pure ())

/-- `upgrade_keyblob_if_required_with`: the protocol, persisting through `newBlobHandler`; then,
when no upgrade took the guard, the forced re-encryption of the blob as it is. -/
def upgradeKeyblobIfRequiredWith (keyIdGuard : Option KeyIdGuard) (keyBlob : KeyBlob)
    (kmUuid : Option Uuid) (params : List KeyParameter) (f : Blob → Ks η κ T) :
    Ks η κ (T × Option Blob) := do
  let ((v, upgradedBlob), keyIdGuard) ← Utils.upgradeKeyblobIfRequiredWith env keyBlob.bytes params f
    (newBlobHandler env kmUuid keyBlob) keyIdGuard
  if keyBlob.forceReencrypt then
    match keyIdGuard with
    | some kid => storeUpgradedKeyblob env kid kmUuid keyBlob keyBlob.bytes
    | none => pure ()
  pure (v, upgradedBlob)

end KeystoreSecurityLevel

/-- The blobs handed to `store_upgraded_keyblob` in a log, in order: each call of it starts with
the service's one call of `reencrypt_if_required`, on the blob it was handed. -/
def storedBlobs : List Event → List Blob
  | [] => []
  | .reencryptIfRequired _ upgradedBlob _ :: log => upgradedBlob :: storedBlobs log
  | _ :: log => storedBlobs log

@[simp]
theorem storedBlobs_append (log log' : List Event) :
    storedBlobs (log ++ log') = storedBlobs log ++ storedBlobs log' := by
  induction log with
  | nil => rfl
  | cons e log ih => cases e <;> simp [storedBlobs, ih]

namespace KeystoreSecurityLevel

variable {kid : KeyIdGuard} {kmUuid : Option Uuid} {keyBlob : KeyBlob} {upgradedBlob : Blob}

/-- `store_upgraded_keyblob` is one call of `reencrypt_if_required`, and leaves the host and the
device as they were. -/
theorem storeUpgradedKeyblob_apply (w : World η κ) :
    storeUpgradedKeyblob env kid kmUuid keyBlob upgradedBlob w =
      ((env.reencryptIfRequired w.host keyBlob upgradedBlob).map fun _ => (),
        { w with log := w.log ++
          [.reencryptIfRequired keyBlob upgradedBlob (env.reencryptIfRequired w.host keyBlob upgradedBlob)] }) := by
  cases h : env.reencryptIfRequired w.host keyBlob upgradedBlob <;>
    simp [storeUpgradedKeyblob, Host.reencryptIfRequired, h, Except.map]

@[simp]
theorem storeUpgradedKeyblob_host (w : World η κ) :
    (storeUpgradedKeyblob env kid kmUuid keyBlob upgradedBlob w).2.host = w.host := by
  simp [storeUpgradedKeyblob_apply]

theorem newBlobHandler_host (keyIdGuard : Option KeyIdGuard) (w : World η κ) :
    ((newBlobHandler env kmUuid keyBlob upgradedBlob keyIdGuard).2 w).2.host = w.host := by
  cases keyIdGuard <;> simp [newBlobHandler]

/-- Whatever the device answers, a call whose operation leaves the host alone leaves it alone. -/
theorem upgradeKeyblobIfRequiredWith_host (keyIdGuard : Option KeyIdGuard)
    (params : List KeyParameter) (f : Blob → Ks η κ T) (hf : ∀ b w, (f b w).2.host = w.host)
    (w : World η κ) :
    (upgradeKeyblobIfRequiredWith env keyIdGuard keyBlob kmUuid params f w).2.host = w.host := by
  have h₁ : (Utils.upgradeKeyblobIfRequiredWith env keyBlob.bytes params f
      (newBlobHandler env kmUuid keyBlob) keyIdGuard w).2.host = w.host :=
    Utils.upgradeKeyblobIfRequiredWith_host env hf (fun _ c w => newBlobHandler_host env c w) w
  simp only [upgradeKeyblobIfRequiredWith, Ks.bind_apply]
  rcases h : Utils.upgradeKeyblobIfRequiredWith env keyBlob.bytes params f
    (newBlobHandler env kmUuid keyBlob) keyIdGuard w with ⟨e | ⟨⟨v, b⟩, g⟩, w₁⟩ <;> rw [h] at h₁
  · exact h₁
  · cases g <;> cases keyBlob.forceReencrypt <;> simpa using h₁

theorem storeUpgradedKeyblob_appends :
    Ks.Appends (storeUpgradedKeyblob env kid kmUuid keyBlob upgradedBlob) := fun w => by
  simp [storeUpgradedKeyblob_apply]

theorem newBlobHandler_appends (b : Blob) (c : Option KeyIdGuard) :
    Ks.Appends (newBlobHandler env kmUuid keyBlob b c).2 := by
  cases c
  · exact Ks.appends_pure _
  · simp only [newBlobHandler]
    exact storeUpgradedKeyblob_appends env

/-- The call starts with `f` on the blob as it is. -/
theorem prefix_upgradeKeyblobIfRequiredWith (keyIdGuard : Option KeyIdGuard)
    (params : List KeyParameter) (f : Blob → Ks η κ T) (hf : ∀ b, Ks.Appends (f b))
    (w : World η κ) :
    (f keyBlob.bytes w).2.log <+:
      (upgradeKeyblobIfRequiredWith env keyIdGuard keyBlob kmUuid params f w).2.log := by
  refine (Utils.prefix_upgradeKeyblobIfRequiredWith env hf (newBlobHandler_appends env) w).trans
    (Ks.prefix_next (fun ⟨⟨v, b⟩, g⟩ => ?_) _)
  dsimp only
  split
  · split
    · exact Ks.appends_bind (storeUpgradedKeyblob_appends env) fun _ => Ks.appends_pure _
    · exact Ks.appends_pure _
  · exact Ks.appends_pure _

theorem upgradeKeyblobIfRequiredWith_appends (keyIdGuard : Option KeyIdGuard)
    (params : List KeyParameter) (f : Blob → Ks η κ T) (hf : ∀ b, Ks.Appends (f b)) :
    Ks.Appends (upgradeKeyblobIfRequiredWith env keyIdGuard keyBlob kmUuid params f) :=
  fun w => (hf _ w).trans (prefix_upgradeKeyblobIfRequiredWith env keyIdGuard params f hf w)

section Logs

variable {P : Event → Prop}

theorem storeUpgradedKeyblob_logs (hre : ∀ r, P (.reencryptIfRequired keyBlob upgradedBlob r)) :
    Ks.Logs (storeUpgradedKeyblob env kid kmUuid keyBlob upgradedBlob) P :=
  fun w => ⟨[_], by rw [storeUpgradedKeyblob_apply], by simpa using hre _⟩

/-- The call makes no call but `f`'s, the upgrade and the re-encryption. -/
theorem upgradeKeyblobIfRequiredWith_logs (keyIdGuard : Option KeyIdGuard)
    (params : List KeyParameter) (f : Blob → Ks η κ T) (hf : ∀ b, Ks.Logs (f b) P)
    (hup : ∀ r, P (.upgradeKey keyBlob.bytes params r))
    (hre : ∀ b r, P (.reencryptIfRequired keyBlob b r)) :
    Ks.Logs (upgradeKeyblobIfRequiredWith env keyIdGuard keyBlob kmUuid params f) P := by
  refine Ks.logs_bind (Utils.upgradeKeyblobIfRequiredWith_logs env hf hup fun b c => ?_)
    fun ⟨⟨v, b⟩, g⟩ => ?_
  · cases c <;> dsimp only [newBlobHandler]
    · exact Ks.logs_pure _
    · exact storeUpgradedKeyblob_logs env (hre b)
  · dsimp only
    split
    · split
      · exact Ks.logs_bind (storeUpgradedKeyblob_logs env (hre _)) fun _ => Ks.logs_pure _
      · exact Ks.logs_pure _
    · exact Ks.logs_pure _

end Logs

theorem storedBlobs_storeUpgradedKeyblob (w : World η κ) :
    storedBlobs (storeUpgradedKeyblob env kid kmUuid keyBlob upgradedBlob w).2.log =
      storedBlobs w.log ++ [upgradedBlob] := by
  simp [storeUpgradedKeyblob_apply, storedBlobs]

end KeystoreSecurityLevel

/-! ### At most one store per call -/

namespace KeystoreSecurityLevel

variable (keyIdGuard : Option KeyIdGuard) (keyBlob : KeyBlob) (kmUuid : Option Uuid)
  (params : List KeyParameter) (f : Blob → Ks η κ T)

/-- The blobs one call stores, read off the first answer of `f`: the upgraded blob after a
demanded upgrade that succeeded, the blob itself when it is current and must be re-encrypted,
and only under a guard; provided `f` stores nothing itself. -/
theorem storedBlobs_upgradeKeyblobIfRequiredWith
    (hf : ∀ b w, storedBlobs (f b w).2.log = storedBlobs w.log) (w : World η κ) :
    storedBlobs (upgradeKeyblobIfRequiredWith env keyIdGuard keyBlob kmUuid params f w).2.log =
      storedBlobs w.log ++ (match f keyBlob.bytes w with
        | (.ok _, _) => if keyBlob.forceReencrypt ∧ keyIdGuard.isSome then [keyBlob.bytes] else []
        | (.error e, w₁) =>
          if e = .km ErrorCode.keyRequiresUpgrade ∧ keyIdGuard.isSome then
            match (env.upgradeKey w₁.km keyBlob.bytes params).2 with
            | .ok upgradedBlob => [upgradedBlob]
            | .error _ => []
          else []) := by
  have hf₁ := hf keyBlob.bytes w
  simp only [upgradeKeyblobIfRequiredWith, Ks.bind_apply]
  rcases hr : f keyBlob.bytes w with ⟨e | v, w₁⟩ <;> rw [hr] at hf₁
  · by_cases he : e = .km ErrorCode.keyRequiresUpgrade
    · subst he
      rcases hu : env.upgradeKey w₁.km keyBlob.bytes params with ⟨k, e | b⟩
      · rw [Utils.upgradeKeyblobIfRequiredWith_of_upgrade_error env hr hu]
        simp [Utils.upgraded, storedBlobs, hf₁, hu]
      · rw [Utils.upgradeKeyblobIfRequiredWith_of_upgrade env hr hu]
        cases keyIdGuard <;>
          simp [newBlobHandler, hf, Utils.upgraded, storedBlobs, hf₁, hu, storedBlobs_storeUpgradedKeyblob]
    · rw [Utils.upgradeKeyblobIfRequiredWith_of_error env hr he]
      simp [he, hf₁]
  · rw [Utils.upgradeKeyblobIfRequiredWith_of_ok env hr]
    cases keyIdGuard <;> cases hforce : keyBlob.forceReencrypt <;>
      simp [hforce, storedBlobs_storeUpgradedKeyblob, hf₁]

/-- A current blob that needs no re-encryption costs the one call of `f` and nothing else. -/
theorem upgradeKeyblobIfRequiredWith_of_current {w w₁ : World η κ} {v : T}
    (hr : f keyBlob.bytes w = (.ok v, w₁)) (hforce : keyBlob.forceReencrypt = false) :
    upgradeKeyblobIfRequiredWith env keyIdGuard keyBlob kmUuid params f w = (.ok (v, none), w₁) := by
  simp only [upgradeKeyblobIfRequiredWith, Ks.bind_apply, Utils.upgradeKeyblobIfRequiredWith_of_ok env hr]
  simp [hforce]

/-- **At most one store.** One call of `upgrade_keyblob_if_required_with` hands at most one blob
to `store_upgraded_keyblob`: the upgraded blob when the device demanded an upgrade that succeeded,
the original blob when it was current and marked for re-encryption, and none otherwise or without
a guard. A current blob not marked for re-encryption costs the single call of `f`. -/
theorem upgradeKeyblobIfRequiredWith_stores_at_most_once
    (hf : ∀ b w, storedBlobs (f b w).2.log = storedBlobs w.log) (w : World η κ) :
    storedBlobs (upgradeKeyblobIfRequiredWith env keyIdGuard keyBlob kmUuid params f w).2.log =
      storedBlobs w.log ++ (match f keyBlob.bytes w with
        | (.ok _, _) => if keyBlob.forceReencrypt ∧ keyIdGuard.isSome then [keyBlob.bytes] else []
        | (.error e, w₁) =>
          if e = .km ErrorCode.keyRequiresUpgrade ∧ keyIdGuard.isSome then
            match (env.upgradeKey w₁.km keyBlob.bytes params).2 with
            | .ok upgradedBlob => [upgradedBlob]
            | .error _ => []
          else []) ∧
    ∀ v w₁, f keyBlob.bytes w = (.ok v, w₁) → keyBlob.forceReencrypt = false →
      upgradeKeyblobIfRequiredWith env keyIdGuard keyBlob kmUuid params f w = (.ok (v, none), w₁) :=
  ⟨storedBlobs_upgradeKeyblobIfRequiredWith env keyIdGuard keyBlob kmUuid params f hf w,
    fun _ _ hr hforce => upgradeKeyblobIfRequiredWith_of_current env keyIdGuard keyBlob kmUuid params f hr hforce⟩

/-- A stored blob in the old format, under a guard: the upgraded blob is stored, once. -/
theorem upgradeKeyblobIfRequiredWith_stores_at_most_once_on_upgrade :
    (∀ b (w : World Store Unit), storedBlobs (Km.getKeyCharacteristics (Store.env Store.device) b w).2.log =
      storedBlobs w.log) ∧
    storedBlobs (upgradeKeyblobIfRequiredWith (Store.env Store.device) (some ⟨1⟩) (.nonSensitive [0])
      none [] (Km.getKeyCharacteristics (Store.env Store.device)) ⟨Store.empty, (), []⟩).2.log = [[1]] :=
  have hf : ∀ b (w : World Store Unit),
      storedBlobs (Km.getKeyCharacteristics (Store.env Store.device) b w).2.log = storedBlobs w.log :=
    fun _ _ => by simp [storedBlobs]
  ⟨hf, (upgradeKeyblobIfRequiredWith_stores_at_most_once _ _ _ _ _ _ hf _).1.trans rfl⟩

end KeystoreSecurityLevel

end Keystore2
