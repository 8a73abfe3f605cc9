import Keystore2.RawDevice

/-!
# `create_operation`

An operation starts from a key: a `BLOB` descriptor's own blob, or the stored entry of any
other descriptor, loaded through the legacy importer. The blob is unwrapped if it is
super-encrypted and handed to the device's `begin` under the upgrade protocol, inside a loop
that prunes the operation table each time the device reports `TOO_MANY_OPERATIONS`.

The loop has no bound in the source. It is modelled with fuel, and its termination is the
theorem that past `n + 1` passes, where `n` counts the operations the pruner may evict, the
fuel makes no difference.
-/

namespace Keystore2

variable {η κ α : Type} (env : Env η κ)

namespace LegacyImporter

/-- Modelled from the spec: `LEGACY_IMPORTER.with_try_import` of `legacy_importer.rs` is not in
src, and the spec gives it no section of its own, so this is the contract its call sites in
`security_level.rs` rely on. It runs the load, and when the load reports
`KEY_NOT_FOUND` it imports the legacy entry of the descriptor it was handed and runs the load
again. A failed import ends the call with its error. -/
def withTryImport (key : KeyDescriptor) (callerUid : Nat) (superKey : Option SuperKey)
    (keyAccessor : Ks η κ α) : Ks η κ α := do
  match ← Ks.attempt keyAccessor with
  | .ok v => pure v
  | .error e =>
    if e = .rc ResponseCode.keyNotFound then do
      Host.importLegacy env key callerUid superKey
      keyAccessor
    else
      Ks.throw e

theorem withTryImport_appends {key : KeyDescriptor} {callerUid : Nat} {superKey : Option SuperKey}
    {keyAccessor : Ks η κ α} (h : Ks.Appends keyAccessor) :
    Ks.Appends (withTryImport env key callerUid superKey keyAccessor) := by
  refine Ks.appends_bind (Ks.appends_attempt h) fun r => ?_
  rcases r with e | v
  · exact Ks.appends_ite (Ks.appends_bind (Ks.appends_host _ _) fun _ => h) (Ks.appends_throw e)
  · exact Ks.appends_pure v

/-- When the load reports `KEY_NOT_FOUND`, the next call is the import of the descriptor the
importer was handed. -/
theorem prefix_withTryImport_notFound (key : KeyDescriptor) (callerUid : Nat)
    (superKey : Option SuperKey) {keyAccessor : Ks η κ α} (h : Ks.Appends keyAccessor)
    {w w₁ : World η κ} (hf : keyAccessor w = (.error (.rc ResponseCode.keyNotFound), w₁)) :
    ∃ answer, w₁.log ++ [.importLegacy key callerUid answer] <+:
      (withTryImport env key callerUid superKey keyAccessor w).2.log := by
  refine ⟨(env.importLegacy w₁.host key callerUid superKey).2, ?_⟩
  simp only [withTryImport, Ks.bind_apply, Ks.attempt_apply, hf, Ks.next_ok, if_true]
  exact Ks.prefix_next (fun _ => h) (Host.importLegacy env key callerUid superKey w₁)

/-- A key load that reports `KEY_NOT_FOUND` is followed by the import of the descriptor the
importer was handed, whichever key was loaded. -/
theorem prefix_withTryImport_load_notFound (key : KeyDescriptor) (superKey : Option SuperKey)
    {loadKey : KeyDescriptor} {keyType : KeyType} {callerUid : Nat}
    {check : KeyDescriptor → Option (List KeyPerm) → Except Error Unit} {w : World η κ} {h₁ : η}
    (hl : env.loadKeyEntry w.host loadKey keyType callerUid check =
      (h₁, .error (.rc ResponseCode.keyNotFound))) :
    ∃ answer, w.log ++ [.loadKeyEntry loadKey keyType callerUid (.error (.rc ResponseCode.keyNotFound)),
        .importLegacy key callerUid answer] <+:
      (withTryImport env key callerUid superKey
        (Host.loadKeyEntry env loadKey keyType callerUid check) w).2.log := by
  have hf : Host.loadKeyEntry env loadKey keyType callerUid check w =
      (.error (.rc ResponseCode.keyNotFound), { w with host := h₁, log := w.log ++
        [.loadKeyEntry loadKey keyType callerUid (.error (.rc ResponseCode.keyNotFound))] }) := by
    simp [hl]
  obtain ⟨answer, h⟩ := prefix_withTryImport_notFound env key callerUid superKey
    (Ks.appends_host _ _) hf
  exact ⟨answer, List.IsPrefix.trans (by simp) h⟩

end LegacyImporter

namespace KeystoreSecurityLevel

/-- The permission check of `create_operation`: `USE`, and `REQ_FORCED_OP` for a forced
operation. -/
def usePermission (forced : Bool) (k : KeyDescriptor) (av : Option (List KeyPerm)) :
    Except Error Unit := do
  env.checkKeyPermission .use k av
  if forced then env.checkKeyPermission .reqForcedOp k av

/-- The key of `create_operation`: the blob, the key id with the key's parameters, the guard and
the blob metadata. -/
def loadOperationKey (callerUid : Nat) (key : KeyDescriptor) (forced : Bool) :
    Ks η κ (Blob × Option (Int × List KsKeyParam) × Option KeyIdGuard × BlobMetaData) :=
  if key.domain = Domain.blob then do
    Ks.lift (usePermission env forced key none)
    match key.blob with
    | some blob => pure (blob, none, none, BlobMetaData.new)
    | none => Ks.throw Error.sys
  else do
    let superKey ← Host.getAfterFirstUnlockKeyByUserId env (env.uidToAndroidUser callerUid)
    let (keyIdGuard, keyEntry) ← LegacyImporter.withTryImport env key callerUid superKey
      (Host.loadKeyEntry env key .client callerUid (usePermission env forced))
    match keyEntry.keyBlobInfo with
    | some (blob, blobMetadata) =>
      pure (blob, some (keyIdGuard.id, keyEntry.params), some keyIdGuard, blobMetadata)
    | none => Ks.throw Error.sys

/-- The purpose of an operation: its first `PURPOSE` parameter, which must hold a purpose. -/
def operationPurpose (operationParameters : List KeyParameter) : Except Error KeyPurpose :=
  match operationParameters.find? (·.tag = Tag.purpose) with
  | some ⟨_, .keyPurpose p⟩ => .ok p
  | _ => .error (.km ErrorCode.invalidArgument)

/-- The audit of a blob the device calls invalid: the key's descriptor, when it has a key id
and the id has one, goes to the integrity-violation log. -/
def logIntegrityViolation (keyProperties : Option (Int × List KsKeyParam)) : Ks η κ Unit :=
  match keyProperties with
  | some (keyId, _) => do
    match ← Ks.attempt (Host.loadKeyDescriptor env keyId) with
    | .ok (some key) => Host.logKeyIntegrityViolation env key
    | _ => pure ()
  | none => pure ()

/-- The `loop` around `begin`, with `fuel` passes: `TOO_MANY_OPERATIONS` prunes the operation
table and tries again, `INVALID_KEY_BLOB` is audited and returned, any other answer is returned.
Out of fuel the model answers `TOO_MANY_OPERATIONS`; enough fuel never comes to it. -/
def beginLoop (purpose : KeyPurpose) (params : List KeyParameter)
    (immediateHat : Option HardwareAuthToken) (keyProperties : Option (Int × List KsKeyParam))
    (callerUid : Nat) (forced : Bool) (blob : Blob) : Nat → Ks η κ BeginResult
  | 0 => Ks.throw (.km ErrorCode.tooManyOperations)
  | fuel + 1 => do
    match ← Ks.attempt (Km.begin env purpose blob params immediateHat) with
    | .ok v => pure v
    | .error e =>
      if e = .km ErrorCode.tooManyOperations then do
        Host.prune env callerUid forced
        beginLoop purpose params immediateHat keyProperties callerUid forced blob fuel
      else do
        if e = .km ErrorCode.invalidKeyBlob then logIntegrityViolation env keyProperties
        Ks.throw e

/-- The end of `create_operation`: the operation `begin` started is entered in the operation
table, and the response built; an upgraded blob goes back only for a `BLOB` key. -/
def operationResponse (callerUid : Nat) (key : KeyDescriptor) (forced : Bool) (authInfo : AuthInfo)
    (beginResult : BeginResult) (upgradedBlob : Option Blob) : Ks η κ CreateOperationResponse :=
  let operationChallenge := env.finalizeCreateAuthorization authInfo beginResult.challenge
  match beginResult.operation with
  | some kmOp => do
    let operation ← Host.createOperation env kmOp callerUid authInfo forced upgradedBlob.isSome
    pure
      { iOperation := some operation
        operationChallenge := operationChallenge
        parameters := match beginResult.params with
          | [] => none
          | params => some params
        upgradedBlob := if key.domain = Domain.blob then upgradedBlob else none }
  | none => Ks.throw Error.sys

/-- `create_operation`, for the caller `callerUid`, with `fuel` passes of the begin loop. -/
def createOperation (self : KeystoreSecurityLevel) (callerUid : Nat) (key : KeyDescriptor)
    (operationParameters : List KeyParameter) (forced : Bool) (fuel : Nat) :
    Ks η κ CreateOperationResponse := do
  let (kmBlob, keyProperties, keyIdGuard, blobMetadata) ← loadOperationKey env callerUid key forced
  let purpose ← Ks.lift (operationPurpose operationParameters)
  let operationParameters := operationParameters.filter (·.tag ≠ Tag.purpose)
  let (immediateHat, authInfo) ← Host.authorizeCreate env purpose keyProperties operationParameters
    self.hwInfo.timestampTokenRequired
  let kmBlob ← Host.unwrapKeyIfRequired env blobMetadata kmBlob
  let (beginResult, upgradedBlob) ← upgradeKeyblobIfRequiredWith env keyIdGuard kmBlob
    blobMetadata.kmUuid operationParameters
    (beginLoop env purpose operationParameters immediateHat keyProperties callerUid forced · fuel)
  operationResponse env callerUid key forced authInfo beginResult upgradedBlob

/-! ### The key reaches `begin` -/

theorem operationResponse_appends (callerUid : Nat) (key : KeyDescriptor) (forced : Bool)
    (authInfo : AuthInfo) (beginResult : BeginResult) (upgradedBlob : Option Blob) :
    Ks.Appends (operationResponse env callerUid key forced authInfo beginResult upgradedBlob) := by
  unfold operationResponse
  split
  · exact Ks.appends_bind (Ks.appends_host _ _) fun _ => Ks.appends_pure _
  · exact Ks.appends_throw _

theorem loadOperationKey_of_entry {callerUid : Nat} {key : KeyDescriptor} {forced : Bool}
    {w : World η κ} {h : η} {guard : KeyIdGuard} {entry : KeyEntry} {blob : Blob}
    {blobMetadata : BlobMetaData} (hdom : key.domain ≠ Domain.blob)
    (hl : env.loadKeyEntry w.host key .client callerUid (usePermission env forced) =
      (h, .ok (guard, entry)))
    (hb : entry.keyBlobInfo = some (blob, blobMetadata)) :
    loadOperationKey env callerUid key forced w =
      (.ok (blob, some (guard.id, entry.params), some guard, blobMetadata),
        { w with host := h, log := w.log ++ [.loadKeyEntry key .client callerUid (.ok (guard, entry))] }) := by
  simp [loadOperationKey, LegacyImporter.withTryImport, hdom, hl, hb]

/-! ### The begin loop terminates -/

/-- The calls the integrity audit of a key with properties `keyProperties` makes: none for a key
without an id; otherwise the descriptor of its id is looked up, and logged when there is one. -/
inductive IntegrityAudit : Option (Int × List KsKeyParam) → List Event → Prop
  | noKeyId : IntegrityAudit none []
  | noDescriptor (keyId : Int) (params : List KsKeyParam)
      (answer : Except Error (Option KeyDescriptor)) (hanswer : ∀ key, answer ≠ .ok (some key)) :
      IntegrityAudit (some (keyId, params)) [.loadKeyDescriptor keyId answer]
  | logged (keyId : Int) (params : List KsKeyParam) (key : KeyDescriptor) :
      IntegrityAudit (some (keyId, params))
        [.loadKeyDescriptor keyId (.ok (some key)), .logKeyIntegrityViolation key]

/-- The audit appends the calls of an `IntegrityAudit` to the log, touches no device and
succeeds. -/
theorem logIntegrityViolation_log (keyProperties : Option (Int × List KsKeyParam))
    (w : World η κ) :
    ∃ audit, (logIntegrityViolation env keyProperties w).2 =
        { w with host := (logIntegrityViolation env keyProperties w).2.host,
                 log := w.log ++ audit } ∧
      (logIntegrityViolation env keyProperties w).1 = .ok () ∧ IntegrityAudit keyProperties audit := by
  rcases keyProperties with _ | ⟨keyId, params⟩
  · exact ⟨[], by simp only [logIntegrityViolation, Ks.pure_apply, List.append_nil], rfl, .noKeyId⟩
  rcases hd : env.loadKeyDescriptor w.host keyId with ⟨h₁, e | _ | key⟩ <;>
    simp only [logIntegrityViolation, Host.loadKeyDescriptor, Host.logKeyIntegrityViolation,
      Ks.bind_apply, Ks.attempt_apply, Ks.host_apply, hd, Ks.next_ok, Ks.pure_apply,
      List.append_assoc, List.singleton_append]
  · exact ⟨_, rfl, trivial, .noDescriptor keyId params _ fun _ h => by cases h⟩
  · exact ⟨_, rfl, trivial, .noDescriptor keyId params _ fun _ h => by cases h⟩
  · exact ⟨_, rfl, trivial, .logged keyId params key⟩

/-- The `begin` calls of a log. -/
def beginCalls : List Event → Nat
  | [] => 0
  | .begin .. :: log => beginCalls log + 1
  | _ :: log => beginCalls log

@[simp]
theorem beginCalls_append (log log' : List Event) :
    beginCalls (log ++ log') = beginCalls log + beginCalls log' := by
  induction log using beginCalls.induct with
  | case1 => simp [beginCalls]
  | case2 _ _ _ _ _ log ih => rw [List.cons_append]; simp only [beginCalls, ih]; omega
  | case3 e log _ ih => rw [List.cons_append]; simp only [beginCalls, ih]

theorem IntegrityAudit.beginCalls_eq_zero {keyProperties : Option (Int × List KsKeyParam)}
    {audit : List Event} (h : IntegrityAudit keyProperties audit) : beginCalls audit = 0 := by
  cases h <;> rfl

section BeginLoop

variable (purpose : KeyPurpose) (params : List KeyParameter)
  (immediateHat : Option HardwareAuthToken) (keyProperties : Option (Int × List KsKeyParam))
  (callerUid : Nat) (forced : Bool) (blob : Blob)

/-- The calls of one run of the loop, with its result: a number of `TOO_MANY_OPERATIONS`
answers each followed by one successful prune, and then the first other answer, returned as
it is (an `INVALID_KEY_BLOB` after the integrity audit of the key), or a failed prune. -/
inductive BeginRun : List Event → Except Error BeginResult → Prop
  | answer (r : Except Error BeginResult) (hr : r ≠ .error (.km ErrorCode.tooManyOperations))
      (hinvalid : r ≠ .error (.km ErrorCode.invalidKeyBlob)) :
      BeginRun [.begin purpose blob params immediateHat r] r
  | invalidKeyBlob (audit : List Event) (haudit : IntegrityAudit keyProperties audit) :
      BeginRun (.begin purpose blob params immediateHat (.error (.km ErrorCode.invalidKeyBlob)) ::
        audit) (.error (.km ErrorCode.invalidKeyBlob))
  | pruneFailed (e : Error) :
      BeginRun [.begin purpose blob params immediateHat (.error (.km ErrorCode.tooManyOperations)),
        .prune callerUid forced (.error e)] (.error e)
  | retry {log : List Event} {r : Except Error BeginResult} :
      BeginRun log r →
      BeginRun (.begin purpose blob params immediateHat (.error (.km ErrorCode.tooManyOperations)) ::
        .prune callerUid forced (.ok ()) :: log) r

/-- The world after a `begin` call that answered `r`, leaving the device at `k`. -/
def afterBegin (w : World η κ) (k : κ) (r : Except Error BeginResult) : World η κ :=
  { w with km := k, log := w.log ++ [.begin purpose blob params immediateHat r] }

/-- The world after a prune that answered `r`, leaving the host at `h`. -/
def afterPrune (w : World η κ) (h : η) (r : Except Error Unit) : World η κ :=
  { w with host := h, log := w.log ++ [.prune callerUid forced r] }

/-- What the audit leaves after a failure `e` other than `TOO_MANY_OPERATIONS`. -/
def auditOf (e : Error) : Ks η κ Unit :=
  if e = .km ErrorCode.invalidKeyBlob then logIntegrityViolation env keyProperties else pure ()

/-- After a failure other than `TOO_MANY_OPERATIONS`, the `begin` call and its audit make a run
of the loop. -/
theorem auditOf_log {e : Error} (he : e ≠ .km ErrorCode.tooManyOperations) (w : World η κ) :
    ∃ audit, (auditOf env keyProperties e w).2.log = w.log ++ audit ∧
      BeginRun purpose params immediateHat keyProperties callerUid forced blob
        (.begin purpose blob params immediateHat (.error e) :: audit) (.error e) := by
  by_cases hinv : e = .km ErrorCode.invalidKeyBlob
  · subst hinv
    obtain ⟨audit, haudit, -, hrun⟩ := logIntegrityViolation_log env keyProperties w
    exact ⟨audit, by rw [auditOf, if_pos rfl, haudit], .invalidKeyBlob audit hrun⟩
  · exact ⟨[], by simp [auditOf, hinv], .answer _ (by simpa using he) (by simpa using hinv)⟩

theorem logIntegrityViolation_appends : Ks.Appends (logIntegrityViolation env keyProperties) := by
  intro w
  obtain ⟨audit, h, -⟩ := logIntegrityViolation_log env keyProperties w
  rw [h]
  exact List.prefix_append _ _

/-- A pass of the loop starts with `begin` on the blob. -/
theorem prefix_beginLoop_succ {fuel : Nat}
    (ih : Ks.Appends (beginLoop env purpose params immediateHat keyProperties callerUid forced blob fuel))
    (w : World η κ) :
    ∃ r, w.log ++ [.begin purpose blob params immediateHat r] <+:
      (beginLoop env purpose params immediateHat keyProperties callerUid forced blob (fuel + 1) w).2.log := by
  refine ⟨_, Ks.prefix_next (fun r => ?_) (Ks.attempt (Km.begin env purpose blob params immediateHat) w)⟩
  rcases r with e | v
  · exact Ks.appends_ite (Ks.appends_bind (Ks.appends_host _ _) fun _ => ih)
      (Ks.appends_ite (Ks.appends_bind (logIntegrityViolation_appends env keyProperties) fun _ =>
          Ks.appends_throw e)
        (Ks.appends_bind (Ks.appends_pure _) fun _ => Ks.appends_throw e))
  · exact Ks.appends_pure v

theorem beginLoop_appends (fuel : Nat) :
    Ks.Appends (beginLoop env purpose params immediateHat keyProperties callerUid forced blob fuel) := by
  induction fuel with
  | zero => exact Ks.appends_throw _
  | succ fuel ih =>
    intro w
    obtain ⟨_, h⟩ := prefix_beginLoop_succ env purpose params immediateHat keyProperties callerUid
      forced blob ih w
    exact (List.prefix_append _ _).trans h

variable {purpose params immediateHat keyProperties callerUid forced blob} {fuel : Nat}
  {w : World η κ} {k : κ}

theorem beginLoop_of_ok {v : BeginResult}
    (hb : env.begin w.km purpose blob params immediateHat = (k, .ok v)) :
    beginLoop env purpose params immediateHat keyProperties callerUid forced blob (fuel + 1) w =
      (.ok v, afterBegin purpose params immediateHat blob w k (.ok v)) := by
  simp [beginLoop, afterBegin, hb]

theorem beginLoop_of_retry {h : η}
    (hb : env.begin w.km purpose blob params immediateHat =
      (k, .error (.km ErrorCode.tooManyOperations)))
    (hp : env.prune w.host callerUid forced = (h, .ok ())) :
    beginLoop env purpose params immediateHat keyProperties callerUid forced blob (fuel + 1) w =
      beginLoop env purpose params immediateHat keyProperties callerUid forced blob fuel
        (afterPrune callerUid forced (afterBegin purpose params immediateHat blob w k
          (.error (.km ErrorCode.tooManyOperations))) h (.ok ())) := by
  simp [beginLoop, afterBegin, afterPrune, hb, hp]

theorem beginLoop_of_pruneFailed {h : η} {e : Error}
    (hb : env.begin w.km purpose blob params immediateHat =
      (k, .error (.km ErrorCode.tooManyOperations)))
    (hp : env.prune w.host callerUid forced = (h, .error e)) :
    beginLoop env purpose params immediateHat keyProperties callerUid forced blob (fuel + 1) w =
      (.error e, afterPrune callerUid forced (afterBegin purpose params immediateHat blob w k
        (.error (.km ErrorCode.tooManyOperations))) h (.error e)) := by
  simp [beginLoop, afterBegin, afterPrune, hb, hp]

/-- Any other failure ends the loop after the audit, whatever the fuel. -/
theorem beginLoop_of_error {e : Error}
    (hb : env.begin w.km purpose blob params immediateHat = (k, .error e))
    (he : e ≠ .km ErrorCode.tooManyOperations) :
    beginLoop env purpose params immediateHat keyProperties callerUid forced blob (fuel + 1) w =
      (.error e, (auditOf env keyProperties e (afterBegin purpose params immediateHat blob w k
        (.error e))).2) := by
  by_cases hinv : e = .km ErrorCode.invalidKeyBlob
  · obtain ⟨_, -, hok, -⟩ := logIntegrityViolation_log env keyProperties
      (afterBegin purpose params immediateHat blob w k (.error e))
    simp only [afterBegin] at hok
    subst hinv
    have hne : ErrorCode.invalidKeyBlob ≠ ErrorCode.tooManyOperations := by decide
    simp [beginLoop, auditOf, afterBegin, hb, hne, Ks.next_of_fst_ok hok]
  · simp [beginLoop, auditOf, afterBegin, hb, he, hinv]

variable (prunable : η → Nat)

/-- **The begin loop terminates.** Let every successful prune evict an operation the pruner
may evict, so that their number `prunable` falls. From a host with `n` of them, the loop with
any fuel past `n` makes at most `n + 1` calls of `begin`; its calls are those of a
`BeginRun`, one prune after each `TOO_MANY_OPERATIONS` and the first other answer returned as
it is, an `INVALID_KEY_BLOB` after the key's integrity audit; and more fuel changes nothing. -/
theorem beginLoop_terminates
    (hprune : ∀ h, (env.prune h callerUid forced).2 = .ok () →
      prunable (env.prune h callerUid forced).1 < prunable h)
    (fuel : Nat) (w : World η κ) (hfuel : prunable w.host < fuel) :
    (∃ log, BeginRun purpose params immediateHat keyProperties callerUid forced blob log
        (beginLoop env purpose params immediateHat keyProperties callerUid forced blob fuel w).1 ∧
      (beginLoop env purpose params immediateHat keyProperties callerUid forced blob fuel w).2.log =
        w.log ++ log ∧
      beginCalls log ≤ prunable w.host + 1) ∧
    ∀ fuel', fuel ≤ fuel' →
      beginLoop env purpose params immediateHat keyProperties callerUid forced blob fuel' w =
        beginLoop env purpose params immediateHat keyProperties callerUid forced blob fuel w := by
  induction fuel generalizing w with
  | zero => omega
  | succ fuel ih =>
    have hsucc : ∀ {fuel'}, fuel + 1 ≤ fuel' → ∃ f, fuel' = f + 1 ∧ fuel ≤ f :=
      fun {fuel'} hle => ⟨fuel' - 1, by omega, by omega⟩
    rcases hb : env.begin w.km purpose blob params immediateHat with ⟨k, e | v⟩
    · by_cases hmany : e = .km ErrorCode.tooManyOperations
      · subst hmany
        rcases hp : env.prune w.host callerUid forced with ⟨h, e | u⟩
        · rw [beginLoop_of_pruneFailed env hb hp]
          refine ⟨⟨_, .pruneFailed e, by simp [afterPrune, afterBegin], by simp [beginCalls]⟩,
            fun fuel' hle => ?_⟩
          obtain ⟨f, rfl, -⟩ := hsucc hle
          rw [beginLoop_of_pruneFailed env hb hp]
        · have hlt : prunable h < prunable w.host := by simpa [hp] using hprune w.host
          rw [beginLoop_of_retry env hb hp]
          obtain ⟨⟨log, hrun, hlog, hcalls⟩, hmono⟩ := ih (afterPrune callerUid forced
            (afterBegin purpose params immediateHat blob w k
              (.error (.km ErrorCode.tooManyOperations))) h (.ok ())) (by simp only [afterPrune]; omega)
          refine ⟨⟨_, .retry hrun, by rw [hlog]; simp [afterPrune, afterBegin], ?_⟩,
            fun fuel' hle => ?_⟩
          · simp only [afterPrune, beginCalls] at hcalls ⊢
            omega
          · obtain ⟨f, rfl, hf⟩ := hsucc hle
            rw [beginLoop_of_retry env hb hp, hmono f hf]
      · rw [beginLoop_of_error env hb hmany]
        obtain ⟨audit, hlog, hrun⟩ := auditOf_log env purpose params immediateHat keyProperties
          callerUid forced blob hmany (afterBegin purpose params immediateHat blob w k (.error e))
        refine ⟨⟨_, hrun, by rw [hlog]; simp [afterBegin], ?_⟩, fun fuel' hle => ?_⟩
        · cases hrun with
          | answer => simp [beginCalls]
          | invalidKeyBlob audit haudit => simp [beginCalls, haudit.beginCalls_eq_zero]
          | pruneFailed | retry => exact absurd rfl hmany
        · obtain ⟨f, rfl, -⟩ := hsucc hle
          rw [beginLoop_of_error env hb hmany]
    · rw [beginLoop_of_ok env hb]
      refine ⟨⟨_, .answer (.ok v) (by simp) (by simp), by simp [afterBegin],
        by simp [beginCalls]⟩, fun fuel' hle => ?_⟩
      obtain ⟨f, rfl, -⟩ := hsucc hle
      rw [beginLoop_of_ok env hb]

end BeginLoop

/-- A device whose operation table is full at the first `begin` and that calls the blob invalid
at every later one; its state counts the `begin` calls. -/
def fullTableDevice : Device Nat where
  getKeyCharacteristics k _ := (k, .ok [])
  upgradeKey k blob _ := (k, .ok blob)
  begin k _ _ _ _ := (k + 1, .error (.km
    (if k = 0 then ErrorCode.tooManyOperations else ErrorCode.invalidKeyBlob)))
  generateKey k _ _ := (k, .ok ⟨[1], [], []⟩)
  importKey k _ _ _ := (k, .ok ⟨[1], [], []⟩)
  importWrappedKey k _ _ _ _ _ _ := (k, .ok ⟨[1], [], []⟩)
  convertStorageKeyToEphemeral k blob := (k, .ok blob)
  deleteKey k _ := (k, .ok ())

/-- The reference host with two operations and one key, of id `0`, before any `begin`. -/
def fullTableWorld : World Store Nat :=
  ⟨{ Store.empty with
      entries := [(⟨0⟩, ⟨Domain.app, 10001, some "k", none⟩, ⟨none, []⟩)], operations := 2 }, 0, []⟩

/-- The reference host counts its operations and every prune evicts one. From two operations,
with a full table once and an invalid blob after it, the loop on the key of id `0` prunes once,
audits the key and returns `INVALID_KEY_BLOB`; three passes are as good as any number. -/
theorem beginLoop_terminates_onStore :
    (∀ h : Store, ((Store.env fullTableDevice).prune h 0 false).2 = .ok () →
      ((Store.env fullTableDevice).prune h 0 false).1.operations < h.operations) ∧
    BeginRun ⟨0⟩ [] none (some (0, [])) 0 false [1]
      [.begin ⟨0⟩ [1] [] none (.error (.km ErrorCode.tooManyOperations)), .prune 0 false (.ok ()),
        .begin ⟨0⟩ [1] [] none (.error (.km ErrorCode.invalidKeyBlob)),
        .loadKeyDescriptor 0 (.ok (some ⟨Domain.app, 10001, some "k", none⟩)),
        .logKeyIntegrityViolation ⟨Domain.app, 10001, some "k", none⟩]
      (.error (.km ErrorCode.invalidKeyBlob)) ∧
    ∀ fuel', 3 ≤ fuel' →
      beginLoop (Store.env fullTableDevice) ⟨0⟩ [] none (some (0, [])) 0 false [1] fuel'
          fullTableWorld =
        beginLoop (Store.env fullTableDevice) ⟨0⟩ [] none (some (0, [])) 0 false [1] 3
          fullTableWorld := by
  have hprune : ∀ h : Store, ((Store.env fullTableDevice).prune h 0 false).2 = .ok () →
      ((Store.env fullTableDevice).prune h 0 false).1.operations < h.operations := by
    rintro ⟨_, _, _, _ | n⟩ hok
    · cases hok
    · exact Nat.lt_succ_self n
  obtain ⟨⟨log, hrun, hlog, -⟩, hmono⟩ := beginLoop_terminates (Store.env fullTableDevice)
    Store.operations hprune 3 fullTableWorld (by decide)
  have hresult : (beginLoop (Store.env fullTableDevice) ⟨0⟩ [] none (some (0, [])) 0 false [1] 3
      fullTableWorld).1 = .error (.km ErrorCode.invalidKeyBlob) := rfl
  have hcalls : (beginLoop (Store.env fullTableDevice) ⟨0⟩ [] none (some (0, [])) 0 false [1] 3
      fullTableWorld).2.log =
      [.begin ⟨0⟩ [1] [] none (.error (.km ErrorCode.tooManyOperations)), .prune 0 false (.ok ()),
        .begin ⟨0⟩ [1] [] none (.error (.km ErrorCode.invalidKeyBlob)),
        .loadKeyDescriptor 0 (.ok (some ⟨Domain.app, 10001, some "k", none⟩)),
        .logKeyIntegrityViolation ⟨Domain.app, 10001, some "k", none⟩] := rfl
  rw [hresult] at hrun
  rw [hcalls] at hlog
  obtain rfl : _ = log := hlog.trans (List.nil_append log)
  exact ⟨hprune, hrun, hmono⟩

/-! ### The legacy import on the way to `begin` -/

/-- `create_operation` goes on from the key it loaded. -/
theorem prefix_createOperation_load (self : KeystoreSecurityLevel) (callerUid : Nat)
    (key : KeyDescriptor) (operationParameters : List KeyParameter) (forced : Bool) (fuel : Nat)
    (w : World η κ) :
    (loadOperationKey env callerUid key forced w).2.log <+:
      (self.createOperation env callerUid key operationParameters forced fuel w).2.log :=
  Ks.prefix_next (fun _ => Ks.appends_bind (Ks.appends_lift _) fun _ =>
    Ks.appends_bind (Ks.appends_host _ _) fun _ => Ks.appends_bind (Ks.appends_read _ _) fun _ =>
      Ks.appends_bind (upgradeKeyblobIfRequiredWith_appends env _ _ _
        fun b => beginLoop_appends env _ _ _ _ _ _ b _) fun _ => operationResponse_appends env _ _ _ _ _ _) _

/-- A non-BLOB key is loaded through the legacy importer. -/
theorem prefix_loadOperationKey_withTryImport {callerUid : Nat} {key : KeyDescriptor}
    {forced : Bool} (hdom : key.domain ≠ Domain.blob) (w : World η κ) :
    (LegacyImporter.withTryImport env key callerUid
        (env.getAfterFirstUnlockKeyByUserId w.host (env.uidToAndroidUser callerUid))
        (Host.loadKeyEntry env key .client callerUid (usePermission env forced)) w).2.log <+:
      (loadOperationKey env callerUid key forced w).2.log := by
  simp only [loadOperationKey, if_neg hdom, Ks.bind_apply, Host.getAfterFirstUnlockKeyByUserId,
    Ks.next_ok]
  exact Ks.prefix_next (fun _ => by split <;> first | exact Ks.appends_pure _ | exact Ks.appends_throw _) _

/-- A key the store does not have is looked for in the legacy database under its own
descriptor. -/
theorem prefix_createOperation_legacy (self : KeystoreSecurityLevel) {callerUid : Nat}
    {key : KeyDescriptor} {operationParameters : List KeyParameter} {forced : Bool} (fuel : Nat)
    {w : World η κ} {h₁ : η} (hdom : key.domain ≠ Domain.blob)
    (hl : env.loadKeyEntry w.host key .client callerUid (usePermission env forced) =
      (h₁, .error (.rc ResponseCode.keyNotFound))) :
    ∃ answer, w.log ++ [.loadKeyEntry key .client callerUid (.error (.rc ResponseCode.keyNotFound)),
        .importLegacy key callerUid answer] <+:
      (self.createOperation env callerUid key operationParameters forced fuel w).2.log := by
  obtain ⟨answer, h⟩ := LegacyImporter.prefix_withTryImport_load_notFound env key
    (env.getAfterFirstUnlockKeyByUserId w.host (env.uidToAndroidUser callerUid)) hl
  exact ⟨answer, h.trans ((prefix_loadOperationKey_withTryImport env hdom w).trans
    (prefix_createOperation_load env self callerUid key operationParameters forced fuel w))⟩

/-! ### No engine check before `begin` -/

/-- `create_operation` hands the blob of the entry it loads, once unwrapped, to `begin`, and
checks nothing of the blob metadata but what the unwrapping reads: whichever engine its
`KmUuid` names, or none, the call after the load, the authorization and the unwrapping is
`begin` on the unwrapped blob. -/
theorem prefix_createOperation_begin (self : KeystoreSecurityLevel) {callerUid : Nat}
    {key : KeyDescriptor} {operationParameters : List KeyParameter} {forced : Bool} (fuel : Nat)
    {w : World η κ} {h₁ h₂ : η} {guard : KeyIdGuard} {entry : KeyEntry} {blob : Blob}
    {blobMetadata : BlobMetaData} {purpose : KeyPurpose} {hat : Option HardwareAuthToken}
    {authInfo : AuthInfo} {kmBlob : KeyBlob} (hdom : key.domain ≠ Domain.blob)
    (hl : env.loadKeyEntry w.host key .client callerUid (usePermission env forced) =
      (h₁, .ok (guard, entry)))
    (hb : entry.keyBlobInfo = some (blob, blobMetadata))
    (hp : operationPurpose operationParameters = .ok purpose)
    (ha : env.authorizeCreate h₁ purpose (some (guard.id, entry.params))
      (operationParameters.filter (·.tag ≠ Tag.purpose)) self.hwInfo.timestampTokenRequired =
        (h₂, .ok (hat, authInfo)))
    (hu : env.unwrapKeyIfRequired h₂ blobMetadata blob = .ok kmBlob) :
    ∃ r, w.log ++
      [.loadKeyEntry key .client callerUid (.ok (guard, entry)),
       .authorizeCreate purpose (operationParameters.filter (·.tag ≠ Tag.purpose)) (.ok (hat, authInfo)),
       .unwrapKeyIfRequired blobMetadata blob (.ok kmBlob),
       .begin purpose kmBlob.bytes (operationParameters.filter (·.tag ≠ Tag.purpose)) hat r] <+:
      (self.createOperation env callerUid key operationParameters forced (fuel + 1) w).2.log := by
  obtain ⟨r, hr⟩ := prefix_beginLoop_succ env purpose
    (operationParameters.filter (·.tag ≠ Tag.purpose)) hat (some (guard.id, entry.params))
    callerUid forced kmBlob.bytes (beginLoop_appends env purpose
      (operationParameters.filter (·.tag ≠ Tag.purpose)) hat (some (guard.id, entry.params))
      callerUid forced kmBlob.bytes fuel) ⟨h₂, w.km, w.log ++
      [.loadKeyEntry key .client callerUid (.ok (guard, entry)),
       .authorizeCreate purpose (operationParameters.filter (·.tag ≠ Tag.purpose)) (.ok (hat, authInfo)),
       .unwrapKeyIfRequired blobMetadata blob (.ok kmBlob)]⟩
  simp only [createOperation, Ks.bind_apply, loadOperationKey_of_entry env hdom hl hb, Ks.next_ok,
    Ks.lift_apply, hp, Host.authorizeCreate, Ks.host_apply, ha, Host.unwrapKeyIfRequired,
    Ks.read_apply, hu]
  refine ⟨r, List.IsPrefix.trans ?_ ((prefix_upgradeKeyblobIfRequiredWith env _ _ _
    (fun b => beginLoop_appends env _ _ _ _ _ _ b _) _).trans
      (Ks.prefix_next (fun ⟨_, _⟩ => operationResponse_appends env _ _ _ _ _ _) _))⟩
  simpa using hr

/-! ### An operation on a `BLOB` key reads no stored key -/

section BlobKeyOperation

variable {key : KeyDescriptor}

/-- With no key id to audit, the loop calls only `begin` and the pruner. -/
theorem beginLoop_no_database (purpose : KeyPurpose) (params : List KeyParameter)
    (immediateHat : Option HardwareAuthToken) (callerUid : Nat) (forced : Bool) (blob : Blob) :
    ∀ fuel, Ks.Logs (beginLoop env purpose params immediateHat none callerUid forced blob fuel)
      (·.isKeyDatabaseCall = false)
  | 0 => Ks.logs_throw _
  | fuel + 1 => Ks.logs_bind (Ks.logs_attempt (Ks.logs_km fun _ => rfl)) fun
    | .ok _ => Ks.logs_pure _
    | .error e => Ks.logs_ite (Ks.logs_bind (Ks.logs_host fun _ => rfl) fun _ =>
        beginLoop_no_database purpose params immediateHat callerUid forced blob fuel)
      (Ks.logs_ite (Ks.logs_bind (Ks.logs_pure _) fun _ => Ks.logs_throw e)
        (Ks.logs_bind (Ks.logs_pure _) fun _ => Ks.logs_throw e))

theorem operationResponse_no_database (callerUid : Nat) (forced : Bool) (authInfo : AuthInfo)
    (beginResult : BeginResult) (upgradedBlob : Option Blob) :
    Ks.Logs (operationResponse env callerUid key forced authInfo beginResult upgradedBlob)
      (·.isKeyDatabaseCall = false) := by
  unfold operationResponse
  split
  · exact Ks.logs_bind (Ks.logs_host fun _ => rfl) fun _ => Ks.logs_pure _
  · exact Ks.logs_throw _

/-- A `BLOB` key is the caller's blob: no call, and no key id. -/
theorem loadOperationKey_of_blob (callerUid : Nat) (forced : Bool) (hdom : key.domain = Domain.blob) :
    Ks.Logs (loadOperationKey env callerUid key forced) (·.isKeyDatabaseCall = false) ∧
    Ks.Returns (loadOperationKey env callerUid key forced) (·.2.1 = none) := by
  unfold loadOperationKey
  rw [if_pos hdom]
  constructor
  · refine Ks.logs_bind (Ks.logs_lift _) fun _ => ?_
    split
    · exact Ks.logs_pure _
    · exact Ks.logs_throw _
  · refine Ks.returns_bind fun _ => ?_
    split
    · exact Ks.returns_pure rfl
    · exact Ks.returns_throw _ _

/-- An operation on a `BLOB` key loads no entry, audits no key id, and stores nothing: its
calls are the authorization, the unwrapping, `begin`, the upgrade, the pruner and the operation
table. -/
theorem createOperation_no_database (self : KeystoreSecurityLevel) (callerUid : Nat)
    (operationParameters : List KeyParameter) (forced : Bool) (fuel : Nat)
    (hdom : key.domain = Domain.blob) :
    Ks.Logs (self.createOperation env callerUid key operationParameters forced fuel)
      (·.isKeyDatabaseCall = false) := by
  obtain ⟨hlogs, hnone⟩ := loadOperationKey_of_blob env callerUid forced hdom
  refine Ks.logs_bind_of_returns hlogs hnone fun ⟨kmBlob, keyProperties, keyIdGuard, blobMetadata⟩
    hkp => ?_
  cases (hkp : keyProperties = none)
  exact Ks.logs_bind (Ks.logs_lift _) fun _ => Ks.logs_bind (Ks.logs_host fun _ => rfl) fun _ =>
    Ks.logs_bind (Ks.logs_read fun _ => rfl) fun _ =>
    Ks.logs_bind (upgradeKeyblobIfRequiredWith_logs env _ _ _
      (fun b => beginLoop_no_database env _ _ _ _ _ b fuel) (fun _ => rfl) fun _ _ => rfl) fun _ =>
    operationResponse_no_database env _ _ _ _ _

end BlobKeyOperation

end KeystoreSecurityLevel

end Keystore2
