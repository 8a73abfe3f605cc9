import Keystore2.Types

/-!
# The KeyMint device registry

`KEY_MINT_DEVICES` caches one connection per requested security level, in two maps: the devices
by uuid, and the uuid each level resolved to. `get_keymint_device` holds the mutex for the whole
call, so concurrent callers see the calls one after another, and a run of the registry is a list
of calls folded over the map from `DevicesMap::default`.

The invariant is that a resolved level names its own uuid, with a device behind it. With an
injective uuid conversion it makes a resolution permanent: an insert for a level that missed can
neither overwrite nor orphan the entry of a level that hit.

`connect_keymint` makes the connection the registry caches. A native KeyMint instance reports
its AIDL version `v`, an `i32`, which the code multiplies by `100` in `i32` arithmetic; V1 and a
Keymaster device behind the compatibility service are wrapped in the V1 emulation, V2 to V4 are
used as they are, and any other version is refused. For `|v| ≤ 21474836` the product is exact;
past that it overflows, and the call panics or, without overflow checks, goes on with the
wrapped product.
-/

namespace Keystore2

variable {Dev : Type}

/-- `DevicesMap<T>`: the connected devices by uuid, and the uuid each requested level resolved
to. -/
structure DevicesMap (Dev : Type) where
  devicesByUuid : Uuid → Option (Dev × KeyMintHardwareInfo)
  uuidBySecLevel : SecurityLevel → Option Uuid

namespace DevicesMap

/-- `DevicesMap::default`. -/
def default : DevicesMap Dev := ⟨fun _ => none, fun _ => none⟩

def devByUuid (m : DevicesMap Dev) (uuid : Uuid) : Option (Dev × KeyMintHardwareInfo × Uuid) :=
  (m.devicesByUuid uuid).map fun (dev, hwInfo) => (dev, hwInfo, uuid)

def devBySecLevel (m : DevicesMap Dev) (secLevel : SecurityLevel) :
    Option (Dev × KeyMintHardwareInfo × Uuid) :=
  (m.uuidBySecLevel secLevel).bind m.devByUuid

/-- `DevicesMap::insert`; `into` is the `From<SecurityLevel> for Uuid` conversion it uses. -/
def insert (into : SecurityLevel → Uuid) (m : DevicesMap Dev) (secLevel : SecurityLevel)
    (dev : Dev) (hwInfo : KeyMintHardwareInfo) : DevicesMap Dev :=
  { devicesByUuid := fun u => if u = into secLevel then some (dev, hwInfo) else m.devicesByUuid u
    uuidBySecLevel := fun l => if l = secLevel then some (into secLevel) else m.uuidBySecLevel l }

@[simp]
theorem devByUuid_eq_some {m : DevicesMap Dev} {uuid : Uuid} {r} :
    m.devByUuid uuid = some r ↔ m.devicesByUuid uuid = some (r.1, r.2.1) ∧ r.2.2 = uuid := by
  obtain ⟨dev, hwInfo, u⟩ := r
  cases h : m.devicesByUuid uuid with
  | none => simp [devByUuid, h]
  | some v => simp [devByUuid, h, Prod.ext_iff, eq_comm, and_assoc]

theorem devBySecLevel_eq_some {m : DevicesMap Dev} {secLevel : SecurityLevel} {dev hwInfo uuid} :
    m.devBySecLevel secLevel = some (dev, hwInfo, uuid) ↔
      m.uuidBySecLevel secLevel = some uuid ∧ m.devicesByUuid uuid = some (dev, hwInfo) := by
  simp only [devBySecLevel, Option.bind_eq_some, devByUuid_eq_some]
  constructor
  · rintro ⟨u, hu, hdev, rfl⟩
    exact ⟨hu, hdev⟩
  · rintro ⟨hu, hdev⟩
    exact ⟨uuid, hu, hdev, rfl⟩

theorem devBySecLevel_insert_self (into : SecurityLevel → Uuid) (m : DevicesMap Dev)
    (secLevel : SecurityLevel) (dev : Dev) (hwInfo : KeyMintHardwareInfo) :
    (m.insert into secLevel dev hwInfo).devBySecLevel secLevel =
      some (dev, hwInfo, into secLevel) :=
  devBySecLevel_eq_some.mpr ⟨by simp [insert], by simp [insert]⟩

end DevicesMap

section Registry

/-- `get_keymint_device`: the cached device for the level, or else a new connection, inserted
and read back. `connect` is what `connect_keymint` answers when it is called; `none` in the
reply is a panic of the final `unwrap`. -/
def getKeymintDevice (into : SecurityLevel → Uuid) (m : DevicesMap Dev) (secLevel : SecurityLevel)
    (connect : Except Error (Dev × KeyMintHardwareInfo)) :
    DevicesMap Dev × Option (Except Error (Dev × KeyMintHardwareInfo × Uuid)) :=
  match m.devBySecLevel secLevel with
  | some r => (m, some (.ok r))
  | none =>
    match connect with
    | .error e => (m, some (.error e))
    | .ok (dev, hwInfo) =>
      let m' := m.insert into secLevel dev hwInfo
      (m', (m'.devBySecLevel secLevel).map .ok)

/-- `get_keymint_dev_by_uuid`: the cache only, never a new connection. -/
def getKeymintDevByUuid (m : DevicesMap Dev) (uuid : Uuid) :
    Except Error (Dev × KeyMintHardwareInfo) :=
  match m.devByUuid uuid with
  | some (dev, hwInfo, _) => .ok (dev, hwInfo)
  | none => .error Error.sys

/-- One call on the registry; `get_keymint_device` carries what `connect_keymint` would answer. -/
inductive Request (Dev : Type) where
  | getKeymintDevice (secLevel : SecurityLevel) (connect : Except Error (Dev × KeyMintHardwareInfo))
  | getKeymintDevByUuid (uuid : Uuid)

def Request.step (into : SecurityLevel → Uuid) (m : DevicesMap Dev) : Request Dev → DevicesMap Dev
  | .getKeymintDevice secLevel connect => (Keystore2.getKeymintDevice into m secLevel connect).1
  | .getKeymintDevByUuid _ => m

/-- The map after a run of calls. -/
def run (into : SecurityLevel → Uuid) : DevicesMap Dev → List (Request Dev) → DevicesMap Dev
  | m, [] => m
  | m, r :: rs => run into (r.step into m) rs

/-- A resolved level names its own uuid, and a device stands behind that uuid. -/
def Consistent (into : SecurityLevel → Uuid) (m : DevicesMap Dev) : Prop :=
  ∀ s u, m.uuidBySecLevel s = some u → u = into s ∧ (m.devicesByUuid u).isSome

/-! ### One call -/

/-- What one `get_keymint_device` can do: hit the cache, fail to connect, or insert the new
connection and return it. -/
theorem getKeymintDevice_cases (into : SecurityLevel → Uuid) (m : DevicesMap Dev) (s : SecurityLevel)
    (connect : Except Error (Dev × KeyMintHardwareInfo)) :
    (∃ r, m.devBySecLevel s = some r ∧ getKeymintDevice into m s connect = (m, some (.ok r))) ∨
    (∃ e, connect = .error e ∧ getKeymintDevice into m s connect = (m, some (.error e))) ∨
    (∃ dev hwInfo, m.devBySecLevel s = none ∧ connect = .ok (dev, hwInfo) ∧
      getKeymintDevice into m s connect =
        (m.insert into s dev hwInfo, some (.ok (dev, hwInfo, into s)))) := by
  cases hm : m.devBySecLevel s with
  | some r => exact .inl ⟨r, rfl, by simp [getKeymintDevice, hm]⟩
  | none =>
    cases connect with
    | error e => exact .inr (.inl ⟨e, rfl, by simp [getKeymintDevice, hm]⟩)
    | ok p =>
      exact .inr (.inr ⟨p.1, p.2, rfl, rfl, by
        simp [getKeymintDevice, hm, DevicesMap.devBySecLevel_insert_self]⟩)

variable {into : SecurityLevel → Uuid} {m : DevicesMap Dev}

theorem Consistent.insert (hm : Consistent into m) (s : SecurityLevel) (dev : Dev)
    (hwInfo : KeyMintHardwareInfo) : Consistent into (m.insert into s dev hwInfo) := by
  intro l u hl
  simp only [DevicesMap.insert] at hl ⊢
  by_cases hls : l = s
  · subst hls
    cases (Option.some.inj (if_pos rfl ▸ hl))
    simp
  · rw [if_neg hls] at hl
    obtain ⟨rfl, hdev⟩ := hm l u hl
    exact ⟨rfl, by split <;> simp [hdev]⟩

theorem Consistent.step (hm : Consistent into m) (r : Request Dev) :
    Consistent into (r.step into m) := by
  cases r with
  | getKeymintDevByUuid _ => exact hm
  | getKeymintDevice s connect =>
    rcases getKeymintDevice_cases into m s connect
      with ⟨_, _, h⟩ | ⟨_, _, h⟩ | ⟨dev, hwInfo, _, _, h⟩ <;> simp only [Request.step, h]
    · exact hm
    · exact hm
    · exact hm.insert s dev hwInfo

/-- A resolved level stays resolved to the same device through any later call. -/
theorem devBySecLevel_step (hinj : Function.Injective into) (hm : Consistent into m)
    {s : SecurityLevel} {dev : Dev} {hwInfo : KeyMintHardwareInfo} {uuid : Uuid}
    (hs : m.devBySecLevel s = some (dev, hwInfo, uuid)) (r : Request Dev) :
    (r.step into m).devBySecLevel s = some (dev, hwInfo, uuid) := by
  cases r with
  | getKeymintDevByUuid _ => exact hs
  | getKeymintDevice s' connect =>
    rcases getKeymintDevice_cases into m s' connect
      with ⟨_, _, h⟩ | ⟨_, _, h⟩ | ⟨dev', hwInfo', hmiss, _, h⟩ <;> simp only [Request.step, h]
    · exact hs
    · exact hs
    · have hne : s' ≠ s := by
        rintro rfl
        simp [hs] at hmiss
      obtain ⟨hu, hd⟩ := DevicesMap.devBySecLevel_eq_some.mp hs
      have huuid : uuid ≠ into s' := by
        rw [(hm s uuid hu).1]
        exact fun h => hne (hinj h).symm
      exact DevicesMap.devBySecLevel_eq_some.mpr
        ⟨by simp [DevicesMap.insert, Ne.symm hne, hu], by simp [DevicesMap.insert, huuid, hd]⟩

/-! ### Runs -/

theorem Consistent.run (hm : Consistent into m) (rs : List (Request Dev)) :
    Consistent into (run into m rs) := by
  induction rs generalizing m with
  | nil => exact hm
  | cons r rs ih => exact ih (hm.step r)

theorem devBySecLevel_run (hinj : Function.Injective into) (hm : Consistent into m)
    {s : SecurityLevel} {dev : Dev} {hwInfo : KeyMintHardwareInfo} {uuid : Uuid}
    (hs : m.devBySecLevel s = some (dev, hwInfo, uuid)) (rs : List (Request Dev)) :
    (run into m rs).devBySecLevel s = some (dev, hwInfo, uuid) := by
  induction rs generalizing m with
  | nil => exact hs
  | cons r rs ih => exact ih (hm.step r) (devBySecLevel_step hinj hm hs r)

theorem consistent_default : Consistent into (DevicesMap.default : DevicesMap Dev) := by
  intro s u h
  simp [DevicesMap.default] at h

/-! ### Resolution is permanent -/

theorem getKeymintDevice_of_devBySecLevel {s : SecurityLevel} {r}
    (hs : m.devBySecLevel s = some r) (connect : Except Error (Dev × KeyMintHardwareInfo)) :
    getKeymintDevice into m s connect = (m, some (.ok r)) := by
  simp [getKeymintDevice, hs]

theorem getKeymintDevByUuid_of_devBySecLevel {s : SecurityLevel} {dev : Dev}
    {hwInfo : KeyMintHardwareInfo} {uuid : Uuid} (hs : m.devBySecLevel s = some (dev, hwInfo, uuid)) :
    getKeymintDevByUuid m uuid = .ok (dev, hwInfo) := by
  simp [getKeymintDevByUuid, DevicesMap.devByUuid, (DevicesMap.devBySecLevel_eq_some.mp hs).2]

/-- A call that returned a device leaves its level resolved to it. -/
theorem devBySecLevel_getKeymintDevice {s : SecurityLevel}
    {connect : Except Error (Dev × KeyMintHardwareInfo)} {dev : Dev} {hwInfo : KeyMintHardwareInfo}
    {uuid : Uuid} (hok : (getKeymintDevice into m s connect).2 = some (.ok (dev, hwInfo, uuid))) :
    (getKeymintDevice into m s connect).1.devBySecLevel s = some (dev, hwInfo, uuid) := by
  rcases getKeymintDevice_cases into m s connect
    with ⟨r, hr, h⟩ | ⟨_, _, h⟩ | ⟨dev', hwInfo', _, _, h⟩ <;> rw [h] at hok ⊢
  · cases Except.ok.inj (Option.some.inj hok)
    exact hr
  · cases hok
  · cases Except.ok.inj (Option.some.inj hok)
    exact DevicesMap.devBySecLevel_insert_self into m s dev hwInfo

/-- **Resolution is permanent.** From the empty map, along any run of `get_keymint_device` and
`get_keymint_dev_by_uuid` calls with any connection outcomes: every resolved level names a uuid
with a device behind it, and the final `unwrap` never panics; a failed call leaves the map as it
was; and once a level has resolved to `(dev, hwInfo, uuid)`, every later call for it returns the
same triple from the cache whatever `connect_keymint` would answer, and the uuid keeps that
device. -/
theorem getKeymintDevice_run_laws (hinj : Function.Injective into) (rs : List (Request Dev)) :
    let m := run into DevicesMap.default rs
    Consistent into m ∧
    (∀ s connect, (getKeymintDevice into m s connect).2.isSome) ∧
    (∀ s connect e, (getKeymintDevice into m s connect).2 = some (.error e) →
      (getKeymintDevice into m s connect).1 = m) ∧
    (∀ s connect dev hwInfo uuid,
      (getKeymintDevice into m s connect).2 = some (.ok (dev, hwInfo, uuid)) →
      ∀ later, let m' := run into m (.getKeymintDevice s connect :: later)
        (∀ connect', getKeymintDevice into m' s connect' = (m', some (.ok (dev, hwInfo, uuid)))) ∧
        getKeymintDevByUuid m' uuid = .ok (dev, hwInfo)) := by
  intro m
  have hm : Consistent into m := consistent_default.run rs
  refine ⟨hm, fun s connect => ?_, fun s connect e he => ?_,
    fun s connect dev hwInfo uuid hok later => ?_⟩
  · rcases getKeymintDevice_cases into m s connect
      with ⟨_, _, h⟩ | ⟨_, _, h⟩ | ⟨_, _, _, _, h⟩ <;> simp [h]
  · rcases getKeymintDevice_cases into m s connect
      with ⟨_, _, h⟩ | ⟨_, _, h⟩ | ⟨_, _, _, _, h⟩ <;> simp [h] at he ⊢
  · have hs := devBySecLevel_run hinj (hm.step (.getKeymintDevice s connect))
      (devBySecLevel_getKeymintDevice hok) later
    exact ⟨getKeymintDevice_of_devBySecLevel hs, getKeymintDevByUuid_of_devBySecLevel hs⟩

/-- The laws at the level-as-uuid conversion, from the empty map. A failed connection of the TEE
leaves the map empty. A successful one resolves it to device `0`. After a later resolution of
StrongBox and a uuid lookup, every call for the TEE still answers device `0` from the cache,
whatever the connection would answer, and so does its uuid. -/
theorem getKeymintDevice_run_laws_levelUuid :
    Function.Injective (fun s : SecurityLevel => (⟨s.val⟩ : Uuid)) ∧
    (getKeymintDevice (fun s => ⟨s.val⟩) (run (fun s => ⟨s.val⟩) DevicesMap.default [])
        SecurityLevel.trustedEnvironment (.error Error.sys)).1 =
      run (fun s => ⟨s.val⟩) DevicesMap.default ([] : List (Request Nat)) ∧
    (∀ connect', getKeymintDevice (fun s => ⟨s.val⟩)
        (run (fun s => ⟨s.val⟩) (run (fun s => ⟨s.val⟩) DevicesMap.default [])
          [.getKeymintDevice SecurityLevel.trustedEnvironment
            (.ok (0, ⟨100, SecurityLevel.trustedEnvironment, false⟩)),
           .getKeymintDevice SecurityLevel.strongbox (.ok (1, ⟨100, SecurityLevel.strongbox, true⟩)),
           .getKeymintDevByUuid ⟨1⟩])
        SecurityLevel.trustedEnvironment connect' =
      (run (fun s => ⟨s.val⟩) (run (fun s => ⟨s.val⟩) DevicesMap.default [])
          [.getKeymintDevice SecurityLevel.trustedEnvironment
            (.ok (0, ⟨100, SecurityLevel.trustedEnvironment, false⟩)),
           .getKeymintDevice SecurityLevel.strongbox (.ok (1, ⟨100, SecurityLevel.strongbox, true⟩)),
           .getKeymintDevByUuid ⟨1⟩],
        some (.ok (0, ⟨100, SecurityLevel.trustedEnvironment, false⟩, ⟨1⟩)))) ∧
    getKeymintDevByUuid
        (run (fun s => ⟨s.val⟩) (run (fun s => ⟨s.val⟩) DevicesMap.default [])
          [.getKeymintDevice SecurityLevel.trustedEnvironment
            (.ok (0, ⟨100, SecurityLevel.trustedEnvironment, false⟩)),
           .getKeymintDevice SecurityLevel.strongbox (.ok (1, ⟨100, SecurityLevel.strongbox, true⟩)),
           .getKeymintDevByUuid ⟨1⟩]) ⟨1⟩ =
      .ok (0, ⟨100, SecurityLevel.trustedEnvironment, false⟩) :=
  have hinj : Function.Injective (fun s : SecurityLevel => (⟨s.val⟩ : Uuid)) := by
    rintro ⟨a⟩ ⟨b⟩ h
    cases h
    rfl
  ⟨hinj, (getKeymintDevice_run_laws hinj ([] : List (Request Nat))).2.2.1
      SecurityLevel.trustedEnvironment (.error Error.sys) Error.sys rfl,
    (getKeymintDevice_run_laws hinj ([] : List (Request Nat))).2.2.2
      SecurityLevel.trustedEnvironment (.ok (0, ⟨100, SecurityLevel.trustedEnvironment, false⟩))
      0 ⟨100, SecurityLevel.trustedEnvironment, false⟩ ⟨1⟩ rfl
      [.getKeymintDevice SecurityLevel.strongbox (.ok (1, ⟨100, SecurityLevel.strongbox, true⟩)),
       .getKeymintDevByUuid ⟨1⟩]⟩

end Registry

/-! ### Connecting to a device -/

section Connect

/-- An `Int` that fits in an `i32`: `-2 ^ 31 ≤ z < 2 ^ 31`. -/
def FitsI32 (z : Int) : Prop := -2147483648 ≤ z ∧ z < 2147483648

instance (z : Int) : Decidable (FitsI32 z) := inferInstanceAs (Decidable (_ ∧ _))

/-- Rust's `*` on `i32`: the product wrapped to 32 bits, or a panic (`none`) when the build checks
overflow and the product does not fit. -/
def mulI32 (overflowChecks : Bool) (x y : BitVec 32) : Option (BitVec 32) :=
  if overflowChecks ∧ ¬FitsI32 (x.toInt * y.toInt) then none else some (x * y)

namespace StatusCode

/-- `StatusCode::NAME_NOT_FOUND`, `-ENOENT`. -/
def nameNotFound : Int := -2

end StatusCode

/-- What `connect_keymint` asks of binder, of the compatibility service and of the device it
reaches. -/
structure KeyMintBinder (Dev : Type) where
  /-- `<BpKeyMintDevice as IKeyMintDevice>::get_descriptor()`. -/
  keymintDescriptor : String
  /-- `get_declared_instances`. -/
  getDeclaredInstances : String → Except Error (List String)
  /-- `retry_get_interface`, the trusted environment's connection. -/
  retryGetInterface : String → Except Error Dev
  /-- `binder::get_interface`. -/
  getInterface : String → Except Error Dev
  /-- `IKeyMintDevice::getInterfaceVersion`, an `i32`. -/
  getInterfaceVersion : Dev → Except Error (BitVec 32)
  /-- The connection to `android.security.compat`. -/
  getCompatService : Except Error Unit
  /-- `IKeystoreCompatService::getKeyMintDevice`. -/
  compatGetKeyMintDevice : SecurityLevel → Except Error Dev
  /-- `BacklevelKeyMintWrapper::wrap(KeyMintV1::new(security_level), keymint)`. -/
  wrapBacklevel : SecurityLevel → Dev → Except Error Dev
  /-- `IKeyMintDevice::getHardwareInfo`. -/
  getHardwareInfo : Dev → Except Error KeyMintHardwareInfo

variable (b : KeyMintBinder Dev)

/-- A call that cannot panic. -/
def liftE {α : Type} (r : Except Error α) : ExceptT Error Option α := ExceptT.mk (some r)

@[simp]
theorem run_liftE {α : Type} (r : Except Error α) : (liftE r).run = some r := rfl

/-- `keymint_service_name`: the declared instance of the level's KeyMint service, if any. The
`unwrap` of the declared instances panics when binder fails. -/
def keymintServiceName (securityLevel : SecurityLevel) : ExceptT Error Option (Option String) := do
  let keymintInstances ← match b.getDeclaredInstances b.keymintDescriptor with
    | .ok keymintInstances => pure keymintInstances
    | .error _ => ExceptT.lift none
  if securityLevel = SecurityLevel.trustedEnvironment then
    pure (if keymintInstances.any (· = "default") then
      some (b.keymintDescriptor ++ "/default") else none)
  else if securityLevel = SecurityLevel.strongbox then
    pure (if keymintInstances.any (· = "strongbox") then
      some (b.keymintDescriptor ++ "/strongbox") else none)
  else
    throw (.km ErrorCode.hardwareTypeUnavailable)

/-- The connection to a declared KeyMint service, retried for the trusted environment. -/
def getKeymintInterface (securityLevel : SecurityLevel) (serviceName : String) : Except Error Dev :=
  if securityLevel = SecurityLevel.trustedEnvironment then b.retryGetInterface serviceName
  else b.getInterface serviceName

/-- The native branch of `connect_keymint`: the device, and its AIDL version times `100` in `i32`
arithmetic. -/
def connectNative (overflowChecks : Bool) (securityLevel : SecurityLevel) (serviceName : String) :
    ExceptT Error Option (Dev × Option (BitVec 32)) := do
  let km ← liftE (getKeymintInterface b securityLevel serviceName)
  let kmVersion ← liftE (b.getInterfaceVersion km)
  let halVersion ← ExceptT.lift (mulI32 overflowChecks kmVersion 100#32)
  pure (km, some halVersion)

/-- The compatibility branch of `connect_keymint`: a Keymaster device behind the compatibility
service, with no version. -/
def connectCompat (securityLevel : SecurityLevel) : Except Error (Dev × Option (BitVec 32)) := do
  b.getCompatService
  let km ← (b.compatGetKeyMintDevice securityLevel).mapError fun e =>
    if e = .binderTransaction StatusCode.nameNotFound then .km ErrorCode.hardwareTypeUnavailable
    else e
  pure (km, none)

/-- The version match of `connect_keymint`: V2 to V4 as they are, V1 and a Keymaster device in
the V1 emulation, any other version refused. -/
def keymintFor (securityLevel : SecurityLevel) (keymint : Dev) :
    Option (BitVec 32) → Except Error Dev
  | some halVersion =>
    if halVersion = 400#32 ∨ halVersion = 300#32 ∨ halVersion = 200#32 then .ok keymint
    else if halVersion = 100#32 then b.wrapBacklevel securityLevel keymint
    else .error (.km ErrorCode.hardwareTypeUnavailable)
  | none => b.wrapBacklevel securityLevel keymint

/-- The end of `connect_keymint`: the adapter, its hardware info, and the version number
overwritten with the normalized version when there is one. -/
def connectTail (securityLevel : SecurityLevel) (keymint : Dev) (halVersion : Option (BitVec 32)) :
    Except Error (Dev × KeyMintHardwareInfo) := do
  let keymint ← keymintFor b securityLevel keymint halVersion
  let hwInfo ← b.getHardwareInfo keymint
  pure (keymint, match halVersion with
    | some halVersion => { hwInfo with versionNumber := halVersion.toInt }
    | none => hwInfo)

/-- `connect_keymint`; `overflowChecks` is whether the build checks `i32` overflow, and `none` is a
panic. -/
def connectKeymint (overflowChecks : Bool) (securityLevel : SecurityLevel) :
    ExceptT Error Option (Dev × KeyMintHardwareInfo) := do
  let serviceName ← keymintServiceName b securityLevel
  let (keymint, halVersion) ← match serviceName with
    | some serviceName => connectNative b overflowChecks securityLevel serviceName
    | none => liftE (connectCompat b securityLevel)
  liftE (connectTail b securityLevel keymint halVersion)

/-! #### `i32` arithmetic -/

theorem toInt_mul_of_fitsI32 {x y : BitVec 32} (h : FitsI32 (x.toInt * y.toInt)) :
    (x * y).toInt = x.toInt * y.toInt := by
  rw [BitVec.toInt_mul, Int.bmod]
  unfold FitsI32 at h
  omega

theorem mulI32_of_fitsI32 (overflowChecks : Bool) {x y : BitVec 32}
    (h : FitsI32 (x.toInt * y.toInt)) : mulI32 overflowChecks x y = some (x * y) := by
  simp [mulI32, h]

theorem mulI32_of_not_fitsI32 {x y : BitVec 32} (h : ¬FitsI32 (x.toInt * y.toInt)) :
    mulI32 true x y = none := by
  simp [mulI32, h]

@[simp]
theorem mulI32_unchecked (x y : BitVec 32) : mulI32 false x y = some (x * y) := by
  simp [mulI32]

/-- Without overflow checks the product is the exact one reduced to 32 bits. -/
theorem mul_eq_ofInt_mul (x y : BitVec 32) : x * y = BitVec.ofInt 32 (x.toInt * y.toInt) :=
  BitVec.eq_of_toInt_eq (by simp)

/-! #### The normalized version -/

theorem keymintFor_some_of_ok {securityLevel : SecurityLevel} {keymint dev : Dev}
    {halVersion : BitVec 32} (h : keymintFor b securityLevel keymint (some halVersion) = .ok dev) :
    halVersion = 100#32 ∨ halVersion = 200#32 ∨ halVersion = 300#32 ∨ halVersion = 400#32 := by
  simp only [keymintFor] at h
  split at h
  · rename_i hv
    rcases hv with hv | hv | hv <;> simp [hv]
  · split at h
    · exact .inl ‹_›
    · cases h

theorem keymintFor_some_of_unsupported (securityLevel : SecurityLevel) (keymint : Dev)
    {halVersion : BitVec 32}
    (hne : ¬(halVersion = 100#32 ∨ halVersion = 200#32 ∨ halVersion = 300#32 ∨
      halVersion = 400#32)) :
    keymintFor b securityLevel keymint (some halVersion) =
      .error (.km ErrorCode.hardwareTypeUnavailable) := by
  simp only [keymintFor]
  rw [if_neg fun h => hne (by rcases h with h | h | h <;> simp [h]), if_neg fun h => hne (.inl h)]

/-- A connection with a normalized version reports that version. -/
theorem connectTail_some_of_ok {securityLevel : SecurityLevel} {keymint dev : Dev}
    {halVersion : BitVec 32} {hwInfo : KeyMintHardwareInfo}
    (h : connectTail b securityLevel keymint (some halVersion) = .ok (dev, hwInfo)) :
    (halVersion = 100#32 ∨ halVersion = 200#32 ∨ halVersion = 300#32 ∨ halVersion = 400#32) ∧
      hwInfo.versionNumber = halVersion.toInt := by
  obtain ⟨k, hk, h⟩ := Except.ok_of_bind h
  rcases hh : b.getHardwareInfo k with e | hw <;> simp [hh] at h
  obtain ⟨rfl, rfl⟩ := h
  exact ⟨keymintFor_some_of_ok b hk, rfl⟩

/-- The native branch, once the instance is found and reports its version. -/
theorem connectKeymint_native (overflowChecks : Bool) {securityLevel : SecurityLevel}
    {serviceName : String} {km : Dev} {v : BitVec 32}
    (hname : (keymintServiceName b securityLevel).run = some (.ok (some serviceName)))
    (hkm : getKeymintInterface b securityLevel serviceName = .ok km)
    (hv : b.getInterfaceVersion km = .ok v) :
    (connectKeymint b overflowChecks securityLevel).run =
      (mulI32 overflowChecks v 100#32).map fun halVersion =>
        connectTail b securityLevel km (some halVersion) := by
  simp [connectKeymint, connectNative, ExceptT.run_bind, hname, hkm, hv]
  cases mulI32 overflowChecks v 100#32 <;> rfl

/-- **Version normalization.** Let a native instance report the version `v`. When `100 * v` fits
in an `i32`, both builds normalize it exactly: the connection succeeds only for `v` in
`1, 2, 3, 4`, with version number `100 * v`, and any other `v` is refused with
`HARDWARE_TYPE_UNAVAILABLE`. When it does not fit, a build with overflow checks panics, and one
without goes on with `100 * v` reduced to 32 bits. -/
theorem connectKeymint_native_version {securityLevel : SecurityLevel} {serviceName : String}
    {km : Dev} {v : BitVec 32}
    (hname : (keymintServiceName b securityLevel).run = some (.ok (some serviceName)))
    (hkm : getKeymintInterface b securityLevel serviceName = .ok km)
    (hv : b.getInterfaceVersion km = .ok v) :
    (FitsI32 (100 * v.toInt) → ∀ overflowChecks,
      (∀ dev hwInfo, (connectKeymint b overflowChecks securityLevel).run = some (.ok (dev, hwInfo)) →
        (v.toInt = 1 ∨ v.toInt = 2 ∨ v.toInt = 3 ∨ v.toInt = 4) ∧
          hwInfo.versionNumber = 100 * v.toInt) ∧
      (¬(v.toInt = 1 ∨ v.toInt = 2 ∨ v.toInt = 3 ∨ v.toInt = 4) →
        (connectKeymint b overflowChecks securityLevel).run =
          some (.error (.km ErrorCode.hardwareTypeUnavailable)))) ∧
    (¬FitsI32 (100 * v.toInt) →
      (connectKeymint b true securityLevel).run = none ∧
      (connectKeymint b false securityLevel).run =
        some (connectTail b securityLevel km (some (BitVec.ofInt 32 (100 * v.toInt))))) := by
  have h100 : (100#32 : BitVec 32).toInt = 100 := rfl
  refine ⟨fun hfit overflowChecks => ?_, fun hfit => ⟨?_, ?_⟩⟩
  · have hfit' : FitsI32 (v.toInt * (100#32 : BitVec 32).toInt) := by rwa [h100, Int.mul_comm]
    have hval : (v * 100#32).toInt = 100 * v.toInt := by
      rw [toInt_mul_of_fitsI32 hfit', h100, Int.mul_comm]
    have hrun : (connectKeymint b overflowChecks securityLevel).run =
        some (connectTail b securityLevel km (some (v * 100#32))) := by
      rw [connectKeymint_native b overflowChecks hname hkm hv, mulI32_of_fitsI32 overflowChecks hfit']
      rfl
    have hiff : (v * 100#32 = 100#32 ∨ v * 100#32 = 200#32 ∨ v * 100#32 = 300#32 ∨
        v * 100#32 = 400#32) ↔ (v.toInt = 1 ∨ v.toInt = 2 ∨ v.toInt = 3 ∨ v.toInt = 4) := by
      simp [← BitVec.toInt_inj, hval]
      omega
    refine ⟨fun dev hwInfo h => ?_, fun hne => ?_⟩
    · rw [hrun] at h
      obtain ⟨hversion, hnumber⟩ := connectTail_some_of_ok b (Option.some.inj h)
      exact ⟨hiff.mp hversion, hnumber.trans hval⟩
    · rw [hrun]
      simp [connectTail, keymintFor_some_of_unsupported b securityLevel km (mt hiff.mp hne)]
  · rw [connectKeymint_native b true hname hkm hv,
      mulI32_of_not_fitsI32 (by rwa [h100, Int.mul_comm])]
    rfl
  · rw [connectKeymint_native b false hname hkm hv, mulI32_unchecked, mul_eq_ofInt_mul, h100,
      Int.mul_comm]
    rfl

/-- A binder that declares the default instance and serves every call, with a device that
reports `version`. -/
def referenceBinder (version : BitVec 32) : KeyMintBinder Unit where
  keymintDescriptor := "android.hardware.security.keymint.IKeyMintDevice"
  getDeclaredInstances _ := .ok ["default"]
  retryGetInterface _ := .ok ()
  getInterface _ := .ok ()
  getInterfaceVersion _ := .ok version
  getCompatService := .ok ()
  compatGetKeyMintDevice _ := .ok ()
  wrapBacklevel _ _ := .ok ()
  getHardwareInfo _ := .ok ⟨0, SecurityLevel.trustedEnvironment, false⟩

/-- KeyMint V2 in the trusted environment is used with version number `200`. -/
theorem connectKeymint_native_version_onV2 :
    (connectKeymint (referenceBinder 2#32) true SecurityLevel.trustedEnvironment).run =
      some (.ok ((), ⟨200, SecurityLevel.trustedEnvironment, false⟩)) ∧
    ((2#32 : BitVec 32).toInt = 1 ∨ (2#32 : BitVec 32).toInt = 2 ∨ (2#32 : BitVec 32).toInt = 3 ∨
      (2#32 : BitVec 32).toInt = 4) ∧
    (200 : Int) = 100 * (2#32 : BitVec 32).toInt :=
  have h : (connectKeymint (referenceBinder 2#32) true SecurityLevel.trustedEnvironment).run =
      some (.ok ((), ⟨200, SecurityLevel.trustedEnvironment, false⟩)) := rfl
  ⟨h, ((@connectKeymint_native_version Unit (referenceBinder 2#32) SecurityLevel.trustedEnvironment
    "android.hardware.security.keymint.IKeyMintDevice/default" () 2#32 rfl rfl rfl).1
    (by decide) true).1 () _ h⟩

/-- A device reporting `2 ^ 30 + 2 = 1073741826`: without overflow checks `100 * v` wraps to `200` and the
device is used as KeyMint V2; with them the call panics. -/
theorem connectKeymint_overflowing_version :
    (BitVec.ofInt 32 1073741826).toInt = 1073741826 ∧
    (connectKeymint (referenceBinder (BitVec.ofInt 32 1073741826)) false
        SecurityLevel.trustedEnvironment).run =
      some (.ok ((), ⟨200, SecurityLevel.trustedEnvironment, false⟩)) ∧
    (connectKeymint (referenceBinder (BitVec.ofInt 32 1073741826)) true
        SecurityLevel.trustedEnvironment).run = none :=
  ⟨rfl, rfl, rfl⟩

end Connect

end Keystore2
