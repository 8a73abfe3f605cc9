import Keystore2.Globals
import Keystore2.KeyCreation

/-!
# Security levels and their devices

`get_keymint_device` calls `connect_keymint` for a level it has not cached and caches what comes
back; `KeystoreSecurityLevel::new_native_binder` and `KeyMintDevice::get` take their device,
hardware info and uuid from it. Composed, the registry's run is a run of connections.

A connection through a native KeyMint instance goes on only when the normalized version is one
of `100, 200, 300, 400`, and overwrites the hardware info's version number with it. That holds
even when the multiplication by `100` overflows, since the check is on the product. So along any
run, every level served by a native instance holds a version number of at least `100`, and a
security level built for it always adds `CREATION_DATETIME` to the keys it creates.

`get_timestamp_service` caches its secure clock the same way, but only a connection that
succeeds: a failed one is returned and tried again at the next call.
-/

namespace Keystore2

variable {Dev : Type} (b : KeyMintBinder Dev) (overflowChecks : Bool)
  (into : SecurityLevel → Uuid)

/-- The version numbers of the KeyMint versions the service supports. -/
def IsKeyMintVersion (v : Int) : Prop := v = 100 ∨ v = 200 ∨ v = 300 ∨ v = 400

instance (v : Int) : Decidable (IsKeyMintVersion v) := inferInstanceAs (Decidable (_ ∨ _))

/-! ### A native connection -/

/-- A connection through a native instance that succeeds reports a supported version, whatever
version the instance gave and whatever the build mode. -/
theorem connectKeymint_native_isKeyMintVersion {s : SecurityLevel} {serviceName : String}
    {dev : Dev} {hwInfo : KeyMintHardwareInfo}
    (hname : (keymintServiceName b s).run = some (.ok (some serviceName)))
    (h : (connectKeymint b overflowChecks s).run = some (.ok (dev, hwInfo))) :
    IsKeyMintVersion hwInfo.versionNumber := by
  rcases hkm : getKeymintInterface b s serviceName with e | km
  · simp [connectKeymint, connectNative, ExceptT.run_bind, hname, hkm] at h
  rcases hv : b.getInterfaceVersion km with e | v
  · simp [connectKeymint, connectNative, ExceptT.run_bind, hname, hkm, hv] at h
  rw [connectKeymint_native b overflowChecks hname hkm hv] at h
  obtain ⟨halVersion, -, htail⟩ := Option.map_eq_some'.mp h
  obtain ⟨hsupported, hnumber⟩ := connectTail_some_of_ok b htail
  rw [hnumber]
  rcases hsupported with rfl | rfl | rfl | rfl <;> decide

/-! ### The registry with `connect_keymint` behind it -/

/-- `get_keymint_device` with `connect_keymint` called on a miss; `none` is a panic, of the
connection or of the final `unwrap`. -/
def getKeymintDeviceConnected (m : DevicesMap Dev) (s : SecurityLevel) :
    Option (DevicesMap Dev × Except Error (Dev × KeyMintHardwareInfo × Uuid)) :=
  match m.devBySecLevel s with
  | some r => some (m, .ok r)
  | none => do
    let connect ← (connectKeymint b overflowChecks s).run
    let (m', reply) := getKeymintDevice into m s connect
    reply.map fun r => (m', r)

/-- The registry after `get_keymint_device` calls for the levels `ss`, or `none` on a panic. -/
def connectedRun : DevicesMap Dev → List SecurityLevel → Option (DevicesMap Dev)
  | m, [] => some m
  | m, s :: ss => (getKeymintDeviceConnected b overflowChecks into m s).bind fun r =>
    connectedRun r.1 ss

/-- What a registry keeps along a connected run: it is consistent, and a level served by a
native instance holds the version number of a supported KeyMint. -/
structure ConnectedRegistry (m : DevicesMap Dev) : Prop where
  consistent : Consistent into m
  nativeVersions : ∀ s dev hwInfo uuid serviceName,
    m.devBySecLevel s = some (dev, hwInfo, uuid) →
    (keymintServiceName b s).run = some (.ok (some serviceName)) →
    IsKeyMintVersion hwInfo.versionNumber

variable {b overflowChecks into}

/-- Inserting a level leaves every other level as it was. -/
theorem devBySecLevel_insert_of_ne (hinj : Function.Injective into) {m : DevicesMap Dev}
    (hm : Consistent into m) {s l : SecurityLevel} (hne : l ≠ s) (dev : Dev)
    (hwInfo : KeyMintHardwareInfo) :
    (m.insert into s dev hwInfo).devBySecLevel l = m.devBySecLevel l := by
  simp only [DevicesMap.devBySecLevel, DevicesMap.insert, if_neg hne]
  cases hu : m.uuidBySecLevel l with
  | none => rfl
  | some u =>
    have hus : u ≠ into s := by
      rw [(hm l u hu).1]
      exact fun h => hne (hinj h)
    simp [DevicesMap.devByUuid, hus]

/-- What one connected call does: hit the cache, or connect and hand the answer to
`get_keymint_device`. -/
theorem getKeymintDeviceConnected_cases {m m' : DevicesMap Dev} {s : SecurityLevel}
    {r : Except Error (Dev × KeyMintHardwareInfo × Uuid)}
    (h : getKeymintDeviceConnected b overflowChecks into m s = some (m', r)) :
    (m' = m ∧ ∃ x, m.devBySecLevel s = some x) ∨
    (m.devBySecLevel s = none ∧ ∃ connect, (connectKeymint b overflowChecks s).run = some connect ∧
      (getKeymintDevice into m s connect).1 = m') := by
  unfold getKeymintDeviceConnected at h
  split at h
  · cases h
    exact .inl ⟨rfl, _, ‹_›⟩
  · obtain ⟨connect, hc, h⟩ := Option.bind_eq_some.mp h
    refine .inr ⟨‹_›, connect, hc, ?_⟩
    obtain ⟨_, -, h⟩ := Option.map_eq_some'.mp h
    exact (Prod.mk.inj h).1

theorem ConnectedRegistry.step (hinj : Function.Injective into) {m m' : DevicesMap Dev}
    (hm : ConnectedRegistry b into m) {s : SecurityLevel} {r}
    (h : getKeymintDeviceConnected b overflowChecks into m s = some (m', r)) :
    ConnectedRegistry b into m' := by
  rcases getKeymintDeviceConnected_cases h with ⟨rfl, -⟩ | ⟨hmiss, connect, hc, rfl⟩
  · exact hm
  rcases getKeymintDevice_cases into m s connect
    with ⟨_, hhit, -⟩ | ⟨_, -, hcall⟩ | ⟨dev, hwInfo, -, rfl, hcall⟩
  · simp [hmiss] at hhit
  · rw [hcall]
    exact hm
  rw [hcall]
  refine ⟨hm.consistent.insert s dev hwInfo, fun l dev' hwInfo' uuid serviceName hl hname => ?_⟩
  by_cases hls : l = s
  · subst hls
    rw [DevicesMap.devBySecLevel_insert_self] at hl
    cases hl
    exact connectKeymint_native_isKeyMintVersion b overflowChecks hname hc
  · rw [devBySecLevel_insert_of_ne hinj hm.consistent hls] at hl
    exact hm.nativeVersions l dev' hwInfo' uuid serviceName hl hname

theorem ConnectedRegistry.run (hinj : Function.Injective into) :
    ∀ (ss : List SecurityLevel) {m m' : DevicesMap Dev}, ConnectedRegistry b into m →
      connectedRun b overflowChecks into m ss = some m' → ConnectedRegistry b into m'
  | [], _, _, hm, h => by cases h; exact hm
  | s :: ss, m, m', hm, h => by
    obtain ⟨⟨m₁, r⟩, h₁, h⟩ := Option.bind_eq_some.mp h
    exact ConnectedRegistry.run hinj ss (hm.step hinj h₁) h

theorem connectedRegistry_default : ConnectedRegistry b into (DevicesMap.default : DevicesMap Dev) :=
  ⟨consistent_default, fun _ _ _ _ _ h => by simp [DevicesMap.devBySecLevel, DevicesMap.default] at h⟩

/-- A connected call for a level served by a native instance returns a supported version, from
the cache or from the connection it makes. -/
theorem getKeymintDeviceConnected_native (hinj : Function.Injective into) {m m' : DevicesMap Dev}
    (hm : ConnectedRegistry b into m) {s : SecurityLevel} {serviceName : String} {dev : Dev}
    {hwInfo : KeyMintHardwareInfo} {uuid : Uuid}
    (hname : (keymintServiceName b s).run = some (.ok (some serviceName)))
    (h : getKeymintDeviceConnected b overflowChecks into m s = some (m', .ok (dev, hwInfo, uuid))) :
    IsKeyMintVersion hwInfo.versionNumber := by
  have hm' := hm.step hinj h
  -- the returned triple is what the level now resolves to
  have hres : m'.devBySecLevel s = some (dev, hwInfo, uuid) := by
    unfold getKeymintDeviceConnected at h
    split at h
    · cases h
      assumption
    · obtain ⟨connect, -, h⟩ := Option.bind_eq_some.mp h
      obtain ⟨reply, hreply, h⟩ := Option.map_eq_some'.mp h
      cases h
      exact devBySecLevel_getKeymintDevice hreply
  exact hm'.nativeVersions s dev hwInfo uuid serviceName hres hname

/-! ### The users of the registry -/

/-- A call that maps the registry's reply succeeded because the registry's call did. -/
theorem map_reply_eq_ok {α β σ ε : Type} {x : Option (σ × Except ε α)} {f : α → β} {m : σ} {c : β}
    (h : x.map (fun r => (r.1, r.2.map f)) = some (m, .ok c)) :
    ∃ a, x = some (m, .ok a) ∧ f a = c := by
  obtain ⟨⟨m', r⟩, hx, h⟩ := Option.map_eq_some'.mp h
  cases r with
  | error e => cases h
  | ok a =>
    cases h
    exact ⟨a, hx, rfl⟩

variable (b overflowChecks into)

/-- `KeystoreSecurityLevel::new_native_binder`: the requested level, and the hardware info and
uuid the registry returns, with the uuid handed back beside it. The device itself and the binder
around the security level are not modelled. -/
def KeystoreSecurityLevel.newNativeBinder (m : DevicesMap Dev) (securityLevel : SecurityLevel) :
    Option (DevicesMap Dev × Except Error (KeystoreSecurityLevel × Uuid)) :=
  (getKeymintDeviceConnected b overflowChecks into m securityLevel).map fun (m', r) =>
    (m', r.map fun (_, hwInfo, kmUuid) => (⟨securityLevel, hwInfo, kmUuid⟩, kmUuid))

/-- `KeyMintDevice::get`: the uuid, and the version and security level the device reports. -/
def KeyMintDevice.get (m : DevicesMap Dev) (securityLevel : SecurityLevel) :
    Option (DevicesMap Dev × Except Error KeyMintDevice) :=
  (getKeymintDeviceConnected b overflowChecks into m securityLevel).map fun (m', r) =>
    (m', r.map fun (_, hwInfo, kmUuid) => ⟨kmUuid, hwInfo.versionNumber, hwInfo.securityLevel⟩)

/-- `KeyMintDevice::get_or_none`: `HARDWARE_TYPE_UNAVAILABLE` is no device. -/
def KeyMintDevice.getOrNone (m : DevicesMap Dev) (securityLevel : SecurityLevel) :
    Option (DevicesMap Dev × Except Error (Option KeyMintDevice)) :=
  (KeyMintDevice.get b overflowChecks into m securityLevel).map fun (m', r) =>
    (m', match r with
      | .ok device => .ok (some device)
      | .error e => if e = .km ErrorCode.hardwareTypeUnavailable then .ok none else .error e)

variable {b overflowChecks into}

/-- **Native levels are KeyMint levels.** Along every run of `get_keymint_device` calls from the
empty registry, with `connect_keymint` answering each miss in either build mode and no panic,
let `s` be a level served by a native KeyMint instance. The registry holds a supported version
number for `s` if it holds anything. A later `KeyMintDevice::get` for `s` that succeeds
reports one of `100, 200, 300, 400`. A later `new_native_binder` for `s` that succeeds builds a
security level for `s` with such a version, and its `add_required_parameters` puts a
`CREATION_DATETIME` into every parameter list it returns. -/
theorem native_level_is_keymint (hinj : Function.Injective into) (ss : List SecurityLevel)
    {m : DevicesMap Dev} (hrun : connectedRun b overflowChecks into DevicesMap.default ss = some m)
    {s : SecurityLevel} {serviceName : String}
    (hname : (keymintServiceName b s).run = some (.ok (some serviceName))) :
    (∀ dev hwInfo uuid, m.devBySecLevel s = some (dev, hwInfo, uuid) →
      IsKeyMintVersion hwInfo.versionNumber) ∧
    (∀ m' device, KeyMintDevice.get b overflowChecks into m s = some (m', .ok device) →
      IsKeyMintVersion device.version) ∧
    (∀ m' self kmUuid,
      KeystoreSecurityLevel.newNativeBinder b overflowChecks into m s = some (m', .ok (self, kmUuid)) →
      self.securityLevel = s ∧ IsKeyMintVersion self.hwInfo.versionNumber ∧
      ∀ {η κ : Type} (env : Env η κ) uid params key (w : World η κ) result,
        (self.addRequiredParameters env uid params key w).1 = .ok result →
        ∃ millis, (⟨Tag.creationDatetime, .dateTime millis⟩ : KeyParameter) ∈ result) := by
  have hm := ConnectedRegistry.run hinj ss connectedRegistry_default hrun
  refine ⟨fun dev hwInfo uuid h => hm.nativeVersions s dev hwInfo uuid serviceName h hname,
    fun m' device h => ?_, fun m' self kmUuid h => ?_⟩
  · obtain ⟨⟨dev, hwInfo, uuid⟩, hcall, rfl⟩ := map_reply_eq_ok h
    exact getKeymintDeviceConnected_native hinj hm hname hcall
  · obtain ⟨⟨dev, hwInfo, uuid⟩, hcall, hself⟩ := map_reply_eq_ok h
    cases hself
    have hv := getKeymintDeviceConnected_native hinj hm hname hcall
    refine ⟨rfl, hv, fun env uid params key w result hres => ?_⟩
    obtain ⟨-, millis, aaidPart, rsirPart, validity, rfl, -⟩ :=
      KeystoreSecurityLevel.addRequiredParameters_ok env hres
    have h100 : hwInfo.versionNumber ≥ 100 := by
      rcases hv with h | h | h | h <;> omega
    exact ⟨millis, by simp [h100]⟩

/-- Levels as uuids, one uuid per level. -/
def levelAsUuid (s : SecurityLevel) : Uuid := ⟨s.val⟩

/-- The registry after connecting the trusted environment to a KeyMint V2 device. -/
def v2Registry : DevicesMap Unit :=
  DevicesMap.default.insert levelAsUuid SecurityLevel.trustedEnvironment ()
    ⟨200, SecurityLevel.trustedEnvironment, false⟩

/-- After that connection, `KeyMintDevice::get` for the trusted environment reports `200`. -/
theorem native_level_is_keymint_onV2 :
    KeyMintDevice.get (referenceBinder 2#32) true levelAsUuid v2Registry
        SecurityLevel.trustedEnvironment =
      some (v2Registry, .ok ⟨levelAsUuid SecurityLevel.trustedEnvironment, 200,
        SecurityLevel.trustedEnvironment⟩) ∧
    IsKeyMintVersion 200 :=
  have hinj : Function.Injective levelAsUuid := by
    rintro ⟨a⟩ ⟨b⟩ h
    cases h
    rfl
  have hget : KeyMintDevice.get (referenceBinder 2#32) true levelAsUuid v2Registry
      SecurityLevel.trustedEnvironment =
        some (v2Registry, .ok ⟨levelAsUuid SecurityLevel.trustedEnvironment, 200,
          SecurityLevel.trustedEnvironment⟩) := rfl
  have hrun : connectedRun (referenceBinder 2#32) true levelAsUuid DevicesMap.default
      [SecurityLevel.trustedEnvironment] = some v2Registry := rfl
  have hname : (keymintServiceName (referenceBinder 2#32) SecurityLevel.trustedEnvironment).run =
      some (.ok (some "android.hardware.security.keymint.IKeyMintDevice/default")) := rfl
  ⟨hget, (@native_level_is_keymint Unit (referenceBinder 2#32) true levelAsUuid hinj
    [SecurityLevel.trustedEnvironment] v2Registry hrun SecurityLevel.trustedEnvironment _
    hname).2.1 _ _ hget⟩

/-! ### The timestamp service -/

section SecureClock

variable {Clock : Type}

/-- What `connect_secureclock` asks of binder and of the compatibility service. -/
structure SecureClockBinder (Clock : Type) where
  /-- `<BpSecureClock as ISecureClock>::get_descriptor()`. -/
  secureClockDescriptor : String
  /-- `get_declared_instances`. -/
  getDeclaredInstances : String → Except Error (List String)
  /-- `binder::get_interface`, through `map_binder_status_code`. -/
  getInterface : String → Except Error Clock
  /-- The connection to `android.security.compat`. -/
  getCompatService : Except Error Unit
  /-- `IKeystoreCompatService::getSecureClock`, through `map_binder_status`. -/
  compatGetSecureClock : Except Error Clock

/-- `connect_secureclock`: the declared `default` instance, else the legacy clock behind the
compatibility service, `NAME_NOT_FOUND` there meaning no clock. The `unwrap` of the declared
instances panics when binder fails. -/
def connectSecureclock (sb : SecureClockBinder Clock) : ExceptT Error Option Clock := do
  let secureclockInstances ← match sb.getDeclaredInstances sb.secureClockDescriptor with
    | .ok secureclockInstances => pure secureclockInstances
    | .error _ => ExceptT.lift none
  let secureClockAvailable := secureclockInstances.any (· = "default")
  let defaultTimeStampServiceName := sb.secureClockDescriptor ++ "/default"
  if secureClockAvailable then
    liftE (sb.getInterface defaultTimeStampServiceName)
  else
    liftE do
      sb.getCompatService
      sb.compatGetSecureClock.mapError fun e =>
        if e = .binderTransaction StatusCode.nameNotFound then .km ErrorCode.hardwareTypeUnavailable
        else e

/-- `get_timestamp_service`: the cached clock, or a new connection, cached when it succeeds;
`none` is a panic of the connection. -/
def getTimestampService (sb : SecureClockBinder Clock) (tsDevice : Option Clock) :
    Option (Option Clock × Except Error Clock) :=
  match tsDevice with
  | some dev => some (tsDevice, .ok dev)
  | none => (connectSecureclock sb).run.map fun
    | .ok dev => (some dev, .ok dev)
    | .error e => (none, .error e)

/-- The cache and the answers after `get_timestamp_service` calls, with binder as it is at each
call; `none` on a panic. -/
def timestampRun :
    Option Clock → List (SecureClockBinder Clock) → Option (Option Clock × List (Except Error Clock))
  | tsDevice, [] => some (tsDevice, [])
  | tsDevice, sb :: sbs => (getTimestampService sb tsDevice).bind fun (tsDevice', r) =>
    (timestampRun tsDevice' sbs).map fun (tsDevice'', rs) => (tsDevice'', r :: rs)

/-- Once a clock is cached, every call returns it and binder is never asked. -/
theorem timestampRun_cached (c : Clock) (sbs : List (SecureClockBinder Clock)) :
    timestampRun (some c) sbs = some (some c, List.replicate sbs.length (.ok c)) := by
  induction sbs with
  | nil => rfl
  | cons sb sbs ih => simp [timestampRun, getTimestampService, ih, List.replicate_succ]

/-- A failed connection is returned and leaves the cache empty. -/
theorem timestampRun_failed {sb : SecureClockBinder Clock} {e : Error}
    (h : (connectSecureclock sb).run = some (.error e)) (sbs : List (SecureClockBinder Clock)) :
    timestampRun none (sb :: sbs) = (timestampRun none sbs).map fun r => (r.1, .error e :: r.2) := by
  simp [timestampRun, getTimestampService, h]

/-- **Failures are not cached.** Along any run of `get_timestamp_service` calls from the empty
cache, with binder as it is at each call: while connections fail, each call connects anew,
returns its own error and leaves the cache empty. The first connection that succeeds is cached,
and that call and every later one return its clock without connecting again, whatever binder
would answer then. -/
theorem timestampService_first_connection {pre : List (SecureClockBinder Clock)} {errs : List Error}
    (hpre : pre.map (fun sb => (connectSecureclock sb).run) = errs.map fun e => some (.error e))
    {sb : SecureClockBinder Clock} {c : Clock} (hc : (connectSecureclock sb).run = some (.ok c))
    (post : List (SecureClockBinder Clock)) :
    timestampRun none pre = some (none, errs.map .error) ∧
    timestampRun none (pre ++ sb :: post) =
      some (some c, errs.map .error ++ List.replicate (post.length + 1) (.ok c)) := by
  induction pre generalizing errs with
  | nil =>
    obtain rfl := List.map_eq_nil_iff.mp hpre.symm
    refine ⟨rfl, ?_⟩
    simp [timestampRun, getTimestampService, hc, timestampRun_cached, List.replicate_succ]
  | cons sb' pre ih =>
    obtain _ | ⟨e, errs⟩ := errs
    · cases hpre
    obtain ⟨he, hpre⟩ := List.cons_eq_cons.mp hpre
    obtain ⟨ih₁, ih₂⟩ := ih hpre
    simp [List.cons_append, timestampRun_failed he, ih₁, ih₂]

/-- The secure clock's descriptor. -/
def secureClockDescriptor : String := "android.hardware.security.secureclock.ISecureClock"

/-- A device with no secure clock: none declared, and none behind the compatibility service. -/
def noClockBinder : SecureClockBinder Nat :=
  ⟨secureClockDescriptor, fun _ => .ok [], fun _ => .error (.binderTransaction StatusCode.nameNotFound),
    .ok (), .error (.binderTransaction StatusCode.nameNotFound)⟩

/-- The same device once its `default` clock, clock `7`, is declared. -/
def defaultClockBinder : SecureClockBinder Nat :=
  { noClockBinder with getDeclaredInstances := fun _ => .ok ["default"], getInterface := fun _ => .ok 7 }

/-- A call before the clock comes up fails with `HARDWARE_TYPE_UNAVAILABLE`; the next connects,
and a later call returns that clock though binder has lost it again. -/
theorem timestampService_first_connection_onLateClock :
    timestampRun none [noClockBinder, defaultClockBinder, noClockBinder] =
      some (some 7, [.error (.km ErrorCode.hardwareTypeUnavailable), .ok 7, .ok 7]) :=
  (@timestampService_first_connection Nat [noClockBinder] [.km ErrorCode.hardwareTypeUnavailable]
    rfl defaultClockBinder 7 rfl [noClockBinder]).2

end SecureClock

end Keystore2
