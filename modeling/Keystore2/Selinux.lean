import Keystore2.Types
import Mathlib.Data.List.Nodup
import Mathlib.Data.List.Range

/-!
# SELinux permission classes

The `keystore2_selinux` crate names each SEPolicy class Keystore checks against with an enum that
`implement_class!` generates from a list of variants. Each variant carries its permission name
and may carry an initializer; one without takes the value of the variant before it shifted left
by one, starting from `1`. The expansion adds `None = 0`, converts to `i32` by `p as i32`, and
converts back with a `match` over `i32` constants that repeat the variants' values.

The two conversions evaluate the same value expressions in two types. `From<i32>` evaluates
them as `i32` constants; the enum evaluates them as its discriminant type, which the enum's own
attributes fix: `i32` under `#[repr(i32)]`, `isize` without. The cast `as i32` keeps the low 32
bits, and shifting commutes with that, so `Into<i32>` always yields the constant `From<i32>`
matches on. Whether the match finds the variant again depends on the constants alone: they must
be nonzero and distinct. Under `#[repr(i32)]` that is what the compiler already demands of the
discriminants. With a wider discriminant it is not: a class of more than 32 variants without
initializers compiles, and its variants from the 33rd on all convert to `0`, which reads back as
`None`.

`check_permission` hands the class and permission names to `check_access`, which converts them
to C strings and asks libselinux.
-/

namespace Keystore2

namespace Selinux

/-! ### The expansion of `implement_class!` -/

/-- A variant handed to `implement_class!`: its `#[selinux(name = ...)]`, and the value of its
initializer if it has one. -/
structure Variant where
  name : String
  value : Option Int
  deriving DecidableEq, Repr

/-- What `implement_class!` is handed: the `#[selinux(class_name = ...)]`, the variants in order,
and the bit width of the enum's discriminant (32 under `#[repr(i32)]`, 64 for `isize`). -/
structure PermissionClass where
  className : String
  width : Nat
  variants : List Variant
  deriving DecidableEq, Repr

/-- The value a variant is given at width `w` when `next` is carried to it. -/
def Variant.valueAt (v : Variant) (w : Nat) (next : BitVec w) : BitVec w :=
  match v.value with
  | some x => BitVec.ofInt w x
  | none => next

/-- The `@extract_perm_name` recursion, its expressions evaluated at width `w`: each variant takes
its initializer or the carried value, and carries its own value shifted left by one. -/
def values (w : Nat) : BitVec w → List Variant → List (BitVec w)
  | _, [] => []
  | next, v :: vs => v.valueAt w next :: values w (v.valueAt w next <<< 1) vs

@[simp]
theorem length_values (w : Nat) (next : BitVec w) (vs : List Variant) :
    (values w next vs).length = vs.length := by
  induction vs generalizing next with
  | nil => rfl
  | cons v vs ih => simp [values, ih]

namespace PermissionClass

variable (c : PermissionClass)

/-- A value of the generated enum: `None`, or the variant at an index. -/
abbrev Perm := Option (Fin c.variants.length)

/-- The discriminants of the generated enum, `None`'s `0` first. -/
def discriminants : List (BitVec c.width) := 0 :: values c.width 1 c.variants

/-- The compiler accepts the enum only when its discriminants are distinct. -/
def Compiles : Prop := c.discriminants.Nodup

instance : Decidable c.Compiles := inferInstanceAs (Decidable (List.Nodup _))

/-- The constants `const $vname: i32 = $vval;` of `From<i32>`. -/
def consts : List (BitVec 32) := values 32 1 c.variants

@[simp]
theorem length_consts : c.consts.length = c.variants.length := length_values _ _ _

/-- The arms `$vname => Self::$vname` of `From<i32>`, tried in order. -/
def matchArms (p : BitVec 32) : (arms : List (BitVec 32)) → Option (Fin arms.length)
  | [] => none
  | a :: arms => if p = a then some ⟨0, Nat.succ_pos _⟩ else (matchArms p arms).map Fin.succ

/-- `From<i32>`: `0` is `None`, then the first constant equal to `p`, and `None` for the rest. -/
def fromI32 (p : BitVec 32) : c.Perm :=
  if p = 0 then none else (matchArms p c.consts).map (Fin.cast c.length_consts)

/-- `From<$enum_name> for i32`: `p as i32`, the discriminant cut to its low 32 bits. -/
def toI32 : c.Perm → BitVec 32
  | none => 0
  | some i => ((values c.width 1 c.variants).get (i.cast (length_values _ _ _).symm)).setWidth 32

/-- `ClassPermission::name`. -/
def name : c.Perm → String
  | none => "none"
  | some i => (c.variants.get i).name

/-- The `i32` constant of variant `i`. -/
def const (i : Fin c.variants.length) : BitVec 32 := c.consts.get (i.cast c.length_consts.symm)

end PermissionClass

/-! ### Cutting a discriminant to 32 bits -/

section Truncation

variable {u w : Nat}

theorem setWidth_shiftLeft_of_le (h : u ≤ w) (x : BitVec w) (n : Nat) :
    (x <<< n).setWidth u = x.setWidth u <<< n := by
  have hdvd : 2 ^ u ∣ 2 ^ w := Nat.pow_dvd_pow 2 h
  apply BitVec.eq_of_toNat_eq
  simp only [BitVec.toNat_setWidth, BitVec.toNat_shiftLeft, Nat.shiftLeft_eq,
    Nat.mod_mod_of_dvd _ hdvd, Nat.mod_mul_mod]

theorem setWidth_ofInt_of_le (h : u ≤ w) (x : Int) :
    (BitVec.ofInt w x).setWidth u = BitVec.ofInt u x := by
  have hdvd : ((2 ^ u : Nat) : Int) ∣ ((2 ^ w : Nat) : Int) :=
    Int.ofNat_dvd.mpr (Nat.pow_dvd_pow 2 h)
  apply BitVec.eq_of_toNat_eq
  simp only [BitVec.toNat_setWidth, BitVec.toNat_ofInt]
  rw [← Int.emod_emod_of_dvd x hdvd]
  obtain ⟨n, hn⟩ := Int.eq_ofNat_of_zero_le
    (@Int.emod_nonneg x ((2 ^ w : Nat) : Int) (Int.ofNat_ne_zero.mpr (Nat.two_pow_pos w).ne'))
  rw [hn]
  rfl

theorem Variant.setWidth_valueAt (h : u ≤ w) (v : Variant) (next : BitVec w) :
    (v.valueAt w next).setWidth u = v.valueAt u (next.setWidth u) := by
  cases hv : v.value <;> simp [Variant.valueAt, hv, setWidth_ofInt_of_le h]

/-- The chain cut to `u` bits is the chain evaluated at `u` bits. -/
theorem map_setWidth_values (h : u ≤ w) (next : BitVec w) (vs : List Variant) :
    (values w next vs).map (BitVec.setWidth u) = values u (next.setWidth u) vs := by
  induction vs generalizing next with
  | nil => rfl
  | cons v vs ih =>
    simp only [values, List.map_cons, ih, Variant.setWidth_valueAt h, setWidth_shiftLeft_of_le h]

end Truncation

/-! ### The chain without initializers -/

section Implicit

variable {w : Nat}

/-- Without initializers the `k`-th value is the first shifted left `k` times. -/
theorem values_of_implicit {vs : List Variant} (hv : ∀ v ∈ vs, v.value = none) (next : BitVec w) :
    values w next vs = (List.range vs.length).map (next <<< ·) := by
  induction vs generalizing next with
  | nil => rfl
  | cons v vs ih =>
    have hnext : v.valueAt w next = next := by simp [Variant.valueAt, hv v (List.mem_cons_self _ _)]
    rw [values, hnext, ih (fun v' hv' => hv v' (List.mem_cons_of_mem _ hv')),
      List.length_cons, List.range_succ_eq_map, List.map_cons, List.map_map]
    congr 1
    · exact (BitVec.shiftLeft_zero next).symm
    · exact List.map_congr_left fun k _ => by
        simp only [Function.comp, Nat.succ_eq_add_one, Nat.add_comm k 1, BitVec.shiftLeft_add]

theorem toNat_one_shiftLeft (k : Nat) : ((1 : BitVec w) <<< k).toNat = (1 <<< k) % (1 <<< w) := by
  simp [BitVec.toNat_shiftLeft, Nat.shiftLeft_eq, Nat.mod_mul_mod]

/-- A single bit survives the shift exactly while it stays inside the width. -/
theorem one_shiftLeft_eq_zero_iff (k : Nat) : ((1 : BitVec w) <<< k) = 0 ↔ w ≤ k := by
  rw [BitVec.toNat_eq, toNat_one_shiftLeft, BitVec.ofNat_eq_ofNat, BitVec.toNat_ofNat, Nat.zero_mod,
    Nat.one_shiftLeft, Nat.one_shiftLeft]
  refine ⟨fun h => ?_, fun h => Nat.mod_eq_zero_of_dvd (Nat.pow_dvd_pow 2 h)⟩
  by_contra hk
  rw [Nat.mod_eq_of_lt (Nat.pow_lt_pow_right (by decide) (by omega))] at h
  exact (Nat.two_pow_pos k).ne' h

theorem one_shiftLeft_inj {k l : Nat} (hk : k < w) (hl : l < w) :
    ((1 : BitVec w) <<< k) = (1 : BitVec w) <<< l ↔ k = l := by
  simp only [BitVec.toNat_eq, toNat_one_shiftLeft, Nat.one_shiftLeft]
  rw [Nat.mod_eq_of_lt (Nat.pow_lt_pow_right (by decide) hk),
    Nat.mod_eq_of_lt (Nat.pow_lt_pow_right (by decide) hl)]
  exact (Nat.pow_right_injective (le_refl 2)).eq_iff

end Implicit

/-! ### The round trip -/

namespace PermissionClass

/-- `From<i32>` finds a constant no earlier arm repeats. -/
theorem matchArms_get : ∀ (arms : List (BitVec 32)) (i : Fin arms.length),
    (∀ j : Fin arms.length, j < i → arms.get j ≠ arms.get i) → matchArms (arms.get i) arms = some i
  | [], i, _ => i.elim0
  | a :: arms, ⟨0, _⟩, _ => by simp [matchArms]
  | a :: arms, ⟨k + 1, hk⟩, h => by
    have hne : arms.get ⟨k, Nat.lt_of_succ_lt_succ hk⟩ ≠ a :=
      fun he => h ⟨0, Nat.succ_pos _⟩ (Nat.succ_pos k) he.symm
    have ih := matchArms_get arms ⟨k, Nat.lt_of_succ_lt_succ hk⟩ fun j hj =>
      h j.succ (Nat.succ_lt_succ hj)
    simp only [matchArms, List.get_cons_succ, if_neg hne, ih]
    rfl

theorem matchArms_eq_none {p : BitVec 32} : ∀ {arms : List (BitVec 32)}, p ∉ arms →
    matchArms p arms = none
  | [], _ => rfl
  | a :: arms, h => by
    rw [List.mem_cons, not_or] at h
    simp [matchArms, h.1, matchArms_eq_none h.2]

variable (c : PermissionClass)

theorem fromI32_const (i : Fin c.variants.length) (hne : c.const i ≠ 0)
    (hfirst : ∀ j, j < i → c.const j ≠ c.const i) : c.fromI32 (c.const i) = some i := by
  unfold fromI32
  rw [if_neg hne, const, matchArms_get _ _ fun j hj => hfirst (j.cast c.length_consts) hj]
  rfl

/-- The discriminants past `None` cut to 32 bits are the constants. -/
theorem map_setWidth_values_one {c : PermissionClass} (hw : 32 ≤ c.width) :
    (values c.width 1 c.variants).map (BitVec.setWidth 32) = c.consts := by
  rw [map_setWidth_values hw, consts]
  congr 1
  exact BitVec.setWidth_ofNat_of_le hw 1

/-- `p as i32` of a variant is its constant, whatever the width of the discriminant past 32. -/
theorem toI32_some {c : PermissionClass} (hw : 32 ≤ c.width) (i : Fin c.variants.length) :
    c.toI32 (some i) = c.const i := by
  simp only [toI32, const, ← map_setWidth_values_one hw, List.get_eq_getElem, List.getElem_map]
  rfl

/-- **Round trip under `#[repr(i32)]`.** For every permission class the compiler accepts with
`i32` discriminants, `From<i32>` takes each permission's `i32` back to that permission, and
every other `i32` to `None`. -/
theorem fromI32_toI32_of_compiles (hw : c.width = 32) (hc : c.Compiles) :
    (∀ p, c.fromI32 (c.toI32 p) = p) ∧ ∀ x, (∀ p, c.toI32 p ≠ x) → c.fromI32 x = none := by
  -- at width 32 cutting is injective, so the constants, `0` first, are as distinct as the
  -- discriminants
  have hinj : Function.Injective (BitVec.setWidth 32 : BitVec c.width → BitVec 32) := by
    intro x y h
    have h' := congrArg BitVec.toNat h
    simp only [BitVec.toNat_setWidth] at h'
    apply BitVec.eq_of_toNat_eq
    rwa [Nat.mod_eq_of_lt (hw ▸ x.isLt), Nat.mod_eq_of_lt (hw ▸ y.isLt)] at h'
  have hnodup : (0 :: c.consts).Nodup := by
    have h := hc.map hinj
    have hz : (0 : BitVec c.width).setWidth 32 = 0 := BitVec.setWidth_zero _ _
    rwa [discriminants, List.map_cons, map_setWidth_values_one hw.ge, hz] at h
  obtain ⟨hzero, hdistinct⟩ := List.nodup_cons.mp hnodup
  have hne : ∀ i, c.const i ≠ 0 := fun i h => hzero (h ▸ List.get_mem _ _ _)
  refine ⟨fun p => ?_, fun x hx => ?_⟩
  · rcases p with _ | i
    · simp [toI32, fromI32]
    · rw [toI32_some hw.ge]
      refine c.fromI32_const i (hne i) fun j hj h => Fin.ne_of_lt hj ?_
      exact Fin.ext (Fin.mk.inj_iff.mp ((hdistinct.get_inj_iff).mp h))
  · have hx0 : x ≠ 0 := (hx none).symm
    have hxc : x ∉ c.consts := fun hmem => by
      obtain ⟨k, hk⟩ := List.get_of_mem hmem
      exact hx (some (k.cast c.length_consts)) (by rw [toI32_some hw.ge, ← hk]; rfl)
    simp [fromI32, hx0, matchArms_eq_none hxc]

/-- **Classes without initializers.** The `i`-th permission is `1 << i`. The enum compiles
exactly when the class has at most as many variants as its discriminant has bits, and
`From<i32>` takes a permission's `i32` back to it exactly when the permission is `None` or one of
the first 32. Under `#[repr(i32)]` every such class that compiles round-trips; with a 64-bit
discriminant a class of 33 to 64 variants compiles, and its variants from the 33rd on read
back as `None`. -/
theorem implicit_class_round_trip (hw : 32 ≤ c.width) (himp : ∀ v ∈ c.variants, v.value = none) :
    (∀ i, c.toI32 (some i) = (1 : BitVec 32) <<< i.val) ∧
    (c.Compiles ↔ c.variants.length ≤ c.width) ∧
    ∀ p : c.Perm, c.fromI32 (c.toI32 p) = p ↔ ∀ i, p = some i → i.val < 32 := by
  have hconst : ∀ i, c.const i = (1 : BitVec 32) <<< i.val := fun i => by
    simp [const, consts, values_of_implicit himp]
  refine ⟨fun i => (toI32_some hw i).trans (hconst i), ?_, fun p => ?_⟩
  · rw [Compiles, discriminants, values_of_implicit himp, List.nodup_cons]
    constructor
    · rintro ⟨hzero, -⟩
      by_contra hlen
      exact hzero (List.mem_map.mpr ⟨c.width, List.mem_range.mpr (by omega),
        (one_shiftLeft_eq_zero_iff _).mpr le_rfl⟩)
    · intro hlen
      refine ⟨fun hmem => ?_, (List.nodup_range _).map_on fun k hk l hl h => ?_⟩
      · obtain ⟨k, hk, h⟩ := List.mem_map.mp hmem
        have := (one_shiftLeft_eq_zero_iff k).mp h
        rw [List.mem_range] at hk
        omega
      · rw [List.mem_range] at hk hl
        exact (one_shiftLeft_inj (by omega) (by omega)).mp h
  · rcases p with _ | i
    · simp [toI32, fromI32]
    · rw [toI32_some hw, hconst]
      constructor
      · intro h j hj
        cases hj
        by_contra hi
        rw [(one_shiftLeft_eq_zero_iff _).mpr (by omega)] at h
        simp [fromI32] at h
      · intro hi
        have hi := hi i rfl
        rw [← hconst]
        refine c.fromI32_const i (by rw [hconst, Ne, one_shiftLeft_eq_zero_iff]; omega)
          fun j hj h => (Fin.ne_of_lt hj) (Fin.ext ?_)
        rw [hconst, hconst] at h
        exact (one_shiftLeft_inj (by have : j.val < i.val := hj; omega) hi).mp h

/-- The example of the macro's documentation, `Foo = 1, Bar = 2, Snafu`, under `#[repr(i32)]`. -/
def docExample : PermissionClass :=
  ⟨"my_class", 32, [⟨"foo", some 1⟩, ⟨"bar", some 2⟩, ⟨"snafu", none⟩]⟩

/-- `Snafu` is `4`, and `4` reads back as `Snafu`. -/
theorem fromI32_toI32_onDocExample :
    docExample.Compiles ∧ docExample.toI32 (some ⟨2, by decide⟩) = 4 ∧
      docExample.fromI32 4 = some ⟨2, by decide⟩ :=
  have hc : docExample.Compiles := by decide
  have h4 : docExample.toI32 (some ⟨2, by decide⟩) = 4 := by decide
  ⟨hc, h4, h4 ▸ (fromI32_toI32_of_compiles docExample rfl hc).1 (some ⟨2, by decide⟩)⟩

/-- A class of 33 variants without initializers and without `#[repr(i32)]`. -/
def wideClass : PermissionClass := ⟨"my_class", 64, List.replicate 33 ⟨"p", none⟩⟩

/-- It compiles, and its 33rd variant converts to `0` and reads back as `None`. -/
theorem implicit_class_round_trip_onWideClass :
    wideClass.Compiles ∧ wideClass.toI32 (some ⟨32, by decide⟩) = 0 ∧
      wideClass.fromI32 (wideClass.toI32 (some ⟨32, by decide⟩)) = none :=
  have h := implicit_class_round_trip wideClass (by decide)
    (fun v hv => (List.eq_of_mem_replicate hv).symm ▸ rfl)
  have h0 : wideClass.toI32 (some ⟨32, by decide⟩) = 0 := (h.1 _).trans (by decide)
  ⟨h.2.1.mpr (by decide), h0, by rw [h0]; rfl⟩

end PermissionClass

/-! ### `check_access` and `check_permission` -/

/-- How `check_access` fails: a class or permission name that is no C string, the
`Error::PermissionDenied` of an `EPERM` or `EACCES`, or any other errno of the check. -/
inductive CheckError where
  | nul
  | permissionDenied
  | os (errno : Int)
  deriving DecidableEq, Repr

/-- `selinux_check_access` as the loaded policy answers it: `0`, or `-1` with an errno. -/
structure Libselinux where
  checkAccess : (source target tclass perm : String) → Except Int Unit

/-- `CString::new`: refused when the string holds a NUL. -/
def cString (s : String) : Except CheckError String :=
  if s.contains '\x00' then .error .nul else .ok s

/-- `io::Error::kind` is `PermissionDenied` for `EPERM` and `EACCES`. -/
def isPermissionDenied (errno : Int) : Bool := errno = 1 || errno = 13

/-- `check_access`; the source and target contexts are C strings already. -/
def checkAccess (lib : Libselinux) (source target tclass perm : String) :
    Except CheckError Unit := do
  let cTclass ← cString tclass
  let cPerm ← cString perm
  match lib.checkAccess source target cTclass cPerm with
  | .ok () => pure ()
  | .error errno => .error (if isPermissionDenied errno then .permissionDenied else .os errno)

/-- `check_permission`. -/
def checkPermission (lib : Libselinux) (source target : String) (c : PermissionClass)
    (perm : c.Perm) : Except CheckError Unit :=
  checkAccess lib source target c.className (c.name perm)

/-- With C-string names the check is libselinux's answer, `EPERM` and `EACCES` read as a denial;
a name with a NUL is refused before libselinux is asked. -/
theorem checkAccess_eq (lib : Libselinux) (source target tclass perm : String) :
    checkAccess lib source target tclass perm =
      if tclass.contains '\x00' || perm.contains '\x00' then .error .nul
      else (lib.checkAccess source target tclass perm).mapError fun errno =>
        if isPermissionDenied errno then .permissionDenied else .os errno := by
  unfold checkAccess cString
  cases tclass.contains '\x00' <;> cases perm.contains '\x00' <;> try rfl
  simp only [Bool.false_eq_true, if_false, Except.ok_bind, Bool.or_self]
  cases lib.checkAccess source target tclass perm <;> rfl

end Selinux

end Keystore2
