import AudioHost.Proofs.Sweeps
import AudioHost.Simulation.Sample
import Mathlib.Data.List.Nodup
import Mathlib.Data.Nat.Bitwise

/-!
# What parts of the system get for good

The first half of a sweep, told by the standing of the packages and by the flags alone. A
permission that is due is granted once and then fixed, however often its package is listed
or asks for it: the sweep passes over whatever it has fixed itself.
-/

set_option autoImplicit false

namespace AudioHost

/-! ## Flags -/

namespace PermissionFlags

variable {flags : PermissionFlags}

/-- Of the low eight bits only the one that fixes is left, and the others are as before. -/
private theorem toNat_fixed (flags : PermissionFlags) :
    (flags.updated .touchable .systemFixed).bits.toNat = 256 * (flags.bits.toNat / 256) + 16 := by
  have kept : (flags.bits &&& ~~~(0xFF : UInt32)).toNat = 2 ^ 8 * (flags.bits.toNat / 2 ^ 8) := by
    have mask : (~~~(0xFF : UInt32)).toNat = 2 ^ 8 * (2 ^ 24 - 1) := by decide
    rw [UInt32.toNat_and, mask]
    apply Nat.eq_of_testBit_eq
    intro place
    simp only [Nat.testBit_and, Nat.testBit_two_pow_mul, Nat.testBit_two_pow_sub_one,
      Nat.testBit_div_two_pow]
    by_cases high : 8 ≤ place
    · have same : place - 8 + 8 = place := Nat.sub_add_cancel high
      by_cases within : place < 32
      · have masked : place - 8 < 24 := by omega
        simp [high, same, masked]
      · have absent : flags.bits.toNat.testBit place = false :=
          Nat.testBit_lt_two_pow (Nat.lt_of_lt_of_le flags.bits.toNat_lt
            (Nat.pow_le_pow_right (by decide) (Nat.not_lt.mp within)))
        simp [same, absent]
    · simp [high]
  have fixing : ((16 : UInt32) &&& 0xFF).toNat = 16 := by decide
  change ((flags.bits &&& ~~~(0xFF : UInt32)) ||| (16 &&& 0xFF)).toNat = _
  rw [UInt32.toNat_or, kept, fixing]
  exact (Nat.two_pow_add_eq_or_of_lt (by decide : 16 < 2 ^ 8) _).symm

private theorem contains_systemFixed_eq :
    flags.contains .systemFixed = flags.bits.toNat.testBit 4 := by
  have masked : (flags.bits &&& (16 : UInt32)).toNat =
      (flags.bits.toNat.testBit 4).toNat * 2 ^ 4 := by
    rw [UInt32.toNat_and]
    exact Nat.and_two_pow _ 4
  change (flags.bits &&& (16 : UInt32) == 16) = _
  rw [Bool.eq_iff_iff, beq_iff_eq, ← UInt32.toNat_inj, masked]
  cases flags.bits.toNat.testBit 4 <;> decide

end PermissionFlags

/-! ## What is due -/

private theorem nodup_eraseDups {Item : Type} [BEq Item] [LawfulBEq Item] (items : List Item) :
    items.eraseDups.Nodup := by
  induction size : items.length using Nat.strong_induction_on generalizing items with
  | _ bound ih =>
      cases items with
      | nil => exact List.nodup_nil
      | cons item rest =>
          have shorter : (rest.filter fun other => !other == item).length < bound := by
            have atMost := List.length_filter_le (fun other => !other == item) rest
            rw [List.length_cons] at size
            omega
          rw [List.eraseDups_cons, List.nodup_cons]
          exact ⟨by simp [List.mem_eraseDups], ih _ shorter _ rfl⟩

/-- An application id of the system's own, or a privileged place where the system keeps the
package running. -/
def Package.IsPart (package : Package) : Prop :=
  package.uid.toNat % 100000 < 10000 ∨
    (package.privileged = true ∧ package.persistent = true)

theorem Package.isSystemPart_iff {package : Package} :
    package.isSystemPart = true ↔ package.IsPart := by
  simp [isSystemPart, IsPart, applicationId, uidsPerUser, firstApplicationId,
    UInt32.lt_iff_toNat_lt]

theorem Package.hasRuntimePermissions_iff {package : Package} :
    package.hasRuntimePermissions = true ↔ 22 < package.targetSdk.toNat := by
  simp [hasRuntimePermissions, lastInstallTimeSdk, UInt32.lt_iff_toNat_lt]

namespace Registry

/-- A listed part of the system knows permissions that are granted at run time, asks for one
and does not have it for good yet. -/
structure FixDue (registry : Registry) (user : UserId) (name permission : String) : Prop where
  listed : name ∈ registry.packageNames
  asks : ∃ package, registry.package? name = some package ∧ package.IsPart ∧
    22 < package.targetSdk.toNat ∧ permission ∈ package.requested
  runtime : registry.isRuntime permission = true
  unfixed : (registry.flags permission name user).bits.toNat.testBit 4 = false

variable {registry : Registry} {user : UserId} {name permission : String}

theorem mem_fixable_iff (named : registry.Named) :
    (name, permission) ∈ registry.fixable ↔
      name ∈ registry.packageNames ∧ registry.isRuntime permission = true ∧
        ∃ package, registry.package? name = some package ∧ package.IsPart ∧
          22 < package.targetSdk.toNat ∧ permission ∈ package.requested := by
  simp only [fixable, List.mem_flatMap, mem_fixableOf_iff, Package.isSystemPart_iff,
    Package.hasRuntimePermissions_iff]
  constructor
  · intro fixable
    obtain ⟨looked, listed, package, installed, part, modern, rfl, asks, runtime⟩ := fixable
    obtain rfl := named looked package installed
    exact ⟨listed, runtime, package, installed, part, modern, asks⟩
  · intro due
    obtain ⟨listed, runtime, package, installed, part, modern, asks⟩ := due
    have sameName : name = package.name := (named name package installed).symm
    exact ⟨name, listed, package, installed, part, modern, sameName, asks, runtime⟩

theorem mem_unfixed_iff (named : registry.Named) :
    (name, permission) ∈ registry.unfixed user ↔ registry.FixDue user name permission := by
  rw [unfixed, List.mem_eraseDups, List.mem_filter, mem_fixable_iff named, isFixed,
    PermissionFlags.contains_systemFixed_eq, Bool.not_eq_true']
  constructor
  · intro both
    obtain ⟨⟨listed, runtime, asks⟩, unfixed⟩ := both
    exact ⟨listed, asks, runtime, unfixed⟩
  · intro due
    exact ⟨⟨due.listed, due.runtime, due.asks⟩, due.unfixed⟩

end Registry

/-! ## What is done -/

namespace Sweep

/-- What fixing the parts of the system does: it goes once through all that is due, in some
order, and touches nothing else. -/
structure FixesOnce (before after : Sweep) (acts : List RegistryAct)
    (fixed : List (String × String)) : Prop where
  due : ∀ name permission,
    (name, permission) ∈ fixed ↔ before.registry.FixDue before.user name permission
  distinct : fixed.Nodup
  told : after.acts = before.acts ++ acts
  grantedOnce : ∀ name permission, before.registry.FixDue before.user name permission →
    acts.count (.grantRuntime name permission before.user) = 1
  nothingElse : ∀ name permission recipient, .grantRuntime name permission recipient ∈ acts →
    recipient = before.user ∧ before.registry.FixDue before.user name permission
  nothingInstalled : ∀ name permission, .grantInstall name permission ∉ acts
  flagsFixed : ∀ name permission, before.registry.FixDue before.user name permission →
    (after.registry.flags permission name before.user).bits.toNat =
      256 * ((before.registry.flags permission name before.user).bits.toNat / 256) + 16
  flagsKept : ∀ name permission user,
    ¬ (user = before.user ∧ before.registry.FixDue before.user name permission) →
      after.registry.flags permission name user = before.registry.flags permission name user
  answersKept : after.registry = { before.registry with flags := after.registry.flags }
  counted : after.summary =
    { before.summary with systemFixed := before.summary.systemFixed + fixed.length }

variable {user recipient : UserId} {name permission : String} {pairs : List (String × String)}

private theorem grantRuntime_mem_fixActs_iff :
    .grantRuntime name permission recipient ∈ pairs.flatMap (fixActs user) ↔
      recipient = user ∧ (name, permission) ∈ pairs := by
  simp only [List.mem_flatMap, fixActs, List.mem_cons, RegistryAct.grantRuntime.injEq,
    List.not_mem_nil, or_false, reduceCtorEq]
  constructor
  · intro granted
    obtain ⟨pair, member, rfl, rfl, rfl⟩ := granted
    exact ⟨rfl, member⟩
  · intro both
    obtain ⟨rfl, member⟩ := both
    exact ⟨_, member, rfl, rfl, rfl⟩

private theorem grantInstall_not_mem_fixActs :
    .grantInstall name permission ∉ pairs.flatMap (fixActs user) := by
  simp [fixActs]

theorem count_fixActs (user : UserId) (name permission : String) (pairs : List (String × String)) :
    (pairs.flatMap (fixActs user)).count (.grantRuntime name permission user) =
      pairs.count (name, permission) := by
  induction pairs with
  | nil => rfl
  | cons pair rest ih =>
      have first : (fixActs user pair).count (.grantRuntime name permission user) =
          [pair].count (name, permission) := by
        obtain ⟨package, asked⟩ := pair
        simp [fixActs, List.count_cons]
      rw [List.flatMap_cons, List.count_append, ih, first, ← List.count_append]
      rfl

/-- Each permission that is due is granted exactly once, is fixed by that and counted. -/
theorem fixSystemParts_once (sweep : Sweep) (named : sweep.registry.Named) :
    ∃ acts fixed, FixesOnce sweep sweep.fixSystemParts acts fixed := by
  have due : ∀ name permission, (name, permission) ∈ sweep.registry.unfixed sweep.user ↔
      sweep.registry.FixDue sweep.user name permission := fun _ _ => Registry.mem_unfixed_iff named
  have distinct : (sweep.registry.unfixed sweep.user).Nodup := nodup_eraseDups _
  have flags := fun name permission user => Registry.flags_fixing sweep.registry sweep.user user
    name permission (sweep.registry.unfixed sweep.user)
  refine ⟨(sweep.registry.unfixed sweep.user).flatMap (fixActs sweep.user),
    sweep.registry.unfixed sweep.user, ?_⟩
  rw [fixSystemParts_eq]
  constructor
  case due => exact due
  case distinct => exact distinct
  case told => rfl
  case grantedOnce =>
    intro name permission isDue
    rw [count_fixActs]
    exact List.count_eq_one_of_mem distinct ((due name permission).mpr isDue)
  case nothingElse =>
    intro name permission recipient granted
    obtain ⟨own, member⟩ := grantRuntime_mem_fixActs_iff.mp granted
    exact ⟨own, (due name permission).mp member⟩
  case nothingInstalled => exact fun _ _ => grantInstall_not_mem_fixActs
  case flagsFixed =>
    intro name permission isDue
    have replaced := (flags name permission sweep.user).trans
      (if_pos ⟨rfl, (due name permission).mpr isDue⟩)
    exact (congrArg (·.bits.toNat) replaced).trans (PermissionFlags.toNat_fixed _)
  case flagsKept =>
    intro name permission user spared
    refine (flags name permission user).trans (if_neg ?_)
    exact fun both => spared ⟨both.1, (due name permission).mp both.2⟩
  case answersKept => exact Registry.fixing_eq _ _ _
  case counted => rfl

section Sample

open Simulation

/-- Flags of every sort are set on what the platform asks for twice, but it is not fixed. -/
def touchedPackages : PackageTable :=
  { samplePackages with flags := [(⟨0, platform.name, recordAudio⟩, ⟨0xABCDEF0F⟩)] }

theorem fixSystemParts_once_of_touchedPackages :
    touchedPackages.registry.Named ∧
    (∃ acts fixed, FixesOnce (start touchedPackages.registry 0)
      (start touchedPackages.registry 0).fixSystemParts acts fixed) ∧
    (start touchedPackages.registry 0).fixSystemParts.acts =
      [.grantRuntime platform.name recordAudio 0,
        .updateFlags platform.name recordAudio .touchable .systemFixed 0] ∧
    (start touchedPackages.registry 0).fixSystemParts.registry.flags recordAudio platform.name 0 =
      ⟨0xABCDEF10⟩ :=
  have named := touchedPackages.registry_named
  ⟨named, fixSystemParts_once (start touchedPackages.registry 0) named, by decide, by decide⟩

end Sample

end Sweep

end AudioHost
