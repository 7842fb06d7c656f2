import AudioHost.Proofs.Sweeps
import AudioHost.Simulation.Sample

/-!
# What handlers and providers get

The grants of the second half of a sweep, told by the standing of the packages and by their
roles alone: whoever is due a permission gets it, and nobody else does.
-/

set_option autoImplicit false

namespace AudioHost

/-- Came with the system without being part of it. -/
def Package.IsSystemApp (package : Package) : Prop :=
  package.system = true ∧ package.isSystemPart = false

namespace Registry

/-- A package asks for a permission, an updated system package by its factory version
where one is known. -/
inductive Asks (registry : Registry) (package : Package) (permission : String) : Prop where
  | byFactory {factory : Package} (updated : package.updatedSystem = true)
      (known : registry.factoryVersion? package.name = some factory)
      (requested : permission ∈ factory.requested)
  | itself (current : package.updatedSystem = false ∨ registry.factoryVersion? package.name = none)
      (requested : permission ∈ package.requested)

/-- The first system app among the handlers of an intent. -/
def IsDefaultHandler (registry : Registry) (user : UserId) (intent : Intent)
    (package : Package) : Prop :=
  ∃ before name after, registry.handlers intent user = before ++ name :: after ∧
    registry.package? name = some package ∧ package.IsSystemApp ∧
    ∀ earlier ∈ before, ∀ other, registry.package? earlier = some other → ¬ other.IsSystemApp

inductive HasRole (registry : Registry) (user : UserId) (package : Package)
    (permission : String) : Prop where
  | handler {intent : Intent} {groups : List PermissionGroup} {group : PermissionGroup}
      (assigned : (intent, groups) ∈ Intent.defaultGrants) (member : group ∈ groups)
      (covered : group.contains permission = true)
      (first : registry.IsDefaultHandler user intent package)
  | provider {provider : Provider} {group : PermissionGroup}
      (listed : package.name ∈ registry.providedBy provider user)
      (member : group ∈ provider.groups) (covered : group.contains permission = true)

structure RuntimeDue (registry : Registry) (user : UserId) (package : Package)
    (permission : String) : Prop where
  installed : registry.package? package.name = some package
  app : package.IsSystemApp
  modern : Package.lastInstallTimeSdk < package.targetSdk
  asks : registry.Asks package permission
  free : registry.flags permission package.name user = .none
  role : registry.HasRole user package permission

structure InstallDue (registry : Registry) (user : UserId) (package : Package)
    (permission : String) : Prop where
  installed : registry.package? package.name = some package
  privileged : package.privileged = true
  outside : package.isSystemPart = false
  asks : registry.Asks package permission
  free : registry.flags permission package.name user = .none
  role :
    (package.name ∈ registry.handlers .installer user ∧
      PermissionGroup.installer.contains permission = true) ∨
    (package.name ∈ registry.handlers .verifier user ∧
      PermissionGroup.verifier.contains permission = true)

/-- Exactly the grants that are due are made, for the user of the sweep; no flag is touched,
and nothing that installers or verifiers get is granted at run time. -/
structure GrantsByRole (registry : Registry) (user : UserId) (grants : List RegistryAct) :
    Prop where
  runtime : ∀ name permission recipient, .grantRuntime name permission recipient ∈ grants ↔
    recipient = user ∧
      ∃ package, package.name = name ∧ registry.RuntimeDue user package permission
  install : ∀ name permission, .grantInstall name permission ∈ grants ↔
    ∃ package, package.name = name ∧ registry.InstallDue user package permission
  flagsKept : ∀ name permission selected given recipient,
    .updateFlags name permission selected given recipient ∉ grants
  nothingPrivileged : ∀ name permission recipient,
    .grantRuntime name permission recipient ∈ grants →
      PermissionGroup.installer.contains permission = false ∧
        PermissionGroup.verifier.contains permission = false

variable {registry : Registry} {user : UserId} {package : Package} {permission name : String}

/-! ## Standing -/

theorem asks_iff : registry.Asks package permission ↔
    permission ∈ (registry.judged package).requested := by
  unfold judged
  constructor
  · intro asks
    cases asks with
    | byFactory updated known requested => simpa [updated, known] using requested
    | itself current requested =>
        rcases current with current | unknown
        · simpa [current] using requested
        · simpa [unknown] using requested
  · intro requested
    cases updated : package.updatedSystem with
    | false => exact .itself (.inl updated) (by simpa [updated] using requested)
    | true =>
        cases known : registry.factoryVersion? package.name with
        | none => exact .itself (.inr known) (by simpa [updated, known] using requested)
        | some factory =>
            exact .byFactory updated known (by simpa [updated, known] using requested)

private theorem flags_isEmpty_iff : (registry.flags permission name user).isEmpty = true ↔
    registry.flags permission name user = .none := by
  cases registry.flags permission name user
  simp [PermissionFlags.isEmpty, PermissionFlags.none]

private theorem mem_freeOf_iff {group : PermissionGroup} :
    permission ∈ registry.freeOf user package group ↔
      registry.Asks package permission ∧ group.contains permission = true ∧
        registry.flags permission package.name user = .none := by
  rw [freeOf, Sweep.requestedOf, List.mem_filter, List.mem_filter, flags_isEmpty_iff, asks_iff,
    and_assoc]

theorem preferredHandler?_eq_some_iff {intent : Intent} :
    registry.preferredHandler? intent user = some package ↔
      registry.IsDefaultHandler user intent package := by
  unfold preferredHandler? IsDefaultHandler
  rw [List.findSome?_eq_some_iff]
  constructor
  · intro preferred
    obtain ⟨before, name, after, listed, candidate, passed⟩ := preferred
    obtain ⟨installed, app⟩ := systemCandidate?_eq_some_iff.mp candidate
    refine ⟨before, name, after, listed, installed, app, ?_⟩
    intro earlier member other otherInstalled otherApp
    have found := systemCandidate?_eq_some_iff.mpr ⟨otherInstalled, otherApp⟩
    rw [passed earlier member] at found
    cases found
  · intro first
    obtain ⟨before, name, after, listed, installed, app, passed⟩ := first
    refine ⟨before, name, after, listed, systemCandidate?_eq_some_iff.mpr ⟨installed, app⟩, ?_⟩
    intro earlier member
    rw [Option.eq_none_iff_forall_ne_some]
    intro other found
    obtain ⟨otherInstalled, otherApp⟩ := systemCandidate?_eq_some_iff.mp found
    exact passed earlier member other otherInstalled otherApp

/-! ## Roles -/

/-- The roles of an installed system app are those that the registry tells of. -/
theorem hasRole_iff (named : registry.Named) :
    (∃ groups group, (package, groups) ∈ registry.runtimeRoles user ∧ group ∈ groups ∧
        group.contains permission = true) ↔
      registry.package? package.name = some package ∧ package.IsSystemApp ∧
        registry.HasRole user package permission := by
  constructor
  · intro given
    obtain ⟨groups, group, member, granted, covered⟩ := given
    obtain ⟨name, candidate⟩ := candidate_of_mem_runtimeRoles member
    obtain ⟨installed, app⟩ := systemCandidate?_eq_some_iff.mp candidate
    obtain rfl := named name package installed
    refine ⟨installed, app, ?_⟩
    rcases mem_runtimeRoles_iff.mp member with
      ⟨intent, assigned, preferred⟩ | ⟨provider, other, rfl, listed, found⟩
    · exact .handler assigned granted covered (preferredHandler?_eq_some_iff.mp preferred)
    · obtain rfl := named other package (systemCandidate?_eq_some_iff.mp found).1
      exact .provider listed granted covered
  · intro standing
    obtain ⟨installed, app, role⟩ := standing
    cases role with
    | handler assigned member covered first =>
        have preferred := preferredHandler?_eq_some_iff.mpr first
        exact ⟨_, _, mem_runtimeRoles_iff.mpr (.inl ⟨_, assigned, preferred⟩), member, covered⟩
    | provider listed member covered =>
        have candidate := systemCandidate?_eq_some_iff.mpr ⟨installed, app⟩
        exact ⟨_, _, mem_runtimeRoles_iff.mpr (.inr ⟨_, _, rfl, listed, candidate⟩), member, covered⟩

theorem hasInstallRole_iff (named : registry.Named) :
    (∃ group, (package, group) ∈ registry.installRoles user ∧
        group.contains permission = true) ↔
      registry.package? package.name = some package ∧ package.privileged = true ∧
        package.isSystemPart = false ∧
        ((package.name ∈ registry.handlers .installer user ∧
            PermissionGroup.installer.contains permission = true) ∨
          (package.name ∈ registry.handlers .verifier user ∧
            PermissionGroup.verifier.contains permission = true)) := by
  constructor
  · intro given
    obtain ⟨group, member, covered⟩ := given
    obtain ⟨intent, name, assigned, listed, candidate⟩ := mem_installRoles_iff.mp member
    obtain ⟨installed, privileged, outside⟩ := privilegedCandidate?_eq_some_iff.mp candidate
    obtain rfl := named name package installed
    refine ⟨installed, privileged, outside, ?_⟩
    simp only [Intent.privilegedGrants, List.mem_cons, Prod.mk.injEq, List.not_mem_nil,
      or_false] at assigned
    rcases assigned with ⟨rfl, rfl⟩ | ⟨rfl, rfl⟩
    · exact .inl ⟨listed, covered⟩
    · exact .inr ⟨listed, covered⟩
  · intro standing
    obtain ⟨installed, privileged, outside, role⟩ := standing
    have candidate := privilegedCandidate?_eq_some_iff.mpr ⟨installed, privileged, outside⟩
    rcases role with ⟨listed, covered⟩ | ⟨listed, covered⟩
    · exact ⟨_, mem_installRoles_iff.mpr ⟨.installer, _, by decide, listed, candidate⟩, covered⟩
    · exact ⟨_, mem_installRoles_iff.mpr ⟨.verifier, _, by decide, listed, candidate⟩, covered⟩

/-- No group that a role gives at run time shares a permission with the installers' and
verifiers' groups. -/
private theorem not_privileged_of_hasRole (role : registry.HasRole user package permission) :
    PermissionGroup.installer.contains permission = false ∧
      PermissionGroup.verifier.contains permission = false := by
  have apart : ∀ group : PermissionGroup, group ≠ .installer → group ≠ .verifier →
      ∀ permission ∈ group.permissions, PermissionGroup.installer.contains permission = false ∧
        PermissionGroup.verifier.contains permission = false := by
    intro group
    cases group <;> decide
  have byHandler : ∀ assigned ∈ Intent.defaultGrants, ∀ group ∈ assigned.2,
      group ≠ .installer ∧ group ≠ .verifier := by decide
  have byProvider : ∀ provider : Provider, ∀ group ∈ provider.groups,
      group ≠ .installer ∧ group ≠ .verifier := by
    intro provider
    cases provider <;> decide
  cases role with
  | handler assigned member covered _ =>
      obtain ⟨noInstaller, noVerifier⟩ := byHandler _ assigned _ member
      exact apart _ noInstaller noVerifier permission (List.contains_iff_mem.mp covered)
  | provider _ member covered =>
      obtain ⟨noInstaller, noVerifier⟩ := byProvider _ _ member
      exact apart _ noInstaller noVerifier permission (List.contains_iff_mem.mp covered)

/-! ## Grants -/

private theorem of_mem_runtimeGrants {role : Package × List PermissionGroup} {act : RegistryAct}
    (granted : act ∈ registry.runtimeGrants user role) :
    ∃ permission, act = .grantRuntime role.1.name permission user ∧
      role.1.hasRuntimePermissions = true ∧
      ∃ group ∈ role.2, permission ∈ registry.freeOf user role.1 group := by
  unfold runtimeGrants at granted
  split at granted
  · next modern =>
      obtain ⟨group, member, asked⟩ := List.mem_flatMap.mp granted
      obtain ⟨permission, free, rfl⟩ := List.mem_map.mp asked
      exact ⟨permission, rfl, modern, group, member, free⟩
  · cases granted

private theorem grantRuntime_mem_roleGrants_iff {recipient : UserId} :
    .grantRuntime name permission recipient ∈ registry.roleGrants user ↔
      recipient = user ∧ ∃ package groups group, package.name = name ∧
        (package, groups) ∈ registry.runtimeRoles user ∧
        package.hasRuntimePermissions = true ∧ group ∈ groups ∧
        permission ∈ registry.freeOf user package group := by
  rw [roleGrants, List.mem_append, List.mem_flatMap, List.mem_flatMap]
  constructor
  · rintro (⟨role, _, granted⟩ | ⟨⟨package, groups⟩, role, granted⟩)
    · obtain ⟨_, _, same⟩ := List.mem_map.mp granted
      cases same
    · obtain ⟨_, same, modern, group, member, free⟩ := of_mem_runtimeGrants granted
      cases same
      exact ⟨rfl, package, groups, group, rfl, role, modern, member, free⟩
  · intro granted
    obtain ⟨sameUser, package, groups, group, sameName, role, modern, member, free⟩ := granted
    refine .inr ⟨(package, groups), role, ?_⟩
    rw [runtimeGrants, if_pos modern, sameUser, ← sameName]
    exact List.mem_flatMap.mpr ⟨group, member, List.mem_map.mpr ⟨permission, free, rfl⟩⟩

private theorem grantInstall_mem_roleGrants_iff :
    .grantInstall name permission ∈ registry.roleGrants user ↔
      ∃ package group, package.name = name ∧ (package, group) ∈ registry.installRoles user ∧
        permission ∈ registry.freeOf user package group := by
  rw [roleGrants, List.mem_append, List.mem_flatMap, List.mem_flatMap]
  constructor
  · rintro (⟨⟨package, group⟩, role, granted⟩ | ⟨role, _, granted⟩)
    · obtain ⟨_, free, same⟩ := List.mem_map.mp granted
      cases same
      exact ⟨package, group, rfl, role, free⟩
    · obtain ⟨_, same, _⟩ := of_mem_runtimeGrants granted
      cases same
  · intro granted
    obtain ⟨package, group, sameName, role, free⟩ := granted
    refine .inl ⟨(package, group), role, ?_⟩
    rw [← sameName]
    exact List.mem_map.mpr ⟨permission, free, rfl⟩

private theorem updateFlags_not_mem_roleGrants {selected given : PermissionFlags}
    {recipient : UserId} :
    .updateFlags name permission selected given recipient ∉ registry.roleGrants user := by
  rw [roleGrants, List.mem_append, List.mem_flatMap, List.mem_flatMap]
  rintro (⟨role, _, granted⟩ | ⟨role, _, granted⟩)
  · obtain ⟨_, _, same⟩ := List.mem_map.mp granted
    cases same
  · obtain ⟨_, same, _⟩ := of_mem_runtimeGrants granted
    cases same

theorem grantRuntime_mem_iff_due (named : registry.Named) {recipient : UserId} :
    .grantRuntime name permission recipient ∈ registry.roleGrants user ↔
      recipient = user ∧
        ∃ package, package.name = name ∧ registry.RuntimeDue user package permission := by
  rw [grantRuntime_mem_roleGrants_iff]
  refine and_congr_right fun _ => exists_congr fun package => ?_
  constructor
  · intro granted
    obtain ⟨groups, group, sameName, role, modern, member, free⟩ := granted
    obtain ⟨asks, covered, unset⟩ := mem_freeOf_iff.mp free
    obtain ⟨installed, app, hasRole⟩ :=
      (hasRole_iff named).mp ⟨groups, group, role, member, covered⟩
    exact ⟨sameName, installed, app, of_decide_eq_true modern, asks, unset, hasRole⟩
  · intro entitled
    obtain ⟨sameName, due⟩ := entitled
    obtain ⟨groups, group, role, member, covered⟩ :=
      (hasRole_iff named).mpr ⟨due.installed, due.app, due.role⟩
    exact ⟨groups, group, sameName, role, decide_eq_true due.modern, member,
      mem_freeOf_iff.mpr ⟨due.asks, covered, due.free⟩⟩

theorem grantInstall_mem_iff_due (named : registry.Named) :
    .grantInstall name permission ∈ registry.roleGrants user ↔
      ∃ package, package.name = name ∧ registry.InstallDue user package permission := by
  rw [grantInstall_mem_roleGrants_iff]
  refine exists_congr fun package => ?_
  constructor
  · intro granted
    obtain ⟨group, sameName, role, free⟩ := granted
    obtain ⟨asks, covered, unset⟩ := mem_freeOf_iff.mp free
    obtain ⟨installed, privileged, outside, hasRole⟩ :=
      (hasInstallRole_iff named).mp ⟨group, role, covered⟩
    exact ⟨sameName, installed, privileged, outside, asks, unset, hasRole⟩
  · intro entitled
    obtain ⟨sameName, due⟩ := entitled
    obtain ⟨group, role, covered⟩ := (hasInstallRole_iff named).mpr
      ⟨due.installed, due.privileged, due.outside, due.role⟩
    exact ⟨group, sameName, role, mem_freeOf_iff.mpr ⟨due.asks, covered, due.free⟩⟩

theorem roleGrants_byRole (named : registry.Named) (user : UserId) :
    registry.GrantsByRole user (registry.roleGrants user) where
  runtime _ _ _ := grantRuntime_mem_iff_due named
  install _ _ := grantInstall_mem_iff_due named
  flagsKept _ _ _ _ _ := updateFlags_not_mem_roleGrants
  nothingPrivileged name permission recipient granted := by
    obtain ⟨_, package, _, due⟩ := (grantRuntime_mem_iff_due named).mp granted
    exact not_privileged_of_hasRole due.role

end Registry

namespace Sweep

/-- Handlers and providers get exactly what their roles are due, and the sweep counts it. -/
theorem grantToHandlers_byRole (sweep : Sweep) (named : sweep.registry.Named) :
    ∃ grants, sweep.registry.GrantsByRole sweep.user grants ∧
      sweep.grantToHandlers.acts = sweep.acts ++ grants ∧
      sweep.grantToHandlers.registry = sweep.registry ∧
      sweep.grantToHandlers.summary =
        { systemFixed := sweep.summary.systemFixed
          install := sweep.summary.install + grants.countP RegistryAct.isInstallGrant
          runtime := sweep.summary.runtime + grants.countP RegistryAct.isRuntimeGrant } := by
  refine ⟨_, Registry.roleGrants_byRole named sweep.user, ?_⟩
  rw [grantToHandlers_eq]
  exact ⟨rfl, rfl, rfl⟩

section Sample

open Simulation

/-- Neither somebody else's dialer nor a part of the system is the default handler; the
updated dialer gets what its factory version asked for, apart from what the user decided. -/
theorem grantToHandlers_byRole_of_samplePackages :
    samplePackages.registry.Named ∧
    (∃ grants, samplePackages.registry.GrantsByRole 0 grants ∧
      (start samplePackages.registry 0).grantToHandlers.acts = [] ++ grants ∧
      (start samplePackages.registry 0).grantToHandlers.registry = samplePackages.registry ∧
      (start samplePackages.registry 0).grantToHandlers.summary =
        ⟨0, 0 + grants.countP RegistryAct.isInstallGrant,
          0 + grants.countP RegistryAct.isRuntimeGrant⟩) ∧
    (start samplePackages.registry 0).grantToHandlers.acts =
      [.grantInstall packageInstaller.name killUid, .grantRuntime dialer.name callPhone 0,
        .grantRuntime dialer.name callPhone 0] :=
  have named := samplePackages.registry_named
  ⟨named, grantToHandlers_byRole (start samplePackages.registry 0) named, by decide⟩

end Sample

end Sweep

end AudioHost
