import AudioHost.Permission.Registry

/-!
# The grant sweep

A new user gets a device that works: the parts of the system get and keep every
permission that they ask for, privileged installers and verifiers get theirs at
installation, and default handlers and providers get the groups of their roles.
Whatever already carries a flag was decided by someone else and is left alone.
-/

set_option autoImplicit false

namespace AudioHost

/-- One act upon the registry. -/
inductive RegistryAct where
  | grantRuntime (package permission : String) (user : UserId)
  | grantInstall (package permission : String)
  | updateFlags (package permission : String) (selected given : PermissionFlags)
      (user : UserId)
  deriving DecidableEq

/-- The number of grants of each sort. -/
structure GrantTally where
  /-- Run-time permissions given to parts of the system for good. -/
  systemFixed : Nat
  /-- Permissions given to installers and verifiers. -/
  install : Nat
  /-- Run-time permissions given to handlers and providers. -/
  runtime : Nat
  deriving DecidableEq

/-- A sweep in progress for one user. -/
structure Sweep where
  registry : Registry
  user : UserId
  summary : GrantTally
  /-- What was done so far, in order. -/
  acts : List RegistryAct

namespace Sweep

/-- A sweep that has done nothing yet. -/
def start (registry : Registry) (user : UserId) : Sweep := ⟨registry, user, ⟨0, 0, 0⟩, []⟩

/-! ## Parts of the system -/

/-- Grants a permission to a part of the system and fixes it. -/
def fix (sweep : Sweep) (package permission : String) : Sweep :=
  { sweep with
    registry :=
      sweep.registry.updateFlags permission package sweep.user .touchable .systemFixed
    summary := { sweep.summary with systemFixed := sweep.summary.systemFixed + 1 }
    acts :=
      sweep.acts ++
        [.grantRuntime package permission sweep.user,
          .updateFlags package permission .touchable .systemFixed sweep.user] }

/-- Fixes a permission that is granted at run time, unless it is fixed already. -/
def fixRequested (package : String) (sweep : Sweep) (permission : String) : Sweep :=
  if sweep.registry.isRuntime permission &&
      !(sweep.registry.flags permission package sweep.user).contains .systemFixed then
    sweep.fix package permission
  else sweep

/-- Fixes what a part of the system asks for. Other names are passed over. -/
def fixPart (sweep : Sweep) (name : String) : Sweep :=
  match sweep.registry.package? name with
  | none => sweep
  | some package =>
      if package.isSystemPart && package.hasRuntimePermissions then
        package.requested.foldl (fixRequested package.name) sweep
      else sweep

/-- Goes through every installed package. -/
def fixSystemParts (sweep : Sweep) : Sweep :=
  sweep.registry.packageNames.foldl fixPart sweep

/-! ## Handlers and providers -/

/-- Whether a permission of a package is still free to be granted. -/
def isUnset (sweep : Sweep) (package permission : String) : Bool :=
  (sweep.registry.flags permission package sweep.user).isEmpty

/-- Grants a permission at run time, unless some flag is set on it. -/
def grantIfUnset (package : String) (sweep : Sweep) (permission : String) : Sweep :=
  if sweep.isUnset package permission then
    { sweep with
      summary := { sweep.summary with runtime := sweep.summary.runtime + 1 }
      acts := sweep.acts ++ [.grantRuntime package permission sweep.user] }
  else sweep

/-- Grants a permission at installation, unless some flag is set on it. -/
def installIfUnset (package : String) (sweep : Sweep) (permission : String) : Sweep :=
  if sweep.isUnset package permission then
    { sweep with
      summary := { sweep.summary with install := sweep.summary.install + 1 }
      acts := sweep.acts ++ [.grantInstall package permission] }
  else sweep

/-- What a package asks for out of a group. -/
def requestedOf (registry : Registry) (package : Package) (group : PermissionGroup) :
    List String :=
  (registry.judged package).requested.filter group.contains

/-- Grants what a package asks for out of some groups, group by group. A package
written for an old API level has nothing to be granted. -/
def grantGroups (package : Package) (groups : List PermissionGroup) (sweep : Sweep) : Sweep :=
  if package.hasRuntimePermissions then
    groups.foldl
      (fun sweep group =>
        (requestedOf sweep.registry package group).foldl (grantIfUnset package.name) sweep)
      sweep
  else sweep

/-- Grants the installation permissions of a group to a privileged handler. -/
def installGroup (group : PermissionGroup) (sweep : Sweep) (name : String) : Sweep :=
  match sweep.registry.privilegedCandidate? name with
  | none => sweep
  | some package =>
      (requestedOf sweep.registry package group).foldl (installIfUnset package.name) sweep

/-- Every privileged handler of an intent gets its group. -/
def grantToPrivileged (sweep : Sweep) (role : Intent × PermissionGroup) : Sweep :=
  (sweep.registry.handlers role.1 sweep.user).foldl (installGroup role.2) sweep

/-- The default handler of an intent gets its groups. -/
def grantToDefault (sweep : Sweep) (role : Intent × List PermissionGroup) : Sweep :=
  match sweep.registry.preferredHandler? role.1 sweep.user with
  | none => sweep
  | some package => sweep.grantGroups package role.2

/-- A provider that is a system package gets the groups of its service. -/
def grantToProvider (groups : List PermissionGroup) (sweep : Sweep) (name : String) : Sweep :=
  match sweep.registry.systemCandidate? name with
  | none => sweep
  | some package => sweep.grantGroups package groups

/-- Every package that provides a service gets the groups of that service. -/
def grantToProviders (sweep : Sweep) (provider : Provider) : Sweep :=
  (sweep.registry.providedBy provider sweep.user).foldl
    (grantToProvider provider.groups) sweep

/-- Goes through the roles: privileged handlers, default handlers, providers. -/
def grantToHandlers (sweep : Sweep) : Sweep :=
  let privileged := Intent.privilegedGrants.foldl grantToPrivileged sweep
  let defaults := Intent.defaultGrants.foldl grantToDefault privileged
  Provider.all.foldl grantToProviders defaults

/-- The whole sweep for a new user. -/
def grantDefaults (registry : Registry) (user : UserId) : Sweep :=
  (start registry user).fixSystemParts.grantToHandlers

end Sweep

end AudioHost
