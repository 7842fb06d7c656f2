import AudioHost.Permission.Sweep

/-!
# A simulated package registry

A registry that is written down: lists of packages, of handlers and providers, and
of the flags that were ever set.
-/

set_option autoImplicit false

namespace AudioHost.Simulation

/-- Which flags an entry is about. -/
structure FlagKey where
  user : UserId
  package : String
  permission : String
  deriving DecidableEq

namespace FlagKey

/-- By user, then by package, then by permission. -/
def precedes (left right : FlagKey) : Bool :=
  ((compareOn FlagKey.user left right).then
    ((compareOn FlagKey.package left right).then
      (compareOn FlagKey.permission left right))).isLE

end FlagKey

/-- The contents of a registry. -/
structure PackageTable where
  installed : List Package
  names : List String
  factory : List Package
  /-- The permissions that are granted at run time. -/
  runtime : List String
  handlers : List (Intent × List String)
  provided : List (Provider × List String)
  /-- Every flag entry that was ever set, one per key. -/
  flags : List (FlagKey × PermissionFlags)
  deriving DecidableEq

namespace PackageTable

/-- The first package of a name. -/
def find? (packages : List Package) (name : String) : Option Package :=
  packages.find? fun package => package.name == name

/-- The permissions that are granted at run time unless others are named: those of
the groups that are not tied to the system itself. -/
def usualRuntime : List String :=
  [PermissionGroup.phone, .contacts, .location, .calendar, .sms, .microphone, .camera,
    .sensors, .storage].flatMap PermissionGroup.permissions

/-- The flags under a key. -/
def flagsAt (table : PackageTable) (key : FlagKey) : PermissionFlags :=
  (table.flags.lookup key).getD .none

/-- Sets the flags under a key. -/
def setFlags (table : PackageTable) (key : FlagKey) (flags : PermissionFlags) : PackageTable :=
  { table with flags := (key, flags) :: table.flags.filter fun entry => entry.1 != key }

/-- The answers of the registry. -/
def registry (table : PackageTable) : Registry where
  packageNames := table.names
  package? := find? table.installed
  factoryVersion? := find? table.factory
  isRuntime permission := table.runtime.contains permission
  handlers intent _ := (table.handlers.lookup intent).getD []
  providedBy provider _ := (table.provided.lookup provider).getD []
  flags permission package user := table.flagsAt ⟨user, package, permission⟩

theorem registry_named (table : PackageTable) : table.registry.Named := by
  intro name package found
  have sameName := List.find?_some found
  exact beq_iff_eq.mp sameName

/-- The contents after an act: grants change no flags. -/
def absorb (table : PackageTable) (act : RegistryAct) : PackageTable :=
  match act with
  | .updateFlags package permission selected given user =>
      table.setFlags ⟨user, package, permission⟩
        ((table.flagsAt ⟨user, package, permission⟩).updated selected given)
  | .grantRuntime .. | .grantInstall .. => table

/-- The contents after everything that a sweep did. -/
def afterSweep (table : PackageTable) (sweep : Sweep) : PackageTable :=
  sweep.acts.foldl absorb table

/-- Every flag entry, in the order of the keys. -/
def listFlags (table : PackageTable) : List (FlagKey × PermissionFlags) :=
  table.flags.mergeSort fun left right => left.1.precedes right.1

end PackageTable

end AudioHost.Simulation
