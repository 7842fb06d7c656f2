import AudioHost.Permission.Flags
import AudioHost.Permission.Role

/-!
# The package registry

Who is installed, what each package asks for, who handles and provides what, and
which flags each permission carries.
-/

set_option autoImplicit false

namespace AudioHost

/-- The number of a user. -/
abbrev UserId := UInt32

/-- An installed package, or the factory version of one. -/
structure Package where
  name : String
  /-- The user id under which the package runs. -/
  uid : UInt32
  /-- The API level that the package is written for. -/
  targetSdk : UInt32
  /-- It came with the system image. -/
  system : Bool
  /-- It is installed in a privileged place. -/
  privileged : Bool
  /-- The system keeps it running. -/
  persistent : Bool
  /-- It came with the system image and was updated since. -/
  updatedSystem : Bool
  /-- The permissions that it asks for. -/
  requested : List String
  deriving DecidableEq

namespace Package

/-- User ids of one user; the rest within it identifies the application. -/
def uidsPerUser : UInt32 := 100000

/-- Application ids below this one belong to the system. -/
def firstApplicationId : UInt32 := 10000

/-- The last API level whose packages get all permissions at installation. -/
def lastInstallTimeSdk : UInt32 := 22

/-- The user id without its user. -/
def applicationId (package : Package) : UInt32 := package.uid % uidsPerUser

/-- A part of the system: by its application id, or because the system keeps it
running in a privileged place. -/
def isSystemPart (package : Package) : Bool :=
  decide (package.applicationId < firstApplicationId) ||
    (package.privileged && package.persistent)

/-- The package knows permissions that are granted at run time. -/
def hasRuntimePermissions (package : Package) : Bool :=
  decide (lastInstallTimeSdk < package.targetSdk)

end Package

/-- The answers of the package registry. -/
structure Registry where
  /-- The names of the installed packages. -/
  packageNames : List String
  /-- The installed package of a name. -/
  package? : String → Option Package
  /-- The factory version of an updated system package. -/
  factoryVersion? : String → Option Package
  /-- Whether a permission is granted at run time. -/
  isRuntime : String → Bool
  /-- The packages that handle an intent for a user, the preferred one first. -/
  handlers : Intent → UserId → List String
  /-- The packages that provide a service for a user. -/
  providedBy : Provider → UserId → List String
  /-- The flags of a permission of a package for a user. -/
  flags : (permission package : String) → UserId → PermissionFlags

namespace Registry

/-- A look-up answers with a package of the name that was looked up. -/
def Named (registry : Registry) : Prop :=
  ∀ name package, registry.package? name = some package → package.name = name

/-- The registry after an update of the flags of one permission of one package for
one user. -/
def updateFlags (registry : Registry) (permission package : String) (user : UserId)
    (selected given : PermissionFlags) : Registry :=
  { registry with
    flags := fun otherPermission otherPackage otherUser =>
      if otherPermission = permission ∧ otherPackage = package ∧ otherUser = user then
        (registry.flags permission package user).updated selected given
      else registry.flags otherPermission otherPackage otherUser }

/-- The package that counts for what an installed package asks for: an updated
system package is judged by its factory version. -/
def judged (registry : Registry) (package : Package) : Package :=
  if package.updatedSystem then (registry.factoryVersion? package.name).getD package
  else package

/-- A package that came with the system without being part of it. -/
def systemCandidate? (registry : Registry) (name : String) : Option Package :=
  (registry.package? name).filter fun package =>
    package.system && !package.isSystemPart

/-- A privileged package that is not part of the system. -/
def privilegedCandidate? (registry : Registry) (name : String) : Option Package :=
  (registry.package? name).filter fun package =>
    package.privileged && !package.isSystemPart

/-- The default handler of an intent: the preferred one among the system packages. -/
def preferredHandler? (registry : Registry) (intent : Intent) (user : UserId) :
    Option Package :=
  (registry.handlers intent user).findSome? registry.systemCandidate?

end Registry

end AudioHost
