/-!
# Permission flags

What is entered about a permission of a package for a user.
-/

set_option autoImplicit false

namespace AudioHost

/-- A set of permission flags, one bit each. -/
structure PermissionFlags where
  bits : UInt32
  deriving DecidableEq

namespace PermissionFlags

/-- Nothing is entered: the permission is still free to be granted. -/
def none : PermissionFlags := ⟨0⟩

/-- The user chose. -/
def userSet : PermissionFlags := ⟨1⟩

/-- The user chose once and for all. -/
def userFixed : PermissionFlags := ⟨2⟩

/-- A device policy decides. -/
def policyFixed : PermissionFlags := ⟨4⟩

/-- The permission is revoked on upgrade. -/
def revokeOnUpgrade : PermissionFlags := ⟨8⟩

/-- The permission was given to a system component and stays. -/
def systemFixed : PermissionFlags := ⟨16⟩

/-- Every flag that a grant may touch. -/
def touchable : PermissionFlags := ⟨0xFF⟩

/-- Whether every flag of `other` is set. -/
def contains (flags other : PermissionFlags) : Bool :=
  flags.bits &&& other.bits == other.bits

/-- Whether no flag is set. -/
def isEmpty (flags : PermissionFlags) : Bool := flags.bits == 0

/-- The flags with those that `selected` names replaced by those of `given`. -/
def updated (flags selected given : PermissionFlags) : PermissionFlags :=
  ⟨flags.bits &&& ~~~selected.bits ||| given.bits &&& selected.bits⟩

end PermissionFlags

end AudioHost
