import AudioHost.Proofs.Sweeps
import AudioHost.Simulation.Sample

/-!
# Sweeps in turn

A sweep leaves nothing to be fixed, and its two halves do not see each other: the second
half does the same before the first half, behind it and in every later sweep.
-/

set_option autoImplicit false

namespace AudioHost

theorem Registry.Named.fixing {registry : Registry} (named : registry.Named) (user : UserId)
    (pairs : List (String × String)) : (registry.fixing user pairs).Named := by
  rw [fixing_eq]
  exact named

namespace Sweep

/-- How a sweep relates to the one that follows it. The first one consists of `fixes` and
`grants`, in this order. -/
structure Repeats (registry : Registry) (user : UserId) (fixes grants : List RegistryAct)
    (first second : Sweep) : Prop where
  fixed : (start registry user).fixSystemParts.acts = fixes
  whole : first.acts = fixes ++ grants
  fixedAgain : (start first.registry user).fixSystemParts.acts = []
  grantedAgain : second.acts = grants
  flagsKept : second.registry = first.registry
  summary : second.summary = { first.summary with systemFixed := 0 }

/-- How a sweep relates to the one that goes through the roles before it goes through the
parts of the system. -/
structure Commutes (registry : Registry) (user : UserId) (fixes grants : List RegistryAct)
    (usual swapped : Sweep) : Prop where
  granted : (start registry user).grantToHandlers.acts = grants
  whole : swapped.acts = grants ++ fixes
  sameFlags : swapped.registry = usual.registry
  sameSummary : swapped.summary = usual.summary

variable {registry : Registry}

private theorem registry_grantDefaults (named : registry.Named) (user : UserId) :
    (grantDefaults registry user).registry = registry.fixing user (registry.unfixed user) := by
  rw [grantDefaults_eq named]
  rfl

/-- A later sweep finds nothing to fix and grants the same to the same roles. -/
theorem grantDefaults_again (named : registry.Named) (user : UserId) :
    grantDefaults (grantDefaults registry user).registry user =
      (start (registry.fixing user (registry.unfixed user)) user).granting
        (registry.roleGrants user) := by
  rw [registry_grantDefaults named, grantDefaults_eq (named.fixing user _),
    Registry.unfixed_fixing, fixing_nil, Registry.roleGrants_fixing named]

private theorem fixSystemParts_of_unfixed_eq_nil {user : UserId}
    (settled : registry.unfixed user = []) :
    (start registry user).fixSystemParts = start registry user := by
  rw [fixSystemParts_eq]
  show (start registry user).fixing (registry.unfixed user) = start registry user
  rw [settled, fixing_nil]

theorem grantDefaults_swapped (named : registry.Named) (user : UserId) :
    (start registry user).grantToHandlers.fixSystemParts =
      { grantDefaults registry user with
        acts := registry.roleGrants user ++ (registry.unfixed user).flatMap (fixActs user) } := by
  rw [grantToHandlers_eq, fixSystemParts_eq, grantDefaults_eq named]
  rfl

/-- What a sweep fixes and what it grants depends neither on the order of its halves nor,
for the grants, on the sweeps before it. -/
theorem grantDefaults_stable (named : registry.Named) (user : UserId) :
    ∃ fixes grants,
      Repeats registry user fixes grants (grantDefaults registry user)
        (grantDefaults (grantDefaults registry user).registry user) ∧
      Commutes registry user fixes grants (grantDefaults registry user)
        (start registry user).grantToHandlers.fixSystemParts := by
  refine ⟨(registry.unfixed user).flatMap (fixActs user), registry.roleGrants user, ?_, ?_⟩
  · constructor
    case fixed =>
      rw [fixSystemParts_eq]
      rfl
    case whole =>
      rw [grantDefaults_eq named]
      rfl
    case fixedAgain =>
      rw [fixSystemParts_of_unfixed_eq_nil]
      · rfl
      · rw [registry_grantDefaults named, Registry.unfixed_fixing]
    case grantedAgain =>
      rw [grantDefaults_again named]
      rfl
    case flagsKept =>
      rw [grantDefaults_again named, registry_grantDefaults named]
      rfl
    case summary =>
      rw [grantDefaults_again named, grantDefaults_eq named]
      rfl
  · constructor
    case granted =>
      rw [grantToHandlers_eq]
      rfl
    case whole => rw [grantDefaults_swapped named]
    case sameFlags => rw [grantDefaults_swapped named]
    case sameSummary => rw [grantDefaults_swapped named]

section Sample

open Simulation

/-- The platform asks for recording twice and gets it fixed once. -/
theorem grantDefaults_stable_of_samplePackages :
    samplePackages.registry.Named ∧
    (∃ fixes grants,
      Repeats samplePackages.registry 0 fixes grants (grantDefaults samplePackages.registry 0)
        (grantDefaults (grantDefaults samplePackages.registry 0).registry 0) ∧
      Commutes samplePackages.registry 0 fixes grants (grantDefaults samplePackages.registry 0)
        (start samplePackages.registry 0).grantToHandlers.fixSystemParts) ∧
    (grantDefaults samplePackages.registry 0).acts =
      [.grantRuntime platform.name recordAudio 0,
        .updateFlags platform.name recordAudio .touchable .systemFixed 0,
        .grantInstall packageInstaller.name killUid, .grantRuntime dialer.name callPhone 0,
        .grantRuntime dialer.name callPhone 0] :=
  have named := samplePackages.registry_named
  ⟨named, grantDefaults_stable named 0, by decide⟩

end Sample

end Sweep

end AudioHost
