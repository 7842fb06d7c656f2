import AudioHost.Proofs.Sweeps
import AudioHost.Simulation.Sample

/-!
# Trusted packages

Only packages that came with the system, hold a privileged place or are parts of the system
have a say in a sweep. Two registries that differ in other packages, wherever these are
listed and whatever is entered about them, are swept alike.
-/

set_option autoImplicit false

namespace AudioHost

namespace Registry

/-- The installed package of a name came with the system, is privileged or is a part of the
system. -/
def trusts (registry : Registry) (name : String) : Bool :=
  match registry.package? name with
  | none => false
  | some package => package.system || package.privileged || package.isSystemPart

/-- Two registries trust the same packages, say the same about them and about permissions,
and list the same ones in the same order. About anything else they may differ. -/
structure AgreeOnTrusted (left right : Registry) (user : UserId) : Prop where
  trusts : ∀ name, left.trusts name = right.trusts name
  package? : ∀ name, left.trusts name = true → left.package? name = right.package? name
  factoryVersion? : ∀ name, left.trusts name = true →
    left.factoryVersion? name = right.factoryVersion? name
  flags : ∀ name permission, left.trusts name = true →
    left.flags permission name user = right.flags permission name user
  isRuntime : ∀ permission, left.isRuntime permission = right.isRuntime permission
  packageNames :
    left.packageNames.filter left.trusts = right.packageNames.filter right.trusts
  handlers : ∀ intent,
    (left.handlers intent user).filter left.trusts =
      (right.handlers intent user).filter right.trusts
  providedBy : ∀ provider,
    (left.providedBy provider user).filter left.trusts =
      (right.providedBy provider user).filter right.trusts

variable {registry left right : Registry} {user : UserId} {name : String} {package : Package}

/-! ## Untrusted names lead nowhere -/

private theorem trusts_of_installed (installed : registry.package? name = some package)
    (standing : package.system = true ∨ package.privileged = true ∨ package.isSystemPart = true) :
    registry.trusts name = true := by
  simp only [trusts, installed, Bool.or_eq_true]
  exact or_assoc.mpr standing

private theorem filter_package?_of_untrusted {keeps : Package → Bool}
    (standing : ∀ package, keeps package = true →
      package.system = true ∨ package.privileged = true ∨ package.isSystemPart = true)
    (untrusted : registry.trusts name = false) : (registry.package? name).filter keeps = none := by
  rw [Option.eq_none_iff_forall_ne_some]
  intro package kept
  obtain ⟨installed, keep⟩ := Option.filter_eq_some_iff.mp kept
  rw [trusts_of_installed installed (standing package keep)] at untrusted
  cases untrusted

private theorem privilegedCandidate?_of_untrusted (untrusted : registry.trusts name = false) :
    registry.privilegedCandidate? name = none :=
  filter_package?_of_untrusted (by simp +contextual) untrusted

private theorem systemCandidate?_of_untrusted (untrusted : registry.trusts name = false) :
    registry.systemCandidate? name = none :=
  filter_package?_of_untrusted (by simp +contextual) untrusted

private theorem fixableOf_of_untrusted (untrusted : registry.trusts name = false) :
    registry.fixableOf name = [] := by
  rw [List.eq_nil_iff_forall_not_mem]
  intro pair member
  obtain ⟨package, installed, part, _⟩ := mem_fixableOf_iff.mp member
  rw [trusts_of_installed installed (.inr (.inr part))] at untrusted
  cases untrusted

/-- A selection that skips untrusted names skips nothing else when they are left out. -/
private theorem filterMap_filter_trusts {Item : Type} {select? : String → Option Item}
    (skips : ∀ name, registry.trusts name = false → select? name = none) (names : List String) :
    (names.filter registry.trusts).filterMap select? = names.filterMap select? := by
  rw [List.filterMap_filter]
  refine List.filterMap_congr fun name _ => ?_
  cases trusted : registry.trusts name with
  | true => rfl
  | false => exact (skips name trusted).symm

private theorem flatMap_filter_trusts (names : List String) :
    (names.filter registry.trusts).flatMap registry.fixableOf =
      names.flatMap registry.fixableOf := by
  induction names with
  | nil => rfl
  | cons name rest ih =>
      cases trusted : registry.trusts name with
      | true => rw [List.filter_cons_of_pos trusted, List.flatMap_cons, List.flatMap_cons, ih]
      | false =>
          rw [List.filter_cons_of_neg (by simp [trusted]), List.flatMap_cons,
            fixableOf_of_untrusted trusted, ih, List.nil_append]

/-! ## Agreement -/

namespace AgreeOnTrusted

variable (agree : left.AgreeOnTrusted right user)
include agree

theorem privilegedCandidate?_eq : left.privilegedCandidate? = right.privilegedCandidate? := by
  funext name
  cases trusted : left.trusts name with
  | true => rw [privilegedCandidate?, agree.package? name trusted, privilegedCandidate?]
  | false =>
      rw [privilegedCandidate?_of_untrusted trusted,
        privilegedCandidate?_of_untrusted ((agree.trusts name).symm.trans trusted)]

theorem systemCandidate?_eq : left.systemCandidate? = right.systemCandidate? := by
  funext name
  cases trusted : left.trusts name with
  | true => rw [systemCandidate?, agree.package? name trusted, systemCandidate?]
  | false =>
      rw [systemCandidate?_of_untrusted trusted,
        systemCandidate?_of_untrusted ((agree.trusts name).symm.trans trusted)]

private theorem fixableOf_eq : left.fixableOf = right.fixableOf := by
  funext name
  cases trusted : left.trusts name with
  | true =>
      have sameRuntime : left.isRuntime = right.isRuntime := funext agree.isRuntime
      rw [fixableOf, agree.package? name trusted, sameRuntime, fixableOf]
  | false =>
      rw [fixableOf_of_untrusted trusted,
        fixableOf_of_untrusted ((agree.trusts name).symm.trans trusted)]

/-- Lists that agree on trusted names are the same to a selection that skips the others. -/
private theorem filterMap_eq {Item : Type} {select? : String → Option Item}
    {names others : List String} (skips : ∀ name, right.trusts name = false → select? name = none)
    (same : names.filter left.trusts = others.filter right.trusts) :
    names.filterMap select? = others.filterMap select? := by
  have skipsLeft : ∀ name, left.trusts name = false → select? name = none := fun name untrusted =>
    skips name ((agree.trusts name).symm.trans untrusted)
  rw [← filterMap_filter_trusts skipsLeft names, same, filterMap_filter_trusts skips]

private theorem installRoles_eq : left.installRoles user = right.installRoles user := by
  refine List.flatMap_congr fun assigned _ => ?_
  unfold privilegedRoles
  rw [agree.privilegedCandidate?_eq]
  apply agree.filterMap_eq _ (agree.handlers assigned.1)
  intro name untrusted
  rw [privilegedCandidate?_of_untrusted untrusted]
  rfl

theorem preferredHandler?_eq (intent : Intent) :
    left.preferredHandler? intent user = right.preferredHandler? intent user := by
  unfold preferredHandler?
  rw [agree.systemCandidate?_eq, ← List.head?_filterMap, ← List.head?_filterMap]
  congr 1
  exact agree.filterMap_eq (fun _ => systemCandidate?_of_untrusted) (agree.handlers intent)

private theorem runtimeRoles_eq : left.runtimeRoles user = right.runtimeRoles user := by
  unfold runtimeRoles
  congr 1
  · refine List.filterMap_congr fun assigned _ => ?_
    rw [defaultRole?, agree.preferredHandler?_eq, defaultRole?]
  · refine List.flatMap_congr fun provider _ => ?_
    unfold providerRoles
    rw [agree.systemCandidate?_eq]
    apply agree.filterMap_eq _ (agree.providedBy provider)
    intro name untrusted
    rw [systemCandidate?_of_untrusted untrusted]
    rfl

private theorem fixable_eq : left.fixable = right.fixable := by
  unfold fixable
  rw [← flatMap_filter_trusts left.packageNames, agree.packageNames, agree.fixableOf_eq,
    flatMap_filter_trusts]

private theorem freeOf_eq (trusted : left.trusts package.name = true) (group : PermissionGroup) :
    left.freeOf user package group = right.freeOf user package group := by
  have sameJudged : left.judged package = right.judged package := by
    rw [judged, agree.factoryVersion? _ trusted, judged]
  unfold freeOf Sweep.requestedOf
  rw [sameJudged]
  refine List.filter_congr fun permission _ => ?_
  rw [agree.flags _ _ trusted]

theorem roleGrants_eq (named : left.Named) : left.roleGrants user = right.roleGrants user := by
  apply roleGrants_congr agree.installRoles_eq agree.runtimeRoles_eq
  intro name package installed standing _
  obtain rfl := named name package installed
  have trusted := trusts_of_installed installed (standing.elim .inl (.inr ∘ .inl))
  exact funext fun group => agree.freeOf_eq trusted group

theorem unfixed_eq (named : left.Named) : left.unfixed user = right.unfixed user := by
  unfold unfixed
  rw [← agree.fixable_eq]
  congr 1
  refine List.filter_congr fun pair member => ?_
  obtain ⟨listed, _, found⟩ := List.mem_flatMap.mp member
  obtain ⟨package, installed, part, _, sameName, _⟩ := mem_fixableOf_iff.mp found
  obtain rfl := named listed package installed
  have trusted : left.trusts pair.1 = true :=
    sameName ▸ trusts_of_installed installed (.inr (.inr part))
  rw [isFixed, agree.flags _ _ trusted, isFixed]

end AgreeOnTrusted

end Registry

namespace Sweep

variable {left right : Registry} {user : UserId}

/-- Untrusted packages have no influence on what a sweep does and counts. -/
theorem grantDefaults_alike_of_agreeOnTrusted (leftNamed : left.Named) (rightNamed : right.Named)
    (agree : left.AgreeOnTrusted right user) :
    (grantDefaults left user).acts = (grantDefaults right user).acts ∧
      (grantDefaults left user).summary = (grantDefaults right user).summary := by
  rw [grantDefaults_eq leftNamed, grantDefaults_eq rightNamed, agree.unfixed_eq leftNamed,
    agree.roleGrants_eq leftNamed]
  exact ⟨rfl, rfl⟩

end Sweep

/-! ## A pushing stranger -/

namespace Registry

variable {registry : Registry} {user : UserId} {stranger : Package}

/-- The registry after a package was installed that puts itself first in every list. -/
def pushedBy (registry : Registry) (stranger : Package) : Registry :=
  { registry with
    packageNames := stranger.name :: registry.packageNames
    package? := fun name =>
      if name = stranger.name then some stranger else registry.package? name
    handlers := fun intent user => stranger.name :: registry.handlers intent user
    providedBy := fun provider user => stranger.name :: registry.providedBy provider user }

private theorem Named.pushedBy (named : registry.Named) (stranger : Package) :
    (registry.pushedBy stranger).Named := by
  intro name package installed
  simp only [Registry.pushedBy] at installed
  split at installed
  · next same =>
      cases installed
      exact same.symm
  · exact named name package installed

private theorem trusts_pushedBy (unknown : registry.trusts stranger.name = false)
    (plain : (stranger.system || stranger.privileged || stranger.isSystemPart) = false) :
    (registry.pushedBy stranger).trusts = registry.trusts := by
  funext name
  by_cases same : name = stranger.name
  · rw [same, unknown]
    simpa [trusts, pushedBy] using plain
  · simp [trusts, pushedBy, same]

private theorem agreeOnTrusted_pushedBy (unknown : registry.trusts stranger.name = false)
    (plain : (stranger.system || stranger.privileged || stranger.isSystemPart) = false) :
    registry.AgreeOnTrusted (registry.pushedBy stranger) user := by
  have sameTrusts := trusts_pushedBy unknown plain
  have passed : ∀ names : List String, names.filter registry.trusts =
      (stranger.name :: names).filter (registry.pushedBy stranger).trusts := by
    intro names
    rw [sameTrusts, List.filter_cons_of_neg (by simp [unknown])]
  constructor
  case trusts => exact fun name => (congrFun sameTrusts name).symm
  case package? =>
    intro name trusted
    have other : name ≠ stranger.name := by
      rintro rfl
      rw [unknown] at trusted
      cases trusted
    simp [pushedBy, other]
  case factoryVersion? => exact fun _ _ => rfl
  case flags => exact fun _ _ _ => rfl
  case isRuntime => exact fun _ => rfl
  case packageNames => exact passed registry.packageNames
  case handlers => exact fun intent => passed (registry.handlers intent user)
  case providedBy => exact fun provider => passed (registry.providedBy provider user)

end Registry

namespace Sweep

section Sample

open Simulation

/-- Somebody else's dialer, in a version that asks for more. -/
def pushingDialer : Package := { storeDialer with requested := [recordAudio, callPhone, killUid] }

theorem grantDefaults_alike_of_agreeOnTrusted_of_pushingDialer :
    samplePackages.registry.Named ∧
    (samplePackages.registry.pushedBy pushingDialer).Named ∧
    samplePackages.registry.AgreeOnTrusted (samplePackages.registry.pushedBy pushingDialer) 0 ∧
    (grantDefaults samplePackages.registry 0).acts =
      (grantDefaults (samplePackages.registry.pushedBy pushingDialer) 0).acts ∧
    (grantDefaults samplePackages.registry 0).summary =
      (grantDefaults (samplePackages.registry.pushedBy pushingDialer) 0).summary ∧
    (grantDefaults samplePackages.registry 0).summary = ⟨1, 1, 2⟩ := by
  have named := samplePackages.registry_named
  have pushedNamed := named.pushedBy pushingDialer
  have agree : samplePackages.registry.AgreeOnTrusted
      (samplePackages.registry.pushedBy pushingDialer) 0 :=
    Registry.agreeOnTrusted_pushedBy (by decide) (by decide)
  obtain ⟨sameActs, sameSummary⟩ :=
    grantDefaults_alike_of_agreeOnTrusted named pushedNamed agree
  exact ⟨named, pushedNamed, agree, sameActs, sameSummary, by decide⟩

end Sample

end Sweep

end AudioHost
