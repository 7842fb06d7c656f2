import AudioHost.Permission.Sweep
import Mathlib.Data.List.Basic

/-!
# Sweeps as lists

What each half of a sweep does is known before it starts. The first half fixes a list of
permissions of parts of the system, the second half makes a list of grants to packages in
their roles. Fixing touches no flag that the second half looks at, so a whole sweep does
what the one list says and then what the other one says.
-/

set_option autoImplicit false

namespace AudioHost

theorem PermissionFlags.contains_systemFixed_updated (flags : PermissionFlags) :
    (flags.updated .touchable .systemFixed).contains .systemFixed = true := by
  -- Bit by bit: what is given is set, whatever stays besides it.
  have kept : flags.bits &&& ~~~(0xFF : UInt32) &&& 16 = 0 := by
    rw [UInt32.and_assoc]
    exact UInt32.and_zero
  have given : ((flags.bits &&& ~~~(0xFF : UInt32)) ||| (16 &&& 0xFF)) &&& 16 = 16 := by
    rw [← UInt32.toBitVec_inj] at kept ⊢
    simp only [UInt32.toBitVec_and, UInt32.toBitVec_or] at kept ⊢
    rw [BitVec.and_or_distrib_right, kept]
    rfl
  exact beq_iff_eq.mpr given

theorem PermissionFlags.updated_updated (flags selected given : PermissionFlags) :
    (flags.updated selected given).updated selected given = flags.updated selected given := by
  apply congrArg PermissionFlags.mk
  apply UInt32.toBitVec_inj.mp
  simp only [updated, UInt32.toBitVec_or, UInt32.toBitVec_and, UInt32.toBitVec_not]
  ext place within
  simp only [BitVec.getElem_or, BitVec.getElem_and, BitVec.getElem_not]
  cases selected.bits.toBitVec[place] <;> simp

namespace RegistryAct

def isRuntimeGrant : RegistryAct → Bool
  | grantRuntime _ _ _ => true
  | grantInstall _ _ | updateFlags _ _ _ _ _ => false

def isInstallGrant : RegistryAct → Bool
  | grantInstall _ _ => true
  | grantRuntime _ _ _ | updateFlags _ _ _ _ _ => false

end RegistryAct

/-! ## Grants to roles -/

namespace Registry

/-- What a package asks for out of a group and is still free to be granted. -/
def freeOf (registry : Registry) (user : UserId) (package : Package)
    (group : PermissionGroup) : List String :=
  (Sweep.requestedOf registry package group).filter fun permission =>
    (registry.flags permission package.name user).isEmpty

def installGrants (registry : Registry) (user : UserId) (role : Package × PermissionGroup) :
    List RegistryAct :=
  (registry.freeOf user role.1 role.2).map (.grantInstall role.1.name)

def runtimeGrants (registry : Registry) (user : UserId)
    (role : Package × List PermissionGroup) : List RegistryAct :=
  if role.1.hasRuntimePermissions then
    role.2.flatMap fun group =>
      (registry.freeOf user role.1 group).map fun permission =>
        .grantRuntime role.1.name permission user
  else []

/-- The privileged handlers of an intent, each with the group of the intent. -/
def privilegedRoles (registry : Registry) (user : UserId)
    (assigned : Intent × PermissionGroup) : List (Package × PermissionGroup) :=
  (registry.handlers assigned.1 user).filterMap fun name =>
    (registry.privilegedCandidate? name).map fun package => (package, assigned.2)

def defaultRole? (registry : Registry) (user : UserId)
    (assigned : Intent × List PermissionGroup) : Option (Package × List PermissionGroup) :=
  (registry.preferredHandler? assigned.1 user).map fun package => (package, assigned.2)

def providerRoles (registry : Registry) (user : UserId) (provider : Provider) :
    List (Package × List PermissionGroup) :=
  (registry.providedBy provider user).filterMap fun name =>
    (registry.systemCandidate? name).map fun package => (package, provider.groups)

def installRoles (registry : Registry) (user : UserId) : List (Package × PermissionGroup) :=
  Intent.privilegedGrants.flatMap (registry.privilegedRoles user)

def runtimeRoles (registry : Registry) (user : UserId) :
    List (Package × List PermissionGroup) :=
  Intent.defaultGrants.filterMap (registry.defaultRole? user) ++
    Provider.all.flatMap (registry.providerRoles user)

def roleGrants (registry : Registry) (user : UserId) : List RegistryAct :=
  (registry.installRoles user).flatMap (registry.installGrants user) ++
    (registry.runtimeRoles user).flatMap (registry.runtimeGrants user)

end Registry

namespace Sweep

variable {Item Role : Type} {step : Sweep → Item → Sweep}

/-- The sweep after further grants to roles. They are counted and change no flags. -/
def granting (sweep : Sweep) (grants : List RegistryAct) : Sweep :=
  { sweep with
    summary :=
      { sweep.summary with
        install := sweep.summary.install + grants.countP RegistryAct.isInstallGrant
        runtime := sweep.summary.runtime + grants.countP RegistryAct.isRuntimeGrant }
    acts := sweep.acts ++ grants }

@[simp] theorem granting_nil (sweep : Sweep) : sweep.granting [] = sweep := by
  simp [granting]

@[simp] theorem granting_granting (sweep : Sweep) (first second : List RegistryAct) :
    (sweep.granting first).granting second = sweep.granting (first ++ second) := by
  simp [granting, Nat.add_assoc]

private theorem foldl_granting (grants : Registry → UserId → Item → List RegistryAct)
    (each : ∀ sweep item, step sweep item = sweep.granting (grants sweep.registry sweep.user item))
    (items : List Item) (sweep : Sweep) :
    items.foldl step sweep =
      sweep.granting (items.flatMap (grants sweep.registry sweep.user)) := by
  induction items generalizing sweep with
  | nil => exact (granting_nil sweep).symm
  | cons item rest ih =>
      rw [List.foldl_cons, each, ih, granting_granting, List.flatMap_cons]
      rfl

/-- Going through items some of which stand for a role is going through the roles. -/
private theorem foldl_roles (role? : Registry → UserId → Item → Option Role)
    (grants : Registry → UserId → Role → List RegistryAct)
    (none : ∀ sweep item, role? sweep.registry sweep.user item = .none → step sweep item = sweep)
    (some : ∀ sweep item role, role? sweep.registry sweep.user item = .some role →
      step sweep item = sweep.granting (grants sweep.registry sweep.user role))
    (items : List Item) (sweep : Sweep) :
    items.foldl step sweep =
      sweep.granting ((items.filterMap (role? sweep.registry sweep.user)).flatMap
        (grants sweep.registry sweep.user)) := by
  induction items generalizing sweep with
  | nil => exact (granting_nil sweep).symm
  | cons item rest ih =>
      rw [List.foldl_cons]
      cases found : role? sweep.registry sweep.user item with
      | none => rw [none sweep item found, ih, List.filterMap_cons_none found]
      | some role =>
          rw [some sweep item role found, ih, granting_granting,
            List.filterMap_cons_some found, List.flatMap_cons]
          rfl

private theorem foldl_free {package : String} {step : Sweep → String → Sweep}
    (act : UserId → String → RegistryAct)
    (each : ∀ sweep permission, step sweep permission =
      if sweep.isUnset package permission then sweep.granting [act sweep.user permission]
      else sweep)
    (permissions : List String) (sweep : Sweep) :
    permissions.foldl step sweep =
      sweep.granting ((permissions.filter (sweep.isUnset package)).map (act sweep.user)) := by
  induction permissions generalizing sweep with
  | nil => exact (granting_nil sweep).symm
  | cons permission rest ih =>
      rw [List.foldl_cons, each]
      cases free : sweep.isUnset package permission with
      | true =>
          rw [if_pos rfl, ih, granting_granting, List.filter_cons_of_pos free, List.map_cons]
          rfl
      | false =>
          rw [if_neg Bool.false_ne_true, ih, List.filter_cons_of_neg (by simp [free])]

private theorem foldl_grantIfUnset (package : String) (permissions : List String) (sweep : Sweep) :
    permissions.foldl (grantIfUnset package) sweep =
      sweep.granting ((permissions.filter (sweep.isUnset package)).map fun permission =>
        .grantRuntime package permission sweep.user) :=
  foldl_free (fun user permission => .grantRuntime package permission user) (fun _ _ => rfl) _ _

private theorem foldl_installIfUnset (package : String) (permissions : List String)
    (sweep : Sweep) :
    permissions.foldl (installIfUnset package) sweep =
      sweep.granting ((permissions.filter (sweep.isUnset package)).map (.grantInstall package)) :=
  foldl_free (fun _ => .grantInstall package) (fun _ _ => rfl) _ _

theorem grantGroups_eq (sweep : Sweep) (package : Package) (groups : List PermissionGroup) :
    sweep.grantGroups package groups =
      sweep.granting (sweep.registry.runtimeGrants sweep.user (package, groups)) := by
  unfold grantGroups Registry.runtimeGrants
  cases package.hasRuntimePermissions with
  | false => exact (granting_nil sweep).symm
  | true =>
      apply foldl_granting fun registry user group =>
        (registry.freeOf user package group).map fun permission =>
          .grantRuntime package.name permission user
      intro sweep group
      exact foldl_grantIfUnset package.name _ sweep

theorem grantToPrivileged_eq (sweep : Sweep) (assigned : Intent × PermissionGroup) :
    sweep.grantToPrivileged assigned =
      sweep.granting ((sweep.registry.privilegedRoles sweep.user assigned).flatMap
        (sweep.registry.installGrants sweep.user)) := by
  apply foldl_roles
    (fun registry _ name =>
      (registry.privilegedCandidate? name).map fun package => (package, assigned.2))
    Registry.installGrants
  · intro sweep name missing
    rw [Option.map_eq_none_iff] at missing
    simp only [installGroup, missing]
  · intro sweep name role found
    obtain ⟨package, candidate, rfl⟩ := Option.map_eq_some_iff.mp found
    simp only [installGroup, candidate]
    exact foldl_installIfUnset package.name _ sweep

theorem grantToDefaults_eq (assigned : List (Intent × List PermissionGroup)) (sweep : Sweep) :
    assigned.foldl grantToDefault sweep =
      sweep.granting ((assigned.filterMap (sweep.registry.defaultRole? sweep.user)).flatMap
        (sweep.registry.runtimeGrants sweep.user)) := by
  apply foldl_roles Registry.defaultRole? Registry.runtimeGrants
  · intro sweep assigned missing
    rw [Registry.defaultRole?, Option.map_eq_none_iff] at missing
    simp only [grantToDefault, missing]
  · intro sweep assigned role found
    obtain ⟨package, preferred, rfl⟩ := Option.map_eq_some_iff.mp found
    simp only [grantToDefault, preferred]
    exact grantGroups_eq sweep package assigned.2

theorem grantToProviders_eq (sweep : Sweep) (provider : Provider) :
    sweep.grantToProviders provider =
      sweep.granting ((sweep.registry.providerRoles sweep.user provider).flatMap
        (sweep.registry.runtimeGrants sweep.user)) := by
  apply foldl_roles
    (fun registry _ name =>
      (registry.systemCandidate? name).map fun package => (package, provider.groups))
    Registry.runtimeGrants
  · intro sweep name missing
    rw [Option.map_eq_none_iff] at missing
    simp only [grantToProvider, missing]
  · intro sweep name role found
    obtain ⟨package, candidate, rfl⟩ := Option.map_eq_some_iff.mp found
    simp only [grantToProvider, candidate]
    exact grantGroups_eq sweep package provider.groups

theorem grantToHandlers_eq (sweep : Sweep) :
    sweep.grantToHandlers = sweep.granting (sweep.registry.roleGrants sweep.user) := by
  have privileged := foldl_granting
    (fun registry user assigned =>
      (registry.privilegedRoles user assigned).flatMap (registry.installGrants user))
    grantToPrivileged_eq Intent.privilegedGrants sweep
  have providers := foldl_granting
    (fun registry user provider =>
      (registry.providerRoles user provider).flatMap (registry.runtimeGrants user))
    grantToProviders_eq Provider.all
  unfold grantToHandlers
  simp only [privileged, grantToDefaults_eq, providers, granting_granting]
  simp only [Registry.roleGrants, Registry.installRoles, Registry.runtimeRoles,
    List.flatMap_append, List.flatMap_assoc, List.append_assoc]
  rfl

end Sweep

/-! ## Fixing parts of the system -/

namespace Registry

variable {registry : Registry} {user : UserId} {pair other : String × String}
  {pairs : List (String × String)}

/-- The permissions that the package of a name may be given for good, each with the name
of the package: what a part of the system asks for and what is granted at run time. -/
def fixableOf (registry : Registry) (name : String) : List (String × String) :=
  match registry.package? name with
  | none => []
  | some package =>
      if package.isSystemPart && package.hasRuntimePermissions then
        (package.requested.filter registry.isRuntime).map fun permission =>
          (package.name, permission)
      else []

def fixable (registry : Registry) : List (String × String) :=
  registry.packageNames.flatMap registry.fixableOf

def isFixed (registry : Registry) (user : UserId) (pair : String × String) : Bool :=
  (registry.flags pair.2 pair.1 user).contains .systemFixed

/-- What is left to be fixed, without repetition. -/
def unfixed (registry : Registry) (user : UserId) : List (String × String) :=
  (registry.fixable.filter fun pair => !registry.isFixed user pair).eraseDups

/-- The registry after some permissions of some packages were fixed. -/
def fixing (registry : Registry) (user : UserId) (pairs : List (String × String)) : Registry :=
  pairs.foldl
    (fun registry pair =>
      registry.updateFlags pair.2 pair.1 user .touchable .systemFixed)
    registry

/-- Fixing changes no answer but the flags. -/
theorem fixing_eq (registry : Registry) (user : UserId) (pairs : List (String × String)) :
    registry.fixing user pairs =
      { registry with flags := (registry.fixing user pairs).flags } := by
  induction pairs generalizing registry with
  | nil => rfl
  | cons pair rest ih => exact ih _

private theorem isFixed_updateFlags (registry : Registry) (user : UserId)
    (pair other : String × String) :
    (registry.updateFlags pair.2 pair.1 user .touchable .systemFixed).isFixed user other =
      (decide (other = pair) || registry.isFixed user other) := by
  unfold isFixed updateFlags
  by_cases same : other = pair
  · subst same
    simp [PermissionFlags.contains_systemFixed_updated]
  · have different : ¬ (other.2 = pair.2 ∧ other.1 = pair.1) := fun both =>
      same (Prod.ext both.2 both.1)
    simp [different, same]

/-- Fixing replaces the flags of what is fixed, once or more often, and no others. -/
theorem flags_fixing (registry : Registry) (user other : UserId) (name permission : String)
    (pairs : List (String × String)) :
    (registry.fixing user pairs).flags permission name other =
      if other = user ∧ (name, permission) ∈ pairs then
        (registry.flags permission name user).updated .touchable .systemFixed
      else registry.flags permission name other := by
  induction pairs generalizing registry with
  | nil => simp [fixing]
  | cons pair rest ih =>
      have first : ∀ someone, (registry.updateFlags pair.2 pair.1 user .touchable
          .systemFixed).flags permission name someone =
            if someone = user ∧ (name, permission) = pair then
              (registry.flags permission name user).updated .touchable .systemFixed
            else registry.flags permission name someone := by
        intro someone
        by_cases same : (name, permission) = pair
        · subst same
          simp [updateFlags]
        · have different : ¬ (permission = pair.2 ∧ name = pair.1) := fun both =>
            same (Prod.ext both.2 both.1)
          simp [updateFlags, ← and_assoc, different, same]
      refine (ih _).trans ?_
      rw [first user, first other]
      by_cases own : other = user
      · by_cases isFirst : (name, permission) = pair <;>
          simp [own, isFirst, PermissionFlags.updated_updated]
      · simp [own]

private theorem isFixed_fixing (registry : Registry) (user : UserId)
    (pairs : List (String × String)) (other : String × String) :
    (registry.fixing user pairs).isFixed user other =
      (decide (other ∈ pairs) || registry.isFixed user other) := by
  simp only [isFixed, flags_fixing, true_and]
  by_cases member : other ∈ pairs
  · simp [member, PermissionFlags.contains_systemFixed_updated]
  · simp [member]

private theorem flags_fixing_of_not_mem {name permission : String}
    (spared : (name, permission) ∉ pairs) :
    (registry.fixing user pairs).flags permission name user =
      registry.flags permission name user := by
  rw [flags_fixing, if_neg fun both => spared both.2]

theorem unfixed_fixing (registry : Registry) (user : UserId) :
    (registry.fixing user (registry.unfixed user)).unfixed user = [] := by
  have sameFixable : (registry.fixing user (registry.unfixed user)).fixable = registry.fixable := by
    rw [fixing_eq]
    rfl
  have nothing : (registry.fixable.filter fun pair =>
      !(registry.fixing user (registry.unfixed user)).isFixed user pair) = [] := by
    rw [List.filter_eq_nil_iff]
    intro pair member
    cases before : registry.isFixed user pair with
    | true => simp [isFixed_fixing, before]
    | false =>
        have listed : pair ∈ registry.unfixed user :=
          List.mem_eraseDups.mpr (List.mem_filter.mpr ⟨member, by simp [before]⟩)
        simp [isFixed_fixing, listed]
  rw [unfixed, sameFixable, nothing]
  rfl

end Registry

namespace Sweep

def fixActs (user : UserId) (pair : String × String) : List RegistryAct :=
  [.grantRuntime pair.1 pair.2 user, .updateFlags pair.1 pair.2 .touchable .systemFixed user]

def fixing (sweep : Sweep) (pairs : List (String × String)) : Sweep :=
  { sweep with
    registry := sweep.registry.fixing sweep.user pairs
    summary := { sweep.summary with systemFixed := sweep.summary.systemFixed + pairs.length }
    acts := sweep.acts ++ pairs.flatMap (fixActs sweep.user) }

@[simp] theorem fixing_nil (sweep : Sweep) : sweep.fixing [] = sweep := by
  simp [fixing, Registry.fixing]

private theorem fixing_cons (sweep : Sweep) (pair : String × String)
    (pairs : List (String × String)) :
    sweep.fixing (pair :: pairs) = (sweep.fix pair.1 pair.2).fixing pairs := by
  simp [fixing, fix, fixActs, Registry.fixing, Nat.add_assoc, Nat.add_comm 1]

def fixOnce (sweep : Sweep) (pair : String × String) : Sweep :=
  if sweep.registry.isFixed sweep.user pair then sweep else sweep.fix pair.1 pair.2

private theorem fixableOf_foldl_fixOnce (pairs : List (String × String)) (sweep : Sweep) :
    (pairs.foldl fixOnce sweep).registry.fixableOf = sweep.registry.fixableOf := by
  induction pairs generalizing sweep with
  | nil => rfl
  | cons pair rest ih =>
      refine (ih _).trans ?_
      unfold fixOnce
      split <;> rfl

private theorem foldl_fixRequested (package : String) (permissions : List String) (sweep : Sweep) :
    permissions.foldl (fixRequested package) sweep =
      ((permissions.filter sweep.registry.isRuntime).map fun permission =>
        (package, permission)).foldl fixOnce sweep := by
  induction permissions generalizing sweep with
  | nil => rfl
  | cons permission rest ih =>
      rw [List.foldl_cons]
      cases runtime : sweep.registry.isRuntime permission with
      | false =>
          have passed : fixRequested package sweep permission = sweep := by
            simp [fixRequested, runtime]
          rw [passed, ih, List.filter_cons_of_neg (by simp [runtime])]
      | true =>
          have once : fixRequested package sweep permission = sweep.fixOnce (package, permission) := by
            unfold fixRequested fixOnce Registry.isFixed
            cases (sweep.registry.flags permission package sweep.user).contains .systemFixed <;>
              simp [runtime]
          have sameRuntime : (sweep.fixOnce (package, permission)).registry.isRuntime =
              sweep.registry.isRuntime := by
            unfold fixOnce
            split <;> rfl
          rw [once, ih, sameRuntime, List.filter_cons_of_pos runtime, List.map_cons,
            List.foldl_cons]

theorem fixPart_eq (sweep : Sweep) (name : String) :
    sweep.fixPart name = (sweep.registry.fixableOf name).foldl fixOnce sweep := by
  unfold fixPart Registry.fixableOf
  cases sweep.registry.package? name with
  | none => rfl
  | some package =>
      dsimp only
      cases package.isSystemPart && package.hasRuntimePermissions with
      | true => exact foldl_fixRequested package.name package.requested sweep
      | false => rfl

private theorem foldl_fixPart (names : List String) (sweep : Sweep) :
    names.foldl fixPart sweep =
      (names.flatMap sweep.registry.fixableOf).foldl fixOnce sweep := by
  induction names generalizing sweep with
  | nil => rfl
  | cons name rest ih =>
      rw [List.foldl_cons, ih, fixPart_eq, fixableOf_foldl_fixOnce, List.flatMap_cons,
        List.foldl_append]

/-- Fixing once, through a list with repetitions, is fixing each of what was not fixed. -/
private theorem foldl_fixOnce (pairs : List (String × String)) (sweep : Sweep) :
    pairs.foldl fixOnce sweep =
      sweep.fixing (pairs.filter fun pair => !sweep.registry.isFixed sweep.user pair).eraseDups := by
  induction pairs generalizing sweep with
  | nil => exact (fixing_nil sweep).symm
  | cons pair rest ih =>
      rw [List.foldl_cons, ih]
      cases fixed : sweep.registry.isFixed sweep.user pair with
      | true =>
          have same : sweep.fixOnce pair = sweep := by simp [fixOnce, fixed]
          rw [same, List.filter_cons_of_neg (by simp [fixed])]
      | false =>
          have changed : sweep.fixOnce pair = sweep.fix pair.1 pair.2 := by simp [fixOnce, fixed]
          -- After the first time the pair itself counts as fixed, and nothing else does anew.
          have left : (rest.filter fun other =>
              !(sweep.fix pair.1 pair.2).registry.isFixed sweep.user other) =
              (rest.filter fun other => !sweep.registry.isFixed sweep.user other).filter
                fun other => !other == pair := by
            rw [List.filter_filter]
            refine List.filter_congr fun other _ => ?_
            rw [fix, Registry.isFixed_updateFlags]
            by_cases same : other = pair <;> simp [same]
          rw [changed, List.filter_cons_of_pos (by simp [fixed]), List.eraseDups_cons,
            fixing_cons, ← left]
          rfl

theorem fixSystemParts_eq (sweep : Sweep) :
    sweep.fixSystemParts = sweep.fixing (sweep.registry.unfixed sweep.user) := by
  unfold fixSystemParts
  rw [foldl_fixPart, foldl_fixOnce]
  rfl

end Sweep

/-! ## Both halves -/

namespace Registry

variable {registry : Registry} {user : UserId} {name permission : String} {package : Package}

theorem privilegedCandidate?_eq_some_iff :
    registry.privilegedCandidate? name = some package ↔
      registry.package? name = some package ∧ package.privileged = true ∧
        package.isSystemPart = false := by
  simp [privilegedCandidate?, Option.filter_eq_some_iff]

theorem systemCandidate?_eq_some_iff :
    registry.systemCandidate? name = some package ↔
      registry.package? name = some package ∧ package.system = true ∧
        package.isSystemPart = false := by
  simp [systemCandidate?, Option.filter_eq_some_iff]

theorem mem_installRoles_iff {group : PermissionGroup} :
    (package, group) ∈ registry.installRoles user ↔
      ∃ intent name, (intent, group) ∈ Intent.privilegedGrants ∧
        name ∈ registry.handlers intent user ∧
        registry.privilegedCandidate? name = some package := by
  simp only [installRoles, privilegedRoles, List.mem_flatMap, List.mem_filterMap,
    Option.map_eq_some_iff, Prod.mk.injEq]
  constructor
  · rintro ⟨⟨intent, _⟩, assigned, name, listed, _, candidate, rfl, rfl⟩
    exact ⟨intent, name, assigned, listed, candidate⟩
  · rintro ⟨intent, name, assigned, listed, candidate⟩
    exact ⟨(intent, group), assigned, name, listed, package, candidate, rfl, rfl⟩

theorem mem_runtimeRoles_iff {groups : List PermissionGroup} :
    (package, groups) ∈ registry.runtimeRoles user ↔
      (∃ intent, (intent, groups) ∈ Intent.defaultGrants ∧
        registry.preferredHandler? intent user = some package) ∨
      ∃ provider name, provider.groups = groups ∧ name ∈ registry.providedBy provider user ∧
        registry.systemCandidate? name = some package := by
  simp only [runtimeRoles, defaultRole?, providerRoles, List.mem_append, List.mem_flatMap,
    List.mem_filterMap, Option.map_eq_some_iff, Prod.mk.injEq]
  apply or_congr
  · constructor
    · rintro ⟨⟨intent, _⟩, assigned, _, preferred, rfl, rfl⟩
      exact ⟨intent, assigned, preferred⟩
    · rintro ⟨intent, assigned, preferred⟩
      exact ⟨(intent, groups), assigned, package, preferred, rfl, rfl⟩
  · constructor
    · rintro ⟨provider, _, name, listed, _, candidate, rfl, rfl⟩
      exact ⟨provider, name, rfl, listed, candidate⟩
    · rintro ⟨provider, name, rfl, listed, candidate⟩
      have known : provider ∈ Provider.all := by cases provider <;> decide
      exact ⟨provider, known, name, listed, package, candidate, rfl, rfl⟩

theorem candidate_of_mem_runtimeRoles {groups : List PermissionGroup}
    (member : (package, groups) ∈ registry.runtimeRoles user) :
    ∃ name, registry.systemCandidate? name = some package := by
  rcases mem_runtimeRoles_iff.mp member with ⟨intent, _, preferred⟩ | ⟨_, name, _, _, candidate⟩
  · obtain ⟨_, name, _, _, candidate, _⟩ := List.findSome?_eq_some_iff.mp preferred
    exact ⟨name, candidate⟩
  · exact ⟨name, candidate⟩

theorem mem_fixableOf_iff {pair : String × String} :
    pair ∈ registry.fixableOf name ↔
      ∃ package, registry.package? name = some package ∧ package.isSystemPart = true ∧
        package.hasRuntimePermissions = true ∧ pair.1 = package.name ∧
        pair.2 ∈ package.requested ∧ registry.isRuntime pair.2 = true := by
  unfold fixableOf
  constructor
  · intro member
    split at member
    · cases member
    · next package installed =>
        split at member
        · next serves =>
            obtain ⟨part, modern⟩ := Bool.and_eq_true_iff.mp serves
            obtain ⟨permission, asked, rfl⟩ := List.mem_map.mp member
            obtain ⟨requested, runtime⟩ := List.mem_filter.mp asked
            exact ⟨package, installed, part, modern, rfl, requested, runtime⟩
        · cases member
  · intro fixable
    obtain ⟨package, installed, part, modern, sameName, requested, runtime⟩ := fixable
    simp only [installed, part, modern, Bool.and_self, if_true]
    have asked := List.mem_filter.mpr ⟨requested, runtime⟩
    exact List.mem_map.mpr ⟨pair.2, asked, Prod.ext sameName.symm rfl⟩

/-- A package that is not a part of the system has nothing that may be fixed. -/
private theorem not_mem_fixable (named : registry.Named)
    (installed : registry.package? name = some package)
    (outside : package.isSystemPart = false) : (package.name, permission) ∉ registry.fixable := by
  intro member
  obtain ⟨listed, _, found⟩ := List.mem_flatMap.mp member
  obtain ⟨other, otherInstalled, part, _, sameName, _⟩ := mem_fixableOf_iff.mp found
  have otherName : other.name = listed := named listed other otherInstalled
  have ownName : package.name = name := named name package installed
  have same : name = listed := ownName.symm.trans (sameName.trans otherName)
  rw [← same, installed, Option.some.injEq] at otherInstalled
  rw [otherInstalled, part] at outside
  cases outside

private theorem unfixed_subset (registry : Registry) (user : UserId) :
    registry.unfixed user ⊆ registry.fixable := fun _ member =>
  (List.mem_filter.mp (List.mem_eraseDups.mp member)).1

theorem freeOf_fixing (named : registry.Named) (installed : registry.package? name = some package)
    (outside : package.isSystemPart = false) (group : PermissionGroup) :
    (registry.fixing user (registry.unfixed user)).freeOf user package group =
      registry.freeOf user package group := by
  have asked : Sweep.requestedOf (registry.fixing user (registry.unfixed user)) package group =
      Sweep.requestedOf registry package group := by
    rw [fixing_eq]
    rfl
  unfold freeOf
  rw [asked]
  refine List.filter_congr fun permission _ => ?_
  rw [flags_fixing_of_not_mem]
  exact fun member => not_mem_fixable named installed outside (unfixed_subset registry user member)

/-- The same roles, and the same free permissions for whoever has one, make the same
grants. -/
theorem roleGrants_congr {left right : Registry}
    (sameInstall : left.installRoles user = right.installRoles user)
    (sameRuntime : left.runtimeRoles user = right.runtimeRoles user)
    (sameFree : ∀ name package, left.package? name = some package →
      package.system = true ∨ package.privileged = true → package.isSystemPart = false →
      left.freeOf user package = right.freeOf user package) :
    left.roleGrants user = right.roleGrants user := by
  unfold roleGrants
  rw [← sameInstall, ← sameRuntime]
  congr 1
  · refine List.flatMap_congr fun role member => ?_
    obtain ⟨_, name, _, _, candidate⟩ := mem_installRoles_iff.mp member
    obtain ⟨installed, privileged, outside⟩ := privilegedCandidate?_eq_some_iff.mp candidate
    rw [installGrants, sameFree name role.1 installed (.inr privileged) outside, installGrants]
  · refine List.flatMap_congr fun role member => ?_
    obtain ⟨name, candidate⟩ := candidate_of_mem_runtimeRoles member
    obtain ⟨installed, system, outside⟩ := systemCandidate?_eq_some_iff.mp candidate
    rw [runtimeGrants, sameFree name role.1 installed (.inl system) outside, runtimeGrants]

/-- Fixing what belongs to parts of the system leaves the grants to roles as they are. -/
theorem roleGrants_fixing (named : registry.Named) (user : UserId) :
    (registry.fixing user (registry.unfixed user)).roleGrants user = registry.roleGrants user := by
  apply Eq.symm
  apply roleGrants_congr
  · rw [fixing_eq]
    rfl
  · rw [fixing_eq]
    rfl
  · intro name package installed _ outside
    exact (funext fun group => freeOf_fixing named installed outside group).symm

end Registry

namespace Sweep

theorem grantDefaults_eq {registry : Registry} (named : registry.Named) (user : UserId) :
    grantDefaults registry user =
      ((start registry user).fixing (registry.unfixed user)).granting
        (registry.roleGrants user) := by
  unfold grantDefaults
  rw [fixSystemParts_eq, grantToHandlers_eq]
  exact congrArg _ (Registry.roleGrants_fixing named user)

end Sweep

end AudioHost
