import Convoy.Proofs.Compose.Document
import Convoy.Proofs.Compose.Interpolation
import Convoy.Proofs.Launch
import Mathlib.Data.Fintype.EquivFin

/-!
# Secrets of containers

A container gets the values of its secrets from the runtime that reads the document, which knows
nothing but the environment; a service that is launched directly gets those of the resolution. The
two are the same in every environment exactly if the braces in the known defaults come in pairs: the
reference to a secret ends at the first brace without a partner, also if it belongs to the default.
-/

namespace Convoy

open Outcome Compose

/-- A reference to the secret means the secret: its variable can be named in a reference, and a
default that stands in the reference does not end it or keep it from ending. -/
structure SecretSpec.Legible (profile : Profile) (spec : SecretSpec) : Prop where
  named : Naming.variableName spec.env = .ok ()
  balanced : profile = .evaluation →
    ∀ fallback, spec.insecureDefault = some fallback → Balanced fallback.toList

namespace Compose

/-! ## What references mean -/

section

variable {environment : Environment} {name fallback value : String}

theorem toList_withDefault (name fallback : String) :
    (withDefault name fallback).toList =
      '$' :: '{' :: ((name.toList ++ ':' :: '-' :: escapeChars fallback.toList) ++ ['}']) := by
  simp [withDefault, escape]

theorem toList_mandatory (name : String) :
    (mandatory name).toList =
      '$' :: '{' :: ((name.toList ++ ':' :: '?' :: (name.toList ++ " must be set".toList)) ++
        ['}']) := by
  simp [mandatory]

theorem part?_brace (inner : List Char) :
    part? '$' ('{' :: inner) = (closing? 0 inner).bind fun parts =>
      (reference? parts.1).map fun part => (part, parts.2) := by
  simp [part?, Option.map_eq_bind]

/-- A reference whose text is balanced is a part by itself. -/
theorem part?_reference {inside : List Char} {part : Part} (balanced : Balanced inside)
    (refers : reference? inside = some part) :
    part? '$' ('{' :: (inside ++ ['}'])) = some (part, []) := by
  have cut := closing?_append_of_depthAfter?_eq_some ['}'] balanced
  rw [show closing? 0 ['}'] = some ([], []) from rfl, Option.map_some, List.append_nil] at cut
  rw [part?_brace, cut, Option.bind_some, refers, Option.map_some]

theorem depthAfter?_default (valid : Naming.variableName name = .ok ()) (fallback : String) :
    depthAfter? 0 (name.toList ++ ':' :: '-' :: escapeChars fallback.toList) =
      depthAfter? 0 fallback.toList := by
  rw [depthAfter?_append, depthAfter?_of_variableName valid]
  simp [depthAfter?, depthBehind?, depthAfter?_escapeChars]

/-- A reference with a balanced default means the value of the variable or the default. -/
theorem interpolate_withDefault
    (valid : Naming.variableName name = .ok ()) (balanced : Balanced fallback.toList) :
    interpolate environment (withDefault name fallback).toList =
      some ((supplied? environment name).getD fallback).toList := by
  have begins := part?_reference ((depthAfter?_default valid fallback).trans balanced)
    (reference?_append valid _).1
  rw [toList_withDefault, interpolate_of_optional begins, interpolate_escapeChars]
  cases supplied? environment name <;> simp [interpolate]

/-- A reference with another default does not mean the value of the variable: it ends too early, so
that more text follows the value, or it does not end. -/
theorem interpolate_withDefault_ne
    (valid : Naming.variableName name = .ok ()) (unbalanced : ¬ Balanced fallback.toList)
    (constant : ∀ other, supplied? environment other = some value) :
    interpolate environment (withDefault name fallback).toList ≠ some value.toList := by
  have depth := depthAfter?_default valid fallback
  have begins := part?_brace ((name.toList ++ ':' :: '-' :: escapeChars fallback.toList) ++ ['}'])
  rw [toList_withDefault]
  cases final : depthAfter? 0 fallback.toList with
  | none =>
    obtain ⟨inside, after, cut⟩ :=
      closing?_append_of_depthAfter?_eq_none ['}'] (depth.trans final)
    -- All references mean the same value here, so that only what is left behind one matters.
    have remains : interpolate environment (after ++ ['}']) ≠ some [] := fun nothing =>
      List.append_ne_nil_of_right_ne_nil after (List.cons_ne_nil _ _)
        (eq_nil_of_interpolate_eq_nil (fun other => ⟨value, constant other⟩) nothing)
    rw [cut, Option.bind_some] at begins
    cases refers : reference? inside with
    | none =>
      rw [refers, Option.map_none] at begins
      rw [interpolate_of_part?_eq_none begins]
      exact (Option.some_ne_none _).symm
    | some part =>
      rw [refers, Option.map_some] at begins
      obtain ⟨other, -, ⟨_, rfl, -⟩ | ⟨_, rfl, -⟩⟩ := reference?_cases refers
      · rw [interpolate_of_optional begins, constant other]
        simpa using remains
      · rw [interpolate_of_required begins, constant other]
        simpa using remains
  | some open_ =>
    obtain ⟨outer, rfl⟩ : ∃ outer, open_ = outer + 1 := by
      refine Nat.exists_eq_succ_of_ne_zero ?_
      rintro rfl
      exact unbalanced final
    have cut := closing?_append_of_depthAfter?_eq_some ['}'] (depth.trans final)
    rw [show closing? (outer + 1) ['}'] = none from rfl, Option.map_none] at cut
    rw [cut, Option.bind_none] at begins
    rw [interpolate_of_part?_eq_none begins]
    exact (Option.some_ne_none _).symm

/-- A reference without a default means the value of the variable. -/
theorem interpolate_mandatory (valid : Naming.variableName name = .ok ()) :
    interpolate environment (mandatory name).toList =
      (supplied? environment name).map (·.toList) := by
  have balanced :
      Balanced (name.toList ++ ':' :: '?' :: (name.toList ++ " must be set".toList)) := by
    rw [Balanced, depthAfter?_append, depthAfter?_of_variableName valid]
    simp [depthAfter?, depthBehind?, depthAfter?_append, depthAfter?_of_variableName valid]
  have begins := part?_reference balanced (reference?_append valid _).2
  rw [toList_mandatory, interpolate_of_required begins]
  cases supplied? environment name <;> simp [interpolate]

end

/-! ## Agreement with a direct launch -/

/-- In an environment, every variable that is bound to a secret has the same value in the container
of its service and where the service is launched directly. -/
def Document.Agrees (document : Document) (topology : Topology) (environment : Environment)
    (resolved : ResolvedSecrets) : Prop :=
  ∃ environments, topology.environments resolved = .ok environments ∧
    ∀ service ∈ topology.services, ∀ variable_ secret,
      service.secrets.get? variable_ = some secret →
        ∃ made text assignments value,
          document.services.lookup service.name = some made ∧
            made.environment.get? variable_ = some text ∧
            environments.get? service.name = some assignments ∧
            assignments.get? variable_ = some value ∧
            interpolate environment text.toList = some value.toList

section

variable {topology : Topology} {profile : Profile} {document : Document}
  {environment : Environment} {resolved : ResolvedSecrets}

/-- In its container, a variable that is bound to a secret refers to the secret. -/
theorem exists_container_variable
    (rendered : ofTopology topology profile = .ok document)
    {service : Service} (declared : service ∈ topology.services)
    {variable_ secret : String} (bound : service.secrets.get? variable_ = some secret)
    {spec : SecretSpec} (specified : topology.secrets.get? secret = some spec) :
    ∃ made, document.services.lookup service.name = some made ∧
      made.environment.get? variable_ = some (reference profile spec) := by
  obtain ⟨made, given, found⟩ := exists_container rendered declared
  refine ⟨made, found, ?_⟩
  rw [(fields_of_container given).1]
  exact get?_environment_of_secret bound specified

/-- Where its service is launched directly, a variable that is bound to a secret has the value that
the resolution gives. -/
theorem exists_launched_variable
    (resolves : topology.resolveSecrets profile environment = .ok resolved)
    {environments : Dictionary (Dictionary String)}
    (launched : topology.environments resolved = .ok environments)
    {service : Service} (declared : service ∈ topology.services)
    {variable_ secret : String} (bound : service.secrets.get? variable_ = some secret)
    {spec : SecretSpec} (specified : topology.secrets.get? secret = some spec) :
    ∃ assignments value, environments.get? service.name = some assignments ∧
      spec.resolve profile environment = .ok value ∧
      assignments.get? variable_ = some value.value := by
  have resolves := mapError_eq_ok_iff.1 resolves
  obtain ⟨assignments, own, found⟩ := Topology.get?_of_environments launched declared
  obtain ⟨value, given⟩ :=
    SecretRegistry.exists_resolve_iff.1 ⟨resolved, resolves⟩ secret spec specified
  have holds := (SecretRegistry.get?_of_resolve resolves).2 ⟨spec, specified, given⟩
  refine ⟨assignments, value, found, given, ?_⟩
  rw [Service.get?_of_environmentWith own, bound, Option.bind_some, holds]
  rfl

/-- A document agrees with a direct launch if each reference means the value of its secret. -/
theorem agrees_iff
    (rendered : ofTopology topology profile = .ok document)
    (resolves : topology.resolveSecrets profile environment = .ok resolved) :
    document.Agrees topology environment resolved ↔
      ∀ service ∈ topology.services, ∀ variable_ secret,
        service.secrets.get? variable_ = some secret →
          ∀ spec, topology.secrets.get? secret = some spec →
            ∀ value, spec.resolve profile environment = .ok value →
              interpolate environment (reference profile spec).toList =
                some value.value.toList := by
  obtain ⟨environments, launched⟩ := Topology.exists_environments resolves
  constructor
  · rintro ⟨others, sameLaunched, same⟩ service declared variable_ secret bound spec specified
      value given
    obtain rfl := Except.ok.inj (launched.symm.trans sameLaunched)
    obtain ⟨made, text, assignments, content, found, entry, own, holds, means⟩ :=
      same service declared variable_ secret bound
    obtain ⟨_, sameFound, sameEntry⟩ :=
      exists_container_variable rendered declared bound specified
    cases found.symm.trans sameFound
    cases entry.symm.trans sameEntry
    obtain ⟨_, _, sameOwn, sameGiven, sameHolds⟩ :=
      exists_launched_variable resolves launched declared bound specified
    cases own.symm.trans sameOwn
    cases given.symm.trans sameGiven
    cases holds.symm.trans sameHolds
    exact means
  · intro means
    refine ⟨environments, launched, fun service declared variable_ secret bound => ?_⟩
    obtain ⟨spec, specified⟩ := Topology.secret_declared declared bound
    obtain ⟨made, found, entry⟩ := exists_container_variable rendered declared bound specified
    obtain ⟨assignments, value, own, given, holds⟩ :=
      exists_launched_variable resolves launched declared bound specified
    exact ⟨made, _, assignments, _, found, entry, own, holds,
      means service declared variable_ secret bound spec specified value given⟩

/-- A legible reference means the value of its secret. -/
theorem interpolate_reference
    {spec : SecretSpec} {value : SecretValue} (legible : spec.Legible profile)
    (resolves : spec.resolve profile environment = .ok value) :
    interpolate environment (reference profile spec).toList = some value.value.toList := by
  rcases SecretSpec.value_of_resolve resolves with supplied | ⟨absent, rfl, known⟩
  · have supplied : supplied? environment spec.env = some value.value := supplied
    unfold reference
    split
    · rename_i fallback known
      rw [interpolate_withDefault legible.named (legible.balanced rfl fallback known), supplied]
      rfl
    · rw [interpolate_mandatory legible.named, supplied]
      rfl
  · have absent : supplied? environment spec.env = none := absent
    simp only [reference, known]
    rw [interpolate_withDefault legible.named (legible.balanced rfl _ known), absent]
    rfl

/-- Where every secret has a value that is not its known default, all of them resolve. -/
theorem exists_resolveSecrets_of_supplied
    (each : ∀ name spec, topology.secrets.get? name = some spec →
      ∃ value, spec.supplied? environment = some value ∧ spec.insecureDefault ≠ some value) :
    ∃ resolved, topology.resolveSecrets profile environment = .ok resolved := by
  obtain ⟨resolved, resolves⟩ :
      ∃ resolved, topology.secrets.resolve profile environment = .ok resolved :=
    SecretRegistry.exists_resolve_iff.2 fun name spec specified =>
      have ⟨_, supplied, private_⟩ := each name spec specified
      SecretSpec.exists_resolve_of_supplied supplied private_
  exact ⟨resolved, mapError_eq_ok_iff.2 resolves⟩

/-- There is always one more value that is not among the known defaults. -/
theorem exists_fresh (registry : SecretRegistry) (taken : String) :
    ∃ value, value ≠ "" ∧ value ≠ taken ∧
      ∀ name spec, registry.get? name = some spec → spec.insecureDefault ≠ some value := by
  obtain ⟨value, fresh⟩ := Infinite.exists_notMem_finset
    ("" :: taken :: registry.values.filterMap (·.insecureDefault)).toFinset
  simp only [List.mem_toFinset, List.mem_cons, List.mem_filterMap, not_or, not_exists,
    not_and] at fresh
  exact ⟨value, fresh.1, fresh.2.1, fun name spec declared known =>
    fresh.2.2 spec (Dictionary.mem_values_iff.2 ⟨name, declared⟩) known⟩

/-- If a document agrees with direct launches, a reference means the supplied value wherever all
secrets are supplied. -/
theorem interpolate_reference_of_agrees (environment : Environment)
    (rendered : ofTopology topology profile = .ok document)
    (agrees : ∀ environment resolved, topology.resolveSecrets profile environment = .ok resolved →
      document.Agrees topology environment resolved)
    (each : ∀ name spec, topology.secrets.get? name = some spec →
      ∃ value, spec.supplied? environment = some value ∧ spec.insecureDefault ≠ some value)
    {service : Service} (declared : service ∈ topology.services)
    {variable_ secret : String} (bound : service.secrets.get? variable_ = some secret)
    {spec : SecretSpec} (specified : topology.secrets.get? secret = some spec) :
    interpolate environment (reference profile spec).toList =
      (spec.supplied? environment).map (·.toList) := by
  obtain ⟨resolved, resolves⟩ :
      ∃ resolved, topology.resolveSecrets profile environment = .ok resolved :=
    exists_resolveSecrets_of_supplied each
  have means := (agrees_iff rendered resolves).1 (agrees environment resolved resolves)
    service declared variable_ secret bound spec specified
  obtain ⟨supply, supplied, private_⟩ := each secret spec specified
  obtain ⟨value, given⟩ : ∃ value, spec.resolve profile environment = .ok value :=
    SecretSpec.exists_resolve_of_supplied supplied private_
  rcases SecretSpec.value_of_resolve given with supplies | ⟨absent, -⟩
  · rw [means value given, supplies]
    rfl
  · cases supplied.symm.trans absent

/-- If a document agrees with direct launches, references name the variables of the secrets in use:
what an improper name leads to does not depend on the variable that has the name. -/
theorem variableName_of_agrees
    (rendered : ofTopology topology profile = .ok document)
    (agrees : ∀ environment resolved, topology.resolveSecrets profile environment = .ok resolved →
      document.Agrees topology environment resolved)
    {service : Service} (declared : service ∈ topology.services)
    {variable_ secret : String} (bound : service.secrets.get? variable_ = some secret)
    {spec : SecretSpec} (specified : topology.secrets.get? secret = some spec) :
    Naming.variableName spec.env = .ok () := by
  by_contra improper
  obtain ⟨value, nonempty, -, fresh⟩ := exists_fresh topology.secrets ""
  obtain ⟨other, otherNonempty, different, otherFresh⟩ := exists_fresh topology.secrets value
  -- The two environments differ only where no reference can look.
  let constant : Environment := fun _ => some value
  let varied : Environment := Function.update constant spec.env (some other)
  have supplies : ∀ known : SecretSpec, known.supplied? constant = some value := fun known =>
    SecretSpec.supplied?_eq_some rfl nonempty
  have own : spec.supplied? varied = some other :=
    SecretSpec.supplied?_eq_some (Function.update_self ..) otherNonempty
  have unnoticed : interpolate constant (reference profile spec).toList =
      interpolate varied (reference profile spec).toList := by
    refine interpolate_congr (fun name proper => ?_) _
    have apart : name ≠ spec.env := by
      rintro rfl
      exact improper proper
    exact (Function.update_of_ne apart _ constant).symm
  have first := interpolate_reference_of_agrees constant rendered agrees
    (fun name known specified => ⟨value, supplies known, fresh name known specified⟩)
    declared bound specified
  have second := interpolate_reference_of_agrees varied rendered agrees
    (fun name known specified => by
      by_cases same : known.env = spec.env
      · have held : varied known.env = some other := same ▸ Function.update_self ..
        exact ⟨other, SecretSpec.supplied?_eq_some held otherNonempty,
          otherFresh name known specified⟩
      · have held : varied known.env = some value := Function.update_of_ne same _ constant
        exact ⟨value, SecretSpec.supplied?_eq_some held nonempty, fresh name known specified⟩)
    declared bound specified
  rw [supplies] at first
  rw [← unnoticed, first, own] at second
  exact different (String.toList_injective (Option.some.inj second)).symm

/-- A document agrees with a direct launch in every environment exactly if all secrets in use are
legible. -/
theorem agrees_everywhere_iff_legible
    (rendered : ofTopology topology profile = .ok document) :
    (∀ environment resolved, topology.resolveSecrets profile environment = .ok resolved →
        document.Agrees topology environment resolved) ↔
      ∀ service ∈ topology.services, ∀ variable_ secret,
        service.secrets.get? variable_ = some secret →
          ∃ spec, topology.secrets.get? secret = some spec ∧ spec.Legible profile := by
  constructor
  · intro agrees service declared variable_ secret bound
    obtain ⟨spec, specified⟩ := Topology.secret_declared declared bound
    have named := variableName_of_agrees rendered agrees declared bound specified
    refine ⟨spec, specified, named, ?_⟩
    rintro rfl fallback known
    by_contra unbalanced
    obtain ⟨value, nonempty, -, fresh⟩ := exists_fresh topology.secrets ""
    let constant : Environment := fun _ => some value
    have full : ∀ name, supplied? constant name = some value := fun name => by
      simp [supplied?, constant, nonempty]
    have means := interpolate_reference_of_agrees constant rendered agrees
      (fun name other specified => ⟨value, full other.env, fresh name other specified⟩)
      declared bound specified
    rw [show spec.supplied? constant = some value from full spec.env] at means
    simp only [reference, known] at means
    exact interpolate_withDefault_ne named unbalanced full means
  · intro legible environment resolved resolves
    rw [agrees_iff rendered resolves]
    intro service declared variable_ secret bound spec specified value given
    obtain ⟨_, same, reads⟩ := legible service declared variable_ secret bound
    cases specified.symm.trans same
    exact interpolate_reference reads given

end

/-- A single service with a secret that has a known default. -/
def lonely (fallback : String) : Blueprint where
  name := "stack"
  services :=
    [{ name := "app"
       role := .appServer
       image := ""
       command := []
       endpoint := none
       environment := .ofList [("PASSWORD", "literal")]
       secrets := .ofList [("PASSWORD", "database")]
       dependsOn := []
       probes := .replicate none
       volumes := []
       replicas := 1
       readinessTimeout := .ofSeconds 30 }]
  volumes := .empty
  secrets := .ofList [⟨"database", "DATABASE_PASSWORD", some fallback⟩]
  edge := .standard

/-- A default with a brace and its partner. -/
def paired : Topology := ⟨lonely "a\x7bb\x7d$", by decide +kernel⟩

theorem paired_agrees :
    ∃ document, ofTopology paired .evaluation = .ok document ∧
      ∀ environment resolved, paired.resolveSecrets .evaluation environment = .ok resolved →
        document.Agrees paired environment resolved := by
  obtain ⟨document, rendered⟩ : ∃ document, ofTopology paired .evaluation = .ok document :=
    exists_ofTopology_iff.2 (by decide +kernel)
  refine ⟨document, rendered, (agrees_everywhere_iff_legible rendered).2 ?_⟩
  intro service declared variable_ secret bound
  obtain rfl := List.mem_singleton.1 declared
  obtain ⟨rfl, rfl⟩ : variable_ = "PASSWORD" ∧ secret = "database" := by
    simpa using (Dictionary.get?_ofList_eq_some_iff (by decide)).1 bound
  refine ⟨⟨"database", "DATABASE_PASSWORD", some "a\x7bb\x7d$"⟩, by decide +kernel,
    by decide +kernel, ?_⟩
  rintro - fallback known
  obtain rfl := Option.some.inj known
  decide +kernel

/-- A default with a brace that has no partner. -/
def unpaired : Topology := ⟨lonely "a\x7db", by decide +kernel⟩

theorem unpaired_disagrees :
    ∃ document resolved,
      ofTopology unpaired .evaluation = .ok document ∧
        unpaired.resolveSecrets .evaluation (fun _ => none) = .ok resolved ∧
        ¬ document.Agrees unpaired (fun _ => none) resolved := by
  obtain ⟨document, rendered⟩ : ∃ document, ofTopology unpaired .evaluation = .ok document :=
    exists_ofTopology_iff.2 (by decide +kernel)
  have resolves : unpaired.resolveSecrets .evaluation (fun _ => none) =
      .ok (.ofList [("database", ⟨"a\x7db", .insecureDefault⟩)]) := by
    decide +kernel
  refine ⟨document, _, rendered, resolves, fun agrees => ?_⟩
  have means := (agrees_iff rendered resolves).1 agrees _ List.mem_cons_self "PASSWORD" "database"
    (by decide +kernel) ⟨"database", "DATABASE_PASSWORD", some "a\x7db"⟩ (by decide +kernel)
    ⟨"a\x7db", .insecureDefault⟩ (by decide +kernel)
  revert means
  decide +kernel

end Compose

end Convoy
