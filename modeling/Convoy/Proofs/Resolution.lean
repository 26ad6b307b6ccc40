import Convoy.Proofs.Launch

/-!
# Which secrets resolve

Secrets resolve if the profile accepts what there is for each of them; otherwise the first one in
the order of names that it does not accept decides the error. A profile decides about acceptance
only: the value that a secret gets does not depend on it, so that whatever resolves for use resolves
for evaluation to the same values.
-/

namespace Convoy

open Outcome

namespace SecretSpec

/-- The variable of the secret holds a text that counts. -/
def Holds (spec : SecretSpec) (environment : Environment) (value : String) : Prop :=
  environment spec.env = some value ∧ value ≠ ""

/-- The variable of the secret holds nothing that counts. -/
def Lacks (spec : SecretSpec) (environment : Environment) : Prop :=
  environment spec.env = none ∨ environment spec.env = some ""

/-- A profile accepts what there is for a secret. -/
def Accepted (spec : SecretSpec) (environment : Environment) : Profile → Prop
  | .production => ∃ value, spec.Holds environment value ∧ spec.insecureDefault ≠ some value
  | .evaluation =>
    (∃ value, spec.Holds environment value) ∨ ∃ known, spec.insecureDefault = some known

/-- The value of a secret, and where it comes from. -/
inductive HasValue (spec : SecretSpec) (environment : Environment) : SecretValue → Prop
  | supplied {value : String} (held : spec.Holds environment value) :
      HasValue spec environment ⟨value, .environment⟩
  | known {value : String} (lacking : spec.Lacks environment)
      (known : spec.insecureDefault = some value) :
      HasValue spec environment ⟨value, .insecureDefault⟩

/-- What is wrong with a secret that a profile does not accept. -/
inductive HasFault (spec : SecretSpec) (environment : Environment) :
    Profile → SecretError → Prop
  | known {value : String} (held : spec.Holds environment value)
      (known : spec.insecureDefault = some value) :
      HasFault spec environment .production (.insecureDefault spec.name spec.env)
  | missing {profile : Profile} (lacking : spec.Lacks environment) :
      HasFault spec environment profile (.missing spec.name spec.env)

variable {spec : SecretSpec} {environment : Environment} {profile : Profile}

theorem supplied?_eq_some_iff {value : String} :
    spec.supplied? environment = some value ↔ spec.Holds environment value := by
  simp [supplied?, Holds, Option.filter_eq_some_iff]

theorem supplied?_eq_none_iff : spec.supplied? environment = none ↔ spec.Lacks environment := by
  unfold supplied? Lacks
  cases environment spec.env with
  | none => simp
  | some value => simp [Option.filter]

theorem Lacks.not_holds (lacking : spec.Lacks environment) {value : String} :
    ¬ spec.Holds environment value := by
  rintro ⟨held, nonempty⟩
  rcases lacking with absent | empty
  · cases absent.symm.trans held
  · cases empty.symm.trans held
    exact nonempty rfl

/-- A secret is accepted and has a value, or it is not and has a fault. -/
theorem resolve_cases (spec : SecretSpec) (profile : Profile) (environment : Environment) :
    (∃ value, spec.resolve profile environment = .ok value ∧
      spec.Accepted environment profile ∧ spec.HasValue environment value) ∨
    ∃ cause, spec.resolve profile environment = .error cause ∧
      ¬ spec.Accepted environment profile ∧ spec.HasFault environment profile cause := by
  unfold resolve
  cases supply : spec.supplied? environment with
  | some value =>
    have held := supplied?_eq_some_iff.1 supply
    cases profile with
    | evaluation => exact .inl ⟨_, rfl, .inl ⟨value, held⟩, .supplied held⟩
    | production =>
      by_cases known : spec.insecureDefault = some value
      · refine .inr ⟨_, if_pos (beq_iff_eq.2 known), ?_, .known held known⟩
        rintro ⟨other, otherHeld, private_⟩
        cases held.1.symm.trans otherHeld.1
        exact private_ known
      · exact .inl ⟨_, if_neg (mt beq_iff_eq.1 known), ⟨value, held, known⟩, .supplied held⟩
  | none =>
    have lacking := supplied?_eq_none_iff.1 supply
    cases profile with
    | production =>
      refine .inr ⟨_, rfl, ?_, .missing lacking⟩
      rintro ⟨value, held, -⟩
      exact lacking.not_holds held
    | evaluation =>
      cases known : spec.insecureDefault with
      | some value => exact .inl ⟨_, rfl, .inr ⟨value, known⟩, .known lacking known⟩
      | none =>
        refine .inr ⟨_, rfl, ?_, .missing lacking⟩
        rintro (⟨value, held⟩ | ⟨value, other⟩)
        · exact lacking.not_holds held
        · cases known.symm.trans other

theorem hasValue_of_resolve {value : SecretValue}
    (done : spec.resolve profile environment = .ok value) : spec.HasValue environment value := by
  obtain ⟨other, same, -, has⟩ | ⟨cause, failed, -⟩ := spec.resolve_cases profile environment
  · cases same.symm.trans done
    exact has
  · cases failed.symm.trans done

theorem exists_resolve_iff :
    (∃ value, spec.resolve profile environment = .ok value) ↔
      spec.Accepted environment profile := by
  obtain ⟨value, done, accepted, -⟩ | ⟨cause, failed, refused, -⟩ :=
    spec.resolve_cases profile environment
  · exact iff_of_true ⟨value, done⟩ accepted
  · refine iff_of_false ?_ refused
    rintro ⟨value, done⟩
    cases failed.symm.trans done

theorem hasFault_of_resolve {cause : SecretError}
    (failed : spec.resolve profile environment = .error cause) :
    ¬ spec.Accepted environment profile ∧ spec.HasFault environment profile cause := by
  obtain ⟨value, done, -⟩ | ⟨other, same, faulty⟩ := spec.resolve_cases profile environment
  · cases done.symm.trans failed
  · cases same.symm.trans failed
    exact faulty

/-- A profile has no say in the value of a secret. -/
theorem HasValue.unique {value other : SecretValue}
    (has : spec.HasValue environment value) (otherHas : spec.HasValue environment other) :
    value = other := by
  cases has with
  | supplied held =>
    cases otherHas with
    | supplied otherHeld =>
      cases held.1.symm.trans otherHeld.1
      rfl
    | known lacking => exact absurd held lacking.not_holds
  | known lacking known =>
    cases otherHas with
    | supplied otherHeld => exact absurd otherHeld lacking.not_holds
    | known _ otherKnown =>
      cases known.symm.trans otherKnown
      rfl

theorem Accepted.evaluation (accepted : spec.Accepted environment .production) :
    spec.Accepted environment .evaluation := by
  obtain ⟨value, held, -⟩ := accepted
  exact .inl ⟨value, held⟩

/-- What resolves for use resolves for evaluation to the same. -/
theorem resolve_evaluation {value : SecretValue}
    (done : spec.resolve .production environment = .ok value) :
    spec.resolve .evaluation environment = .ok value := by
  have accepted := exists_resolve_iff.1 ⟨value, done⟩
  obtain ⟨other, tried⟩ := exists_resolve_iff.2 accepted.evaluation
  rw [tried, (hasValue_of_resolve done).unique (hasValue_of_resolve tried)]

end SecretSpec

namespace SecretRegistry

variable {registry : SecretRegistry} {environment : Environment} {profile : Profile}

/-- A registry that is built from declarations has each under its own name. -/
theorem name_of_get?_ofList {specs : List SecretSpec} {name : String} {spec : SecretSpec}
    (declared : (ofList specs).get? name = some spec) : spec.name = name := by
  rw [ofList, Dictionary.get?_ofList, List.lookup_eq_some_iff] at declared
  obtain ⟨before, after, split, -⟩ := declared
  have member : (name, spec) ∈ (specs.map fun spec => (spec.name, spec)).reverse := by
    rw [split]
    exact List.mem_append_right before List.mem_cons_self
  obtain ⟨other, -, same⟩ := List.mem_map.1 (List.mem_reverse.1 member)
  cases same
  rfl

/-- If a resolution fails, the first secret in the order of names that does not resolve decides the
error. -/
theorem exists_first_of_resolve {cause : SecretError}
    (failed : registry.resolve profile environment = .error cause) :
    ∃ name spec, registry.get? name = some spec ∧
      spec.resolve profile environment = .error cause ∧
      ∀ earlier other, registry.get? earlier = some other → earlier < name →
        ∃ value, other.resolve profile environment = .ok value := by
  have entries : resolveEntries profile environment registry.entries = .error cause := by
    unfold resolve at failed
    split at failed
    · cases failed
      assumption
    · cases failed
  rw [resolveEntries_eq_mapM] at entries
  obtain ⟨before, ⟨name, spec⟩, after, split, fails, earlier⟩ :=
    exists_first_of_mapM_eq_error entries
  refine ⟨name, spec, ?_, ?_, fun smaller other declared less => ?_⟩
  · rw [Dictionary.get?_eq_some_iff, split]
    exact List.mem_append_right before List.mem_cons_self
  · cases own : spec.resolve profile environment <;> rw [own] at fails <;> cases fails
    rfl
  · obtain ⟨pair, given⟩ := earlier (smaller, other)
      (Dictionary.mem_before_of_lt split (Dictionary.get?_eq_some_iff.1 declared) less)
    obtain ⟨value, given, -⟩ := map_eq_ok_iff.1 given
    exact ⟨value, given⟩

theorem keys_of_resolve {resolved : ResolvedSecrets}
    (done : registry.resolve profile environment = .ok resolved) :
    resolved.keys = registry.keys :=
  map_fst_resolveEntries profile environment registry.entries (resolve_eq_ok_iff.1 done)

/-- What resolves for use resolves for evaluation to the same. -/
theorem resolve_evaluation {resolved : ResolvedSecrets}
    (done : registry.resolve .production environment = .ok resolved) :
    registry.resolve .evaluation environment = .ok resolved := by
  have each : ∀ name spec, registry.get? name = some spec →
      ∃ value, spec.resolve .evaluation environment = .ok value := fun name spec declared =>
    have ⟨value, given⟩ := exists_resolve_iff.1 ⟨resolved, done⟩ name spec declared
    ⟨value, SecretSpec.resolve_evaluation given⟩
  obtain ⟨tried, tries⟩ := exists_resolve_iff.2 each
  rw [tries]
  refine congrArg Except.ok (Dictionary.ext_get? fun name => Option.ext fun value => ?_)
  rw [get?_of_resolve tries, get?_of_resolve done]
  refine exists_congr fun spec => and_congr_right fun declared => ⟨fun trial => ?_,
    SecretSpec.resolve_evaluation⟩
  obtain ⟨other, given⟩ := exists_resolve_iff.1 ⟨resolved, done⟩ name spec declared
  rw [given, ← SecretSpec.resolve_evaluation given, trial]

/-- What resolving the secrets of a registry comes to. -/
structure Resolution (registry : SecretRegistry) (environment : Environment) : Prop where
  /-- It succeeds if the profile accepts every declared secret. -/
  exists_iff : ∀ profile,
    (∃ resolved, registry.resolve profile environment = .ok resolved) ↔
      ∀ name spec, registry.get? name = some spec → spec.Accepted environment profile
  /-- Values are given to the declared secrets and to no other. -/
  keys : ∀ profile resolved, registry.resolve profile environment = .ok resolved →
    resolved.keys = registry.keys
  values : ∀ profile resolved, registry.resolve profile environment = .ok resolved →
    ∀ name spec, registry.get? name = some spec →
      ∃ value, resolved.get? name = some value ∧ spec.HasValue environment value
  /-- A failure is about the first secret that the profile does not accept. -/
  error : ∀ profile cause, registry.resolve profile environment = .error cause →
    ∃ spec, registry.get? spec.name = some spec ∧ ¬ spec.Accepted environment profile ∧
      spec.HasFault environment profile cause ∧
      ∀ name other, registry.get? name = some other → name < spec.name →
        other.Accepted environment profile
  /-- A resolution for use is also one for evaluation. -/
  evaluation : ∀ resolved, registry.resolve .production environment = .ok resolved →
    registry.resolve .evaluation environment = .ok resolved

/-- Secrets resolve as their variables, their known defaults and the profile say. -/
theorem resolution_ofList (specs : List SecretSpec) (environment : Environment) :
    (ofList specs).Resolution environment := by
  constructor
  case exists_iff =>
    intro profile
    rw [exists_resolve_iff]
    simp only [SecretSpec.exists_resolve_iff]
  case keys => exact fun _ _ => keys_of_resolve
  case values =>
    intro profile resolved done name spec declared
    obtain ⟨value, given⟩ := exists_resolve_iff.1 ⟨resolved, done⟩ name spec declared
    exact ⟨value, (get?_of_resolve done).2 ⟨spec, declared, given⟩,
      SecretSpec.hasValue_of_resolve given⟩
  case error =>
    intro profile cause failed
    obtain ⟨name, spec, declared, fails, earlier⟩ := exists_first_of_resolve failed
    obtain ⟨refused, faulty⟩ := SecretSpec.hasFault_of_resolve fails
    obtain rfl := name_of_get?_ofList declared
    exact ⟨spec, declared, refused, faulty, fun name other known before =>
      SecretSpec.exists_resolve_iff.1 (earlier name other known before)⟩
  case evaluation => exact fun _ => resolve_evaluation

end SecretRegistry

end Convoy
