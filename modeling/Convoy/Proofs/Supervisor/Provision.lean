import Convoy.Proofs.Launch
import Convoy.Proofs.Supervisor.Gating

/-!
# What instances are launched with

Each secret is resolved once, and every service has one set of variables made from it. Whenever a
supervisor asks for an instance, at first or again, it hands over the set of the instance's service.
-/

namespace Convoy

/-- The variables of a service: one that is bound to a secret has the secret's value, any other one
its literal value, and there are no more. -/
structure Service.Holds (service : Service) (resolved : ResolvedSecrets)
    (assignments : Dictionary String) : Prop where
  bound : ∀ variable_ secret, service.secrets.get? variable_ = some secret →
    ∃ value, resolved.get? secret = some value ∧
      assignments.get? variable_ = some value.value
  literal : ∀ variable_, service.secrets.get? variable_ = none →
    assignments.get? variable_ = service.environment.get? variable_

namespace Topology

variable {topology : Topology} {profile : Profile} {environment : Environment}
  {resolved : ResolvedSecrets}

theorem holds_of_environmentWith
    (resolves : topology.secrets.resolve profile environment = .ok resolved)
    {service : Service} (declared : service ∈ topology.services)
    {assignments : Dictionary String}
    (own : service.environmentWith resolved = .ok assignments) :
    service.Holds resolved assignments := by
  constructor
  · intro variable_ secret bound
    obtain ⟨value, known⟩ := exists_resolved resolves declared bound
    refine ⟨value, known, ?_⟩
    simp [Service.get?_of_environmentWith own, bound, known]
  · intro variable_ free
    simp [Service.get?_of_environmentWith own, free]

end Topology

namespace Effect

theorem mem_starts {effects : List Effect} {slot : Slot} {given : Dictionary String}
    (member : .request (.start slot given) ∈ effects) : slot ∈ starts effects :=
  List.mem_filterMap.2 ⟨_, member, rfl⟩

theorem exists_of_mem_starts {effects : List Effect} {slot : Slot}
    (asked : slot ∈ starts effects) :
    ∃ given, .request (.start slot given) ∈ effects := by
  obtain ⟨effect, member, start⟩ := List.mem_filterMap.1 asked
  split at start
  · cases start
    exact ⟨_, member⟩
  · cases start

end Effect

namespace Supervisor

open Effect History Outcome

variable {supervisor : Supervisor} {now : Duration} {mail : Mail} {history : List Turn}
  {state next : State} {happening : Happening} {effects : List Effect}
  {slot : Slot} {given : Dictionary String}

theorem launch_provides {service : Service} {index : Nat} {launched : List Instance}
    (asked : .request (.start slot given) ∈ (supervisor.launch service index launched).effects) :
    given = supervisor.environment slot.service := by
  rcases launch_cases supervisor service index launched with
    ⟨-, equal⟩ | ⟨-, -, equal⟩ | ⟨-, -, equal⟩
  · rw [equal] at asked
    cases List.mem_singleton.1 asked
    rfl
  · rw [equal] at asked
    have none := mem_starts asked
    rw [(drain_silent service launched).starts] at none
    cases none
  · rw [equal] at asked
    cases asked

/-- A starting service asks for instances with its own variables. -/
theorem StageStep.provides
    {startup : Startup} {board after : Board} {service : Service} {stage further : Stage}
    (step : StageStep supervisor now startup board service stage happening further after effects)
    (asked : .request (.start slot given) ∈ effects) :
    given = supervisor.environment slot.service := by
  have member := mem_starts asked
  have stages := step.starts member
  cases step with
  | cleared => exact launch_provides asked
  | launched =>
    rcases List.mem_cons.1 asked with line | asked
    · cases line
    rcases List.mem_cons.1 asked with event | asked
    · cases event
    exact launch_provides asked
  | begun => simp at stages
  | retried => simp at stages
  | exitedWell => simp at stages
  | _ => cases member

/-- A new instance for a slot is asked for with the variables of the slot's service. -/
theorem relaunch_provides {control : Control} {board : Board} {repair : Repair}
    {failure : Option Failure}
    (asked : .request (.start slot given) ∈
      (supervisor.relaunch control board repair failure).effects) :
    given = supervisor.environment slot.service := by
  have last : .request (.start slot given) ∈ [supervisor.startRequest repair.old.slot] := by
    cases failure with
    | none => exact asked
    | some reason =>
      rcases List.mem_cons.1 asked with line | asked
      · cases line
      exact asked
  cases List.mem_singleton.1 last
  rfl

/-- Whoever asks for an instance, does so with the variables of the instance's service. -/
theorem Step.provides
    (invariant : Invariant supervisor history state)
    (step : Step supervisor now state happening next effects)
    (asked : .request (.start slot given) ∈ effects) :
    given = supervisor.environment slot.service := by
  rcases step.starts_cases invariant (mem_starts asked) with
    ⟨startup, service, stage, further, after, -, -, -, stepped, -⟩ |
    ⟨control, repair, failure, repairing, -, happened, -⟩
  · exact stepped.provides asked
  · cases step with
    | relaunched => exact relaunch_provides asked
    | repaired => cases happened
    | shutdown => cases happened
    | monitoredMeanwhile => cases asked
    | _ => cases repairing

/-- Once its secrets are resolved, a topology has one set of variables for each service and no
other. Each holds the values of the secrets that its service refers to, so that services which share
a secret have the same value, and in every run this set, and nothing else, is handed over whenever
an instance of the service is asked for. -/
theorem environments_provided
    {topology : Topology} {profile : Profile} {environment : Environment}
    {resolved : ResolvedSecrets}
    (resolves : topology.secrets.resolve profile environment = .ok resolved) :
    ∃ environments, topology.environments resolved = .ok environments ∧
      environments.keys.Perm (topology.services.map (·.name)) ∧
      (∀ service ∈ topology.services, ∃ own,
        environments.get? service.name = some own ∧ service.Holds resolved own) ∧
      (∀ first ∈ topology.services, ∀ second ∈ topology.services, ∀ one other secret,
        first.secrets.get? one = some secret → second.secrets.get? other = some secret →
          ∃ firstOwn secondOwn value, environments.get? first.name = some firstOwn ∧
            environments.get? second.name = some secondOwn ∧
            firstOwn.get? one = some value ∧ secondOwn.get? other = some value) ∧
      ∀ options instanceText crashText mail history state,
        (Supervisor.mk topology environments options instanceText crashText).Run mail history state →
          ∀ turn ∈ history, ∀ slot given, .request (.start slot given) ∈ turn.effects →
            ∃ service ∈ topology.services, service.name = slot.service ∧
              environments.get? service.name = some given := by
  obtain ⟨environments, done⟩ := Topology.exists_environments (mapError_eq_ok_iff.2 resolves)
  have holds : ∀ service ∈ topology.services, ∃ own,
      environments.get? service.name = some own ∧ service.Holds resolved own := by
    intro service declared
    obtain ⟨own, given, found⟩ := Topology.get?_of_environments done declared
    exact ⟨own, found, Topology.holds_of_environmentWith resolves declared given⟩
  refine ⟨environments, done, Topology.keys_environments_perm done, holds, ?_, ?_⟩
  · intro first firstDeclared second secondDeclared one other secret firstBound secondBound
    obtain ⟨firstOwn, firstFound, firstHolds⟩ := holds first firstDeclared
    obtain ⟨secondOwn, secondFound, secondHolds⟩ := holds second secondDeclared
    obtain ⟨value, known, firstValue⟩ := firstHolds.bound one secret firstBound
    obtain ⟨same, knownAgain, secondValue⟩ := secondHolds.bound other secret secondBound
    cases known.symm.trans knownAgain
    exact ⟨firstOwn, secondOwn, value.value, firstFound, secondFound, firstValue, secondValue⟩
  · intro options instanceText crashText mail history state run turn member slot given asked
    obtain ⟨earlier, later, rfl⟩ := List.append_of_mem member
    obtain ⟨before, past, made⟩ := run.split rfl
    have step := Step.of_step? made
    obtain ⟨service, declared, -⟩ := past.invariant.ready step (mem_starts asked)
    obtain ⟨serviceDeclared, named⟩ := Topology.service?_eq_some_iff.1 declared
    obtain ⟨own, found, -⟩ := holds service serviceDeclared
    refine ⟨service, serviceDeclared, named, ?_⟩
    rw [step.provides past.invariant asked, Supervisor.environment, ← named, found]
    rfl

/-! ## A shared secret -/

/-- A database and an application that share a secret under different variables. -/
def sealed : Topology where
  name := "stack"
  services :=
    [{ Service.plain "db" .store [] with
       environment := .ofList [("PASSWORD", "literal"), ("ROLE", "primary")]
       secrets := .ofList [("PASSWORD", "database")] },
     { Service.plain "app" .appServer [⟨"db", .reachable⟩] with
       secrets := .ofList [("DB_PASSWORD", "database")] }]
  volumes := .empty
  secrets := .ofList [⟨"database", "DATABASE_PASSWORD", some "known"⟩]
  edge := .standard
  fits := by decide +kernel

/-- The values of its secrets, if none is supplied. -/
def sealed.resolved : ResolvedSecrets := .ofList [("database", ⟨"known", .insecureDefault⟩)]

/-- The variables of its services. -/
def sealed.assignments : Dictionary (Dictionary String) :=
  .ofList [("app", .ofList [("DB_PASSWORD", "known")]),
    ("db", .ofList [("PASSWORD", "known"), ("ROLE", "primary")])]

/-- Its application exits and is stopped, so that a new instance is asked for. -/
def sealed.mend : List (Duration × Happening) :=
  [(.zero, .resumed "db"),
    (.zero, .startEnded ⟨"db", 0⟩ none),
    (.ofSeconds 1, .resumed "app"),
    (.ofSeconds 1, .attemptEnded "app" none),
    (.ofSeconds 1, .resumed "app"),
    (.ofSeconds 2, .startEnded ⟨"app", 0⟩ none),
    (.ofSeconds 2, .joined "db"),
    (.ofSeconds 2, .joined "app"),
    (.ofSeconds 2, .settled),
    (.ofSeconds 3, .exited ⟨⟨"app", 0⟩, 1⟩ (.ok (some 1))),
    (.ofSeconds 3, .handled),
    (.ofSeconds 4, .stopEnded ⟨⟨"app", 0⟩, 1⟩ none)]

theorem sealed_environments_provided :
    sealed.secrets.resolve .evaluation (fun _ => none) = .ok sealed.resolved ∧
      sealed.environments sealed.resolved = .ok sealed.assignments ∧
      ∃ earlier turn state given,
        (Supervisor.mk sealed sealed.assignments .standard toString id).Run .monitored
            (earlier ++ [turn]) state ∧
          ⟨"app", 0⟩ ∈ launches earlier ∧
          .request (.start ⟨"app", 0⟩ given) ∈ turn.effects ∧
          given = .ofList [("DB_PASSWORD", "known")] := by
  have resolves : sealed.secrets.resolve .evaluation (fun _ => none) = .ok sealed.resolved := by
    decide +kernel
  have launches : sealed.environments sealed.resolved = .ok sealed.assignments := by
    decide +kernel
  obtain ⟨environments, done, -, -, -, provided⟩ := environments_provided resolves
  cases done.symm.trans launches
  rcases exists_run_of_replay? ⟨sealed, sealed.assignments, .standard, toString, id⟩ .monitored
    sealed.mend (fun earlier turn _ => decide (⟨"app", 0⟩ ∈ History.launches earlier ∧
      ⟨"app", 0⟩ ∈ starts turn.effects)) (by decide +kernel) with
    ⟨earlier, turn, state, run, tested⟩
  obtain ⟨again, asked⟩ := of_decide_eq_true tested
  obtain ⟨given, requested⟩ := exists_of_mem_starts asked
  obtain ⟨service, -, named, found⟩ := provided _ _ _ _ _ _ run turn
    (List.mem_append_right _ List.mem_cons_self) _ given requested
  refine ⟨resolves, launches, earlier, turn, state, given, run, again, requested, ?_⟩
  rw [named] at found
  have own : sealed.assignments.get? "app" = some (.ofList [("DB_PASSWORD", "known")]) := by
    decide +kernel
  exact Option.some.inj (found.symm.trans own)

end Supervisor

end Convoy
