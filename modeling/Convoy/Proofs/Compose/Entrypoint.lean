import Convoy.Proofs.Address
import Convoy.Proofs.Compose.Document
import Convoy.Proofs.Duration
import Convoy.Proofs.Manifest

/-!
# Entrypoints of containers

A container that has to wait is started through a command that waits for the gates of its service,
named by their texts, as long as the service is willing to wait. The command reads the texts, and
gets the gates from them exactly if no host has a bracket of its own at its ends.
-/

namespace Convoy

open Outcome

namespace Address

/-- Addresses are read back from their texts if each of them is. -/
theorem mapM_read_targets_iff {addresses : List Address} :
    (addresses.map target).mapM read = .ok addresses ↔
      ∀ address ∈ addresses, read? address.target = some address := by
  induction addresses with
  | nil => simp [pure, Except.pure]
  | cons first rest induction =>
    rw [List.map_cons, mapM_cons_eq_ok_iff, List.forall_mem_cons, ← induction, ← read_eq_ok_iff]
    constructor
    · rintro ⟨_, _, now, later, same⟩
      cases same
      exact ⟨now, later⟩
    · rintro ⟨now, later⟩
      exact ⟨first, rest, now, later, rfl⟩

end Address

namespace Compose

theorem foldl_max_timeout {gates : List DependencyGate} {limit : Duration} (longest : Duration)
    (same : ∀ gate ∈ gates, gate.gate.timeout = limit) (some_ : gates ≠ [])
    (least : longest ≤ limit) :
    gates.foldl (fun longest gate => max longest gate.gate.timeout) longest = limit := by
  induction gates generalizing longest with
  | nil => exact absurd rfl some_
  | cons gate rest induction =>
    rw [List.forall_mem_cons] at same
    have now : max longest gate.gate.timeout = limit := by
      rw [same.1]
      exact congrArg Duration.mk (Nat.max_eq_right least)
    rw [List.foldl_cons, now]
    cases rest with
    | nil => rfl
    | cons next others =>
      exact induction limit same.2 (List.cons_ne_nil _ _) (Nat.le_refl _)

variable {topology : Topology} {service : Service}

/-- Who has gates waits for all of them, in their order, as long as the service is willing to wait;
who has none does not wait. -/
theorem entrypoint_gates :
    entrypoint (topology.gates service) =
      if topology.gates service = [] then []
      else ["stackgate", "wait-for"] ++ (topology.gates service).map (·.gate.target.target) ++
        ["--timeout", service.readinessTimeout.human, "--"] := by
  unfold entrypoint
  by_cases free : topology.gates service = []
  · simp [free]
  · rw [if_neg (by simpa using free), if_neg free, foldl_max_timeout Duration.zero
      (fun gate member => (Topology.of_mem_gates member).1) free (Nat.zero_le _)]

variable {manifest : Manifest} {profile : Profile} {document : Document}

/-- In the document of a manifest, a service that has to reach others is started through a command
that waits for the service's gates and as long as the service does. The command reads these gates
exactly if no host in them has a bracket at its ends; the other services are started directly. -/
theorem entrypoint_waits_iff
    (described : manifest.toTopology = .ok topology)
    (rendered : ofTopology topology profile = .ok document)
    (declared : service ∈ topology.services) :
    ∃ made, document.services.lookup service.name = some made ∧
      ((∀ dependency ∈ service.dependsOn, dependency.condition ≠ .reachable) →
        made.entrypoint = []) ∧
      ((∃ dependency ∈ service.dependsOn, dependency.condition = .reachable) →
        ∃ texts limit,
          made.entrypoint = ["stackgate", "wait-for"] ++ texts ++ ["--timeout", limit, "--"] ∧
            limit = service.readinessTimeout.human ∧
            Duration.read limit = .ok service.readinessTimeout ∧
            (texts.mapM Address.read =
                .ok ((topology.gates service).map (·.gate.target)) ↔
              ∀ gate ∈ topology.gates service,
                gate.gate.target.host.toList.head? ≠ some '[' ∧
                  gate.gate.target.host.toList.getLast? ≠ some ']')) := by
  obtain ⟨made, given, found⟩ := exists_container rendered declared
  refine ⟨made, found, ?_, ?_⟩
  · intro free
    rw [(fields_of_container given).2, entrypoint_gates,
      if_pos ((Topology.gates_eq_nil_iff declared).2 free)]
  · rintro ⟨dependency, listed, reachable⟩
    have bound : topology.gates service ≠ [] := fun free =>
      (Topology.gates_eq_nil_iff declared).1 free dependency listed reachable
    have texts : (topology.gates service).map (·.gate.target.target) =
        ((topology.gates service).map (·.gate.target)).map Address.target := by
      rw [List.map_map]
      rfl
    refine ⟨(topology.gates service).map (·.gate.target.target), service.readinessTimeout.human,
      ?_, rfl, ?_, ?_⟩
    · rw [(fields_of_container given).2, entrypoint_gates, if_neg bound]
    · obtain ⟨seconds, -, short, limit⟩ :=
        Manifest.readinessTimeout_of_toTopology described declared
      apply Duration.read_human
      rw [limit]
      exact Nat.mul_lt_mul_of_pos_right (Nat.lt_of_le_of_lt short (by decide)) (by decide)
    · rw [texts, Address.mapM_read_targets_iff, List.forall_mem_map]
      refine forall₂_congr fun gate member => ?_
      obtain ⟨target, targetDeclared, listens⟩ := (Topology.of_mem_gates member).2
      have sound := Manifest.endpoint_of_toTopology described targetDeclared listens
      rw [Address.read?_target_eq_some_iff]
      tauto

/-- An application that waits for a database, which listens at a host. -/
def waiting (host : String) : Manifest where
  name := "stack"
  readinessTimeoutSecs := 90
  secrets := .empty
  volumes := .empty
  edge := .standard
  services :=
    [{ ManifestService.ofRole "database" "store" "postgres" with endpoint := some ⟨host, 5432⟩ },
      { ManifestService.ofRole "app" "worker" "worker" with
        command := ["run"]
        dependsOn := [.name "database"] }]

/-- The application as it is meant. -/
def waiting.app : Service :=
  { ManifestService.ofRole "app" "worker" "worker" with
    command := ["run"]
    dependsOn := [.name "database"] : ManifestService }.toService .standard 90 .worker

/-- The stack for a host that needs brackets in a target, and has none of its own. -/
def waiting.plain : Topology := (waiting "::1").toTopology.toOption.get (by decide +kernel)

theorem waiting_reads_gates :
    ∃ document made, (waiting "::1").toTopology = .ok waiting.plain ∧
      ofTopology waiting.plain .evaluation = .ok document ∧
      document.services.lookup "app" = some made ∧
      ∃ texts limit,
        made.entrypoint = ["stackgate", "wait-for"] ++ texts ++ ["--timeout", limit, "--"] ∧
          texts.mapM Address.read = .ok [⟨"::1", 5432⟩] ∧
          Duration.read limit = .ok (.ofSeconds 90) := by
  have described : (waiting "::1").toTopology = .ok waiting.plain := eq_ok_get _
  obtain ⟨document, rendered⟩ : ∃ document, ofTopology waiting.plain .evaluation = .ok document :=
    exists_ofTopology_iff.2 (by decide +kernel)
  have declared : waiting.app ∈ waiting.plain.services := by decide +kernel
  obtain ⟨made, found, -, waits⟩ := entrypoint_waits_iff described rendered declared
  obtain ⟨texts, limit, shape, -, time, reads⟩ :=
    waits ⟨⟨"database", .reachable⟩, by decide +kernel⟩
  refine ⟨document, made, described, rendered, found, texts, limit, shape, ?_, time⟩
  have gates : (waiting.plain.gates waiting.app).map (·.gate.target) = [⟨"::1", 5432⟩] := by
    decide +kernel
  rw [← gates]
  exact reads.2 (by decide +kernel)

/-- The stack for a host that has brackets of its own. -/
def waiting.bracketed : Topology := (waiting "[::1]").toTopology.toOption.get (by decide +kernel)

theorem bracketed_reads_other_gates :
    ∃ document made text, (waiting "[::1]").toTopology = .ok waiting.bracketed ∧
      ofTopology waiting.bracketed .evaluation = .ok document ∧
      document.services.lookup "app" = some made ∧
      made.entrypoint = ["stackgate", "wait-for", text, "--timeout", "1m 30s", "--"] ∧
      (waiting.bracketed.gates waiting.app).map (·.gate.target) = [⟨"[::1]", 5432⟩] ∧
      Address.read text = .ok ⟨"::1", 5432⟩ := by
  have described : (waiting "[::1]").toTopology = .ok waiting.bracketed := eq_ok_get _
  obtain ⟨document, rendered⟩ :
      ∃ document, ofTopology waiting.bracketed .evaluation = .ok document :=
    exists_ofTopology_iff.2 (by decide +kernel)
  have declared : waiting.app ∈ waiting.bracketed.services := by decide +kernel
  obtain ⟨made, given, found⟩ := exists_container rendered declared
  refine ⟨document, made, "[[::1]]:5432", described, rendered, found, ?_, by decide +kernel,
    by decide +kernel⟩
  rw [(fields_of_container given).2]
  decide +kernel

end Compose

end Convoy
