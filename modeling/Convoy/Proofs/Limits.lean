import Convoy.Proofs.Compose.Document
import Convoy.Proofs.Health.History
import Convoy.Proofs.Manifest
import Convoy.Proofs.Supervisor.Attempts
import Convoy.Proofs.Supervisor.Pacing

/-!
# Numbers within the limits of a manifest

The numbers of a manifest are checked one by one where they are written. Elsewhere they are taken
into thresholds, multiplied and added up, and they decide how often a gate is tried. Here the limits
are carried to these places, where they keep every number in its range.
-/

namespace Convoy

namespace Duration

variable {first second : Duration} {seconds more count most : Nat}

theorem ofSeconds_mono (few : seconds ≤ more) : ofSeconds seconds ≤ ofSeconds more :=
  Nat.mul_le_mul_right _ few

theorem add_le_ofSeconds (firstShort : first ≤ .ofSeconds seconds)
    (secondShort : second ≤ .ofSeconds more) : first + second ≤ .ofSeconds (seconds + more) := by
  rw [le_iff, nanos_add, ofSeconds, Nat.add_mul]
  exact Nat.add_le_add firstShort secondShort

theorem scale_le_ofSeconds (short : first ≤ .ofSeconds seconds) (few : count ≤ most) :
    first.scale count ≤ .ofSeconds (seconds * most) := by
  rw [le_iff, scale, ofSeconds, Nat.mul_right_comm]
  exact Nat.mul_le_mul short few

theorem fits_of_le (short : first ≤ .ofSeconds seconds) (few : seconds < itemLimit) : first.Fits :=
  Nat.lt_of_le_of_lt short (Nat.mul_lt_mul_of_pos_right few (by decide))

end Duration

/-! ## Probes -/

namespace Probe

/-- The numbers of a probe keep to the limits of a manifest. -/
structure Moderate (probe : Probe) : Prop where
  initialDelay : probe.initialDelay ≤ .ofSeconds 600
  period : probe.period ≤ .ofSeconds 300
  failureThreshold : 1 ≤ probe.failureThreshold ∧ probe.failureThreshold ≤ 120
  successThreshold : 1 ≤ probe.successThreshold ∧ probe.successThreshold ≤ 120

/-- Answers to a moderate probe count against the thresholds of the probe itself. -/
theorem Moderate.thresholds_eq {probe : Probe} (moderate : probe.Moderate) :
    Thresholds.ofProbe probe = ⟨probe.failureThreshold, probe.successThreshold⟩ := by
  rw [Thresholds.ofProbe, Nat.max_eq_left moderate.failureThreshold.1,
    Nat.max_eq_left moderate.successThreshold.1]

/-- The periods until a probe gives up take ten hours at most. -/
theorem Moderate.periods_le {probe : Probe} (moderate : probe.Moderate) :
    probe.period.scale probe.failureThreshold ≤ .ofSeconds 36000 := by
  simpa using Duration.scale_le_ofSeconds moderate.period moderate.failureThreshold.2

/-- A probe gives up after ten hours and ten minutes at most. -/
theorem Moderate.course_le {probe : Probe} (moderate : probe.Moderate) :
    probe.initialDelay + probe.period.scale probe.failureThreshold ≤ .ofSeconds 36600 := by
  simpa using Duration.add_le_ofSeconds moderate.initialDelay moderate.periods_le

theorem Moderate.withFailures {probe : Probe} (moderate : probe.Moderate) {failures : Nat}
    (few : 1 ≤ failures ∧ failures ≤ 120) :
    Probe.Moderate { probe with failureThreshold := failures } :=
  { moderate with failureThreshold := few }

theorem moderate_ofHandler (handler : ProbeHandler) : (ofHandler handler).Moderate where
  initialDelay := Nat.zero_le _
  period := Duration.ofSeconds_mono (by decide)
  failureThreshold := by simp [ofHandler]
  successThreshold := by simp [ofHandler]

end Probe

/-- All probes of a set are moderate. -/
def ProbeSet.Moderate (probes : ProbeSet) : Prop :=
  ∀ kind probe, probes.get kind = some probe → probe.Moderate

theorem ManifestProbe.Checked.moderate {probe : ManifestProbe} (checked : probe.Checked) :
    probe.toProbe.Moderate where
  initialDelay := Duration.ofSeconds_mono checked.initialDelay
  period := Duration.ofSeconds_mono checked.period.2
  failureThreshold := checked.failureThreshold
  successThreshold := checked.successThreshold

/-- The probes that follow from the settings of a proxy. -/
theorem EdgeSettings.moderate_probes (settings : EdgeSettings) : settings.probes.Moderate := by
  intro kind probe asked
  cases kind with
  | startup =>
    cases asked
    exact (Probe.moderate_ofHandler _).withFailures (by decide)
  | liveness =>
    cases asked
    exact Probe.moderate_ofHandler _
  | readiness =>
    cases asked
    exact Probe.moderate_ofHandler _

namespace Manifest

variable {manifest : Manifest} {topology : Topology} {service : Service}

/-- The probes of an accepted stack, whether they are written down or follow from settings. -/
theorem moderate_of_toTopology (described : manifest.toTopology = .ok topology)
    (declared : service ∈ topology.services) : service.probes.Moderate := by
  obtain ⟨written, member, role, -, rfl⟩ := (mem_services_of_toTopology described).1 declared
  have checked := (checked_of_toTopology described).services written member
  intro kind probe asked
  unfold ManifestService.toService at asked
  dsimp only at asked
  split at asked
  case isTrue => exact manifest.edge.moderate_probes kind probe asked
  case isFalse =>
    rw [PerKind.get_map] at asked
    obtain ⟨own, declares, rfl⟩ := Option.map_eq_some_iff.1 asked
    exact (checked.probes kind (by cases kind <;> decide) own declares).moderate

theorem replicas_of_toTopology (described : manifest.toTopology = .ok topology)
    (declared : service ∈ topology.services) : 1 ≤ service.replicas ∧ service.replicas ≤ 64 := by
  obtain ⟨written, member, role, -, rfl⟩ := (mem_services_of_toTopology described).1 declared
  exact ((checked_of_toTopology described).services written member).replicas

end Manifest

/-! ## Healthchecks -/

namespace Compose

variable {service : Service} {probe : Probe} {check : Healthcheck}

theorem moderate_of_healthProbe? (moderate : service.probes.Moderate)
    (probed : healthProbe? service = some probe) : probe.Moderate := by
  unfold healthProbe? at probed
  rcases Option.or_eq_some_iff.1 probed with readiness | ⟨-, liveness⟩
  · exact moderate .readiness probe readiness
  · exact moderate .liveness probe liveness

/-- Failures do not count for ten hours and ten minutes at most. -/
theorem startPeriod_le (moderate : service.probes.Moderate)
    (probed : healthProbe? service = some probe) :
    startPeriod service probe ≤ .ofSeconds 36600 := by
  unfold startPeriod
  split
  case h_1 startup asked => exact (moderate .startup startup asked).course_le
  case h_2 =>
    have delayed := (moderate_of_healthProbe? moderate probed).initialDelay
    exact Nat.le_trans delayed (Duration.ofSeconds_mono (by decide))

theorem timely_of_moderate (moderate : service.probes.Moderate) : Timely service :=
  fun _ _ probed _ => Duration.fits_of_le (startPeriod_le moderate probed) (by decide)

/-- A stack that is written down has a document unless a service waits for others and has no
command: its start periods are never too long. -/
theorem exists_ofTopology_iff_of_toTopology {manifest : Manifest} {topology : Topology}
    {profile : Profile} (described : manifest.toTopology = .ok topology) :
    (∃ document, ofTopology topology profile = .ok document) ↔
      ∀ service ∈ topology.services, topology.gates service ≠ [] → service.command ≠ [] := by
  rw [exists_ofTopology_iff]
  refine forall₂_congr fun service declared => and_iff_left ?_
  exact timely_of_moderate (Manifest.moderate_of_toTopology described declared)

end Compose

/-! ## Gates -/

/-- An hour has 360000 times ten milliseconds. -/
theorem Gate.slots_le (gate : Gate) (short : gate.timeout ≤ .ofSeconds 3600) :
    gate.slots ≤ 360000 := by
  rw [slots, ceilDiv_le_iff_le_mul gate.pollInterval_pos]
  calc gate.timeout.nanos
    _ ≤ 3600 * 1000000000 := short
    _ = 10 * 1000000 * 360000 := by decide
    _ ≤ gate.pollInterval.nanos * 360000 := Nat.mul_le_mul_right _ gate.spaced

/-- The time of a gate is what the waiting service is given. -/
theorem Supervisor.timeout_of_gateFor? {supervisor : Supervisor} {service : Service}
    {dependency : String} {gate : Gate}
    (found : supervisor.gateFor? service dependency = some gate) :
    gate.timeout = service.readinessTimeout := by
  obtain ⟨entry, listed, rfl⟩ := Option.map_eq_some_iff.1 found
  obtain ⟨declared, -, gated⟩ := List.mem_filterMap.1 (List.mem_of_find?_eq_some listed)
  have timed : entry.gate.timeout = service.readinessTimeout := by
    unfold Topology.gate? at gated
    split at gated
    case h_1 => nomatch gated
    case h_2 =>
      obtain ⟨target, -, rest⟩ := Option.bind_eq_some_iff.1 gated
      obtain ⟨endpoint, -, made⟩ := Option.bind_eq_some_iff.1 rest
      cases made
      rfl
  rw [← timed, adapted]
  cases supervisor.options.hostOverride <;> rfl

/-! ## Whole stacks -/

/-- The numbers of a service, and those that are computed from them, keep to their ranges. -/
structure Service.Bounded (service : Service) : Prop where
  replicas : 1 ≤ service.replicas ∧ service.replicas ≤ 64
  readinessTimeout : ∃ seconds, 1 ≤ seconds ∧ seconds ≤ 3600 ∧
    service.readinessTimeout = .ofSeconds seconds
  /-- Whatever happens to an instance, answers count against the thresholds of the probe itself. -/
  thresholds : ∀ kind probe, service.probes.get kind = some probe → ∀ events,
    (HealthCourse.ofEvents service.probes events).health.thresholds.get kind =
      some ⟨probe.failureThreshold, probe.successThreshold⟩
  /-- Neither the product nor the sum that a healthcheck is made with is too large. -/
  startup : ∀ probe, service.probes.startup = some probe →
    (probe.period.scale probe.failureThreshold).Fits ∧
      (probe.initialDelay + probe.period.scale probe.failureThreshold).Fits
  healthcheck : ∀ check, Compose.healthcheck? service = some check →
    (∃ probe, Compose.healthProbe? service = some probe ∧
      check.retries = probe.failureThreshold) ∧
    check.startPeriod.Fits ∧ check.startPeriod ≤ .ofSeconds 36600

/-- What a supervisor counts keeps to its range. -/
structure Supervisor.Bounded (supervisor : Supervisor) : Prop where
  /-- Whichever instance is watched, answers count against the thresholds of the probe itself. -/
  thresholds : ∀ history state control, supervisor.Run .monitored history state →
    state.control? = some control → ∀ watched ∈ control.watched, ∀ kind probe,
      (supervisor.probesOf watched.slot).get kind = some probe →
        watched.health.thresholds.get kind =
          some ⟨probe.failureThreshold, probe.successThreshold⟩
  /-- While the stack starts, no service tries a gate more than 360000 times. -/
  attempts : ∀ mail history state, supervisor.Run mail history state →
    ∀ service ∈ supervisor.topology.services, ∀ visit, state.visit? service.name = some visit →
      Counted history service.name visit ∧ visit.attempts ≤ 360000
  /-- Nor does a gate that is waited for by itself take more attempts. -/
  wait : ∀ service ∈ supervisor.topology.services, ∀ dependency gate,
    supervisor.gateFor? service dependency = some gate → ∀ timer connector begun,
      (gate.wait timer connector begun).attempts.length ≤ 360000

namespace Manifest

variable {manifest : Manifest} {topology : Topology} {service : Service}

theorem bounded_service_of_toTopology (described : manifest.toTopology = .ok topology)
    (declared : service ∈ topology.services) : service.Bounded := by
  have moderate := moderate_of_toTopology described declared
  constructor
  case replicas => exact replicas_of_toTopology described declared
  case readinessTimeout => exact readinessTimeout_of_toTopology described declared
  case thresholds =>
    intro kind probe asked events
    rw [HealthCourse.thresholds_ofEvents, PerKind.get_map, asked, Option.map_some,
      (moderate kind probe asked).thresholds_eq]
  case startup =>
    intro probe asked
    have starts := moderate .startup probe asked
    exact ⟨Duration.fits_of_le starts.periods_le (by decide),
      Duration.fits_of_le starts.course_le (by decide)⟩
  case healthcheck =>
    intro check checked
    obtain ⟨probe, probed, rfl⟩ := Option.map_eq_some_iff.1 checked
    have short := Compose.startPeriod_le moderate probed
    exact ⟨⟨probe, probed, rfl⟩, Duration.fits_of_le short (by decide), short⟩

/-- No gate of an accepted stack has time for more attempts, whatever the distance between them. -/
theorem slots_le_of_toTopology (described : manifest.toTopology = .ok topology)
    {supervisor : Supervisor} (supervised : supervisor.topology = topology)
    (declared : service ∈ supervisor.topology.services) {dependency : String} {gate : Gate}
    (found : supervisor.gateFor? service dependency = some gate) : gate.slots ≤ 360000 := by
  rw [supervised] at declared
  obtain ⟨seconds, -, short, timeout⟩ := readinessTimeout_of_toTopology described declared
  apply gate.slots_le
  rw [Supervisor.timeout_of_gateFor? found, timeout]
  exact Duration.ofSeconds_mono short

/-- The probes of the slots that a supervisor watches are moderate. -/
theorem moderate_probesOf (described : manifest.toTopology = .ok topology)
    {supervisor : Supervisor} (supervised : supervisor.topology = topology) (slot : Slot) :
    (supervisor.probesOf slot).Moderate := by
  unfold Supervisor.probesOf
  rw [supervised]
  cases found : topology.service? slot.service with
  | none =>
    intro kind probe asked
    simp [ProbeSet.none] at asked
  | some service =>
    exact moderate_of_toTopology described (Topology.service?_eq_some_iff.1 found).1

/-- A stack that is accepted with the flags of an environment stays within its limits, however it is
supervised. -/
theorem bounded_of_toTopology {environment : Environment}
    (described : (manifest.withFlags environment >>= toTopology) = .ok topology) :
    (∀ service ∈ topology.services, service.Bounded) ∧
      ∀ supervisor : Supervisor, supervisor.topology = topology → supervisor.Bounded := by
  obtain ⟨flagged, -, described⟩ := Outcome.bind_eq_ok_iff.1 described
  refine ⟨fun service => bounded_service_of_toTopology described, fun supervisor supervised => ?_⟩
  constructor
  case thresholds =>
    intro history state control run knows watched member kind probe asked
    have moderate := moderate_probesOf described supervised watched.slot kind probe asked
    rw [run.thresholds_eq knows member, PerKind.get_map, asked, Option.map_some,
      moderate.thresholds_eq]
  case attempts =>
    intro mail history state run service member visit present
    have declared := Topology.service?_eq_some_iff.2 ⟨member, rfl⟩
    obtain ⟨⟨dependency, found⟩, counted, timely⟩ := run.visited declared present
    exact ⟨counted, Nat.le_trans timely
      (slots_le_of_toTopology described supervised member found)⟩
  case wait =>
    intro service member dependency gate found timer connector begun
    exact Nat.le_trans Gate.wait_limited.2
      (slots_le_of_toTopology described supervised member found)

/-- A stack whose application is given as much time as there is. -/
def strained : Manifest where
  name := "stack"
  readinessTimeoutSecs := 30
  secrets := .empty
  volumes := .empty
  edge := .standard
  services :=
    [{ ManifestService.ofRole "db" "store" "postgres" with endpoint := some ⟨"db", 5432⟩ },
     { ManifestService.ofRole "app" "app_server" "app" with
       dependsOn := [.name "db"]
       replicas := 64
       readinessTimeoutSecs := some 3600
       probes :=
         { startup := some
             { ManifestProbe.standard with
               tcp := some 8000
               initialDelaySecs := 600
               periodSecs := 300
               failureThreshold := 120 }
           liveness := none
           readiness := some { ManifestProbe.standard with tcp := some 8000 } } },
     ManifestService.ofRole "front" "edge_proxy" "nginx"]

def strained.environment : Environment
  | "USE_TLS" => some "on"
  | _ => none

def strained.stack : Topology :=
  (strained.withFlags environment >>= toTopology).toOption.get (by decide +kernel)

def strained.app : Service := (stack.service? "app").get (by decide +kernel)

/-- The stack, with no distance between attempts but the least. -/
def strained.supervisor : Supervisor where
  topology := stack
  environments := .empty
  options := { SupervisorOptions.standard with pollInterval := .zero }
  instanceText := toString
  crashText := fun _ => "panicked"

/-- The application tries the gate of the database twice. -/
def strained.tries : List (Duration × Happening) :=
  [(.zero, .resumed "db"),
    (.zero, .startEnded ⟨"db", 0⟩ none),
    (.zero, .resumed "app"),
    (.ofMillis 4, .attemptEnded "app" (some "refused")),
    (.ofMillis 10, .retried "app")]

/-- The start period, the attempts that are due, and the replicas of the application come up to
their limits. -/
theorem strained_bounded :
    (strained.withFlags strained.environment >>= toTopology) = .ok strained.stack ∧
      strained.app ∈ strained.stack.services ∧ strained.app.Bounded ∧
      strained.app.replicas = 64 ∧
      (Compose.healthcheck? strained.app).map (·.startPeriod) = some (.ofSeconds 36600) ∧
      ∃ history state visit, strained.supervisor.Run .monitored history state ∧
        state.visit? strained.app.name = some visit ∧ visit.attempts = 2 ∧
        visit.gate.slots = 360000 ∧ Supervisor.Counted history strained.app.name visit := by
  have described : (strained.withFlags strained.environment >>= toTopology) = .ok strained.stack :=
    Outcome.eq_ok_get _
  have member : strained.app ∈ strained.stack.services := by decide +kernel
  obtain ⟨bounded, supervised⟩ := bounded_of_toTopology described
  obtain ⟨earlier, turn, state, run, tested⟩ :=
    Supervisor.exists_run_of_replay? strained.supervisor .monitored strained.tries
      (fun _ _ state => (state.visit? strained.app.name).any fun (visit : Visit) =>
        decide (visit.attempts = 2 ∧ visit.gate.slots = 360000)) (by decide +kernel)
  obtain ⟨visit, present, passes⟩ := (Option.any_eq_true _ _).1 tested
  obtain ⟨twice, most⟩ := of_decide_eq_true passes
  obtain ⟨counted, -⟩ := (supervised strained.supervisor rfl).attempts .monitored _ state run
    strained.app member visit present
  exact ⟨described, member, bounded strained.app member, by decide +kernel, by decide +kernel,
    earlier ++ [turn], state, visit, run, present, twice, most, counted⟩

end Manifest

end Convoy
