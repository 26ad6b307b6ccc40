import Convoy.Launch
import Convoy.Plan
import Convoy.Terminal

/-!
# Overviews

Plans and checks as people read them.
-/

namespace Convoy

/-- Lines, each with its end. -/
def Text.lines (lines : List String) : String := String.join (lines.map (· ++ "\n"))

namespace PlannedService

/-- The lines about one service of a plan. -/
def lines (terminal : Terminal) (service : PlannedService) : List String :=
  let kind := if service.oneShot then " (runs to completion)" else ""
  let gates := service.gates.map fun gate =>
    let name := terminal.paint .cyan gate.dependency
    match gate.target, gate.timeoutSecs with
    | some target, some timeout => s!"      waits for {name} at {target} (timeout {timeout}s)"
    | _, _ => s!"      waits for {name} to complete"
  let dependents : List String :=
    if service.dependents.isEmpty then []
    else
      let names := ", ".intercalate service.dependents
      ["      " ++ terminal.paint .dimmed "holds back" ++ " " ++ names]
  ("  " ++ terminal.paint .brightBlue "▸" ++ " " ++ terminal.paint .bold service.name ++ " [" ++
    service.role.name ++ "]" ++ terminal.paint .dimmed kind) :: gates ++ dependents

end PlannedService

namespace Plan

/-- The waves of a plan, numbered from one. -/
def waveLines (terminal : Terminal) (number : Nat) : List (List PlannedService) → List String
  | [] => []
  | wave :: rest =>
    terminal.paint .boldWhite s!"Wave {number}" :: wave.flatMap (·.lines terminal) ++
      waveLines terminal (number + 1) rest

/-- A plan as text. -/
def text (terminal : Terminal) (plan : Plan) : String :=
  terminal.header s!"Start plan: {plan.name}" ++
    Text.lines (waveLines terminal 1 plan.waves ++ [""])

end Plan

namespace SecretReport

/-- The lines about one secret. -/
def lines (terminal : Terminal) (report : SecretReport) : List String :=
  let source :=
    match report.source with
    | .environment => terminal.paint .green "env"
    | .insecureDefault => terminal.paint .yellow "insecure default"
  let users : List String :=
    if report.services.isEmpty then []
    else ["  " ++ Text.padRight 22 "" ++ " used by " ++ ", ".intercalate report.services]
  ("  " ++ terminal.paint .bold (Text.padRight 22 report.name) ++ " " ++
    terminal.paint .dimmed (Text.padRight 28 report.env) ++ " " ++
    terminal.paint .cyan report.fingerprint ++ "  " ++ source) :: users

end SecretReport

namespace Topology

/-- The lines about the paths of the proxy. -/
def routeLines (terminal : Terminal) (topology : Topology) : List String :=
  EdgeSettings.samplePaths.map fun path =>
    let destination := (topology.edge.route path).text
    "    " ++ Text.padRight 16 path ++ " -> " ++ terminal.paint .dimmed destination

/-- What a check of a topology shows. -/
def checkText (terminal : Terminal) (topology : Topology) (profile : Profile)
    (secrets : ResolvedSecrets) : String :=
  let counts := s!"  {topology.services.length} services, {topology.volumes.size} volumes, " ++
    s!"{topology.secrets.size} secrets"
  let (scheme, port) := topology.edge.advertised
  let proxy := "  Edge proxy advertises " ++ scheme.name ++ "://:" ++ toString port.toNat
  terminal.header s!"Topology check: {topology.name} ({profile.name})" ++
    Text.lines (counts :: proxy :: topology.routeLines terminal ++ [""] ++
      (topology.secretReports secrets).flatMap (·.lines terminal) ++ [""]) ++
    terminal.success "Topology is valid"

end Topology

end Convoy
