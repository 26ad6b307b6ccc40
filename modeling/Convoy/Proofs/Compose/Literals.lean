import Convoy.Proofs.Compose.Document
import Convoy.Proofs.Compose.Interpolation
import Convoy.Proofs.Numeral

/-!
# Literal texts of containers

Texts of a service that are meant as they stand are escaped in the document, so that every runtime
gives them back: the arguments of the command, the variables without a secret, and the path that a
healthcheck asks for. None of them depends on a variable of the environment, whatever references
look like to the runtime.
-/

namespace Convoy.Compose

/-! ## Commands of healthchecks -/

/-- What a healthcheck runs, up to the path that it asks for. -/
def fetch (port : UInt16) (scheme : Scheme) : String :=
  "wget -q -O /dev/null" ++ (if scheme == .https then " --no-check-certificate" else "") ++ " " ++
    scheme.name ++ "://127.0.0.1:" ++ toString port.toNat

/-- The number of the port adds nothing but digits. -/
theorem notMem_fetch {character : Char} (digit : character.isDigit = false)
    (opening : ∀ scheme : Scheme, character ∉ ("wget -q -O /dev/null" ++
      (if scheme == .https then " --no-check-certificate" else "") ++ " " ++
      scheme.name ++ "://127.0.0.1:").toList) (port : UInt16) (scheme : Scheme) :
    character ∉ (fetch port scheme).toList := by
  have digits : character ∉ (toString port.toNat).toList := fun member => by
    rw [Text.isDigit_of_mem_toDigits (by simpa using member)] at digit
    cases digit
  unfold fetch
  rw [String.toList_append, List.mem_append, not_or]
  exact ⟨opening scheme, digits⟩

theorem dollar_notMem_fetch (port : UInt16) (scheme : Scheme) :
    '$' ∉ (fetch port scheme).toList :=
  notMem_fetch (by decide) (by rintro (_ | _) <;> decide +kernel) port scheme

theorem checkCommand_httpGet (path : String) (port : UInt16) (scheme : Scheme) :
    checkCommand (.httpGet path port scheme) = fetch port scheme ++ escape path ++ " || exit 1" :=
  rfl

/-- The command of a healthcheck is the escaped form of the command that is meant. -/
theorem toList_checkCommand (path : String) (port : UInt16) (scheme : Scheme) :
    (checkCommand (.httpGet path port scheme)).toList =
      escapeChars (fetch port scheme ++ path ++ " || exit 1").toList := by
  have ending : '$' ∉ " || exit 1".toList := by decide +kernel
  rw [checkCommand_httpGet]
  simp only [String.toList_append, escapeChars_append, escape, String.toList_ofList]
  rw [escapeChars_eq_self (dollar_notMem_fetch port scheme), escapeChars_eq_self ending]

/-! ## Documents -/

/-- A runtime gives back the texts of a service that are meant as they stand, and reads no variable
for them. -/
structure KeepsLiterals (interpolation : Interpolation) (environment : Environment)
    (service : Service) (made : Container) : Prop where
  command : made.command.map (interpolation.replace environment ·.toList) =
    service.command.map (Replacement.literal ·.toList)
  assignment : ∀ name value, service.environment.get? name = some value →
    service.secrets.get? name = none →
      ∃ text, made.environment.get? name = some text ∧
        interpolation.replace environment text.toList = .literal value.toList
  path : ∀ probe path port scheme, healthProbe? service = some probe →
    probe.handler = .httpGet path port scheme →
      ∃ check, made.healthcheck = some check ∧
        interpolation.replace environment check.command.toList =
          .literal (fetch port scheme ++ path ++ " || exit 1").toList

variable {topology : Topology} {profile : Profile} {document : Document} {service : Service}

/-- Whatever the environment holds and whatever references mean, each service of the document is
left with the literal texts of its declaration. -/
theorem literals_survive (interpolation : Interpolation) (environment : Environment)
    (rendered : ofTopology topology profile = .ok document)
    (declared : service ∈ topology.services) :
    ∃ made, document.services.lookup service.name = some made ∧
      KeepsLiterals interpolation environment service made := by
  obtain ⟨made, given, found⟩ := exists_container rendered declared
  have shown := shows_of_container given
  refine ⟨made, found, ?_⟩
  constructor
  case command =>
    rw [shown.command, List.map_map]
    exact List.map_congr_left fun argument _ => interpolation.replace_escape environment argument
  case assignment =>
    intro name value holds free
    refine ⟨escape value, ?_, interpolation.replace_escape environment value⟩
    rw [(fields_of_container given).1, get?_environment, free, holds]
    rfl
  case path =>
    intro probe path port scheme probed handled
    refine ⟨_, shown.healthcheck.trans (congrArg _ probed), ?_⟩
    dsimp only
    rw [handled, toList_checkCommand]
    exact interpolation.replace_escapeChars environment _

/-- A service whose texts are full of dollars. One of its variables also has a secret. -/
def dollars : Service where
  name := "app"
  role := .appServer
  image := ""
  command := ["run", "$$", "cost$", "$\x7bHOME\x7d"]
  endpoint := none
  environment := .ofList [("PRICE", "$5 $\x7bX\x7d$$$"), ("PASSWORD", "$HOME")]
  secrets := .ofList [("PASSWORD", "database")]
  dependsOn := []
  probes := { ProbeSet.none with
    readiness := some (.ofHandler (.httpGet "/$\x7bHOME\x7d/$" 8000 .https)) }
  volumes := []
  replicas := 1
  readinessTimeout := .ofSeconds 30

def priced.blueprint : Blueprint where
  name := "stack"
  services := [dollars]
  volumes := .empty
  secrets := .ofList [⟨"database", "DATABASE_PASSWORD", some "secret"⟩]
  edge := .standard

def priced : Topology := ⟨priced.blueprint, by decide +kernel⟩

/-- Every variable has a value that would show. -/
theorem priced_literals_survive :
    ∃ document made,
      ofTopology priced .evaluation = .ok document ∧
        document.services.lookup "app" = some made ∧
        made.command.map (braces.replace (fun _ => some "shown") ·.toList) =
          ["run", "$$", "cost$", "$\x7bHOME\x7d"].map (Replacement.literal ·.toList) ∧
        (∃ text, made.environment.get? "PRICE" = some text ∧
          braces.replace (fun _ => some "shown") text.toList =
            .literal "$5 $\x7bX\x7d$$$".toList) ∧
        ∃ check, made.healthcheck = some check ∧
          braces.replace (fun _ => some "shown") check.command.toList =
            .literal (fetch 8000 .https ++ "/$\x7bHOME\x7d/$" ++ " || exit 1").toList := by
  obtain ⟨document, rendered⟩ : ∃ document, ofTopology priced .evaluation = .ok document :=
    exists_ofTopology_iff.2 (by decide +kernel)
  have declared : dollars ∈ priced.services := List.mem_singleton_self dollars
  obtain ⟨made, found, keeps⟩ :=
    literals_survive braces (fun _ => some "shown") rendered declared
  refine ⟨document, made, rendered, found, keeps.command, ?_, ?_⟩
  · exact keeps.assignment "PRICE" _ (by decide +kernel) (by decide +kernel)
  · exact keeps.path _ _ _ _ rfl rfl

end Convoy.Compose
