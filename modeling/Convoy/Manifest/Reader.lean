import Convoy.Manifest
import Convoy.Yaml.Decode
import Convoy.Yaml.Node.Reader

/-!
# Reading a manifest

A manifest is the one document of a YAML text. Fields that nobody knows do not matter, and a field
that occurs twice is refused. All that can go wrong has one name: the text is no manifest.
-/

namespace Convoy.Manifest

open Yaml

/-- Numbers of seconds have 64 bits. -/
def seconds : Decoder Nat := Decoder.natural 0x10000000000000000

/-- Counts have 32 bits. -/
def count : Decoder Nat := Decoder.natural 0x100000000

def scheme : Decoder Scheme := Decoder.choice [("http", .http), ("https", .https)]

def address : Decoder Address := fun document node => do
  let fields ← Fields.ofNode ["host", "port"] document node
  return {
    host := ← fields.required "host" Decoder.text
    port := ← fields.required "port" Decoder.port }

def httpTarget : Decoder HttpTarget := fun document node => do
  let fields ← Fields.ofNode ["path", "port", "scheme"] document node
  return {
    path := ← fields.required "path" Decoder.text
    port := ← fields.required "port" Decoder.port
    scheme := ← fields.usual "scheme" scheme .http }

def tcpTarget : Decoder UInt16 := fun document node => do
  let fields ← Fields.ofNode ["port"] document node
  fields.required "port" Decoder.port

def probe : Decoder ManifestProbe := fun document node => do
  let fields ← Fields.ofNode ["http", "tcp", "initial_delay_secs", "period_secs", "timeout_secs",
    "failure_threshold", "success_threshold"] document node
  let standard := ManifestProbe.standard
  return {
    http := ← fields.usual "http" (Decoder.option httpTarget) standard.http
    tcp := ← fields.usual "tcp" (Decoder.option tcpTarget) standard.tcp
    initialDelaySecs := ← fields.usual "initial_delay_secs" seconds standard.initialDelaySecs
    periodSecs := ← fields.usual "period_secs" seconds standard.periodSecs
    timeoutSecs := ← fields.usual "timeout_secs" seconds standard.timeoutSecs
    failureThreshold := ← fields.usual "failure_threshold" count standard.failureThreshold
    successThreshold := ← fields.usual "success_threshold" count standard.successThreshold }

def probes : Decoder (PerKind (Option ManifestProbe)) := fun document node => do
  let fields ← Fields.ofNode ["startup", "liveness", "readiness"] document node
  let read (name : String) := fields.usual name (Decoder.option probe) none
  return {
    startup := ← read "startup"
    liveness := ← read "liveness"
    readiness := ← read "readiness" }

/-! ## Dependencies -/

/-- What a scalar stands for where no type is expected. A tag of the core schema has to fit, and a
local tag is refused. -/
def untyped? (style : Style) (tag : Option String) (text : String) : Option Value :=
  let resolved := Scalar.resolve text
  match tag with
  | none => if style == .plain then some resolved else some (.text text)
  | some name =>
    if name == coreTag "bool" then
      match resolved with
      | .boolean value => some (.boolean value)
      | _ => none
    else if name == coreTag "int" then (Scalar.integer? text).map .integer
    else if name == coreTag "float" then if Scalar.isNumber text then some .number else none
    else if name == coreTag "null" then if Scalar.isNull text then some .null else none
    else if name.startsWith "!" then none
    else some (.text text)

/-- Whether an untyped value has a form that can be kept: integers have at most 64 bits. -/
def isKept : Value → Bool
  | .integer value => -0x8000000000000000 ≤ value && value < 0x10000000000000000
  | _ => true

/-- Whether a collection carries a local tag. -/
def isLocal (tag : Option String) : Bool := tag.any (·.startsWith "!")

/-- Goes through an untyped value. It may be nested only so deep, and aliases may be followed only
so often; the result tells how many more may be. -/
def passUntyped? (document : Document) : Nat → Nat → Node → Option Nat
  | depth, aliases, node => do
    let (allowed, target) ←
      match node with
      | .alias anchor =>
        if aliases == 0 then none else some (aliases - 1, ← document.anchored? anchor)
      | other => some (aliases, other)
    match depth, target with
    | _, .scalar style tag text =>
      if (untyped? style tag text).any isKept then some allowed else none
    | inner + 1, .sequence tag items =>
      if isLocal tag then none else items.foldlM (passUntyped? document inner) allowed
    | inner + 1, .mapping tag pairs =>
      if isLocal tag then none
      else
        (pairs.flatMap fun pair => [pair.1, pair.2]).foldlM (passUntyped? document inner) allowed
    | _, _ => none

/-- The value of an untyped scalar. -/
def untypedScalar : Decoder Value := fun document node => do
  match ← document.follow? node with
  | .scalar style tag text => untyped? style tag text
  | _ => none

/-- An untyped scalar that has to be a text. -/
def untypedText : Decoder String := fun document node => do
  match ← untypedScalar document node with
  | .text text => some text
  | _ => none

/-- The place of a name in a list of names; the place itself may also be written as a number. A name
that is not in the list has no place. -/
def place? (names : List String) : Value → Option (Option Nat)
  | .text name => some (names.idxOf? name)
  | .integer value => if 0 ≤ value then some (some value.toNat) else none
  | _ => none

/-- A condition: its name, or a mapping from its name to nothing. -/
def condition : Decoder Condition := fun document node => do
  let conditions : List Condition := [.reachable, .completed]
  let names := conditions.map (·.name)
  match ← document.follow? node with
  | .mapping _ [(key, value)] =>
    let found ← place? names (← untypedScalar document key)
    if (← untypedScalar document value) == .null then conditions[← found]? else none
  | _ => conditions[← names.idxOf? (← untypedText document node)]?

/-- The collections around a dependency leave room for this many more inside it. -/
def dependencyDepth : Nat := 124

/-- A dependency: a name, or a mapping with a name and perhaps a condition. -/
def dependency : Decoder ManifestDependency := fun document node => do
  let _ ← passUntyped? document dependencyDepth (100 * document.size) node
  match ← document.follow? node with
  | .mapping _ pairs =>
    let placed ← pairs.mapM fun pair => do
      return (← place? ["service", "condition"] (← untypedScalar document pair.1), pair.2)
    let values (number : Nat) := (placed.filter (·.1 == some number)).map (·.2)
    match values 0, values 1 with
    | [service], [] => return .detailed (← untypedText document service) .reachable
    | [service], [chosen] =>
      return .detailed (← untypedText document service) (← condition document chosen)
    | _, _ => none
  | _ => return .name (← untypedText document node)

/-! ## Services and the whole manifest -/

/-- A mapping from texts to values, of which the last with a key counts. -/
def dictionary {α : Type} (decode : Decoder α) : Decoder (Dictionary α) := fun document node =>
  (Decoder.table decode document node).map .ofList

def mount : Decoder Mount := fun document node => do
  let fields ← Fields.ofNode ["volume", "path", "read_only"] document node
  return {
    volume := ← fields.required "volume" Decoder.text
    path := ← fields.required "path" Decoder.text
    readOnly := ← fields.usual "read_only" Decoder.boolean false }

def service : Decoder ManifestService := fun document node => do
  let fields ← Fields.ofNode ["name", "role", "image", "command", "endpoint", "environment",
    "secrets", "depends_on", "probes", "volumes", "replicas", "readiness_timeout_secs"] document node
  return {
    name := ← fields.required "name" Decoder.text
    role := ← fields.required "role" Decoder.text
    image := ← fields.required "image" Decoder.text
    command := ← fields.usual "command" (Decoder.list Decoder.text) []
    endpoint := ← fields.usual "endpoint" (Decoder.option address) none
    environment := ← fields.usual "environment" (dictionary Decoder.text) .empty
    secrets := ← fields.usual "secrets" (dictionary Decoder.text) .empty
    dependsOn := ← fields.usual "depends_on" (Decoder.list dependency) []
    probes := ← fields.usual "probes" probes (.replicate none)
    volumes := ← fields.usual "volumes" (Decoder.list mount) []
    replicas := ← fields.usual "replicas" count 1
    readinessTimeoutSecs :=
      ← fields.usual "readiness_timeout_secs" (Decoder.option seconds) none }

def secret : Decoder ManifestSecret := fun document node => do
  let fields ← Fields.ofNode ["env", "insecure_default"] document node
  return {
    env := ← fields.required "env" Decoder.text
    insecureDefault := ← fields.usual "insecure_default" (Decoder.option Decoder.text) none }

def volume : Decoder String := fun document node => do
  let fields ← Fields.ofNode ["dataset"] document node
  fields.required "dataset" Decoder.text

def edgeSettings : Decoder EdgeSettings := fun document node => do
  let fields ← Fields.ofNode ["tls", "generate_certificate", "metrics", "http_port", "https_port",
    "metrics_port", "upstream", "static_root", "media_root"] document node
  let standard := EdgeSettings.standard
  return {
    tls := ← fields.usual "tls" Decoder.boolean standard.tls
    generateCertificate :=
      ← fields.usual "generate_certificate" Decoder.boolean standard.generateCertificate
    metrics := ← fields.usual "metrics" Decoder.boolean standard.metrics
    httpPort := ← fields.usual "http_port" Decoder.port standard.httpPort
    httpsPort := ← fields.usual "https_port" Decoder.port standard.httpsPort
    metricsPort := ← fields.usual "metrics_port" Decoder.port standard.metricsPort
    upstream := ← fields.usual "upstream" address standard.upstream
    staticRoot := ← fields.usual "static_root" Decoder.text standard.staticRoot
    mediaRoot := ← fields.usual "media_root" Decoder.text standard.mediaRoot }

def manifest : Decoder Manifest := fun document node => do
  let fields ← Fields.ofNode ["name", "readiness_timeout_secs", "secrets", "volumes", "edge",
    "services"] document node
  return {
    name := ← fields.required "name" Decoder.text
    readinessTimeoutSecs := ← fields.usual "readiness_timeout_secs" seconds 30
    secrets := ← fields.usual "secrets" (dictionary secret) .empty
    volumes := ← fields.usual "volumes" (dictionary volume) .empty
    edge := ← fields.usual "edge" edgeSettings .standard
    services := ← fields.usual "services" (Decoder.list service) [] }

/-- Reads a value out of a text that holds one document. -/
def readWith {α : Type} (decode : Decoder α) (text : String) : Except ConfigError α :=
  match (Document.read? text).bind fun document => decode document document.root with
  | some value => .ok value
  | none => .error .unreadable

/-- Reads a manifest. -/
def read (text : String) : Except ConfigError Manifest := readWith manifest text

/-- Reads a probe that stands alone. -/
def readProbe (text : String) : Except ConfigError ManifestProbe := readWith probe text

end Convoy.Manifest
