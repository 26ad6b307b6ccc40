import Convoy.Address
import Convoy.Probe

/-!
# The edge proxy

Settings of the proxy in front of a stack, the probes that follow from them, and where the proxy
sends a request. A file route is built from the kept segments of the request path, so that it cannot
leave its root.
-/

namespace Convoy

/-- What the proxy does with a request. -/
inductive Route where
  /-- Answered by the proxy itself. -/
  | proxyHealth
  /-- A file below the root of static assets. -/
  | staticFile (path : String)
  /-- A file below the root of uploaded media. -/
  | mediaFile (path : String)
  /-- Answered by the metrics exporter. -/
  | metrics
  /-- Forwarded to the application. -/
  | upstream (address : Address)
  /-- The path climbs out of its root. -/
  | rejected
  deriving DecidableEq

namespace Route

def text : Route → String
  | proxyHealth => "proxy"
  | staticFile path => s!"static {path}"
  | mediaFile path => s!"media {path}"
  | metrics => "metrics exporter"
  | upstream address => "upstream " ++ address.plain
  | rejected => "rejected"

end Route

/-- How the proxy is set up. -/
structure EdgeSettings where
  tls : Bool
  generateCertificate : Bool
  metrics : Bool
  httpPort : UInt16
  httpsPort : UInt16
  metricsPort : UInt16
  upstream : Address
  staticRoot : String
  mediaRoot : String
  deriving DecidableEq

namespace EdgeSettings

def standard : EdgeSettings where
  tls := false
  generateCertificate := false
  metrics := false
  httpPort := 8080
  httpsPort := 8443
  metricsPort := 9113
  upstream := ⟨"uwsgi", 3031⟩
  staticRoot := "/usr/share/nginx/html/static"
  mediaRoot := "/usr/share/nginx/html/media"

instance : Inhabited EdgeSettings := ⟨standard⟩

/-- The path that the proxy answers itself. -/
def proxyHealthPath : String := "/nginx_health"

/-- The path that tells how the application fares. -/
def upstreamHealthPath : String := "/uwsgi_health"

def loginPath : String := "/login"

def metricsPath : String := "/metrics"

/-- The paths of which a check shows the routes. -/
def samplePaths : List String :=
  [proxyHealthPath, upstreamHealthPath, loginPath, metricsPath, "/static/", "/media/"]

/-- The scheme and the port under which the stack is reached. -/
def advertised (settings : EdgeSettings) : Scheme × UInt16 :=
  if settings.tls then (.https, settings.httpsPort) else (.http, settings.httpPort)

/-- The ports that are open to the outside. -/
def publishedPorts (settings : EdgeSettings) : List UInt16 :=
  settings.httpPort :: (if settings.tls then [settings.httpsPort] else []) ++
    (if settings.metrics then [settings.metricsPort] else [])

/-- The probes of a proxy that declares none of its own; they use the advertised scheme and port. -/
def probes (settings : EdgeSettings) : ProbeSet :=
  let (scheme, port) := settings.advertised
  let ask (path : String) : Probe := .ofHandler (.httpGet path port scheme)
  { startup := some { ask loginPath with failureThreshold := 30 }
    liveness := some (ask proxyHealthPath)
    readiness := some (ask upstreamHealthPath) }

/-- The part of a request path before its query or fragment. -/
def barePath (path : List Char) : List Char :=
  path.takeWhile fun character => !(character == '?' || character == '#')

/-- The segments of a path that count: neither empty nor a single dot. -/
def segments (path : List Char) : List (List Char) :=
  (Text.splitChars '/' path).filter fun segment => !(segment == [] || segment == ['.'])

/-- Joins a path to a root, unless one of its segments climbs up. -/
def joinUnder (root path : List Char) : Option (List Char) :=
  let kept := segments path
  if kept.contains ['.', '.'] then none
  else some (Text.dropEndWhile (· == '/') root ++ kept.flatMap ('/' :: ·))

/-- Where the proxy sends a request. -/
def route (settings : EdgeSettings) (request : String) : Route :=
  let path := barePath request.toList
  if path == proxyHealthPath.toList then .proxyHealth
  else if settings.metrics && path == metricsPath.toList then .metrics
  else
    match Text.stripStart? "/static/".toList path with
    | some rest =>
      (joinUnder settings.staticRoot.toList rest).elim .rejected (.staticFile <| String.ofList ·)
    | none =>
      match Text.stripStart? "/media/".toList path with
      | some rest =>
        (joinUnder settings.mediaRoot.toList rest).elim .rejected (.mediaFile <| String.ofList ·)
      | none => .upstream settings.upstream

/-- The first element of a list that occurs again later. -/
def repeated? : List UInt16 → Option UInt16
  | [] => none
  | port :: rest => if rest.contains port then some port else repeated? rest

/-- Settings are refused if they contradict themselves. -/
def check (settings : EdgeSettings) : Except TopologyError Unit :=
  if settings.generateCertificate && !settings.tls then
    .error (.edgeProxy "certificate generation requires TLS to be enabled")
  else if [settings.httpPort, settings.httpsPort, settings.metricsPort].contains 0 then
    .error (.edgeProxy "ports cannot be 0")
  else
    match repeated? settings.publishedPorts with
    | some port => .error (.edgeProxy ("port " ++ toString port.toNat ++ " is used twice"))
    | none =>
      if settings.upstream.port == 0 then .error (.edgeProxy "upstream port cannot be 0")
      else .ok ()

/-- What an HTTP probe asks when it does not use a scheme and port. -/
def mismatch? (advertised : Scheme × UInt16) (probe : Probe) : Option (Scheme × UInt16) :=
  match probe.handler with
  | .httpGet _ port scheme => if (scheme, port) == advertised then none else some (scheme, port)
  | .tcpSocket _ => none

/-- A scheme and a port as one word. -/
def schemePort (asked : Scheme × UInt16) : String :=
  asked.1.name ++ ":" ++ toString asked.2.toNat

/-- The HTTP probes of a proxy must use the advertised scheme and port. -/
def checkProbes (settings : EdgeSettings) (service : String) (probes : ProbeSet) :
    Except TopologyError Unit :=
  let found := probes.toList.findSome? fun entry =>
    (mismatch? settings.advertised entry.2).map (entry.1, ·)
  match found with
  | some (kind, asked) =>
    .error (.probeMismatch service kind.name (schemePort settings.advertised) (schemePort asked))
  | none => .ok ()

end EdgeSettings

end Convoy
