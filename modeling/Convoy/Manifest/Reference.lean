import Convoy.Manifest

/-!
# The reference stack

The stack that is used where no manifest is given: a web application with its store and broker, a
one-shot initializer, workers, and a proxy in front.
-/

namespace Convoy.Manifest

/-- The address of a service that listens under its own name. -/
def listening (service : ManifestService) (port : UInt16) : ManifestService :=
  { service with endpoint := some ⟨service.name, port⟩ }

/-- The same service with a liveness probe that connects to a port. -/
def probed (service : ManifestService) (port : UInt16) : ManifestService :=
  { service with
    probes :=
      { startup := none
        liveness := some { ManifestProbe.standard with tcp := some port }
        readiness := none } }

/-- The image that all parts of the application share. -/
def applicationImage : String := "defectdojo/defectdojo-django:latest"

/-- The secrets that all parts of the application use. -/
def applicationSecrets : Dictionary String :=
  .ofList [("DD_SECRET_KEY", "secret_key"), ("DD_CREDENTIAL_AES_256_KEY", "credential_aes_key"),
    ("DD_DATABASE_PASSWORD", "database_password")]

/-- Where the parts of the application find the store and the broker. -/
def applicationAddresses : List (String × String) :=
  [("DD_DATABASE_URL", "postgresql://defectdojo@postgres:5432/defectdojo"),
    ("DD_CELERY_BROKER_URL", "redis://redis:6379/0")]

def postgres : ManifestService :=
  let service := ManifestService.ofRole "postgres" "store" "postgres:16.4-alpine"
  probed (listening { service with
    environment := .ofList [("POSTGRES_DB", "defectdojo"), ("POSTGRES_USER", "defectdojo")]
    secrets := .ofList [("POSTGRES_PASSWORD", "database_password")]
    volumes := [⟨"defectdojo_postgres", "/var/lib/postgresql/data", false⟩] } 5432) 5432

def redis : ManifestService :=
  let service := ManifestService.ofRole "redis" "broker" "redis:7.2.5-alpine"
  probed (listening { service with
    volumes := [⟨"defectdojo_redis", "/data", false⟩] } 6379) 6379

def initializer : ManifestService :=
  let service := ManifestService.ofRole "initializer" "initializer" applicationImage
  { service with
    command := ["stackgate-init"]
    environment := .ofList
      [("DD_INITIALIZE", "true"), ("DD_ADMIN_USER", "admin"),
        ("DD_ADMIN_MAIL", "admin@defectdojo.local"), ("DD_ADMIN_FIRST_NAME", "Admin"),
        ("DD_ADMIN_LAST_NAME", "User"), ("DD_DATABASE_HOST", "postgres"),
        ("DD_DATABASE_PORT", "5432"), ("DD_DATABASE_NAME", "defectdojo"),
        ("DD_DATABASE_USER", "defectdojo"), ("DD_DATABASE_READINESS_TIMEOUT", "30")]
    secrets := applicationSecrets
    dependsOn := [.name "postgres"] }

def uwsgi : ManifestService :=
  let service := ManifestService.ofRole "uwsgi" "app_server" applicationImage
  probed (listening { service with
    command := ["/entrypoint-uwsgi.sh"]
    environment := .ofList
      ([("DD_DEBUG", "False"), ("DD_ALLOWED_HOSTS", "*")] ++ applicationAddresses)
    secrets := applicationSecrets
    dependsOn := [.name "postgres", .name "redis", .detailed "initializer" .completed]
    volumes := [⟨"defectdojo_media", "/app/media", false⟩] } 3031) 3031

/-- A part of the application that works in the background. -/
def background (name role command : String) : ManifestService :=
  { ManifestService.ofRole name role applicationImage with
    command := [command]
    environment := .ofList applicationAddresses
    secrets := applicationSecrets
    dependsOn := [.name "postgres", .name "redis"] }

def nginx : ManifestService :=
  let service := ManifestService.ofRole "nginx" "edge_proxy" "defectdojo/defectdojo-nginx:latest"
  listening { service with
    command := ["/entrypoint-nginx.sh"]
    dependsOn := [.name "uwsgi"]
    volumes := [⟨"defectdojo_media", "/usr/share/nginx/html/media", true⟩] } 8080

/-- The reference stack. -/
def reference : Manifest where
  name := "defectdojo"
  readinessTimeoutSecs := 30
  secrets := .ofList
    [("secret_key", ⟨"DD_SECRET_KEY", some "hhZCp@D28z!n@NED*yB!ROMt+WzsY*iq"⟩),
      ("credential_aes_key", ⟨"DD_CREDENTIAL_AES_256_KEY", some "&91a*agLqesc*0DJ+2*bAbsUZfR*4nLw"⟩),
      ("database_password", ⟨"DD_DATABASE_PASSWORD", some "defectdojo"⟩)]
  volumes := .ofList
    [("defectdojo_postgres", "database"), ("defectdojo_media", "media"),
      ("defectdojo_redis", "broker")]
  edge := .standard
  services :=
    [postgres, redis, initializer, uwsgi,
      background "celerybeat" "scheduler" "/entrypoint-celery-beat.sh",
      background "celeryworker" "worker" "/entrypoint-celery-worker.sh", nginx]

end Convoy.Manifest
