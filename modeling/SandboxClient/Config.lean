import SandboxClient.Error
import SandboxClient.Dictionary
import SandboxClient.Decimal.Layout

/-!
# Configurations

How a sandbox, and how a group of sandboxes, is to be started.
-/

namespace SandboxClient

structure SandboxConfig where
  /-- The root address of the service. -/
  baseUrl : Bytes := utf8 "http://localhost:8080"
  extraHeaders : Dictionary Bytes := []
  image : Bytes := utf8 "python:3.11"
  /-- The idle time in seconds after which the service reclaims the sandbox. -/
  autoClearSeconds : Int := 300
  /-- The routing key; one is drawn if none is given. -/
  routeKey? : Option Bytes := none
  /-- The seconds to wait for the sandbox to be alive. -/
  startupTimeout : Int := 180
  memory : Bytes := utf8 "8g"
  cpus : Binary64 := .ofFloat 2
  userId : Bytes := []
  experimentId : Bytes := []
  cluster : Bytes := utf8 "zb"
  projectNamespace : Bytes := []

/-- A bound that a parameter does not keep. -/
def boundFault (name bound got : Bytes) : Error :=
  .invalidParameter (name ++ utf8 " must be " ++ bound ++ utf8 ", got " ++ got)

namespace SandboxConfig

/-- Refuses a configuration that no sandbox can be started with. -/
def validate (config : SandboxConfig) : Except Error Unit :=
  if config.baseUrl.isEmpty then .error (.invalidParameter (utf8 "base_url is empty"))
  else if config.image.isEmpty then .error (.invalidParameter (utf8 "image is empty"))
  else if config.startupTimeout ≤ 0 then
    .error (boundFault (utf8 "startup_timeout") (utf8 "> 0") (Text.integer config.startupTimeout))
  else if config.autoClearSeconds < 0 then
    .error
      (boundFault (utf8 "auto_clear_seconds") (utf8 ">= 0") (Text.integer config.autoClearSeconds))
  else if config.cpus.isAtMostZero then
    .error (boundFault (utf8 "cpus") (utf8 "> 0") (Decimal.Layout.message.render config.cpus))
  else .ok ()

/-- The headers that every request of a sandbox carries. -/
def headers (config : SandboxConfig) (routeKey : Bytes) : Dictionary Bytes :=
  let base := Dictionary.insert (Dictionary.insert [] (utf8 "ROUTE-KEY") routeKey)
    (utf8 "X-Cluster") config.cluster
  let extended := Dictionary.insertAll base config.extraHeaders
  let override := fun (headers : Dictionary Bytes) (name value : Bytes) =>
    if value.isEmpty then headers else Dictionary.insert headers name value
  override
    (override (override extended (utf8 "X-User-Id") config.userId)
      (utf8 "X-Experiment-Id") config.experimentId)
    (utf8 "X-Namespace") config.projectNamespace

end SandboxConfig

/-- The configuration of a group: one template for all members. -/
structure GroupConfig where
  sandbox : SandboxConfig := {}
  size : Int := 2
  /-- How many members are started at the same time. -/
  startConcurrency : Int := 2
  /-- How often the start of a member is tried. -/
  startRetryTimes : Int := 3

/-- Refuses a configuration that no group can be started with. -/
def GroupConfig.validate (config : GroupConfig) : Except Error Unit := do
  config.sandbox.validate
  if config.size < 0 then
    .error (boundFault (utf8 "size") (utf8 ">= 0") (Text.integer config.size))
  else if config.startConcurrency < 1 then
    .error
      (boundFault (utf8 "start_concurrency") (utf8 ">= 1") (Text.integer config.startConcurrency))
  else if config.startRetryTimes < 1 then
    .error
      (boundFault (utf8 "start_retry_times") (utf8 ">= 1") (Text.integer config.startRetryTimes))
  else .ok ()

end SandboxClient
