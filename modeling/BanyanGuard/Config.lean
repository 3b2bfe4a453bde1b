import BanyanGuard.Errors

/-!
# Configuration and wire types

`Config` with the fields the modelled functions read, `setDefaults`, and the parts of the
heartbeat response the SDK acts on.  Durations and byte counts are `Int`; a callback is
modelled by whether it is set.
-/

namespace BanyanGuard

/-- `UpdateStrategy` is a Go `int`: besides its two constants every other value exists. -/
abbrev UpdateStrategy := Int

/-- The constant `UpdateBackend`. -/
def UpdateStrategy.updateBackend : UpdateStrategy := 0

/-- The constant `UpdateFrontend`. -/
def UpdateStrategy.updateFrontend : UpdateStrategy := 1

structure ManagedComponent where
  slug : String
  dir : String
  strategy : UpdateStrategy
  /-- Whether `PostUpdate` is set. -/
  postUpdate : Bool
  deriving DecidableEq, Repr

structure GracePolicy where
  maxOfflineDuration : Int
  deriving DecidableEq, Repr

structure OTAConfig where
  enabled : Bool
  autoUpdate : Bool
  os : String
  arch : String
  maxArtifactBytes : Int
  onUpdateProgress : Bool
  onUpdateResult : Bool
  onUpdateFailure : Bool
  deriving DecidableEq, Repr

structure Config where
  serverURL : String
  projectSlug : String
  componentSlug : String
  gracePolicy : GracePolicy
  ota : OTAConfig
  managedComponents : List ManagedComponent
  deriving DecidableEq, Repr

/-- One hour, in nanoseconds. -/
def hour : Int := 3600 * 1000000000

/-- `setDefaults` for the fields above: a zero value is replaced by its default. -/
def Config.setDefaults (c : Config) : Config :=
  { c with
    gracePolicy.maxOfflineDuration :=
      if c.gracePolicy.maxOfflineDuration = 0 then 72 * hour else c.gracePolicy.maxOfflineDuration
    ota.maxArtifactBytes :=
      if c.ota.maxArtifactBytes = 0 then 500 * 1024 * 1024 else c.ota.maxArtifactBytes }

theorem Config.setDefaults_ne_zero (c : Config) :
    c.setDefaults.gracePolicy.maxOfflineDuration ≠ 0 ∧
      c.setDefaults.ota.maxArtifactBytes ≠ 0 := by
  simp only [setDefaults]
  constructor <;> split <;> simp_all [hour]

/-- `updateInfo`, one entry of a heartbeat response's `updates`. -/
structure UpdateInfo where
  component : String
  latest : String
  updateAvailable : Bool
  deriving DecidableEq, Repr

/-- `heartbeatResponse`. -/
structure HeartbeatResponse where
  status : String
  updateFrozen : Bool
  updates : List UpdateInfo
  deriving DecidableEq, Repr

end BanyanGuard
