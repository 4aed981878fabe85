import MediaGateway.Connection.State
import MediaGateway.PortRange
import MediaGateway.Scheduler
import MediaGateway.Session

/-!
# Configuration
-/

namespace MediaGateway

/-- What the gateway needs to know to build connections. -/
structure GatewayConfig where
  /-- The address that sockets are bound to. -/
  bindAddress : IpAddress := .loopback
  /-- The address that descriptions advertise instead. -/
  externalAddress : Option String := none
  /-- The first port for media. -/
  portLow : UInt16 := PortRange.defaultLow
  /-- The last port for media. -/
  portHigh : UInt16 := PortRange.defaultHigh
  /-- How long connections live. -/
  timeouts : Timeouts := .default
  /-- The number of heartbeats in a second. -/
  resolution : UInt32 := Scheduler.defaultResolution
  /-- The jitter buffers. -/
  jitter : JitterConfig := .default
  /-- What audio sessions can do. -/
  audio : FormatTable := Profile.audio
  /-- What video sessions can do; without it there are none. -/
  video : Option FormatTable := none
  /-- The certificate, if there is one. -/
  fingerprint : Option Sdp.Fingerprint := none
  /-- How many idle connections of each type are kept. -/
  poolSize : Nat := 16

namespace GatewayConfig

/-- The set-up of the sessions of a medium, if the gateway has such sessions. -/
def session? (c : GatewayConfig) : MediaType → Option SessionConfig
  | .audio => some ⟨c.jitter, c.audio, c.fingerprint⟩
  | .video => c.video.map fun formats => ⟨c.jitter, formats, c.fingerprint⟩
  | .application => none

end GatewayConfig

end MediaGateway
