import RuntimeSync.Core.Types

/-!
# Channel profiles

What the transport is asked for on each kind of channel.
-/

namespace RuntimeSync.Weaknet

inductive ChannelKind where
  | realtimeSample
  | health
  | commandConfig
  | bulkDebug
  deriving DecidableEq

inductive Reliability where
  | bestEffort
  | reliable
  deriving DecidableEq

inductive CongestionControl where
  | drop
  | block
  deriving DecidableEq

inductive Priority where
  | realTime
  | interactiveHigh
  | dataHigh
  | dataLow
  | background
  deriving DecidableEq

def Reliability.toString (reliability : Reliability) : Str :=
  if reliability = .reliable then text "reliable" else text "best_effort"

def CongestionControl.toString (congestion : CongestionControl) : Str :=
  if congestion = .block then text "block" else text "drop"

structure ZenohQosProfile where
  reliability : Reliability := .bestEffort
  congestion : CongestionControl := .drop
  priority : Priority := .dataHigh
  express : Bool := false

structure ChannelProfile where
  name : Str := []
  kind : ChannelKind := .realtimeSample
  qos : ZenohQosProfile := {}
  allowAck : Bool := false
  maxQueueCycles : UInt32 := 1
  maxHz : ℚ := 0
  maxBandwidthKbps : UInt32 := 0

def defaultProfileFor (kind : ChannelKind) : ChannelProfile :=
  match kind with
  | .realtimeSample =>
      { kind := kind
        name := text "realtime_sample"
        qos := ⟨.bestEffort, .drop, .realTime, true⟩
        allowAck := false
        maxQueueCycles := 1
        maxHz := 50 }
  | .health =>
      { kind := kind
        name := text "health"
        qos := ⟨.bestEffort, .drop, .dataLow, false⟩
        allowAck := false
        maxQueueCycles := 1
        maxHz := 2 }
  | .commandConfig =>
      { kind := kind
        name := text "command_config"
        qos := ⟨.reliable, .block, .interactiveHigh, true⟩
        allowAck := true
        maxQueueCycles := 0 }
  | .bulkDebug =>
      { kind := kind
        name := text "bulk_debug"
        qos := ⟨.bestEffort, .drop, .background, false⟩
        allowAck := false
        maxQueueCycles := 2
        maxBandwidthKbps := 50 }

/-- The frequencies here are exact, so they are always finite. -/
def validateChannelProfile (profile : ChannelProfile) : Except Str Unit :=
  if profile.name = [] then .error (text "channel profile name is required")
  else if profile.kind = .realtimeSample ∧ profile.allowAck = true then
    .error (text "realtime_sample must not use per-sample ACK")
  else if profile.kind = .realtimeSample ∧ profile.qos.congestion ≠ .drop then
    .error (text "realtime_sample must use drop congestion control")
  else if profile.kind = .realtimeSample ∧ 1 < profile.maxQueueCycles then
    .error (text "realtime_sample max_queue_cycles must be <= 1")
  else if profile.kind = .commandConfig ∧ profile.qos.reliability ≠ .reliable then
    .error (text "command_config must use reliable QoS")
  else if profile.maxHz < 0 then .error (text "max_hz must be finite and non-negative")
  else .ok ()

theorem validateChannelProfile_default (kind : ChannelKind) :
    validateChannelProfile (defaultProfileFor kind) = .ok () := by
  cases kind <;> rfl

end RuntimeSync.Weaknet
