import RuntimeSync.Core.Types

/-!
# Expected samples

Which peers should deliver on which channel, and within which times.
-/

namespace RuntimeSync

structure ChannelTiming where
  publishDeadlineNs : Int64 := 0
  receiveCutoffNs : Int64 := 0
  ttlNs : Int64 := 0
  payloadType : Str := []
  schemaId : Str := []
  allowEmptyPayload : Bool := true
  deriving DecidableEq

structure ExpectedSample where
  peerId : Str := []
  channel : Str := []
  required : Bool := true
  timing : ChannelTiming := {}
  deriving DecidableEq

end RuntimeSync
