import RuntimeSync.Core.ClockMonitor

/-!
# How the node samples its clock

The clock is read from chrony, or made up from parameters where the provider
is `mock`.  The phase of the mission is a text either way.
-/

namespace RuntimeSync

namespace ClockMonitor

def phaseFromString (s : Str) : ClockPhase :=
  let value := lower (trim s)
  if value = text "in_flight" ∨ value = text "in-flight" ∨ value = text "flight" then .inFlight
  else .preflight

def phaseToString (phase : ClockPhase) : Str :=
  if phase = .inFlight then text "in_flight" else text "preflight"

end ClockMonitor

/-- The members of the node that say where its clock comes from. -/
structure ClockSource where
  provider : Str := text "chrony"
  policy : ClockPolicy := {}
  mockClockOk : Bool := true
  mockClockQuality : Int32 := 0
  mockClockOffsetNs : Int32 := 0
  mockClockUncertaintyNs : Int32 := 0
  mockClockSource : Str := text "mock_ground_station"

/-- The parameter for the phase is read again for each sample. -/
def ClockSource.sampleClock (D : Type) [DoubleArith D] (source : ClockSource)
    (runner : Str → ℤ × Str) (clockPhaseParam : Str) : ClockMonitorResult :=
  let clockPhase := ClockMonitor.phaseFromString clockPhaseParam
  if source.provider = text "mock" then
    { phase := clockPhase
      sourceIsGround := true
      state :=
        { clockOk := source.mockClockOk
          offsetNs := source.mockClockOffsetNs.toInt64
          uncertaintyNs := (max 0 source.mockClockUncertaintyNs).toInt64.toUInt64
          quality := ⟨source.mockClockQuality.toUInt32.toUInt8⟩
          source := source.mockClockSource }
      startAllowed := source.mockClockOk || !source.policy.requireClockOkToStart
      reason :=
        if source.mockClockOk then text "mock clock synchronized to ground station"
        else text "mock clock is not synchronized" }
  else ClockMonitor.sample D runner source.policy clockPhase

/-- Each sample tells the phase of the text that it was taken with. -/
theorem ClockSource.sampleClock_phase (D : Type) [DoubleArith D] (source : ClockSource)
    (runner : Str → ℤ × Str) (clockPhaseParam : Str) :
    (source.sampleClock D runner clockPhaseParam).phase =
      ClockMonitor.phaseFromString clockPhaseParam := by
  rw [sampleClock]
  split
  · rfl
  · rfl

end RuntimeSync
