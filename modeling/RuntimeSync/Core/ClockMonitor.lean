import RuntimeSync.Core.Types

/-!
# The clock monitor

`parseTracking` and `parseSources` read what `chronyc tracking` and
`chronyc sources -v` print, and `evaluateSnapshot` decides from the two
whether the clock may start a session.
-/

namespace RuntimeSync

inductive ClockPhase where
  | preflight
  | inFlight
  deriving DecidableEq

structure ClockPolicy where
  groundTimeSource : Str := []
  requireClockOkToStart : Bool := true
  preflightMaxOffsetNs : Int64 := 2000000
  preflightMaxUncertaintyNs : UInt64 := 2000000
  inFlightAllowStep : Bool := false

structure ChronyTracking (D : Type) [DoubleArith D] where
  ok : Bool := false
  referenceId : Str := []
  referenceName : Str := []
  systemTimeS : D := 0.0
  rootDelayS : D := 0.0
  rootDispersionS : D := 0.0
  leapStatus : Str := []
  error : Str := []

structure ChronySources where
  ok : Bool := false
  selectedSource : Str := []
  sources : List Str := []
  error : Str := []

structure ClockMonitorSnapshot (D : Type) [DoubleArith D] where
  tracking : ChronyTracking D := {}
  sources : ChronySources := {}

structure ClockMonitorResult where
  state : ClockState := {}
  startAllowed : Bool := false
  sourceIsGround : Bool := false
  phase : ClockPhase := .preflight
  reason : Str := []

namespace ClockMonitor

/-! ## Text -/

/-- `std::isspace` in the C locale. -/
def isspace (c : UInt8) : Bool := c == byte ' ' || (9 ≤ c && c ≤ 13)

def trim (s : Str) : Str := ((s.dropWhile isspace).reverse.dropWhile isspace).reverse

def lower (s : Str) : Str :=
  s.map fun c ↦ if byte 'A' ≤ c && c ≤ byte 'Z' then c + 32 else c

def startsWith (s first : Str) : Bool := first.isPrefixOf s

/-- `s.find(pattern) != npos`; the empty pattern is found in every string. -/
def finds (s pattern : Str) : Bool := decide (pattern <:+: s)

/-- The lines `std::getline` delivers: the text between newlines, without an
empty line after a final newline. -/
def getlines : Str → List Str
  | [] => []
  | c :: cs =>
      if c = 10 then [] :: getlines cs
      else match getlines cs with
        | [] => [[c]]
        | line :: lines => (c :: line) :: lines

/-- `is >> word`: the target keeps its value when only blanks are left. -/
def extractWord (s word : Str) : Str :=
  match s.dropWhile isspace with
  | [] => word
  | rest => rest.takeWhile fun c ↦ !isspace c

def valueAfterColon (line : Str) : Str :=
  match line.dropWhile (· != byte ':') with
  | [] => []
  | _ :: rest => trim rest

def parseParenthesizedName (value : Str) : Str :=
  match value.dropWhile (· != byte '(') with
  | [] => []
  | _ :: rest =>
      if byte ')' ∈ rest then trim (rest.takeWhile (· != byte ')')) else []

/-! ## Parsing -/

section Parsing

variable (D : Type) [DoubleArith D]

def parseFirstDouble (s : Str) : D := (DoubleArith.scan s).getD 0.0

/-- The body of the loop over the lines of `chronyc tracking`. -/
def parseTrackingLine (tracking : ChronyTracking D) (line : Str) : ChronyTracking D :=
  let line := trim line
  let value := valueAfterColon line
  if startsWith line (text "Reference ID") then
    { tracking with
      referenceId := extractWord value tracking.referenceId
      referenceName := parseParenthesizedName value }
  else if startsWith line (text "System time") then
    let magnitude := parseFirstDouble D value
    { tracking with
      systemTimeS :=
        if finds (lower value) (text "slow") then -DoubleArith.fabs magnitude
        else DoubleArith.fabs magnitude }
  else if startsWith line (text "Root delay") then
    { tracking with rootDelayS := parseFirstDouble D value }
  else if startsWith line (text "Root dispersion") then
    { tracking with rootDispersionS := parseFirstDouble D value }
  else if startsWith line (text "Leap status") then
    { tracking with leapStatus := value }
  else tracking

def parseTracking (s : Str) : ChronyTracking D :=
  let tracking := (getlines s).foldl (parseTrackingLine D) {}
  if tracking.leapStatus ≠ [] then { tracking with ok := true }
  else
    { tracking with
      ok := false
      error := text "chronyc tracking output missing leap status" }

end Parsing

/-- The body of the loop over the lines of `chronyc sources -v`. -/
def parseSourcesLine (sources : ChronySources) (line : Str) : ChronySources :=
  match trim line with
  | mode :: state :: rest =>
      if rest = [] then sources
      else if mode ≠ byte '^' ∧ mode ≠ byte '=' ∧ mode ≠ byte '#' then sources
      else
        let name := extractWord rest []
        if name = [] then sources
        else
          { sources with
            sources := sources.sources ++ [name]
            selectedSource := if state = byte '*' then name else sources.selectedSource }
  | _ => sources

def parseSources (s : Str) : ChronySources :=
  let sources := (getlines s).foldl parseSourcesLine {}
  if sources.selectedSource ≠ [] then { sources with ok := true }
  else
    { sources with
      ok := false
      error := text "chronyc sources output has no selected source" }

/-! ## The gate -/

def sourceMatches (candidate expected : Str) : Bool :=
  if expected = [] then true
  else
    let c := lower candidate
    let e := lower expected
    c == e || finds c e || finds e c

section Gate

variable {D : Type} [DoubleArith D]

def secondsToNs (seconds : D) : Int64 := DoubleArith.llround (seconds * 1000000000.0)

def uncertaintyNs (tracking : ChronyTracking D) : UInt64 :=
  let rootDistanceS :=
    DoubleArith.fabs tracking.rootDispersionS + DoubleArith.fabs tracking.rootDelayS * 0.5
  (DoubleArith.llround (rootDistanceS * 1000000000.0)).toUInt64

def evaluateSnapshot (snapshot : ClockMonitorSnapshot D) (policy : ClockPolicy)
    (phase : ClockPhase) : ClockMonitorResult :=
  let offsetNs := secondsToNs snapshot.tracking.systemTimeS
  let uncertaintyNs := uncertaintyNs snapshot.tracking
  let trackingOk := snapshot.tracking.ok
  let sourcesOk := snapshot.sources.ok
  let leapOk := lower snapshot.tracking.leapStatus == text "normal"
  let offsetOk := decide (offsetNs.abs ≤ policy.preflightMaxOffsetNs)
  let uncertaintyOk := decide (uncertaintyNs ≤ policy.preflightMaxUncertaintyNs)
  let sourceIsGround :=
    sourceMatches snapshot.sources.selectedSource policy.groundTimeSource ||
      sourceMatches snapshot.tracking.referenceName policy.groundTimeSource ||
      sourceMatches snapshot.tracking.referenceId policy.groundTimeSource
  let reasons : List Str :=
    (if !trackingOk then
      [if snapshot.tracking.error = [] then text "chronyc tracking unavailable"
        else snapshot.tracking.error] else []) ++
    (if !sourcesOk then
      [if snapshot.sources.error = [] then text "chronyc sources unavailable"
        else snapshot.sources.error] else []) ++
    (if trackingOk && !leapOk then
      [text "leap status is " ++ snapshot.tracking.leapStatus] else []) ++
    (if !sourceIsGround then [text "selected source is not ground station"] else []) ++
    (if !offsetOk then [text "clock offset exceeds preflight gate"] else []) ++
    (if !uncertaintyOk then [text "clock uncertainty exceeds preflight gate"] else [])
  let healthy := trackingOk && sourcesOk && leapOk && sourceIsGround && offsetOk && uncertaintyOk
  let quality : ClockQuality :=
    if !healthy && trackingOk && sourcesOk && leapOk && sourceIsGround &&
        (offsetOk || uncertaintyOk) then .degraded
    else if healthy then .ok
    else .bad
  let reason :=
    if reasons = [] then text "clock synchronized to ground station"
    else (text "; ").intercalate reasons
  { state :=
      { clockOk := healthy
        offsetNs := offsetNs
        uncertaintyNs := uncertaintyNs
        quality := quality
        source :=
          if snapshot.sources.selectedSource = [] then snapshot.tracking.referenceName
          else snapshot.sources.selectedSource }
    startAllowed := healthy || !policy.requireClockOkToStart
    sourceIsGround := sourceIsGround
    phase := phase
    reason :=
      if phase = .inFlight ∧ policy.inFlightAllowStep = false then
        reason ++ text "; in-flight step is disabled"
      else reason }

variable (D) in
/-- `runner` runs a command and returns its exit status and its output. -/
def sample (runner : Str → ℤ × Str) (policy : ClockPolicy) (phase : ClockPhase) :
    ClockMonitorResult :=
  let tracking := runner (text "chronyc tracking")
  let sources := runner (text "chronyc sources -v")
  let snapshot : ClockMonitorSnapshot D :=
    { tracking :=
        if tracking.1 = 0 then parseTracking D tracking.2
        else { error := text "chronyc tracking failed: " ++ tracking.2 }
      sources :=
        if sources.1 = 0 then parseSources sources.2
        else { error := text "chronyc sources failed: " ++ sources.2 } }
  evaluateSnapshot snapshot policy phase

end Gate

end ClockMonitor

end RuntimeSync
