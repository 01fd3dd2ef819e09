import Mathlib.Data.UInt
import Mathlib.Data.Rat.Floor

/-!
# Values shared by the runtime

The source's `std::string` is a sequence of bytes and nothing more; names
arrive from the wire, so no encoding may be assumed of them.
-/

namespace RuntimeSync

abbrev Str := List UInt8

/-! `byte` and `text` are the ASCII character and string literals of the source. -/

def byte (literal : Char) : UInt8 := literal.toNat.toUInt8

def text (literal : String) : Str := literal.toByteArray.data.toList

/-! The enumerations below have `uint8_t` as their underlying type, and both are
cast from a byte or an integer that nothing has checked.  A value that is none
of the named ones can therefore occur, and is kept as the byte it is. -/

structure ClockQuality where
  code : UInt8
  deriving DecidableEq

namespace ClockQuality

def ok : ClockQuality := ⟨0⟩
def degraded : ClockQuality := ⟨1⟩
def bad : ClockQuality := ⟨2⟩
def unknown : ClockQuality := ⟨3⟩

end ClockQuality

structure ProducerStatus where
  code : UInt8
  deriving DecidableEq

namespace ProducerStatus

def success : ProducerStatus := ⟨0⟩
def timeout : ProducerStatus := ⟨1⟩
def failed : ProducerStatus := ⟨2⟩
def skipped : ProducerStatus := ⟨3⟩
def userFallback : ProducerStatus := ⟨4⟩
def unknown : ProducerStatus := ⟨255⟩

end ProducerStatus

/-- Only the code assigns a sample status, so its values are the named ones. -/
inductive SampleStatus where
  | fresh
  | missing
  | late
  | wrongCycle
  | duplicate
  | badSchema
  | badPayload
  | senderClockBad
  | senderReportedFail
  | transportError
  deriving DecidableEq

structure ClockState where
  clockOk : Bool := false
  offsetNs : Int64 := 0
  uncertaintyNs : UInt64 := 0
  quality : ClockQuality := .unknown
  source : Str := []
  deriving DecidableEq

/-- The test that guards arming and starting a session. -/
def ClockState.Usable (clock : ClockState) : Prop :=
  clock.clockOk = true ∧ clock.quality ≠ .bad

instance (clock : ClockState) : Decidable clock.Usable :=
  inferInstanceAs (Decidable (_ ∧ _))

structure RuntimeState where
  running : Bool := false
  zenohConnected : Bool := false
  currentCycle : UInt64 := 0
  jitterNs : Int64 := 0
  state : Str := []
  reason : Str := []
  deriving DecidableEq

/-! ## Double precision

What the runtime computes in `double` are the scalings around chrony's decimal
numbers and around the configured frequency.  No result below depends on how
these operations round, so they are an interface. -/

class DoubleArith (D : Type) extends OfScientific D, Neg D, Add D, Mul D, Div D where
  isfinite : D → Bool
  le : D → D → Bool
  fabs : D → D
  /-- `std::llround`. -/
  llround : D → Int64
  /-- `static_cast<int64_t>`. -/
  truncate : D → Int64
  /-- `is >> value` on a stream that holds the text; `none` when the stream fails. -/
  scan : Str → Option D

def isDigit (c : UInt8) : Bool := byte '0' ≤ c && c ≤ byte '9'

def digitsValue (digits : Str) : ℕ :=
  digits.foldl (fun n c ↦ 10 * n + (c - byte '0').toNat) 0

/-- Plain decimals, as chrony prints them: a sign, digits, a point, digits. -/
def scanDecimal (s : Str) : Option ℚ :=
  let s := s.dropWhile (· == byte ' ')
  let negative := s.head? == some (byte '-')
  let s := if negative then s.tail else s
  let whole := s.takeWhile isDigit
  let s := s.dropWhile isDigit
  let fraction := if s.head? == some (byte '.') then s.tail.takeWhile isDigit else []
  if whole = [] ∧ fraction = [] then none
  else
    let magnitude : ℚ := digitsValue (whole ++ fraction) / 10 ^ fraction.length
    some (if negative then -magnitude else magnitude)

/-- Exact arithmetic.  On decimals of the size chrony prints, scaling to
nanoseconds and rounding gives what `double` gives. -/
instance : DoubleArith ℚ where
  isfinite _ := true
  le x y := decide (x ≤ y)
  fabs x := |x|
  llround x := Int64.ofInt (if x < 0 then -⌊-x + 1 / 2⌋ else ⌊x + 1 / 2⌋)
  truncate x := Int64.ofInt (if x < 0 then ⌈x⌉ else ⌊x⌋)
  scan := scanDecimal

end RuntimeSync
