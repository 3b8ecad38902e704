/-!
# Weight ranges

Weights are sampling priorities, so a range starts at one or above.
-/

namespace SqlReplay.Weights

/-- Inclusive bounds for weights. -/
structure Range where
  min : UInt32
  max : UInt32
  one_le_min : 1 ≤ min
  min_le_max : min ≤ max

namespace Range

/-- Why two numbers are no range. -/
inductive Fault
  | zeroMin
  | inverted (min max : UInt32)
deriving DecidableEq

/-- The fault in words. -/
def Fault.message : Fault → String
  | zeroMin => "weights.min_weight must be >= 1"
  | inverted min max => s!"weights.min_weight ({min}) must be <= max_weight ({max})"

/-- The range with the given bounds. -/
def ofBounds (min max : UInt32) : Except Fault Range :=
  if h : 1 ≤ min then
    if h' : min ≤ max then .ok ⟨min, max, h, h'⟩ else .error (.inverted min max)
  else .error .zeroMin

/-- The smallest weight where none is configured. -/
def defaultMin : UInt32 := 1

/-- The largest weight where none is configured. -/
def defaultMax : UInt32 := 100

/-- The range where none is configured. -/
def default : Range := ⟨defaultMin, defaultMax, by decide, by decide⟩

instance : Inhabited Range := ⟨default⟩

/-- Whether a weight lies in the range. -/
def contains (range : Range) (weight : UInt32) : Bool :=
  range.min ≤ weight && weight ≤ range.max

/-- The number of weights in the range. -/
def size (range : Range) : Nat := range.max.toNat - range.min.toNat + 1

end Range

end SqlReplay.Weights
