namespace SmartParking.Lib

-- A `datetime` of Python in microseconds of UTC, with a zone or without.
structure Datetime where
  micros : Int
  aware : Bool
  deriving DecidableEq

-- Comparing or subtracting datetimes of two kinds, and subtracting None.
inductive TypeError where
  | compare | subtract | subtractNone
  deriving DecidableEq

namespace Datetime

def gt (a b : Datetime) : Except TypeError Bool :=
  if a.aware = b.aware then .ok (b.micros < a.micros) else .error .compare

def sub (a b : Datetime) : Except TypeError Int :=
  if a.aware = b.aware then .ok (a.micros-b.micros) else .error .subtract

variable {a b : Datetime}

theorem gt_same (same : a.aware = b.aware) : a.gt b = .ok (decide (b.micros < a.micros)) := if_pos same

theorem gt_mixed (mixed : a.aware ≠ b.aware) : a.gt b = .error .compare := if_neg mixed

theorem sub_same (same : a.aware = b.aware) : a.sub b = .ok (a.micros-b.micros) := if_pos same

theorem sub_mixed (mixed : a.aware ≠ b.aware) : a.sub b = .error .subtract := if_neg mixed

end Datetime

end SmartParking.Lib
