import SqlBoundary.Text.Basic

/-! # Durations

A duration in nanoseconds is written in milliseconds with three decimals. It is first rounded to
28 significant digits and then to the decimals; ties go to the even neighbour both times. A
negative duration keeps its sign even when it is written as zero.
-/

namespace SqlBoundary.Duration

/-- The nearest whole quotient, the even one of two that are equally near. -/
def roundDiv (n d : Nat) : Nat :=
  let quotient := n / d
  let excess := 2 * (n % d)
  if d < excess || (excess = d && quotient % 2 = 1) then quotient + 1 else quotient

def precision : Nat := 28

/-- The number rounded to its leading digits. -/
def leading (n : Nat) : Nat :=
  let unit := Nat.pow 10 ((Text.ofNat n).length - precision)
  roundDiv n unit * unit

/-- Thousandths as a decimal number. -/
def decimal (thousandths : Nat) : Text :=
  let fraction := Text.ofNat (thousandths % 1000)
  Text.ofNat (thousandths / 1000) ++ '.' :: List.replicate (3 - fraction.length) '0' ++ fraction

def milliseconds (nanoseconds : Int) : Text :=
  let digits := decimal (roundDiv (leading nanoseconds.natAbs) 1000)
  if nanoseconds < 0 then '-' :: digits else digits

def report (nanoseconds : Int) : Text :=
  "Time: ".toList ++ milliseconds nanoseconds ++ " ms\n".toList

end SqlBoundary.Duration
