import LcpGateway.Base.Json
import LcpGateway.Base.Text
import Mathlib.Data.Rat.Floor

/-!
# Python numbers

Library `Base`. Arithmetic on decoded numbers, `int()` and `round()`. A finite float is the
rational it denotes and results are exact, so binary rounding is left out; infinities and
not-a-number follow IEEE 754.
-/

namespace LcpGateway.Base

namespace PyFloat

/-- `x + y`. -/
def add : PyFloat → PyFloat → PyFloat
  | .fin a, .fin b => .fin (a + b)
  | .nan, _ => .nan
  | _, .nan => .nan
  | .inf a, .inf b => if a = b then .inf a else .nan
  | .inf a, .fin _ => .inf a
  | .fin _, .inf b => .inf b

/-- `x * y`. -/
def mul : PyFloat → PyFloat → PyFloat
  | .fin a, .fin b => .fin (a * b)
  | .nan, _ => .nan
  | _, .nan => .nan
  | .inf a, .inf b => .inf (a != b)
  | .inf a, .fin r => if r = 0 then .nan else .inf (a != decide (r < 0))
  | .fin r, .inf a => if r = 0 then .nan else .inf (a != decide (r < 0))

/-- `x - i`. -/
def subInt : PyFloat → Int → PyFloat
  | .fin r, i => .fin (r - i)
  | x, _ => x

/-- `i < x`. -/
def gtInt : PyFloat → Int → Bool
  | .fin r, i => i < r
  | .inf negative, _ => !negative
  | .nan, _ => false

end PyFloat

/-- `round(x, digits)` on an exact value: half to even. -/
def roundDigits (digits : Nat) (x : Rat) : Rat :=
  let scaled := x * 10 ^ digits
  let low := ⌊scaled⌋
  let twice := 2 * (scaled - low)
  let nearest := if twice < 1 then low
    else if 1 < twice then low + 1
    else if low % 2 = 0 then low else low + 1
  nearest / 10 ^ digits

/-- `round(x, digits)` on a float. -/
def PyFloat.round (digits : Nat) : PyFloat → PyFloat
  | .fin r => .fin (roundDigits digits r)
  | x => x

/-- The code points of the decimal digits zero, one for each run of ten. -/
def decimalZeros : List Nat :=
  [0x30, 0x660, 0x6f0, 0x7c0, 0x966, 0x9e6, 0xa66, 0xae6, 0xb66, 0xbe6, 0xc66, 0xce6, 0xd66,
    0xde6, 0xe50, 0xed0, 0xf20, 0x1040, 0x1090, 0x17e0, 0x1810, 0x1946, 0x19d0, 0x1a80, 0x1a90,
    0x1b50, 0x1bb0, 0x1c40, 0x1c50, 0xa620, 0xa8d0, 0xa900, 0xa9d0, 0xa9f0, 0xaa50, 0xabf0,
    0xff10, 0x104a0, 0x10d30, 0x11066, 0x110f0, 0x11136, 0x111d0, 0x112f0, 0x11450, 0x114d0,
    0x11650, 0x116c0, 0x11730, 0x118e0, 0x11950, 0x11c50, 0x11d50, 0x11da0, 0x16a60, 0x16ac0,
    0x16b50, 0x1d7ce, 0x1d7d8, 0x1d7e2, 0x1d7ec, 0x1d7f6, 0x1e140, 0x1e2f0, 0x1e950, 0x1fbf0]

/-- The value of a decimal digit. -/
def digitValue (c : Char) : Option Nat :=
  (decimalZeros.find? (fun first ↦ first ≤ c.toNat ∧ c.toNat < first + 10)).map (c.toNat - ·)

/-- The digits of a numeral, single underscores allowed between two of them. -/
def numeralDigits : List Char → Option (List Nat)
  | [] => none
  | [c] => (digitValue c).map (fun d ↦ [d])
  | c :: '_' :: rest => do
    let d ← digitValue c
    let ds ← numeralDigits rest
    return d :: ds
  | c :: rest => do
    let d ← digitValue c
    let ds ← numeralDigits rest
    return d :: ds

/-- The value of an unsigned numeral of at most 4300 digits, the interpreter's limit. -/
def numeralValue (cs : List Char) : Option Nat :=
  match numeralDigits cs with
  | some ds => if ds.length ≤ 4300 then some (ds.foldl (fun n d ↦ 10 * n + d) 0) else none
  | none => none

/-- `int(s)`; `none` is a `ValueError`. -/
def intOfStr (s : String) : Option Int :=
  match (strip s).toList with
  | '-' :: cs => (numeralValue cs).map (fun n ↦ -(n : Int))
  | '+' :: cs => (numeralValue cs).map (fun n ↦ (n : Int))
  | cs => (numeralValue cs).map (fun n ↦ (n : Int))

/-- What `int(value)` does: a value, a `TypeError` or `ValueError`, an `OverflowError`. -/
inductive Converted where
  | value (i : Int)
  | refused
  | overflow
  deriving DecidableEq, Repr

namespace Json

/-- `int(value)`. -/
def toInt : Json → Converted
  | .bool b => .value (if b then 1 else 0)
  | .int i => .value i
  | .float (.fin r) => .value (r.num.tdiv r.den)
  | .float (.inf _) => .overflow
  | .str s => ((intOfStr s).map Converted.value).getD .refused
  | _ => .refused

/-- The value as an operand of arithmetic; any other value makes it raise a `TypeError`. -/
def number? : Json → Option PyFloat
  | .bool b => some (.fin (if b then 1 else 0))
  | .int i => some (.fin i)
  | .float x => some x
  | _ => none

/-- `value - i` on a number: an integer stays one. -/
def subInt : Json → Int → Json
  | .bool b, i => .int ((if b then 1 else 0) - i)
  | .int n, i => .int (n - i)
  | .float x, i => .float (x.subInt i)
  | v, _ => v

end Json

example : intOfStr " 1_000 " = some 1000 := by decide

end LcpGateway.Base
