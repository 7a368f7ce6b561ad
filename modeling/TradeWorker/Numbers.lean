import Mathlib.Data.Rat.Floor
import Mathlib.NumberTheory.Padics.PadicVal.Defs

/-!
# Numbers a program computes with

A double may be infinite, or no number at all, and what it stands for is only near what was
asked for. A program written over `Arith` and the four operations has two meanings: with
rationals it computes exactly, with doubles as the machine does.
-/

/-- Why a number stands for no rational. -/
inductive NonFinite where
  | infinite | nan
  deriving DecidableEq, Repr

/-- What a program asks of its numbers besides `+`, `-`, `*`, `/` and the comparisons. -/
class Arith (N : Type) where
  abs : N → N
  /-- The nearest number: a literal, or the outcome of a rounding. -/
  near : ℚ → N
  value : N → Except NonFinite ℚ
  /-- The places after the point when the number is written out in decimals. -/
  decimals : N → ℕ

namespace Arith

/-- It stands for a rational. -/
def HasValue {N : Type} [Arith N] (x : N) : Prop := ∃ q, value x = .ok q

/-! ## Exact numbers -/

instance : Arith ℚ where
  abs x := |x|
  near q := q
  value q := .ok q
  decimals q := max (padicValNat 2 q.den) (padicValNat 5 q.den)

/-! ## Doubles -/

namespace Double

open Float.Model (UnpackedFloat Format)

/-- The nearest double, of two the even one; a rational that is too large gives an infinity. -/
def near (q : ℚ) : Float :=
  if hq : q = 0 then 0
  else
    .ofModel <| .pack <| UnpackedFloat.div Format.binary64
      (.finite (if q < 0 then .negative else .positive) q.num.natAbs 0
        (Int.natAbs_pos.mpr (Rat.num_ne_zero.mpr hq)))
      (.finite .positive q.den 0 q.den_pos)

/-- A finite double is an integer times a power of two. -/
def value (x : Float) : Except NonFinite ℚ :=
  match x.toModel.unpack with
  | .notANumber => .error .nan
  | .infinity _ => .error .infinite
  | .zero _ => .ok 0
  | .finite sign mantissa exponent _ => .ok (sign.apply mantissa * 2 ^ exponent)

/-- The fewest places at which a decimal still reads back as the double; `repr` writes such a
decimal. No double needs more than 1074. -/
def decimals (x : Float) : ℕ :=
  match value x with
  | .error _ => 0
  | .ok q =>
      let reads (digits : ℕ) : Bool :=
        near (⌊q * 10 ^ digits⌋ / 10 ^ digits) == x || near (⌈q * 10 ^ digits⌉ / 10 ^ digits) == x
      ((List.range 1075).find? reads).getD 1074

end Double

instance : Arith Float where
  abs := Float.abs
  near := Double.near
  value := Double.value
  decimals := Double.decimals

@[simp] theorem near_zero : (near 0 : Float) = 0 := by
  show Double.near 0 = 0
  exact dif_pos rfl

/-- A double stands for a rational when the machine calls it finite. -/
theorem hasValue_iff_isFinite (x : Float) : HasValue x ↔ x.isFinite = true := by
  show (∃ q, Double.value x = .ok q) ↔ x.toModel.unpack.isFinite = true
  unfold Double.value Float.Model.UnpackedFloat.isFinite
  cases x.toModel.unpack with
  | notANumber | infinity => simp
  | zero | finite => simp

example : Double.decimals 0.01 = 2 ∧ (Double.near (1 / 100) == 0.01) = true := by decide +kernel

end Arith
