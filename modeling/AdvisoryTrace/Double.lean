/-!
# Doubles

The binary64 numbers of IEEE 754 and the operations the analysis computes with: the four
operations rounded to nearest with ties to even, comparison, rounding to an integer with halves
away from zero, and the saturating conversion to a byte.

A double is not a number, an infinity, or a finite value `±m · 2^e` with a significand `m` of at
most 53 bits and `-1074 ≤ e ≤ 971`. The significand has exactly 53 bits unless `e` is the least
exponent (the subnormals and the two zeros), so each finite double is written one way only.

An operation on finite doubles computes the exact rational result and rounds it (`ofRat`):
to the nearest double, an exact half to the even significand, and to an infinity beyond the
largest double. An exact zero takes the sign the standard gives it. Payloads of not-a-number
are not kept, since no operation here reads them.
-/

namespace AdvisoryTrace

namespace Double

/-- A finite double `(-1)^negative · significand · 2^exponent`, in the one form the format
allows: the significand is below `2^53` (`0x20000000000000`) and, but at the least exponent, at
least `2^52` (`0x10000000000000`). -/
structure Finite where
  negative : Bool
  significand : Nat
  exponent : Int
  significand_lt : significand < 0x20000000000000
  exponent_ge : -1074 ≤ exponent
  exponent_le : exponent ≤ 971
  normal : 0x10000000000000 ≤ significand ∨ exponent = -1074
  deriving DecidableEq

end Double

/-- A binary64 number. -/
inductive Double where
  | nan
  | infinity (negative : Bool)
  | finite (x : Double.Finite)
  deriving DecidableEq

namespace Double

/-- The zero of the given sign. -/
def Finite.zero (negative : Bool) : Finite :=
  ⟨negative, 0, -1074, by decide, Int.le_refl _, by decide, .inr rfl⟩

/-- The absolute value `significand · 2^exponent`. -/
def Finite.magnitude (x : Finite) : Rat := x.significand * 2 ^ x.exponent

/-- The value of a finite double; both zeros are `0`. -/
def Finite.toRat (x : Finite) : Rat := if x.negative then -x.magnitude else x.magnitude

/-- The value of a double that is finite. -/
def toRat? : Double → Option Rat
  | .finite x => some x.toRat
  | _ => none

/-- A non-negative rational rounded to the nearest natural number, an exact half to the even
one. -/
def roundHalfEven (a : Rat) : Nat :=
  let n := a.floor.toNat
  if a - n < 1 / 2 then n
  else if 1 / 2 < a - n then n + 1
  else if n % 2 = 0 then n else n + 1

/-- The exponent of the leading bit of a positive rational `a`, the `k` with
`2^k ≤ a < 2^(k+1)`: that of its numerator less that of its denominator, or one less. -/
def log2 (a : Rat) : Int :=
  let k : Int := a.num.natAbs.log2 - a.den.log2
  if 2 ^ k ≤ a then k else k - 1

/-- The exponent of the last bit a positive rational keeps as a double: 52 bits below its
leading one, and never below the subnormals' `-1074`. -/
def quantum (a : Rat) : Int := max (-1074) (log2 a - 52)

theorem quantum_ge (a : Rat) : -1074 ≤ quantum a := Int.le_max_left _ _

/-- The finite double `±significand · 2^exponent`, brought to the form the format allows: while
the significand has fewer than 53 bits above the least exponent, it doubles as the exponent
falls. -/
def Finite.normalize (negative : Bool) (significand : Nat) (exponent : Int)
    (hm : significand < 0x20000000000000) (hlo : -1074 ≤ exponent) (hhi : exponent ≤ 971) : Finite :=
  if hn : 0x10000000000000 ≤ significand ∨ exponent = -1074 then
    ⟨negative, significand, exponent, hm, hlo, hhi, hn⟩
  else
    Finite.normalize negative (2 * significand) (exponent - 1) (by omega) (by omega) (by omega)
termination_by (exponent + 1074).toNat
decreasing_by omega

/-- A positive rational as a double of the given sign: rounded to nearest with ties to even,
and an infinity beyond the largest double. -/
def roundPositive (negative : Bool) (a : Rat) : Double :=
  let e := quantum a
  let m := roundHalfEven (a / 2 ^ e)
  if hm : m < 0x20000000000000 then
    if he : e ≤ 971 then .finite (.normalize negative m e hm (quantum_ge a) he)
    else .infinity negative
  -- the rounding carried into a 54th bit: the significand is halved and the exponent grows
  else if he : e + 1 ≤ 971 then
    .finite ⟨negative, 0x10000000000000, e + 1, by decide, by have := quantum_ge a; omega, he,
      .inl (by decide)⟩
  else .infinity negative

/-- A rational as a double: rounded as `roundPositive` does, and an exact zero with the sign
the operation gives it. -/
def ofRat (q : Rat) (zeroNegative : Bool) : Double :=
  if q < 0 then roundPositive true (-q)
  else if 0 < q then roundPositive false q
  else .finite (.zero zeroNegative)

/-- A natural number as a double. -/
def ofNat (n : Nat) : Double := ofRat n false

instance (n : Nat) : OfNat Double n := ⟨ofNat n⟩

/-- A decimal literal `m · 10^±e` as the nearest double. -/
instance : OfScientific Double where
  ofScientific m s e := ofRat (if s then (m : Rat) / 10 ^ e else (m : Rat) * 10 ^ e) false

/-- The opposite: the sign flips, and not-a-number stays so. -/
def neg : Double → Double
  | .nan => .nan
  | .infinity s => .infinity !s
  | .finite x => .finite { x with negative := !x.negative }

/-- The rounded sum. Opposite infinities have none; an exact zero is negative only when both
terms are. -/
def add : Double → Double → Double
  | .nan, _ => .nan
  | _, .nan => .nan
  | .infinity s, .infinity t => if s = t then .infinity s else .nan
  | .infinity s, .finite _ => .infinity s
  | .finite _, .infinity t => .infinity t
  | .finite x, .finite y => ofRat (x.toRat + y.toRat) (x.negative && y.negative)

/-- The rounded product, with the sign of the two signs combined. An infinity times a zero is
not a number. -/
def mul : Double → Double → Double
  | .nan, _ => .nan
  | _, .nan => .nan
  | .infinity s, .infinity t => .infinity (s ^^ t)
  | .infinity s, .finite y => if y.significand = 0 then .nan else .infinity (s ^^ y.negative)
  | .finite x, .infinity t => if x.significand = 0 then .nan else .infinity (x.negative ^^ t)
  | .finite x, .finite y => ofRat (x.toRat * y.toRat) (x.negative ^^ y.negative)

/-- The rounded quotient, with the sign of the two signs combined. Two infinities or two zeros
give not-a-number; any other value over a zero is an infinity, and over an infinity a zero. -/
def div : Double → Double → Double
  | .nan, _ => .nan
  | _, .nan => .nan
  | .infinity _, .infinity _ => .nan
  | .infinity s, .finite y => .infinity (s ^^ y.negative)
  | .finite x, .infinity t => .finite (.zero (x.negative ^^ t))
  | .finite x, .finite y =>
    if y.significand = 0 then
      if x.significand = 0 then .nan else .infinity (x.negative ^^ y.negative)
    else ofRat (x.toRat / y.toRat) (x.negative ^^ y.negative)

instance : Neg Double := ⟨neg⟩
instance : Add Double := ⟨add⟩
instance : Sub Double := ⟨fun a b => add a (neg b)⟩
instance : Mul Double := ⟨mul⟩
instance : Div Double := ⟨div⟩

/-- The order of the standard: not-a-number is below and above nothing, and the two zeros are
equal. -/
def lt : Double → Double → Bool
  | .nan, _ => false
  | _, .nan => false
  | .infinity s, .infinity t => s && !t
  | .infinity s, .finite _ => s
  | .finite _, .infinity t => !t
  | .finite x, .finite y => decide (x.toRat < y.toRat)

instance : LT Double := ⟨fun a b => a.lt b = true⟩

instance (a b : Double) : Decidable (a < b) := inferInstanceAs (Decidable (a.lt b = true))

/-- The nearest integer, an exact half away from zero. The sign stays, so a value between
`-1/2` and `0` rounds to the negative zero. -/
def round : Double → Double
  | .finite x =>
    let n : Rat := (x.magnitude + 1 / 2).floor.toNat
    ofRat (if x.negative then -n else n) x.negative
  | d => d

/-- The byte a cast gives: truncated toward zero and kept within `0 ..= 255`; not-a-number
gives `0`. -/
def toUInt8 : Double → UInt8
  | .nan => 0
  | .infinity negative => if negative then 0 else 255
  | .finite x => if x.negative then 0 else (min x.magnitude.floor.toNat 255).toUInt8

/-- The double whose bits are `b`: a sign bit, 11 bits of biased exponent and 52 bits of
fraction. -/
def ofBits (b : UInt64) : Double :=
  let n := b.toNat
  let negative := decide (0x8000000000000000 ≤ n)
  let biased := n / 0x10000000000000 % 0x800
  let fraction := n % 0x10000000000000
  have hf : fraction < 0x10000000000000 := Nat.mod_lt _ (by decide)
  have hb : biased < 0x800 := Nat.mod_lt _ (by decide)
  if hs : biased = 0x7FF then (if fraction = 0 then .infinity negative else .nan)
  else if h0 : biased = 0 then
    .finite ⟨negative, fraction, -1074, by omega, Int.le_refl _, by decide, .inr rfl⟩
  else
    .finite ⟨negative, fraction + 0x10000000000000, biased - 1075, by omega, by omega, by omega,
      .inl (by omega)⟩

/-- The double a float holds. -/
def ofFloat (f : Float) : Double := ofBits f.toBits

end Double

end AdvisoryTrace
