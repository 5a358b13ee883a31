/-!
# Shortest decimal of a double

A finite double `m · 2^e` stands for every real that rounds to it: the interval halfway to its
two neighbours, ends included when `m` is even. Its shortest decimal is the multiple `k · 10^q`
in that interval with the largest `q`; of two such multiples the nearer wins, and an exact tie
goes to the even `k`. All arithmetic here is exact, on natural numbers.

Two layouts write the digits: `scientific` switches to an exponent outside `10^-5 .. 10^16`
and `positional` never does.
-/

namespace AdvisoryTrace.Decimal

/-- Sign, integer significand and binary exponent of a double's bits (zero for NaN and
infinities, which have no decimal). -/
structure Binary where
  negative : Bool
  mantissa : Nat
  exponent : Int
  /-- The lower neighbour is half as far away as the upper one (a power of two above the
  smallest normal binade). -/
  narrowBelow : Bool

/-- Reads the fields of a finite double. -/
def Binary.ofFloat (f : Float) : Binary :=
  let bits : Nat := f.toBits.toNat
  let negative : Bool := bits / Nat.pow 2 63 % 2 == 1
  let biased : Nat := bits / Nat.pow 2 52 % Nat.pow 2 11
  let fraction : Nat := bits % Nat.pow 2 52
  if biased == 0 then
    ⟨negative, fraction, -1074, false⟩
  else
    ⟨negative, fraction + Nat.pow 2 52, (biased : Int) - 1075, fraction == 0 && biased > 1⟩

/-- A decimal `digits · 10^exponent` with a sign; `digits` has no trailing zero unless it is
zero itself. -/
structure SignedDecimal where
  negative : Bool
  digits : Nat
  exponent : Int
  deriving Repr, BEq

/-- Removes trailing zeros of the significand into the exponent. -/
def normalize (k : Nat) (q : Int) : Nat × Int :=
  go k q k
where
  go (k : Nat) (q : Int) : Nat → Nat × Int
    | 0 => (k, q)
    | fuel + 1 => if k ≠ 0 ∧ k % 10 = 0 then go (k / 10) (q + 1) fuel else (k, q)

/-- Ceiling of a quotient of naturals. -/
def ceilDiv (a b : Nat) : Nat := (a + b - 1) / b

/-- Number of decimal digits of `n` (one for zero). -/
def digitCount (n : Nat) : Nat := (Nat.toDigits 10 n).length

/-- The interval of a binary value as numerators over a common denominator:
`(low, value, high, denominator)`. -/
def interval (b : Binary) : Nat × Nat × Nat × Nat :=
  let v := 4 * b.mantissa
  let low := if b.narrowBelow then v - 1 else v - 2
  let high := v + 2
  if b.exponent ≥ 2 then
    let s := Nat.pow 2 (b.exponent - 2).toNat
    (low * s, v * s, high * s, 1)
  else
    (low, v, high, Nat.pow 2 (2 - b.exponent).toNat)

/-- Numerator and denominator of `x / den / 10^q`. -/
def scaleBy (x den : Nat) (q : Int) : Nat × Nat :=
  if q ≥ 0 then (x, den * Nat.pow 10 q.toNat) else (x * Nat.pow 10 (-q).toNat, den)

/-- The multiple of `10^q` chosen in the interval, if there is one. -/
def pickAt (b : Binary) (q : Int) : Option Nat :=
  let (low, v, high, den) := interval b
  let inclusive := b.mantissa % 2 == 0
  let (ln, ld) := scaleBy low den q
  let (hn, hd) := scaleBy high den q
  let (vn, vd) := scaleBy v den q
  let kmin := if inclusive then ceilDiv ln ld else ln / ld + 1
  let kmax := if inclusive then hn / hd else ceilDiv hn hd - 1
  if kmin ≤ kmax ∧ 0 < kmax then
    -- nearest multiple to the value, ties to even
    let below := vn / vd
    let twiceRest := 2 * (vn % vd)
    let near :=
      if twiceRest < vd then below
      else if twiceRest > vd then below + 1
      else if below % 2 == 0 then below else below + 1
    some (max kmin (min kmax near))
  else none

/-- Searches exponents downward from `q` for the first with a multiple in the interval. -/
def searchFrom (b : Binary) (q : Int) : Nat → Option (Nat × Int)
  | 0 => none
  | fuel + 1 =>
    match pickAt b q with
    | some k => some (normalize k q)
    | none => searchFrom b (q - 1) fuel

/-- The shortest decimal that reads back as the double; zero for zero, NaN and infinities. -/
def shortest (f : Float) : SignedDecimal :=
  let b := Binary.ofFloat f
  if b.mantissa == 0 then ⟨b.negative, 0, 0⟩
  else
    let (_, _, high, den) := interval b
    let top : Int := digitCount (high / den) + 1
    match searchFrom b top 800 with
    | some (k, q) => ⟨b.negative, k, q⟩
    | none => ⟨b.negative, 0, 0⟩

/-- `n` zeros. -/
def zeros (n : Nat) : String := String.ofList (List.replicate n '0')

/-- Digits with a point inserted `pointAt` digits from the left (which may be past either end). -/
def withPoint (ds : String) (pointAt : Int) : String :=
  if pointAt ≤ 0 then "0." ++ zeros (-pointAt).toNat ++ ds
  else if pointAt.toNat ≥ ds.length then ds ++ zeros (pointAt.toNat - ds.length)
  else String.ofList (ds.toList.take pointAt.toNat) ++ "." ++
    String.ofList (ds.toList.drop pointAt.toNat)

/-- Sign prefix of a decimal. -/
def signText (d : SignedDecimal) : String := if d.negative then "-" else ""

/-- Positional text of a decimal, with no exponent and no point for whole numbers. -/
def SignedDecimal.positional (d : SignedDecimal) : String :=
  let ds := String.ofList (Nat.toDigits 10 d.digits)
  signText d ++ withPoint ds (ds.length + d.exponent)

/-- Text of a double: positional from `10^-5` to `10^16` (whole numbers end in `.0`),
otherwise one digit, a point, the rest and `e` with the signed exponent (`1e+16`, `1e-7`). -/
def SignedDecimal.scientific (d : SignedDecimal) : String :=
  let ds := String.ofList (Nat.toDigits 10 d.digits)
  let len : Int := ds.length
  let kk := len + d.exponent
  if d.digits == 0 then signText d ++ "0.0"
  else if 0 ≤ d.exponent ∧ kk ≤ 16 then signText d ++ ds ++ zeros d.exponent.toNat ++ ".0"
  else if 0 < kk ∧ kk ≤ 16 then signText d ++ withPoint ds kk
  else if -5 < kk ∧ kk ≤ 0 then signText d ++ withPoint ds kk
  else
    let expText := (if kk > 1 then "+" else "") ++ toString (kk - 1)
    if ds.length == 1 then signText d ++ ds ++ "e" ++ expText
    else signText d ++ String.ofList (ds.toList.take 1) ++ "." ++
      String.ofList (ds.toList.drop 1) ++ "e" ++ expText

/-- Non-finite doubles by name, finite ones through `write`. -/
def floatText (write : SignedDecimal → String) (f : Float) : String :=
  if f.isNaN then "NaN"
  else if f.isInf then (if f < 0 then "-inf" else "inf")
  else write (shortest f)

end AdvisoryTrace.Decimal
