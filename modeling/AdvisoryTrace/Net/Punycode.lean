/-!
# Punycode

The bootstring encoding of RFC 3492 with its parameters for domain names: base 36, thresholds
from 1 to 26, skew 38, damping 700, initial bias 72, first code point 128.

Encoding writes the basic (ASCII) characters in order, then `-` if there were any, then the
other code points in increasing order, each as the distance its insertion advances the
decoder's state, a variable-length number in base 36 whose digit thresholds follow a bias that
adapts after every code point. Digits are `a` to `z` for 0 to 25 and `0` to `9` for 26 to 35.

Decoding reads the basic characters before the last `-` (all of the text is extended when
there is none, or when the only one stands first), then inserts one code point per number read.
Digits are read in either case. The decoder works in unsigned 32-bit numbers and refuses a text
whose numbers leave that range, whose last number is cut short, or that names a code point that
is not a character (a surrogate, or past `U+10FFFF`). The encoder refuses a label so long that
its distances could leave 32 bits.
-/

namespace AdvisoryTrace.Net.Punycode

/-- One more than the largest unsigned 32-bit number. -/
def wordLimit : Nat := Nat.pow 2 32

/-- The character for a digit value. -/
def digitChar (d : Nat) : Char :=
  if d < 26 then Char.ofNat (0x61 + d) else Char.ofNat (0x30 + d - 26)

/-- The value of a digit, in either case. -/
def digitValue (c : Char) : Option Nat :=
  let n := c.toNat
  if 0x61 ≤ n && n ≤ 0x7A then some (n - 0x61)
  else if 0x41 ≤ n && n ≤ 0x5A then some (n - 0x41)
  else if 0x30 ≤ n && n ≤ 0x39 then some (n - 0x30 + 26)
  else none

/-- The threshold of the digit at weight position `k`: `k - bias` held between 1 and 26. -/
def threshold (k bias : Nat) : Nat :=
  if k ≤ bias then 1 else if bias + 26 ≤ k then 26 else k - bias

theorem threshold_pos (k bias : Nat) : 1 ≤ threshold k bias := by
  unfold threshold
  split
  · omega
  · split <;> omega

theorem threshold_le (k bias : Nat) : threshold k bias ≤ 26 := by
  unfold threshold
  split
  · omega
  · split <;> omega

/-- Scales a distance down by 35 until it is at most 455, counting 36 for each step. -/
def adaptLoop (delta k : Nat) : Nat × Nat :=
  if 455 < delta then adaptLoop (delta / 35) (k + 36) else (delta, k)
termination_by delta
decreasing_by exact Nat.div_lt_self (by omega) (by omega)

/-- The bias after a distance, among `points` code points so far. -/
def adapt (delta points : Nat) (first : Bool) : Nat :=
  let d := if first then delta / 700 else delta / 2
  let d := d + d / points
  let (d, k) := adaptLoop d 0
  k + 36 * d / (d + 38)

/-- Whether a number is the code point of a character. -/
def isScalar (n : Nat) : Bool := n < 0xD800 || (0xDFFF < n && n ≤ 0x10FFFF)

/-- Reads one variable-length number onto `i`, with the weight `w` of the digit at weight
position `k`: the new `i` and the text after the number. -/
def readNumber (bias : Nat) : List Char → Nat → Nat → Nat → Option (Nat × List Char)
  | [], _, _, _ => none
  | c :: rest, k, w, i => do
    let d ← digitValue c
    let product := d * w
    if wordLimit ≤ product then none
    let i := i + product
    if wordLimit ≤ i then none
    let t := threshold k bias
    if d < t then some (i, rest)
    else
      let w := w * (36 - t)
      if wordLimit ≤ w then none
      readNumber bias rest (k + 36) w i

/-- Inserts one code point per number of the extended text into `out`. `n` is the code point
reached and `i` the position reached; every round reads at least one character, so the fuel
(one more than the characters) is enough. -/
def decodeLoop : Nat → List Char → List Char → Nat → Nat → Nat → Option (List Char)
  | 0, _, _, _, _, _ => none
  | _ + 1, [], out, _, _, _ => some out
  | fuel + 1, cs, out, n, bias, i => do
    let (next, rest) ← readNumber bias cs 36 1 i
    let len := out.length + 1
    let bias := adapt (next - i) len (i == 0)
    let n := n + next / len
    if wordLimit ≤ n || !isScalar n then none
    let pos := next % len
    decodeLoop fuel rest (out.insertIdx pos (Char.ofNat n)) n bias (pos + 1)

/-- The basic characters and the extended text of an encoded label. -/
def splitBasic (cs : List Char) : List Char × List Char :=
  if cs.contains '-' then
    let p := cs.length - 1 - cs.reverse.idxOf '-'
    if p == 0 then ([], cs) else (cs.take p, cs.drop (p + 1))
  else ([], cs)

/-- Decodes a label (without its `xn--`). -/
def decode (cs : List Char) : Option (List Char) :=
  let (basic, extended) := splitBasic cs
  if !basic.all (·.toNat < 0x80) then none
  else decodeLoop (extended.length + 1) extended basic 128 72 0

/-- The digits of the variable-length number `q`, starting at weight position `k`. -/
def encodeNumber (bias k q : Nat) : List Char :=
  let t := threshold k bias
  if q < t then [digitChar q]
  else digitChar (t + (q - t) % (36 - t)) :: encodeNumber bias (k + 36) ((q - t) / (36 - t))
termination_by q
decreasing_by
  have _h1 := threshold_pos k bias
  have _h2 := threshold_le k bias
  calc (q - threshold k bias) / (36 - threshold k bias)
      ≤ q - threshold k bias := Nat.div_le_self _ _
    _ < q := by omega

/-- The encoder part way through: the digits written, the distance, the bias and how many
code points are placed. -/
structure Encoding where
  out : List Char
  delta : Nat
  bias : Nat
  placed : Nat

/-- Passes one character of the label while placing code point `m`: a smaller one adds to the
distance, and `m` itself writes the distance. -/
def Encoding.pass (basic m : Nat) (st : Encoding) (c : Char) : Encoding :=
  if c.toNat < m then { st with delta := st.delta + 1 }
  else if c.toNat == m then
    { out := st.out ++ encodeNumber st.bias 36 st.delta, delta := 0,
      bias := adapt st.delta (st.placed + 1) (st.placed == basic), placed := st.placed + 1 }
  else st

/-- Places the non-basic code points, in increasing order, from code point `n`. -/
def encodeLoop (label : List Char) (basic : Nat) : List Nat → Nat → Encoding → Encoding
  | [], _, st => st
  | m :: rest, n, st =>
    let st := { st with delta := st.delta + (m - n) * (st.placed + 1) }
    let st := label.foldl (Encoding.pass basic m) st
    encodeLoop label basic rest (m + 1) { st with delta := st.delta + 1 }

/-- Inserts a number into an increasing list without repeats. -/
def insertSorted (x : Nat) : List Nat → List Nat
  | [] => [x]
  | y :: ys => if x < y then x :: y :: ys else if x == y then y :: ys else y :: insertSorted x ys

/-- Encodes a label (without adding `xn--`); a label too long for 32-bit distances is
refused. -/
def encode (label : List Char) : Option String :=
  if wordLimit ≤ (label.length + 1) * (0x10FFFF - 128) then none
  else
    let basic := label.filter (·.toNat < 0x80)
    let others := (label.filter (0x80 ≤ ·.toNat)).foldr (fun c acc => insertSorted c.toNat acc) []
    let st := encodeLoop label basic.length others 128 ⟨[], 0, 72, basic.length⟩
    some (String.ofList (basic ++ (if basic.isEmpty then [] else ['-']) ++ st.out))

end AdvisoryTrace.Net.Punycode
