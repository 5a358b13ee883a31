import AdvisoryTrace.Text.Printable

/-!
# Tables of code point ranges with values

A Unicode property with more than two values is kept as sorted, disjoint ranges of code points,
each range with its value; a code point outside every range has the property's default. The
tables are written as text, `lo-hi=value` or `lo=value` with the bounds in hexadecimal, ranges
separated by commas, and read once.
-/

namespace AdvisoryTrace.Text

/-- Reads one range with its value, written `lo-hi=value` or `lo=value`. -/
def readValuedRange (value : String → α) (s : String) : Nat × Nat × α :=
  match s.splitOn "=" with
  | [r, v] => let (lo, hi) := readRange r; (lo, hi, value v)
  | _ => let (lo, hi) := readRange s; (lo, hi, value "")

/-- Reads a comma-separated list of ranges with values. -/
def readValuedRanges (value : String → α) (s : String) : Array (Nat × Nat × α) :=
  ((s.splitOn ",").map (readValuedRange value)).toArray

/-- The value of the range that holds `n`, by bisection over sorted, disjoint ranges. -/
def findRange? (table : Array (Nat × Nat × α)) (n : Nat) : Option α :=
  go 0 table.size (table.size + 1)
where
  go (lo hi : Nat) : Nat → Option α
    | 0 => none
    | fuel + 1 =>
      if lo < hi then
        let mid := (lo + hi) / 2
        match table[mid]? with
        | some (a, b, v) =>
          if n < a then go lo mid fuel
          else if b < n then go (mid + 1) hi fuel
          else some v
        | none => none
      else none

end AdvisoryTrace.Text
