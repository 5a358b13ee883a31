/-!
# Decoding UTF-8 with replacement

Bytes read as UTF-8 where every ill-formed part becomes U+FFFD: a byte that cannot start a
character is replaced alone, and a character cut short is replaced once for the longest
start of it that could still have been completed (the maximal subpart rule of the Unicode
standard).
-/

namespace AdvisoryTrace.Text

/-- The range the second byte of a character takes, by its first byte, and how many bytes
follow the first; none when the byte cannot start a character of several bytes. -/
def leadShape (b : UInt8) : Option (UInt8 × UInt8 × Nat) :=
  if 0xC2 ≤ b && b ≤ 0xDF then some (0x80, 0xBF, 1)
  else if b == 0xE0 then some (0xA0, 0xBF, 2)
  else if b == 0xED then some (0x80, 0x9F, 2)
  else if 0xE1 ≤ b && b ≤ 0xEF then some (0x80, 0xBF, 2)
  else if b == 0xF0 then some (0x90, 0xBF, 3)
  else if b == 0xF4 then some (0x80, 0x8F, 3)
  else if 0xF1 ≤ b && b ≤ 0xF3 then some (0x80, 0xBF, 3)
  else none

/-- Whether a byte continues a character. -/
def isContinuation (b : UInt8) : Bool := 0x80 ≤ b && b ≤ 0xBF

/-- The value of a complete character from its first byte and the bytes after it. -/
def charValue (lead : UInt8) (rest : List UInt8) : Nat :=
  let bits := match rest.length with
    | 1 => lead.toNat % 32
    | 2 => lead.toNat % 16
    | _ => lead.toNat % 8
  rest.foldl (fun acc b => acc * 64 + b.toNat % 64) bits

/-- Decodes bytes, replacing ill-formed parts; `fuel` bounds the characters read, and one more
than the bytes is enough. -/
def decodeWith : Nat → List UInt8 → List Char
  | 0, _ => []
  | _ + 1, [] => []
  | fuel + 1, b :: rest =>
    if b < 0x80 then Char.ofNat b.toNat :: decodeWith fuel rest
    else
      match leadShape b with
      | none => '�' :: decodeWith fuel rest
      | some (lo, hi, more) =>
        match rest with
        | second :: _ =>
          if lo ≤ second && second ≤ hi then
            let tail := (rest.drop 1).take (more - 1)
            let good := tail.takeWhile isContinuation
            if good.length == more - 1 then
              Char.ofNat (charValue b (second :: good)) :: decodeWith fuel (rest.drop more)
            else '�' :: decodeWith fuel (rest.drop (1 + good.length))
          else '�' :: decodeWith fuel rest
        | [] => ['�']

/-- Decodes bytes as UTF-8, replacing ill-formed parts with U+FFFD. -/
def decodeLossy (bytes : List UInt8) : String :=
  String.ofList (decodeWith (bytes.length + 1) bytes)

end AdvisoryTrace.Text
