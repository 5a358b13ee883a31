import AdvisoryTrace.Net.Idna.Mapping
import AdvisoryTrace.Net.Punycode
import AdvisoryTrace.Text.Normalization
import AdvisoryTrace.Text.Bidi
import AdvisoryTrace.Text.Joining

/-!
# International domain names

A domain name of a URL host written in ASCII, as Unicode Technical Standard 46 processes it
with the parameters of the URL standard: nontransitional, hyphens anywhere, the joiner and
bidirectional rules checked, no length limits, and the characters a domain may not hold
refused.

* Every character is mapped by the table: kept, dropped, replaced, or refused.
* The result is put in Normalization Form C and cut into labels at `.`.
* A label starting with `xn--` must be ASCII and decode as Punycode to a label that is not
  empty and not all ASCII; that label must be in Normalization Form C, must not itself start
  with `xn--`, and may hold only valid and deviation characters.
* No label may start with a mark.
* A zero width joiner must follow a virama (a character of combining class 9). A zero width
  non-joiner must follow a virama, or stand between a character that joins to the right (left
  joining or dual joining) and one that joins to the left (right joining or dual joining), with
  only transparent characters between.
* When a label holds a right-to-left character (classes R, AL, AN), every label that is not
  empty must keep the bidirectional rule of RFC 5893.
* After mapping, no character may be a control, space, delete, or one of `%#/:<>?@[\]^|`.

The name is then written back label by label: a label that is all ASCII as it is, any other
as `xn--` and its Punycode.
-/

namespace AdvisoryTrace.Net.Idna

open AdvisoryTrace.Text

/-- The zero width non-joiner and joiner. -/
def nonJoiner : Char := Char.ofNat 0x200C
def joiner : Char := Char.ofNat 0x200D

/-- Whether a character is ASCII. -/
def isAscii (c : Char) : Bool := c.toNat < 0x80

/-- The characters a domain of a URL may not hold after mapping. -/
def isDenied (c : Char) : Bool :=
  c.toNat ≤ 0x20 || c.toNat == 0x7F || "%#/:<>?@[\\]^|".contains c

/-- Maps every character by the table, or refuses the name. -/
def mapChars : List Char → Option (List Char)
  | [] => some []
  | c :: rest => do
    let tail ← mapChars rest
    match status c with
    | .valid | .deviation => some (c :: tail)
    | .ignored => some tail
    | .mapped replacement => some (replacement ++ tail)
    | .disallowed => none

/-- Whether the table keeps a character as it is. -/
def isKept (c : Char) : Bool :=
  match status c with
  | .valid | .deviation => true
  | _ => false

/-- Cuts a name into labels at `.`. -/
def labels (cs : List Char) : List (List Char) :=
  cs.splitOn '.'

/-- Whether a character is a virama. -/
def isVirama (c : Char) : Bool := combiningClass c.toNat == 9

/-- Whether the characters before a non-joiner (nearest first) reach, past transparent ones,
one that joins to the right. -/
def joinsBefore : List Char → Bool
  | [] => false
  | c :: rest =>
    match joiningType c with
    | .transparent => joinsBefore rest
    | .leftJoining | .dualJoining => true
    | _ => false

/-- Whether the characters after a non-joiner reach, past transparent ones, one that joins to
the left. -/
def joinsAfter : List Char → Bool
  | [] => false
  | c :: rest =>
    match joiningType c with
    | .transparent => joinsAfter rest
    | .rightJoining | .dualJoining => true
    | _ => false

/-- Whether every joiner and non-joiner of a label stands where it may; `before` holds the
characters passed, nearest first. -/
def joinersFit (before : List Char) : List Char → Bool
  | [] => true
  | c :: rest =>
    let afterVirama := (before.head?.map isVirama).getD false
    let fits :=
      if c == joiner then afterVirama
      else if c == nonJoiner then afterVirama || (joinsBefore before && joinsAfter rest)
      else true
    fits && joinersFit (c :: before) rest

/-- Whether a character is right-to-left or an Arabic number. -/
def isRightToLeft (c : Char) : Bool :=
  match bidiClass c with
  | .rightToLeft | .arabicLetter | .arabicNumber => true
  | _ => false

/-- The class of the last character that is not a nonspacing mark. -/
def lastClass (label : List Char) : Option BidiClass :=
  (label.reverse.map bidiClass).find? (· != .nonspacingMark)

/-- Whether a label keeps the bidirectional rule: a left-to-right label starts with L, holds
only L, EN, ES, CS, ET, ON, BN and NSM, and ends in L or EN before its closing marks; a
right-to-left label starts with R or AL, holds only R, AL, AN, EN, ES, CS, ET, ON, BN and
NSM, not both AN and EN, and ends in R, AL, EN or AN before its closing marks. An empty label
keeps it. -/
def keepsBidiRule (label : List Char) : Bool :=
  match label.map bidiClass with
  | [] => true
  | .leftToRight :: rest =>
    rest.all (fun k => match k with
      | .leftToRight | .europeanNumber | .europeanSeparator | .commonSeparator
      | .europeanTerminator | .otherNeutral | .boundaryNeutral | .nonspacingMark => true
      | _ => false) &&
    match lastClass label with
    | some .leftToRight | some .europeanNumber => true
    | _ => false
  | .rightToLeft :: rest | .arabicLetter :: rest =>
    rest.all (fun k => match k with
      | .leftToRight | .other => false
      | _ => true) &&
    !(rest.contains .arabicNumber && rest.contains .europeanNumber) &&
    match lastClass label with
    | some .rightToLeft | some .arabicLetter | some .europeanNumber | some .arabicNumber => true
    | _ => false
  | _ => false

/-- Whether a label meets the criteria every label must meet: no mark first, and joiners where
they may stand. -/
def isValidLabel (label : List Char) : Bool :=
  !((label.head?.map isMark).getD false) && joinersFit [] label

/-- The label a mapped label stands for: an `xn--` label decoded and checked, any other as it
is; none when the label is refused. -/
def unicodeLabel (label : List Char) : Option (List Char) :=
  match label with
  | 'x' :: 'n' :: '-' :: '-' :: encoded => do
    if !encoded.all isAscii then none
    let decoded ← Punycode.decode encoded
    if decoded.all isAscii then none
    if !isNfc decoded then none
    if decoded.take 4 == ['x', 'n', '-', '-'] then none
    if !decoded.all isKept then none
    if !isValidLabel decoded then none
    some decoded
  | _ => if isValidLabel label then some label else none

/-- The labels of a name after mapping, normalization and decoding, or none when the name is
refused. -/
def unicodeLabels (name : List Char) : Option (List (List Char)) := do
  let mapped := nfc (← mapChars name)
  if mapped.any isDenied then none
  let parts ← (labels mapped).mapM unicodeLabel
  if parts.any (·.any isRightToLeft) && !parts.all keepsBidiRule then none
  some parts

/-- A label in ASCII: as it is, or `xn--` and its Punycode. -/
def asciiLabel (label : List Char) : Option String :=
  if label.all isAscii then some (String.ofList label)
  else (Punycode.encode label).map ("xn--" ++ ·)

/-- A domain name in ASCII, or none when it is refused. -/
def toAscii (name : List Char) : Option String := do
  let parts ← (← unicodeLabels name).mapM asciiLabel
  some (".".intercalate parts)

end AdvisoryTrace.Net.Idna
