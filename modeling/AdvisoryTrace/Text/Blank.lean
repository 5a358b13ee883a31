/-!
# Blanks and lines

The Unicode `White_Space` characters, trimming text by them, and cutting text into lines.
A line ends at a line feed; a carriage return just before the feed belongs to the ending, and
an ending at the very end of the text adds no empty line.
-/

namespace AdvisoryTrace.Text

/-- The characters with the Unicode `White_Space` property. -/
def isBlank (c : Char) : Bool :=
  let n := c.toNat
  (0x09 ≤ n && n ≤ 0x0D) || n == 0x20 || n == 0x85 || n == 0xA0 || n == 0x1680 ||
    (0x2000 ≤ n && n ≤ 0x200A) || n == 0x2028 || n == 0x2029 || n == 0x202F ||
    n == 0x205F || n == 0x3000

/-- Drops blanks at the end of a character list. -/
def dropBlanksRight (cs : List Char) : List Char :=
  (cs.reverse.dropWhile isBlank).reverse

/-- The text without its leading blanks. -/
def trimStart (s : String) : String :=
  String.ofList (s.toList.dropWhile isBlank)

/-- The text without its trailing blanks. -/
def trimEnd (s : String) : String :=
  String.ofList (dropBlanksRight s.toList)

/-- The text without blanks at either end. -/
def trim (s : String) : String :=
  String.ofList (dropBlanksRight (s.toList.dropWhile isBlank))

/-- True when the text holds blanks only (or nothing). -/
def isBlankText (s : String) : Bool :=
  s.toList.all isBlank

/-- A line's text: its ending removed, and with it one carriage return before the feed. -/
def lineBody (cs : List Char) : List Char :=
  match cs.reverse with
  | '\r' :: rest => rest.reverse
  | _ => cs

/-- Lines of a character list; `acc` holds the current line, reversed. -/
def linesFrom : List Char → List Char → List (List Char)
  | [], [] => []
  | [], acc => [acc.reverse]
  | '\n' :: rest, acc => lineBody acc.reverse :: linesFrom rest []
  | c :: rest, acc => linesFrom rest (c :: acc)

/-- The lines of a text (a final line ending adds no empty line). -/
def lines (s : String) : List String :=
  (linesFrom s.toList []).map String.ofList

/-- Removes every repetition of `suffix` at the end of `cs`. -/
def dropSuffixes (suffix : List Char) (cs : List Char) : List Char :=
  go cs.length cs
where
  go : Nat → List Char → List Char
    | 0, cs => cs
    | fuel + 1, cs =>
      if suffix ≠ [] ∧ suffix.isSuffixOf cs then
        go fuel (cs.take (cs.length - suffix.length))
      else cs

/-- The text with every trailing repetition of `suffix` removed. -/
def trimEndMatches (s suffix : String) : String :=
  String.ofList (dropSuffixes suffix.toList s.toList)

/-- The text after `pre`, when it starts with `pre`. -/
def stripPrefix? (s pre : String) : Option String :=
  if pre.toList.isPrefixOf s.toList then
    some (String.ofList (s.toList.drop pre.length))
  else none

/-- The text before `suf`, when it ends with `suf`. -/
def stripSuffix? (s suf : String) : Option String :=
  if suf.toList.isSuffixOf s.toList then
    some (String.ofList (s.toList.take (s.length - suf.length)))
  else none

/-- The characters before and after the first occurrence of a separator that is not empty, if it
occurs. -/
def splitAtFirst (sep : List Char) : List Char → Option (List Char × List Char)
  | [] => none
  | c :: rest =>
    if !sep.isEmpty && sep.isPrefixOf (c :: rest) then some ([], (c :: rest).drop sep.length)
    else (splitAtFirst sep rest).map fun (before, after) => (c :: before, after)

end AdvisoryTrace.Text
