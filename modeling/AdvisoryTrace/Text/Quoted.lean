import AdvisoryTrace.Text.Printable

/-!
# Quoted text

Text shown between double quotes, as diagnostics show a name or an identifier: the quote, the
backslash and the controls NUL, tab, carriage return and line feed get a backslash escape,
characters that are not printable or that extend a grapheme are written `\u{hex}`, and every
other character stands as it is.
-/

namespace AdvisoryTrace.Text

/-- Lower-case hexadecimal digits of a number, without leading zeros. -/
def hexDigits (n : Nat) : List Char :=
  Nat.toDigits 16 n

/-- The escape of one character inside quoted text. -/
def escapeChar (c : Char) : List Char :=
  match c with
  | '\x00' => ['\\', '0']
  | '\t' => ['\\', 't']
  | '\r' => ['\\', 'r']
  | '\n' => ['\\', 'n']
  | '\\' => ['\\', '\\']
  | '"' => ['\\', '"']
  | c =>
    if isGraphemeExtend c || !isPrintable c then
      ['\\', 'u', '{'] ++ hexDigits c.toNat ++ ['}']
    else [c]

/-- The text between double quotes with its characters escaped. -/
def quoted (s : String) : String :=
  String.ofList ('"' :: s.toList.flatMap escapeChar ++ ['"'])

end AdvisoryTrace.Text
