import CoroutineEngine.Toml.Reader

/-!
# Layout and quoted text in TOML

Blanks, line ends and comments, and the four forms of quoted text: between double quotes, where a
backslash escapes, or between single quotes, where nothing does, each on one line or, with the quotes
tripled, on several.
-/

namespace CoroutineEngine.Toml

open Reader

/-! ## Layout -/

/-- A blank. -/
def isBlank (c : Char) : Bool := c == ' ' || c == '\t'

/-- A character that may stand in a line: everything but the other control characters. -/
def isInline (c : Char) : Bool := c == '\t' || (0x20 ≤ c.toNat && c != '\x7f')

/-- Blanks, or none. -/
def blanks : Reader Unit := discard (run isBlank)

/-- The end of a line. -/
def newline : Reader Unit := orElse (exactly '\n') (phrase ['\r', '\n'])

/-- A comment, up to the end of its line. -/
def comment : Reader Unit := do
  exactly '#'
  discard (run isInline)

/-- What may stand between the items of an array: blanks, line ends, and comments with their line end. -/
def spacing : Reader Unit :=
  discard (many (firstOf [discard (run1 isBlank), newline, comment *> newline]))

/-- What may follow on a line: blanks and a comment; then the line or the text is over. -/
def lineEnd : Reader Unit := do
  blanks
  discard (maybe comment)
  orElse newline atEnd

/-! ## Quoted text -/

/-- The value of a hexadecimal digit, of any other character 0. -/
def hexValue (c : Char) : Nat :=
  if c.isDigit then c.toNat - '0'.toNat
  else if 'a' ≤ c ∧ c ≤ 'f' then c.toNat - 'a'.toNat + 10
  else if 'A' ≤ c ∧ c ≤ 'F' then c.toNat - 'A'.toNat + 10
  else 0

/-- A hexadecimal digit. -/
def isHexDigit (c : Char) : Bool := c.isDigit || ('a' ≤ c && c ≤ 'f') || ('A' ≤ c && c ≤ 'F')

/-- A character that is given by `n` hexadecimal digits. -/
def scalar (n : Nat) : Reader (List Char) := do
  let digits ← count isHexDigit n
  let code := digits.foldl (fun v c => v * 16 + hexValue c) 0
  if code.isValidChar then return [Char.ofNat code] else failure

/-- An escaped character. -/
def escaped : Reader (List Char) := do
  exactly '\\'
  match ← item fun _ => true with
  | 'b' => return ['\x08']
  | 't' => return ['\t']
  | 'n' => return ['\n']
  | 'f' => return ['\x0c']
  | 'r' => return ['\r']
  | '"' => return ['"']
  | '\\' => return ['\\']
  | 'u' => scalar 4
  | 'U' => scalar 8
  | _ => failure

/-- Text that stands for itself between double quotes. -/
def plain : Reader (List Char) := run1 fun c => isInline c && c != '"' && c != '\\'

/-- Text that stands for itself between single quotes. -/
def verbatim : Reader (List Char) := run1 fun c => isInline c && c != '\''

/-- A line end inside a text. -/
def innerNewline : Reader (List Char) := newline *> pure ['\n']

/-- A backslash at the end of a line: it and all blanks and line ends after it are left out. -/
def joint : Reader (List Char) := do
  exactly '\\'
  blanks
  newline
  discard (many (orElse (discard (run1 isBlank)) newline))
  return []

/-- One or two quotes inside a text that three of them would end. -/
def innerQuotes (quote : Char) : Reader (List Char) :=
  firstOf
    [phrase [quote, quote] *> notBefore (· == quote) *> pure [quote, quote],
      exactly quote *> notBefore (· == quote) *> pure [quote]]

/-- The three quotes that end a text, with up to two more in front that belong to it. -/
def closing (quote : Char) : Reader (List Char) := do
  let quotes ← satisfying (run (· == quote)) fun quotes => 3 ≤ quotes.length && quotes.length ≤ 5
  return quotes.drop 3

/-- A text between quotes on one line. -/
def quotedLine (quote : Char) (piece : Reader (List Char)) : Reader String := do
  exactly quote
  let pieces ← many piece
  exactly quote
  return String.ofList pieces.flatten

/-- A text between tripled quotes. A line end right after the first three is left out. -/
def quotedLines (quote : Char) (piece : Reader (List Char)) : Reader String := do
  phrase [quote, quote, quote]
  discard (maybe newline)
  let pieces ← many (orElse piece (innerQuotes quote))
  let last ← closing quote
  return String.ofList (pieces.flatten ++ last)

/-- A quoted text on one line. -/
def quotedText : Reader String :=
  orElse (quotedLine '"' (orElse plain escaped)) (quotedLine '\'' verbatim)

/-- A quoted text of any form. -/
def anyQuotedText : Reader String :=
  firstOf
    [quotedLines '"' (firstOf [plain, innerNewline, joint, escaped]),
      quotedLines '\'' (orElse verbatim innerNewline), quotedText]

end CoroutineEngine.Toml
