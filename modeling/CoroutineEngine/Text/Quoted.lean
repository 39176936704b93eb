import CoroutineEngine.Text.Printable

/-!
# Quoted text

A text between double quotes, with everything escaped that a reader could not see or that would end the
quotation.

Results:
* `escape_printable`: a printable character that needs no escape stands for itself.
-/

namespace CoroutineEngine.Quoted

/-! ## Definitions -/

/-- A code point in hexadecimal digits, without leading zeros. -/
def hex (n : Nat) : String := String.ofList (Nat.toDigits 16 n)

/-- How a character is written inside quotes. -/
def escape (c : Char) : String :=
  match c with
  | '\x00' => "\\0"
  | '\t' => "\\t"
  | '\r' => "\\r"
  | '\n' => "\\n"
  | '"' => "\\\""
  | '\\' => "\\\\"
  | c =>
    if Printable.isPrintable c && !Printable.extendsGrapheme c then String.singleton c
    else "\\u\x7b" ++ hex c.toNat ++ "\x7d"

/-- A text in quotes. -/
def quote (s : String) : String :=
  (s.foldl (fun out c => out ++ escape c) "\"").push '"'

/-! ## Helpers -/

theorem escape_printable (c : Char) (hp : Printable.isPrintable c = true)
    (he : Printable.extendsGrapheme c = false) (h0 : c ≠ '\x00') (ht : c ≠ '\t') (hr : c ≠ '\r')
    (hn : c ≠ '\n') (hq : c ≠ '"') (hb : c ≠ '\\') : escape c = String.singleton c := by
  simp [escape, hp, he]

end CoroutineEngine.Quoted
