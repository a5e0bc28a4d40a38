import MemoryKeeper.Text.Concealed

/-!
# Quoted text

A quotation stands between double quotes. Inside it a quote and a backslash are
preceded by a backslash, line feed, carriage return, tab and the null character
have letters of their own, and every other concealed character is written by its
code point in hexadecimal between braces. All other characters stand for
themselves, so a single quote does too.
-/

namespace MemoryKeeper.Text

/-- A character as it stands inside a quotation. -/
def quoteChar (character : Char) : List Char :=
  match character with
  | '"' => ['\\', '"']
  | '\\' => ['\\', '\\']
  | '\n' => ['\\', 'n']
  | '\r' => ['\\', 'r']
  | '\t' => ['\\', 't']
  | '\x00' => ['\\', '0']
  | other =>
    if isConcealed other then
      ['\\', 'u', '\x7b'] ++ Nat.toDigits 16 other.toNat ++ ['\x7d']
    else [other]

def quote (text : String) : String :=
  String.ofList ('"' :: text.toList.flatMap quoteChar ++ ['"'])

end MemoryKeeper.Text
