import TransferRegistry.Text.CharClass
import TransferRegistry.Text.Hex

/-!
# Quoted text

How a text or a single character is shown in a message: between quotes, with the usual short escapes, and by its
number, `\u{…}`, where it would not be seen as itself.
-/

namespace TransferRegistry.Text

def escapedByNumber (c : Char) : List Char := ['\\', 'u', '\x7b'] ++ hexDigits c.toNat ++ ['\x7d']

/-- A character within quotes of the given kind. -/
def escaped (quote : Char) (c : Char) : List Char :=
  match c with
  | '\x00' => ['\\', '0']
  | '\t' => ['\\', 't']
  | '\r' => ['\\', 'r']
  | '\n' => ['\\', 'n']
  | '\\' => ['\\', '\\']
  | _ =>
    if c = quote then ['\\', c]
    else if isExtender c then escapedByNumber c
    else if isPrintable c then [c]
    else escapedByNumber c

/-- A text within double quotes. -/
def quoted (s : String) : String := String.ofList ('"' :: s.toList.flatMap (escaped '"') ++ ['"'])

/-- A character within single quotes. -/
def quotedChar (c : Char) : String := String.ofList ('\'' :: escaped '\'' c ++ ['\''])

end TransferRegistry.Text
