import VulkanPrefill.Text.Unprintable

/-!
# Quoted text

A quoted text stands between double quotes. Inside, the double quote and the backslash come after a
backslash, the null, the tab and the two line controls have a letter, and every other character
without a picture is spelled by its code point in lower case hexadecimal.
-/

namespace VulkanPrefill.Text

def spell (c : Char) : List Char :=
  match c with
  | '\x00' => ['\\', '0']
  | '\t' => ['\\', 't']
  | '\r' => ['\\', 'r']
  | '\n' => ['\\', 'n']
  | '"' => ['\\', '"']
  | '\\' => ['\\', '\\']
  | c =>
    if isUnprintable c then
      ['\\', 'u', '\x7b'] ++ Nat.toDigits 16 c.toNat ++ ['\x7d']
    else
      [c]

def quoted (s : String) : String :=
  .ofList ('"' :: s.toList.flatMap spell ++ ['"'])

end VulkanPrefill.Text
