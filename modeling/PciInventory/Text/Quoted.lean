import PciInventory.Text.Digit
import PciInventory.Text.Printable

/-!
# Quoted text

A quoted text can be read on one line whatever it holds. The quote is the single one, unless the
text holds a single quote and no double one. A backslash, the quote in use, the three common line
and tab characters and everything unprintable are escaped; all else stands for itself.
-/
namespace PciInventory.Text

namespace Quoted

def mark (t : Text) : Char :=
  if t.contains '\'' && !t.contains '"' then '"' else '\''

/-- A number in lower-case hexadecimal, filled up with zeros to a width. -/
def hexadecimal (width n : Nat) : Text :=
  let digits := Nat.toDigits 16 n
  List.replicate (width - digits.length) '0' ++ digits

/-- The shortest escape that has room for a code point: two, four or eight digits. -/
def numbered (n : Nat) : Text :=
  if n < 0x100 then '\\' :: 'x' :: hexadecimal 2 n
  else if n < 0x10000 then '\\' :: 'u' :: hexadecimal 4 n
  else '\\' :: 'U' :: hexadecimal 8 n

def written (quote c : Char) : Text :=
  if c = quote || c = '\\' then ['\\', c]
  else if c = '\n' then ['\\', 'n']
  else if c = '\r' then ['\\', 'r']
  else if c = '\t' then ['\\', 't']
  else if isPrintable c then [c]
  else numbered c.toNat

end Quoted

def quoted (t : Text) : Text :=
  Quoted.mark t :: t.flatMap (Quoted.written (Quoted.mark t)) ++ [Quoted.mark t]

end PciInventory.Text
