import ReviewDesk.Text.Hexadecimal
import ReviewDesk.Text.Printable

/-!
Text between double quotes, written so that a reader sees every character: quotes, backslashes and
the usual controls get a short escape, other characters that cannot be seen a numeric one.
-/

namespace ReviewDesk
namespace Text

/-- The two voice marks of half width: they belong to the letter before them and yet stand in a
place of their own. -/
def isVoiceMark (c : Char) : Bool :=
  c.toNat == 0xff9e || c.toNat == 0xff9f

/-- A reader sees the character, and sees it apart from the one before it. -/
def isVisible (c : Char) : Bool :=
  isPrintable c && !isIgnorable c && (!isGraphemeExtend c || isVoiceMark c)

def quoteChar (c : Char) : List Char :=
  match c with
  | '\x00' => ['\\', '0']
  | '\t' => ['\\', 't']
  | '\r' => ['\\', 'r']
  | '\n' => ['\\', 'n']
  | '"' => ['\\', '"']
  | '\\' => ['\\', '\\']
  | c =>
    if isVisible c then [c]
    else ['\\', 'u', '\x7b'] ++ hexDigits c.toNat ++ ['\x7d']

def quoted (s : String) : String :=
  String.ofList (['"'] ++ s.toList.flatMap quoteChar ++ ['"'])

end Text
end ReviewDesk
