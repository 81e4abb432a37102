import CircularLog.Text.Extending
import CircularLog.Text.Unprintable

namespace CircularLog.Quoted

-- Written as itself. The plain ASCII range is asked first because nearly all text lies in it.
def isPlain (c : Char) : Bool :=
  (' ' ≤ c && c ≤ '~') || !(Extending.ranges.contains c || Unprintable.ranges.contains c)

def byCodePoint (c : Char) : List Char :=
  '\\' :: 'u' :: '\x7b' :: (Nat.toDigits 16 c.toNat ++ ['\x7d'])

def escape (c : Char) : List Char :=
  if c = '\t' then ['\\', 't']
  else if c = '\r' then ['\\', 'r']
  else if c = '\n' then ['\\', 'n']
  else if c = Char.ofNat 0 then ['\\', '0']
  else if c = '"' then ['\\', '"']
  else if c = '\\' then ['\\', '\\']
  else if isPlain c then [c]
  else byCodePoint c

def quote (text : String) : String :=
  String.ofList ('"' :: (text.toList.flatMap escape ++ ['"']))

end CircularLog.Quoted
