namespace CircularLog.Json

inductive Scalar where
  | number (value : Nat)
  | text (value : String)
  deriving DecidableEq, Repr

abbrev Fields := List (String × Scalar)

def byCode (c : Char) : List Char :=
  '\\' :: 'u' :: '0' :: '0' :: (if c.toNat < 16 then '0' :: Nat.toDigits 16 c.toNat
    else Nat.toDigits 16 c.toNat)

-- Only quotes, backslashes and the controls below U+0020 are escaped.
def escape (c : Char) : List Char :=
  if c = '"' then ['\\', '"']
  else if c = '\\' then ['\\', '\\']
  else if c = '\x08' then ['\\', 'b']
  else if c = '\x0c' then ['\\', 'f']
  else if c = '\n' then ['\\', 'n']
  else if c = '\r' then ['\\', 'r']
  else if c = '\t' then ['\\', 't']
  else if c < ' ' then byCode c
  else [c]

def quote (text : String) : String :=
  String.ofList ('"' :: (text.toList.flatMap escape ++ ['"']))

def Scalar.render : Scalar → String
  | .number value => toString value
  | .text value => quote value

def object (indent : String) : Fields → String
  | [] => "\x7b\x7d"
  | fields =>
    "\x7b\n" ++ ",\n".intercalate (fields.map fun field =>
      indent ++ "  " ++ quote field.1 ++ ": " ++ field.2.render) ++ "\n" ++ indent ++ "\x7d"

def objects : List Fields → String
  | [] => "[]"
  | rows => "[\n" ++ ",\n".intercalate (rows.map fun row => "  " ++ object "  " row) ++ "\n]"

end CircularLog.Json
