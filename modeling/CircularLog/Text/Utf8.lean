namespace CircularLog

abbrev Bytes := List UInt8

namespace Utf8

-- A sequence of several bytes that has been started: the bits seen so far, how many bytes are
-- still missing, and the bounds of the next one. The bounds are tighter than 80..BF only where
-- an overlong form, a surrogate or a value above 10FFFF would begin.
structure Opened where
  value : Nat
  missing : Nat
  low : UInt8
  high : UInt8
  deriving DecidableEq, Repr

def opening? (b : UInt8) : Option Opened :=
  if b < 0xC2 then none
  else if b < 0xE0 then some ⟨b.toNat - 0xC0, 1, 0x80, 0xBF⟩
  else if b = 0xE0 then some ⟨0, 2, 0xA0, 0xBF⟩
  else if b = 0xED then some ⟨0xD, 2, 0x80, 0x9F⟩
  else if b < 0xF0 then some ⟨b.toNat - 0xE0, 2, 0x80, 0xBF⟩
  else if b = 0xF0 then some ⟨0, 3, 0x90, 0xBF⟩
  else if b < 0xF4 then some ⟨b.toNat - 0xF0, 3, 0x80, 0xBF⟩
  else if b = 0xF4 then some ⟨4, 3, 0x80, 0x8F⟩
  else none

structure Reading where
  units : List (Option Char)
  opened : Option Opened
  deriving DecidableEq, Repr

def Reading.start (units : List (Option Char)) (b : UInt8) : Reading :=
  if b < 0x80 then ⟨some (Char.ofNat b.toNat) :: units, none⟩
  else match opening? b with
    | some sequence => ⟨units, some sequence⟩
    | none => ⟨none :: units, none⟩

-- A byte that cannot continue the sequence in progress closes it as ill-formed and is then
-- read again as a first byte: that is what makes each ill-formed piece maximal.
def Reading.feed (r : Reading) (b : UInt8) : Reading :=
  match r.opened with
  | none => .start r.units b
  | some sequence =>
    if sequence.low ≤ b ∧ b ≤ sequence.high then
      let value := sequence.value * 64 + (b.toNat - 0x80)
      if sequence.missing ≤ 1 then ⟨some (Char.ofNat value) :: r.units, none⟩
      else ⟨r.units, some ⟨value, sequence.missing - 1, 0x80, 0xBF⟩⟩
    else .start (none :: r.units) b

def Reading.close (r : Reading) : List (Option Char) :=
  match r.opened with
  | none => r.units.reverse
  | some _ => (none :: r.units).reverse

def units (bytes : Bytes) : List (Option Char) :=
  (bytes.foldl Reading.feed ⟨[], none⟩).close

def lossy (bytes : Bytes) : String :=
  String.ofList ((units bytes).map (·.getD '\uFFFD'))

def isValid (bytes : Bytes) : Bool :=
  (units bytes).all Option.isSome

def decode? (bytes : Bytes) : Option String :=
  if isValid bytes then some (String.ofList ((units bytes).filterMap id)) else none

def encode (text : String) : Bytes :=
  text.toList.flatMap String.utf8EncodeChar

end Utf8

end CircularLog
