/-!
# UTF-8

Decoding octets as UTF-8, strictly (`Utf8.decode`) and with replacement (`Utf8.decodeLossy`).  One
step (`Utf8.next`) reads a character or names a fault; a fault covers the octets that belong
together, so that the lossy reading writes one U+FFFD for each fault and goes on behind it.
-/

namespace Foldbook.Text.Utf8

/-- Why octets are no UTF-8 text. -/
inductive Cause where
  /-- No character begins with this octet. -/
  | start
  /-- The octet that should continue a character does not. -/
  | continuation
  /-- The text ends inside a character. -/
  | truncated
  deriving DecidableEq, Repr

/-- A fault: its cause, how many octets precede it, the octet it begins with, and how many octets
it covers. -/
structure Fault where
  cause : Cause
  position : Nat
  first : UInt8
  width : Nat
  deriving DecidableEq, Repr

/-- What stands at the head of a list of octets: a character or a fault, with the number of octets
it takes. -/
inductive Step where
  | char (c : Char) (width : Nat)
  | fault (cause : Cause) (width : Nat)

/-- Octets 0x80 to 0xBF continue a character. -/
def isTail (b : UInt8) : Bool := 0x80 ≤ b && b ≤ 0xBF

/-- The least and greatest octet that may follow a leading octet. -/
def secondBounds (lead : UInt8) : UInt8 × UInt8 :=
  if lead == 0xE0 then (0xA0, 0xBF)
  else if lead == 0xED then (0x80, 0x9F)
  else if lead == 0xF0 then (0x90, 0xBF)
  else if lead == 0xF4 then (0x80, 0x8F)
  else (0x80, 0xBF)

/-- How many octets a character takes that begins with this octet; none begins with the others. -/
def lengthOf? (lead : UInt8) : Option Nat :=
  if lead < 0x80 then some 1
  else if lead < 0xC2 then none
  else if lead < 0xE0 then some 2
  else if lead < 0xF0 then some 3
  else if lead < 0xF5 then some 4
  else none

/-- The value of the payload bits of a leading octet and its tails. -/
def scalar (lead : UInt8) (tails : List UInt8) : Nat :=
  let head := match tails.length with
    | 0 => lead.toNat
    | 1 => lead.toNat % 32
    | 2 => lead.toNat % 16
    | _ => lead.toNat % 8
  tails.foldl (fun n b => n * 64 + b.toNat % 64) head

/-- Reads the `wanted` tails of a character that begins with `lead`; `seen` holds those read so
far, last first. -/
def readTails (lead : UInt8) (seen : List UInt8) : Nat → List UInt8 → Step
  | 0, _ => .char (Char.ofNat (scalar lead seen.reverse)) (seen.length + 1)
  | _ + 1, [] => .fault .truncated (seen.length + 1)
  | wanted + 1, b :: bs =>
    let fits := if seen.isEmpty
      then (secondBounds lead).1 ≤ b && b ≤ (secondBounds lead).2
      else isTail b
    if fits then readTails lead (b :: seen) wanted bs
    else .fault .continuation (seen.length + 1)

/-- What stands at the head of `lead :: rest`. -/
def next (lead : UInt8) (rest : List UInt8) : Step :=
  match lengthOf? lead with
  | none => .fault .start 1
  | some n => readTails lead [] (n - 1) rest

/-- Reads all octets, handing each fault with its position to `onFault`, which answers a
replacement or stops.  `skip` octets still belong to the step before. -/
def decodeWith {ε : Type} (onFault : Fault → Except ε Char) (position skip : Nat) :
    List UInt8 → Except ε (List Char)
  | [] => .ok []
  | b :: bs =>
    match skip with
    | skip + 1 => decodeWith onFault (position + 1) skip bs
    | 0 =>
      match next b bs with
      | .char c width => do
        let rest ← decodeWith onFault (position + 1) (width - 1) bs
        return c :: rest
      | .fault cause width => do
        let c ← onFault ⟨cause, position, b, width⟩
        let rest ← decodeWith onFault (position + 1) (width - 1) bs
        return c :: rest

/-- The text the octets spell, or the first fault. -/
def decode (octets : List UInt8) : Except Fault String :=
  (decodeWith .error 0 0 octets).map String.ofList

/-- The text the octets spell, with U+FFFD for each fault. -/
def decodeLossy (octets : List UInt8) : String :=
  match decodeWith (ε := Empty) (fun _ => .ok '\uFFFD') 0 0 octets with
  | .ok cs => String.ofList cs
  | .error e => nomatch e

/-- The octets of a text. -/
def encode (s : String) : List UInt8 := s.toUTF8.toList

/-- Two hexadecimal digits of an octet. -/
def hexOctet (b : UInt8) : String :=
  String.ofList [Nat.digitChar (b.toNat / 16), Nat.digitChar (b.toNat % 16)]

/-- The words of a cause. -/
def Cause.message : Cause → String
  | .start => "invalid start byte"
  | .continuation => "invalid continuation byte"
  | .truncated => "unexpected end of data"

/-- The wording of a fault: one octet is shown, several are only located. -/
def Fault.message (f : Fault) : String :=
  let place :=
    if f.width = 1 then s!"byte 0x{hexOctet f.first} in position {f.position}"
    else s!"bytes in position {f.position}-{f.position + f.width - 1}"
  s!"'utf-8' codec can't decode {place}: {f.cause.message}"

end Foldbook.Text.Utf8
