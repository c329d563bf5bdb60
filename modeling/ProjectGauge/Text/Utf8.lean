import ProjectGauge.Text.Decimal
import ProjectGauge.Text.Quoted

/-!
# UTF-8

A character takes one to four bytes. A run of bytes that starts like a character and does not go on
like one is a fault; it ends in front of the first byte that does not fit.

* `Utf8.decode` reads bytes that have no fault and says where the first one is.
* `Utf8.decodeLossy` puts one replacement character in the place of each fault.
* `Utf8.encode` gives the bytes of a text.
-/

namespace ProjectGauge.Text.Utf8

/-- What is wrong with a run of bytes. -/
inductive Fault where
  /-- No character starts with the byte. -/
  | start
  /-- A byte that does not continue the character stands where one has to. -/
  | continuation
  /-- The bytes end inside a character. -/
  | ending
  deriving DecidableEq

/-- The wording of a fault. -/
def Fault.message : Fault → String
  | .start => "invalid start byte"
  | .continuation => "invalid continuation byte"
  | .ending => "unexpected end of data"

/-- What the front of a run of bytes is, and how many bytes it takes. -/
inductive Front where
  | char (c : Char) (length : Nat)
  | fault (fault : Fault) (length : Nat)
  deriving DecidableEq

/-- A byte that continues a character. -/
def isContinuation (b : UInt8) : Bool :=
  0x80 ≤ b && b ≤ 0xbf

/-- The number of bytes of the characters that start with a byte. -/
def lengthOf? (first : UInt8) : Option Nat :=
  if first < 0x80 then some 1
  else if 0xc2 ≤ first && first ≤ 0xdf then some 2
  else if 0xe0 ≤ first && first ≤ 0xef then some 3
  else if 0xf0 ≤ first && first ≤ 0xf4 then some 4
  else none

/-- A byte continues the character that starts with the byte in front of it: no shorter form exists,
and the code point is neither that of half a pair nor beyond the last. -/
def continues (first second : UInt8) : Bool :=
  isContinuation second && (first != 0xe0 || 0xa0 ≤ second) && (first != 0xed || second < 0xa0) &&
    (first != 0xf0 || 0x90 ≤ second) && (first != 0xf4 || second < 0x90)

/-- The bits of a code point that the first byte of a character of several bytes holds. -/
def leadingBits (length : Nat) (first : UInt8) : Nat :=
  if length = 2 then first.toNat - 0xc0
  else if length = 3 then first.toNat - 0xe0
  else first.toNat - 0xf0

/-- The code point with the bits of a further byte. -/
def addBits (code : Nat) (b : UInt8) : Nat :=
  code * 64 + (b.toNat - 0x80)

/-- The front of a run of bytes that starts like a character of several bytes. -/
def longFront (length : Nat) (first second : UInt8) (rest : List UInt8) : Front :=
  let owed := rest.take (length - 2)
  let tail := owed.takeWhile isContinuation
  if tail.length + 2 = length then
    .char (Char.ofNat (tail.foldl addBits (addBits (leadingBits length first) second))) length
  else if tail.length = owed.length then .fault .ending (tail.length + 2)
  else .fault .continuation (tail.length + 2)

/-- The front of a run of bytes. -/
def front (first : UInt8) (rest : List UInt8) : Front :=
  match lengthOf? first with
  | none => .fault .start 1
  | some 1 => .char (Char.ofNat first.toNat) 1
  | some length =>
    match rest with
    | [] => .fault .ending 1
    | second :: rest =>
      if continues first second then longFront length first second rest
      else .fault .continuation 1

/-- The first fault of a run of bytes, with its place and its bytes. -/
structure DecodeError where
  fault : Fault
  position : Nat
  bytes : List UInt8
  deriving DecidableEq

def DecodeError.message (e : DecodeError) : String :=
  let place := match e.bytes with
    | [b] => "byte 0x" ++ String.ofList (hexDigits 2 b.toNat) ++ " in position " ++
      intString e.position
    | bytes => "bytes in position " ++ intString e.position ++ "-" ++
      intString (e.position + bytes.length - 1)
  "'utf-8' codec can't decode " ++ place ++ ": " ++ e.fault.message

/-- The characters of a run of bytes behind those that have been read. A number of bytes of the last
one may still have to be passed over. -/
def decodeFrom : Nat → Nat → List Char → List UInt8 → Except DecodeError (List Char)
  | _, _, read, [] => .ok read.reverse
  | pending + 1, position, read, _ :: rest => decodeFrom pending (position + 1) read rest
  | 0, position, read, b :: rest =>
    match front b rest with
    | .char c length => decodeFrom (length - 1) (position + 1) (c :: read) rest
    | .fault fault length => .error ⟨fault, position, (b :: rest).take length⟩

/-- The characters of a run of bytes without faults. -/
def decode (bytes : List UInt8) : Except DecodeError (List Char) :=
  decodeFrom 0 0 [] bytes

def replacement : Char := '\ufffd'

/-- The characters of a run of bytes behind those that have been read, with faults replaced. -/
def decodeLossyFrom : Nat → List Char → List UInt8 → List Char
  | _, read, [] => read.reverse
  | pending + 1, read, _ :: rest => decodeLossyFrom pending read rest
  | 0, read, b :: rest =>
    match front b rest with
    | .char c length => decodeLossyFrom (length - 1) (c :: read) rest
    | .fault _ length => decodeLossyFrom (length - 1) (replacement :: read) rest

/-- The characters of a run of bytes, with a replacement character for each fault. -/
def decodeLossy (bytes : List UInt8) : List Char :=
  decodeLossyFrom 0 [] bytes

/-- The byte that continues a character with six of its bits. -/
def continuationByte (bits : Nat) : UInt8 :=
  UInt8.ofNat (0x80 + bits % 64)

/-- The bytes of a character. -/
def encodeChar (c : Char) : List UInt8 :=
  let code := c.toNat
  if code < 0x80 then [UInt8.ofNat code]
  else if code < 0x800 then [UInt8.ofNat (0xc0 + code / 64), continuationByte code]
  else if code < 0x10000 then
    [UInt8.ofNat (0xe0 + code / 4096), continuationByte (code / 64), continuationByte code]
  else
    [UInt8.ofNat (0xf0 + code / 262144), continuationByte (code / 4096),
      continuationByte (code / 64), continuationByte code]

/-- The bytes of a text. -/
def encode (text : List Char) : List UInt8 :=
  text.flatMap encodeChar

/-- The number of bytes of a text. -/
def byteLength (text : List Char) : Nat :=
  text.foldl (fun length c => length + c.utf8Size) 0

end ProjectGauge.Text.Utf8
