/-!
# Faults of encoded text

The place at which bytes stop to be the UTF-8 form of a text. A character is encoded in one to four
bytes: the first tells their number and the others continue it. The second byte of some characters has
a narrower range, so that each character has only one form and surrogates have none.

Bytes are decoded as they come. So what is missing at their end is told only when the bytes of all
complete characters are gone, and its place is counted from there.
-/

namespace Scaffold.Text

/-- What is wrong with an encoded character. -/
inductive EncodingReason where
  /-- No character begins with its first byte. -/
  | invalidStart
  /-- A byte does not continue it. -/
  | invalidContinuation
  /-- The bytes end in it. -/
  | unexpectedEnd
deriving DecidableEq, Repr

/-- A place at which bytes are no text. -/
structure EncodingFault where
  /-- The first byte. -/
  first : UInt8
  /-- The number of bytes before it. -/
  start : Nat
  /-- The number of bytes that belong to the fault. -/
  length : Nat
  /-- What is wrong. -/
  reason : EncodingReason
deriving DecidableEq, Repr

namespace EncodingFault

/-- A byte that continues a character. -/
def isContinuation (b : UInt8) : Bool := 0x80 ≤ b && b < 0xC0

/-- The number of bytes of a character, by its first one. -/
def size? (b : UInt8) : Option Nat :=
  if b < 0x80 then some 1
  else if b < 0xC2 then none
  else if b < 0xE0 then some 2
  else if b < 0xF0 then some 3
  else if b < 0xF5 then some 4
  else none

/-- A second byte that may follow a first one. -/
def isSecond (first b : UInt8) : Bool :=
  isContinuation b && !(first == 0xE0 && b < 0xA0) && !(first == 0xED && 0xA0 ≤ b)
    && !(first == 0xF0 && b < 0x90) && !(first == 0xF4 && 0x90 ≤ b)

/-- The number of bytes that continue a character as they should. -/
def continued (first : UInt8) : List UInt8 → Nat
  | [] => 0
  | b :: rest => if isSecond first b then (rest.takeWhile isContinuation).length + 1 else 0

/-- What is wrong with the character that begins with a byte, and how many bytes belong to the fault;
otherwise the number of bytes that follow the first one. -/
def ofCharacter (first : UInt8) (rest : List UInt8) : Except (EncodingReason × Nat) Nat :=
  match size? first with
  | none => .error (.invalidStart, 1)
  | some size =>
    let present := rest.take (size - 1)
    let good := continued first present
    if good = size - 1 then .ok good
    else if good = present.length then .error (.unexpectedEnd, good + 1)
    else .error (.invalidContinuation, good + 1)

/-- The bytes are the beginning of a surrogate, which is told only when no byte follows. -/
def isCutSurrogate : List UInt8 → Bool
  | [first, second] => first == 0xED && 0xA0 ≤ second && second < 0xC0
  | _ => false

/-- The first fault of some bytes, `start` others having come before them. -/
def find? : (fuel start : Nat) → List UInt8 → Option EncodingFault
  | 0, _, _ => none
  | _, _, [] => none
  | fuel + 1, start, first :: rest =>
    match ofCharacter first rest with
    | .ok following => find? fuel (start + following + 1) (rest.drop following)
    | .error (reason, length) =>
      let delayed := reason = .unexpectedEnd || isCutSurrogate (first :: rest)
      some ⟨first, if delayed then 0 else start, length, reason⟩

/-- The first fault of some bytes that are no text. -/
def ofBytes (bytes : ByteArray) : EncodingFault :=
  (find? bytes.size 0 bytes.toList).getD ⟨0, 0, 1, .unexpectedEnd⟩

/-- Two hexadecimal digits. -/
def hexByte (b : UInt8) : String :=
  let digits := Nat.toDigits 16 b.toNat
  String.ofList (if b.toNat < 16 then '0' :: digits else digits)

/-- What is wrong, in words. -/
def message (f : EncodingFault) : String :=
  let place :=
    if f.length = 1 then s!"byte 0x{hexByte f.first} in position {f.start}"
    else s!"bytes in position {f.start}-{f.start + f.length - 1}"
  let reason := match f.reason with
    | .invalidStart => "invalid start byte"
    | .invalidContinuation => "invalid continuation byte"
    | .unexpectedEnd => "unexpected end of data"
  s!"'utf-8' codec can't decode {place}: {reason}"

end EncodingFault

end Scaffold.Text
