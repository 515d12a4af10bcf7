/-!
# UTF-8

Encoding is core's. Decoding reports what is malformed and where: a malformed piece is the longest
start of a character that stands at its place, or a single byte that starts none. The strict
decoder stops at the first malformed piece; the lenient one puts U+FFFD in the place of each.
-/

namespace OpcachePreload.Text.Utf8

/-- Why bytes are not the encoding of a character. -/
inductive Fault where
  | invalidStart
  | invalidContinuation
  | unexpectedEnd
  deriving DecidableEq, Repr

/-- The first malformed piece of some bytes: where it starts, how long it is, and its first byte. -/
structure Malformed where
  position : Nat
  size : Nat
  first : UInt8
  fault : Fault
  deriving DecidableEq, Repr

/-- What stands at the front of some bytes. -/
inductive Piece where
  | scalar (c : Char) (size : Nat)
  | malformed (fault : Fault) (size : Nat)
  deriving DecidableEq, Repr

/-- The bytes of a text. -/
def encode (text : List Char) : List UInt8 :=
  text.flatMap String.utf8EncodeChar

/-- A byte that can only stand inside a character. -/
def isContinuation (b : UInt8) : Bool :=
  0x80 ≤ b && b < 0xc0

/-- The six payload bits of a continuation byte. -/
def payload (b : UInt8) : Nat :=
  b.toNat % 0x40

/-- The second bytes that may follow `first` when it starts a character of three or four bytes:
none that would make an overlong form, a surrogate or a value beyond U+10FFFF. -/
def isSecond (first second : UInt8) : Bool :=
  isContinuation second &&
    (first != 0xe0 || 0xa0 ≤ second) && (first != 0xed || second < 0xa0) &&
    (first != 0xf0 || 0x90 ≤ second) && (first != 0xf4 || second < 0x90)

/-- The piece that starts with `first` and may go on into `rest`. -/
def piece (first : UInt8) (rest : List UInt8) : Piece :=
  if first < 0x80 then
    .scalar (Char.ofNat first.toNat) 1
  else if first < 0xc2 || 0xf5 ≤ first then
    .malformed .invalidStart 1
  else if first < 0xe0 then
    match rest with
    | [] => .malformed .unexpectedEnd 1
    | b :: _ =>
      if isContinuation b then
        .scalar (Char.ofNat (first.toNat % 0x20 * 0x40 + payload b)) 2
      else .malformed .invalidContinuation 1
  else if first < 0xf0 then
    match rest with
    | [] => .malformed .unexpectedEnd 1
    | b :: rest =>
      if !isSecond first b then .malformed .invalidContinuation 1
      else match rest with
        | [] => .malformed .unexpectedEnd 2
        | c :: _ =>
          if isContinuation c then
            .scalar (Char.ofNat ((first.toNat % 0x10 * 0x40 + payload b) * 0x40 + payload c)) 3
          else .malformed .invalidContinuation 2
  else
    match rest with
    | [] => .malformed .unexpectedEnd 1
    | b :: rest =>
      if !isSecond first b then .malformed .invalidContinuation 1
      else match rest with
        | [] => .malformed .unexpectedEnd 2
        | c :: rest =>
          if !isContinuation c then .malformed .invalidContinuation 2
          else match rest with
            | [] => .malformed .unexpectedEnd 3
            | d :: _ =>
              if isContinuation d then
                .scalar (Char.ofNat
                  (((first.toNat % 0x08 * 0x40 + payload b) * 0x40 + payload c) * 0x40 + payload d))
                    4
              else .malformed .invalidContinuation 3

/-- Decode strictly; `skip` bytes at the front belong to a character already read, and `position`
counts the bytes before. -/
def decodeFrom (position skip : Nat) : List UInt8 → Except Malformed (List Char)
  | [] => .ok []
  | b :: rest =>
    match skip with
    | skip + 1 => decodeFrom (position + 1) skip rest
    | 0 =>
      match piece b rest with
      | .scalar c size => (decodeFrom (position + 1) (size - 1) rest).map (c :: ·)
      | .malformed fault size => .error ⟨position, size, b, fault⟩

/-- The text that the bytes encode, or the first malformed piece. -/
def decode (bytes : List UInt8) : Except Malformed (List Char) :=
  decodeFrom 0 0 bytes

/-- Decode leniently; `skip` bytes at the front belong to a piece already read. -/
def decodeLossyFrom (skip : Nat) : List UInt8 → List Char
  | [] => []
  | b :: rest =>
    match skip with
    | skip + 1 => decodeLossyFrom skip rest
    | 0 =>
      match piece b rest with
      | .scalar c size => c :: decodeLossyFrom (size - 1) rest
      | .malformed _ size => Char.ofNat 0xfffd :: decodeLossyFrom (size - 1) rest

/-- The text of the bytes with U+FFFD in the place of each malformed piece. -/
def decodeLossy (bytes : List UInt8) : List Char :=
  decodeLossyFrom 0 bytes

end OpcachePreload.Text.Utf8
