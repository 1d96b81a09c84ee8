import GraphSchema.Text.Quoted

/-! Text as bytes: UTF-8 in both directions, and for writing two encodings of one byte each as well.
A file may be written by any codec that goes by a name; these three stand for them all. -/
namespace GraphSchema.Text

abbrev Bytes := List UInt8

inductive DecodeFault where
  | startByte | continuationByte | unexpectedEnd
  deriving DecidableEq, Repr

def DecodeFault.message : DecodeFault → String
  | .startByte => "invalid start byte"
  | .continuationByte => "invalid continuation byte"
  | .unexpectedEnd => "unexpected end of data"

/-- The bytes from `position` on, `width` of them, begin no character; `byte` is the first. -/
structure DecodeError where
  position : Nat
  width : Nat
  byte : UInt8
  fault : DecodeFault
  deriving DecidableEq, Repr

def DecodeError.message (e : DecodeError) : String :=
  let place :=
    if e.width = 1 then
      "byte 0x" ++ String.ofList (hex 2 e.byte.toNat) ++ " in position " ++ toString e.position
    else
      "bytes in position " ++ toString e.position ++ "-" ++ toString (e.position + e.width - 1)
  "'utf-8' codec can't decode " ++ place ++ ": " ++ e.fault.message

/-- The bounds of the byte after a lead byte; they leave out long forms, surrogates, and what lies
beyond the last code point. -/
def secondByteBounds (lead : Nat) : Nat × Nat :=
  if lead = 0xe0 then (0xa0, 0xbf)
  else if lead = 0xed then (0x80, 0x9f)
  else if lead = 0xf0 then (0x90, 0xbf)
  else if lead = 0xf4 then (0x80, 0x8f)
  else (0x80, 0xbf)

/-- Adds `missing` continuation bytes to the code point read from `seen` bytes so far. -/
def readContinuation (bounds : Nat × Nat) (code seen : Nat) :
    (missing : Nat) → Bytes → Except (Nat × DecodeFault) Nat
  | 0, _ => .ok code
  | _ + 1, [] => .error (seen, .unexpectedEnd)
  | m + 1, b :: bs =>
    if bounds.1 ≤ b.toNat ∧ b.toNat ≤ bounds.2 then
      readContinuation (0x80, 0xbf) (code * 64 + b.toNat % 64) (seen + 1) m bs
    else .error (seen, .continuationByte)

/-- The code point that starts with a byte, and the number of bytes that follow it. -/
def readCodePoint (b : UInt8) (bs : Bytes) : Except (Nat × DecodeFault) (Nat × Nat) :=
  let n := b.toNat
  if n < 0x80 then .ok (n, 0)
  else if n < 0xc2 then .error (1, .startByte)
  else if n < 0xe0 then (readContinuation (secondByteBounds n) (n % 32) 1 1 bs).map (·, 1)
  else if n < 0xf0 then (readContinuation (secondByteBounds n) (n % 16) 1 2 bs).map (·, 2)
  else if n < 0xf5 then (readContinuation (secondByteBounds n) (n % 8) 1 3 bs).map (·, 3)
  else .error (1, .startByte)

def decodeFrom (position : Nat) : Bytes → Except DecodeError (List Char)
  | [] => .ok []
  | b :: bs =>
    match readCodePoint b bs with
    | .error (width, fault) => .error ⟨position, width, b, fault⟩
    | .ok (n, more) =>
      match decodeFrom (position + 1 + more) (bs.drop more) with
      | .error e => .error e
      | .ok cs => .ok (charOf n :: cs)
  termination_by bs => bs.length
  decreasing_by simp only [List.length_drop, List.length_cons]; omega

def decode (bytes : Bytes) : Except DecodeError (List Char) := decodeFrom 0 bytes

inductive Encoding where
  | utf8 | latin1 | ascii
  deriving DecidableEq, Repr

/-- The number of code points that an encoding can hold, those of halves left aside. -/
def Encoding.limit : Encoding → Nat
  | .utf8 => 0x110000
  | .latin1 => 256
  | .ascii => 128

/-- No encoding holds half of a pair on its own. -/
def Encoding.holds (e : Encoding) (c : Char) : Bool := c.toNat < e.limit && !isHalf c

def Encoding.bytes : Encoding → Char → Bytes
  | .utf8, c => String.utf8EncodeChar c
  | _, c => [UInt8.ofNat c.toNat]

def Encoding.name : Encoding → String
  | .utf8 => "utf-8"
  | .latin1 => "latin-1"
  | .ascii => "ascii"

/-- The first run of characters that an encoding cannot hold, and its place in the text. -/
structure EncodeError where
  encoding : Encoding
  limit : Nat
  position : Nat
  first : Char
  width : Nat
  deriving DecidableEq, Repr

def EncodeError.message (e : EncodeError) : String :=
  let place :=
    if e.width = 1 then
      "character '" ++ String.ofList (escapeCode (codePoint e.first)) ++ "' in position " ++
        toString e.position
    else
      "characters in position " ++ toString e.position ++ "-" ++
        toString (e.position + e.width - 1)
  let reason :=
    if e.encoding = .utf8 then "surrogates not allowed"
    else "ordinal not in range(" ++ toString e.limit ++ ")"
  "'" ++ e.encoding.name ++ "' codec can't encode " ++ place ++ ": " ++ reason

def encode (encoding : Encoding) (cs : List Char) : Except EncodeError Bytes :=
  match cs.dropWhile encoding.holds with
  | [] => .ok (cs.flatMap encoding.bytes)
  | c :: rest =>
    .error ⟨encoding, encoding.limit, (cs.takeWhile encoding.holds).length, c,
      1 + (rest.takeWhile fun d => !encoding.holds d).length⟩

end GraphSchema.Text
