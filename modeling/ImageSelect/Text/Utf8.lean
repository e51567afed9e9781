/-!
# UTF-8

A character is written as one to four bytes.  `readChar` reads one character
off the front of a byte list, or says how many bytes are at fault and why.
Decoding comes in two forms: `decodeReplacing` puts U+FFFD in place of each
faulty run, and `decodeStrict` stops at the first fault.
-/

namespace ImageSelect.Text.Utf8

/-- Why bytes are no UTF-8. -/
inductive Fault where
  | invalidStart
  | invalidContinuation
  | unexpectedEnd
  deriving Repr, DecidableEq

/-- What the front of a byte list holds. -/
inductive Front where
  | character (c : Char) (rest : List UInt8)
  | fault (why : Fault) (size : Nat) (rest : List UInt8)

/-- The bytes of one character. -/
def encodeChar (c : Char) : List UInt8 :=
  let code := c.toNat
  if code < 0x80 then [UInt8.ofNat code]
  else if code < 0x800 then [UInt8.ofNat (0xC0 + code / 64), UInt8.ofNat (0x80 + code % 64)]
  else if code < 0x10000 then
    [UInt8.ofNat (0xE0 + code / 4096), UInt8.ofNat (0x80 + code / 64 % 64),
      UInt8.ofNat (0x80 + code % 64)]
  else
    [UInt8.ofNat (0xF0 + code / 262144), UInt8.ofNat (0x80 + code / 4096 % 64),
      UInt8.ofNat (0x80 + code / 64 % 64), UInt8.ofNat (0x80 + code % 64)]

/-- The bytes of a text. -/
def encode (text : List Char) : List UInt8 :=
  text.flatMap encodeChar

/-- Whether a byte continues a character. -/
def isContinuation (b : UInt8) : Bool :=
  0x80 ≤ b.toNat && b.toNat < 0xC0

/-- Whether a byte may follow the first byte of a character of three or four
bytes: overlong forms, surrogates and codes above U+10FFFF are refused at
their second byte. -/
def mayFollow (first second : UInt8) : Bool :=
  isContinuation second &&
    (if first.toNat = 0xE0 then 0xA0 ≤ second.toNat
     else if first.toNat = 0xED then second.toNat < 0xA0
     else if first.toNat = 0xF0 then 0x90 ≤ second.toNat
     else if first.toNat = 0xF4 then second.toNat < 0x90
     else true)

/-- The six bits that a continuation byte carries. -/
def low (b : UInt8) : Nat :=
  b.toNat - 0x80

/-- Reads the rest of a character of two bytes. -/
def readTwo (first : UInt8) : List UInt8 → Front
  | [] => .fault .unexpectedEnd 1 []
  | second :: rest =>
    if isContinuation second then
      .character (Char.ofNat ((first.toNat - 0xC0) * 64 + low second)) rest
    else .fault .invalidContinuation 1 (second :: rest)

/-- Reads the rest of a character of three bytes. -/
def readThree (first : UInt8) : List UInt8 → Front
  | [] => .fault .unexpectedEnd 1 []
  | second :: rest =>
    if mayFollow first second then
      match rest with
      | [] => .fault .unexpectedEnd 2 []
      | third :: rest =>
        if isContinuation third then
          .character
            (Char.ofNat ((first.toNat - 0xE0) * 4096 + low second * 64 + low third)) rest
        else .fault .invalidContinuation 2 (third :: rest)
    else .fault .invalidContinuation 1 (second :: rest)

/-- Reads the rest of a character of four bytes. -/
def readFour (first : UInt8) : List UInt8 → Front
  | [] => .fault .unexpectedEnd 1 []
  | second :: rest =>
    if mayFollow first second then
      match rest with
      | [] => .fault .unexpectedEnd 2 []
      | third :: rest =>
        if isContinuation third then
          match rest with
          | [] => .fault .unexpectedEnd 3 []
          | fourth :: rest =>
            if isContinuation fourth then
              .character
                (Char.ofNat ((first.toNat - 0xF0) * 262144 + low second * 4096 +
                  low third * 64 + low fourth)) rest
            else .fault .invalidContinuation 3 (fourth :: rest)
        else .fault .invalidContinuation 2 (third :: rest)
    else .fault .invalidContinuation 1 (second :: rest)

/-- Reads the character that starts with the byte `first`. -/
def readChar (first : UInt8) (rest : List UInt8) : Front :=
  if first.toNat < 0x80 then .character (Char.ofNat first.toNat) rest
  else if first.toNat < 0xC2 then .fault .invalidStart 1 rest
  else if first.toNat < 0xE0 then readTwo first rest
  else if first.toNat < 0xF0 then readThree first rest
  else if first.toNat < 0xF5 then readFour first rest
  else .fault .invalidStart 1 rest

/-- The bytes behind the front. -/
def Front.rest : Front → List UInt8
  | .character _ rest => rest
  | .fault _ _ rest => rest

/-- The bytes behind the front are no more than those after its first. -/
theorem readChar_rest_length (first : UInt8) (rest : List UInt8) :
    (readChar first rest).rest.length ≤ rest.length := by
  unfold readChar readTwo readThree readFour
  repeat' split
  all_goals simp [Front.rest]
  all_goals omega

/-- The text of a byte list, with U+FFFD for each faulty run. -/
def decodeReplacing : List UInt8 → List Char
  | [] => []
  | b :: bs =>
    have := readChar_rest_length b bs
    match h : readChar b bs with
    | .character c rest =>
      have : rest.length ≤ bs.length := by rw [h] at this; exact this
      c :: decodeReplacing rest
    | .fault _ _ rest =>
      have : rest.length ≤ bs.length := by rw [h] at this; exact this
      Char.ofNat 0xFFFD :: decodeReplacing rest
  termination_by bytes => bytes.length

/-- The faulty run that stops a strict reading: the bytes before it, the
bytes from its start on, its size and the fault. -/
structure Stop where
  position : Nat
  bytes : List UInt8
  size : Nat
  why : Fault
  deriving Repr, DecidableEq

/-- The text of a byte list up to its first fault. -/
def decodeUpTo (position : Nat) : List UInt8 → List Char × Option Stop
  | [] => ([], none)
  | b :: bs =>
    have := readChar_rest_length b bs
    match h : readChar b bs with
    | .character c rest =>
      have : rest.length ≤ bs.length := by rw [h] at this; exact this
      let (text, stop) := decodeUpTo (position + (bs.length + 1 - rest.length)) rest
      (c :: text, stop)
    | .fault why size _ => ([], some ⟨position, b :: bs, size, why⟩)
  termination_by bytes => bytes.length

/-- The text of a byte list, if it has no fault. -/
def decodeStrict (bytes : List UInt8) : Except Stop (List Char) :=
  match decodeUpTo 0 bytes with
  | (text, none) => .ok text
  | (_, some stop) => .error stop

/-- The wording of a fault. -/
def Fault.reason : Fault → String
  | .invalidStart => "invalid start byte"
  | .invalidContinuation => "invalid continuation byte"
  | .unexpectedEnd => "unexpected end of data"

/-- Two lower-case hexadecimal digits of a byte. -/
def hexByte (b : UInt8) : String :=
  String.ofList [Nat.digitChar (b.toNat / 16), Nat.digitChar (b.toNat % 16)]

/-- What is said of the bytes that stopped a reading. -/
def Stop.message (stop : Stop) : String :=
  let place :=
    if stop.size = 1 then
      "byte 0x" ++ hexByte (stop.bytes.headD 0) ++ " in position " ++ toString stop.position
    else
      "bytes in position " ++ toString stop.position ++ "-" ++
        toString (stop.position + stop.size - 1)
  "'utf-8' codec can't decode " ++ place ++ ": " ++ stop.why.reason

/-- Reads a stream of blocks of `size` bytes.  A character may run over the
end of a block; the bytes of one that the block leaves open are read again
with the next block, and positions count from the first byte read again. -/
def decodeBlocks (size : Nat) (pending : List UInt8) :
    List UInt8 → Except Stop (List Char)
  | [] =>
    match pending with
    | [] => .ok []
    | bytes => decodeStrict bytes
  | b :: bs =>
    let block := pending ++ b :: bs.take size
    match decodeUpTo 0 block with
    | (text, none) => (decodeBlocks size [] (bs.drop size)).map (text ++ ·)
    | (text, some stop) =>
      if stop.why = .unexpectedEnd then
        (decodeBlocks size stop.bytes (bs.drop size)).map (text ++ ·)
      else .error stop
  termination_by bytes => bytes.length
  decreasing_by all_goals simp only [List.length_drop, List.length_cons]; omega

/-- The text of a file, read block by block of 8192 bytes. -/
def decodeFile (bytes : List UInt8) : Except Stop (List Char) :=
  decodeBlocks 8191 [] bytes

end ImageSelect.Text.Utf8
