/-!
# UTF-8

Bytes are cut into pieces: characters, and maximal runs of bytes that begin a character but do not
complete it. Strict decoding reports the first such run and where it stands; display decoding puts
one replacement character for each run.
-/

namespace SqlReplay

/-- Bytes as they stand in a file, a path or an environment variable. -/
abbrev Bytes := List UInt8

namespace Utf8

/-- The bytes of a text. -/
def encode (cs : List Char) : Bytes := cs.flatMap String.utf8EncodeChar

/-- The bytes of a string. -/
def ofString (s : String) : Bytes := encode s.toList

/-- A piece of a byte sequence. -/
inductive Piece
  /-- A complete character. -/
  | char (c : Char)
  /-- `width` bytes that no character continues. -/
  | broken (width : Nat)
  /-- The last `width` bytes, which begin a character. -/
  | cut (width : Nat)
deriving DecidableEq

/-- Whether a byte lies in a range. -/
def within (b : UInt8) (lo hi : Nat) : Bool := lo ≤ b.toNat && b.toNat ≤ hi

/-- Whether a byte continues a character. -/
def isContinuation (b : UInt8) : Bool := within b 0x80 0xBF

/-- Whether `b` can stand second in a character of three bytes that begins with `a`. -/
def isSecondOfThree (a b : UInt8) : Bool :=
  if a = 0xE0 then within b 0xA0 0xBF
  else if a = 0xED then within b 0x80 0x9F
  else isContinuation b

/-- Whether `b` can stand second in a character of four bytes that begins with `a`. -/
def isSecondOfFour (a b : UInt8) : Bool :=
  if a = 0xF0 then within b 0x90 0xBF
  else if a = 0xF4 then within b 0x80 0x8F
  else isContinuation b

/-- The six low bits that a continuation byte carries. -/
def low (b : UInt8) : Nat := b.toNat % 64

/-- Cuts bytes into pieces. -/
def pieces : Bytes → List Piece
  | [] => []
  | a :: as =>
    if a.toNat < 0x80 then .char (Char.ofNat a.toNat) :: pieces as
    else if within a 0xC2 0xDF then
      match as with
      | [] => [.cut 1]
      | b :: bs =>
        if isContinuation b then .char (Char.ofNat (a.toNat % 32 * 64 + low b)) :: pieces bs
        else .broken 1 :: pieces (b :: bs)
    else if within a 0xE0 0xEF then
      match as with
      | [] => [.cut 1]
      | b :: bs =>
        if isSecondOfThree a b then
          match bs with
          | [] => [.cut 2]
          | c :: cs =>
            if isContinuation c then
              .char (Char.ofNat ((a.toNat % 16 * 64 + low b) * 64 + low c)) :: pieces cs
            else .broken 2 :: pieces (c :: cs)
        else .broken 1 :: pieces (b :: bs)
    else if within a 0xF0 0xF4 then
      match as with
      | [] => [.cut 1]
      | b :: bs =>
        if isSecondOfFour a b then
          match bs with
          | [] => [.cut 2]
          | c :: cs =>
            if isContinuation c then
              match cs with
              | [] => [.cut 3]
              | d :: ds =>
                if isContinuation d then
                  .char (Char.ofNat (((a.toNat % 8 * 64 + low b) * 64 + low c) * 64 + low d))
                    :: pieces ds
                else .broken 3 :: pieces (d :: ds)
            else .broken 2 :: pieces (c :: cs)
        else .broken 1 :: pieces (b :: bs)
    else .broken 1 :: pieces as

/-- Why bytes are no text: what is wrong, and after how many good bytes. -/
inductive Fault
  | invalid (width index : Nat)
  | incomplete (index : Nat)
deriving DecidableEq

/-- The fault in words. -/
def Fault.message : Fault → String
  | .invalid width index => s!"invalid utf-8 sequence of {width} bytes from index {index}"
  | .incomplete index => s!"incomplete utf-8 byte sequence from index {index}"

/-- The characters of pieces that begin at byte `index`, if all are characters. -/
def gather (index : Nat) : List Piece → Except Fault (List Char)
  | [] => .ok []
  | .char c :: ps => (gather (index + c.utf8Size) ps).map (c :: ·)
  | .broken width :: _ => .error (.invalid width index)
  | .cut _ :: _ => .error (.incomplete index)

/-- The text that the bytes encode. -/
def decode (bs : Bytes) : Except Fault (List Char) := gather 0 (pieces bs)

/-- The text that the bytes encode, if they encode one. -/
def decode? (bs : Bytes) : Option String :=
  match decode bs with
  | .ok cs => some (String.ofList cs)
  | .error _ => none

/-- A piece as shown to people. -/
def Piece.shown : Piece → Char
  | .char c => c
  | _ => '\uFFFD'

/-- The text that the bytes encode, with a replacement character for each faulty run. -/
def display (bs : Bytes) : String := String.ofList ((pieces bs).map Piece.shown)

end Utf8

end SqlReplay
