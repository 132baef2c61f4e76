import ViewOutline.Text.Quoted

/-!
# Reading UTF-8

Bytes are cut into pieces: a piece is a character, or a longest run of bytes
that could have begun one and did not.  Reading with repair puts the
replacement character in the place of every such run; strict reading refuses
the first of them and says where and why.
-/

namespace ViewOutline.Text.Utf8

/-- Why bytes are not a character. -/
inductive Fault where
  /-- No character starts with this byte. -/
  | invalidStart
  /-- A byte cannot follow the bytes before it. -/
  | invalidContinuation
  /-- The bytes end in the middle of a character. -/
  | unexpectedEnd
  deriving DecidableEq

/-- The wording of a fault. -/
def Fault.message : Fault → String
  | .invalidStart => "invalid start byte"
  | .invalidContinuation => "invalid continuation byte"
  | .unexpectedEnd => "unexpected end of data"

/-- A character, or a run of bytes that is none. -/
inductive Piece where
  | char (value : Char)
  | invalid (fault : Fault)

/-- A piece of a text and the number of its bytes after the first. -/
structure Cut where
  piece : Piece
  following : Nat

/-- Read `count` further bytes of a character of which `value` has been read.
The first of them lies between `low` and `high`, the others anywhere in the
continuation range; `following` bytes were read before them. -/
def continueChar : Nat → Nat → Nat → Nat → Nat → List UInt8 → Cut
  | 0, _, _, value, following, _ => ⟨.char (Char.ofNat value), following⟩
  | _ + 1, _, _, _, following, [] => ⟨.invalid .unexpectedEnd, following⟩
  | count + 1, low, high, value, following, byte :: rest =>
      if low ≤ byte.toNat ∧ byte.toNat ≤ high then
        continueChar count 0x80 0xbf (value * 0x40 + (byte.toNat - 0x80)) (following + 1) rest
      else
        ⟨.invalid .invalidContinuation, following⟩

/-- The first piece of some bytes, given its first byte. -/
def firstPiece (byte : UInt8) (rest : List UInt8) : Cut :=
  let b := byte.toNat
  if b < 0x80 then ⟨.char (Char.ofNat b), 0⟩
  else if b < 0xc2 then ⟨.invalid .invalidStart, 0⟩
  else if b < 0xe0 then continueChar 1 0x80 0xbf (b - 0xc0) 0 rest
  else if b = 0xe0 then continueChar 2 0xa0 0xbf (b - 0xe0) 0 rest
  else if b = 0xed then continueChar 2 0x80 0x9f (b - 0xe0) 0 rest
  else if b < 0xf0 then continueChar 2 0x80 0xbf (b - 0xe0) 0 rest
  else if b = 0xf0 then continueChar 3 0x90 0xbf (b - 0xf0) 0 rest
  else if b = 0xf4 then continueChar 3 0x80 0x8f (b - 0xf0) 0 rest
  else if b < 0xf4 then continueChar 3 0x80 0xbf (b - 0xf0) 0 rest
  else ⟨.invalid .invalidStart, 0⟩

/-- Read bytes, with the replacement character for what is no character. -/
def decodeLossy : List UInt8 → List Char
  | [] => []
  | byte :: rest =>
      let cut := firstPiece byte rest
      let c := match cut.piece with
        | .char value => value
        | .invalid _ => '�'
      c :: decodeLossy (rest.drop cut.following)
termination_by bytes => bytes.length
decreasing_by simp only [List.length_drop, List.length_cons]; omega

/-- The place and the cause of a refusal: the position and number of the bytes
that are no character, the first of them, and the fault. -/
structure DecodeError where
  position : Nat
  size : Nat
  first : UInt8
  fault : Fault

/-- The wording of a refusal. -/
def DecodeError.message (error : DecodeError) : String :=
  let place :=
    if error.size = 1 then
      s!"byte 0x{String.ofList (hexDigits 2 error.first.toNat)} in position {error.position}"
    else
      s!"bytes in position {error.position}-{error.position + error.size - 1}"
  s!"'utf-8' codec can't decode {place}: {error.fault.message}"

/-- Read bytes that start at a position, refusing what is no character. -/
def decodeFrom (position : Nat) : List UInt8 → Except DecodeError (List Char)
  | [] => .ok []
  | byte :: rest =>
      let cut := firstPiece byte rest
      match cut.piece with
      | .char value =>
          (decodeFrom (position + cut.following + 1) (rest.drop cut.following)).map (value :: ·)
      | .invalid fault => .error ⟨position, cut.following + 1, byte, fault⟩
termination_by bytes => bytes.length
decreasing_by simp only [List.length_drop, List.length_cons]; omega

/-- Read bytes, refusing what is no character. -/
def decode (bytes : List UInt8) : Except DecodeError (List Char) :=
  decodeFrom 0 bytes

end ViewOutline.Text.Utf8
