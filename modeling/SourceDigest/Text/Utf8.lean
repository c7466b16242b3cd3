/-!
Strict UTF-8. Overlong forms, surrogates and code points past the last plane are refused, and a
refusal says which of three things is wrong with the first bad sequence.
-/

namespace SourceDigest.Utf8

/-- What is wrong with the first sequence that is not UTF-8. -/
inductive Fault where
  | invalidStart
  | invalidContinuation
  | truncated
  deriving DecidableEq, Repr, Inhabited

namespace Fault

def message : Fault → String
  | invalidStart => "invalid start byte"
  | invalidContinuation => "invalid continuation byte"
  | truncated => "unexpected end of data"

end Fault

/-- A byte after the first one of a sequence. -/
def isContinuation (b : UInt8) : Bool :=
  0x80 ≤ b && b < 0xc0

/-- The second byte of a sequence of three or four; some first bytes narrow it, so that each
character has one form. -/
def isSecond (first second : UInt8) : Bool :=
  isContinuation second &&
    (if first = 0xe0 then 0xa0 ≤ second
     else if first = 0xed then second < 0xa0
     else if first = 0xf0 then 0x90 ≤ second
     else if first = 0xf4 then second < 0x90
     else true)

/-- Six more bits of a code point. -/
def extend (n : Nat) (b : UInt8) : Nat :=
  n * 64 + (b.toNat - 0x80)

/-- Reads one sequence after another; `done` holds the characters read, the last one first. -/
def decodeFrom (done : List Char) : List UInt8 → Except Fault (List Char)
  | [] => .ok done.reverse
  | b :: rest =>
    if b < 0x80 then decodeFrom (Char.ofNat b.toNat :: done) rest
    else if b < 0xc2 then .error .invalidStart
    else if b < 0xe0 then
      match rest with
      | [] => .error .truncated
      | b₂ :: rest =>
        if isContinuation b₂ then
          decodeFrom (Char.ofNat (extend (b.toNat - 0xc0) b₂) :: done) rest
        else .error .invalidContinuation
    else if b < 0xf0 then
      match rest with
      | [] => .error .truncated
      | b₂ :: rest =>
        if !isSecond b b₂ then .error .invalidContinuation
        else
          match rest with
          | [] => .error .truncated
          | b₃ :: rest =>
            if isContinuation b₃ then
              decodeFrom (Char.ofNat (extend (extend (b.toNat - 0xe0) b₂) b₃) :: done) rest
            else .error .invalidContinuation
    else if b < 0xf5 then
      match rest with
      | [] => .error .truncated
      | b₂ :: rest =>
        if !isSecond b b₂ then .error .invalidContinuation
        else
          match rest with
          | [] => .error .truncated
          | b₃ :: rest =>
            if !isContinuation b₃ then .error .invalidContinuation
            else
              match rest with
              | [] => .error .truncated
              | b₄ :: rest =>
                if isContinuation b₄ then
                  let n := extend (extend (extend (b.toNat - 0xf0) b₂) b₃) b₄
                  decodeFrom (Char.ofNat n :: done) rest
                else .error .invalidContinuation
    else .error .invalidStart

/-- The characters of a whole file. -/
def decode (bytes : ByteArray) : Except Fault (List Char) :=
  decodeFrom [] bytes.toList

end SourceDigest.Utf8
