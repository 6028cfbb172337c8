import Crawl.Text.Quoted
/-!
# UTF-8

Encoding a text as bytes, and two ways of decoding bytes: strictly, where the first bad stretch is reported with
its place and reason, and forgivingly, where every bad stretch becomes one replacement character. A bad stretch
is the longest beginning of a well-formed sequence, or else one byte.
-/

namespace Crawl.Text.Utf8

/-- The bytes of one character. -/
def encodeChar (c : Char) : List UInt8 :=
  let n := c.toNat
  if n < 0x80 then [n.toUInt8]
  else if n < 0x800 then [(0xc0 + n / 64).toUInt8, (0x80 + n % 64).toUInt8]
  else if n < 0x10000 then
    [(0xe0 + n / 4096).toUInt8, (0x80 + n / 64 % 64).toUInt8, (0x80 + n % 64).toUInt8]
  else
    [(0xf0 + n / 262144).toUInt8, (0x80 + n / 4096 % 64).toUInt8, (0x80 + n / 64 % 64).toUInt8,
      (0x80 + n % 64).toUInt8]

/-- The bytes of a text. -/
def encode (cs : List Char) : List UInt8 := cs.flatMap encodeChar

/-- Why a stretch of bytes is no character. -/
inductive Reason
  | start
  | continuation
  | truncated
deriving DecidableEq, Repr

/-- The words for a reason. -/
def Reason.text : Reason → String
  | .start => "invalid start byte"
  | .continuation => "invalid continuation byte"
  | .truncated => "unexpected end of data"

/-- A bad stretch: its first byte, where it starts, how long it is, and why it is bad. -/
structure Fault where
  first : UInt8
  position : Nat
  length : Nat
  reason : Reason
deriving DecidableEq, Repr

/-- The message for a bad stretch. -/
def Fault.message (f : Fault) : String :=
  let place :=
    if f.length == 1 then
      "byte 0x" ++ String.ofList (hexDigits 2 f.first.toNat) ++ " in position " ++ toString f.position
    else "bytes in position " ++ toString f.position ++ "-" ++ toString (f.position + f.length - 1)
  "'utf-8' codec can't decode " ++ place ++ ": " ++ f.reason.text

/-- The least and greatest second byte after a first byte, and how many bytes follow the first. -/
def shape (b : Nat) : Option (Nat × Nat × Nat) :=
  if 0xc2 ≤ b && b ≤ 0xdf then some (0x80, 0xbf, 1)
  else if b == 0xe0 then some (0xa0, 0xbf, 2)
  else if b == 0xed then some (0x80, 0x9f, 2)
  else if 0xe1 ≤ b && b ≤ 0xef then some (0x80, 0xbf, 2)
  else if b == 0xf0 then some (0x90, 0xbf, 3)
  else if b == 0xf4 then some (0x80, 0x8f, 3)
  else if 0xf1 ≤ b && b ≤ 0xf3 then some (0x80, 0xbf, 3)
  else none

/-- What stands at the start of some bytes: a character or a bad stretch, with its length. -/
inductive Head
  | char (c : Char) (length : Nat)
  | bad (length : Nat) (reason : Reason)

/-- Reads the `left` further bytes of a sequence, the next of them between `lo` and `hi`. -/
def tail (lo hi : Nat) : (left value taken : Nat) → List UInt8 → Head
  | 0, value, taken, _ => .char (Char.ofNat value) taken
  | _ + 1, _, taken, [] => .bad taken .truncated
  | left + 1, value, taken, b :: bs =>
    if lo ≤ b.toNat && b.toNat ≤ hi then tail 0x80 0xbf left (value * 64 + (b.toNat - 0x80)) (taken + 1) bs
    else .bad taken .continuation

/-- What stands at the start of the bytes `b :: bs`. -/
def head (b : UInt8) (bs : List UInt8) : Head :=
  if b.toNat < 0x80 then .char (Char.ofNat b.toNat) 1
  else match shape b.toNat with
    | none => .bad 1 .start
    | some (lo, hi, left) =>
      let lead := if left == 1 then b.toNat - 0xc0 else if left == 2 then b.toNat - 0xe0 else b.toNat - 0xf0
      tail lo hi left lead 1 bs

/-- Decodes bytes from position `at`, skipping first the `skip` bytes that are already read. -/
def decodeFrom : (position skip : Nat) → List UInt8 → Except Fault (List Char)
  | _, _, [] => .ok []
  | position, skip + 1, _ :: bs => decodeFrom (position + 1) skip bs
  | position, 0, b :: bs =>
    match head b bs with
    | .char c n => (decodeFrom (position + 1) (n - 1) bs).map (c :: ·)
    | .bad n reason => .error ⟨b, position, n, reason⟩

/-- Decodes bytes, or reports the first bad stretch. -/
def decode (bs : List UInt8) : Except Fault (List Char) := decodeFrom 0 0 bs

/-- Decodes bytes with a replacement character for each bad stretch, after `skip` bytes that are already read. -/
def decodeForgivingFrom : (skip : Nat) → List UInt8 → List Char
  | _, [] => []
  | skip + 1, _ :: bs => decodeForgivingFrom skip bs
  | 0, b :: bs =>
    match head b bs with
    | .char c n => c :: decodeForgivingFrom (n - 1) bs
    | .bad n _ => '\ufffd' :: decodeForgivingFrom (n - 1) bs

/-- Decodes bytes with a replacement character for each bad stretch. -/
def decodeForgiving (bs : List UInt8) : List Char := decodeForgivingFrom 0 bs

end Crawl.Text.Utf8
