/-!
# UTF-8

Bytes are decoded strictly. A fault says where the first sequence is that is no character, how many bytes it has, and
why. A sequence that the end of the bytes cuts off counts its place from its own first byte.
-/
namespace MetricExpr.Text

/-- Why bytes are no character. -/
inductive ByteFault where
  | start
  | continuation
  | ending
  deriving DecidableEq, Repr

/-- Bytes that are no character: their values and the place of the first one. -/
structure DecodeFault where
  bytes : List UInt8
  place : Nat
  cause : ByteFault
  deriving DecidableEq, Repr

def ByteFault.reason : ByteFault → String
  | start => "invalid start byte"
  | continuation => "invalid continuation byte"
  | ending => "unexpected end of data"

/-- A byte by two hexadecimal digits. -/
def byteText (b : UInt8) : String :=
  let cs := Nat.toDigits 16 b.toNat
  "0x" ++ String.ofList (List.replicate (2 - cs.length) '0' ++ cs)

def DecodeFault.message (f : DecodeFault) : String :=
  let what := match f.bytes with
    | [b] => "byte " ++ byteText b ++ " in position " ++ toString f.place
    | bs => "bytes in position " ++ toString f.place ++ "-" ++ toString (f.place + bs.length - 1)
  "'utf-8' codec can't decode " ++ what ++ ": " ++ f.cause.reason

/-- The lowest and highest second byte after a first one: no longer form than needed, no surrogate, no code point past
the last. -/
def secondRange (b : UInt8) : UInt8 × UInt8 :=
  if b == 0xE0 then (0xA0, 0xBF)
  else if b == 0xED then (0x80, 0x9F)
  else if b == 0xF0 then (0x90, 0xBF)
  else if b == 0xF4 then (0x80, 0x8F)
  else (0x80, 0xBF)

/-- How many bytes follow a first byte; none for a byte that cannot be first. -/
def followers? (b : UInt8) : Option Nat :=
  if b < 0x80 then some 0
  else if 0xC2 ≤ b && b < 0xE0 then some 1
  else if 0xE0 ≤ b && b < 0xF0 then some 2
  else if 0xF0 ≤ b && b < 0xF5 then some 3
  else none

/-- The payload bits of a first byte with this many followers. -/
def firstBits (b : UInt8) (followers : Nat) : Nat :=
  match followers with
  | 0 => b.toNat
  | 1 => b.toNat % 0x20
  | 2 => b.toNat % 0x10
  | _ => b.toNat % 0x08

/-- Read the followers of a character, given those read so far (last first), its code so far, the range of the next byte
and how many are still to come. -/
def decodeRest (taken : List UInt8) (code : Nat) (low high : UInt8) (place : Nat) :
    Nat → List UInt8 → Except DecodeFault (Nat × List UInt8)
  | 0, rest => .ok (code, rest)
  | _ + 1, [] => .error ⟨taken.reverse, 0, .ending⟩
  | n + 1, b :: rest =>
    if low ≤ b && b ≤ high then
      decodeRest (b :: taken) (code * 0x40 + b.toNat % 0x40) 0x80 0xBF place n rest
    else .error ⟨taken.reverse, place, .continuation⟩

theorem length_of_decodeRest {taken code low high place n bytes c rest}
    (h : decodeRest taken code low high place n bytes = .ok (c, rest)) : rest.length ≤ bytes.length := by
  induction bytes generalizing taken code low high n with
  | nil =>
    cases n with
    | zero => simp [decodeRest] at h; simp [h.2]
    | succ n => simp [decodeRest] at h
  | cons b bs ih =>
    cases n with
    | zero => simp [decodeRest] at h; simp [← h.2]
    | succ n =>
      rw [decodeRest] at h
      split at h
      · exact Nat.le_succ_of_le (ih h)
      · cases h

/-- The characters of bytes that stand at a place. -/
def decodeFrom (place : Nat) (bytes : List UInt8) : Except DecodeFault (List Char) :=
  match bytes with
  | [] => .ok []
  | b :: bs =>
    match followers? b with
    | none => .error ⟨[b], place, .start⟩
    | some n =>
      let (low, high) := secondRange b
      match h : decodeRest [b] (firstBits b n) low high place n bs with
      | .error fault => .error fault
      | .ok (code, rest) =>
        have := length_of_decodeRest h
        (decodeFrom (place + 1 + n) rest).map (Char.ofNat code :: ·)
termination_by bytes.length
decreasing_by simp; omega

/-- The text of bytes. -/
def decode (bytes : List UInt8) : Except DecodeFault String := (decodeFrom 0 bytes).map String.ofList

end MetricExpr.Text
