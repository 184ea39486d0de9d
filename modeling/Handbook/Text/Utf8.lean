/-!
Reading UTF-8. A decoder that stops at the first fault and says what is wrong and which bytes are to
blame, and the one line ending that texts have after reading. A byte order mark is kept.
-/

namespace Handbook.Text.Utf8

/-- What is wrong with a byte sequence. -/
inductive Cause where
  | invalidStart
  | invalidContinuation
  | unexpectedEnd
  deriving Repr, DecidableEq

/-- A fault: its cause, the position of the first byte to blame, that byte, and how many there are. -/
structure Fault where
  cause : Cause
  position : Nat
  byte : UInt8
  size : Nat
  deriving Repr, DecidableEq

/-- What the first byte of a sequence announces: one, two, three or four bytes, with the limits that the
second byte of a longer sequence keeps to, or nothing valid. -/
inductive Lead where
  | single
  | pair
  | triple (low high : UInt8)
  | quad (low high : UInt8)
  | none

/-- The announcement that a byte makes. Overlong forms, surrogates and code points beyond the last one
are excluded by the limits. -/
def lead (byte : UInt8) : Lead :=
  if byte < 0x80 then .single
  else if byte < 0xC2 then .none
  else if byte < 0xE0 then .pair
  else if byte = 0xE0 then .triple 0xA0 0xBF
  else if byte = 0xED then .triple 0x80 0x9F
  else if byte < 0xF0 then .triple 0x80 0xBF
  else if byte = 0xF0 then .quad 0x90 0xBF
  else if byte < 0xF4 then .quad 0x80 0xBF
  else if byte = 0xF4 then .quad 0x80 0x8F
  else .none

def continues (byte : UInt8) : Bool := 0x80 ≤ byte && byte ≤ 0xBF

/-- The six bits that a continuation byte carries, below the bits already read. -/
def extend (bits : Nat) (byte : UInt8) : Nat := bits * 64 + (byte.toNat - 0x80)

/-- The characters of a byte sequence that starts at the given position. -/
def decodeFrom (position : Nat) : List UInt8 → Except Fault (List Char)
  | [] => .ok []
  | first :: afterFirst =>
    let fault cause size : Except Fault (List Char) := .error ⟨cause, position, first, size⟩
    match lead first with
    | .none => fault .invalidStart 1
    | .single => return Char.ofNat first.toNat :: (← decodeFrom (position + 1) afterFirst)
    | .pair =>
      match afterFirst with
      | [] => fault .unexpectedEnd 1
      | second :: rest =>
        if continues second then
          return Char.ofNat (extend (first.toNat - 0xC0) second) :: (← decodeFrom (position + 2) rest)
        else fault .invalidContinuation 1
    | .triple low high =>
      match afterFirst with
      | [] => fault .unexpectedEnd 1
      | second :: afterSecond =>
        if low ≤ second && second ≤ high then
          match afterSecond with
          | [] => fault .unexpectedEnd 2
          | third :: rest =>
            if continues third then
              return Char.ofNat (extend (extend (first.toNat - 0xE0) second) third)
                :: (← decodeFrom (position + 3) rest)
            else fault .invalidContinuation 2
        else fault .invalidContinuation 1
    | .quad low high =>
      match afterFirst with
      | [] => fault .unexpectedEnd 1
      | second :: afterSecond =>
        if low ≤ second && second ≤ high then
          match afterSecond with
          | [] => fault .unexpectedEnd 2
          | third :: afterThird =>
            if continues third then
              match afterThird with
              | [] => fault .unexpectedEnd 3
              | fourth :: rest =>
                if continues fourth then
                  return Char.ofNat
                      (extend (extend (extend (first.toNat - 0xF0) second) third) fourth)
                    :: (← decodeFrom (position + 4) rest)
                else fault .invalidContinuation 3
            else fault .invalidContinuation 2
        else fault .invalidContinuation 1

def decode (bytes : List UInt8) : Except Fault (List Char) := decodeFrom 0 bytes

/-- Every line ending as a line feed: a carriage return counts as one, alone or before a line feed. -/
def unifyLines : List Char → List Char
  | [] => []
  | '\r' :: '\n' :: rest => '\n' :: unifyLines rest
  | '\r' :: rest => '\n' :: unifyLines rest
  | c :: rest => c :: unifyLines rest

def Cause.message : Cause → String
  | .invalidStart => "invalid start byte"
  | .invalidContinuation => "invalid continuation byte"
  | .unexpectedEnd => "unexpected end of data"

/-- The words for a fault: one byte is shown, several are named by their positions. -/
def Fault.message (fault : Fault) : String :=
  let place :=
    if fault.size = 1 then
      let digits := [fault.byte.toNat / 16, fault.byte.toNat % 16].map Nat.digitChar
      s!"byte 0x{String.ofList digits} in position {fault.position}"
    else
      s!"bytes in position {fault.position}-{fault.position + fault.size - 1}"
  s!"'utf-8' codec can't decode {place}: {fault.cause.message}"

theorem decode_ascii (bytes : List UInt8) (ascii : ∀ byte ∈ bytes, byte < 0x80) (position : Nat) :
    decodeFrom position bytes = .ok (bytes.map fun byte => Char.ofNat byte.toNat) := by
  induction bytes generalizing position with
  | nil => rfl
  | cons byte rest ih =>
    have below := ascii byte (by simp)
    have later := ih (fun b member => ascii b (by simp [member])) (position + 1)
    unfold decodeFrom
    simp [lead, below, later, bind, Except.bind, pure, Except.pure]

end Handbook.Text.Utf8
