import ClassMetrics.ClassFile.Error

/-!
Reading a byte buffer front to back. A cursor holds the bytes still to read and the offset of
the first of them; every read either takes bytes from the front or reports a truncation at the
offset where it started. Numbers are big-endian.
-/

namespace ClassMetrics.ClassFile

/-- The unread part of a buffer and its offset from the buffer's start. -/
structure Cursor where
  rest : List UInt8
  pos : Nat
  deriving Repr

/-- A reader of a value from the front of a buffer. -/
abbrev Decoder := StateT Cursor (Except FormatError)

/-- The number whose big-endian bytes these are. -/
def bigEndian (bytes : List UInt8) : Nat :=
  bytes.foldl (fun acc b => acc * 256 + b.toNat) 0

namespace Decoder

variable {α : Type}

/-- Runs a reader over a whole buffer, starting at offset zero. -/
def run (d : Decoder α) (bytes : List UInt8) : Except FormatError (α × Cursor) :=
  StateT.run d ⟨bytes, 0⟩

/-- Runs a reader over a whole buffer and keeps only its value. -/
def runValue (d : Decoder α) (bytes : List UInt8) : Except FormatError α :=
  (run d bytes).map Prod.fst

/-- Fails with the given cause, or goes on with the value. -/
def lift (r : Except FormatError α) : Decoder α :=
  fun c => r.map fun a => (a, c)

/-- The offset of the next byte. -/
def position : Decoder Nat :=
  fun c => .ok (c.pos, c)

/-- Whether all bytes have been read. -/
def atEnd : Decoder Bool :=
  fun c => .ok (c.rest.isEmpty, c)

/-- The next `n` bytes; fewer left is a truncation at the current offset. -/
def take (n : Nat) : Decoder (List UInt8) :=
  fun c =>
    let front := c.rest.take n
    if front.length = n then .ok (front, ⟨c.rest.drop n, c.pos + n⟩)
    else .error (.truncated c.pos)

/-- Passes over the next `n` bytes. -/
def skip (n : Nat) : Decoder Unit :=
  fun c => (take n c).map fun (_, c') => ((), c')

/-- One byte. -/
def u1 : Decoder Nat :=
  fun c =>
    match c.rest with
    | [] => .error (.truncated c.pos)
    | b :: r => .ok (b.toNat, ⟨r, c.pos + 1⟩)

/-- A two-byte unsigned number. -/
def u2 : Decoder Nat :=
  fun c => (take 2 c).map fun (b, c') => (bigEndian b, c')

/-- A four-byte unsigned number. -/
def u4 : Decoder Nat :=
  fun c => (take 4 c).map fun (b, c') => (bigEndian b, c')

/-- A four-byte number in two's complement. -/
def i4 : Decoder Int :=
  fun c => (u4 c).map fun (v, c') => (if v < 2 ^ 31 then (v : Int) else (v : Int) - 2 ^ 32, c')

/-- Reads `n` values one after another. -/
def times : Nat → Decoder α → Decoder (List α)
  | 0, _ => pure []
  | n + 1, d => do
    let a ← d
    let rest ← times n d
    pure (a :: rest)

end Decoder

end ClassMetrics.ClassFile
