/-
PatternSearch.Host.Buffer — bytes as a host passes them.

A host passes a pointer and a length. The null pointer stands for the empty
text whatever the length says; any other pointer comes with as many bytes as
its length.
-/
import PatternSearch.Text.Lossy

namespace PatternSearch.Host

/-- Bytes a host has passed. -/
inductive Buffer where
  /-- The null pointer. -/
  | null
  /-- The address of some bytes. -/
  | content (bytes : ByteArray)

namespace Buffer

/-- The buffer of a pointer and a length. -/
def ofParts (pointer : Option ByteArray) (length : Nat) : Buffer :=
  match pointer with
  | none => null
  | some bytes => content (bytes.extract 0 length)

/-- The bytes. -/
def bytes : Buffer → ByteArray
  | null => .empty
  | content bs => bs

/-- The number of bytes. -/
def length (b : Buffer) : Nat := b.bytes.size

/-- Whether there are no bytes. -/
def isEmpty (b : Buffer) : Bool := b.length == 0

/-- The bytes as text. -/
def str (b : Buffer) : String := Text.lossy b.bytes

/-- The address of the buffer, where it can be told. -/
def address? : Buffer → Option String
  | null => some "0x0"
  | content _ => none

/-- The buffer for diagnostics, where its address can be told. -/
def shown? (b : Buffer) : Option String :=
  b.address?.map (fun a => s!"CBuf({a}, {b.length})")

end Buffer

end PatternSearch.Host
