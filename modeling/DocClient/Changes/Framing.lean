import DocClient.Text.Blank
/-!
Framing a change feed body into records at line feeds, dropping blank heartbeat lines. The
framer reads one byte at a time, so the cut of the body into reads does not matter.
-/
namespace DocClient

/-- The record in progress (newest byte first) and the records found, oldest first. -/
structure Framer where
  pendingBytes : List UInt8 := []
  records : List (List UInt8) := []
  deriving DecidableEq, Repr

namespace Framer

/-- The line feed byte. -/
def lineFeed : UInt8 := 10

/-- A line that holds something besides ASCII blanks. -/
def isRecord (line : List UInt8) : Bool := line.any fun b => !Blank.isAsciiBlank b

/-- Take one byte: a line feed closes the record in progress unless it is blank. -/
def step (f : Framer) (b : UInt8) : Framer :=
  if b = lineFeed then
    let line := f.pendingBytes.reverse
    { pendingBytes := [], records := if isRecord line then f.records ++ [line] else f.records }
  else { f with pendingBytes := b :: f.pendingBytes }

/-- Take a chunk of bytes. -/
def push (f : Framer) (chunk : List UInt8) : Framer := chunk.foldl step f

/-- The bytes of the record in progress, in order. -/
def tail (f : Framer) : List UInt8 := f.pendingBytes.reverse

@[simp] theorem push_nil (f : Framer) : f.push [] = f := rfl

@[simp] theorem push_cons (f : Framer) (b : UInt8) (bs : List UInt8) :
    f.push (b :: bs) = (f.step b).push bs := rfl

/-- Pushing two chunks is pushing their concatenation. -/
theorem push_append (f : Framer) (a b : List UInt8) : (f.push a).push b = f.push (a ++ b) := by
  simp [push, List.foldl_append]

/-- Pushing a list of chunks is pushing them joined. -/
theorem push_flatten (f : Framer) (chunks : List (List UInt8)) :
    chunks.foldl push f = f.push chunks.flatten := by
  induction chunks generalizing f with
  | nil => rfl
  | cons c cs ih => simp [List.foldl_cons, ih, push_append]

end Framer

end DocClient
