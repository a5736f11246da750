import PciInventory.Text.Lines
import PciInventory.Text.Utf8

/-!
# Lines read in chunks

A file that is read line by line is decoded a chunk of bytes at a time, and only as far as lines are
asked for. If the file is not UTF-8, the reading fails at the chunk with the first fault, and the
lines that end in the chunks before it have been handed out by then.
-/
namespace PciInventory.Text

namespace Utf8

/-- How many bytes are read before the first that completes a fault. -/
def clearCount (e : Expectation) : List UInt8 → Nat
  | [] => 0
  | b :: rest =>
    let next := step e b.toNat
    if none ∈ next.1 then 0 else clearCount next.2 rest + 1

/-- The bytes of the chunks before the first fault. A character that is left unfinished is a fault
only at the end of the file, behind its last chunk. -/
def clearChunks (size : Nat) (bytes : List UInt8) : List UInt8 :=
  let clear := clearCount .start bytes
  if clear = bytes.length then bytes else bytes.take (clear / size * size)

/-- What some bytes complete, however they go on. -/
def completedFrom : Expectation → List UInt8 → Reading
  | _, [] => []
  | e, b :: rest =>
    let next := step e b.toNat
    next.1 ++ completedFrom next.2 rest

/-- The characters that some bytes complete. -/
def completed (bytes : List UInt8) : Text := (completedFrom .start bytes).filterMap id

end Utf8

/-- The bytes of a chunk, as the runtime reads text files for which no other size is asked. -/
def chunkSize : Nat := 8192

/-- The lines that are handed out of a file before the reading fails. A carriage return at the end
of a chunk may be followed by a line feed and ends no line yet. -/
def linesBeforeFault (size : Nat) (bytes : List UInt8) : List Text :=
  let t := Utf8.completed (Utf8.clearChunks size bytes)
  ((unifyLineEnds (dropEnding ['\r'] t)).splitOn '\n').dropLast

example : linesBeforeFault 4 ("a\nb\nc\n".toList.flatMap Utf8.encodeChar ++ [0xFF]) =
    ["a".toList, "b".toList] := by decide
example : linesBeforeFault 4 ("a\nb\r".toList.flatMap Utf8.encodeChar ++ [0x0A, 0xFF]) =
    ["a".toList] := by decide
example : linesBeforeFault 4 ("a\nb\nc\n".toList.flatMap Utf8.encodeChar ++ [0xC3]) =
    ["a".toList, "b".toList, "c".toList] := by decide

end PciInventory.Text
