/-
# A range of a file

An `OpenFile` is read from one place to the next, and can be moved to any place that the system
can name.  A `FileRange` reads the bytes of such a file from one place to another.  It keeps a place
of its own beside that of the file.  Positions count from the start of the range, reads stop at its
end, and seeking moves the position anywhere behind the start, even beyond the end; what would lie
before the start is refused.
-/
import UrlTransfer.File.Tree

namespace UrlTransfer

/-- An open file, and the place where it is read next. -/
structure OpenFile where
  node : Node
  offset : Nat := 0

namespace OpenFile

/-- How far the system can seek. -/
def seekBound : Nat := 2 ^ 63

/-- How large a directory is. -/
def directorySize : Nat := 4096

/-- The size of what was opened. -/
def size (f : OpenFile) : Nat :=
  match f.node with
  | .file content => content.length
  | .directory => directorySize

/-- Reads at most `n` bytes. -/
def read (n : Nat) : Act IoError OpenFile Bytes := fun f =>
  match f.node with
  | .directory => .error (.failed (.ofSystem .isADirectory)) f
  | .file content =>
    let got := (content.drop f.offset).take n
    .ok got { f with offset := f.offset + got.length }

/-- The file at another place, which may lie behind its end.  **There are places that the system
cannot name.** -/
def moveTo (place : Nat) (f : OpenFile) : Except IoError OpenFile :=
  if place < seekBound then .ok { f with offset := place } else .error (.ofSystem .invalidInput)

end OpenFile

/-- A range of a file, and a position in it; all places count from the start of the file. -/
structure FileRange where
  file : OpenFile
  start : Nat
  stop : Nat
  place : Nat
  start_le_stop : start ≤ stop
  start_le_place : start ≤ place

/-- What a position is relative to. -/
inductive SeekFrom where
  | start (offset : Nat)
  | stop (offset : Int)
  | current (offset : Int)
deriving Repr, DecidableEq

namespace FileRange

/-- How far places go at all. -/
def placeBound : Nat := 2 ^ 64

/-- The most that is reserved for what is read to the end. -/
def maxReserved : Nat := 2 ^ 24

/-- The least that is reserved. -/
def minReserved : Nat := 32

/-- Opens the range from `start` to `stop`: without them from the beginning and to the end.  What
lies behind the end of the file does not belong to it, and **a range that ends before it starts is
empty**. -/
def ofNode (node : Node) (start stop : Option Nat) : Except IoError FileRange :=
  let opened : OpenFile := { node }
  let first := start.getD 0
  (opened.moveTo first).map fun file =>
    { file
      start := first
      stop := max (min (stop.getD opened.size) opened.size) first
      place := first
      start_le_stop := Nat.le_max_right _ _
      start_le_place := Nat.le_refl _ }

/-- The length of the range. -/
def length (r : FileRange) : Nat := r.stop - r.start

/-- The position in the range. -/
def position (r : FileRange) : Nat := r.place - r.start

/-- How many bytes are left. -/
def remaining (r : FileRange) : Nat := r.stop - r.place

/-- Moves behind bytes that were read. -/
def advance (n : Nat) (r : FileRange) : FileRange :=
  { r with place := r.place + n, start_le_place := Nat.le_add_right_of_le r.start_le_place }

/-- Reads at most `n` bytes, none at the end of the range. -/
def read (n : Nat) : Act IoError FileRange Bytes := fun r =>
  match min r.remaining n with
  | 0 => .ok [] r
  | room + 1 =>
    match OpenFile.read (room + 1) r.file with
    | .ok got file => .ok got (advance got.length { r with file })
    | .error halt file => .error halt { r with file }

/-- Reads up to the end, at most `room` bytes at a time and not more often than `fuel` times. -/
def readPieces (room : Nat) : Nat → Act IoError FileRange Bytes
  | 0 => pure []
  | fuel + 1 => do
    let got ← read room
    if got.isEmpty then return []
    return got ++ (← readPieces room fuel)

/-- Reads the rest of the range, in pieces of what is reserved for it. -/
def bytes : Act IoError FileRange Bytes := fun r =>
  readPieces (max (min r.remaining maxReserved) minReserved) (r.remaining + 1) r

/-- Where a seek is for, counted from the start of the file. -/
def sought (r : FileRange) : SeekFrom → Int
  | .start offset => r.start + offset
  | .stop offset => r.stop + offset
  | .current offset => r.place + offset

/-- The place that a seek is for, if there is such a place in any file and it is not before the
range. -/
def target? (r : FileRange) (seek : SeekFrom) : Option { place : Nat // r.start ≤ place } :=
  let place := r.sought seek
  if 0 ≤ place ∧ place < placeBound then
    if h : r.start ≤ place.toNat then some ⟨place.toNat, h⟩ else none
  else none

/-- Moves the position, and returns the new one.  **A refused seek leaves it where it is.** -/
def seek (seek : SeekFrom) : Act IoError FileRange Nat := fun r =>
  match r.target? seek with
  | none =>
    .error (.failed { kind := .invalidInput, detail := some "seek before start of range" }) r
  | some ⟨place, start_le_place⟩ =>
    match r.file.moveTo place with
    | .error fault => .error (.failed fault) r
    | .ok file =>
      let moved : FileRange := { r with file, place, start_le_place }
      .ok moved.position moved

end FileRange

end UrlTransfer
