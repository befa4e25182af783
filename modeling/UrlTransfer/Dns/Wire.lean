/-
# Reading from a message

A reader moves through the bytes of a message from a position.  A name in a message may end with
a pointer to an earlier place, where its rest stands; pointers only go back, which is why reading
a name ends (`readLabels`).
-/
import UrlTransfer.Dns.Name

namespace UrlTransfer

namespace Dns

/-- A reader of one message: it moves through the bytes from a position. -/
abbrev Wire (α : Type) := ReaderT Bytes (StateT Nat Option) α

namespace Wire

/-! ## 1. Numbers and strings -/

/-- The message and the current position. -/
def here : Wire (Bytes × Nat) := fun message pos => some ((message, pos), pos)

/-- Reads `n` bytes. -/
def take (n : Nat) : Wire Bytes := fun message pos =>
  if pos + n ≤ message.length then some ((message.drop pos).take n, pos + n) else none

/-- Reads a number of `width` bytes. -/
def number (width : Nat) : Wire Nat := do return Bytes.toNat (← take width)

/-- Reads a byte string after its length. -/
def string : Wire Bytes := do take (← number 1)

/-- Reads the bytes up to the position `stop`. -/
def upTo (stop : Nat) : Wire Bytes := do
  let pos ← get
  if stop < pos then failure
  take (stop - pos)

/-- Takes what was found, if anything was. -/
def found {α : Type} : Option α → Wire α
  | some a => return a
  | none => failure

/-! ## 2. Sequences -/

/-- Reads `n` items one after the other. -/
def times {α : Type} (item : Wire α) : Nat → Wire (List α)
  | 0 => return []
  | n + 1 => do return (← item) :: (← times item n)

/-- Reads items up to the position `stop`, but not more than `n`. -/
def itemsUpTo {α : Type} (item : Wire α) (stop : Nat) : Nat → Wire (List α)
  | 0 => return []
  | n + 1 => do
    if (← get) < stop then return (← item) :: (← itemsUpTo item stop n)
    else return []

/-- The item at the front of some bytes. -/
def parse? {α : Type} (item : Wire α) (bytes : Bytes) : Option α := (item bytes 0).map (·.1)

/-- The items that some bytes consist of; **each takes at least one byte**, which bounds their
number. -/
def parseAll? {α : Type} (item : Wire α) (bytes : Bytes) : Option (List α) :=
  parse? (itemsUpTo item bytes.length bytes.length) bytes

end Wire

/-! ## 3. Names -/

/-- The labels of the name at `pos`, and the position behind the name.  The name starts at `start`;
**where it is the rest of another one, it ends before that one**, at `bound`. -/
def readLabels (message : Bytes) (start : Nat) (bound : Option Nat) (pos : Nat) :
    Option (List Bytes × Nat) :=
  if bound.any (· ≤ pos) then none
  else
    match _h : message[pos]? with
    | none => none
    | some length =>
      if length = 0 then some ([], pos + 1)
      else if length < 64 then
        if pos + 1 + length.toNat ≤ message.length then
          match readLabels message start bound (pos + 1 + length.toNat) with
          | some (labels, next) =>
            some ((message.drop (pos + 1)).take length.toNat :: labels, next)
          | none => none
        else none
      else if length < 192 then none
      else
        match message[pos + 1]? with
        | none => none
        | some low =>
          let target := length.toNat % 64 * 256 + low.toNat
          if _hlt : target < start then
            match readLabels message target (some start) target with
            | some (labels, _) => some (labels, pos + 2)
            | none => none
          else none
termination_by (start, message.length - pos)
decreasing_by
  · have := (List.getElem?_eq_some_iff.1 _h).1
    exact Prod.Lex.right _ (by omega)
  · exact Prod.Lex.left _ _ _hlt

/-- Reads a name that is not too long for a message. -/
def Name.read : Wire Name := fun message pos =>
  match readLabels message pos none pos with
  | some (labels, next) =>
    if Name.wireLength labels ≤ Name.maxWireLength then some (⟨labels, true⟩, next) else none
  | none => none

end Dns

end UrlTransfer
