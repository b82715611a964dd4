/-
Reading bytes as UTF-8.

* **`firstBreak`** — the offset at which a byte string stops being UTF-8, that
  is the length of its longest prefix that is UTF-8 throughout;
* **`brokenLength`** — how many bytes at such an offset belong together, as
  the longest start of some character's encoding;
* **`lossy`** — the text in which every such group is replaced by one U+FFFD.
-/
import Stencil.Text.Position

namespace Stencil.Encoding

/-- The offset behind the last character that can be decoded one after another
from offset `i` on. -/
def firstBreak (bytes : ByteArray) (i : Nat) : Nat :=
  match _h : bytes.utf8DecodeChar? i with
  | none => i
  | some c => firstBreak bytes (i + c.utf8Size)
termination_by bytes.size - i
decreasing_by
  have hlt := ByteArray.lt_size_of_isSome_utf8DecodeChar? (i := i) (b := bytes) (by simp [*])
  have := c.utf8Size_pos
  omega

/-- The bounds of the continuation bytes that a lead byte asks for, or `none`
for a byte that leads no character. -/
def followers (lead : UInt8) : Option (List (UInt8 × UInt8)) :=
  let any : UInt8 × UInt8 := (0x80, 0xBF)
  if lead < 0x80 then some []
  else if lead < 0xC2 then none
  else if lead < 0xE0 then some [any]
  else if lead = 0xE0 then some [(0xA0, 0xBF), any]
  else if lead = 0xED then some [(0x80, 0x9F), any]
  else if lead < 0xF0 then some [any, any]
  else if lead = 0xF0 then some [(0x90, 0xBF), any, any]
  else if lead < 0xF4 then some [any, any, any]
  else if lead = 0xF4 then some [(0x80, 0x8F), any, any]
  else none

/-- How the bytes behind a lead byte meet its bounds. -/
inductive Followed where
  /-- A byte is out of bounds; so many before it were fine. -/
  | refused (good : Nat)
  /-- The bytes end first; so many were fine. -/
  | ended (good : Nat)
  | complete
deriving DecidableEq

/-- Check the bytes from offset `i` against a list of bounds. -/
def follow (bytes : ByteArray) : List (UInt8 × UInt8) → Nat → Nat → Followed
  | [], _, _ => .complete
  | (low, high) :: bounds, i, good =>
    match bytes[i]? with
    | none => .ended good
    | some b => if low ≤ b ∧ b ≤ high then follow bytes bounds (i + 1) (good + 1)
                else .refused good

/-- The length of the group of bytes that breaks the text at offset `i`, or
`none` if the bytes end inside a character that could still be completed. -/
def brokenLength (bytes : ByteArray) (i : Nat) : Option Nat :=
  match bytes[i]? with
  | none => none
  | some lead =>
    match followers lead with
    | none => some 1
    | some bounds =>
      match follow bytes bounds (i + 1) 0 with
      | .refused good => some (1 + good)
      | .ended _ => none
      | .complete => some 1

/-- The characters decoded from offset `i` on, in reverse on top of `done`, with
one replacement character for every group that breaks the text. -/
def lossyFrom (bytes : ByteArray) (i : Nat) (done : List Char) : List Char :=
  if _hi : i < bytes.size then
    match bytes.utf8DecodeChar? i with
    | some c => lossyFrom bytes (i + max 1 c.utf8Size) (c :: done)
    | none =>
      match brokenLength bytes i with
      | some n => lossyFrom bytes (i + max 1 n) ('\uFFFD' :: done)
      | none => '\uFFFD' :: done
  else done
termination_by bytes.size - i
decreasing_by all_goals omega

/-- The text of a byte string, with replacement characters where it breaks. -/
def lossy (bytes : ByteArray) : String :=
  match String.fromUTF8? bytes with
  | some text => text
  | none => String.ofList (lossyFrom bytes 0 []).reverse

end Stencil.Encoding
