/-
The order of texts as bytes.

Keys are kept in the order of their code points.  Encoded as UTF-8 they are in the
order of their bytes.

* **`Encoding.Writes`** — the bytes of a code point, digit by digit;
* **`Encoding.Writes.append_lt`** — a greater code point has greater bytes;
* **`toUTF8_lt`** — a greater text has greater bytes.
-/

namespace Stencil

namespace Encoding

/-- The bytes that a code point is written with: its digits in base 64, of which the first
also tells how many follow.  No more digits are used than needed. -/
inductive Writes : Nat → List UInt8 → Prop
  | one {a : Nat} : a < 128 → Writes a [.ofNat a]
  | two {a b : Nat} : 2 ≤ a → a < 32 → b < 64 →
      Writes (a * 64 + b) [.ofNat (a + 192), .ofNat (b + 128)]
  | three {a b c : Nat} : 32 ≤ a * 64 + b → a < 16 → b < 64 → c < 64 →
      Writes ((a * 64 + b) * 64 + c) [.ofNat (a + 224), .ofNat (b + 128), .ofNat (c + 128)]
  | four {a b c d : Nat} : 16 ≤ a * 64 + b → a < 8 → b < 64 → c < 64 → d < 64 →
      Writes (((a * 64 + b) * 64 + c) * 64 + d)
        [.ofNat (a + 240), .ofNat (b + 128), .ofNat (c + 128), .ofNat (d + 128)]

/-- The digits of a number in base 64, down to three of them. -/
theorem digits (v : Nat) :
    v = v / 64 * 64 + v % 64 ∧ v = (v / 4096 * 64 + v / 64 % 64) * 64 + v % 64 ∧
      v = ((v / 262144 * 64 + v / 4096 % 64) * 64 + v / 64 % 64) * 64 + v % 64 := by
  omega

/-- A character is encoded by the digits of its code point. -/
theorem writes_utf8EncodeChar (c : Char) : Writes c.val.toNat (String.utf8EncodeChar c) := by
  have hmax : c.val.toNat < 0x110000 := by
    rcases c.valid with h | h
    · exact Nat.lt_trans h (by decide)
    · exact h.2
  unfold String.utf8EncodeChar
  dsimp only
  generalize c.val.toNat = v at hmax ⊢
  obtain ⟨htwo, hthree, hfour⟩ := digits v
  split
  · exact .one (by omega)
  · split
    · have hlead : v / 64 % 32 = v / 64 := by omega
      rw [hlead]
      have h : Writes (v / 64 * 64 + v % 64) _ := .two (by omega) (by omega) (by omega)
      rwa [← htwo] at h
    · split
      · have hlead : v / 4096 % 16 = v / 4096 := by omega
        rw [hlead]
        have h : Writes ((v / 4096 * 64 + v / 64 % 64) * 64 + v % 64) _ :=
          .three (by omega) (by omega) (by omega) (by omega)
        rwa [← hthree] at h
      · have hlead : v / 262144 % 8 = v / 262144 := by omega
        rw [hlead]
        have h : Writes (((v / 262144 * 64 + v / 4096 % 64) * 64 + v / 64 % 64) * 64 + v % 64) _ :=
          .four (by omega) (by omega) (by omega) (by omega) (by omega)
        rwa [← hfour] at h

theorem Writes.ne_nil {v : Nat} {bytes : List UInt8} (h : Writes v bytes) : bytes ≠ [] := by
  cases h <;> exact List.cons_ne_nil _ _

/-- **A greater code point has greater bytes**, whatever follows.  Of two encodings of one
length the first digit that differs decides, and the longer of two begins with a greater
byte. -/
theorem Writes.append_lt {v w : Nat} {bytes bytes' : List UInt8} (h : Writes v bytes)
    (h' : Writes w bytes') (hlt : v < w) (rest rest' : List UInt8) :
    bytes ++ rest < bytes' ++ rest' := by
  cases h <;> cases h'
  all_goals
    simp only [List.cons_append, List.nil_append, List.cons_lt_cons_iff, UInt8.lt_iff_toNat_lt,
      ← UInt8.toNat_inj, UInt8.toNat_ofNat']
    omega

/-- A greater list of characters has greater bytes. -/
theorem flatMap_utf8EncodeChar_lt {cs ds : List Char} (h : cs < ds) :
    cs.flatMap String.utf8EncodeChar < ds.flatMap String.utf8EncodeChar := by
  induction cs generalizing ds with
  | nil =>
    cases ds with
    | nil => exact absurd h (List.lt_irrefl _)
    | cons d ds =>
      obtain ⟨byte, bytes, hd⟩ := List.exists_cons_of_ne_nil (writes_utf8EncodeChar d).ne_nil
      rw [List.flatMap_nil, List.flatMap_cons, hd]
      exact List.nil_lt_cons ..
  | cons c cs ih =>
    cases ds with
    | nil => exact absurd h (List.not_lt_nil _)
    | cons d ds =>
      rw [List.flatMap_cons, List.flatMap_cons]
      rcases List.cons_lt_cons_iff.1 h with hlt | ⟨rfl, hlt⟩
      · exact (writes_utf8EncodeChar c).append_lt (writes_utf8EncodeChar d) hlt _ _
      · exact List.append_left_lt (ih hlt)

end Encoding

/-- The bytes of a text. -/
theorem toUTF8_toList (s : String) :
    s.toUTF8.data.toList = s.toList.flatMap String.utf8EncodeChar := by
  have h : s.toUTF8 = s.toList.utf8Encode := by
    rw [← String.toByteArray_ofList, String.ofList_toList]
    rfl
  rw [h, List.utf8Encode, List.data_toByteArray]

/-- **The order of texts is that of their bytes.** -/
theorem toUTF8_lt {s t : String} (h : s < t) : s.toUTF8.data.toList < t.toUTF8.data.toList := by
  rw [toUTF8_toList, toUTF8_toList]
  exact Encoding.flatMap_utf8EncodeChar_lt (String.lt_iff.1 h)

end Stencil
