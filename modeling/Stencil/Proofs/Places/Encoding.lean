/-
The places of templates that are given as bytes.

* **`Encoding.isValidUTF8_firstBreak`**, **`Encoding.le_firstBreak`** — the first
  break is the length of the longest prefix that is UTF-8;
* **`parseBytes_located`** — all places that `parseBytes` gives are true;
* **`parseBytes_backward`** — one of them goes backwards.
-/
import Stencil.Proofs.Places.Document

namespace Stencil

/-- The byte length of a text is the number of bytes that encode it. -/
theorem byteLength_eq_size (text : List Char) : byteLength text = text.utf8Encode.size := by
  induction text with
  | nil => rfl
  | cons c text ih =>
    rw [List.utf8Encode_cons, ByteArray.size_append, byteLength, ih, List.utf8Encode_singleton,
      List.size_toByteArray, String.length_utf8EncodeChar]

namespace Encoding

variable {bytes : ByteArray} {i : Nat}

/-- A character that can be decoded takes as many bytes as it is long. -/
theorem extract_of_decode {c : Char} (h : bytes.utf8DecodeChar? i = some c) :
    bytes.extract i (i + c.utf8Size) = [c].utf8Encode := by
  have hle := ByteArray.le_size_of_utf8DecodeChar?_eq_some h
  rw [ByteArray.utf8DecodeChar?_eq_utf8DecodeChar?_extract] at h
  have heq := ByteArray.eq_of_utf8DecodeChar?_eq_some h
  have hsize : (String.utf8EncodeChar c).toByteArray.size = c.utf8Size := by
    rw [List.size_toByteArray, String.length_utf8EncodeChar]
  have hextract : (bytes.extract i bytes.size).extract 0 c.utf8Size =
      (String.utf8EncodeChar c).toByteArray := by
    rw [heq, ByteArray.extract_append_eq_left hsize.symm]
  rw [List.utf8Encode_singleton, ← hextract, ByteArray.extract_extract, Nat.add_zero,
    Nat.min_eq_left hle]

/-- The bytes of a text take its length. -/
theorem eq_add_byteLength {text : List Char} {m : Nat} (him : i ≤ m) (hm : m ≤ bytes.size)
    (h : bytes.extract i m = text.utf8Encode) : m = i + byteLength text := by
  have hsize := congrArg ByteArray.size h
  rw [← byteLength_eq_size, ByteArray.size_extract] at hsize
  omega

/-- A character that bytes begin with can be decoded. -/
theorem decode_of_extract {c : Char} {text : List Char} {m : Nat} (him : i ≤ m)
    (hm : m ≤ bytes.size) (h : bytes.extract i m = (c :: text).utf8Encode) :
    bytes.utf8DecodeChar? i = some c := by
  rw [ByteArray.utf8DecodeChar?_eq_utf8DecodeChar?_extract,
    ByteArray.extract_eq_extract_append_extract m him hm, h, List.utf8Encode_cons,
    List.utf8Encode_singleton, ByteArray.append_assoc,
    ByteArray.utf8DecodeChar?_utf8EncodeChar_append]

theorem le_firstBreak_self (bytes : ByteArray) (i : Nat) : i ≤ firstBreak bytes i := by
  fun_induction firstBreak bytes i with
  | case1 => exact Nat.le_refl _
  | case2 i c h ih => exact Nat.le_trans (Nat.le_add_right _ _) ih

theorem firstBreak_le_size (h : i ≤ bytes.size) : firstBreak bytes i ≤ bytes.size := by
  fun_induction firstBreak bytes i with
  | case1 => exact h
  | case2 i c hdecode ih => exact ih (ByteArray.le_size_of_utf8DecodeChar?_eq_some hdecode)

/-- What stands in front of the first break is UTF-8. -/
theorem isValidUTF8_firstBreak (bytes : ByteArray) (i : Nat) :
    (bytes.extract i (firstBreak bytes i)).IsValidUTF8 := by
  fun_induction firstBreak bytes i with
  | case1 =>
    rw [ByteArray.extract_same]
    exact ByteArray.isValidUTF8_empty
  | case2 i c hdecode ih =>
    rw [ByteArray.extract_eq_extract_append_extract (i + c.utf8Size) (Nat.le_add_right _ _)
      (le_firstBreak_self bytes _), extract_of_decode hdecode]
    exact ByteArray.isValidUTF8_utf8Encode.append ih

/-- What is UTF-8 ends before the first break. -/
theorem le_firstBreak {m : Nat} (him : i ≤ m) (hm : m ≤ bytes.size)
    (h : (bytes.extract i m).IsValidUTF8) : m ≤ firstBreak bytes i := by
  obtain ⟨text, htext⟩ := h
  induction text generalizing i with
  | nil =>
    have hempty : m = i := eq_add_byteLength him hm htext
    exact hempty ▸ le_firstBreak_self bytes i
  | cons c text ih =>
    have hdecode := decode_of_extract him hm htext
    have hlength : m = i + (c.utf8Size + byteLength text) := eq_add_byteLength him hm htext
    have hcut : i + c.utf8Size ≤ m := by omega
    rw [firstBreak]
    split
    · rename_i hnone
      rw [hdecode] at hnone
      cases hnone
    · rename_i c' hsome
      rw [hdecode] at hsome
      cases hsome
      refine ih hcut ?_
      rw [List.utf8Encode_cons,
        ByteArray.extract_eq_extract_append_extract (i + c.utf8Size) (Nat.le_add_right _ _) hcut,
        extract_of_decode hdecode] at htext
      exact (ByteArray.append_right_inj _).1 htext

theorem brokenLength_pos {n : Nat} (h : brokenLength bytes i = some n) : 0 < n := by
  unfold brokenLength at h
  split at h
  · cases h
  · split at h
    · cases h
      omega
    · split at h
      · cases h
        omega
      · cases h
      · cases h
        omega

end Encoding

/-! ### Templates -/

/-- The place of an encoding error in bytes: it starts behind the longest prefix that is
UTF-8, whose line feeds and characters give the line and the column, and is not empty. -/
structure Span.Breaks (span : Span) (bytes : ByteArray) (label : String) : Prop where
  file : span.file = label
  start : ∃ text : List Char, bytes.extract 0 span.start = text.utf8Encode ∧
    span.line = 1 + text.count '\n' ∧
    span.column = 1 + (text.reverse.takeWhile fun c => c ≠ '\n').length
  longest : ∀ m, m ≤ bytes.size → (bytes.extract 0 m).IsValidUTF8 → m ≤ span.start
  lt : span.start < span.stop
  le : span.stop ≤ bytes.size

theorem utf8Encode_of_fromUTF8? {bytes : ByteArray} {text : String}
    (h : String.fromUTF8? bytes = some text) : text.toList.utf8Encode = bytes := by
  unfold String.fromUTF8? at h
  split at h
  · cases h
    exact String.utf8Encode_toList
  · cases h

theorem encodingError_breaks {bytes : ByteArray} (label : String) (h : ¬ bytes.IsValidUTF8) :
    (encodingError bytes label).span.Breaks bytes label := by
  have hvalid := Encoding.isValidUTF8_firstBreak bytes 0
  have hle : Encoding.firstBreak bytes 0 ≤ bytes.size := Encoding.firstBreak_le_size (Nat.zero_le _)
  have hlt : Encoding.firstBreak bytes 0 < bytes.size := by
    refine Nat.lt_of_le_of_ne hle fun heq => h ?_
    rwa [heq, ByteArray.extract_zero_size] at hvalid
  have hpos : 0 < (Encoding.brokenLength bytes (Encoding.firstBreak bytes 0)).getD 1 := by
    cases hlength : Encoding.brokenLength bytes (Encoding.firstBreak bytes 0) with
    | none => exact Nat.one_pos
    | some n => exact Encoding.brokenLength_pos hlength
  have hstart : (encodingError bytes label).span.start = Encoding.firstBreak bytes 0 := rfl
  have hstop : (encodingError bytes label).span.stop = min (Encoding.firstBreak bytes 0 +
    (Encoding.brokenLength bytes (Encoding.firstBreak bytes 0)).getD 1) bytes.size := rfl
  refine ⟨rfl, ?_, ?_, ?_, ?_⟩
  · obtain ⟨text, htext⟩ : ∃ text,
        String.fromUTF8? (bytes.extract 0 (Encoding.firstBreak bytes 0)) = some text :=
      ⟨_, dif_pos hvalid⟩
    have hencode := utf8Encode_of_fromUTF8? htext
    have hlength : Encoding.firstBreak bytes 0 = byteLength text.toList := by
      rw [byteLength_eq_size, hencode, ByteArray.size_extract]
      omega
    have hspan : (encodingError bytes label).span =
        { (Source.mk label text.toList).span (byteLength text.toList) (byteLength text.toList) with
          stop := (encodingError bytes label).span.stop } := by
      rw [← hlength]
      unfold encodingError
      dsimp only
      rw [htext, Option.getD_some]
    refine ⟨text.toList, by rw [hstart, hencode], ?_⟩
    rw [hspan]
    exact Source.line_column_span (List.append_nil _).symm _
  · exact fun m hm hprefix => Encoding.le_firstBreak (Nat.zero_le m) hm hprefix
  · omega
  · omega

/-- **All places that are given for a template of bytes are true.**  Those of nodes are pieces
of the text, and so are those of errors, but that an unexpected end of parameters goes
backwards; the place of an encoding error is where the bytes stop being UTF-8. -/
theorem parseBytes_located (bytes : ByteArray) (label : String) :
    (∀ text, String.fromUTF8? bytes = some text →
      byteLength text.toList = bytes.size ∧
      (∀ nodes, parseBytes bytes label = .ok nodes →
        ∀ node, Node.OccursIn node nodes → (Source.ofString label text).Locates node.span) ∧
      (∀ error, parseBytes bytes label = .error error →
        error.LocatedIn (Source.ofString label text))) ∧
    (String.fromUTF8? bytes = none → ∃ span,
      parseBytes bytes label = .error ⟨.invalidEncoding, span⟩ ∧ span.Breaks bytes label) := by
  constructor
  · intro text htext
    have hparse : parseBytes bytes label = parse (Source.ofString label text) := by
      rw [parseBytes, htext]
    have hlocated := parse_located (Source.ofString label text)
    rw [← hparse] at hlocated
    refine ⟨?_, ?_, ?_⟩
    · rw [byteLength_eq_size, utf8Encode_of_fromUTF8? htext]
    · intro nodes hok
      rw [hok] at hlocated
      exact locatedAll_iff.1 hlocated
    · intro error herror
      rw [herror] at hlocated
      exact hlocated
  · intro hnone
    have hinvalid : ¬ bytes.IsValidUTF8 := by
      intro hvalid
      rw [String.fromUTF8?, dif_pos hvalid] at hnone
      cases hnone
    refine ⟨(encodingError bytes label).span, ?_, encodingError_breaks label hinvalid⟩
    rw [parseBytes, hnone]
    rfl

/-- The place of an error, if there is one. -/
def errorSpan? : Except ParseError (List Node) → Option Span
  | .ok _ => none
  | .error error => some error.span

/-- A missing operand is missed from the closing parenthesis back to the last token. -/
theorem parseBytes_backward : ∃ error, parseBytes "#(1 % )".toUTF8 "t" = .error error ∧
    error.span.start = 6 ∧ error.span.stop = 5 := by
  have hspan : errorSpan? (parseBytes "#(1 % )".toUTF8 "t") = some ⟨"t", 1, 7, 6, 5⟩ := by
    decide +kernel
  cases hparse : parseBytes "#(1 % )".toUTF8 "t" with
  | ok nodes =>
    rw [hparse] at hspan
    cases hspan
  | error error =>
    rw [hparse] at hspan
    have hplace : error.span = ⟨"t", 1, 7, 6, 5⟩ := Option.some.inj hspan
    refine ⟨error, rfl, ?_⟩
    rw [hplace]
    exact ⟨rfl, rfl⟩

end Stencil
