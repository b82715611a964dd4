/-
Integers that are printed and read back.

An integer is printed as its digits, with a minus in front if it is negative.  Such a text is
an expression again: the digits spell an integer, and the minus is a sign that is applied to
it.  Digits spell an integer of at most 63 bits only, and the sign makes it negative, so that
the smallest integer of 64 bits is printed but cannot be read.

* **`written_natural`** — digits are read as the number that they are printed from;
* **`parse_large`** — digits of a larger number are refused where they stand;
* **`Session.putOut_integer`** — what is put out for an integer that is printed.
-/
import Stencil.Proofs.Arithmetic
import Stencil.Proofs.Output

namespace Stencil

/-! ### Digits -/

theorem natOfDigits_toDigits (n : Nat) : natOfDigits (Nat.toDigits 10 n) = n :=
  Nat.ofDigitChars_ten_toDigits

theorem isDigit_of_mem_toDigits {n : Nat} {c : Char} (h : c ∈ Nat.toDigits 10 n) : isDigit c :=
  Nat.isDigit_of_mem_toDigits (by decide) (by decide) h

/-- An integer is printed as its digits, behind a minus if it is negative. -/
theorem toList_toString (z : Int) :
    (toString z).toList = (if z < 0 then ['-'] else []) ++ Nat.toDigits 10 z.natAbs := by
  cases z with
  | ofNat n => exact Nat.toList_repr
  | negSucc n =>
    show ("-" ++ (n + 1).repr).toList = _
    rw [String.toList_append, Nat.toList_repr, if_pos (Int.negSucc_lt_zero n)]
    rfl

/-- The digits of a number of at most 63 bits are written as that number. -/
theorem written_natural {n : Nat} (h : n < Nat.pow 2 63) :
    Written (Nat.toDigits 10 n) [.int (Int64.ofNat n)] := by
  obtain ⟨first, rest, hdigits⟩ := List.exists_cons_of_ne_nil (@Nat.toDigits_ne_nil n 10)
  have hvalue : natOfDigits (first :: rest) = n := by rw [← hdigits, natOfDigits_toDigits]
  have hwritten := @Written.integer first rest [] []
    (fun c hc => isDigit_of_mem_toDigits (hdigits ▸ hc)) (hvalue ▸ h) (by simp) .nil
  rw [List.append_nil, hvalue] at hwritten
  rwa [hdigits]

/-! ### Integers that can be read -/

theorem fit_toInt (n : Int64) : fit n.toInt = .ok n := by
  obtain ⟨r, hr, heq⟩ | ⟨-, hlarge⟩ := fit_outcome n.toInt
  · rw [hr, Int64.toInt_inj.1 heq]
  · exact absurd (fitsWord_toInt n) hlarge

/-- A printed integer is an expression that denotes it, if its digits spell an integer. -/
theorem exists_written_integer {n : Int64} (h : n.toInt.natAbs < Nat.pow 2 63)
    (context : Value) :
    ∃ ts e, Written (toString n.toInt).toList ts ∧ Derives .expression ts [e] ∧
      Denotes context e (.int n) := by
  let digits : Int64 := Int64.ofNat n.toInt.natAbs
  have hdigits : digits.toInt = n.toInt.natAbs := Int64.toInt_ofNat_of_lt h
  have hwritten := written_natural h
  have hderives : Derives .operand [.int digits] [.literal default (.int digits)] := .int digits
  have hdenotes : Denotes context (.literal default (.int digits)) (.int digits) :=
    denotes_literal context (.int digits)
  rw [toList_toString]
  by_cases hsign : n.toInt < 0
  · rw [if_pos hsign]
    have happly : applySign .minus (.int digits) = .ok (.int n) := by
      have hnegated : -digits.toInt = n.toInt := by omega
      rw [applySign, hnegated, fit_toInt]
      rfl
    have hminus : Written ('-' :: Nat.toDigits 10 n.toInt.natAbs)
        [.operator .minus, .int digits] := .operator rfl (fun _ => rfl) hwritten
    have hsigned : Derives .signed [.operator .minus, .int digits]
        [.signed default .minus (.literal default (.int digits))] :=
      .sign (by decide) (.unsigned hderives)
    exact ⟨_, _, hminus, hsigned.level_of_signed (Nat.zero_le 6), hdenotes.signed happly⟩
  · have hsame : digits = n := Int64.toInt_inj.1 (by omega)
    rw [if_neg hsign, List.nil_append]
    exact ⟨_, _, hwritten, hderives.expression_of_operand, hsame ▸ hdenotes⟩

/-! ### Integers that cannot -/

section

variable {first : Char} {rest tail : List Char}

/-- Digits of a number of more than 63 bits are rejected. -/
theorem nextPiece_large (hdigits : ∀ c ∈ first :: rest, isDigit c)
    (hlarge : Nat.pow 2 63 ≤ natOfDigits (first :: rest))
    (htail : ∀ c, tail.head? = some c → isDigit c = false ∧ c ≠ '.') (offset : Nat) :
    nextPiece (first :: (rest ++ tail)) offset =
      some (.rejected first offset (offset + byteLength (first :: rest)), tail,
        offset + byteLength (first :: rest)) := by
  have hblank : isBlank first = false := isBlank_of_isDigit (hdigits first (List.mem_cons_self ..))
  have hinteger : Stretch.integer (first :: rest) = none := if_neg (Nat.not_lt.2 hlarge)
  have hskip : skipBlank (first :: (rest ++ tail)) offset = (first :: (rest ++ tail), offset) := by
    rw [skipBlank, hblank]
    rfl
  unfold nextPiece
  rw [hskip]
  dsimp only
  rw [Stretch.cut_integer hdigits htail, hinteger]

/-- Parameters of a tag without a name that cannot be collected make the template fail. -/
theorem parse_of_collect_error {source : Source} {parameters : List Char} {error : ParseError}
    (htext : source.text = '#' :: '(' :: parameters)
    (h : Head.collect source 1 parameters 2 0 [] = .error error) :
    parse source = .error error := by
  have hnames : Head.Names none [] ('(' :: parameters) := rfl
  have hrecognize : Head.recognize source none 0 ('(' :: parameters) = .error error := by
    have hcollect : Head.collect source (0 + 1 + byteLength []) parameters
        (0 + 1 + byteLength [] + 1) 0 [] = .error error := h
    have hopening := hnames.recognize_opening source 0
    rw [hcollect] at hopening
    exact hopening
  rw [parse, htext, Builder.read_eq, Segment.scan]
  show Segment.scanFrom source none 0 ('#' :: '(' :: parameters) 0 [] >>= _ = _
  rw [Segment.scanFrom, hrecognize]
  rfl

end

/-- **Digits that are too large are refused where they stand**, behind the minus if there is
one. -/
theorem parse_large {z : Int} (hlarge : Nat.pow 2 63 ≤ z.natAbs) (label : String) :
    let source : Source := ⟨label, writeHead "" (toString z).toList false⟩
    let start := if z < 0 then 3 else 2
    ∃ first rest, Nat.toDigits 10 z.natAbs = first :: rest ∧
      parse source = .error ⟨.strayCharacter first,
        source.span start (start + byteLength (first :: rest))⟩ := by
  intro source start
  obtain ⟨first, rest, hdigits⟩ := List.exists_cons_of_ne_nil (@Nat.toDigits_ne_nil z.natAbs 10)
  have hvalue : natOfDigits (first :: rest) = z.natAbs := by rw [← hdigits, natOfDigits_toDigits]
  have hpiece := @nextPiece_large first rest [')']
    (fun c hc => isDigit_of_mem_toDigits (hdigits ▸ hc)) (hvalue ▸ hlarge)
    (by rintro c ⟨⟩; decide)
  have hcollect (offset : Nat) (done : List Lexeme) :
      Head.collect source 1 (first :: (rest ++ [')'])) offset 0 done =
        .error ⟨.strayCharacter first,
          source.span offset (offset + byteLength (first :: rest))⟩ := by
    rw [Head.collect_eq, hpiece]
  refine ⟨first, rest, hdigits, ?_⟩
  have htext : source.text = '#' :: '(' :: ((toString z).toList ++ [')']) := rfl
  rw [toList_toString, hdigits] at htext
  refine parse_of_collect_error htext ?_
  by_cases hsign : z < 0
  · have hstart : start = 3 := if_pos hsign
    have hminus : nextPiece ('-' :: (first :: (rest ++ [')']))) 2 =
        some (.lexeme ⟨.operator .minus, 2, 3⟩, first :: (rest ++ [')']), 3) :=
      nextPiece_symbol rfl (fun _ => rfl) _ 2
    rw [if_pos hsign, hstart]
    exact (Head.collect_token hminus (by simp) (by simp)).trans (hcollect 3 _)
  · have hstart : start = 2 := if_neg hsign
    rw [if_neg hsign, hstart]
    exact hcollect 2 []

/-! ### What templates put out -/

namespace Session

/-- A template for a printed number whose digits are too large is refused. -/
theorem putOut_large {z : Int} (hlarge : Nat.pow 2 63 ≤ z.natAbs) (session : Session)
    (label : Option String) (context : Value) :
    let source : Source := ⟨label.getD inlineLabel, writeHead "" (toString z).toList false⟩
    let start := if z < 0 then 3 else 2
    ∃ first rest, Nat.toDigits 10 z.natAbs = first :: rest ∧
      session.putOut label context (toString z) = .text (.error (.compose (.parse
        ⟨.strayCharacter first, source.span start (start + byteLength (first :: rest))⟩))) := by
  intro source start
  obtain ⟨first, rest, hdigits, hparse⟩ := parse_large hlarge (label.getD inlineLabel)
  refine ⟨first, rest, hdigits, renderInline_of_parseBytes_error ?_ context⟩
  rw [parseBytes_toUTF8, toList_source]
  exact hparse

/-- **Integers that are printed are read back**, all but the smallest one.  Its digits are too
large without their sign, and the template is refused. -/
theorem putOut_integer (session : Session) (label : Option String) (context : Value)
    (n : Int64) :
    session.putOut label context (Value.int n).display =
      .text (if n = Int64.minValue then
          .error (.compose (.parse
            ⟨.strayCharacter '9', ⟨label.getD inlineLabel, 1, 4, 3, 22⟩⟩))
        else .ok (Value.int n).display) := by
  by_cases hn : n = Int64.minValue
  · obtain ⟨first, rest, hdigits, hrefused⟩ :=
      @putOut_large Int64.minValue.toInt (by decide) session label context
    cases hdigits
    rw [if_pos hn, hn]
    exact hrefused
  · have hword := fitsWord_toInt n
    have hne : n.toInt ≠ Int64.minValue.toInt := fun h => hn (Int64.toInt_inj.1 h)
    have hsmall : n.toInt.natAbs < Nat.pow 2 63 := by
      rw [FitsWord, Int64.toInt_minValue, Int64.toInt_maxValue] at hword
      rw [Int64.toInt_minValue] at hne
      show _ < 2 ^ 63
      omega
    obtain ⟨ts, e, hwritten, hderives, hdenotes⟩ := exists_written_integer hsmall context
    rw [if_neg hn]
    exact putOut_of_denotes hwritten hderives hdenotes session label

/-- The smallest integer is printed, and its text is refused. -/
theorem putOut_smallest :
    let session := start ⟨"v", "", true⟩ ⟨[], []⟩ Builtin.registry (fun _ _ => .ok "") .empty
    (Value.int Int64.minValue).display = "-9223372036854775808" ∧
      session.putOut none (.dictionary []) "-9223372036854775808" =
        .text (.error (.compose (.parse
          ⟨.strayCharacter '9', ⟨"inline-template", 1, 4, 3, 22⟩⟩))) := by
  intro session
  obtain ⟨first, rest, hdigits, hrefused⟩ :=
    @putOut_large Int64.minValue.toInt (by decide) session none (.dictionary [])
  cases hdigits
  exact ⟨by cbv, hrefused⟩

end Session

end Stencil
