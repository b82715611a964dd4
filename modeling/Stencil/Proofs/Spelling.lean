/-
What spells a token.

`Token.Spells` gives the texts that spell each token, one rule for each kind, and the
cutting of texts is measured by it:

* **`Stretch.spells_of_cut`** — what is cut off as a token spells it;
* **`Token.Spells.prefix_cut`** — nothing longer at the front of a text spells one;
* **`Token.Spells.overflows`** — where no token is cut off, none is spelled, but for a run
  of digits that stands for too large a number;
* **`Token.Spells.cut_self`** — a text that spells a token is cut off as that token.

## Design notes

The first character of a text decides which rules can apply to it.  So the rules are
sorted in four kinds (`Token.Kind`), and for each of them there is one way to cut.
-/
import Stencil.Proofs.Printing.Parameters

namespace Stencil

/-! ### The rules -/

/-- A text that can stand between quotes.  A backslash takes the next character along,
which must be there and no line feed. -/
inductive Quotable : List Char → Prop
  | nil : Quotable []
  | plain {c : Char} {rest : List Char} : c ≠ '"' → c ≠ '\\' → Quotable rest →
      Quotable (c :: rest)
  | escaped {c : Char} {rest : List Char} : c ≠ '\n' → Quotable rest →
      Quotable ('\\' :: c :: rest)

/-- A run of digits. -/
structure IsNumeral (digits : List Char) : Prop where
  ne_nil : digits ≠ []
  digits : ∀ c ∈ digits, isDigit c

/-- The texts that spell a token. -/
inductive Token.Spells : Token → List Char → Prop
  | yes : Spells (.truth true) ['t', 'r', 'u', 'e']
  | no : Spells (.truth false) ['f', 'a', 'l', 's', 'e']
  | inWord : Spells .inWord ['i', 'n']
  | opening : Spells .opening ['(']
  | closing : Spells .closing [')']
  | comma : Spells .comma [',']
  | dot : Spells .dot ['.']
  | operator (op : Operator) : Spells (.operator op) op.symbol.toList
  /-- A name is none of the three keywords. -/
  | name {c : Char} {rest : List Char} : startsName c → (∀ d ∈ rest, continuesName d) →
      String.ofList (c :: rest) ∉ ["true", "false", "in"] →
      Spells (.name (String.ofList (c :: rest))) (c :: rest)
  | text {body : List Char} : Quotable body →
      Spells (.text (String.ofList (Stretch.unescape body))) ('"' :: body ++ ['"'])
  | double {whole fraction : List Char} : IsNumeral whole → IsNumeral fraction →
      Spells (.double (Double.ofParts false whole fraction 0)) (whole ++ '.' :: fraction)
  /-- An integer has at most 63 bits. -/
  | int {digits : List Char} : IsNumeral digits → natOfDigits digits < Nat.pow 2 63 →
      Spells (.int (Int64.ofNat (natOfDigits digits))) digits

/-! ### Strings -/

theorem Quotable.quoted_append {body : List Char} (h : Quotable body) (tail : List Char) :
    Stretch.quoted (body ++ '"' :: tail) = ⟨true, body, tail⟩ := by
  induction h with
  | nil => rfl
  | plain hquote hslash _ ih =>
    rw [List.cons_append, Stretch.quoted, if_neg hslash, ih]
    · rfl
    · exact fun _ _ hc _ => hslash hc
    · exact hquote
  | escaped hline _ ih =>
    rw [List.cons_append, List.cons_append, Stretch.quoted, if_neg hline, ih]
    rfl

theorem quotable_of_closed {text : List Char} (h : (Stretch.quoted text).closed) :
    Quotable (Stretch.quoted text).body := by
  fun_induction Stretch.quoted text with
  | case1 => cases h
  | case2 => cases h
  | case3 c rest hline ih => exact .escaped hline (ih h)
  | case4 => exact .nil
  | case5 => cases h
  | case6 c rest _ hquote hslash ih => exact .plain hquote hslash (ih h)

namespace Token

/-! ### Four kinds of spellings -/

/-- The kinds of spellings, each of which is cut off in its own way. -/
inductive Kind (token : Token) : List Char → Prop
  | word {c : Char} {rest : List Char} : startsName c → (∀ d ∈ rest, continuesName d) →
      Stretch.word (String.ofList (c :: rest)) = token → Kind token (c :: rest)
  | integer {digits : List Char} : IsNumeral digits → Stretch.integer digits = some token →
      Kind token digits
  | double {whole fraction : List Char} : IsNumeral whole → IsNumeral fraction →
      .double (Double.ofParts false whole fraction 0) = token →
      Kind token (whole ++ '.' :: fraction)
  | text {body : List Char} : Quotable body →
      .text (String.ofList (Stretch.unescape body)) = token → Kind token ('"' :: body ++ ['"'])
  | symbol1 {c : Char} : Stretch.symbol1 c = some token → Kind token [c]
  | symbol2 {c d : Char} : Stretch.symbol2 c d = some token → Kind token [c, d]

theorem Spells.kind {token : Token} {chars : List Char} (h : token.Spells chars) :
    Kind token chars := by
  cases h with
  | yes => exact .word (by decide) (List.all_eq_true.1 rfl) (if_pos rfl)
  | no =>
    refine .word (by decide) (List.all_eq_true.1 rfl) ?_
    exact (if_neg (by decide)).trans (if_pos rfl)
  | inWord =>
    refine .word (by decide) (List.all_eq_true.1 rfl) ?_
    exact (if_neg (by decide)).trans ((if_neg (by decide)).trans (if_pos rfl))
  | opening | closing | comma | dot => exact .symbol1 rfl
  | operator op =>
    cases op with
    | not | plus | minus | multiply | divide | modulo | less | greater => exact .symbol1 rfl
    | equal | notEqual | lessOrEqual | greaterOrEqual | and | or => exact .symbol2 rfl
  | name hc hrest hkeyword =>
    refine .word hc hrest ?_
    simp only [List.mem_cons, List.not_mem_nil, or_false, not_or] at hkeyword
    rw [Stretch.word, if_neg hkeyword.1, if_neg hkeyword.2.1, if_neg hkeyword.2.2]
  | text hbody => exact .text hbody rfl
  | double hwhole hfraction => exact .double hwhole hfraction rfl
  | int hdigits hlt => exact .integer hdigits (if_pos hlt)

theorem Kind.spells {token : Token} {chars : List Char} (h : Kind token chars) :
    token.Spells chars := by
  cases h with
  | @word c rest hc hrest htoken =>
    have hkeyword {spelling : String} (h : String.ofList (c :: rest) = spelling) :
        c :: rest = spelling.toList := by rw [← h, String.toList_ofList]
    subst htoken
    unfold Stretch.word
    split
    · rename_i hyes
      rw [hkeyword hyes]
      exact .yes
    split
    · rename_i hno
      rw [hkeyword hno]
      exact .no
    split
    · rename_i hin
      rw [hkeyword hin]
      exact .inWord
    · rename_i hyes hno hin
      refine .name hc hrest ?_
      simp only [List.mem_cons, List.not_mem_nil, or_false, not_or]
      exact ⟨hyes, hno, hin⟩
  | integer hdigits htoken =>
    unfold Stretch.integer at htoken
    dsimp only at htoken
    split at htoken
    · rename_i hlt
      cases htoken
      exact .int hdigits hlt
    · cases htoken
  | double hwhole hfraction htoken => exact htoken ▸ .double hwhole hfraction
  | text hbody htoken => exact htoken ▸ .text hbody
  | symbol1 htoken =>
    unfold Stretch.symbol1 at htoken
    split at htoken
    all_goals cases htoken
    · exact .opening
    · exact .closing
    · exact .comma
    · exact .dot
    · exact .operator .less
    · exact .operator .greater
    · exact .operator .not
    · exact .operator .plus
    · exact .operator .minus
    · exact .operator .multiply
    · exact .operator .divide
    · exact .operator .modulo
  | symbol2 htoken =>
    unfold Stretch.symbol2 at htoken
    split at htoken
    all_goals cases htoken
    · exact .operator .equal
    · exact .operator .notEqual
    · exact .operator .lessOrEqual
    · exact .operator .greaterOrEqual
    · exact .operator .and
    · exact .operator .or

end Token

/-! ### Cutting -/

namespace Stretch

variable {c : Char} {rest : List Char}

/-- A text that starts with a run of digits is cut as a number. -/
theorem cut_numeral {digits tail : List Char} (h : IsNumeral digits)
    (htext : digits ++ tail = c :: rest) :
    cut c rest = number (digits ++ tail.takeWhile isDigit) (tail.dropWhile isDigit) := by
  obtain ⟨d, more, rfl⟩ := List.exists_cons_of_ne_nil h.ne_nil
  have hdigit : isDigit c := by
    cases htext
    exact h.digits c (List.mem_cons_self ..)
  rw [cut_of_isDigit hdigit, ← htext, List.takeWhile_append_of_pos h.digits,
    List.dropWhile_append_of_pos h.digits]

theorem number_of_fraction {whole fraction : List Char} (h : IsNumeral fraction)
    (tail : List Char) :
    number whole ('.' :: (fraction ++ tail)) =
      ⟨some (.double (Double.ofParts false whole (fraction ++ tail.takeWhile isDigit) 0)),
        whole ++ '.' :: (fraction ++ tail.takeWhile isDigit), tail.dropWhile isDigit⟩ := by
  have hfraction : fraction? ('.' :: (fraction ++ tail)) =
      some (fraction ++ tail.takeWhile isDigit, tail.dropWhile isDigit) := by
    rw [← List.takeWhile_append_of_pos h.digits, ← List.dropWhile_append_of_pos h.digits]
    obtain ⟨d, more, rfl⟩ := List.exists_cons_of_ne_nil h.ne_nil
    rw [List.cons_append, fraction?, if_pos (h.digits d (List.mem_cons_self ..))]
  rw [number, hfraction]

/-- A text that starts with a number with a fraction is cut as one. -/
theorem cut_fraction {whole fraction tail : List Char} (hwhole : IsNumeral whole)
    (hfraction : IsNumeral fraction) (htext : whole ++ '.' :: fraction ++ tail = c :: rest) :
    cut c rest =
      ⟨some (.double (Double.ofParts false whole (fraction ++ tail.takeWhile isDigit) 0)),
        whole ++ '.' :: (fraction ++ tail.takeWhile isDigit), tail.dropWhile isDigit⟩ := by
  rw [List.append_assoc, List.cons_append] at htext
  have hpoint : isDigit '.' = false := by decide
  rw [cut_numeral hwhole htext, List.takeWhile_cons_of_neg (by simp [hpoint]),
    List.dropWhile_cons_of_neg (by simp [hpoint]), List.append_nil, number_of_fraction hfraction]

theorem prefix_number (whole rest : List Char) : whole <+: (number whole rest).chars := by
  unfold number
  split
  · exact List.prefix_append ..
  · exact List.prefix_refl whole

/-- A number is no token only if it is an integer that is too large. -/
theorem number_eq_none {whole rest : List Char} (h : (number whole rest).token = none) :
    (number whole rest).chars = whole ∧ Nat.pow 2 63 ≤ natOfDigits whole := by
  unfold number at h ⊢
  split
  · rename_i heq
    rw [heq] at h
    cases h
  · rename_i heq
    rw [heq] at h
    refine ⟨rfl, Nat.le_of_not_lt fun hlt => ?_⟩
    have hsome : integer whole = some (.int (Int64.ofNat (natOfDigits whole))) := if_pos hlt
    exact Option.some_ne_none _ (hsome.symm.trans h)

/-- A text that starts with a string is cut behind the closing quote. -/
theorem cut_quotable {body : List Char} (h : Quotable body) (tail : List Char) :
    cut '"' (body ++ '"' :: tail) =
      ⟨some (.text (String.ofList (unescape body))), '"' :: body ++ ['"'], tail⟩ := by
  show string (body ++ '"' :: tail) = _
  rw [string, h.quoted_append]
  rfl

/-- A text that starts with a symbol of two characters is cut behind it. -/
theorem cut_symbol2 {d : Char} {token : Token} (h : symbol2 c d = some token)
    (tail : List Char) : cut c (d :: tail) = ⟨some token, [c, d], tail⟩ := by
  rw [cut_of_isMark (isMark_of_symbol2 h), symbol, h]

/-- A text that starts with a symbol of one character is cut as a symbol. -/
theorem cut_symbol1 {token : Token} (h : symbol1 c = some token) :
    [c] <+: (cut c rest).chars ∧ (cut c rest).token.isSome := by
  rw [cut_of_isMark (isMark_of_symbol1 h)]
  unfold symbol
  split
  · exact ⟨List.prefix_refl _, by rw [h]; rfl⟩
  · split
    · exact ⟨⟨[_], rfl⟩, rfl⟩
    · exact ⟨List.prefix_refl _, by rw [h]; rfl⟩

end Stretch

/-! ### Spellings and cuts -/

namespace Token

/-- How a stretch goes with a token that is spelled at its start, with some text behind. -/
structure Fits (token : Token) (chars tail : List Char) (stretch : Stretch) : Prop where
  /-- The stretch goes at least as far. -/
  reaches : chars <+: stretch.chars
  /-- It is that token if no text is behind. -/
  alone : tail = [] → stretch.token = some token
  /-- It is no token only if it is a run of digits that stands for too large a number. -/
  overflows : stretch.token = none →
    IsNumeral stretch.chars ∧ Nat.pow 2 63 ≤ natOfDigits stretch.chars

variable {token : Token} {chars tail : List Char} {c : Char} {rest : List Char}

/-- A stretch that is a token. -/
theorem Fits.of_isSome {stretch : Stretch} (hsome : stretch.token.isSome)
    (hreaches : chars <+: stretch.chars) (halone : tail = [] → stretch.token = some token) :
    Fits token chars tail stretch := by
  refine ⟨hreaches, halone, fun hnone => ?_⟩
  rw [hnone] at hsome
  cases hsome

theorem Kind.fits (h : Kind token chars) (htext : chars ++ tail = c :: rest) :
    Fits token chars tail (Stretch.cut c rest) := by
  cases h with
  | word hc hword htoken =>
    rw [List.cons_append] at htext
    obtain ⟨rfl, rfl⟩ := List.cons.inj htext
    rw [Stretch.cut, if_pos hc, List.takeWhile_append_of_pos hword]
    refine .of_isSome rfl ⟨tail.takeWhile continuesName, rfl⟩ ?_
    rintro rfl
    rw [← htoken, List.takeWhile_nil, List.append_nil]
  | integer hdigits htoken =>
    rw [Stretch.cut_numeral hdigits htext]
    refine ⟨(List.prefix_append ..).trans (Stretch.prefix_number ..), ?_, fun hnone => ?_⟩
    · rintro rfl
      rw [List.takeWhile_nil, List.dropWhile_nil, List.append_nil]
      exact htoken
    · obtain ⟨hchars, hle⟩ := Stretch.number_eq_none hnone
      rw [hchars]
      refine ⟨⟨by simp [hdigits.ne_nil], fun d hd => ?_⟩, hle⟩
      rcases List.mem_append.1 hd with hd | hd
      · exact hdigits.digits d hd
      · exact List.all_eq_true.1 List.all_takeWhile d hd
  | double hwhole hfraction htoken =>
    rw [Stretch.cut_fraction hwhole hfraction htext]
    refine .of_isSome rfl ⟨tail.takeWhile isDigit, by simp⟩ ?_
    rintro rfl
    rw [← htoken, List.takeWhile_nil, List.append_nil]
  | text hbody htoken =>
    rw [List.cons_append, List.cons_append, List.append_assoc] at htext
    obtain ⟨rfl, rfl⟩ := List.cons.inj htext
    rw [List.singleton_append, Stretch.cut_quotable hbody]
    exact .of_isSome rfl (List.prefix_refl _) fun _ => congrArg some htoken
  | symbol1 htoken =>
    rw [List.singleton_append] at htext
    obtain ⟨rfl, rfl⟩ := List.cons.inj htext
    obtain ⟨hreaches, hsome⟩ := @Stretch.cut_symbol1 _ tail _ htoken
    refine .of_isSome hsome hreaches ?_
    rintro rfl
    rw [Stretch.cut_of_isMark (isMark_of_symbol1 htoken)]
    exact htoken
  | symbol2 htoken =>
    rw [List.cons_append, List.singleton_append] at htext
    obtain ⟨rfl, rfl⟩ := List.cons.inj htext
    rw [Stretch.cut_symbol2 htoken]
    exact .of_isSome rfl (List.prefix_refl _) fun _ => rfl

/-- **Nothing that spells a token goes further than the cut.** -/
theorem Spells.prefix_cut (h : token.Spells chars) (hfront : chars <+: c :: rest) :
    chars <+: (Stretch.cut c rest).chars := by
  obtain ⟨tail, htext⟩ := hfront
  exact (h.kind.fits htext).reaches

/-- **Where a token is spelled none is cut off only if a run of digits stands for too large a
number.** -/
theorem Spells.overflows (h : token.Spells chars) (hfront : chars <+: c :: rest)
    (hnone : (Stretch.cut c rest).token = none) :
    IsNumeral (Stretch.cut c rest).chars ∧
      Nat.pow 2 63 ≤ natOfDigits (Stretch.cut c rest).chars := by
  obtain ⟨tail, htext⟩ := hfront
  exact (h.kind.fits htext).overflows hnone

/-- **A text that spells a token is cut off as that token.** -/
theorem Spells.cut_self (h : token.Spells (c :: rest)) :
    Stretch.cut c rest = ⟨some token, c :: rest, []⟩ := by
  have hfits : Fits token (c :: rest) [] (Stretch.cut c rest) :=
    h.kind.fits (List.append_nil _)
  have happend := Stretch.cut_append c rest
  obtain ⟨htoken, ⟨more, hmore⟩⟩ := And.intro (hfits.alone rfl) hfits.reaches
  generalize Stretch.cut c rest = stretch at happend htoken hmore
  obtain ⟨_, chars, behind⟩ := stretch
  -- The whole text is cut off, so that nothing is left.
  have hnil : more ++ behind = [] := by
    refine List.append_right_eq_self.1 (?_ : c :: rest ++ (more ++ behind) = c :: rest)
    rw [← List.append_assoc, hmore]
    exact happend
  obtain ⟨rfl, rfl⟩ := List.append_eq_nil_iff.1 hnil
  rw [List.append_nil] at hmore
  cases htoken
  cases hmore
  rfl

theorem Spells.ne_nil (h : token.Spells chars) : chars ≠ [] := by
  cases h.kind with
  | integer hdigits _ => exact hdigits.ne_nil
  | double _ _ _ => simp
  | _ => exact List.cons_ne_nil _ _

/-- A text that spells a token starts with no blank. -/
theorem Spells.isBlank_head (h : token.Spells (c :: rest)) : isBlank c = false := by
  have hkind := h.kind
  generalize htext : c :: rest = text at hkind
  cases hkind with
  | word hc _ _ =>
    cases htext
    exact isBlank_of_startsName hc
  | integer hdigits _ =>
    cases htext
    exact isBlank_of_isDigit (hdigits.digits c (List.mem_cons_self ..))
  | @double whole fraction hwhole _ _ =>
    obtain ⟨d, more, rfl⟩ := List.exists_cons_of_ne_nil hwhole.ne_nil
    cases htext
    exact isBlank_of_isDigit (hwhole.digits c (List.mem_cons_self ..))
  | text _ _ =>
    cases htext
    rfl
  | symbol1 htoken =>
    cases htext
    exact (isMark_of_symbol1 htoken).blank
  | symbol2 htoken =>
    cases htext
    exact (isMark_of_symbol2 htoken).blank

end Token

namespace Stretch

variable {c : Char} {rest : List Char} {token : Token}

theorem isNumeral_takeWhile (h : isDigit c) : IsNumeral ((c :: rest).takeWhile isDigit) := by
  refine ⟨?_, List.all_eq_true.1 List.all_takeWhile⟩
  rw [List.takeWhile_cons_of_pos h]
  exact List.cons_ne_nil _ _

theorem kind_of_number {whole : List Char} (hwhole : IsNumeral whole)
    (h : (number whole rest).token = some token) : token.Kind (number whole rest).chars := by
  unfold number at h ⊢
  split
  · rename_i fraction tail heq
    rw [heq] at h
    cases h
    refine .double hwhole ?_ rfl
    unfold fraction? at heq
    split at heq
    · rename_i d more
      split at heq
      · rename_i hdigit
        cases heq
        exact isNumeral_takeWhile hdigit
      · cases heq
    · cases heq
  · rename_i heq
    rw [heq] at h
    exact .integer hwhole h

theorem kind_of_string (h : (string rest).token = some token) :
    token.Kind (string rest).chars := by
  unfold string at h ⊢
  dsimp only at h ⊢
  split
  · rename_i hclosed
    rw [if_pos hclosed] at h
    exact .text (quotable_of_closed hclosed) (Option.some.inj h)
  · rename_i hopen
    rw [if_neg hopen] at h
    cases h

theorem kind_of_symbol (h : (symbol c rest).token = some token) :
    token.Kind (symbol c rest).chars := by
  unfold symbol at h ⊢
  split
  · exact .symbol1 h
  · rename_i d more
    dsimp only at h
    split
    · rename_i heq
      rw [heq] at h
      exact .symbol2 (heq.trans h)
    · rename_i heq
      rw [heq] at h
      exact .symbol1 h

/-- **What is cut off as a token spells it.** -/
theorem spells_of_cut (h : (cut c rest).token = some token) :
    token.Spells (cut c rest).chars := by
  refine Token.Kind.spells ?_
  unfold cut at h ⊢
  by_cases hname : startsName c
  · rw [if_pos hname] at h ⊢
    exact .word hname (List.all_eq_true.1 List.all_takeWhile) (Option.some.inj h)
  rw [if_neg hname] at h ⊢
  by_cases hdigit : isDigit c
  · rw [if_pos hdigit] at h ⊢
    exact kind_of_number (isNumeral_takeWhile hdigit) h
  rw [if_neg hdigit] at h ⊢
  by_cases hquote : c = '"'
  · rw [if_pos hquote] at h ⊢
    exact kind_of_string h
  · rw [if_neg hquote] at h ⊢
    exact kind_of_symbol h

end Stretch

end Stencil
