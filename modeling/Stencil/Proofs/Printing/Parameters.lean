/-
Parameters that are written are read.

* **`Written`** — the text of tokens, one behind the other;
* **`Head.collect_written`** — the lexer gives these tokens back, up to the closing
  parenthesis;
* **`written_parameters`**, **`written_string`** — variables and strings are written as
  tokens from which the grammar derives them.
-/
import Stencil.Document.Head
import Stencil.Proofs.Grammar.Recognition
import Stencil.Proofs.Printing

namespace Stencil

variable {source : Source}

/-! ### First characters -/

theorem isBlank_of_startsName {c : Char} (h : startsName c) : isBlank c = false := by
  rw [Bool.eq_false_iff]
  intro hblank
  simp only [isBlank, Bool.or_eq_true, decide_eq_true_eq] at hblank
  rcases hblank with ((rfl | rfl) | rfl) | rfl
  all_goals
    revert h
    decide

theorem startsName_of_isDigit {c : Char} (h : isDigit c) : startsName c = false := by
  have hle : '0' ≤ c ∧ c ≤ '9' := by simpa [isDigit] using h
  rw [Bool.eq_false_iff]
  intro hstarts
  simp only [startsName, Bool.or_eq_true, Bool.and_eq_true, decide_eq_true_eq] at hstarts
  rcases hstarts with (⟨hlow, -⟩ | ⟨hlow, -⟩) | rfl
  · exact absurd (Char.le_trans hlow hle.2) (by decide)
  · exact absurd (Char.le_trans hlow hle.2) (by decide)
  · exact absurd hle.2 (by decide)

theorem isBlank_of_isDigit {c : Char} (h : isDigit c) : isBlank c = false := by
  rw [Bool.eq_false_iff]
  intro hblank
  simp only [isBlank, Bool.or_eq_true, decide_eq_true_eq] at hblank
  rcases hblank with ((rfl | rfl) | rfl) | rfl
  all_goals exact absurd h (by decide)

/-- A character with which no word, no number and no string starts, and no blank. -/
structure IsMark (c : Char) : Prop where
  name : startsName c = false
  digit : isDigit c = false
  quote : c ≠ '"'
  blank : isBlank c = false

theorem isMark_of_symbol1 {c : Char} {token : Token} (h : Stretch.symbol1 c = some token) :
    IsMark c := by
  unfold Stretch.symbol1 at h
  split at h
  case h_13 => cases h
  all_goals exact ⟨by decide, by decide, by decide, by decide⟩

theorem isMark_of_symbol2 {c d : Char} {token : Token} (h : Stretch.symbol2 c d = some token) :
    IsMark c := by
  unfold Stretch.symbol2 at h
  split at h
  case h_7 => cases h
  all_goals exact ⟨by decide, by decide, by decide, by decide⟩

/-! ### Single tokens -/

namespace Stretch

theorem cut_of_isDigit {c : Char} {rest : List Char} (h : isDigit c) :
    cut c rest = number ((c :: rest).takeWhile isDigit) ((c :: rest).dropWhile isDigit) := by
  rw [cut, startsName_of_isDigit h, if_neg Bool.false_ne_true, if_pos h]

theorem cut_of_isMark {c : Char} {rest : List Char} (h : IsMark c) :
    cut c rest = symbol c rest := by
  rw [cut, h.name, h.digit, if_neg Bool.false_ne_true, if_neg Bool.false_ne_true, if_neg h.quote]

/-- A run of characters ends where the next one does not belong to it. -/
theorem takeWhile_append_of_head {p : Char → Bool} {run tail : List Char}
    (hrun : ∀ c ∈ run, p c) (htail : ∀ c, tail.head? = some c → p c = false) :
    (run ++ tail).takeWhile p = run ∧ (run ++ tail).dropWhile p = tail := by
  rw [List.takeWhile_append_of_pos hrun, List.dropWhile_append_of_pos hrun]
  cases tail with
  | nil => exact ⟨List.append_nil run, rfl⟩
  | cons c tail =>
    have hc : p c = false := htail c rfl
    simp [hc]

theorem cut_word {first : Char} {rest tail : List Char} (hfirst : startsName first)
    (hrest : ∀ c ∈ rest, continuesName c)
    (htail : ∀ c, tail.head? = some c → continuesName c = false) :
    cut first (rest ++ tail) =
      ⟨some (word (String.ofList (first :: rest))), first :: rest, tail⟩ := by
  obtain ⟨htake, hdrop⟩ := takeWhile_append_of_head hrest htail
  rw [cut, if_pos hfirst, htake, hdrop]

theorem quoted_escape (content tail : List Char) :
    quoted (escape content ++ '"' :: tail) = ⟨true, escape content, tail⟩ := by
  induction content with
  | nil => rfl
  | cons c content ih =>
    rw [escape, List.flatMap_cons, List.append_assoc, ← escape]
    split
    · rename_i hc
      have hline : c ≠ '\n' := by rcases hc with rfl | rfl <;> decide
      rw [List.cons_append, List.cons_append, List.nil_append, quoted, if_neg hline, ih]
      rfl
    · rename_i hc
      rw [List.cons_append, List.nil_append, quoted, if_neg fun h => hc (.inr h), ih]
      · rfl
      · exact fun _ _ h _ => hc (.inr h)
      · exact fun h => hc (.inl h)

theorem unescape_cons {c : Char} (hc : c ≠ '\\') (rest : List Char) :
    unescape (c :: rest) = c :: unescape rest := by
  rw [unescape]
  all_goals simp [hc]

theorem unescape_escape (content : List Char) : unescape (escape content) = content := by
  induction content with
  | nil => rfl
  | cons c content ih =>
    rw [escape, List.flatMap_cons, ← escape]
    split
    · rename_i hc
      rw [List.cons_append, List.cons_append, List.nil_append, unescape, ih]
      all_goals
        rintro rfl
        revert hc
        decide
    · rename_i hc
      rw [List.cons_append, List.nil_append, unescape_cons fun h => hc (.inr h), ih]

/-- A string is cut off with its quotes. -/
theorem cut_writeString (text : String) (tail : List Char) :
    cut '"' (escape text.toList ++ ['"'] ++ tail) =
      ⟨some (.text text), writeString text, tail⟩ := by
  have hquote : cut '"' (escape text.toList ++ ['"'] ++ tail) =
      string (escape text.toList ++ ['"'] ++ tail) := rfl
  rw [hquote, string, List.append_assoc, List.singleton_append, quoted_escape]
  dsimp only
  rw [if_pos rfl, unescape_escape, String.ofList_toList]
  rfl

/-- A run of digits is cut off as an integer where no digit and no point follows. -/
theorem cut_integer {first : Char} {rest tail : List Char}
    (hdigits : ∀ c ∈ first :: rest, isDigit c)
    (htail : ∀ c, tail.head? = some c → isDigit c = false ∧ c ≠ '.') :
    cut first (rest ++ tail) = ⟨integer (first :: rest), first :: rest, tail⟩ := by
  obtain ⟨htake, hdrop⟩ := takeWhile_append_of_head hdigits fun c hc => (htail c hc).1
  have hfraction : fraction? tail = none := by
    unfold fraction?
    split
    · exact absurd rfl (htail '.' rfl).2
    · rfl
  rw [cut_of_isDigit (hdigits first (List.mem_cons_self ..)), ← List.cons_append, htake, hdrop,
    number, hfraction]

/-- A symbol is cut off alone where it makes no token with the next character. -/
theorem cut_symbol {c : Char} {token : Token} {tail : List Char} (h : symbol1 c = some token)
    (htail : ∀ d, tail.head? = some d → symbol2 c d = none) :
    cut c tail = ⟨some token, [c], tail⟩ := by
  rw [cut_of_isMark (isMark_of_symbol1 h)]
  cases tail with
  | nil => rw [symbol, h]
  | cons d tail => rw [symbol, htail d rfl, h]

end Stretch

theorem nextPiece_blank (text : List Char) (offset : Nat) :
    nextPiece (' ' :: text) offset = nextPiece text (offset + 1) := by
  unfold nextPiece
  rw [skipBlank, if_pos (by decide)]
  rfl

/-- What is cut off a text that starts with no blank is the next piece. -/
theorem nextPiece_of_cut {c : Char} {rest chars tail : List Char} {token : Token}
    (hblank : isBlank c = false) (hcut : Stretch.cut c rest = ⟨some token, chars, tail⟩)
    (offset : Nat) :
    nextPiece (c :: rest) offset = some (.lexeme ⟨token, offset, offset + byteLength chars⟩, tail,
      offset + byteLength chars) := by
  have hskip : skipBlank (c :: rest) offset = (c :: rest, offset) := by
    rw [skipBlank, hblank]
    rfl
  unfold nextPiece
  rw [hskip]
  dsimp only
  rw [hcut]

theorem nextPiece_symbol {c : Char} {token : Token} (h : Stretch.symbol1 c = some token)
    (halone : ∀ d, Stretch.symbol2 c d = none) (tail : List Char) (offset : Nat) :
    nextPiece (c :: tail) offset =
      some (.lexeme ⟨token, offset, offset + byteLength [c]⟩, tail, offset + byteLength [c]) :=
  nextPiece_of_cut (isMark_of_symbol1 h).blank (Stretch.cut_symbol h fun d _ => halone d) offset

/-! ### Written tokens -/

/-- The text of tokens, with blanks in between.  A word and an integer end where no character
that could go on them follows, and an operator is one that goes on with no other character. -/
inductive Written : List Char → List Token → Prop
  | nil : Written [] []
  | blank {cs : List Char} {ts : List Token} : Written cs ts → Written (' ' :: cs) ts
  | dot {cs : List Char} {ts : List Token} : Written cs ts → Written ('.' :: cs) (.dot :: ts)
  | comma {cs : List Char} {ts : List Token} : Written cs ts →
      Written (',' :: cs) (.comma :: ts)
  | word {first : Char} {rest cs : List Char} {ts : List Token} : startsName first →
      (∀ c ∈ rest, continuesName c) → (∀ c, cs.head? = some c → continuesName c = false) →
      Written cs ts →
      Written (first :: (rest ++ cs)) (Stretch.word (String.ofList (first :: rest)) :: ts)
  | text {content : String} {cs : List Char} {ts : List Token} : Written cs ts →
      Written (writeString content ++ cs) (.text content :: ts)
  | operator {c : Char} {op : Operator} {cs : List Char} {ts : List Token} :
      Stretch.symbol1 c = some (.operator op) → (∀ d, Stretch.symbol2 c d = none) →
      Written cs ts → Written (c :: cs) (.operator op :: ts)
  | integer {first : Char} {rest cs : List Char} {ts : List Token} :
      (∀ c ∈ first :: rest, isDigit c) → natOfDigits (first :: rest) < Nat.pow 2 63 →
      (∀ c, cs.head? = some c → isDigit c = false ∧ c ≠ '.') → Written cs ts →
      Written (first :: (rest ++ cs)) (.int (Int64.ofNat (natOfDigits (first :: rest))) :: ts)

namespace Head

variable {opening offset depth stop : Nat} {text rest : List Char} {done : List Lexeme}
  {lexeme : Lexeme}

/-- A blank makes no difference to what is collected. -/
theorem collect_blank :
    collect source opening (' ' :: text) offset depth done =
      collect source opening text (offset + 1) depth done := by
  rw [collect_eq, collect_eq source opening text, nextPiece_blank]

/-- Any token but a parenthesis is collected. -/
theorem collect_token (h : nextPiece text offset = some (.lexeme lexeme, rest, stop))
    (hopening : lexeme.token ≠ .opening) (hclosing : lexeme.token ≠ .closing) :
    collect source opening text offset depth done =
      collect source opening rest stop depth (lexeme :: done) := by
  rw [collect_eq, h]
  dsimp only
  split
  · exact absurd ‹_› hopening
  · exact absurd ‹_› hclosing
  · exact absurd ‹_› hclosing
  · rfl

/-- The closing parenthesis ends the collection. -/
theorem collect_closing (h : nextPiece text offset = some (.lexeme lexeme, rest, stop))
    (hclosing : lexeme.token = .closing) :
    collect source opening text offset 0 done = .ok (⟨done.reverse, lexeme.start⟩, rest) := by
  rw [collect_eq, h]
  dsimp only
  rw [hclosing]

/-- A token goes in front of what is collected behind it. -/
theorem collect_cons {tail behind : List Char} {token : Token} {ts : List Token}
    (h : nextPiece text offset = some (.lexeme ⟨token, offset, stop⟩, tail, stop))
    (hopening : token ≠ .opening) (hclosing : token ≠ .closing)
    (ih : ∃ lexemes closing, lexemes.map Lexeme.token = ts ∧
      collect source opening tail stop 0 (⟨token, offset, stop⟩ :: done) =
        .ok (⟨(⟨token, offset, stop⟩ :: done).reverse ++ lexemes, closing⟩, behind)) :
    ∃ lexemes closing, lexemes.map Lexeme.token = token :: ts ∧
      collect source opening text offset 0 done =
        .ok (⟨done.reverse ++ lexemes, closing⟩, behind) := by
  obtain ⟨lexemes, closing, rfl, hcollect⟩ := ih
  refine ⟨⟨token, offset, stop⟩ :: lexemes, closing, rfl, ?_⟩
  rw [collect_token h hopening hclosing, hcollect, List.reverse_cons, List.append_assoc]
  rfl

/-- **The tokens of a written text are collected up to the closing parenthesis.** -/
theorem collect_written {cs : List Char} {ts : List Token} (h : Written cs ts)
    (source : Source) (opening : Nat) (behind : List Char) (offset : Nat) (done : List Lexeme) :
    ∃ lexemes closing, lexemes.map Lexeme.token = ts ∧
      collect source opening (cs ++ ')' :: behind) offset 0 done =
        .ok (⟨done.reverse ++ lexemes, closing⟩, behind) := by
  induction h generalizing offset done with
  | nil =>
    refine ⟨[], offset, rfl, ?_⟩
    rw [List.nil_append, collect_closing (nextPiece_symbol rfl (fun _ => rfl) behind offset) rfl,
      List.append_nil]
  | blank _ ih =>
    rw [List.cons_append, collect_blank]
    exact ih _ _
  | dot _ ih =>
    exact collect_cons (nextPiece_symbol rfl (fun _ => rfl) _ offset) (by simp) (by simp) (ih _ _)
  | comma _ ih =>
    exact collect_cons (nextPiece_symbol rfl (fun _ => rfl) _ offset) (by simp) (by simp) (ih _ _)
  | @word first rest cs ts hfirst hrest htail _ ih =>
    have hblank : isBlank first = false := isBlank_of_startsName hfirst
    have htail' : ∀ c, (cs ++ ')' :: behind).head? = some c → continuesName c = false := by
      cases cs with
      | nil =>
        rintro c ⟨⟩
        decide
      | cons => exact htail
    have hcut := Stretch.cut_word hfirst hrest htail'
    rw [List.cons_append, List.append_assoc]
    obtain ⟨hopening, hclosing⟩ := Stretch.word_ne (String.ofList (first :: rest))
    exact collect_cons (nextPiece_of_cut hblank hcut offset) hopening hclosing (ih _ _)
  | @text content cs ts _ ih =>
    have hcut := Stretch.cut_writeString content (cs ++ ')' :: behind)
    rw [writeString, List.cons_append, List.cons_append, List.append_assoc]
    exact collect_cons (nextPiece_of_cut (by decide) hcut offset) (by simp) (by simp) (ih _ _)
  | operator hsymbol halone _ ih =>
    exact collect_cons (nextPiece_symbol hsymbol halone _ offset) (by simp) (by simp) (ih _ _)
  | @integer first rest cs ts hdigits hlt htail _ ih =>
    have hblank : isBlank first = false :=
      isBlank_of_isDigit (hdigits first (List.mem_cons_self ..))
    have htail' : ∀ c, (cs ++ ')' :: behind).head? = some c → isDigit c = false ∧ c ≠ '.' := by
      cases cs with
      | nil =>
        rintro c ⟨⟩
        decide
      | cons => exact htail
    have hinteger : Stretch.integer (first :: rest) =
        some (.int (Int64.ofNat (natOfDigits (first :: rest)))) := if_pos hlt
    have hcut := Stretch.cut_integer hdigits htail'
    rw [hinteger] at hcut
    rw [List.cons_append, List.append_assoc]
    exact collect_cons (nextPiece_of_cut hblank hcut offset) (by simp) (by simp) (ih _ _)

end Head

/-! ### Variables and strings -/

theorem isKey_of_letter {c : Char} (hstarts : startsName c)
    (hkeyword : String.ofList [c] ∉ ["true", "false", "in"]) : IsKey (String.ofList [c]) where
  starts := ⟨c, [], String.toList_ofList, hstarts⟩
  continues := by
    rw [String.toList_ofList]
    exact List.forall_mem_singleton.2 (by rw [continuesName, hstarts, Bool.true_or])
  keyword := hkeyword

theorem IsKey.written {key : String} (h : IsKey key) {cs : List Char} {ts : List Token}
    (hcs : ∀ c, cs.head? = some c → continuesName c = false) (hwritten : Written cs ts) :
    Written (key.toList ++ cs) (.name key :: ts) := by
  obtain ⟨first, rest, hkey, hfirst⟩ := h.starts
  have hword : Stretch.word (String.ofList (first :: rest)) = .name key := by
    have hkeyword := h.keyword
    simp only [List.mem_cons, List.not_mem_nil, or_false, not_or] at hkeyword
    rw [← hkey, String.ofList_toList, Stretch.word, if_neg hkeyword.1, if_neg hkeyword.2.1,
      if_neg hkeyword.2.2]
  have hrest : ∀ c ∈ rest, continuesName c := by
    intro c hc
    exact h.continues c (by rw [hkey]; exact List.mem_cons_of_mem _ hc)
  rw [hkey, ← hword]
  exact .word hfirst hrest hcs hwritten

/-- The keys of a path behind the first one, each with a dot. -/
theorem written_dotted {keys : List String} (h : ∀ key ∈ keys, IsKey key) {cs : List Char}
    {ts : List Token} (hcs : ∀ c, cs.head? = some c → continuesName c = false)
    (hwritten : Written cs ts) :
    (∀ c, ((keys.flatMap fun key => '.' :: key.toList) ++ cs).head? = some c →
      continuesName c = false) ∧
    Written ((keys.flatMap fun key => '.' :: key.toList) ++ cs)
      ((keys.flatMap fun key => [Token.dot, Token.name key]) ++ ts) := by
  induction keys with
  | nil => exact ⟨hcs, hwritten⟩
  | cons key keys ih =>
    obtain ⟨hhead, hrest⟩ := ih fun key hkey => h key (List.mem_cons_of_mem _ hkey)
    have hkey := (h key (List.mem_cons_self ..)).written hhead hrest
    constructor
    · rintro c ⟨⟩
      decide
    · rw [List.flatMap_cons, List.flatMap_cons, List.append_assoc, List.append_assoc]
      exact .dot hkey

theorem Node.IsVariable.written {node : Node} (h : node.IsVariable) {cs : List Char}
    {ts : List Token} (hcs : ∀ c, cs.head? = some c → continuesName c = false)
    (hwritten : Written cs ts) :
    ∃ ts', Written (node.writeVariable ++ cs) (ts' ++ ts) ∧ Derives .operand ts' [node.bare] := by
  cases node with
  | path span keys =>
    obtain ⟨hne, hkeys⟩ := h
    refine ⟨dottedTokens keys, ?_, .path hne⟩
    obtain ⟨key, keys, rfl⟩ := List.exists_cons_of_ne_nil hne
    obtain ⟨hhead, hrest⟩ := written_dotted
      (fun key hkey => hkeys key (List.mem_cons_of_mem _ hkey)) hcs hwritten
    rw [dottedTokens_cons, Node.writeVariable, writeKeys, List.append_assoc, List.cons_append]
    exact (hkeys key (List.mem_cons_self ..)).written hhead hrest
  | _ => exact absurd h (by simp [IsVariable])

/-- What has no infix operator is an expression of every level. -/
theorem Derives.level_of_signed {ts : List Token} {e : Node} {level : Nat}
    (h : Derives .signed ts [e]) (hlevel : level ≤ 6) : Derives (.level level) ts [e] :=
  (Derives.unmixed h).weaken hlevel (Nat.le_refl 6)

theorem Derives.expression_of_operand {ts : List Token} {e : Node} (h : Derives .operand ts [e]) :
    Derives .expression ts [e] :=
  (Derives.unsigned h).level_of_signed (Nat.zero_le 6)

theorem written_series {parameters : List Node} (hne : parameters ≠ [])
    (h : ∀ node ∈ parameters, node.IsVariable) :
    ∃ ts, Written (writeParameters parameters) ts ∧
      Derives .series ts (parameters.map Node.bare) := by
  induction parameters with
  | nil => exact absurd rfl hne
  | cons parameter parameters ih =>
    have hparameter := h parameter (List.mem_cons_self ..)
    cases parameters with
    | nil =>
      obtain ⟨ts, hwritten, hderives⟩ := hparameter.written (by simp) .nil
      rw [List.append_nil, List.append_nil] at hwritten
      exact ⟨ts, hwritten, .single hderives.expression_of_operand⟩
    | cons second parameters =>
      obtain ⟨ts, hrest, hseries⟩ :=
        ih (List.cons_ne_nil _ _) fun node hnode => h node (List.mem_cons_of_mem _ hnode)
      obtain ⟨ts', hwritten, hderives⟩ :=
        hparameter.written (by rintro c ⟨⟩; decide) hrest.blank.comma
      exact ⟨ts' ++ .comma :: ts, hwritten, .more hderives.expression_of_operand hseries⟩

theorem written_parameters {parameters : List Node} (h : ∀ node ∈ parameters, node.IsVariable) :
    ∃ ts, Written (writeParameters parameters) ts ∧
      Derives .items ts (parameters.map Node.bare) := by
  cases parameters with
  | nil => exact ⟨[], .nil, .noItems⟩
  | cons parameter parameters =>
    obtain ⟨ts, hwritten, hseries⟩ := written_series (List.cons_ne_nil _ _) h
    exact ⟨ts, hwritten, .items hseries⟩

/-- A single parameter. -/
theorem Node.IsVariable.written_single {node : Node} (h : node.IsVariable) :
    ∃ ts, Written node.writeVariable ts ∧ Derives .items ts [node.bare] :=
  written_parameters (List.forall_mem_singleton.2 h)

/-- The key and the data of a loop. -/
theorem written_loop {key : String} {data : Node} (hkey : IsKey key) (hdata : data.IsVariable) :
    ∃ ts, Written (key.toList ++ " in ".toList ++ data.writeVariable)
        (.name key :: .inWord :: ts) ∧ Derives .expression ts [data.bare] := by
  obtain ⟨ts, hwritten, hderives⟩ := hdata.written (by simp) .nil
  rw [List.append_nil, List.append_nil] at hwritten
  have hin : Written (" in ".toList ++ data.writeVariable) (.inWord :: ts) :=
    .blank (@Written.word 'i' ['n'] _ _ (by decide) (List.all_eq_true.1 (by decide))
      (by rintro c ⟨⟩; decide) hwritten.blank)
  refine ⟨ts, ?_, hderives.expression_of_operand⟩
  rw [List.append_assoc]
  exact hkey.written (by rintro c ⟨⟩; decide) hin

theorem written_string (text : String) :
    Written (writeString text) [.text text] ∧
      Derives .items [.text text] [.literal default (.text text)] := by
  have hwritten := @Written.text text [] [] .nil
  rw [List.append_nil] at hwritten
  exact ⟨hwritten, .items (.single (Derives.text text).expression_of_operand)⟩

end Stencil
