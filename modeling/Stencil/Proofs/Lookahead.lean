/-
Cutting a text with more text behind.

What is cut off the front of a text is the same if more text follows, as long as the
cut does not reach the end of the text:

* **`Stretch.cut_append_right`**, **`nextPiece_append_right`** — tokens in front of a
  closing parenthesis;
* **`Head.collect_append_right`**, **`Head.recognize_append_right`** — heads;
* **`Segment.scanFrom_reaches`** — a segment with a head, up to the head;
* **`Segment.scan_append_right`** — a segment with a head that some text follows.

## Design notes

A name, a number and a symbol of two characters can go on with the first characters
behind them, so a token may be another one if more text follows.  It is not if the
parenthesis that closes the list is still to come, because that goes on none of them.
The source is only asked for the places of errors, so it may be another one as well.
-/
import Mathlib.Data.List.TakeWhile
import Stencil.Proofs.Places.Document

namespace Stencil

variable {text rest : List Char} (tail : List Char)

/-! ### Tokens -/

namespace Stretch

/-- A run of characters ends in front of one that is not of their kind. -/
theorem span_append_right {p : Char → Bool} {c : Char} (hc : p c = false) (h : c ∈ text) :
    (text ++ tail).takeWhile p = text.takeWhile p ∧
      (text ++ tail).dropWhile p = text.dropWhile p ++ tail := by
  induction text with
  | nil => cases h
  | cons d text ih =>
    by_cases hd : p d
    · have hmem : c ∈ text := by
        rcases List.mem_cons.1 h with rfl | hmem
        · rw [hc] at hd
          cases hd
        · exact hmem
      obtain ⟨htake, hdrop⟩ := ih hmem
      rw [List.cons_append, List.takeWhile_cons_of_pos hd, List.takeWhile_cons_of_pos hd,
        List.dropWhile_cons_of_pos hd, List.dropWhile_cons_of_pos hd, htake, hdrop]
      exact ⟨rfl, rfl⟩
    · rw [List.cons_append, List.takeWhile_cons_of_neg hd, List.takeWhile_cons_of_neg hd,
        List.dropWhile_cons_of_neg hd, List.dropWhile_cons_of_neg hd]
      exact ⟨rfl, rfl⟩

/-- A string that is closed stays as it is. -/
theorem quoted_append_right (h : (quoted text).closed) :
    quoted (text ++ tail) = { quoted text with rest := (quoted text).rest ++ tail } := by
  fun_induction quoted text with
  | case1 => cases h
  | case2 => cases h
  | case3 c rest hc ih =>
    rw [List.cons_append, List.cons_append, quoted, if_neg hc, ih h]
    rfl
  | case4 => rfl
  | case5 => cases h
  | case6 c rest hescape hquote hc ih =>
    rw [List.cons_append, quoted, if_neg hc, ih h]
    · rfl
    · rintro _ _ rfl
      exact absurd rfl hc
    · exact hquote

/-- A fraction ends in front of a closing parenthesis at the latest. -/
theorem fraction?_append_right (h : ')' ∈ text) :
    fraction? (text ++ tail) = (fraction? text).map fun parts => (parts.1, parts.2 ++ tail) := by
  match text with
  | [] => cases h
  | [c] =>
    obtain rfl : ')' = c := by simpa using h
    rfl
  | c :: d :: digits =>
    by_cases hc : c = '.'
    · subst hc
      have hmem : ')' ∈ d :: digits := by simpa using h
      obtain ⟨htake, hdrop⟩ := span_append_right tail (show isDigit ')' = false by decide) hmem
      rw [List.cons_append] at htake hdrop
      rw [List.cons_append, List.cons_append, fraction?, fraction?, htake, hdrop]
      split <;> rfl
    · simp [fraction?, hc]

theorem number_append_right (whole : List Char) (h : ')' ∈ rest) :
    number whole (rest ++ tail) =
      { number whole rest with rest := (number whole rest).rest ++ tail } := by
  unfold number
  rw [fraction?_append_right tail h]
  cases fraction? rest <;> rfl

theorem string_append_right (h : (string text).token.isSome) :
    string (text ++ tail) = { string text with rest := (string text).rest ++ tail } := by
  have hclosed : (quoted text).closed := by
    unfold string at h
    dsimp only at h
    split at h
    · assumption
    · cases h
  unfold string
  rw [quoted_append_right tail hclosed]
  simp only [hclosed, if_true]

theorem symbol_append_right (c : Char) (h : rest ≠ []) :
    symbol c (rest ++ tail) =
      { symbol c rest with rest := (symbol c rest).rest ++ tail } := by
  cases rest with
  | nil => exact absurd rfl h
  | cons d more =>
    rw [List.cons_append, symbol, symbol]
    cases symbol2 c d <;> rfl

/-- A token in front of a closing parenthesis is the same if more text follows. -/
theorem cut_append_right {c : Char} (h : ')' ∈ rest) (htoken : (cut c rest).token.isSome) :
    cut c (rest ++ tail) = { cut c rest with rest := (cut c rest).rest ++ tail } := by
  unfold cut at htoken ⊢
  by_cases hname : startsName c
  · obtain ⟨htake, hdrop⟩ := span_append_right tail
      (show continuesName ')' = false by decide) h
    rw [if_pos hname, if_pos hname, htake, hdrop]
  rw [if_neg hname, if_neg hname]
  rw [if_neg hname] at htoken
  by_cases hdigit : isDigit c
  · -- The parenthesis stands behind the digits, and the fraction ends before it.
    obtain ⟨htake, hdrop⟩ := span_append_right tail (show isDigit ')' = false by decide)
      (List.mem_cons_of_mem c h)
    have hmem : ')' ∈ (c :: rest).dropWhile isDigit := by
      have hsplit : ')' ∈ (c :: rest).takeWhile isDigit ++ (c :: rest).dropWhile isDigit := by
        rw [List.takeWhile_append_dropWhile]
        exact List.mem_cons_of_mem c h
      refine (List.mem_append.1 hsplit).resolve_left fun hdigits => ?_
      have hdigit : isDigit ')' := List.all_eq_true.1 List.all_takeWhile _ hdigits
      exact absurd hdigit (by decide)
    rw [List.cons_append] at htake hdrop
    rw [if_pos hdigit, if_pos hdigit, htake, hdrop, number_append_right tail _ hmem]
  rw [if_neg hdigit, if_neg hdigit]
  rw [if_neg hdigit] at htoken
  by_cases hquote : c = '"'
  · rw [if_pos hquote] at htoken
    rw [if_pos hquote, if_pos hquote, string_append_right tail htoken]
  · rw [if_neg hquote, if_neg hquote, symbol_append_right tail c (List.ne_nil_of_mem h)]

end Stretch

theorem skipBlank_append_right (h : ')' ∈ text) (offset : Nat) :
    skipBlank (text ++ tail) offset =
        ((skipBlank text offset).1 ++ tail, (skipBlank text offset).2) ∧
      ')' ∈ (skipBlank text offset).1 := by
  induction text generalizing offset with
  | nil => cases h
  | cons c text ih =>
    rw [List.cons_append, skipBlank, skipBlank]
    by_cases hc : isBlank c
    · have hmem : ')' ∈ text := by
        rcases List.mem_cons.1 h with rfl | hmem
        · cases hc
        · exact hmem
      rw [if_pos hc, if_pos hc]
      exact ih hmem _
    · rw [if_neg hc, if_neg hc]
      exact ⟨rfl, h⟩

theorem skipBlank_isSuffix (text : List Char) (offset : Nat) :
    (skipBlank text offset).1 <:+ text := by
  induction text generalizing offset with
  | nil => exact List.suffix_refl []
  | cons c text ih =>
    rw [skipBlank]
    split
    · exact (ih _).trans (List.suffix_cons c text)
    · exact List.suffix_refl _

variable {offset stop : Nat} {lexeme : Lexeme}

/-- The text behind a stretch is the end of the text, and stands behind a closing
parenthesis if the stretch is one. -/
theorem nextPiece_isSuffix {piece : Piece} (h : nextPiece text offset = some (piece, rest, stop)) :
    rest <:+ text ∧ ∀ lexeme, piece = .lexeme lexeme → lexeme.token = .closing →
      ')' :: rest <:+ text := by
  have hskip : (skipBlank text offset).1 <:+ text := skipBlank_isSuffix text offset
  unfold nextPiece at h
  split at h
  · cases h
  · rename_i c behind start heq
    rw [heq] at hskip
    have hsuffix : (Stretch.cut c behind).rest <:+ text := by
      refine List.IsSuffix.trans ⟨(Stretch.cut c behind).chars, ?_⟩ hskip
      exact Stretch.cut_append c behind
    simp only [Option.some.injEq, Prod.mk.injEq] at h
    obtain ⟨rfl, rfl, rfl⟩ := h
    refine ⟨hsuffix, ?_⟩
    intro lexeme hpiece hclosing
    split at hpiece
    · rename_i token htoken
      cases hpiece
      obtain rfl := Stretch.eq_of_cut_closing (htoken.trans (congrArg some hclosing))
      rwa [Stretch.cut_closing]
    · cases hpiece

/-- A token is the same if more text follows and a closing parenthesis is in the text. -/
theorem nextPiece_append_right (hmem : ')' ∈ text)
    (h : nextPiece text offset = some (.lexeme lexeme, rest, stop)) :
    nextPiece (text ++ tail) offset = some (.lexeme lexeme, rest ++ tail, stop) := by
  obtain ⟨hskip, hbehind⟩ := skipBlank_append_right tail hmem offset
  unfold nextPiece at h ⊢
  rw [hskip]
  split at h
  · cases h
  · rename_i c behind start heq
    rw [heq] at hbehind ⊢
    simp only [Option.some.injEq, Prod.mk.injEq] at h
    obtain ⟨hpiece, rfl, rfl⟩ := h
    have htoken : (Stretch.cut c behind).token.isSome := by
      split at hpiece
      · rename_i htoken
        rw [htoken]
        rfl
      · cases hpiece
    -- The parenthesis is the stretch itself, or it stands behind it.
    have hcut : Stretch.cut c (behind ++ tail) = { Stretch.cut c behind with
        rest := (Stretch.cut c behind).rest ++ tail } := by
      rcases List.mem_cons.1 hbehind with rfl | hbehind
      · rw [Stretch.cut_closing, Stretch.cut_closing]
      · exact Stretch.cut_append_right tail hbehind htoken
    dsimp only [List.cons_append]
    rw [hcut]
    dsimp only
    rw [hpiece]

/-! ### Heads -/

namespace Head

variable {source source' : Source} {closer : Option String} {start : Nat} {head : Head}

/-- The text behind a parameter list stands behind its closing parenthesis. -/
theorem collect_isSuffix {opening depth : Nat} {done : List Lexeme} {list : ParameterList}
    (h : collect source opening text offset depth done = .ok (list, rest)) :
    ')' :: rest <:+ text := by
  fun_induction collect source opening text offset depth done with
  | case1 => cases h
  | case2 => cases h
  | case4 text offset done lexeme behind stop heq hlt htoken =>
    cases h
    exact (nextPiece_isSuffix heq).2 lexeme rfl htoken
  | case3 text offset depth done lexeme behind stop heq hlt htoken ih
  | case5 text offset done lexeme behind stop heq hlt depth htoken ih
  | case6 text offset depth done lexeme behind stop heq hlt _ _ _ ih =>
    exact (ih h).trans (nextPiece_isSuffix heq).1

/-- A parameter list is the same if more text follows. -/
theorem collect_append_right {opening depth : Nat} {done : List Lexeme} {list : ParameterList}
    (h : collect source opening text offset depth done = .ok (list, rest)) :
    collect source' opening (text ++ tail) offset depth done = .ok (list, rest ++ tail) := by
  have hmem : ')' ∈ text := (collect_isSuffix h).subset (List.mem_cons_self ..)
  fun_induction collect source opening text offset depth done with
  | case1 => cases h
  | case2 => cases h
  | case3 text offset depth done lexeme behind stop heq hlt htoken ih =>
    rw [collect_eq, nextPiece_append_right tail hmem heq]
    dsimp only
    rw [htoken]
    exact ih h ((collect_isSuffix h).subset (List.mem_cons_self ..))
  | case4 text offset done lexeme behind stop heq hlt htoken =>
    cases h
    rw [collect_eq, nextPiece_append_right tail hmem heq]
    dsimp only
    rw [htoken]
  | case5 text offset done lexeme behind stop heq hlt depth htoken ih =>
    rw [collect_eq, nextPiece_append_right tail hmem heq]
    dsimp only
    rw [htoken]
    exact ih h ((collect_isSuffix h).subset (List.mem_cons_self ..))
  | case6 text offset depth done lexeme behind stop heq hlt hopening hclosing hcloses ih =>
    rw [collect_eq, nextPiece_append_right tail hmem heq]
    dsimp only
    rw [← ih h ((collect_isSuffix h).subset (List.mem_cons_self ..))]
    split
    · rename_i htoken
      exact absurd htoken hopening
    · rename_i htoken
      exact (hclosing htoken rfl).elim
    · rename_i htoken
      exact (hcloses _ htoken rfl).elim
    · rfl

/-- A head with some text behind it is completed in the same way if more text follows. -/
theorem complete_append_right {name : String} {parameters : Option ParameterList} {cursor : Nat}
    (h : complete name parameters start cursor text = (head, rest)) (hrest : rest ≠ []) :
    complete name parameters start cursor (text ++ tail) = (head, rest ++ tail) := by
  obtain ⟨rfl, rfl⟩ := Prod.ext_iff.1 h
  cases text with
  | nil =>
    have hnil := complete_isSuffix name parameters start cursor []
    exact absurd (List.suffix_nil.1 hnil) hrest
  | cons c text =>
    by_cases hc : c = ':'
    · by_cases hname : name.isEmpty <;> simp [complete, colon, hc, hname]
    · simp [complete, colon, hc]

variable {chars behind : List Char}

/-- A name that does not fill the text is the same if more text follows. -/
theorem Names.append_right (h : Names closer chars behind) (hbehind : behind ≠ []) :
    Names closer chars (behind ++ tail) := by
  rw [Names, ← List.append_assoc]
  by_cases hall : ∀ c ∈ chars ++ behind, continuesName c
  · -- The text is a single name, so that it must have been cut at the closing name.
    rw [Names, List.takeWhile_eq_self_iff.2 hall] at h
    rw [List.takeWhile_append_of_pos hall]
    cases closer with
    | none => exact absurd (List.append_right_eq_self.1 h) hbehind
    | some closer =>
      by_cases hcloser : closer.toList.isPrefixOf (chars ++ behind)
      · have hprefix : closer.toList <+:
            chars ++ behind ++ tail.takeWhile continuesName :=
          (List.isPrefixOf_iff_prefix.1 hcloser).trans (List.prefix_append ..)
        rw [cutName, if_pos hcloser] at h
        rw [cutName, if_pos (List.isPrefixOf_iff_prefix.2 hprefix), h]
      · rw [cutName, if_neg hcloser] at h
        exact absurd (List.append_right_eq_self.1 h) hbehind
  · obtain ⟨c, hmem, hc⟩ : ∃ c ∈ chars ++ behind, continuesName c = false := by simpa using hall
    rw [(Stretch.span_append_right tail hc hmem).1]
    exact h

theorem head?_append_right (hbehind : behind ≠ []) : (behind ++ tail).head? = behind.head? := by
  cases behind with
  | nil => exact absurd rfl hbehind
  | cons c behind => rfl

/-- What is no head without parameters does not become one, and the other way round. -/
theorem Names.recognize_bare_append_right (h : Names closer chars behind) (hbehind : behind ≠ [])
    (hopening : behind.head? ≠ some '(') (source : Source) (start : Nat) :
    recognize source closer start (chars ++ (behind ++ tail)) =
      if standsAlone closer (String.ofList chars) behind then
        .ok (some (complete (String.ofList chars) none start (start + 1 + byteLength chars)
          (behind ++ tail)))
      else .ok none := by
  have hhead : (behind ++ tail).head? = behind.head? := head?_append_right tail hbehind
  rw [(h.append_right tail hbehind).recognize_bare (hhead ▸ hopening), standsAlone, standsAlone,
    hhead]

/-- A head that some text follows is recognized in the same way if more text follows. -/
theorem recognize_append_right
    (h : recognize source closer start text = .ok (some (head, rest))) (hrest : rest ≠ []) :
    recognize source' closer start (text ++ tail) = .ok (some (head, rest ++ tail)) := by
  obtain ⟨chars, behind, rfl, hnames, hhead⟩ := recognize_eq_some h
  rw [List.append_assoc]
  rcases hhead with ⟨parameters, list, rest', rfl, hcollect, hcomplete⟩ |
    ⟨hopening, halone, hcomplete⟩
  · have hnames' : Names closer chars ('(' :: (parameters ++ tail)) :=
      hnames.append_right tail (by simp)
    rw [List.cons_append, hnames'.recognize_opening, collect_append_right tail hcollect]
    dsimp only
    rw [complete_append_right tail hcomplete hrest]
  · have hbehind : behind ≠ [] := by
      rintro rfl
      exact hrest (congrArg Prod.snd hcomplete).symm
    rw [hnames.recognize_bare_append_right tail hbehind hopening, if_pos halone,
      complete_append_right tail hcomplete hrest]

/-- A `#` that is just text stays so if more text follows and another `#` is in the text. -/
theorem recognize_none_append_right (h : recognize source closer start text = .ok none)
    (hhash : '#' ∈ text) : recognize source' closer start (text ++ tail) = .ok none := by
  obtain ⟨chars, behind, rfl, hnames⟩ := exists_names closer text
  rw [List.append_assoc]
  have hbehind : behind ≠ [] := by
    rintro rfl
    have hname : continuesName '#' := hnames.continues '#' (by simpa using hhash)
    exact absurd hname (by decide)
  by_cases hopening : behind.head? = some '('
  · obtain ⟨parameters, rfl⟩ := List.head?_eq_some_iff.1 hopening
    rw [hnames.recognize_opening] at h
    split at h <;> cases h
  · rw [hnames.recognize_bare hopening] at h
    split at h
    · cases h
    · rename_i halone
      rw [hnames.recognize_bare_append_right tail hbehind hopening, if_neg halone]

end Head

/-! ### Segments -/

namespace Segment

variable {source source' : Source} {closer : Option String} {start : Nat} {done : List Char}
  {segment : Segment} {head : Head}

/-- A segment with a head is read up to the `#` of the head first, whatever follows. -/
theorem scanFrom_reaches (h : scanFrom source closer start text offset done = .ok segment)
    (hhead : segment.head = some head) :
    segment.start = start ∧ ∃ behind done', '#' :: behind <:+ text ∧
      segment.text = String.ofList done'.reverse ∧
      Head.recognize source closer segment.stop behind = .ok (some (head, segment.rest)) ∧
      ∀ (source' : Source) (tail : List Char),
        scanFrom source' closer start (text ++ tail) offset done =
          scanFrom source' closer start ('#' :: (behind ++ tail)) segment.stop done' := by
  fun_induction scanFrom source closer start text offset done with
  | case1 =>
    cases h
    cases hhead
  | case2 rest offset done ih =>
    obtain ⟨hstart, behind, done', hsuffix, htext, hrecognize, hreaches⟩ := ih h
    have hsuffix' : '#' :: behind <:+ '\\' :: '#' :: rest :=
      hsuffix.trans (List.suffix_append ['\\', '#'] rest)
    exact ⟨hstart, behind, done', hsuffix', htext, hrecognize, hreaches⟩
  | case3 => cases h
  | case4 rest offset done head' behind heq =>
    cases h
    cases hhead
    exact ⟨rfl, rest, done, List.suffix_refl _, rfl, heq, fun _ _ => rfl⟩
  | case5 rest offset done heq ih =>
    obtain ⟨hstart, behind, done', hsuffix, htext, hrecognize, hreaches⟩ := ih h
    have hhash : '#' ∈ rest := hsuffix.subset (List.mem_cons_self ..)
    refine ⟨hstart, behind, done', hsuffix.trans (List.suffix_cons ..), htext, hrecognize, ?_⟩
    intro source' tail
    rw [List.cons_append, scanFrom, Head.recognize_none_append_right tail heq hhash]
    exact hreaches source' tail
  | case6 c rest offset done hescape hhash ih =>
    obtain ⟨hstart, behind, done', hsuffix, htext, hrecognize, hreaches⟩ := ih h
    refine ⟨hstart, behind, done', hsuffix.trans (List.suffix_cons ..), htext, hrecognize, ?_⟩
    intro source' tail
    rw [← hreaches source' tail, List.cons_append, scanFrom]
    · -- The head is still to come, so what follows the character is not at the end.
      rintro more hc hrest
      cases rest with
      | nil => cases List.suffix_nil.1 hsuffix
      | cons d rest =>
        obtain ⟨rfl, -⟩ := List.cons.inj hrest
        exact hescape rest hc rfl
    · exact hhash

/-- A segment is the same if more text follows, unless its head ends the text. -/
theorem scan_append_right (h : scan source closer text offset = .ok segment)
    (hhead : segment.head = some head) (hrest : segment.rest ≠ []) :
    scan source' closer (text ++ tail) offset =
      .ok { segment with rest := segment.rest ++ tail } := by
  obtain ⟨hstart, behind, done, -, htext, hrecognize, hreaches⟩ := scanFrom_reaches h hhead
  rw [scan, hreaches source' tail, scanFrom, Head.recognize_append_right tail hrecognize hrest]
  dsimp only
  rw [← htext, ← hhead, ← hstart]

/-- A segment without a head has all the text that is left. -/
theorem scanFrom_text_ne (h : scanFrom source closer start text offset done = .ok segment)
    (hhead : segment.head = none) (htext : text ≠ [] ∨ done ≠ []) : segment.text ≠ "" := by
  fun_induction scanFrom source closer start text offset done with
  | case1 offset done =>
    cases h
    have hdone : done ≠ [] := htext.resolve_left fun hnil => hnil rfl
    simpa using hdone
  | case2 rest offset done ih => exact ih h (.inr (List.cons_ne_nil _ _))
  | case3 => cases h
  | case4 =>
    cases h
    cases hhead
  | case5 rest offset done heq ih => exact ih h (.inr (List.cons_ne_nil _ _))
  | case6 c rest offset done hescape hhash ih => exact ih h (.inr (List.cons_ne_nil _ _))

/-- Text without a `#` is a segment without a head. -/
theorem scanFrom_raw (h : '#' ∉ text) (source : Source) (closer : Option String)
    (start offset : Nat) (done : List Char) :
    scanFrom source closer start text offset done =
      .ok ⟨String.ofList (done.reverse ++ text), start, offset + byteLength text, none, []⟩ := by
  induction text generalizing offset done with
  | nil => simp [scanFrom]
  | cons c text ih =>
    obtain ⟨hc, htext⟩ : '#' ≠ c ∧ '#' ∉ text := by simpa using h
    rw [scanFrom, ih htext]
    · simp [Nat.add_assoc]
    · rintro rest - rfl
      exact htext (List.mem_cons_self ..)
    · exact hc.symm

end Segment

end Stencil
