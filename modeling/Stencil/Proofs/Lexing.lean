/-
The stretches of a text.

* **`Piece.CutAt`** — a stretch is cut off where it starts;
* **`lexFrom_cutAt`**, **`lexFrom_apart`**, **`blank_of_outside`** — all stretches of a text
  are cut off it, one behind the other, and only blanks are left between them;
* **`lex_tiles`** — what the stretches of a text are like: a token is the longest that is
  spelled at its start, and no token is spelled where a stretch is rejected, but for a run of
  digits that stands for too large a number.

## Design notes

What one stretch is like is a matter of the cut alone (`Stencil.Proofs.Spelling`).  The
induction over the text only says where the cuts are made.
-/
import Stencil.Proofs.Items
import Stencil.Proofs.Spelling

namespace Stencil

/-! ### Offsets -/

/-- Of two texts in front of the same rest, that with fewer bytes stands in front of the
other. -/
theorem prefix_of_byteLength_le {text before before' : List Char} (h : before <+: text)
    (h' : before' <+: text) (hle : byteLength before ≤ byteLength before') :
    before <+: before' := by
  rcases List.prefix_or_prefix_of_prefix h h' with hfront | ⟨more, rfl⟩
  · exact hfront
  · cases more with
    | nil => exact ⟨[], by rw [List.append_nil, List.append_nil]⟩
    | cons c more =>
      have hpos := byteLength_pos (List.cons_ne_nil c more)
      rw [byteLength_append] at hle
      omega

namespace Source

variable {source : Source} {chars text : List Char} {start stop : Nat}

/-- The characters between two offsets stand in front of the text at the first one. -/
theorem Slice.isPrefix (h : source.Slice chars start stop) (hat : source.At text start) :
    chars <+: text ∧ start + byteLength chars = stop := by
  obtain ⟨before, after, htext, hstart, hstop⟩ := h
  have hat' : source.At (chars ++ after) start :=
    ⟨before, by rw [htext, List.append_assoc], hstart⟩
  exact ⟨⟨after, hat'.behind_eq.symm.trans hat.behind_eq⟩, hstop⟩

theorem At.slice {rest : List Char} (h : source.At (chars ++ rest) start) :
    source.Slice chars start (start + byteLength chars) := by
  obtain ⟨before, htext, hstart⟩ := h
  exact ⟨before, rest, by rw [htext, List.append_assoc], hstart, rfl⟩

/-- A character whose offset lies between two others stands between them. -/
theorem Slice.mem {before after : List Char} {c : Char} (h : source.Slice chars start stop)
    (htext : source.text = before ++ c :: after) (hstart : start ≤ byteLength before)
    (hstop : byteLength before < stop) : c ∈ chars := by
  obtain ⟨front, behind, hslice, rfl, rfl⟩ := h
  obtain ⟨between, rfl⟩ : front <+: before :=
    prefix_of_byteLength_le ⟨chars ++ behind, by rw [hslice, List.append_assoc]⟩
      ⟨c :: after, htext.symm⟩ hstart
  have hrest : between ++ c :: after = chars ++ behind := by
    rw [hslice, List.append_assoc, List.append_assoc] at htext
    exact (List.append_cancel_left htext).symm
  rw [byteLength_append] at hstop
  -- The characters do not end before this one.
  rcases List.append_eq_append_iff.1 hrest with ⟨more, rfl, hmore⟩ | ⟨more, rfl, -⟩
  · cases more with
    | nil =>
      rw [List.append_nil] at hstop
      omega
    | cons d more =>
      obtain ⟨rfl, -⟩ := List.cons.inj hmore
      simp
  · rw [byteLength_append] at hstop
    omega

end Source

/-! ### Stretches -/

namespace Piece

/-- The offset at which a stretch starts. -/
def start : Piece → Nat
  | lexeme found => found.start
  | rejected _ start _ => start

/-- The offset at which a stretch stops. -/
def stop : Piece → Nat
  | lexeme found => found.stop
  | rejected _ _ stop => stop

/-- A stretch is cut off the text of a source where it starts. -/
inductive CutAt (source : Source) : Piece → Prop
  | lexeme {c : Char} {rest : List Char} {start : Nat} {token : Token} :
      source.At (c :: rest) start → (Stretch.cut c rest).token = some token →
      CutAt source (.lexeme ⟨token, start, start + byteLength (Stretch.cut c rest).chars⟩)
  | rejected {c : Char} {rest : List Char} {start : Nat} :
      source.At (c :: rest) start → (Stretch.cut c rest).token = none →
      CutAt source (.rejected c start (start + byteLength (Stretch.cut c rest).chars))

variable {source : Source} {piece : Piece}

theorem CutAt.exists_cut (h : piece.CutAt source) :
    ∃ c rest, source.At (c :: rest) piece.start ∧
      piece.stop = piece.start + byteLength (Stretch.cut c rest).chars := by
  cases h with
  | lexeme hat _ => exact ⟨_, _, hat, rfl⟩
  | rejected hat _ => exact ⟨_, _, hat, rfl⟩

theorem CutAt.filled (h : piece.CutAt source) : piece.start < piece.stop := by
  obtain ⟨c, rest, -, hstop⟩ := h.exists_cut
  have hpos := byteLength_pos (Stretch.cut_ne_nil c rest)
  omega

end Piece

variable {source : Source}

/-- What is cut off a text stands where the text does. -/
theorem Stretch.slice_cut {c : Char} {rest : List Char} {start : Nat}
    (h : source.At (c :: rest) start) :
    source.Slice (cut c rest).chars start (start + byteLength (cut c rest).chars) :=
  @Source.At.slice source _ _ (cut c rest).rest (by rwa [cut_append])

theorem Piece.CutAt.boundary {piece : Piece} (h : piece.CutAt source) :
    source.IsBoundary piece.start ∧ source.IsBoundary piece.stop := by
  obtain ⟨c, rest, hat, hstop⟩ := h.exists_cut
  refine ⟨hat.isBoundary, ?_⟩
  rw [hstop]
  refine (@Source.At.advance source _ (Stretch.cut c rest).rest _ ?_).isBoundary
  rwa [Stretch.cut_append]

/-- Blanks are skipped up to the first character that is none. -/
theorem skipBlank_eq (text : List Char) (offset : Nat) :
    ∃ blanks, text = blanks ++ (skipBlank text offset).1 ∧ (∀ c ∈ blanks, isBlank c) ∧
      (skipBlank text offset).2 = offset + byteLength blanks := by
  induction text generalizing offset with
  | nil => exact ⟨[], rfl, nofun, rfl⟩
  | cons c text ih =>
    rw [skipBlank]
    split
    · rename_i hblank
      obtain ⟨blanks, htext, hblanks, hoffset⟩ := ih (offset + c.utf8Size)
      refine ⟨c :: blanks, congrArg (c :: ·) htext, List.forall_mem_cons.2 ⟨hblank, hblanks⟩, ?_⟩
      rw [hoffset, byteLength, Nat.add_assoc]
    · exact ⟨[], rfl, nofun, rfl⟩

variable {text : List Char} {offset : Nat}

/-- If no stretch is left, only blanks are. -/
theorem isBlank_of_nextPiece (h : nextPiece text offset = none) : ∀ c ∈ text, isBlank c := by
  obtain ⟨blanks, htext, hblanks, -⟩ := skipBlank_eq text offset
  unfold nextPiece at h
  split at h
  · rename_i hskip
    rw [hskip, List.append_nil] at htext
    rwa [htext]
  · cases h

/-- The next stretch is cut off behind some blanks, and the text goes on where it stops. -/
theorem nextPiece_cutAt {rest : List Char} {stop : Nat} {piece : Piece}
    (hat : source.At text offset) (h : nextPiece text offset = some (piece, rest, stop)) :
    piece.CutAt source ∧ piece.stop = stop ∧ source.At rest stop ∧
      ∃ blanks, source.Slice blanks offset piece.start ∧ ∀ c ∈ blanks, isBlank c := by
  obtain ⟨blanks, htext, hblanks, hoffset⟩ := skipBlank_eq text offset
  unfold nextPiece at h
  split at h
  · cases h
  · rename_i c tail start hskip
    rw [hskip] at htext hoffset
    subst htext hoffset
    have hslice := hat.slice
    have hcut : source.At (c :: tail) (offset + byteLength blanks) := hat.advance
    have hrest : source.At (Stretch.cut c tail).rest
        (offset + byteLength blanks + byteLength (Stretch.cut c tail).chars) :=
      Source.At.advance (by rwa [Stretch.cut_append])
    cases h
    refine ⟨?_, ?_, hrest, blanks, ?_, hblanks⟩
    all_goals cases htoken : (Stretch.cut c tail).token
    · exact .rejected hcut htoken
    · exact .lexeme hcut htoken
    · rfl
    · rfl
    · exact hslice
    · exact hslice

/-! ### All stretches -/

theorem lexFrom_of_none (h : nextPiece text offset = none) : lexFrom text offset = [] := by
  rw [lexFrom]
  split
  · rfl
  · rename_i heq
    rw [h] at heq
    cases heq

theorem lexFrom_of_some {rest : List Char} {stop : Nat} {piece : Piece}
    (h : nextPiece text offset = some (piece, rest, stop)) :
    lexFrom text offset = piece :: lexFrom rest stop := by
  rw [lexFrom]
  split
  · rename_i heq
    rw [h] at heq
    cases heq
  · rename_i heq
    rw [h] at heq
    cases heq
    rfl

/-- The stretches of a text are cut off it, behind the offset at which it stands. -/
theorem lexFrom_cutAt (hat : source.At text offset) :
    ∀ piece ∈ lexFrom text offset, piece.CutAt source ∧ offset ≤ piece.start := by
  fun_induction lexFrom text offset with
  | case1 => exact nofun
  | case2 text offset piece rest stop hnext _ ih =>
    obtain ⟨hcut, hstop, hrest, blanks, hblanks, -⟩ := nextPiece_cutAt hat hnext
    obtain ⟨-, -, -, -, hstart⟩ := hblanks
    refine List.forall_mem_cons.2 ⟨⟨hcut, by omega⟩, fun next hmem => ?_⟩
    obtain ⟨hcut', hle⟩ := ih hrest next hmem
    have hfilled := hcut.filled
    exact ⟨hcut', by omega⟩

/-- Each stretch stands behind those that are cut off before it. -/
theorem lexFrom_apart (hat : source.At text offset) :
    (lexFrom text offset).Pairwise fun piece next => piece.stop ≤ next.start := by
  fun_induction lexFrom text offset with
  | case1 => exact .nil
  | case2 text offset piece rest stop hnext _ ih =>
    obtain ⟨-, hstop, hrest, -⟩ := nextPiece_cutAt hat hnext
    refine .cons (fun next hmem => ?_) (ih hrest)
    rw [hstop]
    exact (lexFrom_cutAt hrest next hmem).2

/-- Outside all stretches stand blanks only. -/
theorem blank_of_outside (hat : source.At text offset) {before after : List Char} {c : Char}
    (htext : source.text = before ++ c :: after) (hoffset : offset ≤ byteLength before)
    (houtside : ∀ piece ∈ lexFrom text offset,
      byteLength before < piece.start ∨ piece.stop ≤ byteLength before) : isBlank c := by
  fun_induction lexFrom text offset with
  | case1 text offset hnone =>
    have hslice : source.Slice text offset (offset + byteLength text) :=
      @Source.At.slice source text offset [] (by rwa [List.append_nil])
    refine isBlank_of_nextPiece hnone c (hslice.mem htext hoffset ?_)
    -- The text goes on to the end of the source.
    have hend := @Source.At.advance source text [] offset (by rwa [List.append_nil])
    rw [hend.eq_byteLength, htext, byteLength_append]
    have hpos := byteLength_pos (List.cons_ne_nil c after)
    omega
  | case2 text offset piece rest stop hnext _ ih =>
    obtain ⟨hcut, hstop, hrest, blanks, hslice, hblanks⟩ := nextPiece_cutAt hat hnext
    obtain ⟨hpiece, hpieces⟩ := List.forall_mem_cons.1 houtside
    rcases hpiece with hlt | hle
    · exact hblanks c (hslice.mem htext hoffset hlt)
    · exact ih hrest (hstop ▸ hle) hpieces

/-- What the stretches of a text are like. -/
structure Lexed (source : Source) (pieces : List Piece) : Prop where
  /-- No stretch is empty. -/
  filled : ∀ piece ∈ pieces, piece.start < piece.stop
  /-- Each stretch stands behind those before it. -/
  apart : pieces.Pairwise fun piece next => piece.stop ≤ next.start
  /-- No stretch starts or stops within a character. -/
  boundary : ∀ piece ∈ pieces, source.IsBoundary piece.start ∧ source.IsBoundary piece.stop
  /-- A character outside all stretches is a blank. -/
  blank : ∀ before c after, source.text = before ++ c :: after →
    (∀ piece ∈ pieces, byteLength before < piece.start ∨ piece.stop ≤ byteLength before) →
    c = ' ' ∨ c = '\t' ∨ c = '\r' ∨ c = '\n'
  /-- A token is spelled by the characters of its stretch, which alone are cut into this token,
  and no token that is spelled at its start goes further. -/
  token : ∀ lexeme, .lexeme lexeme ∈ pieces →
    ∃ chars, source.Slice chars lexeme.start lexeme.stop ∧ lexeme.token.Spells chars ∧
      lex chars = [.lexeme ⟨lexeme.token, 0, byteLength chars⟩] ∧
      ∀ (token : Token) other stop, source.Slice other lexeme.start stop → token.Spells other →
        stop ≤ lexeme.stop
  /-- Where a stretch is rejected but a token is spelled, the stretch is a run of digits that
  stands for too large a number. -/
  rejected : ∀ first start stop, .rejected first start stop ∈ pieces →
    ∀ (token : Token) other stop', source.Slice other start stop' → token.Spells other →
      ∃ digits, source.Slice digits start stop ∧ IsNumeral digits ∧
        Nat.pow 2 63 ≤ natOfDigits digits

/-- A text that spells a token is one stretch. -/
theorem Token.Spells.lex_eq {token : Token} {chars : List Char} (h : token.Spells chars) :
    lex chars = [.lexeme ⟨token, 0, byteLength chars⟩] := by
  obtain ⟨c, rest, rfl⟩ := List.exists_cons_of_ne_nil h.ne_nil
  have hnext := nextPiece_of_cut h.isBlank_head h.cut_self 0
  rw [Nat.zero_add] at hnext
  rw [lex, lexFrom_of_some hnext, lexFrom_of_none rfl]

/-- **The stretches of a text lose nothing of it.** -/
theorem lex_tiles (source : Source) : Lexed source (lex source.text) := by
  have hcut := lexFrom_cutAt source.at_start
  refine ⟨fun piece hmem => (hcut piece hmem).1.filled, lexFrom_apart source.at_start,
    fun piece hmem => (hcut piece hmem).1.boundary, ?_, ?_, ?_⟩
  · intro before c after htext houtside
    have hblank := blank_of_outside source.at_start htext (Nat.zero_le _) houtside
    simp only [isBlank, Bool.or_eq_true, decide_eq_true_eq] at hblank
    rcases hblank with ((h | h) | h) | h
    · exact .inl h
    · exact .inr (.inl h)
    · exact .inr (.inr (.inr h))
    · exact .inr (.inr (.inl h))
  · intro lexeme hmem
    cases (hcut _ hmem).1 with
    | @lexeme c rest start token hat htoken =>
      have hspells := Stretch.spells_of_cut htoken
      refine ⟨_, Stretch.slice_cut hat, hspells, hspells.lex_eq, ?_⟩
      intro token' other stop hslice hother
      obtain ⟨hfront, hstop⟩ := hslice.isPrefix hat
      obtain ⟨more, hmore⟩ := hother.prefix_cut hfront
      rw [← hstop, ← hmore, byteLength_append]
      dsimp only
      omega
  · intro first start stop hmem token other stop' hslice hother
    cases (hcut _ hmem).1 with
    | rejected hat hnone =>
      exact ⟨_, Stretch.slice_cut hat, hother.overflows (hslice.isPrefix hat).1 hnone⟩

end Stencil
