/-
A template item by item.

The scanner hands on one item after the other: a run of raw text, or the head of a
tag.  A head that is found behind raw text waits there, and is the next item.

* **`Segment.scan_slice`** — raw text is a piece of the source without its escapes;
* **`Cursor.next`** — the next item, or none at the end of the template;
* **`Cursor.Sound.next`** — what one item is like: where it stands, and what waits.
-/
import Stencil.Proofs.Places.Document
import Stencil.Proofs.Results

namespace Stencil

/-! ### Texts and offsets -/

theorem byteLength_pos {text : List Char} (h : text ≠ []) : 0 < byteLength text := by
  obtain ⟨c, text, rfl⟩ := List.exists_cons_of_ne_nil h
  have hpos := c.utf8Size_pos
  rw [byteLength]
  omega

/-- What stands behind so many bytes of a text. -/
def dropBytes : List Char → Nat → List Char
  | [], _ => []
  | c :: text, offset => if offset = 0 then c :: text else dropBytes text (offset - c.utf8Size)

theorem dropBytes_append (before text : List Char) :
    dropBytes (before ++ text) (byteLength before) = text := by
  induction before with
  | nil => cases text <;> simp [dropBytes]
  | cons c before ih =>
    have hpos := c.utf8Size_pos
    have hne : ¬ c.utf8Size + byteLength before = 0 := by omega
    have hrest : c.utf8Size + byteLength before - c.utf8Size = byteLength before := by omega
    show dropBytes (c :: (before ++ text)) (c.utf8Size + byteLength before) = text
    rw [dropBytes, if_neg hne, hrest, ih]

namespace Source

variable {source : Source} {text : List Char} {offset : Nat}

/-- The text from an offset on. -/
def behind (source : Source) (offset : Nat) : List Char := dropBytes source.text offset

theorem At.behind_eq (h : source.At text offset) : source.behind offset = text := by
  obtain ⟨before, htext, rfl⟩ := h
  show dropBytes source.text (byteLength before) = text
  rw [htext, dropBytes_append]

theorem IsBoundary.at_behind (h : source.IsBoundary offset) :
    source.At (source.behind offset) offset := by
  obtain ⟨text, htext⟩ := h
  rwa [htext.behind_eq]

/-- Where no text is left, the source ends. -/
theorem At.eq_byteLength (h : source.At [] offset) : offset = byteLength source.text := by
  obtain ⟨before, htext, rfl⟩ := h
  rw [htext, List.append_nil]

theorem at_end (h : offset = byteLength source.text) : source.At [] offset :=
  ⟨source.text, by rw [List.append_nil], h.symm⟩

/-- Where less text is left, more has been read. -/
theorem At.lt_of_length_lt {text' : List Char} {offset' : Nat} (h : source.At text offset)
    (h' : source.At text' offset') (hlt : text'.length < text.length) : offset < offset' := by
  obtain ⟨before, htext, rfl⟩ := h
  obtain ⟨before', htext', rfl⟩ := h'
  obtain ⟨front, hfront⟩ : before <+: before' := by
    refine List.prefix_of_prefix_length_le ⟨text, htext.symm⟩ ⟨text', htext'.symm⟩ ?_
    have hlength : before.length + text.length = before'.length + text'.length := by
      rw [← List.length_append, ← List.length_append, ← htext, ← htext']
    omega
  cases front with
  | nil =>
    -- Two texts behind the same front would be the same text.
    rw [List.append_nil] at hfront
    subst hfront
    have hsame : text = text' := List.append_cancel_left (htext.symm.trans htext')
    rw [hsame] at hlt
    omega
  | cons c front =>
    have hpos := byteLength_pos (List.cons_ne_nil c front)
    rw [← hfront, byteLength_append]
    omega

/-- The characters between two offsets. -/
def Slice (source : Source) (chars : List Char) (start stop : Nat) : Prop :=
  ∃ before after, source.text = before ++ chars ++ after ∧ byteLength before = start ∧
    start + byteLength chars = stop

end Source

/-! ### Heads -/

namespace Head

variable {source : Source} {closer : Option String} {start : Nat} {text rest : List Char}
  {head : Head}

/-- A head starts at its `#`. -/
theorem recognize_start (h : recognize source closer start text = .ok (some (head, rest))) :
    head.start = start := by
  have hcomplete {name : String} {parameters : Option ParameterList} {cursor : Nat}
      {behind : List Char} (h : complete name parameters start cursor behind = (head, rest)) :
      head.start = start := by
    show (head, rest).1.start = start
    rw [← h]
    rfl
  obtain ⟨chars, behind, rfl, -, hhead⟩ := recognize_eq_some h
  rcases hhead with ⟨parameters, list, rest', -, -, h⟩ | ⟨-, -, h⟩
  · exact hcomplete h
  · exact hcomplete h

/-- A head is what is recognized behind the `#` at its start. -/
def Found (source : Source) (head : Head) : Prop :=
  ∃ closer text rest, source.At ('#' :: text) head.start ∧
    recognize source closer head.start text = .ok (some (head, rest))

theorem found_of_recognize (hat : source.At ('#' :: text) start)
    (h : recognize source closer start text = .ok (some (head, rest))) : head.Found source := by
  have hstart := recognize_start h
  exact ⟨closer, text, rest, hstart.symm ▸ hat, hstart.symm ▸ h⟩

/-- The text behind a head is what is left where it stops. -/
theorem at_of_recognize (hat : source.At ('#' :: text) start)
    (h : recognize source closer start text = .ok (some (head, rest))) :
    head.Stands source ∧ source.At rest head.stop := by
  have hlocated := @recognize_located source text closer start hat
  rw [h] at hlocated
  exact hlocated head rest rfl

theorem Found.stands (h : head.Found source) : head.Stands source := by
  obtain ⟨closer, text, rest, hat, hrecognize⟩ := h
  exact (at_of_recognize hat hrecognize).1

theorem Found.isBoundary (h : head.Found source) : source.IsBoundary head.stop := by
  obtain ⟨closer, text, rest, hat, hrecognize⟩ := h
  exact (at_of_recognize hat hrecognize).2.isBoundary

/-- A head has its `#` at least. -/
theorem Found.lt (h : head.Found source) : head.start < head.stop := by
  obtain ⟨closer, text, rest, hat, hrecognize⟩ := h
  have hlength := recognize_length hrecognize
  exact hat.lt_of_length_lt (at_of_recognize hat hrecognize).2 (Nat.lt_succ_of_le hlength)

end Head

/-! ### Raw text -/

namespace Segment

/-- Raw text as it is put out: each `\#` is replaced by `#`. -/
def unescape : List Char → List Char
  | [] => []
  | '\\' :: '#' :: rest => '#' :: unescape rest
  | c :: rest => c :: unescape rest

theorem unescape_cons {c : Char} {rest : List Char} (h : c = '\\' → rest.head? ≠ some '#') :
    unescape (c :: rest) = c :: unescape rest := by
  rw [unescape]
  intro rest' hc hrest
  rw [hrest] at h
  exact h hc rfl

variable {source : Source} {closer : Option String} {start offset : Nat} {text done : List Char}
  {segment : Segment}

/-- What a segment takes in: a piece of text without its escapes, and then the head, or else
all that is left. -/
theorem scanFrom_slice (h : scanFrom source closer start text offset done = .ok segment) :
    ∃ slice rest, text = slice ++ rest ∧ segment.start = start ∧
      segment.stop = offset + byteLength slice ∧
      segment.text = String.ofList (done.reverse ++ unescape slice) ∧
      ((segment.head = none ∧ rest = []) ∨
        ∃ head behind, segment.head = some head ∧ rest = '#' :: behind ∧
          Head.recognize source closer segment.stop behind = .ok (some (head, segment.rest))) := by
  fun_induction scanFrom source closer start text offset done with
  | case1 offset done =>
    cases h
    exact ⟨[], [], rfl, rfl, rfl, by simp [unescape], .inl ⟨rfl, rfl⟩⟩
  | case2 rest offset done ih =>
    obtain ⟨slice, rest', rfl, hstart, hstop, htext, hhead⟩ := ih h
    refine ⟨'\\' :: '#' :: slice, rest', rfl, hstart, ?_, ?_, hhead⟩
    · rw [hstop]
      show offset + 2 + byteLength slice = offset + (1 + (1 + byteLength slice))
      omega
    · rw [htext]
      simp [unescape]
  | case3 => cases h
  | case4 rest offset done head behind heq =>
    cases h
    exact ⟨[], '#' :: rest, rfl, rfl, rfl, by simp [unescape],
      .inr ⟨head, rest, rfl, rfl, heq⟩⟩
  | case5 rest offset done heq ih =>
    obtain ⟨slice, rest', rfl, hstart, hstop, htext, hhead⟩ := ih h
    refine ⟨'#' :: slice, rest', rfl, hstart, ?_, ?_, hhead⟩
    · rw [hstop]
      show offset + 1 + byteLength slice = offset + (1 + byteLength slice)
      omega
    · rw [htext, unescape_cons (by simp)]
      simp
  | case6 c rest offset done hescape hhash ih =>
    obtain ⟨slice, rest', rfl, hstart, hstop, htext, hhead⟩ := ih h
    refine ⟨c :: slice, rest', rfl, hstart, ?_, ?_, hhead⟩
    · rw [hstop, byteLength]
      omega
    · -- A backslash in front of a `#` is an escape, which is another case.
      have hc : c = '\\' → slice.head? ≠ some '#' := by
        intro hc hslice
        obtain ⟨slice', rfl⟩ := List.head?_eq_some_iff.1 hslice
        exact hescape _ hc rfl
      rw [htext, unescape_cons hc]
      simp

theorem unescape_eq_nil_iff {slice : List Char} : unescape slice = [] ↔ slice = [] := by
  constructor
  · intro h
    unfold unescape at h
    split at h
    · rfl
    · cases h
    · cases h
  · rintro rfl
    rfl

/-- A segment stands between the offset from which it is read and its stop, and its head, if it
has one, behind that. -/
theorem scan_slice (hat : source.At text offset)
    (h : scan source closer text offset = .ok segment) :
    segment.start = offset ∧ source.IsBoundary segment.stop ∧
      (∃ slice, source.Slice slice offset segment.stop ∧
        segment.text.toList = unescape slice) ∧
      match segment.head with
      | none => segment.stop = byteLength source.text
      | some head => head.Found source ∧ head.start = segment.stop ∧
        source.At segment.rest head.stop := by
  obtain ⟨slice, rest, rfl, hstart, hstop, htext, hhead⟩ := scanFrom_slice h
  have hrest : source.At rest segment.stop := by
    rw [hstop]
    exact hat.advance
  have hslice : source.Slice slice offset segment.stop := by
    obtain ⟨before, hbefore, hlength⟩ := hat
    exact ⟨before, rest, by rw [hbefore, List.append_assoc], hlength, hstop.symm⟩
  have hchars : segment.text.toList = unescape slice := by
    rw [htext]
    simp
  refine ⟨hstart, hrest.isBoundary, ⟨slice, hslice, hchars⟩, ?_⟩
  rcases hhead with ⟨hnone, rfl⟩ | ⟨head, behind, hsome, rfl, hrecognize⟩
  · rw [hnone]
    exact hrest.eq_byteLength
  · rw [hsome]
    exact ⟨Head.found_of_recognize hrest hrecognize, Head.recognize_start hrecognize,
      (Head.at_of_recognize hrest hrecognize).2⟩

end Segment

/-! ### Items -/

/-- What the scanner hands on. -/
inductive Item where
  | raw (text : String) (start stop : Nat)
  | tag (head : Head)

namespace Item

/-- Where an item starts. -/
def start : Item → Nat
  | raw _ start _ => start
  | tag head => head.start

/-- Where an item stops. -/
def stop : Item → Nat
  | raw _ _ stop => stop
  | tag head => head.stop

/-- Whether an item is raw text. -/
def isRaw : Item → Bool
  | raw .. => true
  | tag _ => false

end Item

/-- Where a scanner stands, and the head that waits there. -/
structure Cursor where
  offset : Nat
  pending : Option Head

namespace Cursor

/-- A scanner stands at the start of a template. -/
def start : Cursor := ⟨0, none⟩

/-- The next item, or none at the end of the template. -/
def next (source : Source) (closer : Option String) (cursor : Cursor) :
    Except ParseError (Option Item × Cursor) :=
  match cursor.pending with
  | some head => .ok (some (.tag head), ⟨head.stop, none⟩)
  | none => do
    let segment ← Segment.scan source closer (source.behind cursor.offset) cursor.offset
    if segment.text.isEmpty then
      match segment.head with
      | some head => .ok (some (.tag head), ⟨head.stop, none⟩)
      | none => .ok (none, ⟨segment.stop, none⟩)
    else
      .ok (some (.raw segment.text segment.start segment.stop), ⟨segment.stop, segment.head⟩)

theorem next_of_scan {source : Source} {closer : Option String} {offset : Nat}
    {segment : Segment}
    (h : Segment.scan source closer (source.behind offset) offset = .ok segment) :
    next source closer ⟨offset, none⟩ = if segment.text.isEmpty then
        match segment.head with
        | some head => .ok (some (.tag head), ⟨head.stop, none⟩)
        | none => .ok (none, ⟨segment.stop, none⟩)
      else .ok (some (.raw segment.text segment.start segment.stop),
        ⟨segment.stop, segment.head⟩) := by
  show (Segment.scan source closer (source.behind offset) offset >>= _) = _
  rw [h]
  rfl

/-- A cursor stands in its source, and what waits stands there, too. -/
structure Sound (source : Source) (cursor : Cursor) : Prop where
  boundary : source.IsBoundary cursor.offset
  pending : ∀ head, cursor.pending = some head → head.Found source ∧ head.start = cursor.offset

theorem sound_start (source : Source) : Cursor.start.Sound source :=
  ⟨source.at_start.isBoundary, by rintro _ ⟨⟩⟩

end Cursor

/-- An item stands between two cursors. -/
structure Item.Between (source : Source) (cursor : Cursor) (item : Item) (next : Cursor) :
    Prop where
  start : item.start = cursor.offset
  stop : item.stop = next.offset
  lt : item.start < item.stop
  /-- Raw text is a piece of the source without its escapes.  Nothing waits in front of it, and
  behind it a head does, unless the source ends. -/
  raw : ∀ text start stop, item = .raw text start stop →
    (∃ slice, source.Slice slice start stop ∧ text.toList = Segment.unescape slice) ∧
      cursor.pending = none ∧ (next.pending.isSome ∨ next.offset = byteLength source.text)
  /-- A head is found where it stands, and nothing waits behind it. -/
  tag : ∀ head, item = .tag head → head.Found source ∧ next.pending = none

namespace Cursor

/-- What a call of a scanner gives: an item, or nothing if nothing is left. -/
def Leads (source : Source) (cursor : Cursor) : Option Item → Cursor → Prop
  | some item, next => item.Between source cursor next
  | none, next => cursor.offset = byteLength source.text ∧ cursor.pending = none ∧ next = cursor

variable {source : Source} {closer : Option String} {cursor : Cursor}

/-- A head that stands where the cursor is. -/
theorem leads_tag {head : Head} (hfound : head.Found source) (hstart : head.start = cursor.offset) :
    Sound source ⟨head.stop, none⟩ ∧ cursor.Leads source (some (.tag head)) ⟨head.stop, none⟩ := by
  refine ⟨⟨hfound.isBoundary, by rintro _ ⟨⟩⟩, hstart, rfl, hfound.lt, ?_, ?_⟩
  · rintro _ _ _ ⟨⟩
  · rintro _ ⟨⟩
    exact ⟨hfound, rfl⟩

/-- **An item at a time.**  The next item stands where the cursor is and behind it; there is
none at the end of the source only. -/
theorem Sound.next (h : cursor.Sound source) {item : Option Item} {next : Cursor}
    (hnext : cursor.next source closer = .ok (item, next)) :
    next.Sound source ∧ cursor.Leads source item next := by
  obtain ⟨offset, pending⟩ := cursor
  cases pending with
  | some head =>
    obtain ⟨hfound, hstart⟩ := h.pending head rfl
    cases hnext
    exact leads_tag hfound hstart
  | none =>
    obtain ⟨segment, hscan, hnext⟩ := except_bind_eq_ok hnext
    obtain ⟨hstart, hboundary, ⟨slice, hslice, htext⟩, hhead⟩ :=
      Segment.scan_slice h.boundary.at_behind hscan
    have hchars : segment.text.isEmpty ↔ slice = [] := by
      rw [← Segment.unescape_eq_nil_iff, ← htext]
      simp
    by_cases hempty : segment.text.isEmpty
    · -- Without raw text the segment is its head alone, or nothing.
      have hstop : segment.stop = offset := by
        obtain ⟨before, after, -, -, hstop⟩ := hslice
        rw [← hstop, hchars.1 hempty]
        rfl
      rw [if_pos hempty] at hnext
      cases hfound : segment.head with
      | none =>
        rw [hfound] at hnext hhead
        cases hnext
        rw [hstop] at hhead ⊢
        exact ⟨h, hhead, rfl, rfl⟩
      | some head =>
        rw [hfound] at hnext hhead
        cases hnext
        obtain ⟨hfound, hstart, -⟩ := hhead
        exact leads_tag hfound (hstart.trans hstop)
    · have hlt : offset < segment.stop := by
        obtain ⟨before, after, -, -, hstop⟩ := hslice
        have hstop : offset + byteLength slice = segment.stop := hstop
        have hpos : 0 < byteLength slice := byteLength_pos fun hnil => hempty (hchars.2 hnil)
        omega
      rw [if_neg hempty] at hnext
      cases hnext
      refine ⟨⟨hboundary, ?_⟩, hstart, rfl, hstart ▸ hlt, ?_, by rintro _ ⟨⟩⟩
      · intro head hpending
        have hpending : segment.head = some head := hpending
        rw [hpending] at hhead
        exact ⟨hhead.1, hhead.2.1⟩
      · rintro _ _ _ ⟨⟩
        refine ⟨⟨slice, hstart ▸ hslice, htext⟩, rfl, ?_⟩
        cases hfound : segment.head with
        | none =>
          rw [hfound] at hhead
          exact .inr hhead
        | some head => exact .inl rfl

end Cursor

end Stencil
