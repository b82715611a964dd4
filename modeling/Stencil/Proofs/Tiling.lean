/-
A template made up of its items.

* **`parse_eq_ok_iff`** — a template is read just if a builder takes in its items up to
  the end;
* **`Builder.Consumes.tiling`** — all items together make up the template.

## Design notes

`Builder.read` takes in a run of raw text and the head behind it at a time.  Here
each of them is asked for by itself, and the calls are kept.  Between the two the
builder may be another one, but what waits has been recognized already, so that it
does not matter which name closes the block by then.
-/
import Mathlib.Data.List.Chain
import Stencil.Proofs.Blocks
import Stencil.Proofs.Items

namespace Stencil

/-! ### Calls -/

/-- A call of the scanner, and what becomes of the item. -/
structure Call where
  /-- The builder that asks for an item. -/
  builder : Builder
  /-- Where the scanner stands. -/
  cursor : Cursor
  /-- The item, unless the template ends. -/
  item : Option Item
  /-- Where the scanner stands then. -/
  next : Cursor
  /-- The builder that has taken in the item. -/
  result : Builder

namespace Builder

/-- Take in an item. -/
def addItem (source : Source) (builder : Builder) : Item → Except ParseError Builder
  | .raw text start stop => builder.addText source ⟨text, start, stop, none, []⟩
  | .tag head => builder.addHead source head

/-- The calls of the scanner by which a builder takes in the rest of a template, and the nodes
that it holds at the end. -/
inductive Consumes (source : Source) : Builder → Cursor → List Call → List Node → Prop
  | finish {builder : Builder} {cursor next : Cursor} {nodes : List Node} :
      cursor.next source builder.closer = .ok (none, next) → builder.finish = .ok nodes →
      Consumes source builder cursor [⟨builder, cursor, none, next, builder⟩] nodes
  | take {builder result : Builder} {cursor next : Cursor} {item : Item} {calls : List Call}
      {nodes : List Node} :
      cursor.next source builder.closer = .ok (some item, next) →
      builder.addItem source item = .ok result → Consumes source result next calls nodes →
      Consumes source builder cursor (⟨builder, cursor, some item, next, result⟩ :: calls) nodes

/-- Read the rest of a template, where a head may wait. -/
def readFrom (source : Source) (builder : Builder) (cursor : Cursor) :
    Except ParseError (List Node) :=
  match cursor.pending with
  | none => builder.read source (source.behind cursor.offset) cursor.offset
  | some head => do
    let result ← builder.addHead source head
    result.read source (source.behind head.stop) head.stop

variable {source : Source} {builder : Builder} {cursor : Cursor}

theorem addText_empty (builder : Builder) {segment : Segment} (h : segment.text.isEmpty) :
    builder.addText source segment = .ok builder := by
  unfold addText
  rw [if_pos h]

/-- At the end of the source nothing is added. -/
theorem read_at_end (builder : Builder) {offset : Nat} (h : source.At [] offset) :
    builder.read source (source.behind offset) offset = builder.finish := by
  have hscan : Segment.scan source builder.closer [] offset =
      .ok ⟨String.ofList [], offset, offset, none, []⟩ := rfl
  rw [h.behind_eq, read_eq, hscan]
  show (builder.addText source ⟨String.ofList [], offset, offset, none, []⟩ >>=
    fun builder => builder.finish) = _
  rw [addText_empty builder (by simp)]
  rfl

/-- **Reading item by item.** -/
theorem readFrom_eq (h : cursor.Sound source) (builder : Builder) :
    builder.readFrom source cursor = (do
      let (item, next) ← cursor.next source builder.closer
      match item with
      | none => builder.finish
      | some item => do
        let result ← builder.addItem source item
        result.readFrom source next) := by
  obtain ⟨offset, pending⟩ := cursor
  cases pending with
  | some head => rfl
  | none =>
    show builder.read source (source.behind offset) offset = _
    rw [read_eq]
    cases hscan : Segment.scan source builder.closer (source.behind offset) offset with
    | error error =>
      have hnext : Cursor.next source builder.closer ⟨offset, none⟩ = .error error := by
        rw [Cursor.next]
        dsimp only
        rw [hscan]
        rfl
      rw [hnext]
      rfl
    | ok segment =>
      obtain ⟨-, hboundary, -, hhead⟩ := Segment.scan_slice h.boundary.at_behind hscan
      rw [Cursor.next_of_scan hscan]
      show (builder.addText source segment >>= _) = _
      by_cases hempty : segment.text.isEmpty
      · rw [addText_empty builder hempty, if_pos hempty]
        cases hfound : segment.head with
        | none => rfl
        | some head =>
          rw [hfound] at hhead
          show (builder.addHead source head >>= _) = builder.addHead source head >>= fun result =>
            result.read source (source.behind head.stop) head.stop
          rw [hhead.2.2.behind_eq]
      · rw [if_neg hempty]
        show (builder.addText source segment >>= _) =
          builder.addText source segment >>= fun result =>
            result.readFrom source ⟨segment.stop, segment.head⟩
        refine bind_congr fun result => ?_
        cases hfound : segment.head with
        | none =>
          -- The raw text was the last item, and the scanner is asked once more.
          rw [hfound] at hhead
          exact (result.read_at_end (Source.at_end hhead)).symm
        | some head =>
          rw [hfound] at hhead
          show (result.addHead source head >>= _) = result.addHead source head >>= fun result =>
            result.read source (source.behind head.stop) head.stop
          rw [hhead.2.2.behind_eq]

/-- A builder that takes in items up to the end reads the template. -/
theorem Consumes.readFrom_eq {calls : List Call} {nodes : List Node}
    (h : builder.Consumes source cursor calls nodes) (hsound : cursor.Sound source) :
    builder.readFrom source cursor = .ok nodes := by
  induction h with
  | finish hnext hfinish =>
    rw [Builder.readFrom_eq hsound, hnext]
    exact hfinish
  | take hnext hadd _ ih =>
    rw [Builder.readFrom_eq hsound, hnext]
    show (Builder.addItem source _ _ >>= _) = _
    rw [hadd]
    exact ih (hsound.next hnext).1

/-- A builder that reads the template takes in items up to the end. -/
theorem exists_consumes {nodes : List Node} (hsound : cursor.Sound source)
    (h : builder.readFrom source cursor = .ok nodes) :
    ∃ calls, builder.Consumes source cursor calls nodes := by
  -- The induction is on the bytes that are left: an item takes at least one of them.
  induction hleft : byteLength source.text - cursor.offset using Nat.strongRecOn
    generalizing builder cursor with
  | ind left ih =>
    rw [Builder.readFrom_eq hsound] at h
    obtain ⟨⟨item, next⟩, hnext, h⟩ := except_bind_eq_ok h
    obtain ⟨hsound', hleads⟩ := hsound.next hnext
    cases item with
    | none => exact ⟨_, .finish hnext h⟩
    | some item =>
      obtain ⟨result, hadd, h⟩ := except_bind_eq_ok h
      have hitem : item.Between source cursor next := hleads
      have hlt : byteLength source.text - next.offset < left := by
        have hle := hsound'.boundary.le
        have hstart := hitem.start
        have hstop := hitem.stop
        have hlt := hitem.lt
        omega
      obtain ⟨calls, hcalls⟩ := ih _ hlt hsound' h rfl
      exact ⟨_, .take hnext hadd hcalls⟩

end Builder

/-- **A template is read item by item.** -/
theorem parse_eq_ok_iff {source : Source} {nodes : List Node} :
    parse source = .ok nodes ↔
      ∃ calls, Builder.empty.Consumes source .start calls nodes := by
  have hsound : Cursor.start.Sound source := Cursor.sound_start source
  have hparse : Builder.empty.readFrom source .start = parse source := by
    show Builder.empty.read source (source.behind 0) 0 = _
    rw [source.at_start.behind_eq]
    rfl
  rw [← hparse]
  constructor
  · exact Builder.exists_consumes hsound
  · rintro ⟨calls, hcalls⟩
    exact hcalls.readFrom_eq hsound

/-! ### All items together -/

/-- The items stand one behind the other between two offsets, and none of them is empty. -/
def Tiles : Nat → List Item → Nat → Prop
  | low, [], high => low = high
  | low, item :: items, high => item.start = low ∧ low < item.stop ∧ Tiles item.stop items high

/-- What the calls of the scanner are like by which a whole template is read. -/
structure Tiling (source : Source) (calls : List Call) : Prop where
  /-- The items make up the source. -/
  tiles : Tiles 0 (calls.filterMap Call.item) (byteLength source.text)
  /-- A call takes at least a byte, and gives the item that stands there. -/
  takes : ∀ call ∈ calls, ∀ item, call.item = some item →
    item.start = call.cursor.offset ∧ item.stop = call.next.offset ∧
      call.cursor.offset < call.next.offset
  /-- Or it stands at the end of the source and gives nothing. -/
  ends : ∀ call ∈ calls, call.item = none →
    call.cursor.offset = byteLength source.text ∧ call.next = call.cursor
  /-- Raw text is a piece of the source in which each `\#` is replaced by `#`. -/
  raw : ∀ call ∈ calls, ∀ text start stop, call.item = some (.raw text start stop) →
    ∃ slice, source.Slice slice start stop ∧ text.toList = Segment.unescape slice
  /-- A head is one that is recognized where it stands. -/
  tag : ∀ call ∈ calls, ∀ head, call.item = some (.tag head) → head.Found source
  /-- No raw text stands behind raw text. -/
  apart : (calls.filterMap Call.item).IsChain fun item next => ¬ (item.isRaw ∧ next.isRaw)
  /-- Nothing waits where a block is opened or closed, nor at the end. -/
  pending : ∀ call ∈ calls, call.result.outer ≠ call.builder.outer ∨ call.item = none →
    call.next.pending = none

/-- A call gives what its cursor leads to, and the builder takes it in. -/
structure Call.Fits (source : Source) (call : Call) : Prop where
  leads : call.cursor.Leads source call.item call.next
  takes : ∀ item, call.item = some item → call.builder.addItem source item = .ok call.result

namespace Builder

variable {source : Source} {builder : Builder} {cursor : Cursor} {calls : List Call}
  {nodes : List Node}

theorem Consumes.fits (h : builder.Consumes source cursor calls nodes)
    (hsound : cursor.Sound source) : ∀ call ∈ calls, call.Fits source := by
  induction h with
  | finish hnext hfinish =>
    refine List.forall_mem_singleton.2 ⟨(hsound.next hnext).2, ?_⟩
    rintro _ ⟨⟩
  | take hnext hadd _ ih =>
    obtain ⟨hsound', hleads⟩ := hsound.next hnext
    refine List.forall_mem_cons.2 ⟨⟨hleads, ?_⟩, ih hsound'⟩
    rintro _ ⟨⟩
    exact hadd

/-- The items stand one behind the other up to the end of the source. -/
theorem Consumes.tiles (h : builder.Consumes source cursor calls nodes)
    (hsound : cursor.Sound source) :
    Tiles cursor.offset (calls.filterMap Call.item) (byteLength source.text) := by
  induction h with
  | finish hnext hfinish => exact (hsound.next hnext).2.1
  | @take _ _ cursor next item calls _ hnext hadd _ ih =>
    obtain ⟨hsound', hleads⟩ := hsound.next hnext
    have hitem : item.Between source cursor next := hleads
    show item.start = cursor.offset ∧ cursor.offset < item.stop ∧
      Tiles item.stop (calls.filterMap Call.item) (byteLength source.text)
    have hlt := hitem.lt
    rw [hitem.start] at hlt
    rw [hitem.stop] at hlt ⊢
    exact ⟨hitem.start, hlt, ih hsound'⟩

/-- What comes behind raw text is a head, or the end. -/
theorem Consumes.apart (h : builder.Consumes source cursor calls nodes)
    (hsound : cursor.Sound source) :
    (cursor.pending.isSome ∨ cursor.offset = byteLength source.text →
        ∀ item ∈ (calls.filterMap Call.item).head?, item.isRaw = false) ∧
      (calls.filterMap Call.item).IsChain fun item next => ¬ (item.isRaw ∧ next.isRaw) := by
  induction h with
  | finish hnext hfinish => exact ⟨fun _ => nofun, .nil⟩
  | @take _ _ cursor next item calls _ hnext hadd _ ih =>
    obtain ⟨hsound', hleads⟩ := hsound.next hnext
    have hitem : item.Between source cursor next := hleads
    obtain ⟨hfirst, hrest⟩ := ih hsound'
    refine ⟨?_, List.isChain_cons.2 ⟨?_, hrest⟩⟩
    · rintro hwaits _ ⟨⟩
      cases item with
      | tag head => rfl
      | raw text start stop =>
        -- Raw text stands where nothing waits, and there is a byte of it at least.
        obtain ⟨-, hnone, -⟩ := hitem.raw text start stop rfl
        have hle := hsound'.boundary.le
        have hstart := hitem.start
        have hstop := hitem.stop
        have hlt := hitem.lt
        rcases hwaits with hsome | hend
        · rw [hnone] at hsome
          cases hsome
        · omega
    · intro other hother hraw
      cases item with
      | tag head => exact Bool.false_ne_true hraw.1
      | raw text start stop =>
        have hwaits := (hitem.raw text start stop rfl).2.2
        exact Bool.false_ne_true ((hfirst hwaits other hother).symm.trans hraw.2)

/-- **The items of a template make it up.** -/
theorem Consumes.tiling (h : builder.Consumes source .start calls nodes) :
    Tiling source calls := by
  have hsound : Cursor.start.Sound source := Cursor.sound_start source
  have hfits : ∀ call ∈ calls, call.Fits source := h.fits hsound
  have hbetween (call : Call) (hcall : call ∈ calls) (item : Item) (hitem : call.item = some item) :
      item.Between source call.cursor call.next := by
    have hleads := (hfits call hcall).leads
    rw [hitem] at hleads
    exact hleads
  refine ⟨h.tiles hsound, ?_, ?_, ?_, ?_, (h.apart hsound).2, ?_⟩
  · intro call hcall item hitem
    have hitem := hbetween call hcall item hitem
    have hlt := hitem.lt
    rw [hitem.start, hitem.stop] at hlt
    exact ⟨hitem.start, hitem.stop, hlt⟩
  · intro call hcall hnone
    have hleads := (hfits call hcall).leads
    rw [hnone] at hleads
    exact ⟨hleads.1, hleads.2.2⟩
  · intro call hcall text start stop hitem
    exact ((hbetween call hcall _ hitem).raw text start stop rfl).1
  · intro call hcall head hitem
    exact ((hbetween call hcall _ hitem).tag head rfl).1
  · intro call hcall houter
    cases hitem : call.item with
    | none =>
      have hleads := (hfits call hcall).leads
      rw [hitem] at hleads
      rw [hleads.2.2]
      exact hleads.2.1
    | some item =>
      have hadd := (hfits call hcall).takes item hitem
      cases item with
      | tag head => exact ((hbetween call hcall _ hitem).tag head rfl).2
      | raw text start stop =>
        rcases houter with houter | hnone
        · exact absurd (outer_of_addText hadd) houter
        · rw [hitem] at hnone
          cases hnone

end Builder

end Stencil
