/-
The places of parameters.

* **`nextPiece_at`** — the lexer keeps count of the offset;
* **`Reader.Located`** — a reader holds true places only, and keeps this token by
  token (`Reader.Located.step`);
* **`ParameterList.read_located`**, **`ParameterList.readHeader_located`** — the
  places of parameters and of their errors.

## Design notes

The place of a composite expression starts where its first part starts and stops
where its last operand stops.  Whatever waits for an operand started before the
operand stops (`Progress.limit`), so that these places do not go backwards.
-/
import Stencil.Parameters
import Stencil.Proofs.Places
import Stencil.Proofs.Steps
import Stencil.Token.Lexer

namespace Stencil

variable {source : Source}

/-! ### Tokens -/

/-- Skipping blanks goes on in the source. -/
theorem skipBlank_at {text : List Char} {offset : Nat} (h : source.At text offset) :
    source.At (skipBlank text offset).1 (skipBlank text offset).2 ∧
      offset ≤ (skipBlank text offset).2 := by
  induction text generalizing offset with
  | nil => exact ⟨h, Nat.le_refl offset⟩
  | cons c text ih =>
    rw [skipBlank]
    split
    · obtain ⟨hat, hle⟩ := ih h.tail
      exact ⟨hat, Nat.le_trans (Nat.le_add_right _ _) hle⟩
    · exact ⟨h, Nat.le_refl offset⟩

/-- The offsets between which a stretch stands. -/
def Piece.Stands (start stop : Nat) : Piece → Prop
  | .lexeme found => found.start = start ∧ found.stop = stop
  | .rejected _ start' stop' => start' = start ∧ stop' = stop

/-- A stretch stands behind the offset, and the text left stands behind the stretch. -/
theorem nextPiece_at {text rest : List Char} {offset stop : Nat} {piece : Piece}
    (h : source.At text offset) (hpiece : nextPiece text offset = some (piece, rest, stop)) :
    source.At rest stop ∧ ∃ start, offset ≤ start ∧ start ≤ stop ∧ source.IsBoundary start ∧
      piece.Stands start stop := by
  obtain ⟨hat, hle⟩ := skipBlank_at h
  unfold nextPiece at hpiece
  split at hpiece
  · cases hpiece
  · rename_i c tail start hskip
    rw [hskip] at hat hle
    have hrest : source.At (Stretch.cut c tail).rest
        (start + byteLength (Stretch.cut c tail).chars) :=
      Source.At.advance (by rwa [Stretch.cut_append])
    cases hpiece
    refine ⟨hrest, start, hle, Nat.le_add_right _ _, hat.isBoundary, ?_⟩
    cases (Stretch.cut c tail).token <;> exact ⟨rfl, rfl⟩

/-- The lexemes stand one behind the other between two offsets. -/
def Spaced (source : Source) (low : Nat) : List Lexeme → Nat → Prop
  | [], high => low ≤ high
  | lexeme :: lexemes, high => low ≤ lexeme.start ∧ lexeme.start ≤ lexeme.stop ∧
    source.IsBoundary lexeme.start ∧ source.IsBoundary lexeme.stop ∧
    Spaced source lexeme.stop lexemes high

theorem Spaced.mono {low high high' : Nat} {lexemes : List Lexeme}
    (h : Spaced source low lexemes high) (hle : high ≤ high') :
    Spaced source low lexemes high' := by
  induction lexemes generalizing low with
  | nil => exact Nat.le_trans h hle
  | cons lexeme lexemes ih =>
    obtain ⟨hlow, hle', hstart, hstop, hrest⟩ := h
    exact ⟨hlow, hle', hstart, hstop, ih hrest⟩

theorem Spaced.concat {low high : Nat} {lexemes : List Lexeme} {lexeme : Lexeme}
    (h : Spaced source low lexemes high) (hlow : high ≤ lexeme.start)
    (hle : lexeme.start ≤ lexeme.stop) (hstart : source.IsBoundary lexeme.start)
    (hstop : source.IsBoundary lexeme.stop) :
    Spaced source low (lexemes ++ [lexeme]) lexeme.stop := by
  induction lexemes generalizing low with
  | nil => exact ⟨Nat.le_trans h hlow, hle, hstart, hstop, Nat.le_refl _⟩
  | cons first lexemes ih =>
    obtain ⟨hlow', hle', hstart', hstop', hrest⟩ := h
    exact ⟨hlow', hle', hstart', hstop', ih hrest⟩

theorem Spaced.le {low high : Nat} {lexemes : List Lexeme} (h : Spaced source low lexemes high) :
    low ≤ high := by
  induction lexemes generalizing low with
  | nil => exact h
  | cons lexeme lexemes ih =>
    obtain ⟨hlow, hle, -, -, hrest⟩ := h
    exact Nat.le_trans hlow (Nat.le_trans hle (ih hrest))

/-- One more lexeme is read behind spaced ones. -/
theorem Spaced.nextPiece {low offset stop : Nat} {done : List Lexeme} {text rest : List Char}
    {lexeme : Lexeme} (h : Spaced source low done.reverse offset) (hat : source.At text offset)
    (hpiece : Stencil.nextPiece text offset = some (.lexeme lexeme, rest, stop)) :
    source.At rest stop ∧ Spaced source low (lexeme :: done).reverse stop := by
  obtain ⟨hrest, start, hlow, hle, hstart, rfl, rfl⟩ := nextPiece_at hat hpiece
  rw [List.reverse_cons]
  exact ⟨hrest, h.concat hlow hle hstart hrest.isBoundary⟩

/-- The last of spaced lexemes stops at a boundary, before the upper offset. -/
theorem Spaced.getLast? {low high : Nat} {lexemes : List Lexeme} {last : Lexeme}
    (h : Spaced source low lexemes high) (hlast : lexemes.getLast? = some last) :
    source.IsBoundary last.stop ∧ last.stop ≤ high := by
  induction lexemes generalizing low with
  | nil => cases hlast
  | cons lexeme lexemes ih =>
    obtain ⟨-, -, -, hstop, hrest⟩ := h
    cases lexemes with
    | nil =>
      cases hlast
      exact ⟨hstop, hrest⟩
    | cons second lexemes =>
      rw [List.getLast?_cons_cons] at hlast
      exact ih hrest hlast

/-! ### Composite expressions -/

theorem applySigns_located {signs : List (Operator × Nat)} {node : Node}
    (hnode : node.LocatedIn source)
    (hsigns : ∀ sign ∈ signs, source.IsBoundary sign.2 ∧ sign.2 ≤ node.span.stop) :
    (applySigns source signs node).LocatedIn source ∧
      (applySigns source signs node).span.stop = node.span.stop := by
  induction signs generalizing node with
  | nil => exact ⟨hnode, rfl⟩
  | cons sign signs ih =>
    obtain ⟨op, start⟩ := sign
    obtain ⟨hstart, hle⟩ := hsigns _ (List.mem_cons_self ..)
    have hsigned :
        (Node.signed (source.span start node.span.stop) op node).LocatedIn source := by
      refine .of_children (Source.locates_span hstart hnode.span.stop hle) ?_
      simpa [Node.children] using hnode
    exact ih hsigned fun sign hsign => hsigns sign (List.mem_cons_of_mem _ hsign)

theorem reduce_located (strength : Nat) {lefts : List (Node × Operator)} {node : Node}
    (hnode : node.LocatedIn source)
    (hlefts : ∀ left ∈ lefts, left.1.LocatedIn source ∧ left.1.span.start ≤ node.span.stop) :
    (∀ left ∈ (reduce source strength lefts node).1, left ∈ lefts) ∧
      (reduce source strength lefts node).2.LocatedIn source ∧
      (reduce source strength lefts node).2.span.stop = node.span.stop := by
  induction lefts generalizing node with
  | nil => exact ⟨fun _ h => h, hnode, rfl⟩
  | cons left lefts ih =>
    obtain ⟨left, op⟩ := left
    obtain ⟨hleft, hle⟩ := hlefts _ (List.mem_cons_self ..)
    rw [reduce]
    split
    · have hbinary : (Node.binary (source.span left.span.start node.span.stop) op left
          node).LocatedIn source := by
        refine .of_children
          (Source.locates_span hleft.span.isBoundary_start hnode.span.stop hle) ?_
        simpa [Node.children] using ⟨hleft, hnode⟩
      obtain ⟨hmem, hwhole, hstop⟩ :=
        ih hbinary fun left hleft => hlefts left (List.mem_cons_of_mem _ hleft)
      exact ⟨fun left hleft => List.mem_cons_of_mem _ (hmem left hleft), hwhole, hstop⟩
    · exact ⟨fun _ h => h, hnode, rfl⟩

theorem callNode_located {span : Span} {name : String} {arguments : List Node}
    (hspan : source.Locates span) (harguments : LocatedAll source arguments) :
    (callNode span name arguments).1.LocatedIn source ∧
      (callNode span name arguments).1.span = span ∧
      ∀ place, (callNode span name arguments).2 = some place → source.Locates place := by
  unfold callNode
  split
  · split
    · refine ⟨.of_children hspan (by simp [Node.children]), rfl, ?_⟩
      rintro _ ⟨⟩
    · refine ⟨.of_children hspan (by simp [Node.children]), rfl, ?_⟩
      rintro _ ⟨⟩
      exact hspan
  · refine ⟨.of_children hspan ?_, rfl, ?_⟩
    · simpa [Node.children, LocatedAll] using harguments
    · rintro _ ⟨⟩

/-! ### Readers -/

/-- What a layer holds has true places, and started before an offset. -/
structure Layer.Located (source : Source) (layer : Layer) (limit : Nat) : Prop where
  items : LocatedAll source layer.items
  lefts : ∀ left ∈ layer.lefts, left.1.LocatedIn source ∧ left.1.span.start ≤ limit
  signs : ∀ sign ∈ layer.signs, source.IsBoundary sign.2 ∧ sign.2 ≤ limit
  call : ∀ name start, layer.surrounding = .call name start →
    source.IsBoundary start ∧ start ≤ limit
  fault : ∀ span, layer.fault = some span → source.Locates span

/-- The offset before which everything has started: the end of the last operand, or else
of the last token. -/
def Progress.limit (stop : Nat) : Progress → Nat
  | .wanting | .dotted _ _ => stop
  | .path _ _ stop' => stop'
  | .operand node => node.span.stop

/-- What has been read of an operand has true places, when the last token stops at an
offset. -/
def Progress.Located (source : Source) (stop : Nat) : Progress → Prop
  | .wanting => True
  | .dotted _ start => source.IsBoundary start ∧ start ≤ stop
  | .path _ start stop' => source.Locates (source.span start stop') ∧ stop' ≤ stop
  | .operand node => node.LocatedIn source ∧ node.span.stop ≤ stop

/-- What a reader holds has true places, when the last token stops at an offset. -/
structure Reader.Located (source : Source) (reader : Reader) (stop : Nat) : Prop where
  progress : reader.progress.Located source stop
  layer : reader.layer.Located source (reader.progress.limit stop)
  outer : ∀ layer ∈ reader.outer, layer.Located source (reader.progress.limit stop)

theorem Progress.Located.limit_le {progress : Progress} {stop : Nat}
    (h : progress.Located source stop) : progress.limit stop ≤ stop := by
  cases progress with
  | wanting | dotted => exact Nat.le_refl stop
  | path | operand => exact h.2

namespace Layer

variable {layer : Layer} {limit : Nat} {node : Node}

theorem located_open {surrounding : Surrounding}
    (h : ∀ name start, surrounding = .call name start → source.IsBoundary start ∧ start ≤ limit) :
    (Layer.open surrounding).Located source limit := by
  refine ⟨?_, ?_, ?_, h, ?_⟩
  all_goals simp [Layer.open, LocatedAll]

theorem Located.mono {limit' : Nat} (h : layer.Located source limit) (hle : limit ≤ limit') :
    layer.Located source limit' := by
  refine ⟨h.items, ?_, ?_, ?_, h.fault⟩
  · intro left hleft
    exact ⟨(h.lefts left hleft).1, Nat.le_trans (h.lefts left hleft).2 hle⟩
  · intro sign hsign
    exact ⟨(h.signs sign hsign).1, Nat.le_trans (h.signs sign hsign).2 hle⟩
  · intro name start hcall
    exact ⟨(h.call name start hcall).1, Nat.le_trans (h.call name start hcall).2 hle⟩

/-- Signs and waiting operands are completed by an operand. -/
theorem Located.reduce (h : layer.Located source node.span.stop) (hnode : node.LocatedIn source)
    (strength : Nat) :
    let result := Stencil.reduce source strength layer.lefts (applySigns source layer.signs node)
    (∀ left ∈ result.1, left ∈ layer.lefts) ∧ result.2.LocatedIn source ∧
      result.2.span.stop = node.span.stop := by
  obtain ⟨hsigned, hstop⟩ := applySigns_located hnode h.signs
  have hresult := reduce_located strength hsigned fun left hleft => by
    rw [hstop]
    exact h.lefts left hleft
  rwa [hstop] at hresult

theorem Located.complete (h : layer.Located source node.span.stop)
    (hnode : node.LocatedIn source) :
    (layer.complete source node).LocatedIn source ∧
      (layer.complete source node).span.stop = node.span.stop :=
  (h.reduce hnode 0).2

theorem Located.infixOp (h : layer.Located source node.span.stop) (hnode : node.LocatedIn source)
    (op : Operator) : (layer.infixOp source node op).Located source node.span.stop := by
  obtain ⟨hmem, hwhole, hstop⟩ := h.reduce hnode op.strength
  refine ⟨h.items, ?_, ?_, h.call, h.fault⟩
  · intro left hleft
    rcases List.mem_cons.1 hleft with rfl | hleft
    · refine ⟨hwhole, ?_⟩
      rw [← hstop]
      exact hwhole.span.le
    · exact h.lefts left (hmem left hleft)
  · simp [Layer.infixOp]

theorem Located.endItem (h : layer.Located source node.span.stop) (hnode : node.LocatedIn source) :
    (layer.endItem source node).Located source node.span.stop := by
  refine ⟨?_, ?_, ?_, h.call, h.fault⟩
  · intro item hitem
    rcases List.mem_cons.1 hitem with rfl | hitem
    · exact (h.complete hnode).1
    · exact h.items item hitem
  · simp [Layer.endItem]
  · simp [Layer.endItem]

/-- A layer hands its fault on to the one around it. -/
theorem Located.withFault (h : layer.Located source limit) {fault : Option Span}
    (hfault : ∀ span, fault = some span → source.Locates span) :
    Layer.Located source { layer with fault := layer.fault.or fault } limit := by
  refine ⟨h.items, h.lefts, h.signs, h.call, ?_⟩
  intro span hspan
  rcases Option.or_eq_some_iff.1 hspan with hspan | ⟨-, hspan⟩
  · exact h.fault span hspan
  · exact hfault span hspan

end Layer

namespace Reader

variable {reader next : Reader} {lexeme : Lexeme} {stop : Nat}

theorem located_start (surrounding : Surrounding)
    (h : ∀ name start, surrounding ≠ .call name start) (stop : Nat) :
    (start surrounding).Located source stop :=
  ⟨trivial, Layer.located_open fun name start' hcall => absurd hcall (h name start'), by
    simp [start]⟩

/-- What the next operand may still be can only start later. -/
theorem Located.wanting {layer : Layer} {outer : List Layer} {limit stop' : Nat}
    (hle : limit ≤ stop') (hlayer : layer.Located source limit)
    (houter : ∀ layer ∈ outer, layer.Located source limit) :
    Located source ⟨.wanting, layer, outer⟩ stop' :=
  ⟨trivial, hlayer.mono hle, fun layer hmem => (houter layer hmem).mono hle⟩

/-- The operand that has been read last is what everything else started before. -/
theorem Located.operand? (h : reader.Located source stop) {node : Node}
    (hnode : reader.operand? source = some node) :
    node.LocatedIn source ∧ node.span.stop ≤ stop ∧ reader.layer.Located source node.span.stop ∧
      ∀ layer ∈ reader.outer, layer.Located source node.span.stop := by
  obtain ⟨progress, layer, outer⟩ := reader
  cases progress with
  | wanting | dotted => cases hnode
  | operand operand =>
    cases hnode
    exact ⟨h.progress.1, h.progress.2, h.layer, h.outer⟩
  | path keys start stop' =>
    cases hnode
    exact ⟨.of_children h.progress.1 (by simp [Node.children]), h.progress.2, h.layer, h.outer⟩

/-- An operand that takes the place of a pair of parentheses. -/
theorem located_operand {node : Node} {parent : Layer} {outer : List Layer} {fault : Option Span}
    (hnode : node.LocatedIn source) (hstop : node.span.stop ≤ stop)
    (houter : ∀ layer ∈ parent :: outer, layer.Located source node.span.stop)
    (hfault : ∀ span, fault = some span → source.Locates span) :
    Located source ⟨.operand node, { parent with fault := parent.fault.or fault }, outer⟩ stop :=
  ⟨⟨hnode, hstop⟩, (houter parent (List.mem_cons_self ..)).withFault hfault,
    fun layer hlayer => houter layer (List.mem_cons_of_mem _ hlayer)⟩

/-- The items that a reader holds have true places. -/
theorem Holds.located {items : List Node} (hitems : reader.Holds source items)
    (h : reader.Located source stop) : LocatedAll source items := by
  cases hitems with
  | operand hnode =>
    obtain ⟨hlocated, -, hlayer, -⟩ := h.operand? hnode
    exact fun item hitem => (hlayer.endItem hlocated).items item (List.mem_reverse.1 hitem)
  | atItem => exact fun item hitem => h.layer.items item (List.mem_reverse.1 hitem)

/-- **A reader that reads one more token holds true places still.** -/
theorem Located.step (h : reader.Located source stop) (hlow : stop ≤ lexeme.start)
    (hle : lexeme.start ≤ lexeme.stop) (hstart : source.IsBoundary lexeme.start)
    (hstop : source.IsBoundary lexeme.stop) (hstep : reader.Step source lexeme next) :
    next.Located source lexeme.stop := by
  have hspan : source.Locates (source.span lexeme.start lexeme.stop) :=
    Source.locates_span hstart hstop hle
  have hstop_le : stop ≤ lexeme.stop := Nat.le_trans hlow hle
  have hlimit : reader.progress.limit stop ≤ lexeme.stop :=
    Nat.le_trans h.progress.limit_le hstop_le
  have hlayer : reader.layer.Located source lexeme.stop := h.layer.mono hlimit
  have houter : ∀ layer ∈ reader.outer, layer.Located source lexeme.stop :=
    fun layer hmem => (h.outer layer hmem).mono hlimit
  have hprogress := h.progress
  -- A parenthesis that opens puts the layers behind a new one.
  have henter {surrounding : Surrounding} (hcall : ∀ name start, surrounding = .call name start →
      source.IsBoundary start ∧ start ≤ lexeme.stop) :
      (reader.enter surrounding).Located source lexeme.stop :=
    .wanting (Nat.le_refl _) (Layer.located_open hcall) (List.forall_mem_cons.2 ⟨hlayer, houter⟩)
  cases hstep with
  | constant =>
    exact ⟨⟨.of_children hspan (by simp [Node.children]), Nat.le_refl _⟩, hlayer, houter⟩
  | name => exact ⟨⟨hspan, Nat.le_refl _⟩, hlayer, houter⟩
  | group => exact henter (by rintro _ _ ⟨⟩)
  | sign hwanting =>
    rw [hwanting]
    refine .wanting (Nat.le_refl _) ⟨hlayer.items, hlayer.lefts, ?_, hlayer.call, hlayer.fault⟩
      houter
    exact List.forall_mem_cons.2 ⟨⟨hstart, hle⟩, hlayer.signs⟩
  | dot hpath =>
    rw [hpath] at hprogress
    obtain ⟨hplace, hplace_le⟩ := hprogress
    refine ⟨⟨hplace.isBoundary_start, ?_⟩, hlayer, houter⟩
    exact Nat.le_trans hplace.le (Nat.le_trans hplace_le hstop_le)
  | member hdotted =>
    rw [hdotted] at hprogress
    obtain ⟨hfirst, hfirst_le⟩ := hprogress
    exact ⟨⟨Source.locates_span hfirst hstop (Nat.le_trans hfirst_le hstop_le), Nat.le_refl _⟩,
      hlayer, houter⟩
  | call hpath =>
    rw [hpath] at hprogress
    obtain ⟨hplace, hplace_le⟩ := hprogress
    refine henter ?_
    rintro _ _ ⟨⟩
    exact ⟨hplace.isBoundary_start, Nat.le_trans hplace.le (Nat.le_trans hplace_le hstop_le)⟩
  | @infixOp node op hnode =>
    obtain ⟨hlocated, hnode_stop, hlayer, houter⟩ := h.operand? hnode
    exact .wanting (Nat.le_trans hnode_stop hstop_le) (hlayer.infixOp hlocated op) houter
  | comma hnode =>
    obtain ⟨hlocated, hnode_stop, hlayer, houter⟩ := h.operand? hnode
    exact .wanting (Nat.le_trans hnode_stop hstop_le) (hlayer.endItem hlocated) houter
  | closeGroup hnode _ _ hparents =>
    obtain ⟨hlocated, hnode_stop, hlayer, houter⟩ := h.operand? hnode
    obtain ⟨hwhole, hwhole_stop⟩ := hlayer.complete hlocated
    refine located_operand hwhole (by rw [hwhole_stop]; exact Nat.le_trans hnode_stop hstop_le) ?_
      hlayer.fault
    rw [hwhole_stop, ← hparents]
    exact houter
  | @closeCall items name start _ _ hitems _ hsurrounding hparents =>
    obtain ⟨hfirst, hfirst_le⟩ := hlayer.call name start hsurrounding
    obtain ⟨hnode, hnode_span, hfault⟩ := @callNode_located source _ name items
      (Source.locates_span hfirst hstop hfirst_le) (hitems.located h)
    refine located_operand hnode (by rw [hnode_span]; exact Nat.le_refl _) ?_ ?_
    · rw [hnode_span, ← hparents]
      exact houter
    · intro span hspan'
      rcases Option.or_eq_some_iff.1 hspan' with hspan' | ⟨-, hspan'⟩
      · exact hlayer.fault span hspan'
      · exact hfault span hspan'

/-- A reader that reads spaced lexemes holds true places, and what it is stuck on is one
of them. -/
theorem Located.run {lexemes : List Lexeme} {high : Nat} (h : reader.Located source stop)
    (hlexemes : Spaced source stop lexemes high) :
    (∃ stop', (reader.run source lexemes).1.Located source stop') ∧
      ∀ lexeme, (reader.run source lexemes).2 = some lexeme →
        source.Locates (source.span lexeme.start lexeme.stop) := by
  induction lexemes generalizing reader stop with
  | nil => exact ⟨⟨stop, h⟩, by rintro _ ⟨⟩⟩
  | cons lexeme lexemes ih =>
    obtain ⟨hlow, hle, hstart, hstop, hrest⟩ := hlexemes
    rw [Reader.run]
    split
    · rename_i next hstep
      exact ih (h.step hlow hle hstart hstop (step_cases hstep)) hrest
    · refine ⟨⟨stop, h⟩, ?_⟩
      rintro _ ⟨⟩
      exact Source.locates_span hstart hstop hle

theorem Located.outerFault (h : reader.Located source stop) {span : Span}
    (hspan : reader.outerFault = some span) : source.Locates span := by
  unfold Reader.outerFault at hspan
  cases hlast : reader.outer.getLast? with
  | none =>
    rw [hlast] at hspan
    exact h.layer.fault span hspan
  | some layer =>
    rw [hlast] at hspan
    exact (h.outer layer (List.mem_of_getLast? hlast)).fault span hspan

end Reader

/-! ### Parameter lists -/

/-- A parameter list stands in the source. -/
structure ParameterList.Stands (source : Source) (list : ParameterList) : Prop where
  lexemes : ∃ low, Spaced source low list.lexemes list.closing
  closing : source.IsBoundary list.closing

namespace ParameterList

variable {list : ParameterList}

/-- The end of a list is before its closing parenthesis. -/
theorem Stands.endSpan (h : list.Stands source) :
    source.Cites (list.endSpan source) ∧
      (list.endSpan source).stop ≤ (list.endSpan source).start := by
  obtain ⟨low, hlexemes⟩ := h.lexemes
  rw [ParameterList.endSpan]
  cases hlast : list.lexemes.getLast? with
  | none => exact ⟨Source.cites_span h.closing h.closing, Nat.le_refl _⟩
  | some last =>
    obtain ⟨hstop, hle⟩ := hlexemes.getLast? hlast
    exact ⟨Source.cites_span h.closing hstop, hle⟩

theorem Stands.mistake (h : list.Stands source) (wanted : Wanted) {stuck : Option Lexeme}
    (hstuck : ∀ lexeme, stuck = some lexeme →
      source.Locates (source.span lexeme.start lexeme.stop)) :
    (list.mistake source wanted stuck).LocatedIn source := by
  cases stuck with
  | none => exact h.endSpan
  | some lexeme => exact .of_locates (hstuck lexeme rfl) rfl

theorem Stands.readItems (h : list.Stands source) {surrounding : Surrounding}
    (hsurrounding : ∀ name start, surrounding ≠ .call name start) {low : Nat}
    {lexemes : List Lexeme} (hlexemes : Spaced source low lexemes list.closing) :
    Located source (LocatedAll source) (list.readItems source surrounding lexemes) := by
  obtain ⟨⟨stop, hreader⟩, hstuck⟩ :=
    (Reader.located_start surrounding hsurrounding low).run hlexemes
  unfold ParameterList.readItems
  dsimp only
  split
  · rename_i span hspan
    exact .of_locates (hreader.outerFault hspan) rfl
  · split
    · rename_i hitems
      exact (Reader.holds_of_items? hitems).2.located hreader
    · exact h.mistake _ hstuck

/-- **The places of parameters are true.** -/
theorem read_located (h : list.Stands source) :
    Located source (LocatedAll source) (list.read source) := by
  obtain ⟨low, hlexemes⟩ := h.lexemes
  exact h.readItems (by rintro _ _ ⟨⟩) hlexemes

/-- **The places in the header of a loop are true.** -/
theorem readHeader_located (h : list.Stands source) :
    Located source (fun header => header.1.LocatedIn source ∧ header.2.LocatedIn source)
      (list.readHeader source) := by
  obtain ⟨low, hlexemes⟩ := h.lexemes
  -- The header goes wrong at its end, or at one of its first two tokens.
  have hend (wanted : Wanted) : (list.mistake source wanted none).LocatedIn source :=
    h.mistake wanted (by rintro _ ⟨⟩)
  have htoken (wanted : Wanted) {lexeme : Lexeme}
      (hlexeme : source.Locates (source.span lexeme.start lexeme.stop)) :
      (list.mistake source wanted (some lexeme)).LocatedIn source :=
    h.mistake wanted (by rintro _ ⟨⟩; exact hlexeme)
  unfold readHeader
  split
  · exact hend _
  · rename_i name start stop rest heq
    rw [heq] at hlexemes
    obtain ⟨-, hle, hstart, hstop, hrest⟩ := hlexemes
    split
    · exact hend _
    · obtain ⟨-, -, -, -, hrest⟩ := hrest
      have hdata : Located source (LocatedAll source) (list.readItems source .header _) :=
        h.readItems (by rintro _ _ ⟨⟩) hrest
      split
      · rename_i error herror
        rw [herror] at hdata
        exact hdata
      · rename_i data hok
        rw [hok] at hdata
        refine ⟨.of_children (Source.locates_span hstart hstop hle) (by simp [Node.children]), ?_⟩
        exact hdata data (List.mem_cons_self ..)
      · exact hend _
    · obtain ⟨-, hle, hstart, hstop, -⟩ := hrest
      exact htoken _ (Source.locates_span hstart hstop hle)
  · rename_i lexeme rest _ heq
    rw [heq] at hlexemes
    obtain ⟨-, hle, hstart, hstop, -⟩ := hlexemes
    exact htoken _ (Source.locates_span hstart hstop hle)

end ParameterList

end Stencil
