/-
What a reader reads is derived by the grammar.

* **`Reader.Spells`** — the tokens that a reader has read spell the parts it holds;
* **`Reader.Spells.step`**, **`Reader.Spells.readAll`** — reading keeps this, as long
  as no call of `import` is faulty;
* **`ParameterList.exists_read_iff`**, **`ParameterList.exists_readHeader_iff`** — a list of
  tokens is read as the expressions that it derives, and a header of a loop likewise;
* **`ParameterList.read_iff_derives`** — both, and the grammar gives a list of tokens one
  reading.

## Design notes

What has been read falls into the tokens around the innermost open parenthesis
(`Around`), those of the layer behind it (`Layer.Spells`) and those of the last
operand (`Progress.Spells`).  A step moves tokens from one part to another, or ends
a layer.
-/
import Stencil.Parameters
import Stencil.Proofs.Grammar.Reading
import Stencil.Proofs.Steps

namespace Stencil

variable {source : Source}

/-! ### The parts of a layer -/

/-- The tokens of complete items, the last one first, with a comma behind each. -/
inductive ItemsSpell : List Node → List Token → Prop
  | nil : ItemsSpell [] []
  | cons {items : List Node} {item : Node} {ts ts' : List Token} : ItemsSpell items ts →
      Derives .expression ts' [item.bare] → ItemsSpell (item :: items) (ts ++ (ts' ++ [.comma]))

/-- The tokens of waiting operands, the last one first, with their operators.  The
operators grow stronger from one to the next. -/
inductive LeftsSpell : List (Node × Operator) → List Token → Prop
  | nil : LeftsSpell [] []
  | cons {lefts : List (Node × Operator)} {left : Node} {op : Operator} {level : Nat}
      {ts ts' : List Token} : LeftsSpell lefts ts → (∀ left ∈ lefts, left.2.strength ≤ level) →
      op.strength = level + 1 → Derives (.level level) ts' [left.bare] →
      LeftsSpell ((left, op) :: lefts) (ts ++ (ts' ++ [.operator op]))

/-- The tokens of waiting signs, the last one first. -/
def signTokens (signs : List (Operator × Nat)) : List Token :=
  signs.reverse.map fun sign => .operator sign.1

@[simp] theorem signTokens_nil : signTokens [] = [] := rfl

@[simp] theorem signTokens_cons (sign : Operator × Nat) (signs : List (Operator × Nat)) :
    signTokens (sign :: signs) = signTokens signs ++ [.operator sign.1] := by
  simp [signTokens]

/-- The tokens spell the beginning of an item: its waiting operands and signs. -/
structure Layer.ItemSpells (layer : Layer) (ts : List Token) : Prop where
  lefts : ∃ ts', LeftsSpell layer.lefts ts' ∧ ts = ts' ++ signTokens layer.signs
  signs : ∀ sign ∈ layer.signs, sign.1.isSign

/-- The tokens spell what has been read in a layer, up to the last operand. -/
structure Layer.Spells (layer : Layer) (ts : List Token) : Prop where
  parts : ∃ ts₁ ts₂, ItemsSpell layer.items ts₁ ∧ layer.ItemSpells ts₂ ∧ ts = ts₁ ++ ts₂
  items : layer.surrounding.takesItems = false → layer.items = []

/-- The tokens of the last operand, as far as it has been read. -/
def Progress.Spells (ts : List Token) : Progress → Prop
  | .wanting => ts = []
  | .path keys _ _ => keys ≠ [] ∧ ts = dottedTokens keys
  | .dotted keys _ => keys ≠ [] ∧ ts = dottedTokens keys ++ [.dot]
  | .operand node => Derives .operand ts [node.bare]

/-- The tokens around the innermost parentheses, with the opening one.  The layer
of the root has no parentheses of its own. -/
inductive Around (root : Surrounding) : Surrounding → List Layer → List Token → Prop
  | root : Around root root [] []
  | group {parent : Layer} {outer : List Layer} {ts ts' : List Token} :
      Around root parent.surrounding outer ts → parent.Spells ts' →
      Around root .group (parent :: outer) (ts ++ (ts' ++ [.opening]))
  | call {parent : Layer} {outer : List Layer} {ts ts' : List Token} {name : String}
      {start : Nat} : Around root parent.surrounding outer ts → parent.Spells ts' →
      Around root (.call name start) (parent :: outer) (ts ++ (ts' ++ [.name name, .opening]))

/-- The tokens spell what a reader has read. -/
def Reader.Spells (root : Surrounding) (reader : Reader) (ts : List Token) : Prop :=
  ∃ ts₁ ts₂ ts₃, Around root reader.layer.surrounding reader.outer ts₁ ∧ reader.layer.Spells ts₂ ∧
    reader.progress.Spells ts₃ ∧ ts = ts₁ ++ (ts₂ ++ ts₃)

/-- No call of `import` has been faulty. -/
structure Reader.Faultless (reader : Reader) : Prop where
  layer : reader.layer.fault = none
  outer : ∀ layer ∈ reader.outer, layer.fault = none

/-! ### Completing operands -/

theorem applySigns_derives {signs : List (Operator × Nat)} {node : Node} {ts : List Token}
    (hsigns : ∀ sign ∈ signs, sign.1.isSign) (h : Derives .signed ts [node.bare]) :
    Derives .signed (signTokens signs ++ ts) [(applySigns source signs node).bare] := by
  induction signs generalizing node ts with
  | nil => exact h
  | cons sign signs ih =>
    obtain ⟨op, start⟩ := sign
    have hop : op ∈ [.not, .minus] := (Operator.isSign_iff op).1 (hsigns _ (List.mem_cons_self ..))
    have hsigned : Derives .signed (.operator op :: ts)
        [(Node.signed (source.span start node.span.stop) op node).bare] := .sign hop h
    rw [signTokens_cons, List.append_assoc]
    exact ih (fun sign hsign => hsigns sign (List.mem_cons_of_mem _ hsign)) hsigned

/-- Completing the waiting operands of a level gives an expression of the level. -/
theorem LeftsSpell.reduce {lefts lefts' : List (Node × Operator)} {node node' : Node}
    {ts ts' : List Token} {level level' : Nat} (h : LeftsSpell lefts ts)
    (hlefts : ∀ left ∈ lefts, left.2.strength ≤ level')
    (hnode : Derives (.level level') ts' [node.bare]) (hle : level ≤ level') (hlevel : level' ≤ 6)
    (hreduce : Stencil.reduce source (level + 1) lefts node = (lefts', node')) :
    ∃ ts₁ ts₂, LeftsSpell lefts' ts₁ ∧ (∀ left ∈ lefts', left.2.strength ≤ level) ∧
      Derives (.level level) ts₂ [node'.bare] ∧ ts ++ ts' = ts₁ ++ ts₂ := by
  induction h generalizing node ts' level' with
  | nil =>
    cases hreduce
    exact ⟨[], ts', .nil, by simp, hnode.weaken hle hlevel, rfl⟩
  | @cons lefts left op level₁ ts ts₁ hspell hstrengths hop hleft ih =>
    have hop' : op.strength ≤ level' := hlefts _ (List.mem_cons_self ..)
    rw [Stencil.reduce] at hreduce
    split at hreduce
    · -- The operator completes its operands, which make an expression of its level.
      have hbinary : Derives (.level level₁) (ts₁ ++ .operator op :: ts')
          [(Node.binary (source.span left.span.start node.span.stop) op left node).bare] :=
        .binary ((Operator.mem_atLevel_iff op level₁).2 hop) hleft
          (hnode.weaken (by omega) hlevel)
      obtain ⟨ts₂, ts₃, hspell', hstrengths', hnode', hts⟩ :=
        ih hstrengths hbinary (by omega) (by omega) hreduce
      refine ⟨ts₂, ts₃, hspell', hstrengths', hnode', ?_⟩
      rw [← hts]
      simp
    · cases hreduce
      refine ⟨_, ts', .cons hspell hstrengths hop hleft, ?_, hnode.weaken hle hlevel, rfl⟩
      intro waiting hwaiting
      rcases List.mem_cons.1 hwaiting with rfl | hwaiting
      · dsimp only
        omega
      · exact Nat.le_trans (hstrengths waiting hwaiting) (by omega)

/-- Waiting operands have operators of some strength. -/
theorem LeftsSpell.eq_nil {lefts : List (Node × Operator)} {ts : List Token}
    (h : LeftsSpell lefts ts) (hlefts : ∀ left ∈ lefts, left.2.strength ≤ 0) :
    lefts = [] ∧ ts = [] := by
  cases h with
  | nil => exact ⟨rfl, rfl⟩
  | cons _ _ hop _ =>
    have hop' := hlefts _ (List.mem_cons_self ..)
    dsimp only at hop'
    omega

/-- An operand with what waits for it makes an expression of a level. -/
theorem Layer.ItemSpells.reduce {layer : Layer} {ts ts' : List Token} {node : Node} {level : Nat}
    (h : layer.ItemSpells ts) (hnode : Derives .operand ts' [node.bare]) (hlevel : level ≤ 6)
    {lefts : List (Node × Operator)} {whole : Node}
    (hreduce : Stencil.reduce source (level + 1) layer.lefts
      (applySigns source layer.signs node) = (lefts, whole)) :
    ∃ ts₁ ts₂, LeftsSpell lefts ts₁ ∧ (∀ left ∈ lefts, left.2.strength ≤ level) ∧
      Derives (.level level) ts₂ [whole.bare] ∧ ts ++ ts' = ts₁ ++ ts₂ := by
  obtain ⟨ts₁, hlefts, rfl⟩ := h.lefts
  have hsigned : Derives (.level 6) (signTokens layer.signs ++ ts')
      [(applySigns source layer.signs node).bare] :=
    .unmixed (applySigns_derives h.signs (.unsigned hnode))
  have hstrengths : ∀ left ∈ layer.lefts, left.2.strength ≤ 6 := by
    intro left _
    cases left.2 <;> decide
  rw [List.append_assoc]
  exact hlefts.reduce hstrengths hsigned hlevel (Nat.le_refl 6) hreduce

/-- The expression that an operand completes. -/
theorem Layer.ItemSpells.complete {layer : Layer} {ts ts' : List Token} {node : Node}
    (h : layer.ItemSpells ts) (hnode : Derives .operand ts' [node.bare]) :
    Derives .expression (ts ++ ts') [(layer.complete source node).bare] := by
  obtain ⟨⟨lefts, whole⟩, hreduce⟩ : ∃ result, Stencil.reduce source (0 + 1) layer.lefts
    (applySigns source layer.signs node) = result := ⟨_, rfl⟩
  obtain ⟨ts₁, ts₂, hlefts, hstrengths, hwhole, hts⟩ := h.reduce hnode (by omega) hreduce
  obtain ⟨rfl, rfl⟩ := hlefts.eq_nil hstrengths
  rw [hts, Layer.complete_eq hreduce]
  exact hwhole

/-! ### Items -/

/-- Complete items and a series behind them make a series. -/
theorem ItemsSpell.series {items : List Node} {ts ts' : List Token} {es : List Node}
    (h : ItemsSpell items ts) (hseries : Derives .series ts' es) :
    Derives .series (ts ++ ts') (items.reverse.map Node.bare ++ es) := by
  induction h generalizing ts' es with
  | nil => exact hseries
  | cons _ hitem ih =>
    have hmore := ih (.more hitem hseries)
    simpa using hmore

/-- Complete items make a list that ends in a comma, or an empty one. -/
theorem ItemsSpell.derives {items : List Node} {ts : List Token} (h : ItemsSpell items ts) :
    Derives .items ts (items.reverse.map Node.bare) := by
  cases h with
  | nil => exact .noItems
  | cons hitems hitem =>
    have hseries := Derives.trailing (hitems.series (.single hitem))
    simpa using hseries

theorem Layer.atItem_iff {layer : Layer} : layer.atItem ↔ layer.lefts = [] ∧ layer.signs = [] := by
  simp [atItem]

/-- Between two items, a layer has read complete items. -/
theorem Layer.Spells.items_of_atItem {layer : Layer} {ts : List Token} (h : layer.Spells ts)
    (hatItem : layer.atItem) : ItemsSpell layer.items ts := by
  obtain ⟨ts₁, ts₂, hitems, hitem, rfl⟩ := h.parts
  obtain ⟨ts₃, hlefts, rfl⟩ := hitem.lefts
  obtain ⟨hnone, hsigns⟩ := Layer.atItem_iff.1 hatItem
  rw [hnone] at hlefts
  cases hlefts
  simpa [hsigns] using hitems

theorem Layer.Spells.of_items {layer : Layer} {ts : List Token} (h : ItemsSpell layer.items ts)
    (hlefts : layer.lefts = []) (hsigns : layer.signs = [])
    (hitems : layer.surrounding.takesItems = false → layer.items = []) : layer.Spells ts := by
  refine ⟨⟨ts, [], h, ⟨⟨[], ?_, ?_⟩, ?_⟩, (List.append_nil ts).symm⟩, hitems⟩
  · rw [hlefts]
    exact .nil
  · simp [hsigns]
  · simp [hsigns]

/-- A layer that has just been opened has read nothing. -/
theorem Layer.spells_open (surrounding : Surrounding) : (Layer.open surrounding).Spells [] :=
  .of_items .nil rfl rfl fun _ => rfl

/-- The items that an operand completes. -/
theorem Layer.Spells.endItem {layer : Layer} {ts ts' : List Token} {node : Node}
    (h : layer.Spells ts) (hnode : Derives .operand ts' [node.bare]) :
    ∃ ts₁ ts₂, ItemsSpell layer.items ts₁ ∧
      Derives .expression ts₂ [(layer.complete source node).bare] ∧ ts ++ ts' = ts₁ ++ ts₂ := by
  obtain ⟨ts₁, ts₂, hitems, hitem, rfl⟩ := h.parts
  exact ⟨ts₁, ts₂ ++ ts', hitems, hitem.complete hnode, List.append_assoc ..⟩

/-- The list that an operand ends. -/
theorem Layer.Spells.derives {layer : Layer} {ts ts' : List Token} {node : Node}
    (h : layer.Spells ts) (hnode : Derives .operand ts' [node.bare]) :
    Derives .items (ts ++ ts') ((layer.endItem source node).items.reverse.map Node.bare) := by
  obtain ⟨ts₁, ts₂, hitems, hexpression, hts⟩ := h.endItem hnode
  have hseries := hitems.series (.single (hexpression : Derives .expression ts₂
    [(layer.complete source node).bare]))
  rw [hts]
  simpa [Layer.endItem] using Derives.items hseries

/-! ### Operands -/

theorem Reader.derives_of_operand? {reader : Reader} {node : Node} {ts : List Token}
    (h : reader.progress.Spells ts) (hnode : reader.operand? source = some node) :
    Derives .operand ts [node.bare] := by
  obtain ⟨progress, layer, outer⟩ := reader
  cases progress with
  | wanting | dotted => cases hnode
  | path keys start stop =>
    cases hnode
    obtain ⟨hkeys, rfl⟩ := h
    exact .path hkeys
  | operand operand =>
    cases hnode
    exact h

theorem derives_of_constant? {token : Token} {value : Literal}
    (h : token.constant? = some value) (span : Span) :
    Derives .operand [token] [(Node.literal span value).bare] := by
  cases token with
  | int value' | double value' | text value' | truth value' =>
    cases h
    constructor
  | _ => cases h

/-- A call without a fault is derived with its arguments. -/
theorem callNode_derives {span : Span} {name : String} {arguments : List Node} {ts : List Token}
    (h : Derives .items ts (arguments.map Node.bare))
    (hfault : (callNode span name arguments).2 = none) :
    Derives .operand (.name name :: .opening :: ts ++ [.closing])
      [(callNode span name arguments).1.bare] := by
  unfold callNode at hfault ⊢
  split
  · rename_i hname
    subst hname
    split
    · exact .imported h
    · simp at hfault
  · rename_i hname
    rw [Node.bare_tag]
    exact .call hname h

/-! ### Steps of a layer -/

namespace Layer

variable {layer : Layer} {node : Node} {ts ts' : List Token}

/-- The layer behind an infix operator spells what comes before it. -/
theorem Spells.infixOp (h : layer.Spells ts) (hnode : Derives .operand ts' [node.bare])
    {op : Operator} (hop : 0 < op.strength) :
    (layer.infixOp source node op).Spells (ts ++ (ts' ++ [.operator op])) := by
  obtain ⟨level, hlevel⟩ : ∃ level, op.strength = level + 1 := ⟨op.strength - 1, by omega⟩
  have hsix : op.strength ≤ 6 := by cases op <;> decide
  obtain ⟨ts₁, ts₂, hitems, hitem, rfl⟩ := h.parts
  obtain ⟨⟨lefts, left⟩, hreduce⟩ : ∃ result, reduce source (level + 1) layer.lefts
    (applySigns source layer.signs node) = result := ⟨_, rfl⟩
  obtain ⟨ts₃, ts₄, hlefts, hstrengths, hleft, hts⟩ := hitem.reduce hnode (by omega) hreduce
  have hlayer : layer.infixOp source node op =
      { layer with lefts := (left, op) :: lefts, signs := [] } := by
    rw [Layer.infixOp, hlevel, hreduce]
  rw [hlayer]
  refine ⟨⟨ts₁, ts₃ ++ (ts₄ ++ [.operator op]), hitems,
    ⟨⟨_, ?_, (List.append_nil _).symm⟩, ?_⟩, ?_⟩, h.items⟩
  · exact .cons hlefts hstrengths hlevel hleft
  · simp
  · calc ts₁ ++ ts₂ ++ (ts' ++ [.operator op])
        = ts₁ ++ ((ts₂ ++ ts') ++ [.operator op]) := by simp only [List.append_assoc]
      _ = ts₁ ++ (ts₃ ++ (ts₄ ++ [.operator op])) := by rw [hts, List.append_assoc]

/-- The layer behind a comma spells what comes before it. -/
theorem Spells.comma (h : layer.Spells ts) (hnode : Derives .operand ts' [node.bare])
    (hitems : layer.surrounding.takesItems) :
    (layer.endItem source node).Spells (ts ++ (ts' ++ [.comma])) := by
  obtain ⟨ts₁, ts₂, hcomplete, hexpression, hts⟩ : ∃ ts₁ ts₂, ItemsSpell layer.items ts₁ ∧
    Derives .expression ts₂ [(layer.complete source node).bare] ∧ ts ++ ts' = ts₁ ++ ts₂ :=
    h.endItem hnode
  have hspell := ItemsSpell.cons hcomplete hexpression
  rw [← List.append_assoc, ← hts, List.append_assoc] at hspell
  refine .of_items hspell rfl rfl ?_
  intro hnone
  exact absurd (hnone.symm.trans hitems) Bool.false_ne_true

/-- Where one expression has to stand, an operand ends it. -/
theorem Spells.expression (h : layer.Spells ts) (hnode : Derives .operand ts' [node.bare])
    (hitems : layer.surrounding.takesItems = false) :
    Derives .expression (ts ++ ts') [(layer.complete source node).bare] := by
  obtain ⟨ts₁, ts₂, hcomplete, hexpression, hts⟩ : ∃ ts₁ ts₂, ItemsSpell layer.items ts₁ ∧
    Derives .expression ts₂ [(layer.complete source node).bare] ∧ ts ++ ts' = ts₁ ++ ts₂ :=
    h.endItem hnode
  rw [h.items hitems] at hcomplete
  cases hcomplete
  rw [hts]
  exact hexpression

/-- A waiting sign is one more token. -/
theorem Spells.sign (h : layer.Spells ts) {op : Operator} (hop : op.isSign) (start : Nat) :
    Spells { layer with signs := (op, start) :: layer.signs } (ts ++ [.operator op]) := by
  obtain ⟨ts₁, ts₂, hitems, hitem, rfl⟩ := h.parts
  obtain ⟨ts₃, hlefts, rfl⟩ := hitem.lefts
  refine ⟨⟨ts₁, ts₃ ++ signTokens layer.signs ++ [.operator op], hitems,
    ⟨⟨ts₃, hlefts, ?_⟩, ?_⟩, ?_⟩, h.items⟩
  · rw [signTokens_cons, List.append_assoc]
  · intro sign hsign
    rcases List.mem_cons.1 hsign with rfl | hsign
    · exact hop
    · exact hitem.signs sign hsign
  · rw [List.append_assoc]

/-- A fault has no tokens. -/
theorem Spells.fault (h : layer.Spells ts) (fault : Option Span) :
    Spells { layer with fault } ts := by
  obtain ⟨ts₁, ts₂, hitems, hitem, hts⟩ := h.parts
  exact ⟨⟨ts₁, ts₂, hitems, ⟨hitem.lefts, hitem.signs⟩, hts⟩, h.items⟩

end Layer

/-! ### Steps of a reader -/

namespace Reader

variable {root : Surrounding} {reader next : Reader} {lexeme : Lexeme} {ts : List Token}

/-- The items that a reader holds are derived by the tokens between the parentheses. -/
theorem Holds.derives {items : List Node} {ts₁ ts₂ : List Token}
    (h : reader.Holds source items) (hlayer : reader.layer.Spells ts₁)
    (hprogress : reader.progress.Spells ts₂) :
    Derives .items (ts₁ ++ ts₂) (items.map Node.bare) := by
  cases h with
  | operand hnode => exact hlayer.derives (derives_of_operand? hprogress hnode)
  | atItem hwanting hatItem =>
    rw [hwanting] at hprogress
    obtain rfl := hprogress
    rw [List.append_nil]
    exact (hlayer.items_of_atItem hatItem).derives

/-- **One more token is spelled by what a reader holds behind it.** -/
theorem Spells.step (h : reader.Spells root ts) (hstep : reader.Step source lexeme next)
    (hfaultless : next.Faultless) : next.Spells root (ts ++ [lexeme.token]) := by
  obtain ⟨ts₁, ts₂, ts₃, haround, hlayer, hprogress, rfl⟩ := h
  cases hstep with
  | constant hwanting htoken =>
    rw [hwanting] at hprogress
    obtain rfl := hprogress
    exact ⟨ts₁, ts₂, [lexeme.token], haround, hlayer, derives_of_constant? htoken _, by simp⟩
  | name hwanting htoken =>
    rw [hwanting] at hprogress
    obtain rfl := hprogress
    refine ⟨ts₁, ts₂, _, haround, hlayer, ⟨List.cons_ne_nil _ _, rfl⟩, ?_⟩
    simp [dottedTokens, htoken]
  | group hwanting htoken =>
    rw [hwanting] at hprogress
    obtain rfl := hprogress
    refine ⟨_, [], [], .group haround hlayer, Layer.spells_open _, rfl, ?_⟩
    simp [htoken]
  | sign hwanting htoken hop =>
    refine ⟨ts₁, _, [], haround, hlayer.sign hop _, ?_, ?_⟩
    · rw [hwanting]
      rfl
    · rw [hwanting] at hprogress
      obtain rfl := hprogress
      simp [htoken]
  | dot hpath htoken =>
    rw [hpath] at hprogress
    obtain ⟨hkeys, rfl⟩ := hprogress
    refine ⟨ts₁, ts₂, _, haround, hlayer, ⟨hkeys, rfl⟩, ?_⟩
    simp [htoken]
  | member hdotted htoken =>
    rw [hdotted] at hprogress
    obtain ⟨hkeys, rfl⟩ := hprogress
    refine ⟨ts₁, ts₂, _, haround, hlayer, ⟨by simp, rfl⟩, ?_⟩
    simp [dottedTokens_concat hkeys, htoken]
  | call hpath htoken =>
    rw [hpath] at hprogress
    obtain ⟨-, rfl⟩ := hprogress
    refine ⟨_, [], [], .call haround hlayer, Layer.spells_open _, rfl, ?_⟩
    simp [htoken, dottedTokens_cons]
  | infixOp hnode htoken hop =>
    have hoperand := derives_of_operand? hprogress hnode
    refine ⟨ts₁, _, [], haround, hlayer.infixOp hoperand hop, rfl, ?_⟩
    simp [htoken]
  | comma hnode htoken hitems =>
    have hoperand := derives_of_operand? hprogress hnode
    refine ⟨ts₁, _, [], haround, hlayer.comma hoperand hitems, rfl, ?_⟩
    simp [htoken]
  | closeGroup hnode htoken hsurrounding houter =>
    have hexpression : Derives .expression (ts₂ ++ ts₃) [(reader.layer.complete source _).bare] :=
      hlayer.expression (derives_of_operand? hprogress hnode) (by rw [hsurrounding]; rfl)
    rw [hsurrounding, houter] at haround
    cases haround with
    | @group _ _ ts₄ ts₅ haround hparent =>
      refine ⟨ts₄, ts₅, _, haround, hparent.fault _, Derives.group hexpression, ?_⟩
      simp [htoken]
  | @closeCall items name start _ _ hitems htoken hsurrounding houter =>
    have hderives : Derives .items (ts₂ ++ ts₃) (items.map Node.bare) :=
      hitems.derives hlayer hprogress
    have hfault : (callNode (source.span start lexeme.stop) name items).2 = none := by
      have hnone := hfaultless.layer
      simp only [Option.or_eq_none_iff] at hnone
      exact hnone.2.2
    rw [hsurrounding, houter] at haround
    cases haround with
    | @call _ _ ts₄ ts₅ _ _ haround hparent =>
      refine ⟨ts₄, ts₅, _, haround, hparent.fault _, callNode_derives hderives hfault, ?_⟩
      simp [htoken]

/-! ### Faults -/

/-- A fault is never forgotten. -/
theorem Faultless.of_step (hstep : reader.Step source lexeme next) (h : next.Faultless) :
    reader.Faultless := by
  -- A parenthesis that opens puts the layers behind a new one.
  have henter {surrounding : Surrounding} (h : (reader.enter surrounding).Faultless) :
      reader.Faultless :=
    ⟨h.outer _ (List.mem_cons_self ..),
      fun layer hlayer => h.outer layer (List.mem_cons_of_mem _ hlayer)⟩
  -- One that closes hands the fault of its layer on.
  have hclose {parent : Layer} {outer : List Layer} (houter : reader.outer = parent :: outer)
      (hlayer : reader.layer.fault = none) (hparent : parent.fault = none)
      (h : ∀ layer ∈ outer, layer.fault = none) : reader.Faultless := by
    refine ⟨hlayer, ?_⟩
    rw [houter]
    exact List.forall_mem_cons.2 ⟨hparent, h⟩
  cases hstep with
  | group | call => exact henter h
  | closeGroup _ _ _ houter =>
    obtain ⟨hparent, hlayer⟩ := Option.or_eq_none_iff.1 h.layer
    exact hclose houter hlayer hparent h.outer
  | closeCall _ _ _ houter =>
    obtain ⟨hparent, hrest⟩ := Option.or_eq_none_iff.1 h.layer
    exact hclose houter (Option.or_eq_none_iff.1 hrest).1 hparent h.outer
  | _ => exact ⟨h.layer, h.outer⟩

theorem Faultless.of_readAll {lexemes : List Lexeme}
    (hread : readAll source reader lexemes = some next) (h : next.Faultless) :
    reader.Faultless := by
  induction lexemes generalizing reader with
  | nil =>
    obtain rfl := Option.some.inj hread
    exact h
  | cons lexeme lexemes ih =>
    obtain ⟨reader', hstep, hread⟩ := Option.bind_eq_some_iff.1 hread
    exact (ih hread).of_step (step_cases hstep)

/-! ### Whole lists -/

/-- **The tokens that have been read are spelled by what a reader holds.** -/
theorem Spells.readAll {lexemes : List Lexeme} (h : reader.Spells root ts)
    (hread : Reader.readAll source reader lexemes = some next) (hfaultless : next.Faultless) :
    next.Spells root (ts ++ lexemes.map Lexeme.token) := by
  induction lexemes generalizing reader ts with
  | nil =>
    obtain rfl := Option.some.inj hread
    rw [List.map_nil, List.append_nil]
    exact h
  | cons lexeme lexemes ih =>
    obtain ⟨reader', hstep, hread⟩ := Option.bind_eq_some_iff.1 hread
    have hnext := ih (h.step (step_cases hstep) (hfaultless.of_readAll hread)) hread
    rwa [List.append_assoc, List.singleton_append, ← List.map_cons] at hnext

/-- A reader that has read nothing holds nothing. -/
theorem spells_start (root : Surrounding) : (start root).Spells root [] :=
  ⟨[], [], [], .root, Layer.spells_open root, rfl, rfl⟩

/-- Outside all parentheses, the tokens are those of the layer and of the last operand. -/
theorem Spells.of_outer_nil (h : reader.Spells root ts) (houter : reader.outer = []) :
    reader.layer.surrounding = root ∧ ∃ ts₁ ts₂, reader.layer.Spells ts₁ ∧
      reader.progress.Spells ts₂ ∧ ts = ts₁ ++ ts₂ := by
  obtain ⟨progress, layer, outer⟩ := reader
  obtain rfl := houter
  obtain ⟨ts₁, ts₂, ts₃, haround, hlayer, hprogress, rfl⟩ := h
  obtain ⟨hsurrounding, rfl⟩ : layer.surrounding = root ∧ ts₁ = [] := by
    generalize layer.surrounding = surrounding at haround
    cases haround
    exact ⟨rfl, rfl⟩
  exact ⟨hsurrounding, ts₂, ts₃, hlayer, hprogress, rfl⟩

/-- A reader of items that may stop has read a list. -/
theorem Spells.derives_items (h : reader.Spells .list ts) {items : List Node}
    (hitems : reader.items? source = some items) : Derives .items ts (items.map Node.bare) := by
  obtain ⟨houter, hholds⟩ := holds_of_items? hitems
  obtain ⟨-, ts₁, ts₂, hlayer, hprogress, rfl⟩ := h.of_outer_nil houter
  exact hholds.derives hlayer hprogress

/-- A reader of a header that may stop has read one expression. -/
theorem Spells.derives_header (h : reader.Spells .header ts) {items : List Node}
    (hitems : reader.items? source = some items) :
    ∃ item, items = [item] ∧ Derives .expression ts [item.bare] := by
  obtain ⟨houter, -⟩ := holds_of_items? hitems
  obtain ⟨hheader, ts₁, ts₂, hlayer, hprogress, rfl⟩ := h.of_outer_nil houter
  have hnone : reader.layer.surrounding.takesItems = false := by rw [hheader]; rfl
  unfold items? at hitems
  split at hitems
  · rename_i node _ hnode
    cases hitems
    refine ⟨reader.layer.complete source node, ?_, ?_⟩
    · simp [Layer.endItem, hlayer.items hnone]
    · exact hlayer.expression (derives_of_operand? hprogress hnode) hnone
  · simp [hnone] at hitems
  · cases hitems

end Reader

/-! ### Parameter lists -/

namespace ParameterList

variable {list : ParameterList} {surrounding : Surrounding} {lexemes : List Lexeme}

/-- Items are read where a reader is not stuck, no import is faulty and the reader may stop. -/
theorem readItems_eq_ok_iff {items : List Node} :
    list.readItems source surrounding lexemes = .ok items ↔
      ∃ reader, (Reader.start surrounding).readAll source lexemes = some reader ∧
        reader.outerFault = none ∧ reader.items? source = some items := by
  obtain ⟨⟨reader, stuck⟩, hrun⟩ : ∃ result,
    (Reader.start surrounding).run source lexemes = result := ⟨_, rfl⟩
  unfold readItems
  rw [hrun]
  dsimp only
  constructor
  · intro hok
    split at hok
    · cases hok
    · rename_i hfault
      split at hok
      · rename_i hitems
        cases hok
        exact ⟨reader, Reader.run_eq_iff.1 hrun, hfault, hitems⟩
      · cases hok
  · rintro ⟨reader', hread, hfault, hitems⟩
    rw [Reader.run_eq_iff.2 hread] at hrun
    cases hrun
    rw [hfault]
    dsimp only
    rw [hitems]

/-- A reader that may stop, in a list without faulty imports, has read what it spells. -/
theorem spells_of_readItems {items : List Node} {reader : Reader}
    (hread : (Reader.start surrounding).readAll source lexemes = some reader)
    (hfault : reader.outerFault = none) (hitems : reader.items? source = some items) :
    reader.Spells surrounding (lexemes.map Lexeme.token) := by
  obtain ⟨houter, -⟩ := Reader.holds_of_items? hitems
  have hfaultless : reader.Faultless := by
    rw [Reader.outerFault, houter] at hfault
    exact ⟨hfault, by simp [houter]⟩
  exact (Reader.spells_start surrounding).readAll hread hfaultless

/-- **A parameter list is read exactly if its tokens derive its expressions.** -/
theorem exists_read_iff (source : Source) (list : ParameterList) (es : List Node) :
    (∃ nodes, list.read source = .ok nodes ∧ nodes.map Node.bare = es) ↔
      Derives .items (list.lexemes.map Lexeme.token) es := by
  constructor
  · rintro ⟨nodes, hok, rfl⟩
    obtain ⟨reader, hread, hfault, hitems⟩ := readItems_eq_ok_iff.1 hok
    exact (spells_of_readItems hread hfault hitems).derives_items hitems
  · intro h
    obtain ⟨progress, layer, items, hread, -, hfault, hitems, hbare⟩ :=
      (reads_of_derives h rfl : ReadsItems source list.lexemes es) .list [] rfl
    exact ⟨items, readItems_eq_ok_iff.2 ⟨_, hread, hfault, hitems⟩, hbare⟩

/-- The data of a loop are read exactly if their tokens derive them. -/
theorem exists_readItems_header_iff (source : Source) (list : ParameterList)
    (lexemes : List Lexeme) (e : Node) :
    (∃ data, list.readItems source .header lexemes = .ok [data] ∧ data.bare = e) ↔
      Derives .expression (lexemes.map Lexeme.token) [e] := by
  constructor
  · rintro ⟨data, hok, rfl⟩
    obtain ⟨reader, hread, hfault, hitems⟩ := readItems_eq_ok_iff.1 hok
    obtain ⟨item, hitem, hderives⟩ :=
      (spells_of_readItems hread hfault hitems).derives_header hitems
    cases hitem
    exact hderives
  · intro h
    obtain ⟨progress, node, lefts, signs, whole, hread, hnode, hreduce, hbare⟩ :=
      (reads_of_derives h rfl : ∀ e', [e] = [e'] → ReadsLevel source 0 lexemes e') e rfl
        (Layer.open .header) [] ⟨rfl, by simp [Layer.open]⟩
    refine ⟨whole, readItems_eq_ok_iff.2 ⟨_, hread, rfl, ?_⟩, hbare⟩
    have hcomplete : Layer.complete source { Layer.open .header with lefts, signs } node = whole :=
      Layer.complete_eq hreduce
    have hnode' : Reader.operand? source ⟨progress, { Layer.open .header with lefts, signs }, []⟩ =
        some node := hnode
    rw [Reader.items?, hnode']
    dsimp only
    rw [Layer.endItem, hcomplete]
    rfl

/-- **The header of a loop is read exactly if it is a name, `in` and an expression.** -/
theorem exists_readHeader_iff (source : Source) (list : ParameterList) (key data : Node) :
    (∃ key' data', list.readHeader source = .ok (key', data') ∧ key'.bare = key ∧
        data'.bare = data) ↔
      ∃ name ts, list.lexemes.map Lexeme.token = .name name :: .inWord :: ts ∧
        key = .path default [name] ∧ Derives .expression ts [data] := by
  constructor
  · rintro ⟨key', data', hok, rfl, rfl⟩
    unfold readHeader at hok
    split at hok
    · cases hok
    · rename_i name start stop rest hlexemes
      split at hok
      · cases hok
      · rename_i rest
        split at hok
        · cases hok
        · rename_i hitems
          cases hok
          refine ⟨name, rest.map Lexeme.token, by rw [hlexemes]; rfl, rfl, ?_⟩
          exact (exists_readItems_header_iff source list rest _).1 ⟨_, hitems, rfl⟩
        · cases hok
      · cases hok
    · cases hok
  · rintro ⟨name, ts, htokens, rfl, hderives⟩
    obtain ⟨word, rest, hlexemes, hword, hrest⟩ := List.map_eq_cons_iff.1 htokens
    obtain ⟨inWord, rest, rfl, hinWord, rfl⟩ := List.map_eq_cons_iff.1 hrest
    obtain ⟨data', hitems, rfl⟩ := (exists_readItems_header_iff source list rest data).2 hderives
    obtain ⟨token, start, stop⟩ := word
    obtain ⟨token', start', stop'⟩ := inWord
    obtain rfl := hword
    obtain rfl := hinWord
    refine ⟨.path (source.span start stop) [name], data', ?_, rfl, rfl⟩
    unfold readHeader
    rw [hlexemes]
    dsimp only
    rw [hitems]

/-- **A parameter list is accepted exactly if its tokens derive expressions in the grammar, and
then it is read as these, the only ones; a header of a loop likewise.** -/
theorem read_iff_derives (source : Source) (list : ParameterList) :
    (∀ es, (∃ nodes, list.read source = .ok nodes ∧ nodes.map Node.bare = es) ↔
      Derives .items (list.lexemes.map Lexeme.token) es) ∧
    (∀ es es', Derives .items (list.lexemes.map Lexeme.token) es →
      Derives .items (list.lexemes.map Lexeme.token) es' → es = es') ∧
    (∀ key data, (∃ key' data', list.readHeader source = .ok (key', data') ∧ key'.bare = key ∧
        data'.bare = data) ↔
      ∃ name ts, list.lexemes.map Lexeme.token = .name name :: .inWord :: ts ∧
        key = .path default [name] ∧ Derives .expression ts [data]) := by
  refine ⟨exists_read_iff source list, ?_, exists_readHeader_iff source list⟩
  intro es es' h h'
  obtain ⟨nodes, hread, rfl⟩ := (exists_read_iff source list es).2 h
  obtain ⟨nodes', hread', rfl⟩ := (exists_read_iff source list es').2 h'
  rw [Except.ok.inj (hread.symm.trans hread')]

end ParameterList

end Stencil
