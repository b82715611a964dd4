/-
Text behind a closing tag.

A template that ends with the closing tag of a block may go on with raw text.

* **`Builder.addHead_closes`** — what a head can have done that ends a template;
* **`Builder.read_reaches`** — however the text goes on, it is read up to the closing tag
  in the same way;
* **`parse_append_iff`** — the text behind a closing tag is kept as it stands, unless it
  starts with a colon or with an opening parenthesis.

## Design notes

The head of a closing tag is recognized like any other, so a colon or parameters behind
its name belong to it, although nothing asks for them.  The name itself ends where the
closing name ends, whatever characters follow.
-/
import Stencil.Proofs.Blocks
import Stencil.Proofs.Formation
import Stencil.Proofs.Lookahead
import Stencil.Proofs.Places.Extension

namespace Stencil

/-- The name of the tag that closes a node, if it is a block. -/
def Node.closing? : Node → Option String
  | .tag _ name _ (some _) => some ("end" ++ name)
  | .conditional .. => some "endif"
  | .loop .. => some "endfor"
  | .extend .. => some "endextend"
  | _ => none

variable {source : Source} {builder next : Builder} {head : Head} {text : List Char}
  {closer : String}

theorem Node.ne_empty_of_closing? {node : Node} (h : node.closing? = some closer) :
    closer.toList ≠ [] := by
  unfold closing? at h
  split at h <;> cases h
  · rw [String.toList_append]
    exact List.append_ne_nil_of_left_ne_nil (by decide) _
  all_goals decide

/-! ### The head at the end of a template -/

/-- Two ends of a text that start with their only `#` are the same. -/
theorem eq_of_hash_isSuffix {a b : List Char} (ha : '#' :: a <:+ text) (hb : '#' :: b <:+ text)
    (ha' : '#' ∉ a) (hb' : '#' ∉ b) : a = b := by
  rcases List.suffix_or_suffix_of_suffix ha hb with h | h
  · rcases List.suffix_cons_iff.1 h with h | h
    · exact (List.cons.inj h).2
    · exact absurd (h.subset (List.mem_cons_self ..)) hb'
  · rcases List.suffix_cons_iff.1 h with h | h
    · exact (List.cons.inj h).2.symm
    · exact absurd (h.subset (List.mem_cons_self ..)) ha'

theorem getLast?_of_isSuffix {a : List Char} {c : Char} (h : a <:+ text)
    (hc : a.getLast? = some c) : text.getLast? = some c := by
  obtain ⟨before, rfl⟩ := h
  rw [List.getLast?_append, hc]
  rfl

namespace Head

/-- A head that ends where a name could go on is that name. -/
theorem recognize_fills {awaited : Option String} {start : Nat}
    (h : recognize source awaited start text = .ok (some (head, [])))
    (hlast : ∀ c, text.getLast? = some c → continuesName c) :
    head = ⟨String.ofList text, none, false, start, start + 1 + byteLength text⟩ := by
  -- Whatever stood behind the name would end with a closing parenthesis or a colon.
  have hends {c : Char} (hc : continuesName c = false) (hsuffix : [c] <:+ text) : False := by
    obtain ⟨before, rfl⟩ := hsuffix
    have hcontinues := hlast c (by simp)
    rw [hc] at hcontinues
    cases hcontinues
  have hcomplete {name : String} {parameters : Option ParameterList} {cursor : Nat}
      {behind : List Char} (hbehind : complete name parameters start cursor behind = (head, []))
      (hsuffix : behind <:+ text) :
      behind = [] ∧ head = ⟨name, parameters, false, start, cursor⟩ := by
    cases behind with
    | nil => exact ⟨rfl, (congrArg Prod.fst hbehind).symm⟩
    | cons c behind =>
      have hcolon : (colon name (c :: behind)).2 = [] := congrArg Prod.snd hbehind
      unfold colon at hcolon
      split at hcolon
      · rename_i rest heq
        obtain ⟨rfl, rfl⟩ := List.cons.inj heq
        split at hcolon
        · cases hcolon
        · obtain rfl : behind = [] := hcolon
          exact (hends (by decide) hsuffix).elim
      · cases hcolon
  obtain ⟨chars, behind, rfl, -, hhead⟩ := recognize_eq_some h
  rcases hhead with ⟨parameters, list, rest, rfl, hcollect, hbehind⟩ | ⟨-, -, hbehind⟩
  · have hlist : ')' :: rest <:+ chars ++ '(' :: parameters :=
      (collect_isSuffix hcollect).trans ((List.suffix_cons ..).trans (List.suffix_append ..))
    obtain ⟨rfl, -⟩ := hcomplete hbehind ((List.suffix_cons ..).trans hlist)
    exact (hends (by decide) hlist).elim
  · obtain ⟨rfl, hhead⟩ := hcomplete hbehind (List.suffix_append ..)
    rw [hhead, List.append_nil]

/-- The name of a head is a name. -/
theorem name_continues {awaited : Option String} {start : Nat} {rest : List Char}
    (h : recognize source awaited start text = .ok (some (head, rest))) :
    ∀ c ∈ head.name.toList, continuesName c := by
  obtain ⟨chars, behind, rfl, hnames, hhead⟩ := recognize_eq_some h
  have hname : head.name = String.ofList chars := by
    rcases hhead with ⟨_, _, _, -, -, hcomplete⟩ | ⟨-, -, hcomplete⟩
    all_goals exact (congrArg (fun found => found.1.name) hcomplete).symm
  rw [hname, String.toList_ofList]
  exact hnames.continues

/-- A head at the end of a text that ends with a `#` and a name is that name. -/
theorem recognize_at_end {awaited : Option String} {start : Nat} {found : List Char}
    (h : recognize source awaited start found = .ok (some (head, [])))
    (hfound : '#' :: found <:+ text) (hends : '#' :: closer.toList <:+ text)
    (hcloser : closer.toList ≠ []) (hcontinues : ∀ c ∈ closer.toList, continuesName c) :
    found = closer.toList ∧
      head = ⟨closer, none, false, start, start + 1 + byteLength closer.toList⟩ := by
  obtain ⟨last, hlast⟩ : ∃ last, closer.toList.getLast? = some last :=
    ⟨_, List.getLast?_eq_some_getLast hcloser⟩
  have htext : text.getLast? = some last :=
    getLast?_of_isSuffix ((List.suffix_cons ..).trans hends) hlast
  -- The text ends in the middle of a name, so there is no more to the head than its name.
  have hhead : head = ⟨String.ofList found, none, false, start, start + 1 + byteLength found⟩ := by
    refine recognize_fills h fun c hc => ?_
    have htext' : text.getLast? = some c :=
      getLast?_of_isSuffix ((List.suffix_cons ..).trans hfound) hc
    obtain rfl : c = last := Option.some.inj (htext'.symm.trans htext)
    exact hcontinues c (List.mem_of_getLast? hlast)
  have hfound' : ∀ c ∈ found, continuesName c := by
    have hname := name_continues h
    rw [hhead] at hname
    simpa using hname
  have hhash {chars : List Char} (h : ∀ c ∈ chars, continuesName c) : '#' ∉ chars := fun hmem =>
    absurd (h '#' hmem) (by decide)
  obtain rfl : found = closer.toList :=
    eq_of_hash_isSuffix hfound hends (hhash hfound') (hhash hcontinues)
  rw [String.ofList_toList] at hhead
  exact ⟨rfl, hhead⟩

/-- A node that a head starts is no block, unless it extends a template. -/
theorem Starts.closing {node : Node} (h : head.Starts source (.node node))
    (hclosing : node.closing? = some closer) : head.name = "extend" ∧ closer = "endextend" := by
  cases h with
  | extend hname =>
    -- An extension is a node of one kind, with a body and without.
    exact ⟨hname, (Option.some.inj hclosing).symm⟩
  | imported | embed | tag => cases hclosing

end Head

/-- The node that a block becomes is closed by the name of the block. -/
theorem Block.node?_closing {block : Block} {body : List Node} {node : Node}
    (h : block.node? body = some node) : node.closing? = some block.closer := by
  cases block <;> cases h
  all_goals rfl

namespace Builder

/-- If no block is open behind a head, it has added a node: the innermost block, which it
closes, or a node that is no block unless it extends a template. -/
def Closes (builder : Builder) (head : Head) (next : Builder) : Prop :=
  next.outer = [] → ∃ node before, next.siblings = node :: before ∧
    ∀ closer, node.closing? = some closer →
      (builder.closer = some closer ∧ head.name = closer) ∨
        (head.name = "extend" ∧ closer = "endextend")

/-- **A template ends with a block if its last head closes one.** -/
theorem addHead_closes (h : builder.addHead source head = .ok next) :
    builder.Closes head next := by
  intro hnext
  cases addHead_cases h with
  | @start opening hstarts =>
    cases opening with
    | node node => exact ⟨node, builder.siblings, rfl, fun closer h => .inr (hstarts.closing h)⟩
    | block block => cases hnext
  | @close block before outer node houter hname hnode =>
    refine ⟨node, before, rfl, fun closer hcloser => .inl ?_⟩
    obtain rfl : block.closer = closer :=
      Option.some.inj ((Block.node?_closing hnode).symm.trans hcloser)
    exact ⟨by rw [Builder.closer, houter]; rfl, hname⟩
  | elseif | otherwise | exported | exporting | closeExport =>
    -- Where a block stays open, the template does not end.
    cases hnext

/-- Only the name of a head matters where it closes a block. -/
theorem addHead_of_closer {head' : Head} (source' : Source)
    (h : builder.closer = some head.name) (hname : head'.name = head.name) :
    builder.addHead source' head' = builder.addHead source head := by
  unfold addHead
  cases houter : builder.outer with
  | nil =>
    rw [closer, houter] at h
    cases h
  | cons entry outer =>
    obtain ⟨block, before⟩ := entry
    have hcloser : head.name = block.closer := by
      rw [closer, houter] at h
      exact (Option.some.inj h).symm
    dsimp only
    rw [if_pos hcloser, if_pos (hname.trans hcloser)]

/-! ### Reading up to the closing tag -/

theorem read_nil (source : Source) (builder : Builder) (offset : Nat) :
    builder.read source [] offset = builder.finish := by
  rw [read_eq]
  rfl

/-- Raw text behind all blocks is the last node of a template. -/
theorem read_raw (houter : builder.outer = []) (hhash : '#' ∉ text) (source : Source)
    (offset : Nat) :
    builder.read source text offset = .ok (builder.siblings.reverse ++ if text = [] then []
      else [.raw (source.span offset (offset + byteLength text)) (String.ofList text)]) := by
  rw [read_eq, Segment.scan, Segment.scanFrom_raw hhash]
  change builder.addText source _ >>= _ = _
  obtain ⟨siblings, outer⟩ := builder
  obtain rfl : outer = [] := houter
  by_cases htext : text = []
  · subst htext
    simp [addText, finish, bind, Except.bind]
  · simp [addText, finish, htext, add, bind, Except.bind]

/-- A template that is read has a segment, which is the last one or has a head. -/
theorem read_eq_ok {offset : Nat} {nodes : List Node}
    (h : builder.read source text offset = .ok nodes) :
    ∃ segment behind, Segment.scan source builder.closer text offset = .ok segment ∧
      builder.addText source segment = .ok behind ∧
      (segment.head = none ∧ behind.finish = .ok nodes ∨
        ∃ head next, segment.head = some head ∧ behind.addHead source head = .ok next ∧
          next.read source segment.rest head.stop = .ok nodes) := by
  rw [read_eq] at h
  cases hscan : Segment.scan source builder.closer text offset with
  | error error =>
    rw [hscan] at h
    cases h
  | ok segment =>
    rw [hscan] at h
    change builder.addText source segment >>= _ = _ at h
    cases haddText : builder.addText source segment with
    | error error =>
      rw [haddText] at h
      cases h
    | ok behind =>
      rw [haddText] at h
      refine ⟨segment, behind, rfl, haddText, ?_⟩
      cases hhead : segment.head with
      | none =>
        rw [hhead] at h
        exact .inl ⟨rfl, h⟩
      | some head =>
        rw [hhead] at h
        change behind.addHead source head >>= _ = _ at h
        cases haddHead : behind.addHead source head with
        | error error =>
          rw [haddHead] at h
          cases h
        | ok next =>
          rw [haddHead] at h
          exact .inr ⟨head, next, rfl, haddHead, h⟩

/-- A template whose last segment has no head ends with raw text. -/
theorem getLast?_of_addText {segment : Segment} {nodes : List Node} {last : Node}
    (haddText : builder.addText source segment = .ok next) (htext : segment.text ≠ "")
    (hfinish : next.finish = .ok nodes) (hlast : nodes.getLast? = some last) :
    last.closing? = none := by
  obtain ⟨houter, rfl⟩ := finish_eq_ok hfinish
  rcases addText_cases haddText with ⟨rfl, hempty | ⟨hopen, -⟩⟩ | ⟨-, rfl⟩
  · exact absurd (by simpa using hempty) htext
  · exact absurd houter hopen
  · rw [add, List.reverse_cons, List.getLast?_concat] at hlast
    cases hlast
    rfl

/-- A segment with a head that some text follows is read in the same way if more text
follows. -/
theorem read_append_right {offset : Nat} {segment : Segment} {behind : Builder}
    (hat : source.At text offset)
    (hscan : Segment.scan source builder.closer text offset = .ok segment)
    (haddText : builder.addText source segment = .ok behind) (hhead : segment.head = some head)
    (hrest : segment.rest ≠ []) (haddHead : behind.addHead source head = .ok next)
    (tail : List Char) :
    builder.read (source.followedBy tail) (text ++ tail) offset =
      next.read (source.followedBy tail) (segment.rest ++ tail) head.stop := by
  have hsegment : segment.Stands source := Segment.stands_of_scan hat hscan
  obtain ⟨hstands, -⟩ := hsegment.head head hhead
  have hscan' : Segment.scan (source.followedBy tail) builder.closer (text ++ tail) offset =
      .ok { segment with rest := segment.rest ++ tail } :=
    Segment.scan_append_right tail hscan hhead hrest
  have haddText' : builder.addText (source.followedBy tail)
      { segment with rest := segment.rest ++ tail } = .ok behind :=
    (addText_followedBy tail hsegment).trans haddText
  have haddHead' : behind.addHead (source.followedBy tail) head = .ok next :=
    (addHead_followedBy tail hstands).trans haddHead
  rw [read_eq, hscan']
  change builder.addText _ { segment with rest := segment.rest ++ tail } >>= _ = _
  rw [haddText']
  dsimp only [bind, Except.bind]
  rw [hhead]
  dsimp only
  rw [haddHead']

/-- What is left to be read at the closing tag of the last block. -/
structure ReachesCloser (source : Source) (closer : String) (nodes : List Node)
    (read : List Char → Except ParseError (List Node)) (start : Nat) (closed : Builder) : Prop where
  outer : closed.outer = []
  siblings : closed.siblings.reverse = nodes
  /-- The tag ends the template. -/
  stop : start + 1 + byteLength closer.toList = byteLength source.text
  continues : ∀ c ∈ closer.toList, continuesName c
  /-- What follows the tag may be wrong if it is taken for parameters. -/
  error : ∀ tail error, Head.recognize (source.followedBy tail) (some closer) start
    (closer.toList ++ tail) = .error error → read tail = .error error
  ok : ∀ tail head rest, Head.recognize (source.followedBy tail) (some closer) start
    (closer.toList ++ tail) = .ok (some (head, rest)) → head.name = closer →
      read tail = closed.read (source.followedBy tail) rest head.stop

/-- The last segment of a template. -/
theorem read_reaches_last {offset : Nat} {segment : Segment} {behind : Builder}
    {nodes : List Node} {last : Node} (hat : source.At text offset)
    (hscan : Segment.scan source builder.closer text offset = .ok segment)
    (haddText : builder.addText source segment = .ok behind) (hhead : segment.head = some head)
    (hrest : segment.rest = []) (haddHead : behind.addHead source head = .ok next)
    (houter : next.outer = []) (hnodes : next.siblings.reverse = nodes)
    (hlast : nodes.getLast? = some last)
    (hclosing : last.closing? = some closer) (hends : '#' :: closer.toList <:+ source.text) :
    ∃ start, ReachesCloser source closer nodes
      (fun tail => builder.read (source.followedBy tail) (text ++ tail) offset) start next := by
  obtain ⟨hstart, found, done, hfound, htext, hrecognize, hreaches⟩ :=
    Segment.scanFrom_reaches hscan hhead
  rw [hrest] at hrecognize
  have hsegment : segment.Stands source := Segment.stands_of_scan hat hscan
  have hends' : '#' :: found <:+ source.text := hfound.trans hat.isSuffix
  obtain ⟨node, before, hsiblings, hcloses⟩ :=
    addHead_closes haddHead houter
  obtain rfl : node = last := by
    rw [← hnodes, hsiblings, List.reverse_cons, List.getLast?_concat] at hlast
    exact Option.some.inj hlast
  have hcontinues : ∀ c ∈ closer.toList, continuesName c := by
    rcases hcloses closer hclosing with ⟨-, rfl⟩ | ⟨-, rfl⟩
    · exact Head.name_continues hrecognize
    · exact List.all_eq_true.1 (by decide)
  obtain ⟨rfl, hhead'⟩ := Head.recognize_at_end hrecognize hends' hends
    (Node.ne_empty_of_closing? hclosing) hcontinues
  -- The name of the tag is not that of an extension without a body.
  have hcloser : behind.closer = some closer := by
    refine ((hcloses closer hclosing).resolve_right ?_).1
    rintro ⟨hname, rfl⟩
    rw [hhead'] at hname
    exact absurd (show "endextend" = "extend" from hname) (by decide)
  have hcloser' : builder.closer = some closer := by
    rw [← hcloser, Builder.closer, Builder.closer, outer_of_addText haddText]
  have hstop : head.stop = byteLength source.text := by
    obtain ⟨text', htext', hlength⟩ := (hsegment.head head hhead).2
    rw [hrest, List.append_nil] at htext'
    rw [htext', hlength]
  rw [hcloser'] at hreaches
  refine ⟨segment.stop, houter, hnodes, ?_, hcontinues, ?_, ?_⟩
  · rw [← hstop, hhead']
  · intro tail error herror
    rw [read_eq, hcloser', Segment.scan, hreaches, Segment.scanFrom, herror]
    rfl
  · intro tail head' rest hrecognize' hname
    have haddText' : builder.addText (source.followedBy tail)
        ⟨String.ofList done.reverse, offset, segment.stop, some head', rest⟩ = .ok behind := by
      rw [← haddText, ← addText_followedBy tail hsegment, addText, addText, htext, hstart]
    have haddHead' : behind.addHead (source.followedBy tail) head' = .ok next := by
      rw [← haddHead]
      refine addHead_of_closer (source.followedBy tail) ?_ ?_
      · rw [hcloser, hhead']
      · rw [hname, hhead']
    rw [read_eq, hcloser', Segment.scan, hreaches, Segment.scanFrom, hrecognize']
    dsimp only [bind, Except.bind]
    rw [haddText']
    dsimp only
    rw [haddHead']

/-- **However a text goes on behind the closing tag of its last block, it is read up to
that tag in the same way, and the block is closed if the tag is recognized.** -/
theorem read_reaches {offset : Nat} {nodes : List Node} {last : Node}
    (hat : source.At text offset) (htext : text ≠ [])
    (h : builder.read source text offset = .ok nodes) (hlast : nodes.getLast? = some last)
    (hclosing : last.closing? = some closer) (hends : '#' :: closer.toList <:+ source.text) :
    ∃ start closed, ReachesCloser source closer nodes
      (fun tail => builder.read (source.followedBy tail) (text ++ tail) offset) start closed := by
  induction hlength : text.length using Nat.strongRecOn generalizing builder text offset with
  | ind length ih =>
    obtain ⟨segment, behind, hscan, haddText, hcase⟩ := read_eq_ok h
    rcases hcase with ⟨hhead, hfinish⟩ | ⟨head, next, hhead, haddHead, hread⟩
    · -- Without a head, the rest of the template is raw text, so its last node is no block.
      have htext' : segment.text ≠ "" := Segment.scanFrom_text_ne hscan hhead (.inl htext)
      rw [getLast?_of_addText haddText htext' hfinish hlast] at hclosing
      cases hclosing
    · by_cases hrest : segment.rest = []
      · -- Nothing follows the head, so it has to be the closing tag.
        obtain ⟨houter, hnodes⟩ : next.outer = [] ∧ next.siblings.reverse = nodes := by
          rw [hrest, read_nil] at hread
          exact finish_eq_ok hread
        obtain ⟨start, hreaches⟩ := read_reaches_last hat hscan haddText hhead hrest
          haddHead houter hnodes hlast hclosing hends
        exact ⟨start, next, hreaches⟩
      · -- The segment is read in the same way, and so is what follows, by induction.
        have hsegment : segment.Stands source := Segment.stands_of_scan hat hscan
        have hlt : segment.rest.length < text.length :=
          Segment.scan_length hscan (by rw [hhead]; rfl)
        obtain ⟨start, closed, hreaches⟩ :=
          ih _ (hlength ▸ hlt) (hsegment.head head hhead).2 hrest hread rfl
        simp only [← read_append_right hat hscan haddText hhead hrest haddHead] at hreaches
        exact ⟨start, closed, hreaches⟩

end Builder

/-! ### Templates -/

namespace Head

/-- A closing tag takes some of the text along if that starts with a colon or with an
opening parenthesis, or else the text is no parameter list. -/
theorem recognize_closer_ne {tail : List Char} (hcontinues : ∀ c ∈ closer.toList, continuesName c)
    (hne : closer.toList ≠ []) (htail : tail.head? = some ':' ∨ tail.head? = some '(')
    (source : Source) (start : Nat) :
    (∃ error, recognize source (some closer) start (closer.toList ++ tail) = .error error) ∨
      ∃ head rest, recognize source (some closer) start (closer.toList ++ tail) =
        .ok (some (head, rest)) ∧ head.name = closer ∧ rest <:+ tail ∧ rest ≠ tail := by
  rcases htail with htail | htail
  · obtain ⟨rest, rfl⟩ := List.head?_eq_some_iff.1 htail
    have hname : closer.isEmpty = false := by simpa using hne
    have hrecognize := recognize_closer hcontinues hne
      (show (':' :: rest).head? ≠ some '(' by simp) source start
    have hcomplete : complete closer none start (start + 1 + byteLength closer.toList)
        (':' :: rest) = (⟨closer, none, true, start, start + 1 + byteLength closer.toList + 1⟩,
          rest) := by
      simp [complete, colon, hname]
    rw [hcomplete] at hrecognize
    refine .inr ⟨_, rest, hrecognize, rfl, List.suffix_cons .., ?_⟩
    exact fun heq => Nat.succ_ne_self _ (congrArg List.length heq).symm
  · obtain ⟨parameters, rfl⟩ := List.head?_eq_some_iff.1 htail
    rw [(names_closer hcontinues _).recognize_opening, String.ofList_toList]
    split
    · rename_i error _
      exact .inl ⟨error, rfl⟩
    · rename_i list behind hcollect
      refine .inr ⟨_, _, rfl, rfl, ?_⟩
      have hsuffix : (complete closer (some list) start (list.closing + 1) behind).2 <:+
          parameters :=
        (complete_isSuffix ..).trans ((List.suffix_cons ..).trans (collect_isSuffix hcollect))
      refine ⟨hsuffix.trans (List.suffix_cons ..), ?_⟩
      intro heq
      have hlength := (heq ▸ hsuffix).length_le
      exact Nat.not_succ_le_self _ hlength

end Head

/-- What the closing tag leaves is the raw text behind the last block. -/
theorem Builder.ReachesCloser.read_eq {nodes : List Node}
    {read : List Char → Except ParseError (List Node)} {start : Nat} {closed : Builder}
    (h : ReachesCloser source closer nodes read start closed) {tail rest : List Char}
    (hhash : '#' ∉ tail)
    (hrecognize : Head.recognize (source.followedBy tail) (some closer) start
      (closer.toList ++ tail) = .ok (some (head, rest)))
    (hname : head.name = closer) (hrest : rest <:+ tail) :
    read tail = .ok (nodes ++ if rest = [] then []
      else [.raw ((source.followedBy tail).span head.stop (head.stop + byteLength rest))
        (String.ofList rest)]) := by
  have hhash' : '#' ∉ rest := fun hmem => hhash (hrest.subset hmem)
  rw [h.ok tail head rest hrecognize hname, read_raw h.outer hhash', h.siblings]

/-- The text behind the closing tag is kept, exactly if it does not go on the tag. -/
theorem Builder.ReachesCloser.read_eq_iff {nodes : List Node}
    {read : List Char → Except ParseError (List Node)} {start : Nat} {closed : Builder}
    (h : ReachesCloser source closer nodes read start closed) (hcloser : closer.toList ≠ [])
    {tail : List Char} (htail : tail ≠ []) (hhash : '#' ∉ tail) :
    read tail = .ok (nodes ++ [.raw ((source.followedBy tail).span (byteLength source.text)
        (byteLength source.text + byteLength tail)) (String.ofList tail)]) ↔
      tail.head? ≠ some ':' ∧ tail.head? ≠ some '(' := by
  constructor
  · intro hkept
    by_contra hgoes
    have hhead : tail.head? = some ':' ∨ tail.head? = some '(' := by
      by_contra hneither
      exact hgoes (not_or.1 hneither)
    rcases Head.recognize_closer_ne h.continues hcloser hhead (source.followedBy tail) start with
      ⟨error, herror⟩ | ⟨head, rest, hrecognize, hname, hrest, hne⟩
    · have hfails : read tail = .error error := h.error tail error herror
      cases hfails.symm.trans hkept
    · -- Less text is left, so it cannot be the whole of it.
      have hless := h.read_eq hhash hrecognize hname hrest
      have hsame := List.append_cancel_left (Except.ok.inj (hless.symm.trans hkept))
      split at hsame
      · cases hsame
      · have htext := (Node.raw.inj (List.cons.inj hsame).1).2
        exact hne (String.ofList_inj.1 htext)
  · rintro ⟨hcolon, hopening⟩
    have hrecognize := Head.recognize_closer h.continues hcloser hopening
      (source.followedBy tail) start
    rw [Head.complete_of_head?_ne hcolon, h.stop] at hrecognize
    rw [h.read_eq hhash hrecognize rfl (List.suffix_refl _), if_neg htail]

/-- **The text behind the closing tag of the last block is kept as it stands, exactly if
it does not go on the tag.** -/
theorem parse_append_iff {label text rest : String} {nodes : List Node} {last : Node}
    (hparse : parse (.ofString label text) = .ok nodes) (hlast : nodes.getLast? = some last)
    (hclosing : last.closing? = some closer) (hends : '#' :: closer.toList <:+ text.toList)
    (hrest : rest ≠ "") (hhash : '#' ∉ rest.toList) :
    let longer := Source.ofString label (text ++ rest)
    let start := byteLength text.toList
    parse longer =
        .ok (nodes ++ [.raw (longer.span start (start + byteLength rest.toList)) rest]) ↔
      rest.toList.head? ≠ some ':' ∧ rest.toList.head? ≠ some '(' := by
  intro longer start
  have hcloser : closer.toList ≠ [] := Node.ne_empty_of_closing? hclosing
  have htext : text.toList ≠ [] := by
    intro hnil
    rw [hnil] at hends
    cases List.suffix_nil.1 hends
  obtain ⟨opened, closed, hreaches⟩ := Builder.read_reaches
    (Source.at_start (.ofString label text)) htext hparse hlast hclosing hends
  have hrest' : rest.toList ≠ [] := by simpa using hrest
  have hlonger : longer = (Source.ofString label text).followedBy rest.toList := by
    simp only [longer, Source.ofString, Source.followedBy, String.toList_append]
  have hkept := hreaches.read_eq_iff hcloser hrest' hhash
  rw [String.ofList_toList, ← hlonger] at hkept
  have hread : parse longer = Builder.empty.read longer (text.toList ++ rest.toList) 0 := by
    rw [hlonger]
    rfl
  rw [hread]
  exact hkept

/-- The closing tag of the last node, if a template can be read. -/
def lastClosing? (result : Except ParseError (List Node)) : Option String :=
  (result.toOption.bind List.getLast?).bind Node.closing?

theorem exists_of_lastClosing? {result : Except ParseError (List Node)}
    (h : lastClosing? result = some closer) :
    ∃ nodes last, result = .ok nodes ∧ nodes.getLast? = some last ∧
      last.closing? = some closer := by
  cases result with
  | error error => cases h
  | ok nodes =>
    obtain ⟨last, hlast, hclosing⟩ := Option.bind_eq_some_iff.1 h
    exact ⟨nodes, last, rfl, hlast, hclosing⟩

/-- A word that goes on the closing tag of a loop is text, parentheses within it too. -/
theorem parse_append_word :
    let text := "#for(x in xs):-#endfor"
    let rest := "ward(s):"
    let longer := Source.ofString "t" (text ++ rest)
    let start := byteLength text.toList
    ∃ nodes last, parse (.ofString "t" text) = .ok nodes ∧ nodes.getLast? = some last ∧
      last.closing? = some "endfor" ∧ '#' :: "endfor".toList <:+ text.toList ∧ rest ≠ "" ∧
      '#' ∉ rest.toList ∧
      (parse longer =
          .ok (nodes ++ [.raw (longer.span start (start + byteLength rest.toList)) rest]) ↔
        rest.toList.head? ≠ some ':' ∧ rest.toList.head? ≠ some '(') := by
  intro text rest longer start
  have hclosing : lastClosing? (parse (.ofString "t" text)) = some "endfor" := by decide +kernel
  obtain ⟨nodes, last, hparse, hlast, hclosing⟩ := exists_of_lastClosing? hclosing
  have hends : '#' :: "endfor".toList <:+ text.toList := by decide
  have hrest : rest ≠ "" := by decide
  have hhash : '#' ∉ rest.toList := by decide
  refine ⟨nodes, last, hparse, hlast, hclosing, hends, hrest, hhash, ?_⟩
  exact parse_append_iff hparse hlast hclosing hends hrest hhash

/-- The raw text at the end of a template, if it can be read. -/
def lastText? (result : Except ParseError (List Node)) : Option String :=
  match result.toOption.bind List.getLast? with
  | some (.raw _ text) => some text
  | _ => none

/-- A colon behind a closing tag is lost. -/
theorem parse_append_colon :
    let text := "#if(a):x#endif"
    let rest := ": y"
    let longer := Source.ofString "t" (text ++ rest)
    let start := byteLength text.toList
    ∃ nodes last, parse (.ofString "t" text) = .ok nodes ∧ nodes.getLast? = some last ∧
      last.closing? = some "endif" ∧ '#' :: "endif".toList <:+ text.toList ∧ rest ≠ "" ∧
      '#' ∉ rest.toList ∧
      parse longer ≠
        .ok (nodes ++ [.raw (longer.span start (start + byteLength rest.toList)) rest]) := by
  intro text rest longer start
  have hclosing : lastClosing? (parse (.ofString "t" text)) = some "endif" := by decide +kernel
  obtain ⟨nodes, last, hparse, hlast, hclosing⟩ := exists_of_lastClosing? hclosing
  have hlost : lastText? (parse longer) = some " y" := by decide +kernel
  refine ⟨nodes, last, hparse, hlast, hclosing, by decide, by decide, by decide, ?_⟩
  intro hkept
  have hkept' : lastText? (parse longer) = some rest := by
    rw [hkept, lastText?, Except.toOption, Option.bind_some, List.getLast?_concat]
  rw [hlost] at hkept'
  exact absurd (Option.some.inj hkept') (by decide)

end Stencil
