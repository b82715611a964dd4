/-
Heads that are written are recognized.

* **`Head.recognize_writeHead`**, **`Head.recognize_writeCloser`**,
  **`Head.recognize_else`** — the three forms of heads, in front of any text that does
  not go on them;
* **`Head.Has`** — the name and the parameters of a head, which tell what it starts.
-/
import Stencil.Document
import Stencil.Proofs.Printing.Parameters

namespace Stencil.Head

variable {source : Source} {closer : Option String} {name : String} {head : Head}
  {tail : List Char} {ts : List Token} {hasBody : Bool}

/-! ### Recognition -/

/-- A head has a name and the parameters that some tokens spell. -/
structure Has (head : Head) (name : String) (ts : List Token) (hasBody : Bool) : Prop where
  name : head.name = name
  hasBody : head.hasBody = hasBody
  parameters : ∃ list, head.parameters = some list ∧ list.lexemes.map Lexeme.token = ts

theorem cutName_of_not_prefix
    (h : ∀ closer', closer = some closer' → ¬ closer'.toList <+: name.toList) :
    cutName closer name.toList = name.toList := by
  unfold cutName
  split
  · rw [if_neg fun h' => h _ rfl (List.isPrefixOf_iff_prefix.1 h')]
  · rfl

/-- A head is completed by its colon, or at once if none follows. -/
theorem complete_eq (hbody : hasBody → name ≠ "")
    (htail : hasBody = false → name = "" ∨ tail.head? ≠ some ':')
    (parameters : Option ParameterList) (start cursor : Nat) :
    ∃ stop, complete name parameters start cursor ((if hasBody then [':'] else []) ++ tail) =
      (⟨name, parameters, hasBody, start, stop⟩, tail) := by
  have hcolon : colon name ((if hasBody then [':'] else []) ++ tail) = (hasBody, tail) := by
    cases hasBody with
    | true =>
      have hempty : name.isEmpty = false := by simpa using hbody rfl
      simp [colon, hempty]
    | false =>
      change colon name tail = (false, tail)
      unfold colon
      split
      · rcases htail rfl with rfl | h
        · rfl
        · exact absurd rfl h
      · rfl
  refine ⟨if hasBody then cursor + 1 else cursor, ?_⟩
  rw [complete, hcolon]

/-- A head with parameters is recognized. -/
theorem recognize_writeHead {parameters : List Char} (hname : name.toList.all continuesName)
    (hcloser : ∀ closer', closer = some closer' → ¬ closer'.toList <+: name.toList)
    (hwritten : Written parameters ts) (hbody : hasBody → name ≠ "")
    (htail : hasBody = false → name = "" ∨ tail.head? ≠ some ':') (source : Source) (start : Nat) :
    ∃ head : Head, head.Has name ts hasBody ∧
      recognize source closer start (name.toList ++ '(' :: (parameters ++ ')' ::
        ((if hasBody then [':'] else []) ++ tail))) = .ok (some (head, tail)) := by
  obtain ⟨lexemes, closing, htokens, hcollect⟩ := collect_written hwritten source
    (start + 1 + byteLength name.toList) ((if hasBody then [':'] else []) ++ tail)
    (start + 1 + byteLength name.toList + 1) []
  obtain ⟨htake, -⟩ := @Stretch.takeWhile_append_of_head continuesName name.toList
    ('(' :: (parameters ++ ')' :: ((if hasBody then [':'] else []) ++ tail)))
    (List.all_eq_true.1 hname) (by rintro c ⟨⟩; decide)
  obtain ⟨stop, hcomplete⟩ := complete_eq hbody htail (some ⟨lexemes, closing⟩) start (closing + 1)
  -- The name ends at its parenthesis and is not cut at the name that closes a block.
  have hnames : Names closer name.toList
      ('(' :: (parameters ++ ')' :: ((if hasBody then [':'] else []) ++ tail))) := by
    rw [Names, htake, cutName_of_not_prefix hcloser]
  refine ⟨⟨name, some ⟨lexemes, closing⟩, hasBody, start, stop⟩,
    ⟨rfl, rfl, ⟨lexemes, closing⟩, rfl, htokens⟩, ?_⟩
  rw [hnames.recognize_opening, hcollect, String.ofList_toList]
  exact congrArg (fun result => Except.ok (some result)) hcomplete

/-- The head that closes a block is recognized, however the text goes on. -/
theorem recognize_writeCloser (hname : name.toList.all continuesName)
    (htail : tail.head? ≠ some ':' ∧ tail.head? ≠ some '(') (source : Source) (start : Nat) :
    ∃ head : Head, head.name = "end" ++ name ∧
      recognize source (some ("end" ++ name)) start (("end" ++ name).toList ++ tail) =
        .ok (some (head, tail)) := by
  have hend : "end".toList.all continuesName := by decide
  have hchars : ("end" ++ name).toList.all continuesName := by
    rw [String.toList_append, List.all_append, hend, hname]
    rfl
  have hne : ("end" ++ name).toList ≠ [] := by simp
  refine ⟨⟨"end" ++ name, none, false, start,
    start + 1 + byteLength ("end" ++ name).toList⟩, rfl, ?_⟩
  rw [recognize_closer (List.all_eq_true.1 hchars) hne htail.2, complete_of_head?_ne htail.1]

/-- An else is recognized where a chain is open. -/
theorem recognize_else (tail : List Char) (source : Source) (start : Nat) :
    ∃ head : Head, head.name = "else" ∧
      recognize source (some "endif") start ("else:".toList ++ tail) = .ok (some (head, tail)) := by
  obtain ⟨stop, hcomplete⟩ := @complete_eq "else" tail true (by simp) (by simp) none start
    (start + 1 + byteLength "else".toList)
  refine ⟨⟨"else", none, true, start, stop⟩, rfl, ?_⟩
  have htake : ("else".toList ++ ':' :: tail).takeWhile continuesName = "else".toList :=
    (@Stretch.takeWhile_append_of_head continuesName "else".toList (':' :: tail)
      (List.all_eq_true.1 (by decide)) (by rintro c ⟨⟩; decide)).1
  have hnames : Names (some "endif") "else".toList (':' :: tail) := by
    rw [Names, htake]
    rfl
  have hrecognize := hnames.recognize_bare (by simp) source start
  exact hrecognize.trans (congrArg (fun result => Except.ok (some result)) hcomplete)

/-! ### Meaning -/

/-- The parameters of a head are read as what its tokens derive. -/
theorem Has.read (h : head.Has name ts hasBody) {es : List Node} (hderives : Derives .items ts es)
    (source : Source) :
    ∃ list nodes, head.parameters = some list ∧ list.read source = .ok nodes ∧
      nodes.map Node.bare = es := by
  obtain ⟨list, hlist, rfl⟩ := h.parameters
  obtain ⟨nodes, hread, hnodes⟩ := (ParameterList.exists_read_iff source list es).2 hderives
  exact ⟨list, nodes, hlist, hread, hnodes⟩

theorem list_eq {list : ParameterList} (h : head.parameters = some list) :
    head.list source = .ok list := by
  rw [Head.list, h]

theorem Has.single (h : head.Has name ts hasBody) {e : Node} (hderives : Derives .items ts [e])
    (source : Source) : ∃ node, head.single source = .ok node ∧ node.bare = e := by
  obtain ⟨list, nodes, hlist, hread, hnodes⟩ := h.read hderives source
  obtain ⟨node, rfl, he⟩ := List.map_eq_singleton_iff.1 hnodes
  refine ⟨node, ?_, he⟩
  rw [Head.single, list_eq hlist]
  change list.read source >>= _ = _
  rw [hread]
  rfl

theorem Has.literal {text : String} (h : head.Has name [.text text] hasBody) (source : Source) :
    head.literal source = .ok text := by
  obtain ⟨node, hsingle, hnode⟩ := h.single (written_string text).2 source
  obtain ⟨span, rfl⟩ := Node.eq_literal_of_bare hnode
  rw [Head.literal, hsingle]
  rfl

theorem Has.requireBody (h : head.Has name ts true) : head.requireBody source = .ok () := by
  rw [Head.requireBody, if_pos h.hasBody]

theorem Has.forbidBody (h : head.Has name ts false) : head.forbidBody source = .ok () := by
  rw [Head.forbidBody, h.hasBody]
  rfl

theorem Has.interpret_if (h : head.Has "if" ts true) {e : Node} (hderives : Derives .items ts [e])
    (source : Source) :
    ∃ span condition, condition.bare = e ∧
      head.interpret source = .ok (.block (.chain span span [] condition false)) := by
  obtain ⟨condition, hsingle, he⟩ := h.single hderives source
  refine ⟨head.span source, condition, he, ?_⟩
  rw [interpret, h.name]
  change head.single source >>= _ = _
  rw [hsingle]
  change head.requireBody source >>= _ = _
  rw [h.requireBody]
  rfl

theorem Has.interpret_for {key : String} (h : head.Has "for" (.name key :: .inWord :: ts) true)
    {e : Node} (hderives : Derives .expression ts [e]) (source : Source) :
    ∃ span key' data, key'.bare = .path default [key] ∧ data.bare = e ∧
      head.interpret source = .ok (.block (.loop span key' data)) := by
  obtain ⟨list, hlist, htokens⟩ := h.parameters
  obtain ⟨key', data, hread, hkey, hdata⟩ :=
    (ParameterList.exists_readHeader_iff source list _ e).2 ⟨key, ts, htokens, rfl, hderives⟩
  refine ⟨head.span source, key', data, hkey, hdata, ?_⟩
  rw [interpret, h.name]
  change head.list source >>= _ = _
  rw [list_eq hlist]
  change list.readHeader source >>= _ = _
  rw [hread]
  change head.requireBody source >>= _ = _
  rw [h.requireBody]
  rfl

theorem Has.interpret_extend {path : String} (h : head.Has "extend" [.text path] hasBody)
    (source : Source) :
    ∃ span, head.interpret source = .ok (if hasBody then .block (.extend span path [])
      else .node (.extend span path [])) := by
  refine ⟨head.span source, ?_⟩
  rw [interpret, h.name]
  change head.literal source >>= _ = _
  rw [h.literal, ← h.hasBody]
  rfl

theorem Has.interpret_import {path : String} (h : head.Has "import" [.text path] false)
    (source : Source) : ∃ span, head.interpret source = .ok (.node (.imported span path)) := by
  refine ⟨head.span source, ?_⟩
  rw [interpret, h.name]
  change head.literal source >>= _ = _
  rw [h.literal]
  change head.forbidBody source >>= _ = _
  rw [h.forbidBody]
  rfl

theorem Has.interpret_embed (h : head.Has "embed" ts false) {e : Node}
    (hderives : Derives .items ts [e]) (source : Source) :
    ∃ span target, target.bare = e ∧
      head.interpret source = .ok (.node (.embed span target)) := by
  obtain ⟨target, hsingle, he⟩ := h.single hderives source
  refine ⟨head.span source, target, he, ?_⟩
  rw [interpret, h.name]
  change head.single source >>= _ = _
  rw [hsingle]
  change head.forbidBody source >>= _ = _
  rw [h.forbidBody]
  rfl

theorem isContinuation_of_isTagName (h : name = "" ∨ IsTagName name) :
    isContinuation name = false := by
  rcases h with rfl | h
  · rfl
  · have hunknown := h.unknown
    have hcloses : "end".toList.isPrefixOf name.toList = false :=
      Bool.eq_false_iff.2 fun h' => h.closes (List.isPrefixOf_iff_prefix.1 h')
    simp only [List.mem_cons, List.not_mem_nil, or_false, not_or] at hunknown
    rw [isContinuation, hcloses]
    simp [hunknown]

/-- A tag that the language does not know is an ordinary one. -/
theorem interpret_eq_interpretTag (h : head.name = "" ∨ IsTagName head.name) (source : Source) :
    head.interpret source = head.interpretTag source := by
  have hcontinuation := isContinuation_of_isTagName h
  have hunknown : head.name ∉ ["if", "for", "extend", "import", "embed", "export"] := by
    rcases h with h | h
    · rw [h]
      decide
    · exact fun hmem => h.unknown (List.mem_append_left ["else", "elseif"] hmem)
  unfold interpret
  split
  case h_7 => rw [if_neg (Bool.eq_false_iff.1 hcontinuation)]
  all_goals
    rename_i hname
    rw [hname] at hunknown
    exact absurd (by decide) hunknown

theorem Has.interpret_tag (h : head.Has name ts hasBody) (hname : name = "" ∨ IsTagName name)
    {es : List Node} (hderives : Derives .items ts es) (source : Source) :
    ∃ span parameters, parameters.map Node.bare = es ∧
      head.interpret source = .ok (if hasBody then .block (.tag span name parameters)
        else .node (.tag span name parameters none)) := by
  obtain ⟨list, parameters, hlist, hread, hes⟩ := h.read hderives source
  refine ⟨head.span source, parameters, hes, ?_⟩
  rw [interpret_eq_interpretTag (h.name.symm ▸ hname), interpretTag, hlist]
  change list.read source >>= _ = _
  rw [hread, ← h.name, ← h.hasBody]
  rfl

/-- An export with a body declares a name only. -/
theorem Has.interpretExport {text : String} (h : head.Has name [.text text] true)
    (source : Source) : head.interpretExport source = .ok (text, none) := by
  obtain ⟨list, nodes, hlist, hread, hnodes⟩ := h.read (written_string text).2 source
  obtain ⟨node, rfl, hnode⟩ := List.map_eq_singleton_iff.1 hnodes
  obtain ⟨span, rfl⟩ := Node.eq_literal_of_bare hnode
  rw [Head.interpretExport, list_eq hlist]
  change list.read source >>= _ = _
  rw [hread]
  dsimp only [bind, Except.bind]
  rw [h.hasBody]

end Stencil.Head
