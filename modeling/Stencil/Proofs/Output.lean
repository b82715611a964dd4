/-
Expressions that are put out.

A template can be a tag without a name around an expression.  It is read as that tag, and
what it puts out is the value of the expression, written the way values are.

* **`parse_expression`** — the template is read as the tag;
* **`Denotes`** — an expression stands for a value, wherever it is written;
* **`Session.renderInline_of_parseBytes`** — a template that is given as text, and has no
  need of others, is rendered as it is read;
* **`Session.putOut_of_denotes`** — the value of the expression is put out.

## Design notes

The grammar tells an expression without its places, and these make no difference to its
value.  So `Denotes` is about a bare node, and speaks of all the nodes that this one belongs
to.
-/
import Stencil.Proofs.Evaluation
import Stencil.Proofs.Idempotence
import Stencil.Proofs.Membership
import Stencil.Proofs.Printing.Scanner
import Stencil.Session

namespace Stencil

/-! ### The template is read -/

/-- A text whose tokens derive an expression is read, between the parentheses of a tag without
a name, as that expression. -/
theorem parse_expression {text : List Char} {ts : List Token} {expression : Node}
    (hwritten : Written text ts) (hderives : Derives .expression ts [expression])
    (label : String) :
    ∃ span node, node.bare = expression ∧
      parse ⟨label, writeHead "" text false⟩ = .ok [.tag span "" [node] none] := by
  let source : Source := ⟨label, writeHead "" text false⟩
  have htakes : (Scanner.fresh .empty 0).TakesNodes := by
    intro entry hentry
    cases hentry
  obtain ⟨head, before, hhead, hheld, hread⟩ := @Scanner.read_start (.fresh .empty 0)
    [] text ts "" false htakes rfl (by decide) hwritten (by simp) (fun _ => .inl rfl) source
  obtain ⟨span, parameters, hparameters, hinterpret⟩ :=
    hhead.interpret_tag (.inl rfl) (.items (.single hderives)) source
  obtain ⟨node, rfl, hnode⟩ := List.map_eq_singleton_iff.1 hparameters
  -- Nothing stands in front of the tag, and nothing follows it.
  have hbefore : before = [] := List.reverse_eq_nil_iff.1 (List.map_eq_nil_iff.1 hheld)
  refine ⟨span, node, hnode, ?_⟩
  have htag := hread _ hinterpret
  rw [List.append_nil, Scanner.read_fresh, hbefore] at htag
  refine htag.trans ?_
  rw [Builder.read_eq]
  rfl

/-- The bytes of a text are read as its characters. -/
theorem parseBytes_toUTF8 (text label : String) :
    parseBytes text.toUTF8 label = parse ⟨label, text.toList⟩ := by
  have hdecode : String.fromUTF8? text.toUTF8 = some text := dif_pos text.isValidUTF8
  rw [parseBytes, hdecode]
  rfl

/-! ### The values of expressions -/

section

variable {setting : Setting} {stored : Stores} {scopes : Scopes} {x y z : Value} {op : Operator}

/-- An expression with a sign stands for what the sign makes of the value of its operand. -/
theorem standsFor_signed {operand : Node} (h : StandsFor setting stored scopes operand x)
    (happly : applySign op x = .ok z) (span : Span) :
    StandsFor setting stored scopes (.signed span op operand) z := by
  obtain ⟨found, hfound, rfl⟩ := h
  have hblame : blame span (applySign op found.toValue) = .ok z := congrArg (blame span) happly
  refine ⟨.value z, ?_, rfl⟩
  rw [rendition, hfound]
  show blame span (applySign op found.toValue) >>= _ = _
  rw [hblame]
  rfl

/-- An expression with an infix operator that needs both of its operands stands for what the
operator makes of their values. -/
theorem standsFor_binary {left right : Node} (h : StandsFor setting stored scopes left x)
    (h' : StandsFor setting stored scopes right y) (hop : op ≠ .and ∧ op ≠ .or)
    (happly : applyBinary op x y = .ok z) (span : Span) :
    StandsFor setting stored scopes (.binary span op left right) z := by
  obtain ⟨found, hfound, rfl⟩ := h
  obtain ⟨found', hfound', rfl⟩ := h'
  have hblame : blame span (applyBinary op found.toValue found'.toValue) = .ok z :=
    congrArg (blame span) happly
  refine ⟨.value z, ?_, rfl⟩
  rw [rendition, hfound, hfound']
  simp only [hop.1, hop.2]
  show blame span (applyBinary op found.toValue found'.toValue) >>= _ = _
  rw [hblame]
  rfl

/-- A node puts out the value that it stands for. -/
theorem StandsFor.renderAll_eq {node : Node} (h : StandsFor setting stored scopes node x) :
    renderAll setting stored scopes [node] = Rendition.write stored scopes x := by
  obtain ⟨found, hfound, rfl⟩ := h
  rw [renderAll_singleton, hfound, Evaluator.write_toValue]
  rfl

end

/-- An expression needs no other template, and stands for a value wherever it is written in a
template for a context. -/
def Denotes (context : Value) (expression : Node) (value : Value) : Prop :=
  ∀ node : Node, node.bare = expression → node.isResolved ∧
    ∀ (setting : Setting) (stored : Stores), setting.context = context →
      StandsFor setting stored [] node value

section

variable {context x y z : Value} {e e' : Node} {op : Operator}

theorem denotes_literal (context : Value) (value : Literal) :
    Denotes context (.literal default value) value.toValue := by
  intro node hnode
  obtain ⟨span, rfl⟩ := Node.eq_literal_of_bare hnode
  exact ⟨rfl, fun setting stored _ => ⟨.value value.toValue, rfl, rfl⟩⟩

theorem denotes_path (context : Value) (keys : List String) :
    Denotes context (.path default keys) (lookupPath [] context keys) := by
  intro node hnode
  obtain ⟨span, rfl⟩ := Node.eq_path_of_bare hnode
  refine ⟨rfl, ?_⟩
  rintro setting stored rfl
  exact ⟨.value (lookupPath [] setting.context keys), rfl, rfl⟩

theorem Denotes.signed (h : Denotes context e x) (happly : applySign op x = .ok z) :
    Denotes context (.signed default op e) z := by
  intro node hnode
  obtain ⟨span, operand, rfl, hoperand⟩ := Node.eq_signed_of_bare hnode
  obtain ⟨hresolved, hstands⟩ := h operand hoperand
  exact ⟨hresolved, fun setting stored hcontext =>
    standsFor_signed (hstands setting stored hcontext) happly span⟩

theorem Denotes.binary (h : Denotes context e x) (h' : Denotes context e' y)
    (hop : op ≠ .and ∧ op ≠ .or) (happly : applyBinary op x y = .ok z) :
    Denotes context (.binary default op e e') z := by
  intro node hnode
  obtain ⟨span, left, right, rfl, hleft, hright⟩ := Node.eq_binary_of_bare hnode
  obtain ⟨hresolved, hstands⟩ := h left hleft
  obtain ⟨hresolved', hstands'⟩ := h' right hright
  refine ⟨Bool.and_eq_true_iff.2 ⟨hresolved, hresolved'⟩, fun setting stored hcontext => ?_⟩
  exact standsFor_binary (hstands setting stored hcontext) (hstands' setting stored hcontext) hop
    happly span

end

/-! ### The template is rendered -/

namespace Session

/-- A template that is given as text and is resolved as it is read is rendered as it is
read. -/
theorem renderInline_of_parseBytes {session : Session} {bytes : ByteArray} {label : Option String}
    {nodes : List Node} (hparse : parseBytes bytes (label.getD inlineLabel) = .ok nodes)
    (hresolved : ∀ node ∈ nodes, node.isResolved) (context : Value) :
    (session.perform (.renderInline bytes label (.ok context))).answer =
      .text ((render (session.setting context) storedDepth nodes).mapError .render) := by
  have hcompose : (session.resolveInline bytes label).result = .ok nodes := by
    have hread : (session.sources.read bytes (label.getD inlineLabel)).result = .ok nodes :=
      Sources.read_result_eq_ok_iff.2 hparse
    refine Traced.bind_result_eq_ok_iff.2 ⟨nodes, hread, ?_⟩
    rw [compose_of_allResolved hresolved]
  show Answer.text (session.finish context (session.resolveInline bytes label).result) = _
  rw [hcompose]
  rfl

/-- A template that is given as text and cannot be read is not rendered. -/
theorem renderInline_of_parseBytes_error {session : Session} {bytes : ByteArray}
    {label : Option String} {error : ParseError}
    (hparse : parseBytes bytes (label.getD inlineLabel) = .error error) (context : Value) :
    (session.perform (.renderInline bytes label (.ok context))).answer =
      .text (.error (.compose (.parse error))) := by
  have hread : (session.sources.read bytes (label.getD inlineLabel)).result =
      .error (.parse error) := congrArg (Except.mapError ComposeError.parse) hparse
  have hcompose : (session.resolveInline bytes label).result = .error (.parse error) := by
    show (Traced.bind (session.sources.read bytes (label.getD inlineLabel)) _).result = _
    rw [Traced.bind, hread]
  show Answer.text (session.finish context (session.resolveInline bytes label).result) = _
  rw [hcompose]
  rfl

/-- What a session answers to a template that is an expression between the parentheses of a
tag without a name. -/
def putOut (session : Session) (label : Option String) (context : Value) (expression : String) :
    Answer :=
  (session.perform (.renderInline ("#(" ++ expression ++ ")").toUTF8 label (.ok context))).answer

theorem toList_source (expression : String) :
    ("#(" ++ expression ++ ")").toList = writeHead "" expression.toList false := by
  simp [writeHead]

/-- How the nodes in values are put out in a session. -/
def stores (session : Session) (context : Value) : Stores :=
  renderWithin (session.setting context) storedDepth

/-- **The value of an expression is put out.** -/
theorem putOut_of_denotes {text : String} {ts : List Token} {expression : Node}
    {context value : Value} (hwritten : Written text.toList ts)
    (hderives : Derives .expression ts [expression]) (hdenotes : Denotes context expression value)
    (session : Session) (label : Option String) :
    session.putOut label context text =
      .text ((Rendition.write (session.stores context) [] value).mapError .render) := by
  obtain ⟨span, node, hnode, hparse⟩ :=
    parse_expression hwritten hderives (label.getD inlineLabel)
  obtain ⟨hresolved, hstands⟩ := hdenotes node hnode
  have hvalue := hstands (session.setting context) (session.stores context) rfl
  have hbytes : parseBytes ("#(" ++ text ++ ")").toUTF8 (label.getD inlineLabel) =
      .ok [.tag span "" [node] none] := by
    rw [parseBytes_toUTF8, toList_source, hparse]
  have htag : (Node.tag span "" [node] none).isResolved := by
    simp [Node.isResolved, Node.allResolved, hresolved]
  have hrender : render (session.setting context) storedDepth [.tag span "" [node] none] =
      Rendition.write (session.stores context) [] value := by
    show renderAll (session.setting context) (session.stores context) [] _ = _
    rw [renderAll_anonymous, hvalue.renderAll_eq]
  rw [putOut, renderInline_of_parseBytes hbytes (List.forall_mem_singleton.2 htag), hrender]

end Session

end Stencil
