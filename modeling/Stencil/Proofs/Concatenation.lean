/-
Concatenation.

The operator `+` joins texts if one of its operands is a string.  It joins the texts that the
values have by themselves (`Value.display`), and these are what the values put out, but for
nodes: a value that holds nodes puts out what they are rendered to, and has no text by
itself.

* **`Operand`** — strings between quotes and variables, as they are written;
* **`Session.putOut_sum`** — what is put out for a sum of a string and a value;
* **`display_eq_iff`** — where the text of a value is what it puts out;
* **`Session.putOut_sum_iff`** — where a sum puts out the string and what the value puts out;
* **`renderAll_sum_joined`** — nodes that are joined in the template, and are in no value, are
  not lost.
-/
import Stencil.Proofs.Output

namespace Stencil

/-! ### Operands -/

/-- The operands of sums as they are written in a template for a context: a string between
quotes, or a variable; each with its value. -/
inductive Operand (context : Value) : String → Value → Prop
  | quoted (text : String) : Operand context (String.ofList (writeString text)) (.string text)
  | named {keys : List String} : keys ≠ [] → (∀ key ∈ keys, IsKey key) →
      Operand context (String.ofList (writeKeys keys)) (lookupPath [] context keys)

/-- An operand is written as the tokens of an expression that denotes its value. -/
theorem Operand.written {context value : Value} {text : String} (h : Operand context text value)
    {cs : List Char} {ts : List Token}
    (hcs : ∀ c, cs.head? = some c → continuesName c = false) (hwritten : Written cs ts) :
    ∃ ts' e, Written (text.toList ++ cs) (ts' ++ ts) ∧ Derives .operand ts' [e] ∧
      Denotes context e value := by
  cases h with
  | quoted text =>
    rw [String.toList_ofList]
    exact ⟨[.text text], _, hwritten.text, .text text, denotes_literal context (.text text)⟩
  | @named keys hne hkeys =>
    have hvariable : (Node.path default keys).IsVariable := ⟨hne, hkeys⟩
    obtain ⟨ts', hwritten', hderives⟩ := hvariable.written hcs hwritten
    rw [String.toList_ofList]
    exact ⟨ts', _, hwritten', hderives, denotes_path context keys⟩

/-! ### The text of a value and what it puts out -/

/-- The operator joins the texts of a string and of any other value, in either order. -/
theorem applyBinary_plus {x y : Value} (h : isConcatenation x y) :
    applyBinary .plus x y = .ok (.string (x.display ++ y.display)) := if_pos h

theorem isConcatenation_string (s : String) (v : Value) :
    isConcatenation (.string s) v ∧ isConcatenation v (.string s) := by
  cases v <;> exact ⟨rfl, rfl⟩

/-- **The text of a value is what it puts out**, unless it holds nodes that put out
something. -/
theorem display_eq_iff {stored : Stores} {scopes : Scopes} {v : Value} {t : String}
    (h : Rendition.write stored scopes v = .ok t) :
    v.display = t ↔ ∀ nodes, v = .nodes nodes → t = "" := by
  cases v with
  | nodes nodes =>
    constructor
    · rintro rfl _ _
      rfl
    · intro hempty
      exact (hempty nodes rfl).symm
  | _ => exact ⟨nofun, fun _ => Except.ok.inj h⟩

/-- Nodes that are joined in the template are text for the operator. -/
theorem renderAll_sum_joined {setting : Setting} {stored : Stores} {scopes : Scopes}
    {left : Node} {s t : String} {parts : List Node}
    (hleft : StandsFor setting stored scopes left (.string s))
    (hparts : renderAll setting stored scopes parts = .ok t) (span span' : Span) :
    renderAll setting stored scopes [.binary span .plus left (.joined span' parts)] =
      .ok (s ++ t) := by
  have hjoined : StandsFor setting stored scopes (.joined span' parts) (.string t) := by
    refine ⟨.text t, ?_, rfl⟩
    rw [rendition, hparts]
    rfl
  exact (standsFor_binary hleft hjoined (by decide) (applyBinary_plus rfl) span).renderAll_eq

/-! ### What templates put out -/

namespace Session

variable {context : Value} {a b : String}

theorem putOut_operand {v : Value} (h : Operand context b v) (session : Session)
    (label : Option String) :
    session.putOut label context b =
      .text ((Rendition.write (session.stores context) [] v).mapError .render) := by
  obtain ⟨ts, e, hwritten, hderives, hdenotes⟩ := h.written (by simp) .nil
  rw [List.append_nil, List.append_nil] at hwritten
  exact putOut_of_denotes hwritten hderives.expression_of_operand hdenotes session label

/-- What is put out for an operand is what its value puts out. -/
theorem write_of_putOut_operand {session : Session} {label : Option String} {t : String}
    {v : Value} (h : Operand context b v)
    (hshown : session.putOut label context b = .text (.ok t)) :
    Rendition.write (session.stores context) [] v = .ok t := by
  rw [putOut_operand h] at hshown
  cases hresult : Rendition.write (session.stores context) [] v with
  | error fault =>
    rw [hresult] at hshown
    cases hshown
  | ok text =>
    rw [hresult] at hshown
    cases hshown
    rfl

/-- **A sum with a string puts out the texts of its operands.** -/
theorem putOut_sum {x y : Value} (ha : Operand context a x) (hb : Operand context b y)
    (h : isConcatenation x y) (session : Session) (label : Option String) :
    session.putOut label context (a ++ " + " ++ b) = .text (.ok (x.display ++ y.display)) := by
  obtain ⟨ts', e', hwritten', hderives', hdenotes'⟩ := hb.written (by simp) .nil
  rw [List.append_nil, List.append_nil] at hwritten'
  have hplus : Written (" + ".toList ++ b.toList) (.operator .plus :: ts') :=
    .blank (.operator rfl (fun _ => rfl) (.blank hwritten'))
  obtain ⟨ts, e, hwritten, hderives, hdenotes⟩ := ha.written (by rintro c ⟨⟩; decide) hplus
  rw [← List.append_assoc, ← String.toList_append, ← String.toList_append] at hwritten
  have hleft : Derives (.level 4) ts [e] :=
    (Derives.unsigned hderives).level_of_signed (by decide)
  have hright : Derives (.level 5) ts' [e'] :=
    (Derives.unsigned hderives').level_of_signed (by decide)
  have hsum : Derives .expression (ts ++ .operator .plus :: ts') [.binary default .plus e e'] :=
    (@Derives.binary 4 .plus ts ts' e e' (by decide) hleft hright).weaken (by decide) (by decide)
  exact putOut_of_denotes hwritten hsum
    (hdenotes.binary hdenotes' (by decide) (applyBinary_plus h)) session label

/-- **A sum of a string and a value puts out the string and what the value puts out**, in
their order, if and only if the value holds no nodes or these put out nothing. -/
theorem putOut_sum_iff {session : Session} {label : Option String} {s t : String} {v : Value}
    (ha : Operand context a (.string s)) (hb : Operand context b v)
    (hshown : session.putOut label context b = .text (.ok t)) :
    (session.putOut label context (a ++ " + " ++ b) = .text (.ok (s ++ t)) ↔
      ∀ nodes, v = .nodes nodes → t = "") ∧
    (session.putOut label context (b ++ " + " ++ a) = .text (.ok (t ++ s)) ↔
      ∀ nodes, v = .nodes nodes → t = "") := by
  have hwrite := write_of_putOut_operand hb hshown
  obtain ⟨hfirst, hsecond⟩ := isConcatenation_string s v
  rw [putOut_sum ha hb hfirst, putOut_sum hb ha hsecond, ← display_eq_iff hwrite]
  constructor
  · constructor
    · intro h
      exact (String.append_right_inj s).1 (Except.ok.inj (Answer.text.inj h))
    · rintro rfl
      rfl
  · constructor
    · intro h
      exact (String.append_left_inj s).1 (Except.ok.inj (Answer.text.inj h))
    · rintro rfl
      rfl

/-- A list next to a string.  The nodes in the list put out nothing in either template. -/
theorem putOut_sum_iff_nested :
    let session := start ⟨"v", "", true⟩ ⟨[], []⟩ Builtin.registry (fun _ _ => .ok "") .empty
    let value : Value := .array [.int (-1), .string "\"", .nodes [.raw default "x"]]
    let context : Value := .dictionary [("a", .dictionary [("b", value)])]
    Operand context "\"s\"" (.string "s") ∧ Operand context "a.b" value ∧
      session.putOut none context "a.b" = .text (.ok "[-1, \", ]") ∧
      session.putOut none context "\"s\" + a.b" = .text (.ok "s[-1, \", ]") ∧
      session.putOut none context "a.b + \"s\"" = .text (.ok "[-1, \", ]s") := by
  intro session value context
  have hquoted : Operand context "\"s\"" (.string "s") := .quoted "s"
  have ha : IsKey "a" := isKey_of_letter (c := 'a') (by decide) (by decide)
  have hb : IsKey "b" := isKey_of_letter (c := 'b') (by decide) (by decide)
  have hnamed : Operand context "a.b" value :=
    @Operand.named context ["a", "b"] (by decide) (by simp [ha, hb])
  have hshown : session.putOut none context "a.b" = .text (.ok "[-1, \", ]") :=
    (putOut_operand hnamed session none).trans (by cbv)
  have hholds (nodes : List Node) (h : value = .nodes nodes) : "[-1, \", ]" = "" :=
    Value.noConfusion h
  obtain ⟨hfirst, hsecond⟩ := putOut_sum_iff hquoted hnamed hshown
  exact ⟨hquoted, hnamed, hshown, hfirst.2 hholds, hsecond.2 hholds⟩

/-- Nodes in a value are put out by themselves, and lost in a sum. -/
theorem putOut_sum_loses_nodes :
    let session := start ⟨"v", "", true⟩ ⟨[], []⟩ Builtin.registry (fun _ _ => .ok "") .empty
    let context : Value := .dictionary [("v", .nodes [.raw default "x"])]
    session.putOut none context "v" = .text (.ok "x") ∧
      session.putOut none context "\"s\" + v" = .text (.ok "s") ∧
      session.putOut none context "v + \"s\"" = .text (.ok "s") := by
  intro session context
  have hv : IsKey "v" := isKey_of_letter (c := 'v') (by decide) (by decide)
  have hquoted : Operand context "\"s\"" (.string "s") := .quoted "s"
  have hnamed : Operand context "v" (.nodes [.raw default "x"]) :=
    @Operand.named context ["v"] (by decide) (by simp [hv])
  refine ⟨(putOut_operand hnamed session none).trans (by cbv), ?_, ?_⟩
  · exact putOut_sum hquoted hnamed rfl session none
  · exact putOut_sum hnamed hquoted rfl session none

end Session

end Stencil
