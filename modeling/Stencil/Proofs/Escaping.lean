/-
Every text can be put out.

A text can be written as raw text, with a backslash in front of each `#`, and as a
string in parentheses, with a backslash in front of each quote and each backslash.
Either template is rendered as that text, for every context.

* **`parse_writeRaw`**, **`parse_writeString`** — what the two templates are read as;
* **`Session.renderInline_written`** — both templates put out the text.

## Design notes

The two ways to write a text are undone by different readers: the scanner takes raw
text up to the next head, and the lexer takes a string up to its closing quote.  What
they read back is known from the theory of printing, and a string is an expression like
any other, so that what is left here is the end of raw text.
-/
import Stencil.Proofs.Output

namespace Stencil

/-! ### The templates are read -/

/-- A text that is written as raw text is read as that text, and nothing as no nodes. -/
theorem parse_writeRaw (text : List Char) (label : String) :
    ∃ nodes, parse ⟨label, writeRaw text⟩ = .ok nodes ∧
      nodes.map Node.bare = if text = [] then [] else [.raw default (String.ofList text)] := by
  -- No head follows, so a backslash at the end hides none.
  obtain ⟨offset, hwaits⟩ := @Scanner.read_writeRaw ⟨label, writeRaw text⟩ (.fresh .empty 0) [] text
    (by simp)
  obtain ⟨nodes, hheld, hnil⟩ := @Scanner.read_nil ⟨label, writeRaw text⟩
    { Scanner.fresh .empty 0 with offset, done := text.reverse ++ [] } rfl
  refine ⟨nodes, ?_, ?_⟩
  · rw [List.append_nil, Scanner.read_fresh] at hwaits
    exact hwaits.trans hnil
  · rw [hheld, Scanner.held]
    simp [Scanner.fresh, Builder.empty]

/-- A text that is written as a string in parentheses is read as a tag without a name. -/
theorem parse_writeString (text label : String) :
    ∃ span span', parse ⟨label, writeHead "" (writeString text) false⟩ =
      .ok [.tag span "" [.literal span' (.text text)] none] := by
  obtain ⟨hwritten, -⟩ := written_string text
  obtain ⟨span, node, hnode, hparse⟩ :=
    parse_expression hwritten (Derives.text text).expression_of_operand label
  obtain ⟨span', rfl⟩ := Node.eq_literal_of_bare hnode
  exact ⟨span, span', hparse⟩

/-! ### The templates are rendered -/

namespace Session

/-- **Every text can be put out in both ways**: raw, with a backslash in front of each
`#`, and as a string in parentheses, with a backslash in front of each quote and each
backslash. -/
theorem renderInline_written (session : Session) (label : Option String) (context : Value)
    (text : String) :
    (session.perform (.renderInline (String.ofList (writeRaw text.toList)).toUTF8 label
      (.ok context))).answer = .text (.ok text) ∧
    (session.perform (.renderInline
      ("#(\"" ++ String.ofList (escape text.toList) ++ "\")").toUTF8 label
      (.ok context))).answer = .text (.ok text) := by
  constructor
  · obtain ⟨nodes, hparse, hbare⟩ := parse_writeRaw text.toList (label.getD inlineLabel)
    have hbytes : parseBytes (String.ofList (writeRaw text.toList)).toUTF8
        (label.getD inlineLabel) = .ok nodes := by
      rw [parseBytes_toUTF8, String.toList_ofList, hparse]
    by_cases htext : text.toList = []
    · -- There is nothing to put out.
      rw [if_pos htext, List.map_eq_nil_iff] at hbare
      obtain rfl := hbare
      rw [renderInline_of_parseBytes hbytes (by simp), String.toList_eq_nil_iff.1 htext]
      rfl
    · rw [if_neg htext, String.ofList_toList] at hbare
      obtain ⟨node, rfl, hnode⟩ := List.map_eq_singleton_iff.1 hbare
      obtain ⟨span, rfl⟩ := Node.eq_raw_of_bare hnode
      rw [renderInline_of_parseBytes hbytes (List.forall_mem_singleton.2 rfl)]
      show Answer.text (.ok (text ++ "")) = _
      rw [String.append_empty]
  · have hsource : ("#(\"" ++ String.ofList (escape text.toList) ++ "\")").toList =
        writeHead "" (writeString text) false := by
      simp [writeHead, writeString]
    obtain ⟨span, span', hparse⟩ := parse_writeString text (label.getD inlineLabel)
    rw [renderInline_of_parseBytes ((parseBytes_toUTF8 _ _).trans (hsource ▸ hparse))
      (List.forall_mem_singleton.2 rfl)]
    show Answer.text (.ok (text ++ "")) = _
    rw [String.append_empty]

/-- A text that ends in a backslash, with one in front of a `#` and of a quote. -/
example : writeRaw "\\#\"\\".toList = "\\\\#\"\\".toList ∧
    escape "\\#\"\\".toList = "\\\\#\\\"\\\\".toList := by
  decide

end Session

end Stencil
