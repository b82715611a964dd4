/-
Loops unrolled.

A loop binds its variables in a scope of their own.  Outside of other loops that
scope is the outermost one, and what it binds could as well be entries of the
context: a loop puts out its body once for each item, in the context with the
variables of that round laid over it.

* **`Value.override`**, **`loopContext`** — the context of a round;
* **`lookupPath_append`** — look-ups do not tell the outermost scope from the context;
* **`rendition_unrolls`** — and so nodes do not, as long as no host sees the context;
* **`render_loop_unrolled`** — a loop is its rounds, one after the other.

## Design notes

The loops in a body push their scopes in front of the one that goes, so the
induction is on the nodes of the body for all scopes that are further in.

The nodes in values are put out for the context as well.  Plain data holds none,
and what is known of plain data (`rendition_blamed`) is used where a value is put
out and where a loop binds the items of one.
-/
import Mathlib
import Stencil.Proofs.Blame
import Stencil.Proofs.SortedData

namespace Stencil

/-! ### Entries laid over others -/

namespace Keyed

variable {α : Type}

/-- Put pairs into a map; of pairs with one key the first one counts. -/
def override (entries : List (String × α)) : List (String × α) → List (String × α)
  | [] => entries
  | (key, value) :: pairs => insert key value (override entries pairs)

theorem find?_override (key : String) (entries pairs : List (String × α)) :
    find? key (override entries pairs) = (find? key pairs).or (find? key entries) := by
  induction pairs with
  | nil => rfl
  | cons pair pairs ih =>
    obtain ⟨k, value⟩ := pair
    rw [override, find?]
    by_cases hk : k = key
    · rw [if_pos hk, hk, find?_insert_self, Option.some_or]
    · rw [if_neg hk, find?_insert_of_ne (Ne.symm hk), ih]

/-- What holds of both holds of the pairs of both. -/
theorem forall_mem_override {P : String × α → Prop} {entries pairs : List (String × α)}
    (hentries : ∀ entry ∈ entries, P entry) (hpairs : ∀ pair ∈ pairs, P pair) :
    ∀ entry ∈ override entries pairs, P entry := by
  induction pairs with
  | nil => exact hentries
  | cons pair pairs ih =>
    obtain ⟨hpair, hrest⟩ := List.forall_mem_cons.1 hpairs
    intro entry hentry
    rcases mem_of_mem_insert hentry with rfl | hentry
    · exact hpair
    · exact ih hrest entry hentry

theorem Ascending.override {entries : List (String × α)} (h : Ascending entries)
    (pairs : List (String × α)) : Ascending (override entries pairs) := by
  induction pairs with
  | nil => exact h
  | cons pair pairs ih => exact ih.insert pair.1 pair.2

end Keyed

namespace Value

/-- The entries of a dictionary; other values have none. -/
def entries : Value → List (String × Value)
  | dictionary entries => entries
  | _ => []

/-- A context with variables laid over it. -/
def override (context : Value) (bindings : Bindings) : Value :=
  .dictionary (Keyed.override context.entries bindings)

/-- What no dictionary leads to is not found. -/
theorem lookup_cons (context : Value) (name : String) (keys : List String) :
    context.lookup (name :: keys) =
      (Keyed.find? name context.entries).bind fun value => value.lookup keys := by
  cases context with
  | dictionary entries =>
    rw [lookup, Value.entries]
    cases Keyed.find? name entries <;> rfl
  | _ => rfl

end Value

/-! ### Look-ups -/

theorem Scopes.find?_append (name : String) (scopes : Scopes) (bindings : Bindings) :
    Scopes.find? name (scopes ++ [bindings]) =
      (Scopes.find? name scopes).or (Keyed.find? name bindings) := by
  induction scopes with
  | nil =>
    rw [List.nil_append, Scopes.find?, Scopes.find?, Scopes.find?, Option.none_or]
    cases Keyed.find? name bindings <;> rfl
  | cons inner scopes ih =>
    rw [List.cons_append, Scopes.find?, Scopes.find?, ih]
    cases Keyed.find? name inner <;> rfl

/-- **Look-ups do not tell the outermost scope from the context.** -/
theorem lookupPath_append (scopes : Scopes) (bindings : Bindings) (context : Value)
    (keys : List String) :
    lookupPath (scopes ++ [bindings]) context keys =
      lookupPath scopes (context.override bindings) keys := by
  cases keys with
  | nil => rfl
  | cons name keys =>
    rw [lookupPath, lookupPath, Scopes.find?_append, Value.lookup_cons, Value.lookup_cons]
    rw [show (context.override bindings).entries = Keyed.override context.entries bindings from rfl,
      Keyed.find?_override]
    cases Scopes.find? name scopes with
    | some value => rfl
    | none =>
      -- A variable that is found counts even if the keys lead nowhere in it.
      cases Keyed.find? name bindings <;> rfl

/-! ### Tags -/

/-- The answers of a handler do not depend on the context. -/
def TagHandler.IgnoresContext (handler : TagHandler) : Prop :=
  ∀ (call : TagCall) (context : Value),
    handler.answer { call with data := context } = handler.answer call

/-- The tags that are always there do not look at the context. -/
theorem Builtin.ignoresContext {name : String} {handler : TagHandler}
    (h : registry.find? name = some handler) : handler.IgnoresContext :=
  forall_registry (fun _ _ _ => rfl) (fun _ _ => rfl) (fun _ _ => rfl) (fun _ _ => rfl) h

/-! ### Nodes -/

/-- A setting with variables laid over its context. -/
def Setting.override (setting : Setting) (bindings : Bindings) : Setting :=
  { setting with context := setting.context.override bindings }

/-- No node of the host stands in a node, at any depth. -/
def Node.IsHostFree (node : Node) : Prop :=
  node.Throughout fun inner => ∀ span host, inner ≠ .host span host

/-- Plain values are put out alike, whatever puts out the nodes in values. -/
theorem toText_congr {found : Rendition} (h : found.toValue.isPlain) (stored stored' : Stores)
    (scopes scopes' : Scopes) : found.toText stored scopes = found.toText stored' scopes' := by
  cases found with
  | text text => rfl
  | value value =>
    cases value with
    | nodes nodes => exact absurd h Bool.false_ne_true
    | _ => rfl

section Nodes

variable {setting : Setting} {stored stored' : Stores} {bindings : Bindings}

/-- In the setting with the variables of a scope laid over its context a node stands for
the same as in that scope, if the scope is the outermost one. -/
def Unrolls (setting : Setting) (stored stored' : Stores) (bindings : Bindings) (node : Node) :
    Prop :=
  ∀ scopes : Scopes, scopes.IsPlain →
    rendition setting stored (scopes ++ [bindings]) node =
      rendition (setting.override bindings) stored' scopes node

theorem callTag_override {handler : TagHandler} (h : handler.IgnoresContext) (span : Span)
    (name : String) (values : List Value) (text : Option String) :
    callTag (setting.override bindings) handler span name values text =
      callTag setting handler span name values text := by
  have hanswer := h ⟨name, values, text, setting.context, setting.storage⟩
    (setting.override bindings).context
  unfold callTag
  exact hanswer ▸ rfl

variable (hsetting : setting.IsPlain)
  (hbindings : ∀ binding ∈ bindings, binding.2.isPlain)
  {scopes : Scopes} (hscopes : scopes.IsPlain)
include hsetting hbindings hscopes

/-- What a node stands for in plain scopes is plain. -/
theorem isPlain_of_rendition {node : Node} {found : Rendition}
    (h : rendition setting stored (scopes ++ [bindings]) node = .ok found) :
    found.toValue.isPlain := by
  have hinside : Scopes.IsPlain (scopes ++ [bindings]) := by
    intro inner hinner
    rcases List.mem_append.1 hinner with hinner | hinner
    · exact hscopes inner hinner
    · rw [List.mem_singleton.1 hinner]
      exact hbindings
  have hblamed : Blamed (fun _ => True) (fun found => found.toValue.isPlain)
      (rendition setting stored (scopes ++ [bindings]) node) :=
    rendition_blamed hsetting node (fun _ _ => trivial) _ hinside
  rw [h] at hblamed
  exact hblamed

theorem renderAll_unrolls {nodes : List Node}
    (h : ∀ node ∈ nodes, Unrolls setting stored stored' bindings node) :
    renderAll setting stored (scopes ++ [bindings]) nodes =
      renderAll (setting.override bindings) stored' scopes nodes := by
  induction nodes with
  | nil => rfl
  | cons node nodes ih =>
    obtain ⟨hnode, hnodes⟩ := List.forall_mem_cons.1 h
    rw [renderAll, renderAll, ← hnode scopes hscopes, ih hnodes]
    refine except_bind_congr fun found hfound => ?_
    have hplain := isPlain_of_rendition hsetting hbindings hscopes hfound
    rw [toText_congr hplain stored stored' (scopes ++ [bindings]) scopes]

omit hsetting hbindings in
theorem valuesOf_unrolls {nodes : List Node}
    (h : ∀ node ∈ nodes, Unrolls setting stored stored' bindings node) :
    valuesOf setting stored (scopes ++ [bindings]) nodes =
      valuesOf (setting.override bindings) stored' scopes nodes := by
  induction nodes with
  | nil => rfl
  | cons node nodes ih =>
    obtain ⟨hnode, hnodes⟩ := List.forall_mem_cons.1 h
    rw [valuesOf, valuesOf, hnode scopes hscopes, ih hnodes]

theorem renderBranches_unrolls {branches : List (Node × List Node)}
    (h : ∀ node ∈ branches.flatMap fun branch => branch.1 :: branch.2,
      Unrolls setting stored stored' bindings node) :
    renderBranches setting stored (scopes ++ [bindings]) branches =
      renderBranches (setting.override bindings) stored' scopes branches := by
  induction branches with
  | nil => rfl
  | cons branch branches ih =>
    obtain ⟨condition, body⟩ := branch
    rw [List.flatMap_cons, List.forall_mem_append, List.forall_mem_cons] at h
    obtain ⟨⟨hcondition, hbody⟩, hbranches⟩ := h
    rw [renderBranches, renderBranches, hcondition scopes hscopes, ih hbranches,
      renderAll_unrolls hsetting hbindings hscopes hbody]

/-- The rounds of a loop inside the one that goes. -/
theorem rounds_unroll (name : String) {items : List (Option String × Value)} {body : List Node}
    (hitems : ∀ item ∈ items, item.2.isPlain)
    (h : ∀ node ∈ body, Unrolls setting stored stored' bindings node) :
    concatRounds (fun inner => renderAll setting stored (inner :: (scopes ++ [bindings])) body)
        (loopRounds name items) =
      concatRounds
        (fun inner => renderAll (setting.override bindings) stored' (inner :: scopes) body)
        (loopRounds name items) := by
  have hrounds : ∀ inner ∈ loopRounds name items, ∀ binding ∈ inner, binding.2.isPlain :=
    isPlain_loopRounds hitems
  generalize loopRounds name items = rounds at hrounds ⊢
  induction rounds with
  | nil => rfl
  | cons inner rounds ih =>
    obtain ⟨hinner, hrounds⟩ := List.forall_mem_cons.1 hrounds
    have hinside : Scopes.IsPlain (inner :: scopes) := List.forall_mem_cons.2 ⟨hinner, hscopes⟩
    have hround := renderAll_unrolls hsetting hbindings hinside h
    rw [concatRounds, concatRounds, ih hrounds, ← List.cons_append, hround]

theorem tag_unrolls (htags : ∀ name handler, setting.tags.find? name = some handler →
      handler.IgnoresContext) {span : Span} {name : String} {parameters : List Node}
    {body : Option (List Node)}
    (hparameters : ∀ node ∈ parameters, Unrolls setting stored stored' bindings node)
    (hbody : ∀ node ∈ body.getD [], Unrolls setting stored stored' bindings node) :
    rendition setting stored (scopes ++ [bindings]) (.tag span name parameters body) =
      rendition (setting.override bindings) stored' scopes (.tag span name parameters body) := by
  rw [rendition.eq_def, rendition.eq_def]
  dsimp only
  rw [valuesOf_unrolls hscopes hparameters]
  have htagsOverride : (setting.override bindings).tags = setting.tags := rfl
  rw [htagsOverride]
  by_cases hname : name = ""
  · rw [if_pos hname, if_pos hname]
    rcases parameters with _ | ⟨parameter, _ | ⟨_, _⟩⟩
    · rfl
    · dsimp only
      rw [hparameters parameter (List.mem_singleton_self _) scopes hscopes]
    · rfl
  · rw [if_neg hname, if_neg hname]
    cases hfind : setting.tags.find? name with
    | none => rfl
    | some handler =>
      have hhandler := htags name handler hfind
      cases body with
      | none => simp only [callTag_override hhandler]
      | some nodes =>
        have hnodes := renderAll_unrolls hsetting hbindings hscopes hbody
        simp only [callTag_override hhandler]
        exact hnodes ▸ rfl

omit hscopes in
/-- **A node does not tell the outermost scope from the context**, if no host node stands
in it and the tags in it do not look at the context. -/
theorem rendition_unrolls (htags : ∀ name handler, setting.tags.find? name = some handler →
      handler.IgnoresContext) (node : Node) (hnode : node.IsHostFree) :
    Unrolls setting stored stored' bindings node := by
  induction node using Node.children_induction with
  | h node ih =>
    have hhost : ∀ span host, node ≠ .host span host := hnode.self
    have hchildren : ∀ child ∈ node.children, Unrolls setting stored stored' bindings child :=
      fun child hchild => ih child hchild (hnode.child hchild)
    clear ih hnode
    intro scopes hscopes
    cases node with
    | raw | literal | imported | extend | embed | suffixed => rfl
    | path span keys => rw [rendition, rendition, lookupPath_append]; rfl
    | host span node => exact absurd rfl (hhost span node)
    | joined span parts =>
      have hparts : renderAll setting stored (scopes ++ [bindings]) parts =
          renderAll (setting.override bindings) stored' scopes parts :=
        renderAll_unrolls hsetting hbindings hscopes hchildren
      rw [rendition, rendition, hparts]
    | conditional span branches =>
      rw [rendition, rendition, renderBranches_unrolls hsetting hbindings hscopes hchildren]
    | tag span name parameters body =>
      obtain ⟨hparameters, hbody⟩ := List.forall_mem_append.1 hchildren
      exact tag_unrolls hsetting hbindings hscopes htags hparameters hbody
    | loop span key data body =>
      obtain ⟨-, hrest⟩ := List.forall_mem_cons.1 hchildren
      obtain ⟨hdata, hbody⟩ := List.forall_mem_cons.1 hrest
      rw [rendition, rendition, ← hdata scopes hscopes]
      refine bind_congr fun name => ?_
      refine except_bind_congr fun found hfound => ?_
      have hplain := isPlain_of_rendition hsetting hbindings hscopes hfound
      refine except_bind_congr fun items hitems => ?_
      rw [rounds_unroll hsetting hbindings hscopes name (isPlain_loopItems hplain hitems) hbody]
    | signed span op operand =>
      rw [rendition, rendition, hchildren operand (List.mem_singleton_self _) scopes hscopes]
    | binary span op left right =>
      obtain ⟨hleft, hright⟩ := List.forall_mem_cons.1 hchildren
      rw [rendition, rendition, hleft scopes hscopes,
        hright right (List.mem_singleton_self _) scopes hscopes]

end Nodes

/-! ### The order of the items -/

theorem blame_eq_ok {α : Type} {span : Span} {result : Except Mismatch α} {a : α}
    (h : blame span result = .ok a) : result = .ok a := by
  cases result with
  | error cause => cases h
  | ok a' => exact congrArg Except.ok (Except.ok.inj h)

theorem callTag_eq_ok {setting : Setting} {handler : TagHandler} {span : Span} {name : String}
    {values : List Value} {text : Option String} {found : Rendition}
    (h : callTag setting handler span name values text = .ok found) :
    ∃ call value, handler.answer call = .ok value ∧ found = .value value := by
  unfold callTag at h
  cases hanswer : handler.answer ⟨name, values, text, setting.context, setting.storage⟩ with
  | error error =>
    rw [hanswer] at h
    cases h
  | ok value =>
    rw [hanswer] at h
    exact ⟨_, value, hanswer, (Except.ok.inj h).symm⟩

/-- Outside of loops, and with the tags that are always there, an expression makes a scalar
or finds a value in the context. -/
theorem rendition_found {setting : Setting} {stored : Stores}
    (htags : setting.tags = Builtin.registry) (node : Node) {found : Rendition}
    (h : rendition setting stored [] node = .ok found) :
    found.toValue.isScalar ∨ ∃ keys, setting.context.lookup keys = some found.toValue := by
  induction node using Node.children_induction generalizing found with
  | h node ih =>
    cases node with
    | raw => cases h; exact .inl rfl
    | imported | extend | embed | suffixed => cases h
    | literal span value => cases h; exact .inl (isScalar_literal value)
    | path span keys =>
      cases h
      cases keys with
      | nil => exact .inl rfl
      | cons name keys =>
        show ((setting.context.lookup (name :: keys)).getD .null).isScalar ∨
          ∃ path, setting.context.lookup path =
            some ((setting.context.lookup (name :: keys)).getD .null)
        cases hlookup : setting.context.lookup (name :: keys) with
        | none => exact .inl rfl
        | some value => exact .inr ⟨name :: keys, hlookup⟩
    | host span node =>
      rw [rendition] at h
      split at h
      · cases h; exact .inl rfl
      · cases h
    | joined | conditional =>
      rw [rendition] at h
      obtain ⟨text, -, h⟩ := except_bind_eq_ok h
      cases h; exact .inl rfl
    | loop span key data body =>
      rw [rendition] at h
      obtain ⟨name, -, h⟩ := except_bind_eq_ok h
      obtain ⟨data, -, h⟩ := except_bind_eq_ok h
      obtain ⟨items, -, h⟩ := except_bind_eq_ok h
      obtain ⟨text, -, h⟩ := except_bind_eq_ok h
      cases h; exact .inl rfl
    | signed span op operand =>
      rw [rendition] at h
      obtain ⟨value, -, h⟩ := except_bind_eq_ok h
      obtain ⟨result, hresult, h⟩ := except_bind_eq_ok h
      cases h; exact .inl (isScalar_applySign (blame_eq_ok hresult))
    | binary span op left right =>
      rw [rendition] at h
      obtain ⟨left, -, h⟩ := except_bind_eq_ok h
      split at h
      · cases h; exact .inl rfl
      · split at h
        · cases h; exact .inl rfl
        · obtain ⟨right, -, h⟩ := except_bind_eq_ok h
          split at h
          · cases h; exact .inl rfl
          · obtain ⟨result, hresult, h⟩ := except_bind_eq_ok h
            cases h; exact .inl (isScalar_applyBinary (blame_eq_ok hresult))
    | tag span name parameters body =>
      rw [rendition.eq_def] at h
      dsimp only at h
      split at h
      · -- The tag without a name passes its only parameter on.
        split at h
        · rename_i parameter
          obtain ⟨inner, hinner, h⟩ := except_bind_eq_ok h
          cases h
          have hchild := List.mem_append_left (body.getD []) (List.mem_singleton_self parameter)
          have hvalue := ih parameter hchild hinner
          exact hvalue
        · cases h
      · split at h
        · cases h
        · rename_i handler hhandler
          have hscalar := Builtin.answersScalar (htags ▸ hhandler)
          obtain ⟨values, -, h⟩ := except_bind_eq_ok h
          have hcall : ∃ text, callTag setting handler span name values text = .ok found := by
            split at h
            · exact ⟨_, h⟩
            · split at h
              · obtain ⟨text, -, h⟩ := except_bind_eq_ok h
                exact ⟨_, h⟩
              · exact ⟨_, h⟩
          obtain ⟨text, htext⟩ := hcall
          obtain ⟨call, value, hanswer, rfl⟩ := callTag_eq_ok htext
          exact .inl (hscalar call value hanswer)

/-! ### Loops -/

/-- The context in one round of a loop: what the loop binds is laid over the dictionary
that the context is, the item over all else. -/
def loopContext (context : Value) (name : String) (count index : Nat) (key : Option String)
    (item : Value) : Value :=
  let entries := match key with
    | some key => Keyed.insert "key" (.string key) context.entries
    | none => context.entries
  .dictionary <|
    Keyed.insert name item <|
    Keyed.insert "index" (.int (Int64.ofNat index)) <|
    Keyed.insert "isFirst" (.bool (index = 0)) <|
    Keyed.insert "isLast" (.bool (index + 1 = count)) entries

theorem override_roundBindings (context : Value) (name : String) (count index : Nat)
    (key : Option String) (item : Value) :
    context.override (roundBindings name count index key item) =
      loopContext context name count index key item := by
  cases key <;> rfl

/-- The context of a round is plain if the context and the item are. -/
theorem isPlain_loopContext {context item : Value} (hcontext : context.isPlain)
    (hitem : item.isPlain) (name : String) (count index : Nat) (key : Option String) :
    (loopContext context name count index key item).isPlain := by
  have hentries : ∀ entry ∈ context.entries, entry.2.isPlain := by
    cases context with
    | dictionary entries => exact (Value.entriesPlain_iff entries).1 hcontext
    | _ => exact nofun
  rw [← override_roundBindings]
  exact (Value.entriesPlain_iff _).2 (Keyed.forall_mem_override hentries
    (forall_mem_roundBindings (fun _ => Value.isPlain_of_isScalar) hitem name count index key))

/-- And it is sorted if they are. -/
theorem isSorted_loopContext {context item : Value} (hcontext : context.IsSorted)
    (hitem : item.IsSorted) (name : String) (count index : Nat) (key : Option String) :
    (loopContext context name count index key item).IsSorted := by
  have hentries : Keyed.Ascending context.entries ∧
      ∀ entry ∈ context.entries, entry.2.IsSorted := by
    cases context with
    | dictionary entries =>
      refine ⟨hcontext entries .self, ?_⟩
      intro entry hentry inner hinner
      exact hcontext inner (.entry hentry hinner)
    | _ => exact ⟨.nil, nofun⟩
  rw [← override_roundBindings]
  refine .dictionary (hentries.1.override _) (Keyed.forall_mem_override hentries.2 ?_)
  exact forall_mem_roundBindings (fun _ => .of_isScalar) hitem name count index key

/-- The value of an expression outside of loops. -/
def evaluate (setting : Setting) (depth : Nat) (node : Node) : Except RenderFault Value :=
  (rendition setting (renderWithin setting depth) [] node).map Rendition.toValue

theorem concatRounds_congr {round round' : Bindings → Except RenderFault String}
    {rounds : List Bindings} (h : ∀ bindings ∈ rounds, round bindings = round' bindings) :
    concatRounds round rounds = concatRounds round' rounds := by
  induction rounds with
  | nil => rfl
  | cons bindings rounds ih =>
    obtain ⟨hfirst, hrest⟩ := List.forall_mem_cons.1 h
    rw [concatRounds, concatRounds, hfirst, ih hrest]

/-- Rounds one after the other, as a list of texts that is joined. -/
theorem concatRounds_eq_mapM (round : Bindings → Except RenderFault String)
    (rounds : List Bindings) :
    concatRounds round rounds = String.join <$> rounds.mapM round := by
  induction rounds with
  | nil => rfl
  | cons bindings rounds ih =>
    rw [concatRounds, ih, List.mapM_cons]
    cases round bindings with
    | error fault => rfl
    | ok first =>
      cases rounds.mapM round with
      | error fault => rfl
      | ok rest => exact congrArg Except.ok String.join_cons.symm

/-- The rounds of a loop, each in its context. -/
theorem concatRounds_loopRounds (setting : Setting) (depth : Nat) (name : String)
    (items : List (Option String × Value)) (body : List Node) :
    concatRounds (fun bindings => render (setting.override bindings) depth body)
        (loopRounds name items) =
      String.join <$> items.zipIdx.mapM fun ((key, item), index) =>
        render { setting with
          context := loopContext setting.context name items.length index key item } depth body := by
  rw [concatRounds_eq_mapM, loopRounds, List.mapIdx_eq_zipIdx_map, List.mapM_map]
  refine congrArg (fun round => String.join <$> items.zipIdx.mapM round) (funext ?_)
  intro ⟨⟨key, item⟩, index⟩
  show render (setting.override (roundBindings name items.length index key item)) depth body = _
  rw [Setting.override, override_roundBindings]

/-- **A loop is its rounds, one after the other.**  Outside of other loops each round puts out
the body in the context with its variables laid over it; what follows the loop is put out in
the context as it was.  Of several errors that of the first round counts. -/
theorem render_loop_unrolled {setting : Setting} (htags : setting.tags = Builtin.registry)
    (hcontext : setting.context.isPlain) (depth : Nat) (span place : Span) (name : String)
    {data : Node} {body : List Node} (hbody : ∀ node ∈ body, node.IsHostFree) {value : Value}
    (hdata : evaluate setting depth data = .ok value)
    {items : List (Option String × Value)} (hitems : value.HasItems items) (after : List Node) :
    render setting depth (.loop span (.path place [name]) data body :: after) = (do
      let rounds ← items.zipIdx.mapM fun ((key, item), index) =>
        render { setting with
          context := loopContext setting.context name items.length index key item } depth body
      let rest ← render setting depth after
      return String.join rounds ++ rest) ∧
    (setting.context.IsSorted →
      (items.filterMap Prod.fst).Pairwise fun k l =>
        k.toUTF8.data.toList < l.toUTF8.data.toList) := by
  have hsetting : setting.IsPlain := Setting.isPlain_of_builtin htags hcontext
  have hignores : ∀ name handler, setting.tags.find? name = some handler →
      handler.IgnoresContext := by
    intro name handler hhandler
    exact Builtin.ignoresContext (htags ▸ hhandler)
  have hnone : Scopes.IsPlain [] := fun bindings hbindings => absurd hbindings (by simp)
  obtain ⟨found, hfound, hvalue⟩ := except_map_eq_ok hdata
  refine ⟨?_, ?_⟩
  · have hplain : found.toValue.isPlain := by
      have hblamed : Blamed (fun _ => True) (fun found => found.toValue.isPlain)
          (rendition setting (renderWithin setting depth) [] data) :=
        rendition_blamed hsetting data (fun _ _ => trivial) [] hnone
      rw [hfound] at hblamed
      exact hblamed
    have hloop : loopItems span found.toValue = .ok items := hvalue ▸ hitems.loopItems_eq span
    have hrounds : concatRounds (fun bindings =>
          renderAll setting (renderWithin setting depth) [bindings] body) (loopRounds name items) =
        concatRounds (fun bindings => render (setting.override bindings) depth body)
          (loopRounds name items) := by
      refine concatRounds_congr fun bindings hbindings => ?_
      have hround := isPlain_loopRounds (isPlain_loopItems hplain hloop) bindings hbindings
      exact renderAll_unrolls hsetting hround hnone fun node hnode =>
        rendition_unrolls hsetting hround hignores node (hbody node hnode)
    rw [render, renderAll, rendition, hfound, loopVariable]
    show (loopItems span found.toValue >>= _) >>= _ = _
    rw [hloop]
    show (concatRounds _ _ >>= _) >>= _ = _
    rw [hrounds, concatRounds_loopRounds]
    -- The text of the loop is what stands in front of the rest.
    cases items.zipIdx.mapM fun ((key, item), index) =>
      render { setting with
        context := loopContext setting.context name items.length index key item } depth body <;> rfl
  · -- What is no scalar is found in the context, and so it is sorted.
    intro hsorted
    refine hitems.keys_lt fun entries hentries => ?_
    rcases rendition_found htags data hfound with hscalar | ⟨keys, hkeys⟩
    · rw [← hvalue, hitems.isScalar_eq_false] at hscalar
      exact absurd hscalar Bool.false_ne_true
    · exact hsorted entries (.of_lookup hkeys (hvalue ▸ hentries))

/-- The items of a loop are gone through by a loop in its body that binds the same name, and
what stands behind both reads the context. -/
theorem render_loop_unrolled_shadowed :
    let read (keys : List String) : Node := .path default keys
    let context : Value := .dictionary
      [("m", .dictionary [("a", .array [.string "1", .string "2"]), ("b", .array [.string "3"])]),
        ("x", .string "out")]
    let setting : Setting := ⟨Builtin.registry, fun _ _ => .ok "", context, .empty⟩
    let body : List Node := [read ["key"],
      .loop default (read ["x"]) (read ["x"]) [read ["x"], read ["isLast"]]]
    evaluate setting 0 (read ["m"]) = .ok (.dictionary
        [("a", .array [.string "1", .string "2"]), ("b", .array [.string "3"])]) ∧
      render setting 0 [.loop default (read ["x"]) (read ["m"]) body, read ["x"]] =
        .ok "a1false2trueb3trueout" ∧
      ["a", "b"].Pairwise fun k l => k.toUTF8.data.toList < l.toUTF8.data.toList := by
  intro read context setting body
  have hread (keys : List String) : (read keys).IsHostFree :=
    .of_children (by rintro _ _ ⟨⟩) (by rintro _ ⟨⟩)
  have hbody : ∀ node ∈ body, node.IsHostFree := by
    simp only [body, List.forall_mem_cons]
    refine ⟨hread _, .of_children (by rintro _ _ ⟨⟩) ?_, by rintro _ ⟨⟩⟩
    simp only [Node.children, List.forall_mem_cons]
    exact ⟨hread _, hread _, hread _, hread _, by rintro _ ⟨⟩⟩
  have hdata : evaluate setting 0 (read ["m"]) = .ok (.dictionary
      [("a", .array [.string "1", .string "2"]), ("b", .array [.string "3"])]) := by
    rfl
  obtain ⟨hrender, hkeys⟩ := render_loop_unrolled rfl rfl 0 default default "x" hbody hdata
    (.dictionary _) [read ["x"]]
  refine ⟨hdata, ?_, hkeys ?_⟩
  · rw [hrender]
    cbv
  · have htext (text : String) : (Value.string text).IsSorted := .of_isScalar rfl
    have hitems : (Value.dictionary [("a", .array [.string "1", .string "2"]),
        ("b", .array [.string "3"])]).IsSorted := by
      refine .dictionary (by decide) ?_
      simp only [List.forall_mem_cons]
      refine ⟨.array ?_, .array ?_, by rintro _ ⟨⟩⟩
      all_goals
        simp only [List.forall_mem_cons]
        simp [htext]
    refine .dictionary (by decide) ?_
    simp only [List.forall_mem_cons]
    exact ⟨hitems, htext _, by rintro _ ⟨⟩⟩

end Stencil
