import GdbExplore.Paths

/-!
# Every move can be taken

`Explorer.exploreExpr_visits` bounds what a run of `explore_expr` explores by the
moves of `ValueGraph.Child`. This module proves that the bound is exact: for every
node the moves reach from the root, there are lines the user can type that make the
run explore it, whatever is typed after them, given enough fuel.

`Ex.Yields x a` says that `x` returns `a` without reading a line, and
`Ex.Embeds x y pre` that on the lines `pre`, followed by any `rest`, the events of
`x` contain those of `y` on `rest` as one block. Each move is taken on its own
answers:

* `deref`: `y` at "Continue exploring it as a pointer to a single value";
* `index`: at a pointer `n`, then `y`, then the index; at an array the index;
* `field`: the field's number;
* `referenced` and `stripped`: nothing.

An index is typed as `str(i)`, which `int()` reads back (`pyInt_toString`).

`Ex.Explores x p n c` says that some answers make every run of `x` with more than
some fuel explore the node `(p, n, c)`, whatever is typed after them.

## What is proved

* `Explorer.exploreExpr_reaches_explored`: every node that `ValueGraph.Reaches`
  from the root is explored on some answers, for every fuel past a bound.
* `Explorer.exploreType_reaches_explored`: the same for `explore_type` and
  `TypeGraph.Reaches`.
* `explore_commands_complete`: with an argument, each command explores on some
  answers every node it can reach, so that what `explore_commands_bounds` allows
  is exactly what the commands explore.
-/

namespace GdbExplore

variable {N α β γ : Type}

/-! ### Runs inside runs -/

/-- `x` returns `a` and reads no line, on every input. -/
def Ex.Yields (x : Ex N α) (a : α) : Prop := ∀ inp, (x inp).res = .ok a ∧ (x inp).used = 0

/-- On the lines `pre`, followed by any `rest`, the events of `x` contain those of
`y` on `rest` as one block. -/
def Ex.Embeds (x : Ex N α) (y : Ex N β) (pre : List String) : Prop :=
  ∀ rest, ∃ A B, (x (pre ++ rest)).trace = A ++ (y rest).trace ++ B

/-- Some answers make every run of `x` with more than some fuel explore the node
`(p, n, c)`, whatever is typed after them. -/
def Ex.Explores (x : ℕ → Ex N α) (p : String) (n : N) (c : Bool) : Prop :=
  ∃ pre d, ∀ k, d < k → ∀ rest, Event.explore p n c ∈ (x k (pre ++ rest)).trace

namespace Ex.Yields

theorem say (s : String) : (GdbExplore.say s : Ex N Unit).Yields () := fun _ => ⟨rfl, rfl⟩

theorem emit (e : Event N) : (GdbExplore.emit e : Ex N Unit).Yields () := fun _ => ⟨rfl, rfl⟩

theorem printFields {rows : List (Option String × CompoundExplorer.Literal)} {k : ℕ}
    (h : CompoundExplorer.maxFieldNameLength rows = .ok k) :
    (CompoundExplorer.printFields rows : Ex N Unit).Yields () := fun _ => by
  simp [CompoundExplorer.printFields_apply, h]

/-- A run that yields passes the whole input on to what follows it. -/
theorem embeds_bind {x : Ex N α} {a : α} {f : α → Ex N β} {z : Ex N γ} {q : List String}
    (hx : x.Yields a) (hf : (f a).Embeds z q) : (x >>= f).Embeds z q := fun rest => by
  obtain ⟨A, B, h⟩ := hf rest
  refine ⟨(x (q ++ rest)).trace ++ A, B, ?_⟩
  simp only [Ex.bind_apply, Run.trace_next, (hx _).1, (hx _).2, List.drop_zero, h,
    List.append_assoc]

end Ex.Yields

namespace Ex.Embeds

theorem refl (x : Ex N α) : x.Embeds x [] := fun rest => ⟨[], [], by simp⟩

theorem trans {x : Ex N α} {y : Ex N β} {z : Ex N γ} {p q : List String} (hxy : x.Embeds y p)
    (hyz : y.Embeds z q) : x.Embeds z (p ++ q) := fun rest => by
  obtain ⟨A, B, h⟩ := hxy (q ++ rest)
  obtain ⟨A', B', h'⟩ := hyz rest
  exact ⟨A ++ A', B' ++ B, by rw [List.append_assoc, h, h']; simp⟩

/-- A run that emits nothing is embedded anywhere. -/
theorem of_trace_nil {x : Ex N α} {z : Ex N β} (q : List String) (h : ∀ rest, (z rest).trace = []) :
    x.Embeds z q := fun rest => ⟨(x (q ++ rest)).trace, [], by simp [h]⟩

/-- What the first part of a run shows, the run shows. -/
theorem bind {x : Ex N α} {z : Ex N γ} {q : List String} (h : x.Embeds z q) (f : α → Ex N β) :
    (x >>= f).Embeds z q := fun rest => by
  obtain ⟨A, B, hAB⟩ := h rest
  rw [Ex.bind_apply, Run.trace_next, hAB]
  exact ⟨A, _, List.append_assoc _ _ _⟩

/-- A line read at the front is an answer at the front. -/
theorem rawInput_bind {prompt l : String} {f : String → Ex N β} {z : Ex N γ} {q : List String}
    (h : (f l).Embeds z q) : (GdbExplore.rawInput prompt >>= f).Embeds z (l :: q) := fun rest => by
  obtain ⟨A, B, hAB⟩ := h rest
  exact ⟨.read prompt l :: A, B, by simp [hAB]⟩

theorem whileTrue {body : Ex N Bool} {z : Ex N γ} {q : List String} (h : body.Embeds z q)
    (n : ℕ) : (GdbExplore.whileTrue body (n + 1)).Embeds z q :=
  h.bind _

theorem mapNode {N' : Type} {x : Ex N α} {z : Ex N γ} {q : List String} (h : x.Embeds z q)
    (f : N → N') : (x.mapNode f).Embeds (z.mapNode f) q := fun rest => by
  obtain ⟨A, B, hAB⟩ := h rest
  simp only [Ex.mapNode, hAB, List.map_append]
  exact ⟨_, _, rfl⟩

end Ex.Embeds

/-- Where the runs of `x` with `d` more fuel embed those of `y`, and `y` explores a node
as soon as it has fuel, `x` explores that node. -/
theorem Ex.explores_of_embeds {x : ℕ → Ex N α} {y : ℕ → Ex N β} {pre : List String} {d : ℕ}
    {p : String} {n : N} {c : Bool} (h : ∀ m, (x (m + d)).Embeds (y m) pre)
    (hy : ∀ m rest, Event.explore p n c ∈ (y (m + 1) rest).trace) : Ex.Explores x p n c := by
  refine ⟨pre, d, fun k hk rest => ?_⟩
  obtain ⟨m, rfl⟩ : ∃ m, k = m + 1 + d := ⟨k - d - 1, by omega⟩
  obtain ⟨A, B, hAB⟩ := h (m + 1) rest
  rw [hAB]
  exact List.mem_append_left _ (List.mem_append_right _ (hy m rest))

/-! ### The moves of `explore_expr` -/

section Values

variable {T V : Type} {G : TypeGraph T} {H : ValueGraph G V} {e : String → V → Bool → Ex V Unit}
  {expr g : String} {v w : V} {c : Bool}

theorem PointerExplorer.exploreExpr_embeds_deref (hg : guardExpr expr = .ok g)
    (hw : H.readable (H.dereference v) = some w) (fuel : ℕ) :
    (PointerExplorer.exploreExpr G H fuel e expr v c).Embeds (e ("*" ++ g) w c) ["y"] := by
  refine (Ex.Yields.say _).embeds_bind (Ex.Embeds.rawInput_bind ?_)
  simp only [if_true, hw, hg, ofExcept_ok, Ex.pure_bind]
  exact (Ex.Embeds.refl _).bind _

theorem PointerExplorer.indexStep_embeds (hg : guardExpr expr = .ok g) (i : ℤ)
    (hw : H.readable (H.getitem v i) = some w) :
    (PointerExplorer.indexStep G H e expr v).Embeds (e (g ++ "[" ++ toString i ++ "]") w true)
      [toString i] := by
  obtain ⟨hw', s, hs⟩ : H.getitem v i = some w ∧ ∃ s, H.str w = some s := by
    simpa [ValueGraph.readable, Option.bind_eq_some] using hw
  refine Ex.Embeds.rawInput_bind ?_
  simp only [pyInt_toString, hg, hw', hs, ofExcept_ok, ofMemory_some, Ex.pure_bind]
  exact (Ex.Embeds.refl _).bind _

theorem PointerExplorer.exploreExpr_embeds_index (hg : guardExpr expr = .ok g) (i : ℤ)
    (hw : H.readable (H.getitem v i) = some w) (fuel : ℕ) :
    (PointerExplorer.exploreExpr G H (fuel + 1) e expr v c).Embeds
      (e (g ++ "[" ++ toString i ++ "]") w true) ["n", "y", toString i] := by
  refine (Ex.Yields.say _).embeds_bind (Ex.Embeds.rawInput_bind ?_)
  simp only [show ("n" = "y") = False by decide, if_false, if_true]
  exact Ex.Embeds.rawInput_bind (((PointerExplorer.indexStep_embeds hg i hw).whileTrue fuel).bind _)

theorem ArrayExplorer.exploreExpr_embeds (hg : guardExpr expr = .ok g) (i : ℤ)
    (hw : H.readable (H.getitem v i) = some w) :
    (ArrayExplorer.exploreExpr G H e expr v c).Embeds (e (g ++ "[" ++ toString i ++ "]") w true)
      [toString i] := by
  refine (Ex.Yields.say _).embeds_bind (Ex.Embeds.rawInput_bind ?_)
  simp only [pyInt_toString, hw, hg, ofExcept_ok, Ex.pure_bind]
  exact (Ex.Embeds.refl _).bind _

theorem ReferenceExplorer.exploreExpr_embeds (hw : H.referencedValue v = some w) :
    (ReferenceExplorer.exploreExpr G H e expr v c).Embeds (e expr w c) [] := by
  unfold ReferenceExplorer.exploreExpr
  simp only [hw, ofMemory_some, Ex.pure_bind]
  exact (Ex.Embeds.refl _).bind _

theorem TypedefExplorer.exploreExpr_embeds (hw : H.cast v (G.stripTypedefs (H.type v)) = some w) :
    (TypedefExplorer.exploreExpr G H e expr v c).Embeds (e expr w c) [] := by
  unfold TypedefExplorer.exploreExpr
  simp only [hw, ofMemory_some, Ex.pure_bind]
  exact (Ex.Yields.say _).embeds_bind ((Ex.Embeds.refl _).bind _)

theorem CompoundExplorer.exploreExpr_embeds {rows : List (Option String × CompoundExplorer.Literal)}
    {choices : List (String × String × V)} {k j : ℕ} {f : Field T}
    (hrows : CompoundExplorer.exprFieldRows G H expr v (G.code (H.type v)) (G.fields (H.type v)) 0 =
      .ok (true, rows, choices))
    (hk : CompoundExplorer.maxFieldNameLength rows = .ok k)
    (hf : (CompoundExplorer.realFields (G.fields (H.type v)))[j]? = some f)
    (hg : guardExpr expr = .ok g) (hw : CompoundExplorer.fieldValue G H v f = .ok w) :
    (CompoundExplorer.exploreExpr G H e expr v c).Embeds (e (g ++ "." ++ showName f.name) w true)
      [toString j] := by
  obtain ⟨u, hu, hl⟩ := CompoundExplorer.exprFieldRows_lookup_field G H hg hrows hf
  cases hw.symm.trans hu
  have hcount : CompoundExplorer.getRealFieldCount (G.fields (H.type v)) ≠ 0 := by
    have := (List.getElem?_eq_some_iff.1 hf).1
    unfold CompoundExplorer.getRealFieldCount
    omega
  unfold CompoundExplorer.exploreExpr
  simp only [hcount, if_false, hrows, ofExcept_ok, Ex.pure_bind]
  refine (Ex.Yields.say _).embeds_bind ((Ex.Yields.printFields hk).embeds_bind
    ((Ex.Yields.say _).embeds_bind ?_))
  simp only [if_true]
  refine Ex.Embeds.rawInput_bind ?_
  simp only [Nat.zero_add] at hl
  simp only [hl]
  exact (Ex.Embeds.refl _).bind _

/-- The dispatcher at a node of class `cl` shows what `cl` shows with one less fuel. -/
theorem Explorer.exploreExpr_embeds_child {p p' : String} {u : V} {c' : Bool} {cl : ExplorerClass}
    (hcl : Explorer.typeCodeToExplorerMap (G.code (H.type u)) = some cl) {ans : List String}
    (h : ∀ k, (cl.exploreExpr G H (k + 1) (Explorer.exploreExpr G H (k + 1)) p u c).Embeds
      (Explorer.exploreExpr G H (k + 1) p' w c') ans) (m : ℕ) :
    (Explorer.exploreExpr G H (m + 1) p u c).Embeds (Explorer.exploreExpr G H m p' w c') ans := by
  rcases m with _ | k
  · exact Ex.Embeds.of_trace_nil _ fun _ => rfl
  rw [Explorer.exploreExpr_succ, hcl]
  exact (Ex.Yields.emit _).embeds_bind ((h k).whileTrue k)

variable (H)

/-- Every move is taken on its own answers, at every fuel. -/
theorem ValueGraph.Child.embeds {p p' : String} {u : V} {c' : Bool} (h : H.Child p u c p' w c') :
    ∃ ans, ∀ m, (Explorer.exploreExpr G H (m + 1) p u c).Embeds
      (Explorer.exploreExpr G H m p' w c') ans := by
  cases h with
  | deref hcl hg hw =>
    exact ⟨_, Explorer.exploreExpr_embeds_child hcl fun k =>
      PointerExplorer.exploreExpr_embeds_deref hg hw (k + 1)⟩
  | index i hcl hg hw =>
    rcases hcl with hcl | hcl
    · exact ⟨_, Explorer.exploreExpr_embeds_child hcl fun k =>
        PointerExplorer.exploreExpr_embeds_index hg i hw k⟩
    · exact ⟨_, Explorer.exploreExpr_embeds_child hcl fun _ =>
        ArrayExplorer.exploreExpr_embeds hg i hw⟩
  | field j f hcl hrows hk hf hg hw =>
    exact ⟨_, Explorer.exploreExpr_embeds_child hcl fun _ =>
      CompoundExplorer.exploreExpr_embeds hrows hk hf hg hw⟩
  | referenced hcl hw =>
    exact ⟨_, Explorer.exploreExpr_embeds_child hcl fun _ =>
      ReferenceExplorer.exploreExpr_embeds hw⟩
  | stripped hcl hw =>
    exact ⟨_, Explorer.exploreExpr_embeds_child hcl fun _ => TypedefExplorer.exploreExpr_embeds hw⟩

/-- A run from the root shows the run from every node it reaches, on the answers of the
moves that lead there. -/
theorem ValueGraph.Reaches.embeds {p : String} {c' : Bool} (h : H.Reaches expr v c p w c') :
    ∃ pre d, ∀ m, (Explorer.exploreExpr G H (m + d) expr v c).Embeds
      (Explorer.exploreExpr G H m p w c') pre := by
  induction h with
  | root => exact ⟨[], 0, fun _ => Ex.Embeds.refl _⟩
  | child _ hc ih =>
    obtain ⟨pre, d, hpre⟩ := ih
    obtain ⟨ans, hans⟩ := hc.embeds
    refine ⟨pre ++ ans, d + 1, fun m => ?_⟩
    rw [← Nat.add_assoc, Nat.add_right_comm]
    exact (hpre (m + 1)).trans (hans m)

/-- **Every reachable node is explored.** For every node that the moves of the explorer
classes reach from the root, there are answers on which a run of `explore_expr`, given
more than some fuel, explores it, whatever is typed after them. -/
theorem Explorer.exploreExpr_reaches_explored {p : String} {c' : Bool}
    (h : H.Reaches expr v c p w c') :
    Ex.Explores (fun n => Explorer.exploreExpr G H n expr v c) p w c' := by
  obtain ⟨pre, d, hpre⟩ := h.embeds
  exact Ex.explores_of_embeds hpre fun _ _ => by simp [Explorer.exploreExpr_succ]

/-- In the one-node circular list the node is reached again, through `next`. -/
theorem circularList_reaches_node :
    circularList.Reaches "n" .node false "*(n.next)" .node true :=
  .child (.child .root
    (.field 1 ⟨some "next", ListType.nodePtr, false, false⟩ rfl rfl rfl rfl rfl rfl))
    (.deref rfl rfl rfl)

theorem exploreExpr_circularList_explored :
    circularList.Reaches "n" .node false "*(n.next)" .node true ∧
      Ex.Explores (fun n => Explorer.exploreExpr listNode circularList n "n" .node false)
        "*(n.next)" .node true :=
  ⟨circularList_reaches_node,
    Explorer.exploreExpr_reaches_explored circularList circularList_reaches_node⟩

end Values

/-! ### The moves of `explore_type` -/

section Types

variable {T : Type} {G : TypeGraph T} {e : String → T → Bool → Ex T Unit} {name : String} {t : T}
  {c : Bool}

theorem PointerExplorer.exploreType_embeds :
    (PointerExplorer.exploreType G e name t c).Embeds
      (e ("the pointee type of " ++ name) (G.target t) c) [] :=
  (Ex.Yields.say _).embeds_bind ((Ex.Embeds.refl _).bind _)

theorem ArrayExplorer.exploreType_embeds :
    (ArrayExplorer.exploreType G e name t c).Embeds
      (e ("the array element of " ++ name) (G.target t) c) [] :=
  (Ex.Yields.say _).embeds_bind ((Ex.Embeds.refl _).bind _)

theorem ReferenceExplorer.exploreType_embeds :
    (ReferenceExplorer.exploreType G e name t c).Embeds (e name (G.target t) c) [] :=
  (Ex.Embeds.refl _).bind _

theorem TypedefExplorer.exploreType_embeds :
    (TypedefExplorer.exploreType G e name t c).Embeds (e name (G.stripTypedefs t) c) [] :=
  (Ex.Yields.say _).embeds_bind ((Ex.Embeds.refl _).bind _)

theorem CompoundExplorer.exploreType_embeds {k j : ℕ} {f : Field T}
    (hk : CompoundExplorer.maxFieldNameLength (CompoundExplorer.typeFieldRows G (G.fields t) 0).1 =
      .ok k)
    (hf : (CompoundExplorer.realFields (G.fields t))[j]? = some f) :
    (CompoundExplorer.exploreType G e name t c).Embeds
      (e (CompoundExplorer.newName name c f.name (CompoundExplorer.fieldDesc f)) f.type true)
      [toString j] := by
  have hl := CompoundExplorer.typeFieldRows_lookup_field G (k := 0) hf
  have hcount : CompoundExplorer.getRealFieldCount (G.fields t) ≠ 0 := by
    have := (List.getElem?_eq_some_iff.1 hf).1
    unfold CompoundExplorer.getRealFieldCount
    omega
  rcases hr : CompoundExplorer.typeFieldRows G (G.fields t) 0 with ⟨rows, choices⟩
  rw [hr] at hk hl
  have hne : choices.isEmpty = false := by
    cases choices
    · cases hl
    · rfl
  unfold CompoundExplorer.exploreType
  simp only [hcount, if_false, hr]
  refine (Ex.Yields.say _).embeds_bind ((Ex.Yields.printFields hk).embeds_bind
    ((Ex.Yields.say _).embeds_bind ?_))
  simp only [hne, Bool.not_false, if_true]
  refine Ex.Embeds.rawInput_bind ?_
  simp only [Nat.zero_add] at hl
  simp only [hl]
  exact (Ex.Embeds.refl _).bind _

/-- The dispatcher at a type of class `cl` shows what `cl` shows with one less fuel. -/
theorem Explorer.exploreType_embeds_child {n n' : String} {s : T} {c' : Bool} {cl : ExplorerClass}
    (hcl : Explorer.typeCodeToExplorerMap (G.code t) = some cl) {ans : List String}
    (h : ∀ k, (cl.exploreType G (Explorer.exploreType G (k + 1)) n t c).Embeds
      (Explorer.exploreType G (k + 1) n' s c') ans) (m : ℕ) :
    (Explorer.exploreType G (m + 1) n t c).Embeds (Explorer.exploreType G m n' s c') ans := by
  rcases m with _ | k
  · exact Ex.Embeds.of_trace_nil _ fun _ => rfl
  rw [Explorer.exploreType_succ, hcl]
  exact (Ex.Yields.emit _).embeds_bind ((h k).whileTrue k)

variable (G)

/-- Every move over types is taken on its own answers, at every fuel. -/
theorem TypeGraph.Child.embeds {n n' : String} {s : T} {c' : Bool} (h : G.Child n t c n' s c') :
    ∃ ans, ∀ m, (Explorer.exploreType G (m + 1) n t c).Embeds
      (Explorer.exploreType G m n' s c') ans := by
  cases h with
  | pointee hcl =>
    exact ⟨_, Explorer.exploreType_embeds_child hcl fun _ => PointerExplorer.exploreType_embeds⟩
  | element hcl =>
    exact ⟨_, Explorer.exploreType_embeds_child hcl fun _ => ArrayExplorer.exploreType_embeds⟩
  | referenced hcl =>
    exact ⟨_, Explorer.exploreType_embeds_child hcl fun _ => ReferenceExplorer.exploreType_embeds⟩
  | stripped hcl =>
    exact ⟨_, Explorer.exploreType_embeds_child hcl fun _ => TypedefExplorer.exploreType_embeds⟩
  | field j f hcl hk hf =>
    exact ⟨_, Explorer.exploreType_embeds_child hcl fun _ =>
      CompoundExplorer.exploreType_embeds hk hf⟩

theorem TypeGraph.Reaches.embeds {n : String} {s : T} {c' : Bool}
    (h : G.Reaches name t c n s c') :
    ∃ pre d, ∀ m, (Explorer.exploreType G (m + d) name t c).Embeds
      (Explorer.exploreType G m n s c') pre := by
  induction h with
  | root => exact ⟨[], 0, fun _ => Ex.Embeds.refl _⟩
  | child _ hc ih =>
    obtain ⟨pre, d, hpre⟩ := ih
    obtain ⟨ans, hans⟩ := hc.embeds
    refine ⟨pre ++ ans, d + 1, fun m => ?_⟩
    rw [← Nat.add_assoc, Nat.add_right_comm]
    exact (hpre (m + 1)).trans (hans m)

/-- **Every reachable type is explored.** For every type that the moves of the explorer
classes reach from the root, under the name they build, there are answers on which a run
of `explore_type`, given more than some fuel, explores it, whatever is typed after them. -/
theorem Explorer.exploreType_reaches_explored {n : String} {s : T} {c' : Bool}
    (h : G.Reaches name t c n s c') :
    Ex.Explores (fun k => Explorer.exploreType G k name t c) n s c' := by
  obtain ⟨pre, d, hpre⟩ := h.embeds
  exact Ex.explores_of_embeds hpre fun _ _ => by simp [Explorer.exploreType_succ]

/-- In `struct node`, the pointee of `next` is `struct node` again. -/
theorem listNode_reaches_node :
    listNode.Reaches "struct node" .node false "the pointee type of field 'next' of 'struct node'"
      .node true :=
  .child (.child .root (.field 1 ⟨some "next", ListType.nodePtr, false, false⟩ rfl rfl rfl))
    (.pointee rfl)

theorem exploreType_listNode_explored :
    listNode.Reaches "struct node" .node false "the pointee type of field 'next' of 'struct node'"
      .node true ∧
      Ex.Explores (fun k => Explorer.exploreType listNode k "struct node" .node false)
        "the pointee type of field 'next' of 'struct node'" .node true :=
  ⟨listNode_reaches_node, Explorer.exploreType_reaches_explored listNode listNode_reaches_node⟩

end Types

/-! ### The commands -/

section Commands

variable {T V : Type} (g : Gdb T V)

/-- **The commands explore all they can reach.** With an argument, for every node that
`explore`, `explore value` or `explore type` can explore, by `ExploreCommand.Reaches`
and its siblings, there are answers on which the command, given more than some fuel,
explores it, whatever is typed after them. -/
theorem explore_commands_complete {arg : String} (harg : arg ≠ "") :
    (∀ p n c, ExploreCommand.Reaches g arg p n c →
      Ex.Explores (fun k => ExploreCommand.invoke g k arg) p n c) ∧
    (∀ p w c, ExploreValueCommand.Reaches g arg p w c →
      Ex.Explores (fun k => ExploreValueCommand.invoke g k arg) p w c) ∧
    (∀ p t c, ExploreTypeCommand.Reaches g arg p t c →
      Ex.Explores (fun k => ExploreTypeCommand.invoke g k arg) p t c) := by
  refine ⟨fun p n c h => ?_, fun p w c ⟨v, hv, h⟩ => ?_, fun p t c h => ?_⟩
  · rcases n with w | s
    · obtain ⟨v, hv, h⟩ := h
      obtain ⟨pre, d, hpre⟩ := h.embeds
      simp only [ExploreCommand.invoke_of_value g harg hv]
      exact Ex.explores_of_embeds (fun m => (hpre m).mapNode _) fun _ _ => by
        simp [Ex.mapNode, Explorer.exploreExpr_succ]
    · obtain ⟨hv, t, ht, h⟩ := h
      obtain ⟨pre, d, hpre⟩ := h.embeds
      simp only [ExploreCommand.invoke_of_type g harg hv ht]
      exact Ex.explores_of_embeds (fun m => (hpre m).mapNode _) fun _ _ => by
        simp [Ex.mapNode, Explorer.exploreType_succ]
  · obtain ⟨pre, d, hpre⟩ := h.embeds
    simp only [ExploreValueCommand.invoke_of_value g harg hv]
    exact Ex.explores_of_embeds hpre fun _ _ => by simp [Explorer.exploreExpr_succ]
  · rcases h with ⟨t, ht, h⟩ | ⟨ht, v, hv, h⟩
    · obtain ⟨pre, d, hpre⟩ := h.embeds
      simp only [ExploreTypeCommand.invoke_of_type g harg ht]
      exact Ex.explores_of_embeds hpre fun _ _ => by simp [Explorer.exploreType_succ]
    · obtain ⟨pre, d, hpre⟩ := h.embeds
      simp only [ExploreTypeCommand.invoke_of_value g harg ht hv]
      exact Ex.explores_of_embeds (fun m => (Ex.Yields.say _).embeds_bind (hpre m)) fun _ _ => by
        simp [Explorer.exploreType_succ]

/-- A session of the program with the circular list `n`, of type `struct node`. -/
def listSession : Gdb ListType ListValue where
  types := listNode
  values := circularList
  parseAndEval s := if s = "n" then some .node else none
  lookupType s := if s = "struct node" then some .node else none

theorem explore_commands_complete_n :
    "n" ≠ "" ∧
      (∀ p n c, ExploreCommand.Reaches listSession "n" p n c →
        Ex.Explores (fun k => ExploreCommand.invoke listSession k "n") p n c) ∧
      (∀ p w c, ExploreValueCommand.Reaches listSession "n" p w c →
        Ex.Explores (fun k => ExploreValueCommand.invoke listSession k "n") p w c) ∧
      (∀ p t c, ExploreTypeCommand.Reaches listSession "n" p t c →
        Ex.Explores (fun k => ExploreTypeCommand.invoke listSession k "n") p t c) :=
  ⟨by decide, explore_commands_complete listSession (by decide)⟩

end Commands

end GdbExplore
