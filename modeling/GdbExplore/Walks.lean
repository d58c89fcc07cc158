import GdbExplore.Paths

/-!
# An exploration is a depth-first walk

`explore_expr` explores a node, then, as the user chooses, its children one after
another, each to its end, before it goes back to the node. `ValueGraph.Walk` is the
shape of the events of such a walk: the node's `explore` event first; after it,
events that explore nothing, and walks of its children, each entered by one move
and each as one block. The walk of a run that ends early, by an exception or for
lack of fuel, is cut short, and is still a walk.

The proof is one more property closed under the primitives (`Ex.Continues`): a run
that turns every walk of a node into a longer walk of that node. `TypeGraph.Walk`
is the same for `explore_type`.

## What is proved

* `Explorer.exploreExpr_trace_walk`: from a non-empty path, on every value graph,
  input and fuel, the events of a run of `explore_expr` are none or a walk from
  its root: the root is explored first, and each child, entered by one move, is
  explored to its end before its parent goes on.
* `Explorer.exploreType_trace_walk`: the same for `explore_type`.
-/

namespace GdbExplore

variable {N α : Type}

/-! ### Runs that continue a walk -/

/-- Every run of `x` continues each trace that `W` accepts into one that `W` accepts. -/
def Ex.Continues (W : List (Event N) → Prop) (x : Ex N α) : Prop :=
  ∀ inp tr, W tr → W (tr ++ (x inp).trace)

theorem Ex.Continues.raise {W : List (Event N) → Prop} (e : Exc) :
    (raise e : Ex N α).Continues W := fun _ _ h => by simpa using h

/-- Where `W` accepts one more event that explores nothing after what it accepts,
continuing it is closed under the primitives. -/
theorem Ex.Continues.closed {W : List (Event N) → Prop}
    (hW : ∀ tr ev, W tr → (∀ p n c, ev ≠ .explore p n c) → W (tr ++ [ev])) :
    Ex.Closed fun x => x.Continues W where
  pure _ _ _ h := by simpa using h
  say _ _ tr h := hW tr _ h fun _ _ _ => Event.noConfusion
  rawInput _ inp tr h := by
    cases inp
    · simpa using h
    · exact hW tr _ h fun _ _ _ => Event.noConfusion
  typeError _ := Ex.Continues.raise _
  outOfFuel _ _ h := by simpa using h
  bind {_ _ x f} hx hf inp tr h := by
    have hx' := hx inp tr h
    rw [Ex.bind_apply, Run.trace_next, ← List.append_assoc]
    rcases hr : (x inp).res with a | _ | _
    · exact hf a ⟨inp, hr⟩ _ _ hx'
    · simpa using hx'
    · simpa using hx'

/-! ### Walks of values -/

section Values

variable {T V : Type} {G : TypeGraph T} (H : ValueGraph G V)

/-- The events of a depth-first walk of the moves from the node `(p, u, c)`. -/
inductive ValueGraph.Walk : String → V → Bool → List (Event V) → Prop
  /-- The node is explored first. -/
  | start {p : String} {u : V} {c : Bool} : ValueGraph.Walk p u c [.explore p u c]
  /-- An event that explores nothing. -/
  | event {p : String} {u : V} {c : Bool} {tr : List (Event V)} {ev : Event V} :
      ValueGraph.Walk p u c tr → (∀ p' w c', ev ≠ .explore p' w c') →
      ValueGraph.Walk p u c (tr ++ [ev])
  /-- The walk of a child, as one block. -/
  | child {p : String} {u : V} {c : Bool} {tr : List (Event V)} {p' : String} {w : V} {c' : Bool}
      {tr' : List (Event V)} :
      ValueGraph.Walk p u c tr → H.Child p u c p' w c' → ValueGraph.Walk p' w c' tr' →
      ValueGraph.Walk p u c (tr ++ tr')

/-- **An exploration is a depth-first walk.** From a non-empty path, on every value
graph, every input and every fuel, the events of a run of `explore_expr` are none, or
the events of a depth-first walk of the moves from its root: the root is explored
first; each child is entered by one move, and explored, to the end of its own walk,
as one block of events inside its parent's. -/
theorem Explorer.exploreExpr_trace_walk :
    ∀ n p u c, p ≠ "" → ∀ inp, (Explorer.exploreExpr G H n p u c inp).trace = [] ∨
      H.Walk p u c (Explorer.exploreExpr G H n p u c inp).trace
  | 0, _, _, _, _, _ => .inl rfl
  | n + 1, p, u, c, hp, inp => by
    have hP := Ex.Continues.closed (W := H.Walk p u c) fun _ _ h hev => .event h hev
    -- a call back into the dispatcher continues the walk of its parent
    have he : ∀ p' w c', H.Child p u c p' w c' →
        (Explorer.exploreExpr G H n p' w c').Continues (H.Walk p u c) :=
      fun p' w c' hc inp' tr htr => by
        rcases Explorer.exploreExpr_trace_walk n p' w c' (hc.path_ne_empty H hp) inp' with h | h
        · rw [h, List.append_nil]
          exact htr
        · exact .child htr hc h
    have hbody : (match Explorer.typeCodeToExplorerMap (G.code (H.type u)) with
        | some cl => whileTrue (cl.exploreExpr G H n (Explorer.exploreExpr G H n) p u c) n
        | none => say ("Explorer for type '" ++ G.name (H.type u) ++
            "' not yet available.\n")).Continues (H.Walk p u c) := by
      rcases hcl : Explorer.typeCodeToExplorerMap (G.code (H.type u)) with _ | cl
      · exact hP.say _
      · exact hP.whileTrue
          (ExplorerClass.exploreExpr_closed H hP (Ex.Continues.raise _) he hp hcl n) n
    refine .inr ?_
    rw [Explorer.exploreExpr_succ, Ex.bind_apply, Run.trace_next]
    exact hbody _ _ .start

theorem exploreExpr_circularList_walk :
    "n" ≠ "" ∧ ∀ k inp,
      (Explorer.exploreExpr listNode circularList k "n" .node false inp).trace = [] ∨
        circularList.Walk "n" .node false
          (Explorer.exploreExpr listNode circularList k "n" .node false inp).trace :=
  ⟨by decide, fun k => Explorer.exploreExpr_trace_walk circularList k "n" .node false (by decide)⟩

end Values

/-! ### Walks of types -/

section Types

variable {T : Type} (G : TypeGraph T)

/-- The events of a depth-first walk of the moves over types from `(name, t, c)`. -/
inductive TypeGraph.Walk : String → T → Bool → List (Event T) → Prop
  /-- The type is explored first. -/
  | start {name : String} {t : T} {c : Bool} : TypeGraph.Walk name t c [.explore name t c]
  /-- An event that explores nothing. -/
  | event {name : String} {t : T} {c : Bool} {tr : List (Event T)} {ev : Event T} :
      TypeGraph.Walk name t c tr → (∀ n s c', ev ≠ .explore n s c') →
      TypeGraph.Walk name t c (tr ++ [ev])
  /-- The walk of a child, as one block. -/
  | child {name : String} {t : T} {c : Bool} {tr : List (Event T)} {n : String} {s : T}
      {c' : Bool} {tr' : List (Event T)} :
      TypeGraph.Walk name t c tr → G.Child name t c n s c' → TypeGraph.Walk n s c' tr' →
      TypeGraph.Walk name t c (tr ++ tr')

/-- **A type exploration is a depth-first walk.** On every type graph, every input and
every fuel, the events of a run of `explore_type` are none, or the events of a
depth-first walk of the moves over types from its root, each child explored as one
block inside its parent's. -/
theorem Explorer.exploreType_trace_walk :
    ∀ k name t c inp, (Explorer.exploreType G k name t c inp).trace = [] ∨
      G.Walk name t c (Explorer.exploreType G k name t c inp).trace
  | 0, _, _, _, _ => .inl rfl
  | k + 1, name, t, c, inp => by
    have hP := Ex.Continues.closed (W := G.Walk name t c) fun _ _ h hev => .event h hev
    -- a call back into the dispatcher continues the walk of its parent
    have he : ∀ n s c', G.Child name t c n s c' →
        (Explorer.exploreType G k n s c').Continues (G.Walk name t c) :=
      fun n s c' hc inp' tr htr => by
        rcases Explorer.exploreType_trace_walk k n s c' inp' with h | h
        · rw [h, List.append_nil]
          exact htr
        · exact .child htr hc h
    have hbody : (match Explorer.typeCodeToExplorerMap (G.code t) with
        | some cl => whileTrue (cl.exploreType G (Explorer.exploreType G k) name t c) k
        | none => say ("Explorer for type '" ++ G.name t ++
            "' not yet available.\n")).Continues (G.Walk name t c) := by
      rcases hcl : Explorer.typeCodeToExplorerMap (G.code t) with _ | cl
      · exact hP.say _
      · exact hP.whileTrue (ExplorerClass.exploreType_closed G hP he hcl) k
    refine .inr ?_
    rw [Explorer.exploreType_succ, Ex.bind_apply, Run.trace_next]
    exact hbody _ _ .start

end Types

end GdbExplore
