import GdbExplore.Termination.Values
import GdbExplore.Navigation

/-!
# What an exploration visits

`Explorer.explore_expr` never evaluates the paths it prints. It moves from a value
to the next only through the value's own gdb operations, chosen by the value's
explorer class, and builds the next path from the current one:
`*guard_expr(expr)` for a pointee, `guard_expr(expr)[i]` for an element,
`guard_expr(expr).name` for a field, the same path for a referent or a stripped
typedef. `ValueGraph.Child` lists these moves, and `ValueGraph.Reaches` is what
they reach from a root. `explore_type` moves the same way over types, with the
names it builds (`TypeGraph.Child`, `TypeGraph.Reaches`).

A run is bounded by `Ex.Within R Q`: every node it explores satisfies `R`, and
every exception it raises satisfies `Q`. The explorer classes are gone through once,
for every property `Ex.Closed` calls closed: one that the primitives have and `bind`
keeps. Each class then has it wherever its calls back into the dispatcher have it;
the bound is such a property, and the dispatcher's recursion carries it through
every run.

## What is proved

* `Explorer.exploreExpr_visits`: from a non-empty path, every run of
  `explore_expr`, on every value graph (cycles included), every input and every
  fuel, explores only nodes reached from the root by the moves above, under the
  paths they build, and raises only `EOFError`, `gdb.MemoryError` or a `TypeError`.
* `Explorer.exploreType_visits`: the same for `explore_type`, which raises only
  `EOFError` and the `TypeError` of an anonymous field.
* `explore_commands_bounds`: each command explores only what is reached from its
  argument (`explore` a type only where the argument is no value), never raises
  `guard_expr`'s `IndexError`, and raises `gdb.GdbError` only before it has read,
  printed or explored anything, naming the command where the argument is empty and
  the argument where it is not.
* `explore_nullInt_memoryError`: a `gdb.MemoryError` does leave the commands:
  `explore *(int *)0` ends in it, whatever the user types.
-/

namespace GdbExplore

variable {N N' α β : Type}

/-! ### Runs within bounds -/

/-- Every run of `x`, on every input, explores only what `R` allows and raises only
what `Q` allows. -/
structure Ex.Within (R : String → N → Bool → Prop) (Q : Exc → Prop) (x : Ex N α) : Prop where
  explores : ∀ inp p n c, Event.explore p n c ∈ (x inp).trace → R p n c
  raises : ∀ inp e, (x inp).res = .raise e → Q e

/-- Some run of `x` returns `a`. -/
def Ex.Returns (x : Ex N α) (a : α) : Prop := ∃ inp, (x inp).res = .ok a

theorem Ex.returns_ofMemory {o : Option α} {a : α} (h : (ofMemory o : Ex N α).Returns a) :
    o = some a := by
  obtain ⟨_, h⟩ := h
  cases o <;> simp_all

theorem Ex.returns_ofExcept {x : Except Exc α} {a : α} (h : (ofExcept x : Ex N α).Returns a) :
    x = .ok a := by
  obtain ⟨_, h⟩ := h
  cases x <;> simp_all

/-- A `_print_fields` that returns has measured every name. -/
theorem CompoundExplorer.returns_printFields
    {rows : List (Option String × CompoundExplorer.Literal)}
    {a : Unit} (h : (CompoundExplorer.printFields rows : Ex N Unit).Returns a) :
    ∃ k, CompoundExplorer.maxFieldNameLength rows = .ok k := by
  obtain ⟨inp, h⟩ := h
  rw [CompoundExplorer.printFields_apply] at h
  rcases hm : CompoundExplorer.maxFieldNameLength rows with _ | k
  · rw [hm] at h
    cases h
  · exact ⟨k, rfl⟩

namespace Ex.Within

variable {R : String → N → Bool → Prop} {Q : Exc → Prop}

theorem pure (a : α) : (Pure.pure a : Ex N α).Within R Q := ⟨by simp, by simp⟩

theorem say (s : String) : (GdbExplore.say s : Ex N Unit).Within R Q := ⟨by simp, by simp⟩

theorem outOfFuel : (GdbExplore.outOfFuel : Ex N α).Within R Q := ⟨by simp, by simp⟩

theorem raise {e : Exc} (h : Q e) : (GdbExplore.raise e : Ex N α).Within R Q :=
  ⟨by simp, fun _ _ he => by cases he; exact h⟩

theorem emit {p : String} {n : N} {c : Bool} (h : R p n c) :
    (GdbExplore.emit (.explore p n c)).Within R Q := by
  refine ⟨fun _ _ _ _ he => ?_, by simp⟩
  simp only [emit_apply, List.mem_singleton, Event.explore.injEq] at he
  obtain ⟨rfl, rfl, rfl⟩ := he
  exact h

theorem rawInput (heof : Q .eof) (prompt : String) :
    (GdbExplore.rawInput prompt : Ex N String).Within R Q :=
  ⟨fun inp => by cases inp <;> simp, fun inp _ he => by cases inp <;> simp at he; exact he ▸ heof⟩

/-- The bound is kept by `bind`, where what follows is bounded after each value
the first part can return. -/
theorem bind {x : Ex N α} {f : α → Ex N β} (hx : x.Within R Q)
    (hf : ∀ a, x.Returns a → (f a).Within R Q) : (x >>= f).Within R Q := by
  constructor
  · intro inp p n c h
    rw [Ex.bind_apply, Run.trace_next, List.mem_append] at h
    rcases h with h | h
    · exact hx.explores inp p n c h
    · rcases hr : (x inp).res with a | _ | _ <;> rw [hr] at h
      · exact (hf a ⟨inp, hr⟩).explores _ p n c h
      · cases h
      · cases h
  · intro inp e h
    rw [Ex.bind_apply] at h
    rcases hr : x inp with ⟨a | e' | _, u, tr⟩ <;> rw [hr] at h
    · exact (hf a ⟨inp, by rw [hr]⟩).raises _ e h
    · cases h
      exact hx.raises inp e (by rw [hr])
    · cases h

theorem mono {R' : String → N → Bool → Prop} {Q' : Exc → Prop} {x : Ex N α} (h : x.Within R Q)
    (hR : ∀ p n c, R p n c → R' p n c) (hQ : ∀ e, Q e → Q' e) : x.Within R' Q' :=
  ⟨fun inp p n c he => hR _ _ _ (h.explores inp p n c he), fun inp e he => hQ _ (h.raises inp e he)⟩

theorem mapNode {R' : String → N' → Bool → Prop} {f : N → N'} {x : Ex N α} (h : x.Within R Q)
    (hR : ∀ p n c, R p n c → R' p (f n) c) : (x.mapNode f).Within R' Q := by
  constructor
  · intro inp p n c he
    simp only [Ex.mapNode, List.mem_map] at he
    obtain ⟨ev, hev, he⟩ := he
    rcases ev with _ | _ | ⟨p', n', c'⟩ <;> simp only [Event.explore.injEq, reduceCtorEq] at he
    obtain ⟨rfl, rfl, rfl⟩ := he
    exact hR _ _ _ (h.explores inp _ _ _ hev)
  · exact fun inp e he => h.raises inp e he

end Ex.Within

/-! ### Properties that the primitives keep -/

/-- A property of computations that holds of `pure`, `print`, `raw_input`, a raised
`TypeError` and a spent fuel, and that `bind` keeps where what follows has it after
each value the first part can return. Every explorer class has such a property
wherever its calls back into the dispatcher have it. -/
structure Ex.Closed (P : ∀ {α : Type}, Ex N α → Prop) : Prop where
  pure : ∀ {α : Type} (a : α), P (Pure.pure a : Ex N α)
  say : ∀ s, P (GdbExplore.say s : Ex N Unit)
  rawInput : ∀ prompt, P (GdbExplore.rawInput prompt : Ex N String)
  typeError : ∀ {α : Type} (m : String), P (raise (.typeError m) : Ex N α)
  outOfFuel : ∀ {α : Type}, P (GdbExplore.outOfFuel : Ex N α)
  bind : ∀ {α β : Type} {x : Ex N α} {f : α → Ex N β}, P x → (∀ a, x.Returns a → P (f a)) →
    P (x >>= f)

namespace Ex.Closed

variable {P : ∀ {α : Type}, Ex N α → Prop} (hP : Ex.Closed P)
include hP

theorem ofMemory (hmem : P (raise .memoryError : Ex N α)) (o : Option α) :
    P (GdbExplore.ofMemory o : Ex N α) := by
  cases o
  · exact hmem
  · exact hP.pure _

theorem whileTrue {body : Ex N Bool} (h : P body) : ∀ n, P (GdbExplore.whileTrue body n)
  | 0 => hP.outOfFuel
  | n + 1 => hP.bind h fun b _ => by
    cases b
    · exact hP.pure ()
    · exact whileTrue h n

/-- The tail of an explorer: `if is_child:` one step, then `return False`. -/
theorem ifChild {x : Ex N Unit} (hx : P x) (c : Bool) :
    P (if c = true then x >>= fun _ => Pure.pure false
      else Pure.pure () >>= fun _ => Pure.pure false) := by
  cases c
  · exact hP.bind (hP.pure ()) fun _ _ => hP.pure _
  · exact hP.bind hx fun _ _ => hP.pure _

theorem returnToParentValuePrompt : P (Explorer.returnToParentValuePrompt : Ex N Unit) :=
  hP.bind (hP.rawInput _) fun _ _ => hP.pure _

theorem returnToEnclosingTypePrompt : P (Explorer.returnToEnclosingTypePrompt : Ex N Unit) :=
  hP.bind (hP.rawInput _) fun _ _ => hP.pure _

/-- `_print_fields` prints, or raises the `TypeError` of an anonymous field. -/
theorem printFields (rows : List (Option String × CompoundExplorer.Literal)) :
    P (CompoundExplorer.printFields rows : Ex N Unit) := by
  have hrows : ∀ w rows, P (CompoundExplorer.printRows w rows : Ex N Unit) := fun w rows => by
    induction rows with
    | nil => exact hP.pure ()
    | cons row rows ih => exact hP.bind (hP.say _) fun _ _ => ih
  refine hP.bind ?_ fun w _ => hrows w rows
  rcases hm : CompoundExplorer.maxFieldNameLength rows with e | w
  · rw [ofExcept_error, CompoundExplorer.maxFieldNameLength_error hm]
    exact hP.typeError _
  · exact hP.pure w

end Ex.Closed

/-- A bound that allows `EOFError` and every `TypeError` is kept by the primitives. -/
theorem Ex.Within.closed {R : String → N → Bool → Prop} {Q : Exc → Prop} (heof : Q .eof)
    (htype : ∀ m, Q (.typeError m)) : Ex.Closed fun x => x.Within R Q :=
  ⟨Ex.Within.pure, Ex.Within.say, Ex.Within.rawInput heof, fun _ => Ex.Within.raise (htype _),
    Ex.Within.outOfFuel, Ex.Within.bind⟩

/-! ### The moves of `explore_expr` -/

section Values

variable {T V : Type} {G : TypeGraph T} (H : ValueGraph G V)

/-- `Explorer.explore_expr(expr, v, isChild)` calls `Explorer.explore_expr(p, w, c)`
itself, by a move of the explorer class of `v`'s type code. -/
inductive ValueGraph.Child : String → V → Bool → String → V → Bool → Prop
  /-- `PointerExplorer`, answered "y": the pointee, if it can be read. -/
  | deref {expr : String} {v : V} {c : Bool} {g : String} {w : V} :
      Explorer.typeCodeToExplorerMap (G.code (H.type v)) = some .pointer →
      guardExpr expr = .ok g → H.readable (H.dereference v) = some w →
      ValueGraph.Child expr v c ("*" ++ g) w c
  /-- `PointerExplorer` as an array, or `ArrayExplorer`: an element that can be read. -/
  | index {expr : String} {v : V} {c : Bool} {g : String} {w : V} (i : ℤ) :
      (Explorer.typeCodeToExplorerMap (G.code (H.type v)) = some .pointer ∨
        Explorer.typeCodeToExplorerMap (G.code (H.type v)) = some .array) →
      guardExpr expr = .ok g → H.readable (H.getitem v i) = some w →
      ValueGraph.Child expr v c (g ++ "[" ++ toString i ++ "]") w true
  /-- `CompoundExplorer`: the field numbered `j`, by name or as a base class, of a menu
  that is printed and asks for a choice. -/
  | field {expr : String} {v : V} {c : Bool} {g : String} {w : V}
      {rows : List (Option String × CompoundExplorer.Literal)} {choices : List (String × String × V)}
      {k : ℕ} (j : ℕ) (f : Field T) :
      Explorer.typeCodeToExplorerMap (G.code (H.type v)) = some .compound →
      CompoundExplorer.exprFieldRows G H expr v (G.code (H.type v)) (G.fields (H.type v)) 0 =
        .ok (true, rows, choices) →
      CompoundExplorer.maxFieldNameLength rows = .ok k →
      (CompoundExplorer.realFields (G.fields (H.type v)))[j]? = some f → guardExpr expr = .ok g →
      CompoundExplorer.fieldValue G H v f = .ok w →
      ValueGraph.Child expr v c (g ++ "." ++ showName f.name) w true
  /-- `ReferenceExplorer`: the referenced value, under the same path. -/
  | referenced {expr : String} {v : V} {c : Bool} {w : V} :
      Explorer.typeCodeToExplorerMap (G.code (H.type v)) = some .reference →
      H.referencedValue v = some w → ValueGraph.Child expr v c expr w c
  /-- `TypedefExplorer`: the value cast to its stripped type, under the same path. -/
  | stripped {expr : String} {v : V} {c : Bool} {w : V} :
      Explorer.typeCodeToExplorerMap (G.code (H.type v)) = some .typedef →
      H.cast v (G.stripTypedefs (H.type v)) = some w → ValueGraph.Child expr v c expr w c

/-- What a run of `Explorer.explore_expr(expr, v, isChild)` can explore: the root,
and every child of what it can explore. -/
inductive ValueGraph.Reaches (expr : String) (v : V) (isChild : Bool) :
    String → V → Bool → Prop
  | root : ValueGraph.Reaches expr v isChild expr v isChild
  | child {p : String} {u : V} {c : Bool} {p' : String} {w : V} {c' : Bool} :
      ValueGraph.Reaches expr v isChild p u c → H.Child p u c p' w c' →
      ValueGraph.Reaches expr v isChild p' w c'

/-- A move keeps a path non-empty. -/
theorem ValueGraph.Child.path_ne_empty {p : String} {u : V} {c : Bool} {p' : String} {w : V}
    {c' : Bool} (h : H.Child p u c p' w c') (hp : p ≠ "") : p' ≠ "" := by
  cases h with
  | deref => exact deref_path_ne_empty _
  | index i => exact index_path_ne_empty _ i
  | field => exact field_path_ne_empty _ _
  | referenced | stripped => exact hp

theorem ValueGraph.Reaches.path_ne_empty {expr : String} {v : V} {isChild : Bool} {p : String}
    {w : V} {c : Bool} (h : H.Reaches expr v isChild p w c) (hexpr : expr ≠ "") : p ≠ "" := by
  induction h with
  | root => exact hexpr
  | child _ hc ih => exact hc.path_ne_empty H ih

section Handlers

variable {H} {P : ∀ {α : Type}, Ex V α → Prop} (hP : Ex.Closed P)
  (hmem : ∀ {α : Type}, P (raise .memoryError : Ex V α)) {e : String → V → Bool → Ex V Unit}
  {expr : String} {v : V} {c : Bool}
include hP hmem

theorem ScalarExplorer.exploreExpr_closed : P (ScalarExplorer.exploreExpr G H expr v c) := by
  refine hP.bind (hP.say _) fun _ _ => hP.bind (hP.ofMemory hmem _) fun _ _ =>
    hP.bind (hP.say _) fun _ _ => ?_
  cases c
  · exact hP.bind (hP.pure ()) fun _ _ => hP.pure _
  · exact hP.bind hP.returnToParentValuePrompt fun _ _ => hP.bind (hP.say _) fun _ _ => hP.pure _

variable (he : ∀ p w c', H.Child expr v c p w c' → P (e p w c'))
include he

theorem ReferenceExplorer.exploreExpr_closed
    (hcl : Explorer.typeCodeToExplorerMap (G.code (H.type v)) = some .reference) :
    P (ReferenceExplorer.exploreExpr G H e expr v c) :=
  hP.bind (hP.ofMemory hmem _) fun _ hw =>
    hP.bind (he _ _ _ (.referenced hcl (Ex.returns_ofMemory hw))) fun _ _ => hP.pure _

theorem TypedefExplorer.exploreExpr_closed
    (hcl : Explorer.typeCodeToExplorerMap (G.code (H.type v)) = some .typedef) :
    P (TypedefExplorer.exploreExpr G H e expr v c) :=
  hP.bind (hP.say _) fun _ _ => hP.bind (hP.ofMemory hmem _) fun _ hw =>
    hP.bind (he _ _ _ (.stripped hcl (Ex.returns_ofMemory hw))) fun _ _ => hP.pure _

variable (hexpr : expr ≠ "")
include hexpr

theorem PointerExplorer.indexStep_closed
    (hcl : Explorer.typeCodeToExplorerMap (G.code (H.type v)) = some .pointer) :
    P (PointerExplorer.indexStep G H e expr v) := by
  obtain ⟨g, hg⟩ := guardExpr_ok hexpr
  refine hP.bind (hP.rawInput _) fun line _ => ?_
  rcases pyInt line with _ | i
  · exact hP.pure _
  simp only [hg, ofExcept_ok, Ex.pure_bind]
  refine hP.bind (hP.ofMemory hmem _) fun w hw => ?_
  rcases hs : H.str w with _ | s <;> dsimp only
  · exact hP.bind (hP.say _) fun _ _ => hP.pure _
  · have hr : H.readable (H.getitem v i) = some w := by
      simp [ValueGraph.readable, Ex.returns_ofMemory hw, hs]
    exact hP.bind (he _ _ _ (.index i (.inl hcl) hg hr)) fun _ _ => hP.pure _

theorem PointerExplorer.exploreExpr_closed
    (hcl : Explorer.typeCodeToExplorerMap (G.code (H.type v)) = some .pointer) (fuel : ℕ) :
    P (PointerExplorer.exploreExpr G H fuel e expr v c) := by
  obtain ⟨g, hg⟩ := guardExpr_ok hexpr
  refine hP.bind (hP.say _) fun _ _ => hP.bind (hP.rawInput _) fun option _ => ?_
  by_cases hy : option = "y" <;> simp only [hy, if_true, if_false]
  · rcases hd : H.readable (H.dereference v) with _ | w <;> dsimp only
    · exact hP.bind (hP.say _) fun _ _ => hP.ifChild hP.returnToParentValuePrompt c
    · simp only [hg, ofExcept_ok, Ex.pure_bind]
      exact hP.bind (he _ _ _ (.deref hcl hg hd)) fun _ _ => hP.pure _
  · refine hP.bind (hP.rawInput _) fun option _ => ?_
    by_cases hy' : option = "y" <;> simp only [hy', if_true, if_false]
    · exact hP.bind (hP.whileTrue (PointerExplorer.indexStep_closed hP hmem he hexpr hcl) fuel)
        fun _ _ => hP.pure _
    · exact hP.ifChild (hP.say _) c

omit hmem in
theorem ArrayExplorer.exploreExpr_closed
    (hcl : Explorer.typeCodeToExplorerMap (G.code (H.type v)) = some .array) :
    P (ArrayExplorer.exploreExpr G H e expr v c) := by
  obtain ⟨g, hg⟩ := guardExpr_ok hexpr
  refine hP.bind (hP.say _) fun _ _ => hP.bind (hP.rawInput _) fun line _ => ?_
  rcases pyInt line with _ | i <;> dsimp only
  · exact hP.ifChild (hP.say _) c
  rcases hw : H.readable (H.getitem v i) with _ | w <;> dsimp only
  · exact hP.bind (hP.say _) fun _ _ => hP.bind (hP.rawInput _) fun _ _ => hP.pure _
  · simp only [hg, ofExcept_ok, Ex.pure_bind]
    exact hP.bind (he _ _ _ (.index i (.inr hcl) hg hw)) fun _ _ => hP.pure _

theorem CompoundExplorer.exploreExpr_closed
    (hcl : Explorer.typeCodeToExplorerMap (G.code (H.type v)) = some .compound) :
    P (CompoundExplorer.exploreExpr G H e expr v c) := by
  unfold CompoundExplorer.exploreExpr
  dsimp only
  split
  · exact hP.bind (hP.say _) fun _ _ => hP.ifChild hP.returnToParentValuePrompt c
  refine hP.bind (hP.say _) fun _ _ => hP.bind ?_ fun r hr => ?_
  · rcases hrows : CompoundExplorer.exprFieldRows G H expr v (G.code (H.type v))
      (G.fields (H.type v)) 0 with err | r
    · rcases CompoundExplorer.exprFieldRows_error G H hexpr hrows with rfl | ⟨m, rfl⟩
      · exact hmem
      · exact hP.typeError m
    · exact hP.pure r
  obtain ⟨hasEx, rows, choices⟩ := r
  refine hP.bind (hP.printFields rows) fun _ hp => hP.bind (hP.say _) fun _ _ => ?_
  obtain ⟨k, hk⟩ := CompoundExplorer.returns_printFields hp
  cases hasEx <;> dsimp only
  · exact hP.ifChild hP.returnToParentValuePrompt c
  refine hP.bind (hP.rawInput _) fun l _ => ?_
  rcases hl : choices.lookup l with _ | ⟨path, w⟩ <;> dsimp only
  · exact hP.ifChild (hP.say _) c
  · obtain ⟨g, j, f, hg, hf, -, rfl, hw⟩ :=
      CompoundExplorer.exprFieldRows_lookup G H (Ex.returns_ofExcept hr) hl
    exact hP.bind (he _ _ _ (.field j f hcl (Ex.returns_ofExcept hr) hk hf hg hw)) fun _ _ =>
      hP.pure _

end Handlers

/-- Each explorer class has every closed property that the calls it makes back into the
dispatcher have, from a non-empty path. -/
theorem ExplorerClass.exploreExpr_closed {P : ∀ {α : Type}, Ex V α → Prop} (hP : Ex.Closed P)
    (hmem : ∀ {α : Type}, P (raise .memoryError : Ex V α)) {e : String → V → Bool → Ex V Unit}
    {expr : String} {v : V} {c : Bool} (he : ∀ p w c', H.Child expr v c p w c' → P (e p w c'))
    (hexpr : expr ≠ "") {cl : ExplorerClass}
    (hcl : Explorer.typeCodeToExplorerMap (G.code (H.type v)) = some cl) (fuel : ℕ) :
    P (cl.exploreExpr G H fuel e expr v c) := by
  cases cl with
  | scalar => exact ScalarExplorer.exploreExpr_closed hP hmem
  | compound => exact CompoundExplorer.exploreExpr_closed hP hmem he hexpr hcl
  | pointer => exact PointerExplorer.exploreExpr_closed hP hmem he hexpr hcl fuel
  | reference => exact ReferenceExplorer.exploreExpr_closed hP hmem he hcl
  | typedef => exact TypedefExplorer.exploreExpr_closed hP hmem he hcl
  | array => exact ArrayExplorer.exploreExpr_closed hP he hexpr hcl

/-- The dispatcher keeps every bound on the nodes that the moves keep and that holds
only of non-empty paths. -/
theorem Explorer.exploreExpr_within_of {R : String → V → Bool → Prop}
    (hR : ∀ p u c p' w c', R p u c → H.Child p u c p' w c' → R p' w c')
    (hne : ∀ p u c, R p u c → p ≠ "") :
    ∀ n p u c, R p u c → (Explorer.exploreExpr G H n p u c).Within R ValueExploreError
  | 0, _, _, _, _ => Ex.Within.outOfFuel
  | n + 1, p, u, c, hu => by
    have hP := Ex.Within.closed (R := R) (Q := ValueExploreError) (.inl rfl) fun m =>
      .inr (.inr ⟨m, rfl⟩)
    rw [Explorer.exploreExpr_succ]
    refine (Ex.Within.emit hu).bind fun _ _ => ?_
    rcases hcl : Explorer.typeCodeToExplorerMap (G.code (H.type u)) with _ | cl
    · exact Ex.Within.say _
    exact hP.whileTrue (ExplorerClass.exploreExpr_closed H hP (Ex.Within.raise (.inr (.inl rfl)))
      (fun p' w c' h => Explorer.exploreExpr_within_of hR hne n p' w c' (hR _ _ _ _ _ _ hu h))
      (hne _ _ _ hu) hcl n) n

/-- **What `explore_expr` visits.** From a non-empty path, on every value graph,
every input and every fuel, a run of `explore_expr` explores only nodes reached
from its root by the moves of their explorer classes, under the paths those moves
build, and raises only `EOFError`, `gdb.MemoryError` or a `TypeError`.
In the model a failing gdb operation raises `gdb.MemoryError`: the `gdb.error` of a
`void *` dereferenced or of an optimized-out value, the `OverflowError` of an index
past 64 bits and CPython's recursion limit (`RecursionError`) are not modelled. -/
theorem Explorer.exploreExpr_visits {expr : String} (hexpr : expr ≠ "") (v : V) (c : Bool)
    (n : ℕ) : (Explorer.exploreExpr G H n expr v c).Within (H.Reaches expr v c) ValueExploreError :=
  Explorer.exploreExpr_within_of H (fun _ _ _ _ _ _ h h' => .child h h')
    (fun _ _ _ h => h.path_ne_empty H hexpr) n expr v c .root

/-- `explore p` on a pointer to `x` explores only `p` and `*p`, under these paths. -/
theorem exploreExpr_visits_p :
    "p" ≠ "" ∧ (Explorer.exploreExpr intPointer pointsToX 3 "p" .p false).Within
      (pointsToX.Reaches "p" .p false) ValueExploreError :=
  ⟨by decide, Explorer.exploreExpr_visits pointsToX (by decide) .p false 3⟩

end Values

/-! ### The moves of `explore_type` -/

section Types

variable {T : Type} (G : TypeGraph T)

/-- `Explorer.explore_type(name, t, isChild)` calls `Explorer.explore_type(name', s, c)`
itself, by a move of the explorer class of `t`'s type code. -/
inductive TypeGraph.Child : String → T → Bool → String → T → Bool → Prop
  /-- `PointerExplorer`: the pointee type. -/
  | pointee {name : String} {t : T} {c : Bool} :
      Explorer.typeCodeToExplorerMap (G.code t) = some .pointer →
      TypeGraph.Child name t c ("the pointee type of " ++ name) (G.target t) c
  /-- `ArrayExplorer`: the element type. -/
  | element {name : String} {t : T} {c : Bool} :
      Explorer.typeCodeToExplorerMap (G.code t) = some .array →
      TypeGraph.Child name t c ("the array element of " ++ name) (G.target t) c
  /-- `ReferenceExplorer`: the referenced type, under the same name. -/
  | referenced {name : String} {t : T} {c : Bool} :
      Explorer.typeCodeToExplorerMap (G.code t) = some .reference →
      TypeGraph.Child name t c name (G.target t) c
  /-- `TypedefExplorer`: the stripped type, under the same name. -/
  | stripped {name : String} {t : T} {c : Bool} :
      Explorer.typeCodeToExplorerMap (G.code t) = some .typedef →
      TypeGraph.Child name t c name (G.stripTypedefs t) c
  /-- `CompoundExplorer`: the type of the field numbered `j`, under its `new_name`, of a
  menu that is printed. -/
  | field {name : String} {t : T} {c : Bool} {k : ℕ} (j : ℕ) (f : Field T) :
      Explorer.typeCodeToExplorerMap (G.code t) = some .compound →
      CompoundExplorer.maxFieldNameLength (CompoundExplorer.typeFieldRows G (G.fields t) 0).1 =
        .ok k →
      (CompoundExplorer.realFields (G.fields t))[j]? = some f →
      TypeGraph.Child name t c (CompoundExplorer.newName name c f.name (CompoundExplorer.fieldDesc f))
        f.type true

/-- What a run of `Explorer.explore_type(name, t, isChild)` can explore: the root,
and every child of what it can explore. -/
inductive TypeGraph.Reaches (name : String) (t : T) (isChild : Bool) : String → T → Bool → Prop
  | root : TypeGraph.Reaches name t isChild name t isChild
  | child {n : String} {s : T} {c : Bool} {n' : String} {s' : T} {c' : Bool} :
      TypeGraph.Reaches name t isChild n s c → G.Child n s c n' s' c' →
      TypeGraph.Reaches name t isChild n' s' c'

section Handlers

variable {G} {P : ∀ {α : Type}, Ex T α → Prop} (hP : Ex.Closed P)
  {e : String → T → Bool → Ex T Unit} {name : String} {t : T} {c : Bool}
include hP

theorem ScalarExplorer.exploreType_closed : P (ScalarExplorer.exploreType G name t c) := by
  refine hP.bind (hP.say _) fun _ _ => ?_
  cases c
  · exact hP.bind (hP.pure ()) fun _ _ => hP.pure _
  · exact hP.bind hP.returnToEnclosingTypePrompt fun _ _ => hP.bind (hP.say _) fun _ _ => hP.pure _

variable (he : ∀ name' s c', G.Child name t c name' s c' → P (e name' s c'))
include he

theorem PointerExplorer.exploreType_closed
    (hcl : Explorer.typeCodeToExplorerMap (G.code t) = some .pointer) :
    P (PointerExplorer.exploreType G e name t c) :=
  hP.bind (hP.say _) fun _ _ => hP.bind (he _ _ _ (.pointee hcl)) fun _ _ => hP.pure _

theorem ArrayExplorer.exploreType_closed
    (hcl : Explorer.typeCodeToExplorerMap (G.code t) = some .array) :
    P (ArrayExplorer.exploreType G e name t c) :=
  hP.bind (hP.say _) fun _ _ => hP.bind (he _ _ _ (.element hcl)) fun _ _ => hP.pure _

theorem ReferenceExplorer.exploreType_closed
    (hcl : Explorer.typeCodeToExplorerMap (G.code t) = some .reference) :
    P (ReferenceExplorer.exploreType G e name t c) :=
  hP.bind (he _ _ _ (.referenced hcl)) fun _ _ => hP.pure _

theorem TypedefExplorer.exploreType_closed
    (hcl : Explorer.typeCodeToExplorerMap (G.code t) = some .typedef) :
    P (TypedefExplorer.exploreType G e name t c) :=
  hP.bind (hP.say _) fun _ _ => hP.bind (he _ _ _ (.stripped hcl)) fun _ _ => hP.pure _

theorem CompoundExplorer.exploreType_closed
    (hcl : Explorer.typeCodeToExplorerMap (G.code t) = some .compound) :
    P (CompoundExplorer.exploreType G e name t c) := by
  unfold CompoundExplorer.exploreType
  dsimp only
  split
  · cases c
    · exact hP.bind (hP.say _) fun _ _ => hP.pure _
    · exact hP.bind (hP.say _) fun _ _ =>
        hP.bind hP.returnToEnclosingTypePrompt fun _ _ => hP.pure _
  refine hP.bind (hP.say _) fun _ _ => ?_
  rcases hrows : CompoundExplorer.typeFieldRows G (G.fields t) 0 with ⟨rows, choices⟩
  refine hP.bind (hP.printFields rows) fun _ hp => hP.bind (hP.say _) fun _ _ => ?_
  obtain ⟨k, hk⟩ := CompoundExplorer.returns_printFields hp
  cases hc : choices.isEmpty <;> dsimp only
  · refine hP.bind (hP.rawInput _) fun l _ => ?_
    rcases hl : choices.lookup l with _ | ⟨fn, ft, fd⟩ <;> dsimp only
    · exact hP.ifChild (hP.say _) c
    · obtain ⟨j, f, hf, -, rfl, rfl, rfl⟩ :=
        CompoundExplorer.typeFieldRows_lookup G (by rw [hrows]; exact hl)
      exact hP.bind (he _ _ _ (.field j f hcl (by rw [hrows]; exact hk) hf)) fun _ _ => hP.pure _
  · exact hP.ifChild hP.returnToEnclosingTypePrompt c

end Handlers

/-- Each explorer class has every closed property that the calls it makes back into the
dispatcher have. -/
theorem ExplorerClass.exploreType_closed {P : ∀ {α : Type}, Ex T α → Prop} (hP : Ex.Closed P)
    {e : String → T → Bool → Ex T Unit} {name : String} {t : T} {c : Bool}
    (he : ∀ name' s c', G.Child name t c name' s c' → P (e name' s c')) {cl : ExplorerClass}
    (hcl : Explorer.typeCodeToExplorerMap (G.code t) = some cl) :
    P (cl.exploreType G e name t c) := by
  cases cl with
  | scalar => exact ScalarExplorer.exploreType_closed hP
  | compound => exact CompoundExplorer.exploreType_closed hP he hcl
  | pointer => exact PointerExplorer.exploreType_closed hP he hcl
  | reference => exact ReferenceExplorer.exploreType_closed hP he hcl
  | typedef => exact TypedefExplorer.exploreType_closed hP he hcl
  | array => exact ArrayExplorer.exploreType_closed hP he hcl

/-- The dispatcher keeps every bound on the nodes that the moves keep. -/
theorem Explorer.exploreType_within_of {R : String → T → Bool → Prop}
    (hR : ∀ name t c name' s c', R name t c → G.Child name t c name' s c' → R name' s c') :
    ∀ n name t c, R name t c → (Explorer.exploreType G n name t c).Within R TypeExploreError
  | 0, _, _, _, _ => Ex.Within.outOfFuel
  | n + 1, name, t, c, ht => by
    have hP := Ex.Within.closed (R := R) (Q := TypeExploreError) (.inl rfl) fun m => .inr ⟨m, rfl⟩
    rw [Explorer.exploreType_succ]
    refine (Ex.Within.emit ht).bind fun _ _ => ?_
    rcases hcl : Explorer.typeCodeToExplorerMap (G.code t) with _ | cl
    · exact Ex.Within.say _
    exact hP.whileTrue (ExplorerClass.exploreType_closed G hP
      (fun name' s c' h => Explorer.exploreType_within_of hR n name' s c' (hR _ _ _ _ _ _ ht h))
      hcl) n

/-- **What `explore_type` visits.** On every type graph, every input and every fuel,
a run of `explore_type` explores only types reached from its root by the moves of
their explorer classes, under the names those moves build, and raises only
`EOFError` or the `TypeError` of an anonymous field. CPython's recursion limit
(`RecursionError`) is not modelled. -/
theorem Explorer.exploreType_visits (name : String) (t : T) (c : Bool) (n : ℕ) :
    (Explorer.exploreType G n name t c).Within (G.Reaches name t c) TypeExploreError :=
  Explorer.exploreType_within_of G (fun _ _ _ _ _ _ h h' => .child h h') n name t c .root

end Types

/-! ### The commands -/

section Commands

variable {T V : Type} (g : Gdb T V)

/-- What `explore value arg` can explore: a value reached from `parse_and_eval(arg)`. -/
def ExploreValueCommand.Reaches (arg p : String) (w : V) (c : Bool) : Prop :=
  ∃ v, ExploreUtils.getValueFromStr g arg = some v ∧ g.values.Reaches arg v false p w c

/-- What `explore arg` can explore: what `explore value arg` can, or, where `arg`
evaluates to no value, a type reached from the type it names. -/
def ExploreCommand.Reaches (arg p : String) : V ⊕ T → Bool → Prop
  | .inl w, c => ExploreValueCommand.Reaches g arg p w c
  | .inr t, c => ExploreUtils.getValueFromStr g arg = none ∧
      ∃ t₀, ExploreUtils.getTypeFromStr g arg = some t₀ ∧ g.types.Reaches arg t₀ false p t c

/-- What `explore type arg` can explore: a type reached from the type `arg` names, or,
where it names none, from the type of the value it evaluates to, under that type's name. -/
def ExploreTypeCommand.Reaches (arg p : String) (t : T) (c : Bool) : Prop :=
  (∃ t₀, ExploreUtils.getTypeFromStr g arg = some t₀ ∧ g.types.Reaches arg t₀ false p t c) ∨
    ExploreUtils.getTypeFromStr g arg = none ∧ ∃ v, ExploreUtils.getValueFromStr g arg = some v ∧
      g.types.Reaches (g.types.name (g.values.type v)) (g.values.type v) false p t c

/-- A message of `gdb.GdbError` from the command `name` on the argument `arg`: it
names the command where `arg` is empty, and quotes `arg` where it is not. -/
def GdbErrorMessage (name arg m : String) : Prop :=
  arg = "" ∧ (∃ pre post, m = pre ++ name ++ post) ∨ arg ≠ "" ∧ ∃ pre post, m = pre ++ arg ++ post

/-- How a command can end: with what an exploration raises, or with a `gdb.GdbError`
whose message `M` allows, raised before it has read, printed or explored anything. -/
structure Ex.CommandBounds (R : String → N → Bool → Prop) (M : String → Prop) (x : Ex N Unit) :
    Prop where
  within : x.Within R fun e => ValueExploreError e ∨ ∃ m, e = .gdbError m
  gdbError_first : ∀ inp m, (x inp).res = .raise (.gdbError m) →
    M m ∧ (x inp).used = 0 ∧ (x inp).trace = []

variable {R : String → N → Bool → Prop} {M : String → Prop}

theorem Ex.Within.commandBounds {x : Ex N Unit} (h : x.Within R ValueExploreError) :
    x.CommandBounds R M :=
  ⟨h.mono (fun _ _ _ h => h) fun _ h => .inl h,
    fun inp m hm => absurd (h.raises inp _ hm) (by simp [ValueExploreError])⟩

theorem Ex.CommandBounds.gdbError {m : String} (h : M m) :
    (raise (.gdbError m) : Ex N Unit).CommandBounds R M :=
  ⟨Ex.Within.raise (.inr ⟨m, rfl⟩), fun _ _ he => by cases he; exact ⟨h, rfl, rfl⟩⟩

/-- `check_args` raises its `gdb.GdbError`, naming the command, first; past it the
argument is not empty. -/
theorem Ex.CommandBounds.checkArgs {name arg : String} {f : Bool → Ex N Unit}
    (hf : arg ≠ "" → (f true).CommandBounds R (GdbErrorMessage name arg)) :
    (ofExcept (ExploreUtils.checkArgs name arg) >>= f).CommandBounds R
      (GdbErrorMessage name arg) := by
  unfold ExploreUtils.checkArgs
  split
  next h =>
    have : arg = "" :=
      String.ext (List.length_eq_zero.1 (by cases arg; simpa [String.length] using h))
    exact Ex.CommandBounds.gdbError (.inl ⟨this, "ERROR: '", "' requires an argument.", rfl⟩)
  next h =>
    rw [ofExcept_ok, Ex.pure_bind]
    exact hf fun he => h (by simp [he])

theorem TypeExploreError.valueExploreError {e : Exc} (h : TypeExploreError e) :
    ValueExploreError e := by
  rcases h with rfl | h
  · exact .inl rfl
  · exact .inr (.inr h)

theorem ExploreValueCommand.invoke_bounds (n : ℕ) (arg : String) :
    (ExploreValueCommand.invoke g n arg).CommandBounds (ExploreValueCommand.Reaches g arg)
      (GdbErrorMessage "explore value" arg) := by
  refine Ex.CommandBounds.checkArgs fun harg => ?_
  unfold ExploreUtils.getValueFromStr
  rcases hv : g.parseAndEval arg with _ | v
  · exact Ex.CommandBounds.gdbError (.inr ⟨harg, " '", _, rfl⟩)
  · exact (Explorer.exploreExpr_within_of g.values (R := ExploreValueCommand.Reaches g arg)
      (fun _ _ _ _ _ _ ⟨v, hv, h⟩ h' => ⟨v, hv, .child h h'⟩)
      (fun _ _ _ ⟨_, _, h⟩ => h.path_ne_empty _ harg) n arg v false ⟨v, hv, .root⟩).commandBounds

theorem ExploreCommand.invoke_bounds (n : ℕ) (arg : String) :
    (ExploreCommand.invoke g n arg).CommandBounds (ExploreCommand.Reaches g arg)
      (GdbErrorMessage "explore" arg) := by
  refine Ex.CommandBounds.checkArgs fun harg => ?_
  rcases hv : ExploreUtils.getValueFromStr g arg with _ | v
  · rcases ht : ExploreUtils.getTypeFromStr g arg with _ | t
    · exact Ex.CommandBounds.gdbError (.inr ⟨harg, "'", _, rfl⟩)
    · exact ((Explorer.exploreType_within_of g.types (fun _ _ _ _ _ _ h h' => .child h h') n arg t
        false .root).mapNode fun _ _ _ h => ⟨hv, t, ht, h⟩).mono (fun _ _ _ h => h)
          (fun _ h => h.valueExploreError) |>.commandBounds
  · exact ((Explorer.exploreExpr_within_of g.values (R := ExploreValueCommand.Reaches g arg)
      (fun _ _ _ _ _ _ ⟨v, hv, h⟩ h' => ⟨v, hv, .child h h'⟩)
      (fun _ _ _ ⟨_, _, h⟩ => h.path_ne_empty _ harg) n arg v false ⟨v, hv, .root⟩).mapNode
        (f := Sum.inl) fun _ _ _ h => h).commandBounds

theorem ExploreTypeCommand.invoke_bounds (n : ℕ) (arg : String) :
    (ExploreTypeCommand.invoke g n arg).CommandBounds (ExploreTypeCommand.Reaches g arg)
      (GdbErrorMessage "explore type" arg) := by
  refine Ex.CommandBounds.checkArgs fun harg => ?_
  rcases ht : ExploreUtils.getTypeFromStr g arg with _ | t
  · rcases hv : ExploreUtils.getValueFromStr g arg with _ | v
    · exact Ex.CommandBounds.gdbError (.inr ⟨harg, "'", _, rfl⟩)
    · exact ((Ex.Within.say _).bind fun _ _ =>
        (Explorer.exploreType_within_of g.types (fun _ _ _ _ _ _ h h' => .child h h') n _ _ false
          .root).mono (fun _ _ _ h => .inr ⟨ht, v, hv, h⟩)
          fun _ h => h.valueExploreError).commandBounds
  · exact ((Explorer.exploreType_within_of g.types (fun _ _ _ _ _ _ h h' => .child h h') n arg t
      false .root).mono (fun _ _ _ h => .inl ⟨t, ht, h⟩) fun _ h => h.valueExploreError).commandBounds

/-- **What the commands do.** On every gdb session, every argument, every input and
every fuel, `explore`, `explore value` and `explore type` explore only what is
reached from their argument; they raise `gdb.GdbError` only before they have read,
printed or explored anything, with a message that names the command or the argument,
and otherwise only `EOFError`, `gdb.MemoryError` or a `TypeError`: never
`guard_expr`'s `IndexError`.
In the model a failing gdb operation raises `gdb.MemoryError`: the `gdb.error` of a
`void *` dereferenced or of an optimized-out value, the `OverflowError` of an index
past 64 bits and CPython's recursion limit (`RecursionError`) are not modelled. -/
theorem explore_commands_bounds (n : ℕ) (arg : String) :
    (ExploreCommand.invoke g n arg).CommandBounds (ExploreCommand.Reaches g arg)
        (GdbErrorMessage "explore" arg) ∧
      (ExploreValueCommand.invoke g n arg).CommandBounds (ExploreValueCommand.Reaches g arg)
        (GdbErrorMessage "explore value" arg) ∧
      (ExploreTypeCommand.invoke g n arg).CommandBounds (ExploreTypeCommand.Reaches g arg)
        (GdbErrorMessage "explore type" arg) :=
  ⟨ExploreCommand.invoke_bounds g n arg, ExploreValueCommand.invoke_bounds g n arg,
    ExploreTypeCommand.invoke_bounds g n arg⟩

/-- The program behind `explore *(int *)0`: gdb evaluates `*(int *)0` lazily, to
an `int` whose rendering reads address 0. -/
def nullInt : Gdb Unit Unit where
  types := ⟨fun _ => .int, fun _ => "int", fun _ => (), fun _ => [], fun _ => ()⟩
  values := ⟨fun _ => (), fun _ => none, fun _ => none, fun _ _ => none, fun _ _ => none,
    fun _ _ => none, fun _ => none, (fun _ _ _ h => nomatch h), fun _ _ h => nomatch h⟩
  parseAndEval s := if s = "*(int *)0" then some () else none
  lookupType _ := none

/-- `explore *(int *)0` and `explore value *(int *)0` end in `gdb.MemoryError`,
whatever the user types: `explore.py` catches it only around a pointer's
dereference and an element's rendering, and `ScalarExplorer.explore_expr` renders
the value with `str(value)` outside any `try`. -/
theorem explore_nullInt_memoryError (n : ℕ) (inp : List String) :
    (ExploreCommand.invoke nullInt (n + 2) "*(int *)0" inp).res = .raise .memoryError ∧
      (ExploreValueCommand.invoke nullInt (n + 2) "*(int *)0" inp).res = .raise .memoryError := by
  have hargs : ∀ name, ExploreUtils.checkArgs name "*(int *)0" = .ok true := fun _ => rfl
  have hval : ExploreUtils.getValueFromStr nullInt "*(int *)0" = some () := rfl
  have hcode : nullInt.types.code (nullInt.values.type ()) = .int := rfl
  have hstr : nullInt.values.str () = none := rfl
  simp [ExploreCommand.invoke, ExploreValueCommand.invoke, hargs, hval, hcode, hstr, Ex.mapNode,
    Explorer.exploreExpr_succ, whileTrue_succ, Explorer.typeCodeToExplorerMap,
    ExplorerClass.exploreExpr, ScalarExplorer.exploreExpr]

/-- Past `check_args`, a command goes on with its body. -/
theorem ofExcept_checkArgs_bind {name arg : String} (harg : arg ≠ "") (f : Bool → Ex N Unit) :
    (ofExcept (ExploreUtils.checkArgs name arg) >>= f) = f true := by
  have hlen : ¬ arg.length < 1 := fun h =>
    harg (String.ext (List.length_eq_zero.1 (by cases arg; simpa [String.length] using h)))
  rw [ExploreUtils.checkArgs, if_neg hlen, ofExcept_ok, Ex.pure_bind]

theorem ExploreValueCommand.invoke_of_value {arg : String} (harg : arg ≠ "") {v : V}
    (hv : ExploreUtils.getValueFromStr g arg = some v) (n : ℕ) :
    ExploreValueCommand.invoke g n arg = Explorer.exploreExpr g.types g.values n arg v false := by
  unfold ExploreValueCommand.invoke
  simp only [ofExcept_checkArgs_bind harg, Bool.not_true, hv]
  rfl

theorem ExploreCommand.invoke_of_value {arg : String} (harg : arg ≠ "") {v : V}
    (hv : ExploreUtils.getValueFromStr g arg = some v) (n : ℕ) :
    ExploreCommand.invoke g n arg =
      (Explorer.exploreExpr g.types g.values n arg v false).mapNode Sum.inl := by
  unfold ExploreCommand.invoke
  simp only [ofExcept_checkArgs_bind harg, Bool.not_true, hv]
  rfl

theorem ExploreCommand.invoke_of_type {arg : String} (harg : arg ≠ "")
    (hv : ExploreUtils.getValueFromStr g arg = none) {t : T}
    (ht : ExploreUtils.getTypeFromStr g arg = some t) (n : ℕ) :
    ExploreCommand.invoke g n arg = (Explorer.exploreType g.types n arg t false).mapNode Sum.inr := by
  unfold ExploreCommand.invoke
  simp only [ofExcept_checkArgs_bind harg, Bool.not_true, hv, ht]
  rfl

theorem ExploreTypeCommand.invoke_of_type {arg : String} (harg : arg ≠ "") {t : T}
    (ht : ExploreUtils.getTypeFromStr g arg = some t) (n : ℕ) :
    ExploreTypeCommand.invoke g n arg = Explorer.exploreType g.types n arg t false := by
  unfold ExploreTypeCommand.invoke
  simp only [ofExcept_checkArgs_bind harg, Bool.not_true, ht]
  rfl

/-- `explore type` on an expression that names no type explores the type of its value,
under the name gdb prints for it, after one line. -/
theorem ExploreTypeCommand.invoke_of_value {arg : String} (harg : arg ≠ "")
    (ht : ExploreUtils.getTypeFromStr g arg = none) {v : V}
    (hv : ExploreUtils.getValueFromStr g arg = some v) (n : ℕ) :
    ExploreTypeCommand.invoke g n arg =
      (say ("'" ++ arg ++ "' is of type '" ++ g.types.name (g.values.type v) ++ "'.") >>= fun _ =>
        Explorer.exploreType g.types n (g.types.name (g.values.type v)) (g.values.type v) false) := by
  unfold ExploreTypeCommand.invoke
  simp only [ofExcept_checkArgs_bind harg, Bool.not_true, ht, hv]
  rfl

end Commands

end GdbExplore
