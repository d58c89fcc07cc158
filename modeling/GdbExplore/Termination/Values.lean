import GdbExplore.Termination.Types

/-!
# Termination of `explore_expr`

`Explorer.explore_expr` reads a line before it explores a pointer's target, an
element or a field, and before each Repeat of an array or a struct; the array
loop of `PointerExplorer.explore_expr` reads the index before each round. Only a
reference (its referenced value) and a typedef (its cast to the stripped type)
recurse without reading. A chain of such steps can be infinite: a reference
whose target is a typedef of the reference type itself passes back and forth
forever (`exploreExpr_refLoop`).

## What is proved

* `Explorer.exploreExpr_terminates`: where no chain of reference and typedef
  steps is infinite, `explore_expr` finishes on every value graph and every
  input, by returning, by `EOFError`, or by the `gdb.MemoryError` or `TypeError`
  it lets through.

The measure is the number of lines left, then the well-founded pass-through
relation; the pointer's own loop is measured by the lines left alone.
-/

namespace GdbExplore

variable {T V : Type} {P : Exc → Prop} (G : TypeGraph T) (H : ValueGraph G V)

/-- `explore_expr` goes from a value of type `t` to one of type `s` without
reading a line: `s` is the referent of a reference `t`, or the stripped type of a
typedef `t`. -/
def TypeGraph.PassStep (s t : T) : Prop :=
  (G.code t = .ref ∨ G.code t = .rvalueRef) ∧ s = G.target t ∨
    G.code t = .typedef ∧ s = G.stripTypedefs t

/-- The exceptions `explore_expr` lets through: `EOFError`, `gdb.MemoryError`, and
the `TypeError` of an anonymous field. -/
def ValueExploreError (e : Exc) : Prop := e = .eof ∨ e = .memoryError ∨ ∃ m, e = .typeError m

section Handlers

variable {e : String → V → Bool → Ex V Unit} {expr : String} {v : V} {isChild : Bool}
  {inp : List String}

theorem ScalarExplorer.exploreExpr_ends (heof : P .eof) (hmem : P .memoryError) :
    (ScalarExplorer.exploreExpr G H expr v isChild inp).Ends P ∧
      (ScalarExplorer.exploreExpr G H expr v isChild inp).res ≠ .ok true := by
  unfold ScalarExplorer.exploreExpr
  cases H.str v <;> cases isChild <;> cases inp <;>
    simp [Explorer.returnToParentValuePrompt, Explorer.returnToParentValue, Run.Ends, heof, hmem]

theorem ReferenceExplorer.exploreExpr_ends (hmem : P .memoryError)
    (h : ∀ w, H.referencedValue v = some w → (e expr w isChild inp).Ends P) :
    (ReferenceExplorer.exploreExpr G H e expr v isChild inp).Ends P ∧
      (ReferenceExplorer.exploreExpr G H e expr v isChild inp).res ≠ .ok true := by
  unfold ReferenceExplorer.exploreExpr
  rcases hw : H.referencedValue v with _ | w
  · simp [Run.Ends, hmem]
  · simp only [ofMemory_some, Ex.bind_apply, Ex.pure_apply, Run.next_ok, List.drop_zero]
    exact ⟨(h w hw).next fun _ _ => trivial, fun h' => absurd (Run.res_next_pure h') (by decide)⟩

theorem TypedefExplorer.exploreExpr_ends (hmem : P .memoryError)
    (h : ∀ w, H.cast v (G.stripTypedefs (H.type v)) = some w → (e expr w isChild inp).Ends P) :
    (TypedefExplorer.exploreExpr G H e expr v isChild inp).Ends P ∧
      (TypedefExplorer.exploreExpr G H e expr v isChild inp).res ≠ .ok true := by
  unfold TypedefExplorer.exploreExpr
  rcases hw : H.cast v (G.stripTypedefs (H.type v)) with _ | w
  · simp [Run.Ends, hmem]
  · simp only [ofMemory_some, Ex.bind_apply, say_apply, Ex.pure_apply, Run.next_ok, List.drop_zero]
    exact ⟨(h w hw).next fun _ _ => trivial, fun h' => absurd (Run.res_next_pure h') (by decide)⟩

theorem ArrayExplorer.exploreExpr_ends (hexpr : expr ≠ "") (heof : P .eof)
    (hchild : ∀ l rest i w g, inp = l :: rest → pyInt l = some i →
      H.readable (H.getitem v i) = some w → guardExpr expr = .ok g →
        (e (g ++ "[" ++ toString i ++ "]") w true rest).Ends P) :
    (ArrayExplorer.exploreExpr G H e expr v isChild inp).Ends P ∧
      ((ArrayExplorer.exploreExpr G H e expr v isChild inp).res = .ok true →
        (inp.drop (ArrayExplorer.exploreExpr G H e expr v isChild inp).used).length <
          inp.length) := by
  obtain ⟨g, hg⟩ := guardExpr_ok hexpr
  unfold ArrayExplorer.exploreExpr
  dsimp only
  rcases inp with _ | ⟨l, rest⟩
  · simp [Run.Ends, heof]
  rcases hi : pyInt l with _ | i
  · cases isChild <;> simp [hi, Run.Ends, Explorer.returnToParentValue]
  rcases hw : H.readable (H.getitem v i) with _ | w
  · cases rest <;> simp [hi, hw, Run.Ends, heof]
    omega
  · simp only [hi, hw, hg, ofExcept_ok, Ex.bind_apply, say_apply, rawInput_cons, Ex.pure_apply,
      Run.next_ok, List.drop_zero, List.drop_succ_cons]
    refine ⟨(hchild l rest i w g rfl hi hw hg).next fun _ _ => trivial, fun _ => ?_⟩
    simp only [List.length_drop, List.length_cons]
    omega

theorem CompoundExplorer.exploreExpr_ends (hexpr : expr ≠ "") (heof : P .eof) (hmem : P .memoryError)
    (htype : ∀ m, P (.typeError m))
    (hchild : ∀ l rest hasEx rows choices path w, inp = l :: rest →
      exprFieldRows G H expr v (G.code (H.type v)) (G.fields (H.type v)) 0 =
        .ok (hasEx, rows, choices) →
      choices.lookup l = some (path, w) → (e path w true rest).Ends P) :
    (CompoundExplorer.exploreExpr G H e expr v isChild inp).Ends P ∧
      ((CompoundExplorer.exploreExpr G H e expr v isChild inp).res = .ok true →
        (inp.drop (CompoundExplorer.exploreExpr G H e expr v isChild inp).used).length <
          inp.length) := by
  unfold CompoundExplorer.exploreExpr
  dsimp only
  split
  · cases isChild <;> cases inp <;> simp [Explorer.returnToParentValuePrompt, Run.Ends, heof]
  rcases hrows : exprFieldRows G H expr v (G.code (H.type v)) (G.fields (H.type v)) 0 with
    err | ⟨hasEx, rows, choices⟩
  · rcases exprFieldRows_error G H hexpr hrows with rfl | ⟨m, rfl⟩ <;>
      simp [hrows, Run.Ends, hmem, htype]
  rcases hm : maxFieldNameLength rows with err | w
  · simp [hrows, printFields_apply, hm, Run.Ends, maxFieldNameLength_error hm, htype]
  cases hasEx
  · cases isChild <;> cases inp <;>
      simp [hrows, printFields_apply, hm, Run.Ends, heof, Explorer.returnToParentValuePrompt]
  rcases inp with _ | ⟨l, rest⟩
  · simp [hrows, printFields_apply, hm, Run.Ends, heof]
  rcases hl : choices.lookup l with _ | ⟨path, w⟩
  · cases isChild <;> simp [hrows, printFields_apply, hm, hl, Run.Ends, Explorer.returnToParentValue]
  · simp only [hrows, printFields_apply, hm, hl, ofExcept_ok, Ex.bind_apply, say_apply,
      rawInput_cons, Ex.pure_apply, Run.next_ok, if_true, List.drop_zero]
    refine ⟨(hchild l rest true rows choices path w rfl hrows hl).next fun _ _ => trivial,
      fun _ => ?_⟩
    simp only [List.length_drop, List.length_cons]
    omega

theorem PointerExplorer.indexStep_ends (hexpr : expr ≠ "") (heof : P .eof) (hmem : P .memoryError)
    (hchild : ∀ l rest i w s g, inp = l :: rest → pyInt l = some i → H.getitem v i = some w →
      H.str w = some s → guardExpr expr = .ok g →
        (e (g ++ "[" ++ toString i ++ "]") w true rest).Ends P) :
    (PointerExplorer.indexStep G H e expr v inp).Ends P ∧
      ((PointerExplorer.indexStep G H e expr v inp).res = .ok true →
        (inp.drop (PointerExplorer.indexStep G H e expr v inp).used).length < inp.length) := by
  obtain ⟨g, hg⟩ := guardExpr_ok hexpr
  unfold PointerExplorer.indexStep
  rcases inp with _ | ⟨l, rest⟩
  · simp [Run.Ends, heof]
  rcases hi : pyInt l with _ | i
  · simp [hi, Run.Ends]
  rcases hw : H.getitem v i with _ | w
  · simp [hi, hw, hg, Run.Ends, hmem]
  rcases hs : H.str w with _ | s
  · simp [hi, hw, hs, hg, Run.Ends]
  · simp only [hi, hw, hs, hg, ofExcept_ok, ofMemory_some, Ex.bind_apply, rawInput_cons,
      Ex.pure_apply, Run.next_ok, List.drop_zero, List.drop_succ_cons]
    refine ⟨(hchild l rest i w s g rfl hi hw hs hg).next fun _ _ => trivial, fun _ => ?_⟩
    simp only [List.length_drop, List.length_cons]
    omega

theorem PointerExplorer.exploreExpr_ends (hexpr : expr ≠ "") (heof : P .eof) {fuel : ℕ}
    (hderef : ∀ rest d g, inp = "y" :: rest → H.readable (H.dereference v) = some d →
      guardExpr expr = .ok g → (e ("*" ++ g) d isChild rest).Ends P)
    (hloop : ∀ l rest, inp = l :: "y" :: rest → l ≠ "y" →
      (whileTrue (PointerExplorer.indexStep G H e expr v) fuel rest).Ends P) :
    (PointerExplorer.exploreExpr G H fuel e expr v isChild inp).Ends P ∧
      (PointerExplorer.exploreExpr G H fuel e expr v isChild inp).res ≠ .ok true := by
  obtain ⟨g, hg⟩ := guardExpr_ok hexpr
  unfold PointerExplorer.exploreExpr
  rcases inp with _ | ⟨l, rest⟩
  · simp [Run.Ends, heof]
  by_cases hl : l = "y"
  · subst hl
    rcases hd : H.readable (H.dereference v) with _ | d
    · cases isChild <;> cases rest <;>
        simp [hd, Run.Ends, heof, Explorer.returnToParentValuePrompt]
    · simp only [hd, hg, ofExcept_ok, Ex.bind_apply, say_apply, rawInput_cons, Ex.pure_apply,
        Run.next_ok, if_true, List.drop_zero, List.drop_succ_cons]
      exact ⟨(hderef rest d g rfl hd hg).next fun _ _ => trivial,
        fun h' => absurd (Run.res_next_pure h') (by decide)⟩
  rcases rest with _ | ⟨l', rest⟩
  · simp [hl, Run.Ends, heof]
  by_cases hl' : l' = "y"
  · subst hl'
    simp only [hl, Ex.bind_apply, say_apply, rawInput_cons, Ex.pure_apply, Run.next_ok, if_true,
      if_false, List.drop_zero, List.drop_succ_cons]
    exact ⟨(hloop l rest rfl hl).next fun _ _ => trivial,
      fun h' => absurd (Run.res_next_pure h') (by decide)⟩
  · cases isChild <;> simp [hl, hl', Run.Ends, Explorer.returnToParentValue]

end Handlers

/-! ### Paths

Every child is explored under a path built from its parent's by an operator,
so a non-empty path stays non-empty. -/

theorem index_path_ne_empty (g : String) (i : ℤ) : g ++ "[" ++ toString i ++ "]" ≠ "" :=
  fun h => by simpa [show "]".length = 1 from rfl] using congrArg String.length h

theorem deref_path_ne_empty (g : String) : "*" ++ g ≠ "" :=
  fun h => by simpa [show "*".length = 1 from rfl] using congrArg String.length h

theorem field_path_ne_empty (g s : String) : g ++ "." ++ s ≠ "" :=
  fun h => by simpa [show ".".length = 1 from rfl] using congrArg String.length h

/-! ### The whole exploration -/

variable {expr : String} {v : V} {isChild : Bool} {inp : List String}

theorem Explorer.exploreExpr_ends_succ {c : ExplorerClass}
    (hc : Explorer.typeCodeToExplorerMap (G.code (H.type v)) = some c) (m : ℕ) :
    (Explorer.exploreExpr G H (m + 1) expr v isChild inp).Ends P ↔
      (whileTrue (c.exploreExpr G H m (Explorer.exploreExpr G H m) expr v isChild) m inp).Ends P := by
  simp only [Explorer.exploreExpr_succ, hc, Ex.bind_apply, emit_apply, Run.next_ok, List.drop_zero]
  rfl

theorem TypeGraph.passStep_target {t : T}
    (hc : Explorer.typeCodeToExplorerMap (G.code t) = some .reference) :
    G.PassStep (G.target t) t := by
  refine .inl ⟨?_, rfl⟩
  cases h : G.code t <;> simp_all [Explorer.typeCodeToExplorerMap]

theorem TypeGraph.passStep_strip {t : T}
    (hc : Explorer.typeCodeToExplorerMap (G.code t) = some .typedef) :
    G.PassStep (G.stripTypedefs t) t := by
  refine .inr ⟨?_, rfl⟩
  cases h : G.code t <;> simp_all [Explorer.typeCodeToExplorerMap]

/-- The array loop of `PointerExplorer.explore_expr` finishes when every element
it may explore, on fewer than `L` lines, does. -/
theorem PointerExplorer.indexLoop_terminates (hexpr : expr ≠ "") {L : ℕ}
    (hchild : ∀ r : List String, r.length < L → ∀ p, p ≠ "" → ∀ w,
      ∃ n, (Explorer.exploreExpr G H n p w true r).Ends ValueExploreError) :
    ∀ r : List String, r.length ≤ L → ∃ n,
      (whileTrue (PointerExplorer.indexStep G H (Explorer.exploreExpr G H n) expr v) n r).Ends
        ValueExploreError := by
  have heof : ValueExploreError .eof := .inl rfl
  have hmem : ValueExploreError .memoryError := .inr (.inl rfl)
  have hmono : FuelMono fun n => PointerExplorer.indexStep G H (Explorer.exploreExpr G H n) expr v :=
    fun n => PointerExplorer.indexStep_le G H (Explorer.exploreExpr_le_succ G H n) expr v
  intro r
  induction r using WellFounded.induction (measure List.length).wf with
  | _ r ih =>
  intro hr
  -- the element explored, if any, is explored on the lines after its index
  obtain ⟨n, hn⟩ : ∃ n, ∀ l rest i w s g, r = l :: rest → pyInt l = some i →
      H.getitem v i = some w → H.str w = some s → guardExpr expr = .ok g →
        (Explorer.exploreExpr G H n (g ++ "[" ++ toString i ++ "]") w true rest).Ends
          ValueExploreError := by
    rcases r with _ | ⟨l, rest⟩
    · exact ⟨0, fun _ _ _ _ _ _ h => nomatch h⟩
    rcases hi : pyInt l with _ | i
    · exact ⟨0, fun _ _ _ _ _ _ h h1 => by cases h; cases hi.symm.trans h1⟩
    rcases hw : H.getitem v i with _ | w
    · exact ⟨0, fun _ _ _ _ _ _ h h1 h2 => by
        cases h; cases hi.symm.trans h1; cases hw.symm.trans h2⟩
    obtain ⟨g, hg⟩ := guardExpr_ok hexpr
    obtain ⟨n, hn⟩ := hchild rest (by simp at hr; omega) _ (index_path_ne_empty g i) w
    exact ⟨n, fun _ _ _ _ _ _ h h1 h2 _ h4 => by
      cases h; cases hi.symm.trans h1; cases hw.symm.trans h2; cases hg.symm.trans h4; exact hn⟩
  have h := PointerExplorer.indexStep_ends G H hexpr heof hmem hn
  exact whileTrue_ends hmono h.1 fun h' => ih _ (h.2 h') (by simp at hr ⊢; omega)

/-- **Termination of `explore_expr`**: where no chain of reference and typedef
steps is infinite, every exploration of a value with a non-empty path finishes,
on every value graph and every input: it returns, or raises `EOFError`,
`gdb.MemoryError` or the `TypeError` of an anonymous field.
In the model a failing gdb operation raises `gdb.MemoryError`: the `gdb.error` of a
`void *` dereferenced or of an optimized-out value, the `OverflowError` of an index
past 64 bits and CPython's recursion limit (`RecursionError`) are not modelled. -/
theorem Explorer.exploreExpr_terminates (hwf : WellFounded G.PassStep) (inp : List String)
    (expr : String) (hexpr : expr ≠ "") (v : V) (isChild : Bool) :
    ∃ n, (Explorer.exploreExpr G H n expr v isChild inp).Ends ValueExploreError := by
  have heof : ValueExploreError .eof := .inl rfl
  have hmem : ValueExploreError .memoryError := .inr (.inl rfl)
  have htype : ∀ m, ValueExploreError (.typeError m) := fun m => .inr (.inr ⟨m, rfl⟩)
  induction inp using WellFounded.induction (measure List.length).wf
    generalizing expr v isChild with
  | _ inp ihL =>
  obtain ⟨t, ht⟩ : ∃ t, H.type v = t := ⟨_, rfl⟩
  induction t using hwf.induction generalizing expr v isChild with
  | _ t iht =>
  subst ht
  rcases hc : Explorer.typeCodeToExplorerMap (G.code (H.type v)) with _ | c
  · exact ⟨1, by simp [Explorer.exploreExpr_succ, hc, Run.Ends]⟩
  suffices ∃ m, (whileTrue (c.exploreExpr G H m (Explorer.exploreExpr G H m) expr v isChild) m
      inp).Ends ValueExploreError by
    obtain ⟨m, hm⟩ := this
    exact ⟨m + 1, (Explorer.exploreExpr_ends_succ G H hc m).2 hm⟩
  -- another round starts on fewer lines, where the outer induction applies
  have hnext : ∀ u, (inp.drop u).length < inp.length →
      ∃ m, (whileTrue (c.exploreExpr G H m (Explorer.exploreExpr G H m) expr v isChild) m
        (inp.drop u)).Ends ValueExploreError := by
    intro u hlt
    obtain ⟨_ | m, hm⟩ := ihL _ hlt expr hexpr v isChild
    · exact absurd hm (by simp [Explorer.exploreExpr, Run.Ends])
    · exact ⟨m, (Explorer.exploreExpr_ends_succ G H hc m).1 hm⟩
  -- a child explored after a line is read is explored on fewer lines
  have hchild : ∀ r : List String, r.length < inp.length → ∀ p, p ≠ "" → ∀ w c,
      ∃ n, (Explorer.exploreExpr G H n p w c r).Ends ValueExploreError :=
    fun r hr p hp w c => ihL r hr p hp w c
  have hmono := ExplorerClass.exploreExpr_fuelMono G H c expr v isChild
  cases c with
  | scalar => exact whileTrue_ends_once hmono (n := 0) (ScalarExplorer.exploreExpr_ends G H heof hmem)
  | reference =>
    obtain ⟨n, hn⟩ : ∃ n, ∀ w, H.referencedValue v = some w →
        (Explorer.exploreExpr G H n expr w isChild inp).Ends ValueExploreError := by
      rcases hw : H.referencedValue v with _ | w
      · exact ⟨0, fun _ h => nomatch h⟩
      obtain ⟨n, hn⟩ := iht _ (G.passStep_target hc) expr hexpr w isChild
        (H.type_referencedValue v w hw)
      exact ⟨n, fun _ h => by cases h; exact hn⟩
    exact whileTrue_ends_once hmono (ReferenceExplorer.exploreExpr_ends G H hmem hn)
  | typedef =>
    obtain ⟨n, hn⟩ : ∃ n, ∀ w, H.cast v (G.stripTypedefs (H.type v)) = some w →
        (Explorer.exploreExpr G H n expr w isChild inp).Ends ValueExploreError := by
      rcases hw : H.cast v (G.stripTypedefs (H.type v)) with _ | w
      · exact ⟨0, fun _ h => nomatch h⟩
      obtain ⟨n, hn⟩ := iht _ (G.passStep_strip hc) expr hexpr w isChild (H.type_cast _ _ _ hw)
      exact ⟨n, fun _ h => by cases h; exact hn⟩
    exact whileTrue_ends_once hmono (TypedefExplorer.exploreExpr_ends G H hmem hn)
  | array =>
    obtain ⟨n, hn⟩ : ∃ n, ∀ l rest i w g, inp = l :: rest → pyInt l = some i →
        H.readable (H.getitem v i) = some w → guardExpr expr = .ok g →
          (Explorer.exploreExpr G H n (g ++ "[" ++ toString i ++ "]") w true rest).Ends
            ValueExploreError := by
      rcases inp with _ | ⟨l, rest⟩
      · exact ⟨0, fun _ _ _ _ _ h => nomatch h⟩
      rcases hi : pyInt l with _ | i
      · exact ⟨0, fun _ _ _ _ _ h h1 => by cases h; cases hi.symm.trans h1⟩
      rcases hw : H.readable (H.getitem v i) with _ | w
      · exact ⟨0, fun _ _ _ _ _ h h1 h2 => by
          cases h; cases hi.symm.trans h1; cases hw.symm.trans h2⟩
      obtain ⟨g, hg⟩ := guardExpr_ok hexpr
      obtain ⟨n, hn⟩ := hchild rest (by simp) _ (index_path_ne_empty g i) w true
      exact ⟨n, fun _ _ _ _ _ h h1 h2 h3 => by
        cases h; cases hi.symm.trans h1; cases hw.symm.trans h2; cases hg.symm.trans h3; exact hn⟩
    exact whileTrue_ends_of_shorter hmono (ArrayExplorer.exploreExpr_ends G H hexpr heof hn) hnext
  | compound =>
    obtain ⟨n, hn⟩ : ∃ n, ∀ l rest hasEx rows choices path w, inp = l :: rest →
        CompoundExplorer.exprFieldRows G H expr v (G.code (H.type v)) (G.fields (H.type v)) 0 =
          .ok (hasEx, rows, choices) →
        choices.lookup l = some (path, w) →
          (Explorer.exploreExpr G H n path w true rest).Ends ValueExploreError := by
      rcases inp with _ | ⟨l, rest⟩
      · exact ⟨0, fun _ _ _ _ _ _ _ h => nomatch h⟩
      rcases hrows : CompoundExplorer.exprFieldRows G H expr v (G.code (H.type v))
        (G.fields (H.type v)) 0 with _ | ⟨hasEx, rows, choices⟩
      · exact ⟨0, fun _ _ _ _ _ _ _ _ h => nomatch h⟩
      rcases hl : choices.lookup l with _ | ⟨path, w⟩
      · exact ⟨0, fun _ _ _ _ _ _ _ h h1 h2 => by cases h; cases h1; cases hl.symm.trans h2⟩
      obtain ⟨g, j, f, -, -, -, rfl, -⟩ := CompoundExplorer.exprFieldRows_lookup G H hrows hl
      obtain ⟨n, hn⟩ := hchild rest (by simp) _ (field_path_ne_empty g _) w true
      exact ⟨n, fun _ _ _ _ _ _ _ h h1 h2 => by
        cases h; cases h1; cases hl.symm.trans h2; exact hn⟩
    exact whileTrue_ends_of_shorter hmono
      (CompoundExplorer.exploreExpr_ends G H hexpr heof hmem htype hn) hnext
  | pointer =>
    obtain ⟨n, hderef, hloop⟩ : ∃ n, (∀ rest d g, inp = "y" :: rest →
          H.readable (H.dereference v) = some d → guardExpr expr = .ok g →
            (Explorer.exploreExpr G H n ("*" ++ g) d isChild rest).Ends ValueExploreError) ∧
        ∀ l rest, inp = l :: "y" :: rest → l ≠ "y" →
          (whileTrue (PointerExplorer.indexStep G H (Explorer.exploreExpr G H n) expr v) n
            rest).Ends ValueExploreError := by
      rcases inp with _ | ⟨l, rest⟩
      · exact ⟨0, (fun _ _ _ h => nomatch h), fun _ _ h => nomatch h⟩
      by_cases hl : l = "y"
      · subst hl
        rcases hd : H.readable (H.dereference v) with _ | d
        · exact ⟨0, (fun _ _ _ _ h => nomatch h), fun _ _ h h' => by cases h; exact absurd rfl h'⟩
        obtain ⟨g, hg⟩ := guardExpr_ok hexpr
        obtain ⟨n, hn⟩ := hchild rest (by simp) _ (deref_path_ne_empty g) d isChild
        exact ⟨n, fun _ _ _ h h1 h2 => by
            cases h; cases h1; cases hg.symm.trans h2; exact hn,
          fun _ _ h h' => by cases h; exact absurd rfl h'⟩
      rcases rest with _ | ⟨l', rest⟩
      · exact ⟨0, fun _ _ _ h => by cases h; exact absurd rfl hl, fun _ _ h => nomatch h⟩
      by_cases hl' : l' = "y"
      · subst hl'
        obtain ⟨n, hn⟩ := PointerExplorer.indexLoop_terminates G H (v := v) hexpr
          (fun r hr p hp w => hchild r hr p hp w true) rest (by simp only [List.length_cons]; omega)
        exact ⟨n, fun _ _ _ h => by cases h; exact absurd rfl hl, fun _ _ h _ => by
          cases h; exact hn⟩
      · exact ⟨0, fun _ _ _ h => by cases h; exact absurd rfl hl,
          fun _ _ h => by cases h; exact absurd rfl hl'⟩
    exact whileTrue_ends_once hmono (PointerExplorer.exploreExpr_ends G H hexpr heof hderef hloop)

/-! ### A circular list -/

/-- The values of a one-node circular list: the node, its `value`, and its `next`,
which points back to the node; past the node, memory is unreadable. -/
inductive ListValue where
  | node
  | value
  | next
  deriving DecidableEq, Repr

/-- `struct node n = {1, &n}`. -/
def circularList : ValueGraph listNode ListValue where
  type | .node => .node | .value => .int | .next => .nodePtr
  str | .value => some "1" | _ => some "0x601040 <n>"
  dereference | .next => some .node | _ => none
  getitem v i := if v = .next ∧ i = 0 then some .node else none
  getfield | .node, "value" => some .value | .node, "next" => some .next | _, _ => none
  cast _ _ := none
  referencedValue _ := none
  type_cast _ _ _ h := nomatch h
  type_referencedValue _ _ h := nomatch h

theorem listNode_passStep_wf : WellFounded listNode.PassStep :=
  ⟨fun t => ⟨t, fun s h => absurd h (by cases t <;> simp [TypeGraph.PassStep, listNode])⟩⟩

theorem exploreExpr_circularList_terminates :
    WellFounded listNode.PassStep ∧ "n" ≠ "" ∧
      ∃ k, (Explorer.exploreExpr listNode circularList k "n" .node false ["1", "y", "0", ""]).Ends
        ValueExploreError :=
  ⟨listNode_passStep_wf, by decide,
    Explorer.exploreExpr_terminates listNode circularList listNode_passStep_wf _ "n" (by decide)
      .node false⟩

/-! ### A reference to a typedef of itself -/

/-- A reference type `D &` whose target is a typedef `D` of the reference type
itself; there is one value of each. -/
inductive RefLoop where
  | ref
  | alias
  deriving DecidableEq, Repr

/-- The types of `RefLoop`. -/
def refLoopTypes : TypeGraph RefLoop where
  code | .ref => .ref | .alias => .typedef
  name | .ref => "D &" | .alias => "D"
  target _ := .alias
  fields _ := []
  stripTypedefs _ := .ref

/-- The reference's referent is the `D`, whose cast to its stripped type is the reference. -/
def refLoopValues : ValueGraph refLoopTypes RefLoop where
  type v := v
  str _ := some "@0x601040"
  dereference _ := none
  getitem _ _ := none
  getfield _ _ := none
  cast _ t := some t
  referencedValue _ := some .alias
  type_cast _ _ _ h := (Option.some.inj h).symm
  type_referencedValue _ _ h := (Option.some.inj h).symm

theorem Explorer.exploreExpr_refLoop_outOfFuel :
    ∀ (n : ℕ) (expr : String) (v : RefLoop) (isChild : Bool) (inp : List String),
      (Explorer.exploreExpr refLoopTypes refLoopValues n expr v isChild inp).res = .outOfFuel
  | 0, _, _, _, _ => rfl
  | 1, _, v, _, _ => by cases v <;> rfl
  | n + 2, expr, v, isChild, inp => by
    have ih := fun w => Explorer.exploreExpr_refLoop_outOfFuel (n + 1) expr w isChild inp
    rw [Explorer.exploreExpr_succ]
    cases v <;>
    simp only [Ex.bind_apply, emit_apply, Run.next_ok, List.drop_zero, whileTrue_succ, say_apply,
      show Explorer.typeCodeToExplorerMap (refLoopTypes.code (refLoopValues.type .ref)) =
        some .reference from rfl,
      show Explorer.typeCodeToExplorerMap (refLoopTypes.code (refLoopValues.type .alias)) =
        some .typedef from rfl,
      ExplorerClass.exploreExpr, ReferenceExplorer.exploreExpr, TypedefExplorer.exploreExpr,
      show refLoopValues.referencedValue .ref = some .alias from rfl,
      show refLoopValues.cast .alias (refLoopTypes.stripTypedefs (refLoopValues.type .alias)) =
        some .ref from rfl, ofMemory_some, Ex.pure_apply]
    all_goals exact Run.next_res_outOfFuel (Run.next_res_outOfFuel (ih _))

/-- `D &` with `typedef D & D` meets the hypotheses (`strip_typedefs` gives no
typedef, no reference targets a reference), yet `explore_expr` on the reference
runs out of every fuel without reading a line: the referent and the cast to the
stripped type hand the value back and forth forever. -/
theorem exploreExpr_refLoop :
    (∀ t, refLoopTypes.code (refLoopTypes.stripTypedefs t) ≠ .typedef) ∧
      (∀ t, refLoopTypes.code t = .ref ∨ refLoopTypes.code t = .rvalueRef →
        refLoopTypes.code (refLoopTypes.target t) ≠ .ref ∧
          refLoopTypes.code (refLoopTypes.target t) ≠ .rvalueRef) ∧
      ∀ n, (Explorer.exploreExpr refLoopTypes refLoopValues n "r" .ref false []).res = .outOfFuel :=
  ⟨fun _ => by simp [refLoopTypes], fun _ _ => by simp [refLoopTypes],
    fun n => Explorer.exploreExpr_refLoop_outOfFuel n "r" .ref false []⟩

end GdbExplore
