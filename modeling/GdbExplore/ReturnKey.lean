import GdbExplore.Termination.Values

/-!
# The return key

The help of each command ends "At any stage of exploration, hit the return key
(instead of a choice, if any) to return to the enclosing type or value." A choice
of the field menus is a number, the index of an array a Python `int`, and an
empty line is neither, so an empty line leaves a menu or an index prompt. A
scalar, or a struct with nothing to choose, waits for one line before it returns;
a pointer asks two questions, "y" to either of which explores further.

So `explore_type` returns after one empty line, and `explore_expr` after two,
whatever follows them. A reference or a typedef hands the value on without
reading, so this needs those hand-overs to stop, as termination does.

## What is proved

* `Explorer.exploreType_returnKey`: where no chain of pointer, array, reference and
  typedef steps is infinite, `explore_type` on an input that starts with an empty
  line returns, or raises the `TypeError` of an anonymous field, having read at
  most that line.
* `Explorer.exploreExpr_returnKey`: where no chain of reference and typedef steps is
  infinite, `explore_expr` on an input that starts with two empty lines returns, or
  raises `gdb.MemoryError` or a `TypeError`, having read at most those two lines.
-/

namespace GdbExplore

variable {N α β : Type} {P : Exc → Prop}

/-- The run `r` finished within `k` lines: it returned, or raised what `P` allows,
having read at most `k` lines. -/
def Run.EndsWithin (P : Exc → Prop) (k : ℕ) (r : Run N α) : Prop := r.Ends P ∧ r.used ≤ k

theorem Run.EndsWithin.next_pure {r : Run N α} {k : ℕ} {b : β} {inp : List String}
    (h : r.EndsWithin P k) : (r.next (fun _ => pure b) inp).EndsWithin P k := by
  obtain ⟨h, hk⟩ := h
  rcases r with ⟨_ | _ | _, u, tr⟩
  · exact ⟨trivial, by simpa using hk⟩
  · exact ⟨h, hk⟩
  · exact absurd h id

/-- What follows a run with `return False` ends as the run does, without asking for
another round. -/
theorem Run.EndsWithin.thenFalse {x : Ex N Unit} {k : ℕ} {inp : List String}
    (h : (x inp).EndsWithin P k) :
    ((x >>= fun _ => pure false) inp).EndsWithin P k ∧
      ((x >>= fun _ => pure false) inp).res ≠ .ok true :=
  ⟨h.next_pure, fun h' => absurd (Run.res_next_pure h') (by decide)⟩

/-- A `print` first leaves how a run ends and what it reads as they are. -/
theorem say_bind_apply (s : String) (f : Unit → Ex N β) (inp : List String) :
    (say s >>= f) inp = ⟨(f () inp).res, (f () inp).used, .print s :: (f () inp).trace⟩ := by
  simp

/-- A loop whose body finishes without asking for another round finishes as the
body does. -/
theorem whileTrue_endsWithin {body : ℕ → Ex N Bool} (hb : FuelMono body) {n k : ℕ}
    {inp : List String} (h : (body n inp).EndsWithin P k) (h' : (body n inp).res ≠ .ok true) :
    (whileTrue (body (n + 1)) (n + 1) inp).EndsWithin P k := by
  rw [whileTrue_succ, Ex.bind_apply, hb n inp h.1.ne_outOfFuel]
  rcases hr : body n inp with ⟨(_ | _) | _ | _, u, tr⟩ <;> rw [hr] at h h'
  · exact ⟨trivial, by simpa using h.2⟩
  · exact absurd rfl h'
  · exact h
  · exact absurd h.1 id

/-! ### `explore_type` -/

section Types

variable {T : Type} (G : TypeGraph T) {e : String → T → Bool → Ex T Unit} {name : String} {t : T}
  {c : Bool} {rest : List String}

/-- What `explore_type` may raise after an empty line: the `TypeError` of an anonymous field. -/
def TypeReturnError (e : Exc) : Prop := ∃ m, e = .typeError m

theorem ScalarExplorer.exploreType_emptyLine :
    (ScalarExplorer.exploreType G name t c ("" :: rest)).EndsWithin TypeReturnError 1 ∧
      (ScalarExplorer.exploreType G name t c ("" :: rest)).res ≠ .ok true := by
  unfold ScalarExplorer.exploreType
  cases c <;> simp [Explorer.returnToEnclosingTypePrompt, Explorer.returnToEnclosingType,
    Run.EndsWithin, Run.Ends]

theorem PointerExplorer.exploreType_emptyLine
    (h : (e ("the pointee type of " ++ name) (G.target t) c ("" :: rest)).EndsWithin
      TypeReturnError 1) :
    (PointerExplorer.exploreType G e name t c ("" :: rest)).EndsWithin TypeReturnError 1 ∧
      (PointerExplorer.exploreType G e name t c ("" :: rest)).res ≠ .ok true := by
  simp only [PointerExplorer.exploreType, say_bind_apply]
  exact h.thenFalse

theorem ArrayExplorer.exploreType_emptyLine
    (h : (e ("the array element of " ++ name) (G.target t) c ("" :: rest)).EndsWithin
      TypeReturnError 1) :
    (ArrayExplorer.exploreType G e name t c ("" :: rest)).EndsWithin TypeReturnError 1 ∧
      (ArrayExplorer.exploreType G e name t c ("" :: rest)).res ≠ .ok true := by
  simp only [ArrayExplorer.exploreType, say_bind_apply]
  exact h.thenFalse

theorem ReferenceExplorer.exploreType_emptyLine
    (h : (e name (G.target t) c ("" :: rest)).EndsWithin TypeReturnError 1) :
    (ReferenceExplorer.exploreType G e name t c ("" :: rest)).EndsWithin TypeReturnError 1 ∧
      (ReferenceExplorer.exploreType G e name t c ("" :: rest)).res ≠ .ok true :=
  h.thenFalse

theorem TypedefExplorer.exploreType_emptyLine
    (h : (e name (G.stripTypedefs t) c ("" :: rest)).EndsWithin TypeReturnError 1) :
    (TypedefExplorer.exploreType G e name t c ("" :: rest)).EndsWithin TypeReturnError 1 ∧
      (TypedefExplorer.exploreType G e name t c ("" :: rest)).res ≠ .ok true := by
  simp only [TypedefExplorer.exploreType, say_bind_apply]
  exact h.thenFalse

/-- A struct or union reads the empty line as no choice and returns. -/
theorem CompoundExplorer.exploreType_emptyLine :
    (CompoundExplorer.exploreType G e name t c ("" :: rest)).EndsWithin TypeReturnError 1 ∧
      (CompoundExplorer.exploreType G e name t c ("" :: rest)).res ≠ .ok true := by
  unfold CompoundExplorer.exploreType
  dsimp only
  split
  · cases c <;> simp [Explorer.returnToEnclosingTypePrompt, Run.EndsWithin, Run.Ends]
  rcases hrows : CompoundExplorer.typeFieldRows G (G.fields t) 0 with ⟨rows, choices⟩
  rcases hm : CompoundExplorer.maxFieldNameLength rows with err | w
  · simp [CompoundExplorer.printFields_apply, hm, Run.EndsWithin, Run.Ends, TypeReturnError,
      CompoundExplorer.maxFieldNameLength_error hm]
  have hl : choices.lookup "" = none := by
    rcases hl : choices.lookup "" with _ | ⟨fn, ft, fd⟩
    · rfl
    · obtain ⟨j, f, -, h, -⟩ := CompoundExplorer.typeFieldRows_lookup G (by rw [hrows]; exact hl)
      exact absurd h.symm (toString_nat_ne_empty _)
  cases choices.isEmpty <;> cases c <;>
    simp [CompoundExplorer.printFields_apply, hm, hl, Run.EndsWithin, Run.Ends,
      Explorer.returnToEnclosingType, Explorer.returnToEnclosingTypePrompt]

theorem Explorer.exploreType_endsWithin_succ {cl : ExplorerClass}
    (hcl : Explorer.typeCodeToExplorerMap (G.code t) = some cl) (m k : ℕ) {inp : List String} :
    (Explorer.exploreType G (m + 1) name t c inp).EndsWithin P k ↔
      (whileTrue (cl.exploreType G (Explorer.exploreType G m) name t c) m inp).EndsWithin P k := by
  simp only [Explorer.exploreType_succ, hcl, Ex.bind_apply, emit_apply, Run.next_ok,
    List.drop_zero, Run.EndsWithin, Nat.zero_add]
  rfl

/-- **The return key leaves `explore_type`.** Where no chain of pointer, array,
reference and typedef steps is infinite, `explore_type` on an input that starts with
an empty line returns, or raises the `TypeError` of an anonymous field, having read
at most that line, whatever follows it. -/
theorem Explorer.exploreType_returnKey (hwf : WellFounded G.BareStep) (rest : List String)
    (name : String) (t : T) (c : Bool) :
    ∃ n, (Explorer.exploreType G n name t c ("" :: rest)).EndsWithin TypeReturnError 1 := by
  induction t using hwf.induction generalizing name c with
  | _ t iht =>
  rcases hcl : Explorer.typeCodeToExplorerMap (G.code t) with _ | cl
  · exact ⟨1, by simp [Explorer.exploreType_succ, hcl, Run.EndsWithin, Run.Ends]⟩
  -- one round of the class finishes without asking for another
  suffices ∃ n, (cl.exploreType G (Explorer.exploreType G n) name t c ("" :: rest)).EndsWithin
      TypeReturnError 1 ∧
        (cl.exploreType G (Explorer.exploreType G n) name t c ("" :: rest)).res ≠ .ok true by
    obtain ⟨n, h⟩ := this
    exact ⟨n + 2, (Explorer.exploreType_endsWithin_succ G hcl (n + 1) 1).2
      (whileTrue_endsWithin (ExplorerClass.exploreType_fuelMono G cl name t c) h.1 h.2)⟩
  cases cl with
  | scalar => exact ⟨0, ScalarExplorer.exploreType_emptyLine G⟩
  | compound => exact ⟨0, CompoundExplorer.exploreType_emptyLine G⟩
  | pointer =>
    obtain ⟨n, hn⟩ := iht _ (G.bareStep_target hcl (.inl rfl)) ("the pointee type of " ++ name) c
    exact ⟨n, PointerExplorer.exploreType_emptyLine G hn⟩
  | array =>
    obtain ⟨n, hn⟩ :=
      iht _ (G.bareStep_target hcl (.inr (.inl rfl))) ("the array element of " ++ name) c
    exact ⟨n, ArrayExplorer.exploreType_emptyLine G hn⟩
  | reference =>
    obtain ⟨n, hn⟩ := iht _ (G.bareStep_target hcl (.inr (.inr rfl))) name c
    exact ⟨n, ReferenceExplorer.exploreType_emptyLine G hn⟩
  | typedef =>
    obtain ⟨n, hn⟩ := iht _ (G.bareStep_strip hcl) name c
    exact ⟨n, TypedefExplorer.exploreType_emptyLine G hn⟩

theorem exploreType_listNode_returnKey :
    WellFounded listNode.BareStep ∧
      ∃ n, (Explorer.exploreType listNode n "struct node" .node false ["", "1"]).EndsWithin
        TypeReturnError 1 :=
  ⟨listNode_bareStep_wf,
    Explorer.exploreType_returnKey listNode listNode_bareStep_wf ["1"] "struct node" .node false⟩

end Types

/-! ### `explore_expr` -/

/-- The value a gdb call may return needs at most some fuel, if each value it can
return needs some. -/
theorem exists_fuel_of_some {o : Option α} {Q : α → ℕ → Prop} (h : ∀ a, o = some a → ∃ n, Q a n) :
    ∃ n, ∀ a, o = some a → Q a n := by
  rcases o with _ | a
  · exact ⟨0, fun _ h => nomatch h⟩
  · obtain ⟨n, hn⟩ := h a rfl
    exact ⟨n, fun _ h => by cases h; exact hn⟩

section Values

variable {T V : Type} (G : TypeGraph T) (H : ValueGraph G V) {e : String → V → Bool → Ex V Unit}
  {expr : String} {v : V} {c : Bool} {rest : List String}

/-- What `explore_expr` may raise after two empty lines: `gdb.MemoryError`, or a
`TypeError` of an anonymous field. -/
def ValueReturnError (e : Exc) : Prop := e = .memoryError ∨ ∃ m, e = .typeError m

theorem ScalarExplorer.exploreExpr_emptyLines :
    (ScalarExplorer.exploreExpr G H expr v c ("" :: "" :: rest)).EndsWithin ValueReturnError 2 ∧
      (ScalarExplorer.exploreExpr G H expr v c ("" :: "" :: rest)).res ≠ .ok true := by
  unfold ScalarExplorer.exploreExpr
  cases H.str v <;> cases c <;> simp [Explorer.returnToParentValuePrompt,
    Explorer.returnToParentValue, Run.EndsWithin, Run.Ends, ValueReturnError]

/-- A pointer takes the two empty lines as "n" to both of its questions. -/
theorem PointerExplorer.exploreExpr_emptyLines (fuel : ℕ) :
    (PointerExplorer.exploreExpr G H fuel e expr v c ("" :: "" :: rest)).EndsWithin
      ValueReturnError 2 ∧
      (PointerExplorer.exploreExpr G H fuel e expr v c ("" :: "" :: rest)).res ≠ .ok true := by
  unfold PointerExplorer.exploreExpr
  cases c <;> simp [Explorer.returnToParentValue, Run.EndsWithin, Run.Ends]

theorem ArrayExplorer.exploreExpr_emptyLines :
    (ArrayExplorer.exploreExpr G H e expr v c ("" :: "" :: rest)).EndsWithin ValueReturnError 2 ∧
      (ArrayExplorer.exploreExpr G H e expr v c ("" :: "" :: rest)).res ≠ .ok true := by
  unfold ArrayExplorer.exploreExpr
  cases c <;> simp [pyInt_empty, Explorer.returnToParentValue, Run.EndsWithin, Run.Ends]

theorem ReferenceExplorer.exploreExpr_emptyLines
    (h : ∀ w, H.referencedValue v = some w →
      (e expr w c ("" :: "" :: rest)).EndsWithin ValueReturnError 2) :
    (ReferenceExplorer.exploreExpr G H e expr v c ("" :: "" :: rest)).EndsWithin
      ValueReturnError 2 ∧
      (ReferenceExplorer.exploreExpr G H e expr v c ("" :: "" :: rest)).res ≠ .ok true := by
  unfold ReferenceExplorer.exploreExpr
  rcases hw : H.referencedValue v with _ | w
  · simp [Run.EndsWithin, Run.Ends, ValueReturnError]
  · rw [ofMemory_some, Ex.pure_bind]
    exact (h w hw).thenFalse

theorem TypedefExplorer.exploreExpr_emptyLines
    (h : ∀ w, H.cast v (G.stripTypedefs (H.type v)) = some w →
      (e expr w c ("" :: "" :: rest)).EndsWithin ValueReturnError 2) :
    (TypedefExplorer.exploreExpr G H e expr v c ("" :: "" :: rest)).EndsWithin
      ValueReturnError 2 ∧
      (TypedefExplorer.exploreExpr G H e expr v c ("" :: "" :: rest)).res ≠ .ok true := by
  unfold TypedefExplorer.exploreExpr
  rw [say_bind_apply]
  rcases hw : H.cast v (G.stripTypedefs (H.type v)) with _ | w
  · simp [Run.EndsWithin, Run.Ends, ValueReturnError]
  · rw [ofMemory_some, Ex.pure_bind]
    exact (h w hw).thenFalse

/-- A struct or union reads the empty line as no choice and returns. -/
theorem CompoundExplorer.exploreExpr_emptyLines (hexpr : expr ≠ "") :
    (CompoundExplorer.exploreExpr G H e expr v c ("" :: "" :: rest)).EndsWithin
      ValueReturnError 2 ∧
      (CompoundExplorer.exploreExpr G H e expr v c ("" :: "" :: rest)).res ≠ .ok true := by
  unfold CompoundExplorer.exploreExpr
  dsimp only
  split
  · cases c <;> simp [Explorer.returnToParentValuePrompt, Run.EndsWithin, Run.Ends]
  rcases hrows : CompoundExplorer.exprFieldRows G H expr v (G.code (H.type v)) (G.fields (H.type v))
    0 with err | ⟨hasEx, rows, choices⟩
  · have := CompoundExplorer.exprFieldRows_error G H hexpr hrows
    simp [Run.EndsWithin, Run.Ends, ValueReturnError, this]
  rcases hm : CompoundExplorer.maxFieldNameLength rows with err | w
  · simp [CompoundExplorer.printFields_apply, hm, Run.EndsWithin, Run.Ends, ValueReturnError,
      CompoundExplorer.maxFieldNameLength_error hm]
  have hl : choices.lookup "" = none := by
    rcases hl : choices.lookup "" with _ | ⟨path, w⟩
    · rfl
    · obtain ⟨g, j, f, -, -, h, -⟩ := CompoundExplorer.exprFieldRows_lookup G H hrows hl
      exact absurd h.symm (toString_nat_ne_empty _)
  cases hasEx <;> cases c <;>
    simp [CompoundExplorer.printFields_apply, hm, hl, Run.EndsWithin, Run.Ends,
      Explorer.returnToParentValue, Explorer.returnToParentValuePrompt]

theorem Explorer.exploreExpr_endsWithin_succ {cl : ExplorerClass}
    (hcl : Explorer.typeCodeToExplorerMap (G.code (H.type v)) = some cl) (m k : ℕ)
    {inp : List String} :
    (Explorer.exploreExpr G H (m + 1) expr v c inp).EndsWithin P k ↔
      (whileTrue (cl.exploreExpr G H m (Explorer.exploreExpr G H m) expr v c) m inp).EndsWithin
        P k := by
  simp only [Explorer.exploreExpr_succ, hcl, Ex.bind_apply, emit_apply, Run.next_ok,
    List.drop_zero, Run.EndsWithin, Nat.zero_add]
  rfl

/-- **Two presses of the return key leave `explore_expr`.** Where no chain of
reference and typedef steps is infinite, `explore_expr` on a non-empty path and an
input that starts with two empty lines returns, or raises `gdb.MemoryError` or a
`TypeError`, having read at most those two lines, whatever follows them. -/
theorem Explorer.exploreExpr_returnKey (hwf : WellFounded G.PassStep) (rest : List String)
    (hexpr : expr ≠ "") (v : V) (c : Bool) :
    ∃ n, (Explorer.exploreExpr G H n expr v c ("" :: "" :: rest)).EndsWithin ValueReturnError 2 := by
  obtain ⟨t, ht⟩ : ∃ t, H.type v = t := ⟨_, rfl⟩
  induction t using hwf.induction generalizing v c with
  | _ t iht =>
  subst ht
  rcases hcl : Explorer.typeCodeToExplorerMap (G.code (H.type v)) with _ | cl
  · exact ⟨1, by simp [Explorer.exploreExpr_succ, hcl, Run.EndsWithin, Run.Ends]⟩
  -- one round of the class finishes without asking for another
  suffices ∃ n, (cl.exploreExpr G H n (Explorer.exploreExpr G H n) expr v c
      ("" :: "" :: rest)).EndsWithin ValueReturnError 2 ∧
        (cl.exploreExpr G H n (Explorer.exploreExpr G H n) expr v c ("" :: "" :: rest)).res ≠
          .ok true by
    obtain ⟨n, h⟩ := this
    exact ⟨n + 2, (Explorer.exploreExpr_endsWithin_succ G H hcl (n + 1) 2).2
      (whileTrue_endsWithin (ExplorerClass.exploreExpr_fuelMono G H cl expr v c) h.1 h.2)⟩
  cases cl with
  | scalar => exact ⟨0, ScalarExplorer.exploreExpr_emptyLines G H⟩
  | compound => exact ⟨0, CompoundExplorer.exploreExpr_emptyLines G H hexpr⟩
  | pointer => exact ⟨0, PointerExplorer.exploreExpr_emptyLines G H 0⟩
  | array => exact ⟨0, ArrayExplorer.exploreExpr_emptyLines G H⟩
  | reference =>
    obtain ⟨n, hn⟩ := exists_fuel_of_some fun w hw =>
      iht _ (G.passStep_target hcl) w c (H.type_referencedValue v w hw)
    exact ⟨n, ReferenceExplorer.exploreExpr_emptyLines G H hn⟩
  | typedef =>
    obtain ⟨n, hn⟩ := exists_fuel_of_some fun w hw =>
      iht _ (G.passStep_strip hcl) w c (H.type_cast _ _ _ hw)
    exact ⟨n, TypedefExplorer.exploreExpr_emptyLines G H hn⟩

theorem exploreExpr_circularList_returnKey :
    WellFounded listNode.PassStep ∧ "n" ≠ "" ∧
      ∃ k, (Explorer.exploreExpr listNode circularList k "n" .node false ["", "", "1"]).EndsWithin
        ValueReturnError 2 :=
  ⟨listNode_passStep_wf, by decide,
    Explorer.exploreExpr_returnKey listNode circularList listNode_passStep_wf ["1"] (by decide)
      .node false⟩

end Values

end GdbExplore
