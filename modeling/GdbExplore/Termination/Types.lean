import GdbExplore.Fuel

/-!
# Termination of `explore_type`

`Explorer.explore_type` recurses into a pointer's pointee, an array's element,
a reference's target and a typedef's stripped type at once, without reading a
line; only a struct or union reads one (its field number) before it explores a
field, and before each Repeat. So a cycle of pointer, array, reference and
typedef steps alone makes the recursion infinite: Go's `type T *T` is its own
pointee, and `explore_type` on it never returns (`exploreType_selfPointer`).

## What is proved

* `Explorer.exploreType_terminates`: where no chain of such steps is infinite
  (for a finite graph: every cycle passes through a struct or union),
  `explore_type` finishes on every input, by returning, by `EOFError` when the
  input runs out, or by the `TypeError` of an anonymous field.

The measure is the number of lines left, then the well-founded step relation:
a struct's child and its next round come after a line is read, every other
child is one step down the relation.
-/

namespace GdbExplore

variable {T : Type} {P : Exc → Prop} (G : TypeGraph T)

/-- `explore_type` goes from the type `t` to `s` without reading a line: `s` is
the pointee, element or referent of `t`, or its stripped type if `t` is a typedef. -/
def TypeGraph.BareStep (s t : T) : Prop :=
  (G.code t = .ptr ∨ G.code t = .array ∨ G.code t = .ref ∨ G.code t = .rvalueRef) ∧
      s = G.target t ∨
    G.code t = .typedef ∧ s = G.stripTypedefs t

/-- The exceptions `explore_type` raises: `EOFError`, and the `TypeError` of an
anonymous field. -/
def TypeExploreError (e : Exc) : Prop := e = .eof ∨ ∃ m, e = .typeError m

variable {e : String → T → Bool → Ex T Unit} {name : String} {t : T} {isChild : Bool}
  {inp : List String}

theorem ScalarExplorer.exploreType_ends (heof : P .eof) :
    (ScalarExplorer.exploreType G name t isChild inp).Ends P ∧
      (ScalarExplorer.exploreType G name t isChild inp).res ≠ .ok true := by
  unfold ScalarExplorer.exploreType
  cases isChild <;> cases inp <;>
    simp [Explorer.returnToEnclosingTypePrompt, Explorer.returnToEnclosingType, Run.Ends, heof]

theorem PointerExplorer.exploreType_ends
    (h : (e ("the pointee type of " ++ name) (G.target t) isChild inp).Ends P) :
    (PointerExplorer.exploreType G e name t isChild inp).Ends P ∧
      (PointerExplorer.exploreType G e name t isChild inp).res ≠ .ok true := by
  simp only [PointerExplorer.exploreType, Ex.bind_apply, say_apply, Run.next_ok, List.drop_zero]
  exact ⟨h.next fun _ _ => trivial, fun h' => absurd (Run.res_next_pure h') (by decide)⟩

theorem ArrayExplorer.exploreType_ends
    (h : (e ("the array element of " ++ name) (G.target t) isChild inp).Ends P) :
    (ArrayExplorer.exploreType G e name t isChild inp).Ends P ∧
      (ArrayExplorer.exploreType G e name t isChild inp).res ≠ .ok true := by
  simp only [ArrayExplorer.exploreType, Ex.bind_apply, say_apply, Run.next_ok, List.drop_zero]
  exact ⟨h.next fun _ _ => trivial, fun h' => absurd (Run.res_next_pure h') (by decide)⟩

theorem ReferenceExplorer.exploreType_ends (h : (e name (G.target t) isChild inp).Ends P) :
    (ReferenceExplorer.exploreType G e name t isChild inp).Ends P ∧
      (ReferenceExplorer.exploreType G e name t isChild inp).res ≠ .ok true := by
  simp only [ReferenceExplorer.exploreType, Ex.bind_apply]
  exact ⟨h.next fun _ _ => trivial, fun h' => absurd (Run.res_next_pure h') (by decide)⟩

theorem TypedefExplorer.exploreType_ends (h : (e name (G.stripTypedefs t) isChild inp).Ends P) :
    (TypedefExplorer.exploreType G e name t isChild inp).Ends P ∧
      (TypedefExplorer.exploreType G e name t isChild inp).res ≠ .ok true := by
  simp only [TypedefExplorer.exploreType, Ex.bind_apply, say_apply, Run.next_ok, List.drop_zero]
  exact ⟨h.next fun _ _ => trivial, fun h' => absurd (Run.res_next_pure h') (by decide)⟩

/-- A struct or union finishes when the field it explores does, and asks for
another round only after reading a line. -/
theorem CompoundExplorer.exploreType_ends (heof : P .eof) (htype : ∀ m, P (.typeError m))
    (hchild : ∀ l rest fn ft fd, inp = l :: rest →
      (typeFieldRows G (G.fields t) 0).2.lookup l = some (fn, ft, fd) →
        (e (newName name isChild fn fd) ft true rest).Ends P) :
    (CompoundExplorer.exploreType G e name t isChild inp).Ends P ∧
      ((CompoundExplorer.exploreType G e name t isChild inp).res = .ok true →
        (inp.drop (CompoundExplorer.exploreType G e name t isChild inp).used).length <
          inp.length) := by
  unfold CompoundExplorer.exploreType
  dsimp only
  split
  · cases isChild <;> cases inp <;> simp [Explorer.returnToEnclosingTypePrompt, Run.Ends, heof]
  · rcases hrows : typeFieldRows G (G.fields t) 0 with ⟨rows, choices⟩
    rw [hrows] at hchild
    rcases hm : maxFieldNameLength rows with err | w
    · simp [printFields_apply, hm, Run.Ends, maxFieldNameLength_error hm, htype]
    · cases hc : choices.isEmpty
      · rcases inp with _ | ⟨l, rest⟩
        · simp [printFields_apply, hm, hc, Run.Ends, heof]
        · rcases hl : choices.lookup l with _ | ⟨fn, ft, fd⟩
          · cases isChild <;>
              simp [printFields_apply, hm, hc, hl, Run.Ends, Explorer.returnToEnclosingType]
          · simp only [printFields_apply, hm, hc, hl, Ex.bind_apply, say_apply, rawInput_cons,
              Run.next_ok, Bool.not_false, if_true, List.drop_zero]
            refine ⟨(hchild l rest fn ft fd rfl hl).next fun _ _ => trivial, fun _ => ?_⟩
            simp only [List.length_drop, List.length_cons]
            omega
      · cases isChild <;> cases inp <;>
          simp [printFields_apply, hm, hc, Run.Ends, heof, Explorer.returnToEnclosingTypePrompt]

theorem Explorer.exploreType_ends_succ {c : ExplorerClass}
    (hc : Explorer.typeCodeToExplorerMap (G.code t) = some c) (m : ℕ) :
    (Explorer.exploreType G (m + 1) name t isChild inp).Ends P ↔
      (whileTrue (c.exploreType G (Explorer.exploreType G m) name t isChild) m inp).Ends P := by
  simp only [Explorer.exploreType_succ, hc, Ex.bind_apply, emit_apply, Run.next_ok, List.drop_zero]
  rfl

theorem TypeGraph.bareStep_target {c : ExplorerClass}
    (hc : Explorer.typeCodeToExplorerMap (G.code t) = some c)
    (hc' : c = .pointer ∨ c = .array ∨ c = .reference) : G.BareStep (G.target t) t := by
  refine .inl ⟨?_, rfl⟩
  rcases hc' with rfl | rfl | rfl <;> cases h : G.code t <;> simp_all [Explorer.typeCodeToExplorerMap]

theorem TypeGraph.bareStep_strip (hc : Explorer.typeCodeToExplorerMap (G.code t) = some .typedef) :
    G.BareStep (G.stripTypedefs t) t := by
  refine .inr ⟨?_, rfl⟩
  cases h : G.code t <;> simp_all [Explorer.typeCodeToExplorerMap]

/-- **Termination of `explore_type`**: where no chain of pointer, array, reference
and typedef steps is infinite, every exploration of a type finishes, by returning,
by `EOFError`, or by the `TypeError` of an anonymous field. CPython's recursion
limit (`RecursionError`) is not modelled. -/
theorem Explorer.exploreType_terminates (hwf : WellFounded G.BareStep) (inp : List String)
    (name : String) (t : T) (isChild : Bool) :
    ∃ n, (Explorer.exploreType G n name t isChild inp).Ends TypeExploreError := by
  have heof : TypeExploreError .eof := .inl rfl
  have htype : ∀ m, TypeExploreError (.typeError m) := fun m => .inr ⟨m, rfl⟩
  obtain ⟨L, hL⟩ : ∃ L, inp.length = L := ⟨_, rfl⟩
  induction L using Nat.strong_induction_on generalizing inp name t isChild with
  | _ L ihL =>
  induction t using hwf.induction generalizing name isChild with
  | _ t iht =>
  rcases hc : Explorer.typeCodeToExplorerMap (G.code t) with _ | c
  · exact ⟨1, by simp [Explorer.exploreType_succ, hc, Run.Ends]⟩
  suffices ∃ m, (whileTrue (c.exploreType G (Explorer.exploreType G m) name t isChild) m inp).Ends
      TypeExploreError by
    obtain ⟨m, hm⟩ := this
    exact ⟨m + 1, (Explorer.exploreType_ends_succ G hc m).2 hm⟩
  -- another round starts on fewer lines, where the outer induction applies
  have hnext : ∀ u, (inp.drop u).length < inp.length →
      ∃ m, (whileTrue (c.exploreType G (Explorer.exploreType G m) name t isChild) m
        (inp.drop u)).Ends TypeExploreError := by
    intro u hlt
    obtain ⟨_ | m, hm⟩ := ihL _ (hL ▸ hlt) (inp.drop u) name t isChild rfl
    · exact absurd hm (by simp [Explorer.exploreType, Run.Ends])
    · exact ⟨m, (Explorer.exploreType_ends_succ G hc m).1 hm⟩
  have hmono := ExplorerClass.exploreType_fuelMono G c name t isChild
  cases c with
  | scalar => exact whileTrue_ends_once hmono (n := 0) (ScalarExplorer.exploreType_ends G heof)
  | pointer =>
    obtain ⟨n, hn⟩ := iht _ (G.bareStep_target hc (.inl rfl)) ("the pointee type of " ++ name) isChild
    exact whileTrue_ends_once hmono (PointerExplorer.exploreType_ends G hn)
  | array =>
    obtain ⟨n, hn⟩ := iht _ (G.bareStep_target hc (.inr (.inl rfl))) ("the array element of " ++ name)
      isChild
    exact whileTrue_ends_once hmono (ArrayExplorer.exploreType_ends G hn)
  | reference =>
    obtain ⟨n, hn⟩ := iht _ (G.bareStep_target hc (.inr (.inr rfl))) name isChild
    exact whileTrue_ends_once hmono (ReferenceExplorer.exploreType_ends G hn)
  | typedef =>
    obtain ⟨n, hn⟩ := iht _ (G.bareStep_strip hc) name isChild
    exact whileTrue_ends_once hmono (TypedefExplorer.exploreType_ends G hn)
  | compound =>
    -- the field explored, if any, is explored on fewer lines
    obtain ⟨n, hn⟩ : ∃ n, ∀ l rest fn ft fd, inp = l :: rest →
        (CompoundExplorer.typeFieldRows G (G.fields t) 0).2.lookup l = some (fn, ft, fd) →
          (Explorer.exploreType G n (CompoundExplorer.newName name isChild fn fd) ft true
            rest).Ends TypeExploreError := by
      rcases inp with _ | ⟨l, rest⟩
      · exact ⟨0, fun _ _ _ _ _ h => nomatch h⟩
      rcases hl : (CompoundExplorer.typeFieldRows G (G.fields t) 0).2.lookup l with _ | ⟨fn, ft, fd⟩
      · exact ⟨0, fun _ _ _ _ _ h h' => by cases h; simp [hl] at h'⟩
      obtain ⟨n, hn⟩ := ihL rest.length (by simp at hL; omega) rest
        (CompoundExplorer.newName name isChild fn fd) ft true rfl
      exact ⟨n, fun _ _ _ _ _ h h' => by cases h; rw [hl] at h'; cases h'; exact hn⟩
    exact whileTrue_ends_of_shorter hmono (CompoundExplorer.exploreType_ends G heof htype hn) hnext

/-- The types of `struct node { int value; struct node *next; }`. -/
inductive ListType where
  | node
  | nodePtr
  | int
  deriving DecidableEq, Repr

/-- A linked list's node: its cycle passes through the struct. -/
def listNode : TypeGraph ListType where
  code | .node => .struct | .nodePtr => .ptr | .int => .int
  name | .node => "struct node" | .nodePtr => "struct node *" | .int => "int"
  target _ := .node
  fields
    | .node => [⟨some "value", .int, false, false⟩, ⟨some "next", .nodePtr, false, false⟩]
    | _ => []
  stripTypedefs t := t

theorem listNode_bareStep_wf : WellFounded listNode.BareStep := by
  refine Subrelation.wf (r := InvImage (· < ·) fun t => if t = .nodePtr then 1 else 0) ?_
    (InvImage.wf _ Nat.lt_wfRel.wf)
  intro s t h
  show (if s = .nodePtr then 1 else 0) < (if t = .nodePtr then 1 else 0)
  rcases t <;> rcases s <;> simp_all [TypeGraph.BareStep, listNode]

theorem exploreType_listNode_terminates :
    WellFounded listNode.BareStep ∧
      ∃ n, (Explorer.exploreType listNode n "struct node" .node false ["1", "0", ""]).Ends
        TypeExploreError :=
  ⟨listNode_bareStep_wf,
    Explorer.exploreType_terminates listNode listNode_bareStep_wf _ "struct node" .node false⟩

/-! ### A type that is its own pointee -/

/-- Go's `type T *T`: a pointer type that is its own pointee. -/
def selfPointer : TypeGraph Unit where
  code _ := .ptr
  name _ := "main.T"
  target _ := ()
  fields _ := []
  stripTypedefs _ := ()

theorem Explorer.exploreType_selfPointer_outOfFuel :
    ∀ (n : ℕ) (name : String) (isChild : Bool) (inp : List String),
      (Explorer.exploreType selfPointer n name () isChild inp).res = .outOfFuel
  | 0, _, _, _ => rfl
  | 1, _, _, _ => rfl
  | n + 2, name, isChild, inp => by
    have ih := Explorer.exploreType_selfPointer_outOfFuel (n + 1) ("the pointee type of " ++ name)
      isChild inp
    rw [Explorer.exploreType_succ]
    simp only [Ex.bind_apply, emit_apply, Run.next_ok, List.drop_zero, whileTrue_succ,
      show selfPointer.code () = .ptr from rfl, Explorer.typeCodeToExplorerMap,
      ExplorerClass.exploreType, PointerExplorer.exploreType, say_apply]
    rcases hr : Explorer.exploreType selfPointer (n + 1) ("the pointee type of " ++ name) () isChild
      inp with ⟨_ | _ | _, u, tr⟩ <;> simp_all

/-- `type T *T` meets the hypotheses (`strip_typedefs` gives no typedef, no
reference targets a reference), yet `explore_type` on it runs out of every fuel
without reading a line: the recursion into the pointee never ends. -/
theorem exploreType_selfPointer :
    (∀ t, selfPointer.code (selfPointer.stripTypedefs t) ≠ .typedef) ∧
      (∀ t, selfPointer.code t ≠ .ref ∧ selfPointer.code t ≠ .rvalueRef) ∧
      ∀ n, (Explorer.exploreType selfPointer n "T" () false []).res = .outOfFuel :=
  ⟨fun _ => by simp [selfPointer], fun _ => by simp [selfPointer],
    fun n => Explorer.exploreType_selfPointer_outOfFuel n "T" false []⟩

end GdbExplore
