import GdbExplore.Explorers

/-!
# The dispatcher and the commands

`Explorer.explore_expr(expr, value, is_child)` looks the code of the value's
type up in `type_code_to_explorer_map` and runs that class's `explore_expr`
while it returns `True`; a code with no explorer is reported. Classes explore
children by calling the dispatcher again, so the two recurse into each other;
`Explorer.exploreExpr n` is that recursion given fuel `n`, which also bounds
the `while` loop. `explore_type` is the same for types.

The commands `explore`, `explore value` and `explore type` check their
argument, evaluate it with gdb, and start a root exploration (`is_child` false).
A command's trace holds value nodes and type nodes, so it is over `V ⊕ T`.
-/

namespace GdbExplore

variable {T V N N' α : Type}

/-- The explorer classes, the values of `Explorer.type_code_to_explorer_map`. -/
inductive ExplorerClass where
  | scalar
  | compound
  | pointer
  | reference
  | typedef
  | array
  deriving DecidableEq, Repr

/-- `Explorer.type_code_to_explorer_map`, as `Explorer.init_env` fills it. -/
def Explorer.typeCodeToExplorerMap : TypeCode → Option ExplorerClass
  | .char | .int | .bool | .flt | .void | .enum => some .scalar
  | .struct | .union => some .compound
  | .ptr => some .pointer
  | .ref | .rvalueRef => some .reference
  | .typedef => some .typedef
  | .array => some .array
  | .other _ => none

/-- Only `TYPE_CODE_TYPEDEF` maps to the typedef explorer. -/
theorem Explorer.typeCodeToExplorerMap_ne_typedef {c : TypeCode} (hc : c ≠ .typedef)
    {cl : ExplorerClass} (h : Explorer.typeCodeToExplorerMap c = some cl) : cl ≠ .typedef := by
  rintro rfl
  cases c <;> first | exact hc rfl | cases h

/-- Only structs and unions map to the compound explorer. -/
theorem Explorer.typeCodeToExplorerMap_compound {c : TypeCode}
    (h : Explorer.typeCodeToExplorerMap c = some .compound) : c = .struct ∨ c = .union := by
  cases c <;> first | exact .inl rfl | exact .inr rfl | cases h

variable (G : TypeGraph T) (H : ValueGraph G V)

/-- `explorer_class.explore_expr`. -/
def ExplorerClass.exploreExpr (fuel : ℕ) (explore : String → V → Bool → Ex V Unit) :
    ExplorerClass → String → V → Bool → Ex V Bool
  | .scalar => ScalarExplorer.exploreExpr G H
  | .compound => CompoundExplorer.exploreExpr G H explore
  | .pointer => PointerExplorer.exploreExpr G H fuel explore
  | .reference => ReferenceExplorer.exploreExpr G H explore
  | .typedef => TypedefExplorer.exploreExpr G H explore
  | .array => ArrayExplorer.exploreExpr G H explore

/-- `explorer_class.explore_type`. -/
def ExplorerClass.exploreType (explore : String → T → Bool → Ex T Unit) :
    ExplorerClass → String → T → Bool → Ex T Bool
  | .scalar => ScalarExplorer.exploreType G
  | .compound => CompoundExplorer.exploreType G explore
  | .pointer => PointerExplorer.exploreType G explore
  | .reference => ReferenceExplorer.exploreType G explore
  | .typedef => TypedefExplorer.exploreType G explore
  | .array => ArrayExplorer.exploreType G explore

/-- `Explorer.explore_expr(expr, value, is_child)`, given `fuel`. -/
def Explorer.exploreExpr : ℕ → String → V → Bool → Ex V Unit
  | 0, _, _, _ => outOfFuel
  | n + 1, expr, value, isChild => do
    emit (.explore expr value isChild)
    match Explorer.typeCodeToExplorerMap (G.code (H.type value)) with
    | some c => whileTrue (c.exploreExpr G H n (Explorer.exploreExpr n) expr value isChild) n
    | none => say ("Explorer for type '" ++ G.name (H.type value) ++ "' not yet available.\n")

/-- `Explorer.explore_type(name, datatype, is_child)`, given `fuel`. -/
def Explorer.exploreType : ℕ → String → T → Bool → Ex T Unit
  | 0, _, _, _ => outOfFuel
  | n + 1, name, datatype, isChild => do
    emit (.explore name datatype isChild)
    match Explorer.typeCodeToExplorerMap (G.code datatype) with
    | some c => whileTrue (c.exploreType G (Explorer.exploreType n) name datatype isChild) n
    | none => say ("Explorer for type '" ++ G.name datatype ++ "' not yet available.\n")

/-! ### The commands -/

/-- The same run, its nodes renamed by `f`. -/
def Ex.mapNode (f : N → N') (x : Ex N α) : Ex N' α := fun inp =>
  ⟨(x inp).res, (x inp).used, (x inp).trace.map fun
    | .print s => .print s
    | .read p l => .read p l
    | .explore p n c => .explore p (f n) c⟩

/-- `ExploreUtils.check_args(name, arg_str)`. -/
def ExploreUtils.checkArgs (name argStr : String) : Except Exc Bool :=
  if argStr.length < 1 then .error (.gdbError ("ERROR: '" ++ name ++ "' requires an argument."))
  else .ok true

/-- `ExploreUtils.get_type_from_str(type_str)`. -/
def ExploreUtils.getTypeFromStr (g : Gdb T V) (typeStr : String) : Option T :=
  match g.parseAndEval ("(" ++ typeStr ++ " *)0") with
  | some v => some (g.types.target (g.values.type v))
  | none => g.lookupType typeStr

/-- `ExploreUtils.get_value_from_str(value_str)`. -/
def ExploreUtils.getValueFromStr (g : Gdb T V) (valueStr : String) : Option V :=
  g.parseAndEval valueStr

/-- `ExploreCommand.invoke(arg_str, from_tty)`: the `explore` command. -/
def ExploreCommand.invoke (g : Gdb T V) (fuel : ℕ) (argStr : String) : Ex (V ⊕ T) Unit := do
  if !(← ofExcept (ExploreUtils.checkArgs "explore" argStr)) then pure ()
  else match ExploreUtils.getValueFromStr g argStr with
    | some value => (Explorer.exploreExpr g.types g.values fuel argStr value false).mapNode .inl
    | none => match ExploreUtils.getTypeFromStr g argStr with
      | some datatype => (Explorer.exploreType g.types fuel argStr datatype false).mapNode .inr
      | none => raise (.gdbError ("'" ++ argStr ++
          "' neither evaluates to a value nor is a type in the current context."))

/-- `ExploreValueCommand.invoke(arg_str, from_tty)`: the `explore value` command. -/
def ExploreValueCommand.invoke (g : Gdb T V) (fuel : ℕ) (argStr : String) : Ex V Unit := do
  if !(← ofExcept (ExploreUtils.checkArgs "explore value" argStr)) then pure ()
  else match ExploreUtils.getValueFromStr g argStr with
    | none => raise (.gdbError (" '" ++ argStr ++
        "' does not evaluate to a value in the current context."))
    | some value => Explorer.exploreExpr g.types g.values fuel argStr value false

/-- `ExploreTypeCommand.invoke(arg_str, from_tty)`: the `explore type` command. -/
def ExploreTypeCommand.invoke (g : Gdb T V) (fuel : ℕ) (argStr : String) : Ex T Unit := do
  if !(← ofExcept (ExploreUtils.checkArgs "explore type" argStr)) then pure ()
  else match ExploreUtils.getTypeFromStr g argStr with
    | some datatype => Explorer.exploreType g.types fuel argStr datatype false
    | none => match ExploreUtils.getValueFromStr g argStr with
      | some value => do
        say ("'" ++ argStr ++ "' is of type '" ++ g.types.name (g.values.type value) ++ "'.")
        Explorer.exploreType g.types fuel (g.types.name (g.values.type value))
          (g.values.type value) false
      | none => raise (.gdbError ("'" ++ argStr ++
          "' is not a type or value in the current context."))

end GdbExplore
