import GdbExplore.GuardExpr

/-!
# The explorer classes

Each class of `explore.py` (`ScalarExplorer`, `PointerExplorer`,
`ReferenceExplorer`, `ArrayExplorer`, `CompoundExplorer`, `TypedefExplorer`) has
an `explore_expr` for values and an `explore_type` for types. Each returns the
Repeat/Return signal: `true` asks the dispatcher to run it again on the same
node, `false` returns to the caller. Where a class explores a child it calls
`Explorer.explore_expr` (or `explore_type`) again; here that call is the
parameter `explore`, which `GdbExplore.Explorer` ties to the dispatcher.
`PointerExplorer.explore_expr` runs a loop of its own, bounded by `fuel`.

The `literal_value` of a row of the field menu is kept as a `Literal` until
`_print_fields` prints it, so that the numbers offered can be read off.
-/

namespace GdbExplore

variable {T V N : Type}

/-- The value `o` gives, if `str` of it does not raise: the `try` around
`value.dereference()` (or `value[index]`) and `str(...)`. -/
def ValueGraph.readable {G : TypeGraph T} (H : ValueGraph G V) (o : Option V) : Option V :=
  o.bind fun w => (H.str w).map fun _ => w

/-- A gdb call that reads memory, in a computation that prints and reads nothing. -/
def orMemoryError : Option α → Except Exc α
  | some a => .ok a
  | none => .error .memoryError

theorem orMemoryError_error {o : Option α} {e : Exc} (h : orMemoryError o = .error e) :
    e = .memoryError := by
  cases o <;> cases h
  rfl

/-- A field name as an f-string prints it: `None` for an anonymous one. -/
def showName : Option String → String
  | some n => n
  | none => "None"

namespace Explorer

/-- `Explorer._SCALAR_TYPE_LIST`. -/
def scalarTypeList : List TypeCode := [.char, .int, .bool, .flt, .void, .enum]

/-- `Explorer.is_scalar_type(type)`: it reads `type.code`, typedefs not stripped. -/
def isScalarType (G : TypeGraph T) (t : T) : Bool := G.code t ∈ scalarTypeList

/-- `Explorer.return_to_parent_value()`. -/
def returnToParentValue : Ex N Unit := say "\nReturning to parent value...\n"

/-- `Explorer.return_to_parent_value_prompt()`. -/
def returnToParentValuePrompt : Ex N Unit := do
  let _ ← rawInput "\nPress enter to return to parent value: "
  pure ()

/-- `Explorer.return_to_enclosing_type()`. -/
def returnToEnclosingType : Ex N Unit := say "\nReturning to enclosing type...\n"

/-- `Explorer.return_to_enclosing_type_prompt()`. -/
def returnToEnclosingTypePrompt : Ex N Unit := do
  let _ ← rawInput "\nPress enter to return to enclosing type: "
  pure ()

end Explorer

variable (G : TypeGraph T) (H : ValueGraph G V)

/-! ### Scalars -/

/-- `ScalarExplorer.explore_expr`. -/
def ScalarExplorer.exploreExpr (expr : String) (value : V) (isChild : Bool) : Ex V Bool := do
  say ("'" ++ expr ++ "' is a scalar value of type '" ++ G.name (H.type value) ++ "'.")
  let s ← ofMemory (H.str value)
  say (expr ++ " = " ++ s)
  if isChild then
    Explorer.returnToParentValuePrompt
    Explorer.returnToParentValue
  pure false

/-- `ScalarExplorer.explore_type`. -/
def ScalarExplorer.exploreType (name : String) (datatype : T) (isChild : Bool) : Ex T Bool := do
  say (if G.code datatype = .enum then
      if isChild then name ++ " is of an enumerated type '" ++ G.name datatype ++ "'."
      else "'" ++ name ++ "' is an enumerated type."
    else if isChild then name ++ " is of a scalar type '" ++ G.name datatype ++ "'."
    else "'" ++ name ++ "' is a scalar type.")
  if isChild then
    Explorer.returnToEnclosingTypePrompt
    Explorer.returnToEnclosingType
  pure false

/-! ### Pointers -/

/-- One round of the `while True:` loop of `PointerExplorer.explore_expr`, which
explores a pointer as an array: `false` where the loop breaks. -/
def PointerExplorer.indexStep (explore : String → V → Bool → Ex V Unit) (expr : String)
    (value : V) : Ex V Bool := do
  let line ← rawInput ("Enter the index of the element you want to explore in '" ++ expr ++ "': ")
  match pyInt line with
  | none => pure false
  | some index =>
    let g ← ofExcept (guardExpr expr)
    let element ← ofMemory (H.getitem value index)
    match H.str element with
    | none =>
      say ("Cannot read value at index " ++ toString index ++ ".")
      pure true
    | some _ =>
      explore (g ++ "[" ++ toString index ++ "]") element true
      pure true

/-- `PointerExplorer.explore_expr`, its array loop given `fuel` rounds. -/
def PointerExplorer.exploreExpr (fuel : ℕ) (explore : String → V → Bool → Ex V Unit)
    (expr : String) (value : V) (isChild : Bool) : Ex V Bool := do
  say ("'" ++ expr ++ "' is a pointer to a value of type '" ++
    G.name (G.target (H.type value)) ++ "'")
  let option ← rawInput "Continue exploring it as a pointer to a single value [y/n]: "
  if option = "y" then
    match H.readable (H.dereference value) with
    | none =>
      say ("'" ++ expr ++ "' a pointer pointing to an invalid memory location.")
      if isChild then Explorer.returnToParentValuePrompt
      pure false
    | some derefValue =>
      let g ← ofExcept (guardExpr expr)
      explore ("*" ++ g) derefValue isChild
      pure false
  else
    let option ← rawInput "Continue exploring it as a pointer to an array [y/n]: "
    if option = "y" then
      whileTrue (PointerExplorer.indexStep G H explore expr value) fuel
      pure false
    else
      if isChild then Explorer.returnToParentValue
      pure false

/-- `PointerExplorer.explore_type`. -/
def PointerExplorer.exploreType (explore : String → T → Bool → Ex T Unit) (name : String)
    (datatype : T) (isChild : Bool) : Ex T Bool := do
  let targetType := G.target datatype
  say ("\n" ++ name ++ " is a pointer to a value of type '" ++ G.name targetType ++ "'.")
  explore ("the pointee type of " ++ name) targetType isChild
  pure false

/-! ### References -/

/-- `ReferenceExplorer.explore_expr`. -/
def ReferenceExplorer.exploreExpr (explore : String → V → Bool → Ex V Unit) (expr : String)
    (value : V) (isChild : Bool) : Ex V Bool := do
  let referencedValue ← ofMemory (H.referencedValue value)
  explore expr referencedValue isChild
  pure false

/-- `ReferenceExplorer.explore_type`. -/
def ReferenceExplorer.exploreType (explore : String → T → Bool → Ex T Unit) (name : String)
    (datatype : T) (isChild : Bool) : Ex T Bool := do
  explore name (G.target datatype) isChild
  pure false

/-! ### Arrays -/

/-- `ArrayExplorer.explore_expr`: one index per call; the dispatcher calls it
again while it returns `true`. -/
def ArrayExplorer.exploreExpr (explore : String → V → Bool → Ex V Unit) (expr : String)
    (value : V) (isChild : Bool) : Ex V Bool := do
  let targetType := G.target (H.type value)
  say ("'" ++ expr ++ "' is an array of '" ++ G.name targetType ++ "'.")
  let line ← rawInput ("Enter the index of the element you want to explore in '" ++ expr ++ "': ")
  match pyInt line with
  | none =>
    if isChild then Explorer.returnToParentValue
    pure false
  | some index =>
    match H.readable (H.getitem value index) with
    | none =>
      say ("Cannot read value at index " ++ toString index ++ ".")
      let _ ← rawInput "Press enter to continue... "
      pure true
    | some element =>
      let g ← ofExcept (guardExpr expr)
      explore (g ++ "[" ++ toString index ++ "]") element true
      pure true

/-- `ArrayExplorer.explore_type`. -/
def ArrayExplorer.exploreType (explore : String → T → Bool → Ex T Unit) (name : String)
    (datatype : T) (isChild : Bool) : Ex T Bool := do
  let targetType := G.target datatype
  say (name ++ " is an array of '" ++ G.name targetType ++ "'.")
  explore ("the array element of " ++ name) targetType isChild
  pure false

/-! ### Structs, classes and unions -/

namespace CompoundExplorer

/-- A `literal_value` of the field menu. -/
inductive Literal where
  /-- `<Enter k to explore this desc of type 't'>`. -/
  | enter (k : ℕ) (desc typeName : String)
  /-- A scalar field of a struct, shown with its value. -/
  | inline (value typeName : String)
  deriving DecidableEq, Repr

/-- How `literal_value` prints. -/
def Literal.text : Literal → String
  | .enter k desc t => "<Enter " ++ toString k ++ " to explore this " ++ desc ++ " of type '" ++ t ++ "'>"
  | .inline v t => v ++ " .. (Value of type '" ++ t ++ "')"

/-- `len(pair[0])` over the rows of `_print_fields`: the widest field name, or the
`TypeError` of `len(None)`. -/
def maxFieldNameLength : List (Option String × Literal) → Except Exc ℕ
  | [] => .ok 0
  | (none, _) :: _ => .error (.typeError "object of type 'NoneType' has no len()")
  | (some n, _) :: rows => (maxFieldNameLength rows).map (max n.length)

/-- A row of `_print_fields`: `"  %*s = %s"`, the name right-justified to `w`. -/
def rowText (w : ℕ) (row : Option String × Literal) : String :=
  "  " ++ ("".pushn ' ' (w - (showName row.1).length) ++ showName row.1) ++ " = " ++ row.2.text

/-- The second loop of `_print_fields`, printing the rows. -/
def printRows (w : ℕ) : List (Option String × Literal) → Ex N Unit
  | [] => pure ()
  | row :: rows => do
    say (rowText w row)
    printRows w rows

/-- `CompoundExplorer._print_fields(print_list)`. -/
def printFields (printList : List (Option String × Literal)) : Ex N Unit := do
  let w ← ofExcept (maxFieldNameLength printList)
  printRows w printList

theorem printRows_apply (w : ℕ) (rows : List (Option String × Literal)) (inp : List String) :
    (printRows w rows : Ex N Unit) inp = ⟨.ok (), 0, rows.map fun r => .print (rowText w r)⟩ := by
  induction rows with
  | nil => rfl
  | cons row rows ih => simp [printRows, ih]

theorem printFields_apply (rows : List (Option String × Literal)) (inp : List String) :
    (printFields rows : Ex N Unit) inp = match maxFieldNameLength rows with
      | .ok w => ⟨.ok (), 0, rows.map fun r => .print (rowText w r)⟩
      | .error e => ⟨.raise e, 0, []⟩ := by
  unfold printFields
  cases maxFieldNameLength rows <;> simp [ofExcept, printRows_apply]

/-- `_print_fields` raises only the `TypeError` of an anonymous field. -/
theorem maxFieldNameLength_error {rows : List (Option String × Literal)} {e : Exc}
    (h : maxFieldNameLength rows = .error e) :
    e = .typeError "object of type 'NoneType' has no len()" := by
  induction rows with
  | nil => cases h
  | cons row rows ih =>
    rcases row with ⟨_ | n, lit⟩
    · exact (Except.error.inj h).symm
    · rcases hr : maxFieldNameLength rows with _ | w <;>
        simp [maxFieldNameLength, hr, Except.map] at h
      exact ih (h ▸ hr)

/-- The fields the menu lists and numbers: those that are not `artificial`. -/
def realFields (fields : List (Field T)) : List (Field T) := fields.filter fun f => !f.artificial

@[simp] theorem realFields_nil : realFields ([] : List (Field T)) = [] := rfl

@[simp] theorem realFields_cons (field : Field T) (fields : List (Field T)) :
    realFields (field :: fields) =
      if field.artificial then realFields fields else field :: realFields fields := by
  cases h : field.artificial <;> simp [realFields, List.filter_cons, h]

/-- `CompoundExplorer._get_real_field_count(fields)`. -/
def getRealFieldCount (fields : List (Field T)) : ℕ := (realFields fields).length

/-- `field_desc`: how both loops describe a field. -/
def fieldDesc (field : Field T) : String := if field.isBaseClass then "base class" else "field"

/-- `value.cast(field.type)` for a base class, `value[field.name]` for any other
field; gdb cannot convert a `None` name to a key. -/
def fieldValue (value : V) (field : Field T) : Except Exc V :=
  if field.isBaseClass then orMemoryError (H.cast value field.type)
  else match field.name with
    | none => .error (.typeError "Could not convert Python object: None.")
    | some n => orMemoryError (H.getfield value n)

/-- The `literal_value` of the `k`-th field of a value of type code `typeCode`, and
whether it makes the field explorable. -/
def fieldLiteral (typeCode : TypeCode) (field : Field T) (fieldValue : V) (k : ℕ) :
    Except Exc (Literal × Bool) :=
  if typeCode = .union then .ok (.enter k "field" (G.name field.type), true)
  else if Explorer.isScalarType G field.type then
    (orMemoryError (H.str fieldValue)).map fun s => (.inline s (G.name field.type), false)
  else .ok (.enter k (fieldDesc field) (G.name field.type), true)

/-- The `for field in fields` loop of `CompoundExplorer.explore_expr`, numbering
from `k`: `has_explorable_fields`, `print_list` and `choice_to_compound_field_map`. -/
def exprFieldRows (expr : String) (value : V) (typeCode : TypeCode) :
    List (Field T) → ℕ →
      Except Exc (Bool × List (Option String × Literal) × List (String × String × V))
  | [], _ => .ok (false, [], [])
  | field :: fields, k =>
    if field.artificial then exprFieldRows expr value typeCode fields k
    else do
      let g ← guardExpr expr
      let v ← fieldValue G H value field
      let (literal, explorable) ← fieldLiteral G H typeCode field v k
      let (e, rows, choices) ← exprFieldRows expr value typeCode fields (k + 1)
      pure (explorable || e, (field.name, literal) :: rows,
        (toString k, g ++ "." ++ showName field.name, v) :: choices)

/-- A field's value raises only `gdb.MemoryError` or the `TypeError` of an anonymous field. -/
theorem fieldValue_error {value : V} {field : Field T} {e : Exc}
    (h : fieldValue G H value field = .error e) : e = .memoryError ∨ ∃ m, e = .typeError m := by
  unfold fieldValue at h
  split at h
  · exact .inl (orMemoryError_error h)
  · split at h
    · cases h
      exact .inr ⟨_, rfl⟩
    · exact .inl (orMemoryError_error h)

/-- A field's row raises only `gdb.MemoryError`, rendering a scalar. -/
theorem fieldLiteral_error {typeCode : TypeCode} {field : Field T} {w : V} {k : ℕ} {e : Exc}
    (h : fieldLiteral G H typeCode field w k = .error e) : e = .memoryError := by
  unfold fieldLiteral at h
  split at h
  · cases h
  split at h
  · rcases hs : H.str w with _ | s <;> rw [hs] at h <;> cases h
    rfl
  · cases h

/-- On a non-empty path the field loop raises only `gdb.MemoryError` or a `TypeError`. -/
theorem exprFieldRows_error {expr : String} {value : V} {typeCode : TypeCode} {e : Exc}
    (hexpr : expr ≠ "") :
    ∀ {fields : List (Field T)} {k : ℕ}, exprFieldRows G H expr value typeCode fields k = .error e →
      e = .memoryError ∨ ∃ m, e = .typeError m
  | [], _, h => nomatch h
  | field :: fields, k, h => by
    simp only [exprFieldRows] at h
    split at h
    · exact exprFieldRows_error hexpr h
    obtain ⟨g, hg⟩ := guardExpr_ok hexpr
    rcases except_bind_eq_error.1 h with h | ⟨_, -, h⟩
    · rw [hg] at h
      cases h
    rcases except_bind_eq_error.1 h with h | ⟨v, -, h⟩
    · exact fieldValue_error G H h
    rcases except_bind_eq_error.1 h with h | ⟨⟨_, _⟩, -, h⟩
    · exact .inl (fieldLiteral_error G H h)
    rcases except_bind_eq_error.1 h with h | ⟨⟨_, _, _⟩, -, h⟩
    · exact exprFieldRows_error hexpr h
    · cases h

/-- A non-artificial field in the loop: its path, value and row, then the rest. -/
theorem exprFieldRows_cons_ok {expr : String} {value : V} {typeCode : TypeCode}
    {field : Field T} {fields : List (Field T)} {k : ℕ}
    {r : Bool × List (Option String × Literal) × List (String × String × V)}
    (ha : field.artificial = false)
    (h : exprFieldRows G H expr value typeCode (field :: fields) k = .ok r) :
    ∃ g v lit ex e rows choices, guardExpr expr = .ok g ∧ fieldValue G H value field = .ok v ∧
      fieldLiteral G H typeCode field v k = .ok (lit, ex) ∧
      exprFieldRows G H expr value typeCode fields (k + 1) = .ok (e, rows, choices) ∧
      r = (ex || e, (field.name, lit) :: rows,
        (toString k, g ++ "." ++ showName field.name, v) :: choices) := by
  simp only [exprFieldRows, ha, Bool.false_eq_true, if_false] at h
  obtain ⟨g, hg, h⟩ := except_bind_eq_ok.1 h
  obtain ⟨v, hv, h⟩ := except_bind_eq_ok.1 h
  obtain ⟨⟨lit, ex⟩, hl, h⟩ := except_bind_eq_ok.1 h
  obtain ⟨⟨e, rows, choices⟩, hr, h⟩ := except_bind_eq_ok.1 h
  exact ⟨g, v, lit, ex, e, rows, choices, hg, hv, hl, hr, (Except.ok.inj h).symm⟩

/-- A choice of the field menu is a non-artificial field, numbered in order from `k`,
explored under `guard_expr(expr) + "." + name` with its value. -/
theorem exprFieldRows_lookup {expr : String} {value : V} {typeCode : TypeCode} {l p : String}
    {w : V} : ∀ {fields : List (Field T)} {k : ℕ} {hasEx : Bool}
    {rows : List (Option String × Literal)} {choices : List (String × String × V)},
    exprFieldRows G H expr value typeCode fields k = .ok (hasEx, rows, choices) →
    choices.lookup l = some (p, w) →
    ∃ g j f, guardExpr expr = .ok g ∧ (realFields fields)[j]? = some f ∧
      l = toString (k + j) ∧ p = g ++ "." ++ showName f.name ∧ fieldValue G H value f = .ok w
  | [], _, _, _, _, h, hl => by cases h; cases hl
  | field :: fields, k, hasEx, rows, choices, h, hl => by
    cases ha : field.artificial
    · obtain ⟨g, v, lit, ex, e, rows', choices', hg, hv, -, hr, hc⟩ := exprFieldRows_cons_ok G H ha h
      cases hc
      simp only [realFields_cons, ha, Bool.false_eq_true, if_false]
      by_cases hk : l = toString k
      · subst hk
        simp only [List.lookup_cons_self, Option.some.injEq, Prod.mk.injEq] at hl
        obtain ⟨rfl, rfl⟩ := hl
        exact ⟨g, 0, field, hg, by simp, rfl, rfl, hv⟩
      · rw [List.lookup_cons, show (l == toString k) = false from beq_false_of_ne hk] at hl
        obtain ⟨g', j, f, hg', hj, rfl, rfl, hf⟩ := exprFieldRows_lookup hr hl
        exact ⟨g', j + 1, f, hg', by simpa using hj, by rw [Nat.add_right_comm, Nat.add_assoc], rfl, hf⟩
    · simp only [exprFieldRows, ha, if_true] at h
      simp only [realFields_cons, ha, if_true]
      exact exprFieldRows_lookup h hl

/-- Entering the number of a field looks that field up. -/
theorem exprFieldRows_lookup_field {expr : String} {value : V} {typeCode : TypeCode} {g : String}
    (hg : guardExpr expr = .ok g) :
    ∀ {fields : List (Field T)} {k : ℕ} {hasEx : Bool}
    {rows : List (Option String × Literal)} {choices : List (String × String × V)},
    exprFieldRows G H expr value typeCode fields k = .ok (hasEx, rows, choices) →
    ∀ {j f}, (realFields fields)[j]? = some f →
      ∃ u, fieldValue G H value f = .ok u ∧
        choices.lookup (toString (k + j)) = some (g ++ "." ++ showName f.name, u)
  | [], _, _, _, _, _, j, f, hf => by simp at hf
  | field :: fields, k, hasEx, rows, choices, h, j, f, hf => by
    cases ha : field.artificial
    · obtain ⟨g', v, lit, ex, e, rows', choices', hg', hv, -, hr, hc⟩ :=
        exprFieldRows_cons_ok G H ha h
      cases hc
      cases hg.symm.trans hg'
      simp only [realFields_cons, ha, Bool.false_eq_true, if_false] at hf
      rcases j with _ | j
      · simp only [List.getElem?_cons_zero, Option.some.injEq] at hf
        subst hf
        exact ⟨v, hv, by simp⟩
      · simp only [List.getElem?_cons_succ] at hf
        obtain ⟨u, hu, hl⟩ := exprFieldRows_lookup_field hg hr hf
        have hne : (toString (k + (j + 1)) == toString k) = false :=
          beq_false_of_ne fun he => by have := toString_nat_injective he; omega
        refine ⟨u, hu, ?_⟩
        rw [List.lookup_cons, hne, ← hl, Nat.add_right_comm, Nat.add_assoc]
    · simp only [exprFieldRows, ha, if_true] at h
      simp only [realFields_cons, ha, if_true] at hf
      exact exprFieldRows_lookup_field hg h hf

/-- `CompoundExplorer.explore_expr`. -/
def exploreExpr (explore : String → V → Bool → Ex V Unit) (expr : String) (value : V)
    (isChild : Bool) : Ex V Bool := do
  let datatype := H.type value
  let typeCode := G.code datatype
  let fields := G.fields datatype
  let typeDesc := if typeCode = .struct then "struct/class" else "union"
  if getRealFieldCount fields = 0 then
    say ("The value of '" ++ expr ++ "' is a " ++ typeDesc ++ " of type '" ++ G.name datatype ++
      "' with no fields.")
    if isChild then Explorer.returnToParentValuePrompt
    pure false
  else
    say ("The value of '" ++ expr ++ "' is a " ++ typeDesc ++ " of type '" ++ G.name datatype ++
      "' with the following fields:\n")
    let (hasExplorableFields, printList, choices) ←
      ofExcept (exprFieldRows G H expr value typeCode fields 0)
    printFields printList
    say ""
    if hasExplorableFields then
      let choice ← rawInput "Enter the field number of choice: "
      match choices.lookup choice with
      | some (fieldFullName, v) =>
        explore fieldFullName v true
        pure true
      | none =>
        if isChild then Explorer.returnToParentValue
        pure false
    else
      if isChild then Explorer.returnToParentValuePrompt
      pure false

/-- The `for field in fields` loop of `CompoundExplorer.explore_type`, numbering
from `k`: `print_list` and `choice_to_compound_field_map`. -/
def typeFieldRows : List (Field T) → ℕ →
    List (Option String × Literal) × List (String × Option String × T × String)
  | [], _ => ([], [])
  | field :: fields, k =>
    if field.artificial then typeFieldRows fields k
    else
      let (rows, choices) := typeFieldRows fields (k + 1)
      ((field.name, .enter k (fieldDesc field) (G.name field.type)) :: rows,
        (toString k, field.name, field.type, fieldDesc field) :: choices)

/-- A choice of the type menu is a non-artificial field, numbered in order from `k`. -/
theorem typeFieldRows_lookup : ∀ {fields : List (Field T)} {k : ℕ} {l : String} {fn : Option String}
    {ft : T} {fd : String}, (typeFieldRows G fields k).2.lookup l = some (fn, ft, fd) →
    ∃ j f, (realFields fields)[j]? = some f ∧ l = toString (k + j) ∧
      fn = f.name ∧ ft = f.type ∧ fd = fieldDesc f
  | [], _, _, _, _, _, h => by cases h
  | field :: fields, k, l, fn, ft, fd, h => by
    cases ha : field.artificial
    · simp only [typeFieldRows, ha, Bool.false_eq_true, if_false] at h
      simp only [realFields_cons, ha, Bool.false_eq_true, if_false]
      by_cases hk : l = toString k
      · subst hk
        simp only [List.lookup_cons_self, Option.some.injEq, Prod.mk.injEq] at h
        obtain ⟨rfl, rfl, rfl⟩ := h
        exact ⟨0, field, by simp, rfl, rfl, rfl, rfl⟩
      · rw [List.lookup_cons, show (l == toString k) = false from beq_false_of_ne hk] at h
        obtain ⟨j, f, hj, rfl, rfl, rfl, rfl⟩ := typeFieldRows_lookup h
        exact ⟨j + 1, f, by simpa using hj, by rw [Nat.add_right_comm, Nat.add_assoc], rfl, rfl, rfl⟩
    · simp only [typeFieldRows, ha, if_true] at h
      simp only [realFields_cons, ha, if_true]
      exact typeFieldRows_lookup h

/-- Entering the number of a field looks that field up. -/
theorem typeFieldRows_lookup_field : ∀ {fields : List (Field T)} {k j : ℕ} {f : Field T},
    (realFields fields)[j]? = some f →
    (typeFieldRows G fields k).2.lookup (toString (k + j)) = some (f.name, f.type, fieldDesc f)
  | [], _, _, _, hf => by simp at hf
  | field :: fields, k, j, f, hf => by
    cases ha : field.artificial
    · simp only [typeFieldRows, ha, Bool.false_eq_true, if_false]
      simp only [realFields_cons, ha, Bool.false_eq_true, if_false] at hf
      rcases j with _ | j
      · simp only [List.getElem?_cons_zero, Option.some.injEq] at hf
        subst hf
        simp [fieldDesc]
      · simp only [List.getElem?_cons_succ] at hf
        have hne : (toString (k + (j + 1)) == toString k) = false :=
          beq_false_of_ne fun he => by have := toString_nat_injective he; omega
        rw [List.lookup_cons, hne, Nat.add_comm j 1, ← Nat.add_assoc]
        exact typeFieldRows_lookup_field hf
    · simp only [typeFieldRows, ha, if_true]
      simp only [realFields_cons, ha, if_true] at hf
      exact typeFieldRows_lookup_field hf

/-- The `new_name` under which `CompoundExplorer.explore_type` explores the field
`fieldName` of `name`. -/
def newName (name : String) (isChild : Bool) (fieldName : Option String) (fieldDesc : String) :
    String :=
  if isChild then fieldDesc ++ " '" ++ showName fieldName ++ "' of " ++ name
  else fieldDesc ++ " '" ++ showName fieldName ++ "' of '" ++ name ++ "'"

/-- `CompoundExplorer.explore_type`. -/
def exploreType (explore : String → T → Bool → Ex T Unit) (name : String) (datatype : T)
    (isChild : Bool) : Ex T Bool := do
  let typeCode := G.code datatype
  let typeDesc := if typeCode = .struct then "struct/class" else "union"
  let fields := G.fields datatype
  if getRealFieldCount fields = 0 then
    if isChild then
      say (name ++ " is a " ++ typeDesc ++ " of type '" ++ G.name datatype ++ "' with no fields.")
      Explorer.returnToEnclosingTypePrompt
    else say ("'" ++ name ++ "' is a " ++ typeDesc ++ " with no fields.")
    pure false
  else
    say (if isChild then
        name ++ " is a " ++ typeDesc ++ " of type '" ++ G.name datatype ++
          "' with the following fields:\n"
      else "'" ++ name ++ "' is a " ++ typeDesc ++ " with the following fields:\n")
    let (printList, choices) := typeFieldRows G fields 0
    printFields printList
    say ""
    if !choices.isEmpty then
      let choice ← rawInput "Enter the field number of choice: "
      match choices.lookup choice with
      | some (fieldName, fieldType, fieldDesc) =>
        explore (newName name isChild fieldName fieldDesc) fieldType true
        pure true
      | none =>
        if isChild then Explorer.returnToEnclosingType
        pure false
    else
      if isChild then Explorer.returnToEnclosingTypePrompt
      pure false

end CompoundExplorer

/-! ### Typedefs -/

/-- `TypedefExplorer.explore_expr`. -/
def TypedefExplorer.exploreExpr (explore : String → V → Bool → Ex V Unit) (expr : String)
    (value : V) (isChild : Bool) : Ex V Bool := do
  let actualType := G.stripTypedefs (H.type value)
  say ("The value of '" ++ expr ++ "' is of type '" ++ G.name (H.type value) ++
    "' which is a typedef of type '" ++ G.name actualType ++ "'")
  let v ← ofMemory (H.cast value actualType)
  explore expr v isChild
  pure false

/-- `TypedefExplorer.explore_type`. -/
def TypedefExplorer.exploreType (explore : String → T → Bool → Ex T Unit) (name : String)
    (datatype : T) (isChild : Bool) : Ex T Bool := do
  let actualType := G.stripTypedefs datatype
  say (if isChild then "The type of " ++ name ++ " is a typedef of type '" ++ G.name actualType ++ "'."
    else "The type '" ++ name ++ "' is a typedef of type '" ++ G.name actualType ++ "'.")
  explore name actualType isChild
  pure false

end GdbExplore
