import GdbExplore.Navigation

/-!
# The field menus

`CompoundExplorer` shows a struct, class or union as a menu: `_print_fields` prints
one row per field that is not artificial, `"  %*s = %s"`, the name right-justified
to the widest name; the rows of a value show a scalar field's value where those of
a type offer the field's number. `explore_expr` and `explore_type` build their
menus in two separate loops over the same fields.

## What is proved

* `CompoundExplorer.printFields_aligned`: `_print_fields` raises the `TypeError` of
  `len(None)` and prints nothing where a field is anonymous; otherwise it prints
  every row, in order, its name padded on the left to the widest name, so that
  every `=` stands in one column, and no wider than the widest name needs.
* `CompoundExplorer.exprFieldRows_hasExplorable`: the value menu asks for a field
  number exactly when one of its rows offers one.
* `CompoundExplorer.exprFieldRows_typeFieldRows`: where the loop of `explore_expr`
  succeeds, its rows name the fields of the loop of `explore_type`, in the same
  order, and its choices are the same numbers, each leading to the field of its
  name under `guard_expr(expr).name`.
* `explore_anonUnion_typeError`: a struct with an anonymous union member ends its
  exploration, as a type and as a value, in a `TypeError`, for every fuel that
  reaches its menu and every input.
-/

namespace GdbExplore

namespace CompoundExplorer

variable {T V N : Type}

/-! ### `_print_fields` -/

/-- The widest name is at least as wide as every name. -/
theorem le_of_maxFieldNameLength {rows : List (Option String × Literal)} {w : ℕ}
    (h : maxFieldNameLength rows = .ok w) : ∀ row ∈ rows, (showName row.1).length ≤ w := by
  induction rows generalizing w with
  | nil => simp
  | cons row rows ih =>
    rcases row with ⟨_ | n, lit⟩
    · cases h
    rcases hr : maxFieldNameLength rows with _ | w' <;>
      simp only [maxFieldNameLength, hr, Except.map, Except.ok.injEq, reduceCtorEq] at h
    subst h
    intro r hr'
    rcases List.mem_cons.1 hr' with rfl | hr'
    · exact le_max_left _ _
    · exact (ih hr r hr').trans (le_max_right _ _)

/-- The widest name is the width of one of the names, or `0` for no rows. -/
theorem maxFieldNameLength_attained {rows : List (Option String × Literal)} {w : ℕ}
    (h : maxFieldNameLength rows = .ok w) :
    rows = [] ∧ w = 0 ∨ ∃ row ∈ rows, (showName row.1).length = w := by
  induction rows generalizing w with
  | nil => exact .inl ⟨rfl, (Except.ok.inj h).symm⟩
  | cons row rows ih =>
    rcases row with ⟨_ | n, lit⟩
    · cases h
    rcases hr : maxFieldNameLength rows with _ | w' <;>
      simp only [maxFieldNameLength, hr, Except.map, Except.ok.injEq, reduceCtorEq] at h
    subst h
    rcases le_total w' n.length with hw | hw
    · exact .inr ⟨_, List.mem_cons_self _ _, (max_eq_left hw).symm⟩
    · rcases ih hr with ⟨rfl, rfl⟩ | ⟨r, hr', hw'⟩
      · exact .inr ⟨_, List.mem_cons_self _ _, (Nat.max_zero _).symm⟩
      · exact .inr ⟨r, List.mem_cons_of_mem _ hr', by rw [hw', max_eq_right hw]⟩

/-- `_print_fields` measures every name unless one is anonymous. -/
theorem maxFieldNameLength_cases (rows : List (Option String × Literal)) :
    (∃ row ∈ rows, row.1 = none) ∧
        maxFieldNameLength rows = .error (.typeError "object of type 'NoneType' has no len()") ∨
      (∀ row ∈ rows, row.1 ≠ none) ∧ ∃ w, maxFieldNameLength rows = .ok w := by
  induction rows with
  | nil => exact .inr ⟨by simp, 0, rfl⟩
  | cons row rows ih =>
    rcases row with ⟨_ | n, lit⟩
    · exact .inl ⟨⟨_, List.mem_cons_self _ _, rfl⟩, rfl⟩
    rcases ih with ⟨⟨r, hr, hn⟩, he⟩ | ⟨hn, w, hw⟩
    · exact .inl ⟨⟨r, List.mem_cons_of_mem _ hr, hn⟩, by simp [maxFieldNameLength, he, Except.map]⟩
    · refine .inr ⟨?_, max n.length w, by simp [maxFieldNameLength, hw, Except.map]⟩
      intro r hr
      rcases List.mem_cons.1 hr with rfl | hr
      · simp
      · exact hn r hr

/-- A row of width `w` is its name padded on the left to `w`, when the name fits. -/
theorem rowText_padded {w : ℕ} {row : Option String × Literal} (h : (showName row.1).length ≤ w) :
    ∃ k, rowText w row = "  " ++ ("".pushn ' ' k ++ showName row.1) ++ " = " ++ row.2.text ∧
      k + (showName row.1).length = w :=
  ⟨_, rfl, Nat.sub_add_cancel h⟩

/-- **`_print_fields` lines the rows up.** Where a field is anonymous it raises the
`TypeError` of `len(None)` and prints nothing. Otherwise it prints every row, in
order, as its name padded on the left to a width `w`, then `" = "` and the row's
text, so that every `=` stands in one column; `w` is the width of the widest name. -/
theorem printFields_aligned (rows : List (Option String × Literal)) (inp : List String) :
    ((∃ row ∈ rows, row.1 = none) → (printFields rows : Ex N Unit) inp =
        ⟨.raise (.typeError "object of type 'NoneType' has no len()"), 0, []⟩) ∧
      ((∀ row ∈ rows, row.1 ≠ none) → ∃ w,
        (printFields rows : Ex N Unit) inp = ⟨.ok (), 0, rows.map fun row => .print (rowText w row)⟩ ∧
        (∀ row ∈ rows, ∃ k, rowText w row =
          "  " ++ ("".pushn ' ' k ++ showName row.1) ++ " = " ++ row.2.text ∧
            k + (showName row.1).length = w) ∧
        (rows = [] ∨ ∃ row ∈ rows, (showName row.1).length = w)) := by
  rcases maxFieldNameLength_cases rows with ⟨hn, he⟩ | ⟨hn, w, hw⟩
  · refine ⟨fun _ => by rw [printFields_apply, he], fun h => ?_⟩
    obtain ⟨r, hr, hr'⟩ := hn
    exact absurd hr' (h r hr)
  · refine ⟨fun ⟨r, hr, hr'⟩ => absurd hr' (hn r hr), fun _ => ⟨w, by rw [printFields_apply, hw],
      fun row hrow => rowText_padded (le_of_maxFieldNameLength hw row hrow), ?_⟩⟩
    rcases maxFieldNameLength_attained hw with ⟨rfl, -⟩ | h
    · exact .inl rfl
    · exact .inr h

/-! ### The two loops -/

variable (G : TypeGraph T) (H : ValueGraph G V)

/-- **The value menu and the type menu agree.** Where the field loop of
`explore_expr` succeeds, its rows name the fields that the loop of `explore_type`
lists, in the same order, and its choices are the same numbers: each number leads
to the field of the type menu's name, under the path `guard_expr(expr).name`. -/
theorem exprFieldRows_typeFieldRows {expr : String} {value : V} {typeCode : TypeCode} :
    ∀ {fields : List (Field T)} {k : ℕ} {hasEx : Bool} {rows : List (Option String × Literal)}
      {choices : List (String × String × V)},
      exprFieldRows G H expr value typeCode fields k = .ok (hasEx, rows, choices) →
      List.Forall₂ (fun r r' => r.1 = r'.1) rows (typeFieldRows G fields k).1 ∧
        List.Forall₂ (fun (c : String × String × V) (c' : String × Option String × T × String) =>
          c.1 = c'.1 ∧ ∃ g, guardExpr expr = .ok g ∧ c.2.1 = g ++ "." ++ showName c'.2.1)
          choices (typeFieldRows G fields k).2
  | [], _, _, _, _, h => by
    cases h
    exact ⟨.nil, .nil⟩
  | field :: fields, k, hasEx, rows, choices, h => by
    cases ha : field.artificial
    · obtain ⟨g, v, lit, ex, e, rows', choices', hg, -, -, hr, hc⟩ := exprFieldRows_cons_ok G H ha h
      simp only [Prod.mk.injEq] at hc
      obtain ⟨-, rfl, rfl⟩ := hc
      obtain ⟨h₁, h₂⟩ := exprFieldRows_typeFieldRows hr
      rcases hT : typeFieldRows G fields (k + 1) with ⟨trows, tchoices⟩
      rw [hT] at h₁ h₂
      simp only [typeFieldRows, ha, Bool.false_eq_true, if_false, hT]
      exact ⟨.cons rfl h₁, .cons ⟨rfl, g, hg, rfl⟩ h₂⟩
    · simp only [exprFieldRows, ha, if_true] at h
      simp only [typeFieldRows, ha, if_true]
      exact exprFieldRows_typeFieldRows h

/-- `struct pair s`: `explore s` numbers `a` and `b` as `explore struct pair` does. -/
theorem exprFieldRows_pair :
    ∃ hasEx rows choices,
      exprFieldRows pairTypes pairValues "s" .s .struct (pairTypes.fields .pair) 0 =
        .ok (hasEx, rows, choices) ∧
      List.Forall₂ (fun r r' => r.1 = r'.1) rows (typeFieldRows pairTypes (pairTypes.fields .pair) 0).1 ∧
      List.Forall₂ (fun (c : String × String × PairValue) (c' : String × Option String × PairType × String) =>
          c.1 = c'.1 ∧ ∃ g, guardExpr "s" = .ok g ∧ c.2.1 = g ++ "." ++ showName c'.2.1)
        choices (typeFieldRows pairTypes (pairTypes.fields .pair) 0).2 :=
  ⟨_, _, _, rfl, @exprFieldRows_typeFieldRows _ _ pairTypes pairValues "s" .s .struct _ _ _ _ _ rfl⟩

end CompoundExplorer

/-! ### An anonymous member -/

/-- The types of `struct S { int a; union { int b; float c; }; }`, whose union
member has no name. -/
inductive AnonType where
  | s
  | u
  | int
  | flt
  deriving DecidableEq, Repr

/-- `struct S`, its anonymous union, `int` and `float`. -/
def anonUnion : TypeGraph AnonType where
  code | .s => .struct | .u => .union | .int => .int | .flt => .flt
  name | .s => "struct S" | .u => "union \x7b...\x7d" | .int => "int" | .flt => "float"
  target t := t
  fields
    | .s => [⟨some "a", .int, false, false⟩, ⟨none, .u, false, false⟩]
    | .u => [⟨some "b", .int, false, false⟩, ⟨some "c", .flt, false, false⟩]
    | _ => []
  stripTypedefs t := t

/-- A variable `s` of type `struct S`, and its members. -/
inductive AnonValue where
  | s
  | a
  | u
  deriving DecidableEq, Repr

/-- `struct S s = {1, {2}}`. -/
def anonValues : ValueGraph anonUnion AnonValue where
  type | .s => .s | .a => .int | .u => .u
  str | .a => some "1" | _ => some "0x2"
  dereference _ := none
  getitem _ _ := none
  getfield | .s, "a" => some .a | _, _ => none
  cast _ _ := none
  referencedValue _ := none
  type_cast _ _ _ h := nomatch h
  type_referencedValue _ _ h := nomatch h

/-- Exploring `struct S` or the value `s` ends in a `TypeError`, whatever the user
types: no code looks for an anonymous field; `_print_fields` applies `len` to the
member's name `None`, and the field loop of `explore_expr` asks gdb for `s[None]`. -/
theorem explore_anonUnion_typeError (n : ℕ) (inp : List String) :
    (Explorer.exploreType anonUnion (n + 2) "struct S" .s false inp).res =
        .raise (.typeError "object of type 'NoneType' has no len()") ∧
      (Explorer.exploreExpr anonUnion anonValues (n + 2) "s" .s false inp).res =
        .raise (.typeError "Could not convert Python object: None.") := by
  constructor
  · simp [Explorer.exploreType_succ, whileTrue_succ, anonUnion, Explorer.typeCodeToExplorerMap,
      ExplorerClass.exploreType, CompoundExplorer.exploreType, CompoundExplorer.getRealFieldCount,
      CompoundExplorer.typeFieldRows, CompoundExplorer.printFields_apply,
      CompoundExplorer.maxFieldNameLength, Except.map]
  · have hrows : CompoundExplorer.exprFieldRows anonUnion anonValues "s" .s .struct
        (anonUnion.fields .s) 0 = .error (.typeError "Could not convert Python object: None.") := rfl
    have htype : anonValues.type .s = .s := rfl
    have hcode : anonUnion.code .s = .struct := rfl
    have hcount : CompoundExplorer.getRealFieldCount (anonUnion.fields .s) = 2 := rfl
    simp [Explorer.exploreExpr_succ, whileTrue_succ, Explorer.typeCodeToExplorerMap, htype, hcode,
      ExplorerClass.exploreExpr, CompoundExplorer.exploreExpr, hcount, hrows]

end GdbExplore
