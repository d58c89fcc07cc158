import GdbExplore.Typedefs

/-!
# Typedefs are transparent to `explore type`

`TypedefExplorer.explore_type` prints that a type is a typedef and explores the
stripped type under the same name and `is_child`. Unlike `explore_expr`, the
type explorers never ask whether a field is scalar: `CompoundExplorer.explore_type`
offers every field. So two programs whose types differ by typedefs, at any
positions, are explored alike as types, with no exception.

## What is proved

* `Explorer.exploreType_sim`: for a `TypedefTypeSim`, wherever the exploration of
  a type finishes within fuel `n`, that of a type standing for it finishes within
  `2 * n`, reading the same lines and exploring corresponding types, typedefs
  left out; `TypedefTypeSim.symm` gives the other way.
* `typedefs_transparent`: both ways, for values under a `TypedefSim` and for types.
* `exploreExpr_aliasedScalarField`: under a `TypedefAlias` alone, a typedef of
  `unsigned int` on a struct's field makes `explore_expr` read lines where the
  original reads none.
-/

namespace GdbExplore

variable {T T' V V' α α' : Type}

/-- `explore_type` shows a type unless it is a typedef, through which it passes. -/
def TypeGraph.shown (G : TypeGraph T) (t : T) : Bool := G.code t != .typedef

variable (G' : TypeGraph T') (G : TypeGraph T)

/-- `R` relates the types of `G'` to the types of `G` they stand for: a typedef
stands for what its stripped type stands for, and otherwise related types are of
the same kind, with related targets and the same members, of related types. -/
structure TypedefTypeSim (R : T' → T → Prop) : Prop where
  typedef_left : ∀ {t' t}, R t' t → G'.code t' = .typedef →
    G'.shown (G'.stripTypedefs t') = true ∧ R (G'.stripTypedefs t') t
  typedef_right : ∀ {t' t}, R t' t → G.code t = .typedef →
    G.shown (G.stripTypedefs t) = true ∧ R t' (G.stripTypedefs t)
  code : ∀ {t' t}, R t' t → G'.shown t' = true → G.shown t = true → G'.code t' = G.code t
  target : ∀ {t' t}, R t' t → G'.shown t' = true → G.shown t = true →
    R (G'.target t') (G.target t)
  fields : ∀ {t' t}, R t' t → G'.shown t' = true → G.shown t = true →
    List.Forall₂ (fun f' f => FieldCorr f' f ∧ R f'.type f.type) (G'.fields t') (G.fields t)

variable {G' G} {R : T' → T → Prop}

/-! ### The explorer classes -/

/-- Type menus that tell the same: the names of the rows, and the choices with
their keys, field names and descriptions, the field types related. -/
def TypeRowsCorr (R : T' → T → Prop)
    (r' : List (Option String × CompoundExplorer.Literal) × List (String × Option String × T' × String))
    (r : List (Option String × CompoundExplorer.Literal) × List (String × Option String × T × String)) :
    Prop :=
  r'.1.map Prod.fst = r.1.map Prod.fst ∧
    List.Forall₂ (fun c' c => c'.1 = c.1 ∧ c'.2.1 = c.2.1 ∧ R c'.2.2.1 c.2.2.1 ∧ c'.2.2.2 = c.2.2.2)
      r'.2 r.2

theorem CompoundExplorer.typeFieldRows_rel :
    ∀ {fields' : List (Field T')} {fields : List (Field T)},
      List.Forall₂ (fun f' f => FieldCorr f' f ∧ R f'.type f.type) fields' fields → ∀ k,
      TypeRowsCorr R (typeFieldRows G' fields' k) (typeFieldRows G fields k)
  | [], [], .nil, _ => ⟨rfl, .nil⟩
  | f' :: fields', f :: fields, .cons ⟨hf, ht⟩ hrest, k => by
    have hdesc : fieldDesc f' = fieldDesc f := by simp only [fieldDesc, hf.isBaseClass]
    have ih := CompoundExplorer.typeFieldRows_rel hrest
    simp only [typeFieldRows, hf.artificial]
    split
    · exact ih k
    · obtain ⟨hnames, hch⟩ := ih (k + 1)
      exact ⟨by simp [hf.name, hnames], .cons ⟨rfl, hf.name, ht, hdesc⟩ hch⟩

section Children

variable {e' : String → T' → Bool → Ex T' Unit} {e : String → T → Bool → Ex T Unit}
  (he : ∀ p t' t c, R t' t → Ex.Sim G'.shown G.shown R Eq (e' p t' c) (e p t c))
include he

theorem CompoundExplorer.exploreType_sim (hR : TypedefTypeSim G' G R) {t' : T'} {t : T}
    (ht : R t' t) (ht' : G'.shown t' = true) (hts : G.shown t = true) (name : String) (c : Bool) :
    Ex.Sim G'.shown G.shown R Eq (CompoundExplorer.exploreType G' e' name t' c)
      (CompoundExplorer.exploreType G e name t c) := by
  have hfields := hR.fields ht ht' hts
  unfold CompoundExplorer.exploreType
  dsimp only
  rw [CompoundExplorer.getRealFieldCount_congr (hfields.imp fun _ _ h => h.1)]
  split
  · cases c
    · exact (Ex.Sim.say _ _).bind fun _ _ _ => Ex.Sim.pure rfl
    · exact (Ex.Sim.say _ _).bind fun _ _ _ =>
        Ex.Sim.returnToEnclosingTypePrompt.bind fun _ _ _ => Ex.Sim.pure rfl
  obtain ⟨hnames, hch⟩ := CompoundExplorer.typeFieldRows_rel hfields 0
  rcases hr' : typeFieldRows G' (G'.fields t') 0 with ⟨rows', choices'⟩
  rcases hr : typeFieldRows G (G.fields t) 0 with ⟨rows, choices⟩
  rw [hr', hr] at hnames hch
  refine (Ex.Sim.say _ _).bind fun _ _ _ =>
    (Ex.Sim.printFields hnames).bind fun _ _ _ => (Ex.Sim.say _ _).bind fun _ _ _ => ?_
  have hempty : choices'.isEmpty = choices.isEmpty := by cases hch <;> rfl
  rw [hempty]
  cases choices.isEmpty
  · refine (Ex.Sim.rawInput _).bind fun l _ h => ?_
    subst h
    have hl := CompoundExplorer.lookup_rel
      (Q := fun (p' : Option String × T' × String) (p : Option String × T × String) =>
        p'.1 = p.1 ∧ R p'.2.1 p.2.1 ∧ p'.2.2 = p.2.2) l hch
    rcases h₁ : choices'.lookup l with _ | ⟨n', t₁', d'⟩ <;>
      rcases h₂ : choices.lookup l with _ | ⟨n, t₁, d⟩ <;> rw [h₁, h₂] at hl <;> cases hl
    · exact Ex.Sim.ifChild (Ex.Sim.say _ _) c
    · rename_i hq
      obtain ⟨rfl, hq, rfl⟩ := hq
      exact (he _ _ _ _ hq).bind fun _ _ _ => Ex.Sim.pure rfl
  · exact Ex.Sim.ifChild Ex.Sim.returnToEnclosingTypePrompt c

theorem ExplorerClass.exploreType_sim (hR : TypedefTypeSim G' G R) {cl : ExplorerClass}
    (hcl : cl ≠ .typedef) {t' : T'} {t : T} (ht : R t' t) (ht' : G'.shown t' = true)
    (hts : G.shown t = true) (name : String) (c : Bool) :
    Ex.Sim G'.shown G.shown R Eq (cl.exploreType G' e' name t' c) (cl.exploreType G e name t c) := by
  have htarget := hR.target ht ht' hts
  cases cl
  · refine (Ex.Sim.say _ _).bind fun _ _ _ => ?_
    cases c
    · exact (Ex.Sim.pure rfl).bind fun _ _ _ => Ex.Sim.pure rfl
    · exact Ex.Sim.returnToEnclosingTypePrompt.bind fun _ _ _ =>
        (Ex.Sim.say _ _).bind fun _ _ _ => Ex.Sim.pure rfl
  · exact CompoundExplorer.exploreType_sim he hR ht ht' hts name c
  · exact (Ex.Sim.say _ _).bind fun _ _ _ => (he _ _ _ _ htarget).bind fun _ _ _ => Ex.Sim.pure rfl
  · exact (he _ _ _ _ htarget).bind fun _ _ _ => Ex.Sim.pure rfl
  · exact absurd rfl hcl
  · exact (Ex.Sim.say _ _).bind fun _ _ _ => (he _ _ _ _ htarget).bind fun _ _ _ => Ex.Sim.pure rfl

end Children

/-! ### The dispatcher -/

theorem TypeGraph.code_of_shown_eq_false {t : T} (h : G.shown t = false) : G.code t = .typedef := by
  simpa [TypeGraph.shown] using h

/-- A typedef, explored, prints its line and explores the stripped type. -/
theorem Explorer.exploreType_typedef {t : T} (ht : G.code t = .typedef) (m : ℕ) (name : String)
    (c : Bool) :
    Explorer.exploreType G (m + 2) name t c =
      (emit (.explore name t c) >>= fun _ =>
        say (if c then "The type of " ++ name ++ " is a typedef of type '" ++
            G.name (G.stripTypedefs t) ++ "'."
          else "The type '" ++ name ++ "' is a typedef of type '" ++ G.name (G.stripTypedefs t) ++
            "'.") >>= fun _ =>
        Explorer.exploreType G (m + 1) name (G.stripTypedefs t) c) := by
  rw [Explorer.exploreType_succ]
  simp only [ht, Explorer.typeCodeToExplorerMap, whileTrue_succ, ExplorerClass.exploreType,
    TypedefExplorer.exploreType, Ex.bind_assoc, Ex.pure_bind, Bool.false_eq_true, if_false,
    Ex.bind_pure_unit]

/-- Two shown types, their parts simulated within `2 * n`. -/
theorem Explorer.exploreType_sim_shown (hR : TypedefTypeSim G' G R) {n : ℕ}
    (ih : ∀ name u' u c, R u' u →
      Ex.Sim G'.shown G.shown R Eq (Explorer.exploreType G' (2 * n) name u' c)
        (Explorer.exploreType G n name u c))
    {t' : T'} {t : T} (ht : R t' t) (ht' : G'.shown t' = true) (hts : G.shown t = true)
    (name : String) (c : Bool) :
    Ex.Sim G'.shown G.shown R Eq (Explorer.exploreType G' (2 * n + 1) name t' c)
      (Explorer.exploreType G (n + 1) name t c) := by
  rw [Explorer.exploreType_succ, Explorer.exploreType_succ, hR.code ht ht' hts]
  refine (Ex.Sim.emit_explore ht' hts ht).bind fun _ _ _ => ?_
  rcases hcl : Explorer.typeCodeToExplorerMap (G.code t) with _ | cl
  · exact Ex.Sim.say _ _
  · have hne := Explorer.typeCodeToExplorerMap_ne_typedef (by simpa [TypeGraph.shown] using hts) hcl
    exact Ex.Sim.whileTrue (ExplorerClass.exploreType_sim ih hR hne ht ht' hts name c) (by omega)

/-- **Typedefs are transparent** to `explore_type`: wherever the exploration of a
type finishes within fuel `n`, that of a type standing for it finishes within
`2 * n`, with the same result, the same lines read, and corresponding types
explored, typedefs left out. -/
theorem Explorer.exploreType_sim (hR : TypedefTypeSim G' G R) :
    ∀ (n : ℕ) (name : String) (t' : T') (t : T) (c : Bool), R t' t →
      Ex.Sim G'.shown G.shown R Eq (Explorer.exploreType G' (2 * n) name t' c)
        (Explorer.exploreType G n name t c)
  | 0, _, _, _, _, _ => Ex.Sim.of_outOfFuel fun _ => rfl
  | n + 1, name, t', t, c, ht => by
    have ih := Explorer.exploreType_sim hR n
    cases hts : G.shown t
    · -- a typedef on the right passes through to the stripped type
      have hty := TypeGraph.code_of_shown_eq_false hts
      have hu := (hR.typedef_right ht hty).2
      cases n with
      | zero =>
        refine Ex.Sim.of_outOfFuel fun inp => ?_
        simp [Explorer.exploreType_succ, hty, Explorer.typeCodeToExplorerMap, whileTrue_zero]
      | succ n =>
        rw [Explorer.exploreType_typedef hty]
        refine Ex.Sim.emit_bind_right hts (Ex.Sim.say_bind_right _ ?_)
        exact (Explorer.exploreType_le G' (by omega) name t' c).sim (ih name t' _ c hu)
    cases ht' : G'.shown t'
    · -- a typedef on the left passes through to the stripped type
      have hty := TypeGraph.code_of_shown_eq_false ht'
      obtain ⟨hus, hu⟩ := hR.typedef_left ht hty
      rw [show 2 * (n + 1) = 2 * n + 2 by omega, Explorer.exploreType_typedef hty]
      exact Ex.Sim.emit_bind_left ht' (Ex.Sim.say_bind_left _
        (Explorer.exploreType_sim_shown hR ih hu hus hts name c))
    exact (Explorer.exploreType_le G' (by omega) name t' c).sim
      (Explorer.exploreType_sim_shown hR ih ht ht' hts name c)

/-- The correspondence read the other way: the types of `G` stand for those of `G'`. -/
theorem TypedefTypeSim.symm (hR : TypedefTypeSim G' G R) : TypedefTypeSim G G' (flip R) where
  typedef_left h ht := hR.typedef_right h ht
  typedef_right h ht := hR.typedef_left h ht
  code h ht ht' := (hR.code h ht' ht).symm
  target h ht ht' := hR.target h ht' ht
  fields h ht ht' := List.Forall₂.flip ((hR.fields h ht' ht).imp fun _ _ hf => ⟨hf.1.symm, hf.2⟩)

/-! ### Both explorers, both ways -/

/-- **Typedefs are transparent** to both explorers, both ways. Wherever the
exploration of a value finishes within fuel `n`, that of a value standing for it
under a `TypedefSim` finishes within `2 * n`, and the other way round, with the
same result, the same lines read under the same prompts, and corresponding nodes
explored under the same paths and `is_child`, typedef nodes aside; the same for
types under a `TypedefTypeSim`. -/
theorem typedefs_transparent :
    (∀ {V' V : Type} (H' : ValueGraph G' V') (H : ValueGraph G V) (S : V' → V → Prop),
      TypedefSim G' H' G H S → ∀ (n : ℕ) (expr : String) (v' : V') (v : V) (c : Bool), S v' v →
        Ex.Sim H'.shown H.shown S Eq (Explorer.exploreExpr G' H' (2 * n) expr v' c)
            (Explorer.exploreExpr G H n expr v c) ∧
          Ex.Sim H.shown H'.shown (flip S) Eq (Explorer.exploreExpr G H (2 * n) expr v c)
            (Explorer.exploreExpr G' H' n expr v' c)) ∧
    (∀ R : T' → T → Prop, TypedefTypeSim G' G R →
      ∀ (n : ℕ) (name : String) (t' : T') (t : T) (c : Bool), R t' t →
        Ex.Sim G'.shown G.shown R Eq (Explorer.exploreType G' (2 * n) name t' c)
            (Explorer.exploreType G n name t c) ∧
          Ex.Sim G.shown G'.shown (flip R) Eq (Explorer.exploreType G (2 * n) name t c)
            (Explorer.exploreType G' n name t' c)) :=
  ⟨fun _ _ _ hS n expr v' v c hv =>
      ⟨Explorer.exploreExpr_sim hS n expr v' v c hv, Explorer.exploreExpr_sim hS.symm n expr v v' c hv⟩,
    fun _ hR n name t' t c ht =>
      ⟨Explorer.exploreType_sim hR n name t' t c ht, Explorer.exploreType_sim hR.symm n name t t' c ht⟩⟩

/-! ### An example: a typedef at the root, and one on a scalar field -/

/-- The types of `struct s { unsigned int x; }`, its typedef `s_t`, and a copy of
`struct s` whose field is declared through `typedef unsigned int uint32_t`. -/
inductive AliasType where
  | uint
  | uint32
  | s
  | sAliased
  | sT
  deriving DecidableEq, Repr

/-- The types: `uint32_t` and `s_t` are typedefs. -/
def aliasTypes : TypeGraph AliasType where
  code | .uint => .int | .uint32 | .sT => .typedef | .s | .sAliased => .struct
  name | .uint => "unsigned int" | .uint32 => "uint32_t" | .s | .sAliased => "struct s" | .sT => "s_t"
  target t := t
  fields
    | .s => [⟨some "x", .uint, false, false⟩]
    | .sAliased => [⟨some "x", .uint32, false, false⟩]
    | _ => []
  stripTypedefs | .uint32 => .uint | .sT => .s | t => t

/-- `struct s val = {3}` with its field, `s_t typed = val`, and the copy `copy`
with its `uint32_t` field. -/
inductive AliasValue where
  | val
  | valX
  | typed
  | copy
  | copyX
  deriving DecidableEq, Repr

/-- `v.x`, for the values that have the field. -/
def AliasValue.fieldX : AliasValue → Option AliasValue
  | .val | .typed => some .valX
  | .copy => some .copyX
  | _ => none

/-- The values; a typedef value casts to its stripped type. -/
def aliasValues : ValueGraph aliasTypes AliasValue where
  type | .val => .s | .valX => .uint | .typed => .sT | .copy => .sAliased | .copyX => .uint32
  str | .valX | .copyX => some "3" | _ => some "\x7bx = 3\x7d"
  dereference _ := none
  getitem _ _ := none
  getfield a name := if name = "x" then a.fieldX else none
  cast | .typed, .s => some .val | .copyX, .uint => some .valX | _, _ => none
  referencedValue _ := none
  type_cast a t b h := by cases a <;> cases t <;> cases h <;> rfl
  type_referencedValue _ _ h := nomatch h

/-- `typed` stands for `val`, of which it is a typedef; `val` and its field stand
for themselves. -/
def RootAlias : AliasValue → AliasValue → Prop
  | .typed, .val | .val, .val | .valX, .valX => True
  | _, _ => False

/-- `copy`, whose field is a `uint32_t`, stands for `val`, and its field for `val.x`. -/
def FieldAlias : AliasValue → AliasValue → Prop
  | .copy, .val | .copyX, .valX | .valX, .valX => True
  | _, _ => False

/-- `struct s` with its `uint32_t` field stands for `struct s`, `uint32_t` for
`unsigned int`. -/
def FieldAliasType : AliasType → AliasType → Prop
  | .sAliased, .s | .uint32, .uint | .uint, .uint | .s, .s => True
  | _, _ => False

/-- A typedef at the root keeps every law, the scalar one included. -/
theorem rootAlias_typedefSim :
    TypedefSim aliasTypes aliasValues aliasTypes aliasValues RootAlias where
  typedef_left {a b} h ht := by
    cases a <;> cases b <;> first | exact False.elim h | exact absurd ht (by decide) |
      exact ⟨_, rfl, rfl, trivial⟩
  typedef_right {a b} h ht := by
    cases a <;> cases b <;> first | exact False.elim h | exact absurd ht (by decide)
  code {a b} h ha _ := by
    cases a <;> cases b <;> first | exact False.elim h | exact absurd ha (by decide) | rfl
  str {a b} h := by cases a <;> cases b <;> first | exact False.elim h | rfl
  dereference _ := .none
  getitem _ _ := .none
  getfield {a b} name h := by
    by_cases hn : name = "x" <;> simp only [aliasValues, hn, if_true, if_false]
    · cases a <;> cases b <;> first | exact False.elim h | exact .some trivial | exact .none
    · exact .none
  referencedValue _ := .none
  fields {a b} h ha _ := by
    cases a <;> cases b <;> first | exact False.elim h | exact absurd ha (by decide) | exact .nil |
      exact .cons ⟨⟨rfl, rfl, rfl⟩, fun h => absurd h (by decide)⟩ .nil
  scalarFields {a b} h ha _ _ := by
    cases a <;> cases b <;> first | exact False.elim h | exact absurd ha (by decide) | exact .nil |
      exact .cons rfl .nil

/-- A typedef of `unsigned int` on a field keeps every law of an aliasing. -/
theorem fieldAlias_typedefAlias :
    TypedefAlias aliasTypes aliasValues aliasTypes aliasValues FieldAlias where
  typedef_left {a b} h ht := by
    cases a <;> cases b <;> first | exact False.elim h | exact absurd ht (by decide) |
      exact ⟨_, rfl, rfl, trivial⟩
  typedef_right {a b} h ht := by
    cases a <;> cases b <;> first | exact False.elim h | exact absurd ht (by decide)
  code {a b} h ha _ := by
    cases a <;> cases b <;> first | exact False.elim h | exact absurd ha (by decide) | rfl
  str {a b} h := by cases a <;> cases b <;> first | exact False.elim h | rfl
  dereference _ := .none
  getitem _ _ := .none
  getfield {a b} name h := by
    by_cases hn : name = "x" <;> simp only [aliasValues, hn, if_true, if_false]
    · cases a <;> cases b <;> first | exact False.elim h | exact .some trivial | exact .none
    · exact .none
  referencedValue _ := .none
  fields {a b} h ha _ := by
    cases a <;> cases b <;> first | exact False.elim h | exact absurd ha (by decide) | exact .nil |
      exact .cons ⟨⟨rfl, rfl, rfl⟩, fun h => absurd h (by decide)⟩ .nil

/-- As types, the same typedef on a field keeps every law of `TypedefTypeSim`. -/
theorem fieldAliasType_typedefTypeSim : TypedefTypeSim aliasTypes aliasTypes FieldAliasType where
  typedef_left {a b} h ht := by
    cases a <;> cases b <;> first | exact False.elim h | exact absurd ht (by decide) |
      exact ⟨rfl, trivial⟩
  typedef_right {a b} h ht := by
    cases a <;> cases b <;> first | exact False.elim h | exact absurd ht (by decide)
  code {a b} h ha _ := by
    cases a <;> cases b <;> first | exact False.elim h | exact absurd ha (by decide) | rfl
  target h _ _ := h
  fields {a b} h ha _ := by
    cases a <;> cases b <;> first | exact False.elim h | exact absurd ha (by decide) | exact .nil |
      exact .cons ⟨⟨rfl, rfl, rfl⟩, trivial⟩ .nil

/-- A typedef of `unsigned int` on the field of `struct s`, an aliasing that keeps
every law of `TypedefAlias`, is not transparent: `Explorer.is_scalar_type` does not
strip it, so the field is offered, and on the line `0` and two empty lines the
exploration of `copy` reads all three, where that of `val`, its field printed inline,
reads none. -/
theorem exploreExpr_aliasedScalarField :
    TypedefAlias aliasTypes aliasValues aliasTypes aliasValues FieldAlias ∧ FieldAlias .copy .val ∧
      ∀ n, 6 ≤ n →
        (Explorer.exploreExpr aliasTypes aliasValues n "s" .val false ["0", "", ""]).res = .ok () ∧
        (Explorer.exploreExpr aliasTypes aliasValues n "s" .val false ["0", "", ""]).used = 0 ∧
        (Explorer.exploreExpr aliasTypes aliasValues n "s" .copy false ["0", "", ""]).res = .ok () ∧
        (Explorer.exploreExpr aliasTypes aliasValues n "s" .copy false ["0", "", ""]).used = 3 := by
  refine ⟨fieldAlias_typedefAlias, trivial, fun n hn => ?_⟩
  rw [Explorer.exploreExpr_le aliasTypes aliasValues hn "s" .val false ["0", "", ""] (by decide),
    Explorer.exploreExpr_le aliasTypes aliasValues hn "s" .copy false ["0", "", ""] (by decide)]
  decide

/-- The typedef `s_t` at the root of a value, and the `uint32_t` field of a type,
are transparent. -/
theorem typedefs_transparent_example :
    TypedefSim aliasTypes aliasValues aliasTypes aliasValues RootAlias ∧
      TypedefTypeSim aliasTypes aliasTypes FieldAliasType ∧
      (∀ n c, Ex.Sim aliasValues.shown aliasValues.shown RootAlias Eq
        (Explorer.exploreExpr aliasTypes aliasValues (2 * n) "s" .typed c)
        (Explorer.exploreExpr aliasTypes aliasValues n "s" .val c)) ∧
      (∀ n c, Ex.Sim aliasTypes.shown aliasTypes.shown FieldAliasType Eq
        (Explorer.exploreType aliasTypes (2 * n) "struct s" .sAliased c)
        (Explorer.exploreType aliasTypes n "struct s" .s c)) :=
  ⟨rootAlias_typedefSim, fieldAliasType_typedefTypeSim,
    fun n c => (typedefs_transparent.1 aliasValues aliasValues _ rootAlias_typedefSim n "s" .typed .val c
      trivial).1,
    fun n c =>
      (typedefs_transparent.2 _ fieldAliasType_typedefTypeSim n "struct s" .sAliased .s c trivial).1⟩

end GdbExplore
