import GdbExplore.Simulation

/-!
# Typedefs are transparent

`TypedefExplorer.explore_expr` prints that a value's type is a typedef, casts the
value to the stripped type and explores that under the same path and `is_child`.
So a program whose types are typedefs of another's, at any positions, should be
explored alike: the same lines read, corresponding nodes explored. `TypedefAlias`
is that correspondence between the values of two programs. `TypedefSim` asks in
addition that related fields be equally scalar, since `CompoundExplorer` tells
scalar fields by `Explorer.is_scalar_type`, which reads the code of a field's type
without stripping typedefs. What is printed is not compared: besides the typedef
lines, every line that names a field's or a target's type names the alias.

## What is proved

* `Explorer.exploreExpr_sim`: for a `TypedefSim`, wherever the exploration of a
  value finishes within fuel `n`, that of a value standing for it finishes within
  `2 * n`, reading the same lines and exploring corresponding nodes, typedef
  nodes left out.
* `TypedefSim.symm`: the correspondence read the other way, so that the
  simulation holds both ways.
-/

namespace GdbExplore

variable {T T' V V' α α' : Type}

/-- Computations that print and read nothing, related: the same exception, or
results related by `Q`. -/
def ExceptRel (Q : α' → α → Prop) : Except Exc α' → Except Exc α → Prop
  | .ok a', .ok a => Q a' a
  | .error e', .error e => e' = e
  | _, _ => False

theorem Ex.Sim.ofExcept {N N' : Type} {shown' : N' → Bool} {shown : N → Bool} {S : N' → N → Prop}
    {Q : α' → α → Prop} {x' : Except Exc α'} {x : Except Exc α} (h : ExceptRel Q x' x) :
    Ex.Sim shown' shown S Q (GdbExplore.ofExcept x') (GdbExplore.ofExcept x) := by
  cases x' <;> cases x <;> simp only [ExceptRel] at h
  · subst h; exact Ex.Sim.raise _
  · exact Ex.Sim.pure h

/-- `explore_expr` shows a value unless its type is a typedef, through which it passes. -/
def ValueGraph.shown {G : TypeGraph T} (H : ValueGraph G V) (v : V) : Bool :=
  G.code (H.type v) != .typedef

variable (G' : TypeGraph T') (H' : ValueGraph G' V') (G : TypeGraph T) (H : ValueGraph G V)

/-- Two fields that are the same member: the same name, equally artificial, equally
a base class. -/
structure FieldCorr (f' : Field T') (f : Field T) : Prop where
  name : f'.name = f.name
  artificial : f'.artificial = f.artificial
  isBaseClass : f'.isBaseClass = f.isBaseClass

/-- `S` relates the values of `H'` to the values of `H` they stand for, where the
types of `G'` are those of `G` with typedefs put in at some positions: a typedef
value stands for what its cast to the stripped type stands for, and otherwise
related values are of the same kind, equally readable, with related parts and the
same members. -/
structure TypedefAlias (S : V' → V → Prop) : Prop where
  typedef_left : ∀ {v' v}, S v' v → G'.code (H'.type v') = .typedef →
    ∃ w', H'.cast v' (G'.stripTypedefs (H'.type v')) = some w' ∧ H'.shown w' = true ∧ S w' v
  typedef_right : ∀ {v' v}, S v' v → G.code (H.type v) = .typedef →
    ∃ w, H.cast v (G.stripTypedefs (H.type v)) = some w ∧ H.shown w = true ∧ S v' w
  code : ∀ {v' v}, S v' v → H'.shown v' = true → H.shown v = true →
    G'.code (H'.type v') = G.code (H.type v)
  str : ∀ {v' v}, S v' v → (H'.str v').isSome = (H.str v).isSome
  dereference : ∀ {v' v}, S v' v → Option.Rel S (H'.dereference v') (H.dereference v)
  getitem : ∀ {v' v} i, S v' v → Option.Rel S (H'.getitem v' i) (H.getitem v i)
  getfield : ∀ {v' v} name, S v' v → Option.Rel S (H'.getfield v' name) (H.getfield v name)
  referencedValue : ∀ {v' v}, S v' v → Option.Rel S (H'.referencedValue v') (H.referencedValue v)
  fields : ∀ {v' v}, S v' v → H'.shown v' = true → H.shown v = true →
    List.Forall₂ (fun f' f => FieldCorr f' f ∧
        (f.isBaseClass = true → Option.Rel S (H'.cast v' f'.type) (H.cast v f.type)))
      (G'.fields (H'.type v')) (G.fields (H.type v))

/-- An aliasing under which the compound explorer also classes every field of a
struct alike: no typedef of a scalar type is put on the type of a struct's field. A
union offers every field whatever its type, so its fields are left free. -/
structure TypedefSim (S : V' → V → Prop) extends TypedefAlias G' H' G H S : Prop where
  scalarFields : ∀ {v' v}, S v' v → H'.shown v' = true → H.shown v = true →
    G.code (H.type v) = .struct → List.Forall₂ (fun f' f => Explorer.isScalarType G' f'.type = Explorer.isScalarType G f.type)
      (G'.fields (H'.type v')) (G.fields (H.type v))

/-- Two fields of `v'` and `v` that the compound explorer treats alike: the same
member, classed alike where `v` is a struct, and for a base class, casts related
by `S`. -/
structure FieldAlike (S : V' → V → Prop) (v' : V') (v : V) (f' : Field T') (f : Field T) : Prop where
  corr : FieldCorr f' f
  castBase : f.isBaseClass = true → Option.Rel S (H'.cast v' f'.type) (H.cast v f.type)
  isScalarType : G.code (H.type v) = .struct →
    Explorer.isScalarType G' f'.type = Explorer.isScalarType G f.type

variable {G' H' G H} {S : V' → V → Prop}

theorem TypedefSim.fieldAlike (hS : TypedefSim G' H' G H S) {v' : V'} {v : V} (hv : S v' v)
    (hv' : H'.shown v' = true) (hvs : H.shown v = true) :
    List.Forall₂ (FieldAlike G' H' G H S v' v) (G'.fields (H'.type v')) (G.fields (H.type v)) := by
  by_cases hst : G.code (H.type v) = .struct
  · exact (hS.fields hv hv' hvs).mp (fun _ _ hf hs => ⟨hf.1, hf.2, fun _ => hs⟩)
      (hS.scalarFields hv hv' hvs hst)
  · exact (hS.fields hv hv' hvs).imp fun _ _ hf => ⟨hf.1, hf.2, fun h => absurd h hst⟩

theorem TypedefSim.readable (hS : TypedefSim G' H' G H S) {o' : Option V'} {o : Option V}
    (h : Option.Rel S o' o) : Option.Rel S (H'.readable o') (H.readable o) := by
  cases h with
  | none => exact .none
  | @some a' a h =>
    have hstr := hS.str h
    cases hs' : H'.str a' <;> cases hs : H.str a <;> rw [hs', hs] at hstr <;> cases hstr <;>
      simp only [ValueGraph.readable, Option.some_bind, hs', hs, Option.map_none', Option.map_some']
    · exact .none
    · exact .some h

variable {e' : String → V' → Bool → Ex V' Unit} {e : String → V → Bool → Ex V Unit}

theorem ScalarExplorer.exploreExpr_sim (hS : TypedefSim G' H' G H S) {v' : V'} {v : V}
    (hv : S v' v) (expr : String) (c : Bool) :
    Ex.Sim H'.shown H.shown S Eq (ScalarExplorer.exploreExpr G' H' expr v' c)
      (ScalarExplorer.exploreExpr G H expr v c) := by
  have hstr : Option.Rel (fun _ _ => True) (H'.str v') (H.str v) := by
    have := hS.str hv
    cases h' : H'.str v' <;> cases h : H.str v <;> rw [h', h] at this <;> cases this
    · exact .none
    · exact .some trivial
  refine (Ex.Sim.say _ _).bind fun _ _ _ => (Ex.Sim.ofMemory hstr).bind fun _ _ _ =>
    (Ex.Sim.say _ _).bind fun _ _ _ => ?_
  cases c
  · exact (Ex.Sim.pure rfl).bind fun _ _ _ => Ex.Sim.pure rfl
  · exact Ex.Sim.returnToParentValuePrompt.bind fun _ _ _ =>
      (Ex.Sim.say _ _).bind fun _ _ _ => Ex.Sim.pure rfl

theorem ExceptRel.refl (x : Except Exc α) : ExceptRel Eq x x := by
  cases x <;> rfl

theorem ExceptRel.bind {β β' : Type} {Q : α' → α → Prop} {Q₂ : β' → β → Prop}
    {x' : Except Exc α'} {x : Except Exc α} {f' : α' → Except Exc β'} {f : α → Except Exc β}
    (hx : ExceptRel Q x' x) (hf : ∀ a' a, Q a' a → ExceptRel Q₂ (f' a') (f a)) :
    ExceptRel Q₂ (x' >>= f') (x >>= f) := by
  cases x' <;> cases x <;> simp only [ExceptRel] at hx
  · exact hx
  · exact hf _ _ hx

namespace CompoundExplorer

theorem TypedefSim.fieldValue_rel (hS : TypedefSim G' H' G H S) {v' : V'} {v : V} (hv : S v' v)
    {f' : Field T'} {f : Field T} (hf : FieldAlike G' H' G H S v' v f' f) :
    ExceptRel S (fieldValue G' H' v' f') (fieldValue G H v f) := by
  have hopt : ∀ {o' : Option V'} {o : Option V}, Option.Rel S o' o →
      ExceptRel S (orMemoryError o') (orMemoryError o) := by
    intro o' o h
    cases h with
    | some h => exact h
    | none => exact rfl
  unfold fieldValue
  rw [hf.corr.isBaseClass]
  cases hb : f.isBaseClass
  · rw [hf.corr.name]
    cases f.name
    · exact rfl
    · exact hopt (hS.getfield _ hv)
  · exact hopt (hf.castBase hb)

theorem TypedefSim.fieldLiteral_rel (hS : TypedefSim G' H' G H S) {typeCode : TypeCode}
    {f' : Field T'} {f : Field T}
    (hsc : typeCode ≠ .union → Explorer.isScalarType G' f'.type = Explorer.isScalarType G f.type)
    {w' : V'} {w : V} (hw : S w' w) (k : ℕ) :
    ExceptRel (fun l' l => l'.2 = l.2) (fieldLiteral G' H' typeCode f' w' k)
      (fieldLiteral G H typeCode f w k) := by
  unfold fieldLiteral
  split
  · exact rfl
  rename_i hu
  rw [hsc hu]
  split
  · have hstr := hS.str hw
    cases hs' : H'.str w' <;> cases hs : H.str w <;> rw [hs', hs] at hstr <;> cases hstr <;>
      exact rfl
  · exact rfl

/-- Field menus that tell the same: whether one can be explored, the names of the
rows, and the choices with their keys and paths, the values related. -/
def RowsCorr (S : V' → V → Prop)
    (r' : Bool × List (Option String × Literal) × List (String × String × V'))
    (r : Bool × List (Option String × Literal) × List (String × String × V)) : Prop :=
  r'.1 = r.1 ∧ r'.2.1.map Prod.fst = r.2.1.map Prod.fst ∧
    List.Forall₂ (fun c' c => c'.1 = c.1 ∧ c'.2.1 = c.2.1 ∧ S c'.2.2 c.2.2) r'.2.2 r.2.2

theorem TypedefSim.exprFieldRows_rel (hS : TypedefSim G' H' G H S) {v' : V'} {v : V} (hv : S v' v)
    (expr : String) (typeCode : TypeCode) (hcode : typeCode ≠ .union → G.code (H.type v) = .struct) :
    ∀ {fields' : List (Field T')} {fields : List (Field T)},
      List.Forall₂ (FieldAlike G' H' G H S v' v) fields' fields → ∀ k,
      ExceptRel (RowsCorr S) (exprFieldRows G' H' expr v' typeCode fields' k)
        (exprFieldRows G H expr v typeCode fields k)
  | [], [], .nil, _ => ⟨rfl, rfl, .nil⟩
  | f' :: fields', f :: fields, .cons hf hrest, k => by
    simp only [exprFieldRows, hf.corr.artificial]
    split
    · exact TypedefSim.exprFieldRows_rel hS hv expr typeCode hcode hrest k
    refine (ExceptRel.refl _).bind fun g _ hg => ?_
    subst hg
    refine (TypedefSim.fieldValue_rel hS hv hf).bind fun w' w hw => ?_
    refine (TypedefSim.fieldLiteral_rel hS (fun hu => hf.isScalarType (hcode hu)) hw k).bind
      fun l' l hl => ?_
    refine (TypedefSim.exprFieldRows_rel hS hv expr typeCode hcode hrest (k + 1)).bind
      fun r' r hr => ?_
    obtain ⟨hex, hnames, hch⟩ := hr
    exact ⟨by rw [hl, hex], by simp [hf.corr.name, hnames], .cons ⟨rfl, by rw [hf.corr.name], hw⟩ hch⟩

theorem maxFieldNameLength_congr :
    ∀ {rows' rows : List (Option String × Literal)}, rows'.map Prod.fst = rows.map Prod.fst →
      maxFieldNameLength rows' = maxFieldNameLength rows
  | [], [], _ => rfl
  | (n', l') :: rows', (n, l) :: rows, h => by
    simp only [List.map_cons, List.cons.injEq] at h
    obtain ⟨rfl, h⟩ := h
    cases n'
    · rfl
    · simp only [maxFieldNameLength, maxFieldNameLength_congr h]

theorem getRealFieldCount_congr :
    ∀ {fields' : List (Field T')} {fields : List (Field T)},
      List.Forall₂ FieldCorr fields' fields →
      getRealFieldCount fields' = getRealFieldCount fields
  | [], [], .nil => rfl
  | f' :: fields', f :: fields, .cons hf hrest => by
    have ih := getRealFieldCount_congr hrest
    simp only [getRealFieldCount, realFields_cons, hf.artificial] at ih ⊢
    split <;> simp [ih]

theorem lookup_rel {β' β : Type} {Q : β' → β → Prop} (l : String) :
    ∀ {choices' : List (String × β')} {choices : List (String × β)},
      List.Forall₂ (fun c' c => c'.1 = c.1 ∧ Q c'.2 c.2) choices' choices →
      Option.Rel Q (choices'.lookup l) (choices.lookup l)
  | [], [], .nil => .none
  | (k', _) :: _, (k, _) :: _, .cons ⟨hk, hq⟩ hrest => by
    dsimp only at hk
    subst hk
    simp only [List.lookup_cons]
    split
    · exact .some hq
    · exact lookup_rel l hrest

end CompoundExplorer

theorem Ex.Sim.printFields {N N' : Type} {shown' : N' → Bool} {shown : N → Bool}
    {R : N' → N → Prop} {rows' rows : List (Option String × CompoundExplorer.Literal)}
    (h : rows'.map Prod.fst = rows.map Prod.fst) :
    Ex.Sim shown' shown R Eq (CompoundExplorer.printFields rows')
      (CompoundExplorer.printFields rows) := by
  intro inp _
  rw [CompoundExplorer.printFields_apply, CompoundExplorer.printFields_apply,
    CompoundExplorer.maxFieldNameLength_congr h]
  cases CompoundExplorer.maxFieldNameLength rows
  · exact ⟨rfl, rfl, .nil⟩
  · exact ⟨rfl, rfl, by simp [List.filter_map, Function.comp_def, Event.seen]⟩

section Children

variable (hS : TypedefSim G' H' G H S)
  (he : ∀ p w' w c, S w' w → Ex.Sim H'.shown H.shown S Eq (e' p w' c) (e p w c))
include hS he

theorem PointerExplorer.indexStep_sim {v' : V'} {v : V} (hv : S v' v) (expr : String) :
    Ex.Sim H'.shown H.shown S Eq (PointerExplorer.indexStep G' H' e' expr v')
      (PointerExplorer.indexStep G H e expr v) := by
  unfold PointerExplorer.indexStep
  refine (Ex.Sim.rawInput _).bind fun line _ h => ?_
  subst h
  rcases pyInt line with _ | i
  · exact Ex.Sim.pure rfl
  refine (Ex.Sim.ofExcept (ExceptRel.refl _)).bind fun g _ h => ?_
  subst h
  refine (Ex.Sim.ofMemory (hS.getitem i hv)).bind fun w' w hw => ?_
  have hstr := hS.str hw
  rcases hs' : H'.str w' <;> rcases hs : H.str w <;> rw [hs', hs] at hstr <;> cases hstr <;>
    dsimp only
  · exact (Ex.Sim.say _ _).bind fun _ _ _ => Ex.Sim.pure rfl
  · exact (he _ _ _ _ hw).bind fun _ _ _ => Ex.Sim.pure rfl

theorem PointerExplorer.exploreExpr_sim {v' : V'} {v : V} (hv : S v' v) {k k' : ℕ} (hk : k ≤ k')
    (expr : String) (c : Bool) :
    Ex.Sim H'.shown H.shown S Eq (PointerExplorer.exploreExpr G' H' k' e' expr v' c)
      (PointerExplorer.exploreExpr G H k e expr v c) := by
  refine (Ex.Sim.say _ _).bind fun _ _ _ => (Ex.Sim.rawInput _).bind fun option _ h => ?_
  subst h
  by_cases hy : option = "y" <;> simp only [hy, if_true, if_false]
  · have hd := hS.readable (hS.dereference hv)
    rcases hd' : H'.readable (H'.dereference v') with _ | d' <;>
      rcases hd₂ : H.readable (H.dereference v) with _ | d <;> rw [hd', hd₂] at hd <;> cases hd
    · exact (Ex.Sim.say _ _).bind fun _ _ _ => Ex.Sim.ifChild Ex.Sim.returnToParentValuePrompt c
    · rename_i hd
      refine (Ex.Sim.ofExcept (ExceptRel.refl _)).bind fun g _ h => ?_
      subst h
      exact (he _ _ _ _ hd).bind fun _ _ _ => Ex.Sim.pure rfl
  · refine (Ex.Sim.rawInput _).bind fun option _ h => ?_
    subst h
    by_cases hy' : option = "y" <;> simp only [hy', if_true, if_false]
    · exact (Ex.Sim.whileTrue (PointerExplorer.indexStep_sim hS he hv expr) hk).bind
        fun _ _ _ => Ex.Sim.pure rfl
    · exact Ex.Sim.ifChild (Ex.Sim.say _ _) c

theorem ReferenceExplorer.exploreExpr_sim {v' : V'} {v : V} (hv : S v' v) (expr : String)
    (c : Bool) :
    Ex.Sim H'.shown H.shown S Eq (ReferenceExplorer.exploreExpr G' H' e' expr v' c)
      (ReferenceExplorer.exploreExpr G H e expr v c) :=
  (Ex.Sim.ofMemory (hS.referencedValue hv)).bind fun _ _ hw =>
    (he _ _ _ _ hw).bind fun _ _ _ => Ex.Sim.pure rfl

theorem ArrayExplorer.exploreExpr_sim {v' : V'} {v : V} (hv : S v' v) (expr : String) (c : Bool) :
    Ex.Sim H'.shown H.shown S Eq (ArrayExplorer.exploreExpr G' H' e' expr v' c)
      (ArrayExplorer.exploreExpr G H e expr v c) := by
  refine (Ex.Sim.say _ _).bind fun _ _ _ => (Ex.Sim.rawInput _).bind fun line _ h => ?_
  subst h
  rcases pyInt line with _ | i <;> dsimp only
  · exact Ex.Sim.ifChild (Ex.Sim.say _ _) c
  · have hw := hS.readable (hS.getitem i hv)
    rcases hw' : H'.readable (H'.getitem v' i) with _ | w' <;>
      rcases hw₂ : H.readable (H.getitem v i) with _ | w <;> rw [hw', hw₂] at hw <;> cases hw
    · exact (Ex.Sim.say _ _).bind fun _ _ _ => (Ex.Sim.rawInput _).bind fun _ _ _ => Ex.Sim.pure rfl
    · rename_i hw
      refine (Ex.Sim.ofExcept (ExceptRel.refl _)).bind fun g _ h => ?_
      subst h
      exact (he _ _ _ _ hw).bind fun _ _ _ => Ex.Sim.pure rfl

theorem CompoundExplorer.exploreExpr_sim {v' : V'} {v : V} (hv : S v' v)
    (hv' : H'.shown v' = true) (hvs : H.shown v = true)
    (hcl : Explorer.typeCodeToExplorerMap (G.code (H.type v)) = some .compound) (expr : String)
    (c : Bool) :
    Ex.Sim H'.shown H.shown S Eq (CompoundExplorer.exploreExpr G' H' e' expr v' c)
      (CompoundExplorer.exploreExpr G H e expr v c) := by
  have hfields := hS.fieldAlike hv hv' hvs
  unfold CompoundExplorer.exploreExpr
  dsimp only
  rw [CompoundExplorer.getRealFieldCount_congr (hfields.imp fun _ _ h => h.corr), hS.code hv hv' hvs]
  split
  · exact (Ex.Sim.say _ _).bind fun _ _ _ => Ex.Sim.ifChild Ex.Sim.returnToParentValuePrompt c
  refine (Ex.Sim.say _ _).bind fun _ _ _ =>
    (Ex.Sim.ofExcept (CompoundExplorer.TypedefSim.exprFieldRows_rel hS hv expr _
      (Explorer.typeCodeToExplorerMap_compound hcl).resolve_right hfields 0)).bind
      fun r' r hr => ?_
  obtain ⟨hasEx', rows', choices'⟩ := r'
  obtain ⟨hasEx, rows, choices⟩ := r
  obtain ⟨hex, hnames, hch⟩ := hr
  dsimp only at hex hnames hch ⊢
  subst hex
  refine (Ex.Sim.printFields hnames).bind fun _ _ _ => (Ex.Sim.say _ _).bind fun _ _ _ => ?_
  cases hasEx'
  · exact Ex.Sim.ifChild Ex.Sim.returnToParentValuePrompt c
  refine (Ex.Sim.rawInput _).bind fun l _ h => ?_
  subst h
  have hl := CompoundExplorer.lookup_rel
    (Q := fun (p' : String × V') (p : String × V) => p'.1 = p.1 ∧ S p'.2 p.2) l hch
  rcases h₁ : choices'.lookup l with _ | ⟨p', w'⟩ <;>
    rcases h₂ : choices.lookup l with _ | ⟨p, w⟩ <;> rw [h₁, h₂] at hl <;> cases hl
  · exact Ex.Sim.ifChild (Ex.Sim.say _ _) c
  · rename_i hpw
    obtain ⟨rfl, hw⟩ := hpw
    exact (he _ _ _ _ hw).bind fun _ _ _ => Ex.Sim.pure rfl

end Children

/-! ### The dispatcher -/

theorem ValueGraph.code_of_shown_eq_false {v : V} (h : H.shown v = false) :
    G.code (H.type v) = .typedef := by
  simpa [ValueGraph.shown] using h

/-- A typedef value, explored, prints its line and explores its cast. -/
theorem Explorer.exploreExpr_typedef {v w : V} (hv : G.code (H.type v) = .typedef)
    (hw : H.cast v (G.stripTypedefs (H.type v)) = some w) (m : ℕ) (expr : String) (c : Bool) :
    Explorer.exploreExpr G H (m + 2) expr v c =
      (emit (.explore expr v c) >>= fun _ =>
        say ("The value of '" ++ expr ++ "' is of type '" ++ G.name (H.type v) ++
          "' which is a typedef of type '" ++ G.name (G.stripTypedefs (H.type v)) ++ "'") >>= fun _ =>
        Explorer.exploreExpr G H (m + 1) expr w c) := by
  rw [Explorer.exploreExpr_succ]
  simp only [hv, Explorer.typeCodeToExplorerMap, whileTrue_succ, ExplorerClass.exploreExpr,
    TypedefExplorer.exploreExpr, hw, ofMemory_some, Ex.bind_assoc, Ex.pure_bind, Bool.false_eq_true,
    if_false, Ex.bind_pure_unit]

theorem ExplorerClass.exploreExpr_sim (hS : TypedefSim G' H' G H S)
    (he : ∀ p w' w c, S w' w → Ex.Sim H'.shown H.shown S Eq (e' p w' c) (e p w c))
    {cl : ExplorerClass} (hcl : cl ≠ .typedef) {v' : V'} {v : V}
    (hmap : Explorer.typeCodeToExplorerMap (G.code (H.type v)) = some cl) (hv : S v' v)
    (hv' : H'.shown v' = true) (hvs : H.shown v = true) {k k' : ℕ} (hk : k ≤ k') (expr : String)
    (c : Bool) :
    Ex.Sim H'.shown H.shown S Eq (cl.exploreExpr G' H' k' e' expr v' c)
      (cl.exploreExpr G H k e expr v c) := by
  cases cl
  · exact ScalarExplorer.exploreExpr_sim hS hv expr c
  · exact CompoundExplorer.exploreExpr_sim hS he hv hv' hvs hmap expr c
  · exact PointerExplorer.exploreExpr_sim hS he hv hk expr c
  · exact ReferenceExplorer.exploreExpr_sim hS he hv expr c
  · exact absurd rfl hcl
  · exact ArrayExplorer.exploreExpr_sim hS he hv expr c

/-- Two shown values, their children simulated within `2 * n`. -/
theorem Explorer.exploreExpr_sim_shown (hS : TypedefSim G' H' G H S) {n : ℕ}
    (ih : ∀ expr w' w c, S w' w →
      Ex.Sim H'.shown H.shown S Eq (Explorer.exploreExpr G' H' (2 * n) expr w' c)
        (Explorer.exploreExpr G H n expr w c))
    {v' : V'} {v : V} (hv : S v' v) (hv' : H'.shown v' = true) (hvs : H.shown v = true)
    (expr : String) (c : Bool) :
    Ex.Sim H'.shown H.shown S Eq (Explorer.exploreExpr G' H' (2 * n + 1) expr v' c)
      (Explorer.exploreExpr G H (n + 1) expr v c) := by
  rw [Explorer.exploreExpr_succ, Explorer.exploreExpr_succ, hS.code hv hv' hvs]
  refine (Ex.Sim.emit_explore hv' hvs hv).bind fun _ _ _ => ?_
  rcases hcl : Explorer.typeCodeToExplorerMap (G.code (H.type v)) with _ | cl
  · exact Ex.Sim.say _ _
  · have hne := Explorer.typeCodeToExplorerMap_ne_typedef (by simpa [ValueGraph.shown] using hvs) hcl
    exact Ex.Sim.whileTrue
      (ExplorerClass.exploreExpr_sim hS ih hne hcl hv hv' hvs (by omega) expr c) (by omega)

/-- **Typedefs are transparent** to `explore_expr`: wherever the exploration of
a value finishes within fuel `n`, that of a value standing for it finishes
within `2 * n`, with the same result, the same lines read, and corresponding
nodes explored, typedef nodes left out. -/
theorem Explorer.exploreExpr_sim (hS : TypedefSim G' H' G H S) :
    ∀ (n : ℕ) (expr : String) (v' : V') (v : V) (c : Bool), S v' v →
      Ex.Sim H'.shown H.shown S Eq (Explorer.exploreExpr G' H' (2 * n) expr v' c)
        (Explorer.exploreExpr G H n expr v c)
  | 0, _, _, _, _, _ => Ex.Sim.of_outOfFuel fun _ => rfl
  | n + 1, expr, v', v, c, hv => by
    have ih := Explorer.exploreExpr_sim hS n
    cases hvs : H.shown v
    · -- a typedef on the right passes through to its cast
      have hty := ValueGraph.code_of_shown_eq_false hvs
      obtain ⟨w, hw, -, hvw⟩ := hS.typedef_right hv hty
      cases n with
      | zero =>
        refine Ex.Sim.of_outOfFuel fun inp => ?_
        simp [Explorer.exploreExpr_succ, hty, Explorer.typeCodeToExplorerMap, whileTrue_zero]
      | succ n =>
        rw [Explorer.exploreExpr_typedef hty hw]
        refine Ex.Sim.emit_bind_right hvs (Ex.Sim.say_bind_right _ ?_)
        exact (Explorer.exploreExpr_le G' H' (by omega) expr v' c).sim (ih expr v' w c hvw)
    cases hv' : H'.shown v'
    · -- a typedef on the left passes through to its cast
      have hty := ValueGraph.code_of_shown_eq_false hv'
      obtain ⟨w', hw', hws', hwv⟩ := hS.typedef_left hv hty
      rw [show 2 * (n + 1) = 2 * n + 2 by omega, Explorer.exploreExpr_typedef hty hw']
      exact Ex.Sim.emit_bind_left hv' (Ex.Sim.say_bind_left _
        (Explorer.exploreExpr_sim_shown hS ih hwv hws' hvs expr c))
    exact (Explorer.exploreExpr_le G' H' (by omega) expr v' c).sim
      (Explorer.exploreExpr_sim_shown hS ih hv hv' hvs expr c)

/-! ### Both ways -/

theorem Option.rel_flip {β' β : Type} {Q : β' → β → Prop} :
    ∀ {o' : Option β'} {o : Option β}, Option.Rel Q o' o → Option.Rel (flip Q) o o'
  | _, _, .some h => .some h
  | _, _, .none => .none

theorem FieldCorr.symm {f' : Field T'} {f : Field T} (h : FieldCorr f' f) : FieldCorr f f' :=
  ⟨h.name.symm, h.artificial.symm, h.isBaseClass.symm⟩

/-- The aliasing read the other way: the values of `H` stand for those of `H'`. -/
theorem TypedefAlias.symm (hS : TypedefAlias G' H' G H S) : TypedefAlias G H G' H' (flip S) where
  typedef_left h ht := hS.typedef_right h ht
  typedef_right h ht := hS.typedef_left h ht
  code h hv hv' := (hS.code h hv' hv).symm
  str h := (hS.str h).symm
  dereference h := Option.rel_flip (hS.dereference h)
  getitem i h := Option.rel_flip (hS.getitem i h)
  getfield name h := Option.rel_flip (hS.getfield name h)
  referencedValue h := Option.rel_flip (hS.referencedValue h)
  fields h hv hv' := List.Forall₂.flip ((hS.fields h hv' hv).imp fun _ _ hf =>
    ⟨hf.1.symm, fun hb => Option.rel_flip (hf.2 (hf.1.isBaseClass ▸ hb))⟩)

theorem TypedefSim.symm (hS : TypedefSim G' H' G H S) : TypedefSim G H G' H' (flip S) where
  toTypedefAlias := hS.toTypedefAlias.symm
  scalarFields h hv hv' hst := List.Forall₂.flip
    ((hS.scalarFields h hv' hv ((hS.code h hv' hv).symm.trans hst)).imp fun _ _ h => h.symm)

end GdbExplore
