import GdbExplore.Explorer

/-!
# Fuel

The dispatcher is given fuel for its recursion and its loops; a run that
finishes (returns, or raises) did not need more. This module proves the converse
needed to combine runs: more fuel changes nothing about a run that finished
(`Explorer.exploreExpr_le`, `Explorer.exploreType_le`), so that a run's result
does not depend on the fuel once there is enough of it.

Each class is monotone in the child explorer it is given: the proofs walk the
class's code, comparing equal steps and the calls of the child explorer.
-/

namespace GdbExplore

variable {T V : Type} (G : TypeGraph T) (H : ValueGraph G V)

section Values

variable {e e' : String → V → Bool → Ex V Unit} (he : ∀ p w c, (e p w c).Le (e' p w c))
include he

theorem PointerExplorer.indexStep_le (expr : String) (value : V) :
    (PointerExplorer.indexStep G H e expr value).Le
      (PointerExplorer.indexStep G H e' expr value) := by
  refine Ex.Le.bind (.refl _) fun line => ?_
  split
  · exact .refl _
  refine Ex.Le.bind (.refl _) fun g => Ex.Le.bind (.refl _) fun w => ?_
  split
  · exact .refl _
  · exact Ex.Le.bind (he _ _ _) fun _ => .refl _

theorem PointerExplorer.exploreExpr_le (n : ℕ) (expr : String) (value : V) (isChild : Bool) :
    (PointerExplorer.exploreExpr G H n e expr value isChild).Le
      (PointerExplorer.exploreExpr G H (n + 1) e' expr value isChild) := by
  refine Ex.Le.bind (.refl _) fun _ => Ex.Le.bind (.refl _) fun option => ?_
  split
  · split
    · exact .refl _
    · exact Ex.Le.bind (.refl _) fun _ => Ex.Le.bind (he _ _ _) fun _ => .refl _
  · refine Ex.Le.bind (.refl _) fun _ => ?_
    split
    · exact Ex.Le.bind (whileTrue_le_of_le (PointerExplorer.indexStep_le G H he _ _)
        (Nat.le_succ _)) fun _ => .refl _
    · exact .refl _

theorem ReferenceExplorer.exploreExpr_le (expr : String) (value : V) (isChild : Bool) :
    (ReferenceExplorer.exploreExpr G H e expr value isChild).Le
      (ReferenceExplorer.exploreExpr G H e' expr value isChild) :=
  Ex.Le.bind (.refl _) fun _ => Ex.Le.bind (he _ _ _) fun _ => .refl _

theorem ArrayExplorer.exploreExpr_le (expr : String) (value : V) (isChild : Bool) :
    (ArrayExplorer.exploreExpr G H e expr value isChild).Le
      (ArrayExplorer.exploreExpr G H e' expr value isChild) := by
  refine Ex.Le.bind (.refl _) fun _ => Ex.Le.bind (.refl _) fun line => ?_
  split
  · exact .refl _
  split
  · exact .refl _
  · exact Ex.Le.bind (.refl _) fun _ => Ex.Le.bind (he _ _ _) fun _ => .refl _

theorem CompoundExplorer.exploreExpr_le (expr : String) (value : V) (isChild : Bool) :
    (CompoundExplorer.exploreExpr G H e expr value isChild).Le
      (CompoundExplorer.exploreExpr G H e' expr value isChild) := by
  unfold CompoundExplorer.exploreExpr
  dsimp only
  split
  · exact .refl _
  refine Ex.Le.bind (.refl _) fun _ => Ex.Le.bind (.refl _) fun r => ?_
  obtain ⟨hasEx, rows, choices⟩ := r
  refine Ex.Le.bind (.refl _) fun _ => Ex.Le.bind (.refl _) fun _ => ?_
  split
  · refine Ex.Le.bind (.refl _) fun l => ?_
    split
    · exact Ex.Le.bind (he _ _ _) fun _ => .refl _
    · exact .refl _
  · exact .refl _

theorem TypedefExplorer.exploreExpr_le (expr : String) (value : V) (isChild : Bool) :
    (TypedefExplorer.exploreExpr G H e expr value isChild).Le
      (TypedefExplorer.exploreExpr G H e' expr value isChild) :=
  Ex.Le.bind (.refl _) fun _ => Ex.Le.bind (.refl _) fun _ => Ex.Le.bind (he _ _ _) fun _ => .refl _

theorem ExplorerClass.exploreExpr_le (n : ℕ) (c : ExplorerClass) (expr : String) (value : V)
    (isChild : Bool) :
    (c.exploreExpr G H n e expr value isChild).Le (c.exploreExpr G H (n + 1) e' expr value isChild) := by
  cases c
  · exact .refl _
  · exact CompoundExplorer.exploreExpr_le G H he expr value isChild
  · exact PointerExplorer.exploreExpr_le G H he n expr value isChild
  · exact ReferenceExplorer.exploreExpr_le G H he expr value isChild
  · exact TypedefExplorer.exploreExpr_le G H he expr value isChild
  · exact ArrayExplorer.exploreExpr_le G H he expr value isChild

end Values

section Types

variable {e e' : String → T → Bool → Ex T Unit} (he : ∀ p t c, (e p t c).Le (e' p t c))
include he

theorem CompoundExplorer.exploreType_le (name : String) (datatype : T) (isChild : Bool) :
    (CompoundExplorer.exploreType G e name datatype isChild).Le
      (CompoundExplorer.exploreType G e' name datatype isChild) := by
  unfold CompoundExplorer.exploreType
  dsimp only
  split
  · exact .refl _
  refine Ex.Le.bind (.refl _) fun _ => Ex.Le.bind (.refl _) fun _ => Ex.Le.bind (.refl _) fun _ => ?_
  split
  · refine Ex.Le.bind (.refl _) fun l => ?_
    split
    · exact Ex.Le.bind (he _ _ _) fun _ => .refl _
    · exact .refl _
  · exact .refl _

theorem ExplorerClass.exploreType_le (c : ExplorerClass) (name : String) (datatype : T)
    (isChild : Bool) :
    (c.exploreType G e name datatype isChild).Le (c.exploreType G e' name datatype isChild) := by
  cases c
  · exact .refl _
  · exact CompoundExplorer.exploreType_le G he name datatype isChild
  · exact Ex.Le.bind (.refl _) fun _ => Ex.Le.bind (he _ _ _) fun _ => .refl _
  · exact Ex.Le.bind (he _ _ _) fun _ => .refl _
  · exact Ex.Le.bind (.refl _) fun _ => Ex.Le.bind (he _ _ _) fun _ => .refl _
  · exact Ex.Le.bind (.refl _) fun _ => Ex.Le.bind (he _ _ _) fun _ => .refl _

end Types

/-- A family of runs indexed by fuel, each finishing as the one before wherever
that one finished. -/
def FuelMono {N α : Type} (f : ℕ → Ex N α) : Prop := ∀ n, (f n).Le (f (n + 1))

theorem FuelMono.le {N α : Type} {f : ℕ → Ex N α} (hf : FuelMono f) {n m : ℕ} (h : n ≤ m) :
    (f n).Le (f m) := by
  induction h with
  | refl => exact .refl _
  | step _ ih => exact ih.trans (hf _)

theorem FuelMono.whileTrue {N : Type} {body : ℕ → Ex N Bool} (hb : FuelMono body) :
    FuelMono fun n => whileTrue (body n) n :=
  fun n => whileTrue_le_of_le (hb n) (Nat.le_succ n)

theorem Explorer.exploreExpr_succ (n : ℕ) (expr : String) (value : V) (isChild : Bool) :
    Explorer.exploreExpr G H (n + 1) expr value isChild =
      (emit (.explore expr value isChild) >>= fun _ =>
        match Explorer.typeCodeToExplorerMap (G.code (H.type value)) with
        | some c => whileTrue (c.exploreExpr G H n (Explorer.exploreExpr G H n) expr value isChild) n
        | none => say ("Explorer for type '" ++ G.name (H.type value) ++ "' not yet available.\n")) :=
  rfl

theorem Explorer.exploreType_succ (n : ℕ) (name : String) (datatype : T) (isChild : Bool) :
    Explorer.exploreType G (n + 1) name datatype isChild =
      (emit (.explore name datatype isChild) >>= fun _ =>
        match Explorer.typeCodeToExplorerMap (G.code datatype) with
        | some c => whileTrue (c.exploreType G (Explorer.exploreType G n) name datatype isChild) n
        | none => say ("Explorer for type '" ++ G.name datatype ++ "' not yet available.\n")) :=
  rfl

theorem Explorer.exploreExpr_le_succ : ∀ (n : ℕ) (expr : String) (value : V) (isChild : Bool),
    (Explorer.exploreExpr G H n expr value isChild).Le
      (Explorer.exploreExpr G H (n + 1) expr value isChild)
  | 0, _, _, _ => fun _ h => absurd rfl h
  | n + 1, expr, value, isChild => by
    rw [Explorer.exploreExpr_succ, Explorer.exploreExpr_succ]
    refine Ex.Le.bind (.refl _) fun _ => ?_
    split
    · exact whileTrue_le_of_le
        (ExplorerClass.exploreExpr_le G H (Explorer.exploreExpr_le_succ n) n _ _ _ _) (Nat.le_succ n)
    · exact .refl _

theorem Explorer.exploreType_le_succ : ∀ (n : ℕ) (name : String) (datatype : T) (isChild : Bool),
    (Explorer.exploreType G n name datatype isChild).Le
      (Explorer.exploreType G (n + 1) name datatype isChild)
  | 0, _, _, _ => fun _ h => absurd rfl h
  | n + 1, name, datatype, isChild => by
    rw [Explorer.exploreType_succ, Explorer.exploreType_succ]
    refine Ex.Le.bind (.refl _) fun _ => ?_
    split
    · exact whileTrue_le_of_le
        (ExplorerClass.exploreType_le G (Explorer.exploreType_le_succ n) _ _ _ _) (Nat.le_succ n)
    · exact .refl _

/-- **Fuel adequacy** for values: a run that finished finishes the same way with more fuel. -/
theorem Explorer.exploreExpr_le {n m : ℕ} (h : n ≤ m) (expr : String) (value : V) (isChild : Bool) :
    (Explorer.exploreExpr G H n expr value isChild).Le (Explorer.exploreExpr G H m expr value isChild) := by
  induction h with
  | refl => exact .refl _
  | step _ ih => exact ih.trans (Explorer.exploreExpr_le_succ G H _ _ _ _)

/-- **Fuel adequacy** for types. -/
theorem Explorer.exploreType_le {n m : ℕ} (h : n ≤ m) (name : String) (datatype : T) (isChild : Bool) :
    (Explorer.exploreType G n name datatype isChild).Le (Explorer.exploreType G m name datatype isChild) := by
  induction h with
  | refl => exact .refl _
  | step _ ih => exact ih.trans (Explorer.exploreType_le_succ G _ _ _ _)

variable {N : Type} {P : Exc → Prop}

theorem ExplorerClass.exploreExpr_fuelMono (c : ExplorerClass) (expr : String) (value : V)
    (isChild : Bool) :
    FuelMono fun n => c.exploreExpr G H n (Explorer.exploreExpr G H n) expr value isChild :=
  fun n => ExplorerClass.exploreExpr_le G H (Explorer.exploreExpr_le_succ G H n) n c expr value isChild

theorem ExplorerClass.exploreType_fuelMono (c : ExplorerClass) (name : String) (datatype : T)
    (isChild : Bool) :
    FuelMono fun n => c.exploreType G (Explorer.exploreType G n) name datatype isChild :=
  fun n => ExplorerClass.exploreType_le G (Explorer.exploreType_le_succ G n) c name datatype isChild

/-! ### Loops that finish -/

/-- A loop finishes when its body does and, where the body asks for another round,
the loop run from where the body stopped finishes. -/
theorem whileTrue_ends {body : ℕ → Ex N Bool} (hb : FuelMono body) {n : ℕ} {inp : List String}
    (h : (body n inp).Ends P)
    (hnext : (body n inp).res = .ok true →
      ∃ m, (whileTrue (body m) m (inp.drop (body n inp).used)).Ends P) :
    ∃ m, (whileTrue (body m) m inp).Ends P := by
  have key : ∀ m, n ≤ m → body m inp = body n inp := fun m hm => hb.le hm inp h.ne_outOfFuel
  rcases hr : body n inp with ⟨(_ | _) | e | _, u, tr⟩ <;> rw [hr] at h hnext
  · refine ⟨n + 1, ?_⟩
    rw [whileTrue_succ, Ex.bind_apply, key _ (Nat.le_succ n), hr]
    trivial
  · obtain ⟨m, hm⟩ := hnext rfl
    refine ⟨max n m + 1, ?_⟩
    rw [whileTrue_succ, Ex.bind_apply, key _ (by omega), hr, Run.ends_next_ok]
    exact (whileTrue_le_of_le (hb.le (by omega)) (le_max_right n m)).ends hm
  · refine ⟨n + 1, ?_⟩
    rw [whileTrue_succ, Ex.bind_apply, key _ (Nat.le_succ n), hr]
    exact h
  · exact absurd h (by simp [Run.Ends])

/-- A loop whose body returns without asking for another round finishes with it. -/
theorem whileTrue_ends_once {body : ℕ → Ex N Bool} (hb : FuelMono body) {n : ℕ}
    {inp : List String} (h : (body n inp).Ends P ∧ (body n inp).res ≠ .ok true) :
    ∃ m, (whileTrue (body m) m inp).Ends P :=
  whileTrue_ends hb h.1 fun h' => absurd h' h.2

/-- A loop finishes when its body does, asks for another round only after reading
a line, and every loop on fewer lines finishes. -/
theorem whileTrue_ends_of_shorter {body : ℕ → Ex N Bool} (hb : FuelMono body) {n : ℕ}
    {inp : List String}
    (h : (body n inp).Ends P ∧
      ((body n inp).res = .ok true → (inp.drop (body n inp).used).length < inp.length))
    (hnext : ∀ u, (inp.drop u).length < inp.length →
      ∃ m, (whileTrue (body m) m (inp.drop u)).Ends P) :
    ∃ m, (whileTrue (body m) m inp).Ends P :=
  whileTrue_ends hb h.1 fun h' => hnext _ (h.2 h')

end GdbExplore
