import GdbExplore.Fuel
import Mathlib.Data.List.Forall2

/-!
# Simulation of one exploration by another

Two explorations of different programs (say, one whose types are typedefs of the
other's) cannot have equal traces: they explore different nodes and print
different type names. What a user sees of an exploration, besides the text, is
the lines it reads and the nodes it explores; `Run.Corr` compares two runs on
those, the prints and the nodes that `shown` hides left out, the nodes related by
`S`. `Ex.Sim x' x` says that wherever `x` finishes, `x'` finishes too, with the
same result and a corresponding trace.

The lemmas here build such simulations piece by piece: `bind`, the primitives,
output on one side only, the `while` loop, and more fuel for `x'`.
-/

namespace GdbExplore

variable {N N' α α' β β' : Type}

/-- Results related by `Q`, exceptions equal. -/
def Res.Rel (Q : α' → α → Prop) : Res α' → Res α → Prop
  | .ok a', .ok a => Q a' a
  | .raise e', .raise e => e' = e
  | .outOfFuel, .outOfFuel => True
  | _, _ => False

section
variable (shown' : N' → Bool) (shown : N → Bool) (S : N' → N → Prop)

/-- Whether a reader of the exploration sees an event: a line read, or a node
explored that `shown` keeps. -/
def Event.seen : Event N → Bool
  | .print _ => false
  | .read _ _ => true
  | .explore _ n _ => shown n

/-- Two seen events tell the same: the same line under the same prompt, or
corresponding nodes explored under the same path with the same `is_child`. -/
def Event.Corr : Event N' → Event N → Prop
  | .read p' l', .read p l => p' = p ∧ l' = l
  | .explore p' n' c', .explore p n c => p' = p ∧ S n' n ∧ c' = c
  | _, _ => False

/-- `r'` ends as `r` does, reads as many lines, and shows the same. -/
def Run.Corr (Q : α' → α → Prop) (r' : Run N' α') (r : Run N α) : Prop :=
  Res.Rel Q r'.res r.res ∧ r'.used = r.used ∧
    List.Forall₂ (Event.Corr S) (r'.trace.filter (Event.seen shown'))
      (r.trace.filter (Event.seen shown))

/-- Wherever `x` finishes, `x'` finishes too and shows the same. -/
def Ex.Sim (Q : α' → α → Prop) (x' : Ex N' α') (x : Ex N α) : Prop :=
  ∀ inp, (x inp).res ≠ .outOfFuel → Run.Corr shown' shown S Q (x' inp) (x inp)

variable {shown' shown S}

namespace Ex.Sim

theorem bind {Q : α' → α → Prop} {Q₂ : β' → β → Prop} {x' : Ex N' α'} {x : Ex N α}
    {f' : α' → Ex N' β'} {f : α → Ex N β} (hx : Ex.Sim shown' shown S Q x' x)
    (hf : ∀ a' a, Q a' a → Ex.Sim shown' shown S Q₂ (f' a') (f a)) :
    Ex.Sim shown' shown S Q₂ (x' >>= f') (x >>= f) := by
  intro inp hfin
  simp only [Ex.bind_apply] at hfin ⊢
  rcases hr : x inp with ⟨a | e | _, u, tr⟩ <;> rw [hr] at hfin
  · have hc := hx inp (by rw [hr]; simp)
    rw [hr] at hc
    rcases hr' : x' inp with ⟨a' | e' | _, u', tr'⟩ <;> rw [hr'] at hc <;>
      obtain ⟨hres, hused, htr⟩ := hc <;> simp only [Res.Rel] at hres
    · cases hused
      obtain ⟨hres₂, hused₂, htr₂⟩ := hf a' a hres _ hfin
      exact ⟨hres₂, by simp [hused₂], by
        simpa only [Run.next_ok, List.filter_append] using List.rel_append htr htr₂⟩
  · have hc := hx inp (by rw [hr]; simp)
    rw [hr] at hc
    rcases hr' : x' inp with ⟨a' | e' | _, u', tr'⟩ <;> rw [hr'] at hc <;>
      obtain ⟨hres, hused, htr⟩ := hc <;> simp only [Res.Rel] at hres
    exact ⟨hres, hused, htr⟩
  · exact absurd rfl hfin

/-- A run that never finishes is simulated by any. -/
theorem of_outOfFuel {Q : α' → α → Prop} {x' : Ex N' α'} {x : Ex N α}
    (h : ∀ inp, (x inp).res = .outOfFuel) : Ex.Sim shown' shown S Q x' x :=
  fun inp hfin => absurd (h inp) hfin

theorem pure {Q : α' → α → Prop} {a' : α'} {a : α} (h : Q a' a) :
    Ex.Sim shown' shown S Q (Pure.pure a') (Pure.pure a) :=
  fun _ _ => ⟨h, rfl, .nil⟩

theorem say (s' s : String) :
    Ex.Sim shown' shown S Eq (GdbExplore.say s') (GdbExplore.say s) :=
  fun _ _ => ⟨rfl, rfl, by simp [Event.seen]⟩

theorem rawInput (prompt : String) :
    Ex.Sim shown' shown S Eq (GdbExplore.rawInput prompt) (GdbExplore.rawInput prompt) := by
  intro inp _
  cases inp
  · exact ⟨rfl, rfl, .nil⟩
  · exact ⟨rfl, rfl, by simp [Event.seen, Event.Corr]⟩

theorem raise {Q : α' → α → Prop} (e : Exc) :
    Ex.Sim shown' shown S Q (GdbExplore.raise e) (GdbExplore.raise e) :=
  fun _ _ => ⟨rfl, rfl, .nil⟩

theorem ofMemory {Q : α' → α → Prop} {o' : Option α'} {o : Option α} (h : Option.Rel Q o' o) :
    Ex.Sim shown' shown S Q (GdbExplore.ofMemory o') (GdbExplore.ofMemory o) := by
  cases h with
  | some h => exact pure h
  | none => exact raise _

theorem mono {Q Q₂ : α' → α → Prop} {x' : Ex N' α'} {x : Ex N α}
    (h : Ex.Sim shown' shown S Q x' x) (hQ : ∀ a' a, Q a' a → Q₂ a' a) :
    Ex.Sim shown' shown S Q₂ x' x := by
  intro inp hfin
  obtain ⟨hres, hused, htr⟩ := h inp hfin
  refine ⟨?_, hused, htr⟩
  revert hres
  rcases (x' inp).res with _ | _ | _ <;> rcases (x inp).res with _ | _ | _ <;>
    simp only [Res.Rel] <;> first | exact hQ _ _ | exact id

theorem returnToParentValuePrompt :
    Ex.Sim shown' shown S Eq Explorer.returnToParentValuePrompt Explorer.returnToParentValuePrompt :=
  (rawInput _).bind fun _ _ _ => pure rfl

theorem returnToEnclosingTypePrompt :
    Ex.Sim shown' shown S Eq Explorer.returnToEnclosingTypePrompt Explorer.returnToEnclosingTypePrompt :=
  (rawInput _).bind fun _ _ _ => pure rfl

/-- The tail of an explorer: `if is_child:` one step, then `return False`. -/
theorem ifChild {x' : Ex N' Unit} {x : Ex N Unit} (hx : Ex.Sim shown' shown S Eq x' x) (c : Bool) :
    Ex.Sim shown' shown S Eq
      (if c = true then x' >>= fun _ => Pure.pure false else Pure.pure () >>= fun _ => Pure.pure false)
      (if c = true then x >>= fun _ => Pure.pure false else Pure.pure () >>= fun _ => Pure.pure false) := by
  cases c
  · exact (pure rfl).bind fun _ _ _ => pure rfl
  · exact hx.bind fun _ _ _ => pure rfl

/-- What only `x'` prints is not seen. -/
theorem say_bind_left {Q : α' → α → Prop} {f' : Unit → Ex N' α'} {x : Ex N α} (s : String)
    (h : Ex.Sim shown' shown S Q (f' ()) x) : Ex.Sim shown' shown S Q (GdbExplore.say s >>= f') x := by
  intro inp hfin
  obtain ⟨hres, hused, htr⟩ := h inp hfin
  exact ⟨by simpa using hres, by simpa using hused, by simpa [Event.seen] using htr⟩

/-- What only `x` prints is not seen. -/
theorem say_bind_right {Q : α' → α → Prop} {x' : Ex N' α'} {f : Unit → Ex N α} (s : String)
    (h : Ex.Sim shown' shown S Q x' (f ())) : Ex.Sim shown' shown S Q x' (GdbExplore.say s >>= f) := by
  intro inp hfin
  obtain ⟨hres, hused, htr⟩ := h inp (by simpa using hfin)
  exact ⟨by simpa using hres, by simpa using hused, by simpa [Event.seen] using htr⟩

/-- A node explored only by `x'`, and not shown, is not seen. -/
theorem emit_bind_left {Q : α' → α → Prop} {f' : Unit → Ex N' α'} {x : Ex N α} {p : String}
    {n' : N'} {c : Bool} (hn : shown' n' = false) (h : Ex.Sim shown' shown S Q (f' ()) x) :
    Ex.Sim shown' shown S Q (emit (.explore p n' c) >>= f') x := by
  intro inp hfin
  obtain ⟨hres, hused, htr⟩ := h inp hfin
  exact ⟨by simpa using hres, by simpa using hused, by simpa [Event.seen, hn] using htr⟩

/-- A node explored only by `x`, and not shown, is not seen. -/
theorem emit_bind_right {Q : α' → α → Prop} {x' : Ex N' α'} {f : Unit → Ex N α} {p : String}
    {n : N} {c : Bool} (hn : shown n = false) (h : Ex.Sim shown' shown S Q x' (f ())) :
    Ex.Sim shown' shown S Q x' (emit (.explore p n c) >>= f) := by
  intro inp hfin
  obtain ⟨hres, hused, htr⟩ := h inp (by simpa using hfin)
  exact ⟨by simpa using hres, by simpa using hused, by simpa [Event.seen, hn] using htr⟩

/-- Corresponding nodes, both shown, explored under the same path and `is_child`. -/
theorem emit_explore {p : String} {n' : N'} {n : N} {c : Bool} (hn' : shown' n' = true)
    (hn : shown n = true) (hS : S n' n) :
    Ex.Sim shown' shown S Eq (emit (.explore p n' c)) (emit (.explore p n c)) :=
  fun _ _ => ⟨rfl, rfl, by simp [Event.seen, hn', hn, Event.Corr, hS]⟩

theorem whileTrue {body' : Ex N' Bool} {body : Ex N Bool} (hb : Ex.Sim shown' shown S Eq body' body) :
    ∀ {m m' : ℕ}, m ≤ m' →
      Ex.Sim shown' shown S Eq (GdbExplore.whileTrue body' m') (GdbExplore.whileTrue body m)
  | 0, _, _ => fun _ h => absurd rfl h
  | m + 1, m' + 1, h => by
    rw [whileTrue_succ, whileTrue_succ]
    refine hb.bind fun b' b hb' => ?_
    subst hb'
    cases b'
    · exact pure rfl
    · exact whileTrue hb (by omega)

end Ex.Sim

/-- More fuel for the run that simulates. -/
theorem Ex.Le.sim {Q : α' → α → Prop} {x' y' : Ex N' α'} {x : Ex N α} (hle : x'.Le y')
    (h : Ex.Sim shown' shown S Q x' x) : Ex.Sim shown' shown S Q y' x := by
  intro inp hfin
  have hc := h inp hfin
  have hx' : (x' inp).res ≠ .outOfFuel := by
    intro h'
    have hr := hc.1
    rw [h'] at hr
    rcases hx : (x inp).res with _ | _ | _ <;> rw [hx] at hr hfin <;> simp only [Res.Rel] at hr
    exact hfin rfl
  rwa [hle inp hx']

end

end GdbExplore
