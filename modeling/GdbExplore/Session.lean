import GdbExplore.Gdb

/-!
# Sessions: what a run of the explorer reads, prints and raises

An exploration is a conversation: the explorer prints, blocks in `raw_input`
for the user's next line, and recurses into the parts of the node the user
picks. A piece of the explorer is modelled as an `Ex N α`: given the lines the
user will still type, it gives a `Run`, that is how it ended (a value, a Python
exception, or, for the model only, the fuel spent), how many lines it read, and
its trace of events. The trace also records, as a `explore` event that is not
printed, every call of `Explorer.explore_expr` or `Explorer.explore_type`, so
that what is explored, under which path and with which `is_child`, can be
stated.

Recursion and `while` loops are bounded by fuel. `Ex.Le` says that a run given
more fuel finishes as the first one did wherever that one finished; `Run.Ends`
says that a run finished, by returning or by raising one of the allowed
exceptions.
-/

namespace GdbExplore

/-- The exceptions a run of the explorer can end with. -/
inductive Exc where
  /-- `EOFError`: `raw_input` found no line left. -/
  | eof
  /-- `gdb.MemoryError`: gdb could not read the inspected program's memory. -/
  | memoryError
  /-- `TypeError`, with Python's message. -/
  | typeError (msg : String)
  /-- `IndexError`, with Python's message. -/
  | indexError (msg : String)
  /-- `gdb.GdbError`, raised by a command with its message. -/
  | gdbError (msg : String)
  deriving DecidableEq, Repr

/-- One step of what a run shows, for nodes (values or types) of type `N`. -/
inductive Event (N : Type) where
  /-- `print(text)`. -/
  | print (text : String)
  /-- `raw_input(prompt)` returned `line`. -/
  | read (prompt line : String)
  /-- A call `Explorer.explore_expr(path, node, is_child)` (or `explore_type`):
  not printed, recorded so that what is explored can be stated. -/
  | explore (path : String) (node : N) (isChild : Bool)
  deriving DecidableEq, Repr

/-- How a piece of the explorer ended. -/
inductive Res (α : Type) where
  /-- It returned `a`. -/
  | ok (a : α)
  /-- It raised `e`. -/
  | raise (e : Exc)
  /-- The fuel ran out: the model only, never the program. -/
  | outOfFuel
  deriving DecidableEq, Repr

/-- A run: how it ended, how many input lines it read, and what it showed. -/
structure Run (N α : Type) where
  /-- How it ended. -/
  res : Res α
  /-- The number of input lines it read. -/
  used : ℕ
  /-- Its events, in order. -/
  trace : List (Event N)
  deriving DecidableEq, Repr

/-- A piece of the explorer, run on the lines the user will still type. -/
def Ex (N α : Type) : Type := List String → Run N α

variable {N α β γ : Type}

/-- Go on with `f` after the run `r`, which started on the input `inp`. -/
def Run.next (r : Run N α) (f : α → Ex N β) (inp : List String) : Run N β :=
  match r with
  | ⟨.ok a, u, tr⟩ =>
    let r' := f a (inp.drop u)
    ⟨r'.res, u + r'.used, tr ++ r'.trace⟩
  | ⟨.raise e, u, tr⟩ => ⟨.raise e, u, tr⟩
  | ⟨.outOfFuel, u, tr⟩ => ⟨.outOfFuel, u, tr⟩

instance : Monad (Ex N) where
  pure a := fun _ => ⟨.ok a, 0, []⟩
  bind x f := fun inp => (x inp).next f inp

@[simp] theorem Ex.pure_apply (a : α) (inp : List String) :
    (pure a : Ex N α) inp = ⟨.ok a, 0, []⟩ := rfl

@[simp] theorem Ex.bind_apply (x : Ex N α) (f : α → Ex N β) (inp : List String) :
    (x >>= f) inp = (x inp).next f inp := rfl

@[simp] theorem Run.next_ok (a : α) (u : ℕ) (tr : List (Event N)) (f : α → Ex N β)
    (inp : List String) :
    Run.next ⟨.ok a, u, tr⟩ f inp =
      ⟨(f a (inp.drop u)).res, u + (f a (inp.drop u)).used, tr ++ (f a (inp.drop u)).trace⟩ :=
  rfl

@[simp] theorem Run.next_raise (e : Exc) (u : ℕ) (tr : List (Event N)) (f : α → Ex N β)
    (inp : List String) : Run.next ⟨.raise e, u, tr⟩ f inp = ⟨.raise e, u, tr⟩ := rfl

@[simp] theorem Run.next_outOfFuel (u : ℕ) (tr : List (Event N)) (f : α → Ex N β)
    (inp : List String) : Run.next ⟨.outOfFuel, u, tr⟩ f inp = ⟨.outOfFuel, u, tr⟩ := rfl

/-- `pure` is a left unit of the session monad. -/
theorem Ex.pure_bind (a : α) (f : α → Ex N β) : (pure a >>= f) = f a := by
  funext inp
  simp only [Ex.bind_apply, Ex.pure_apply, Run.next_ok, List.drop_zero, Nat.zero_add,
    List.nil_append]

/-- The session monad is associative. -/
theorem Ex.bind_assoc (x : Ex N α) (f : α → Ex N β) (g : β → Ex N γ) :
    x >>= f >>= g = x >>= fun a => f a >>= g := by
  funext inp
  simp only [Ex.bind_apply]
  rcases x inp with ⟨a | e | _, u, tr⟩
  · simp only [Run.next_ok]
    rcases hf : f a (inp.drop u) with ⟨b | e | _, u', tr'⟩ <;>
      simp [Run.next, hf, List.drop_drop, Nat.add_comm u u']
    omega
  · rfl
  · rfl

/-- Returning nothing after a run that returns nothing changes nothing. -/
theorem Ex.bind_pure_unit (x : Ex N Unit) : (x >>= fun _ => pure ()) = x := by
  funext inp
  simp only [Ex.bind_apply]
  rcases x inp with ⟨_ | e | _, u, tr⟩ <;> simp [Run.next]

/-! ### The primitives -/

/-- `print(text)`. -/
def say (text : String) : Ex N Unit := fun _ => ⟨.ok (), 0, [.print text]⟩

/-- `raw_input(prompt)`: the next line, or `EOFError` when none is left. -/
def rawInput (prompt : String) : Ex N String
  | [] => ⟨.raise .eof, 0, []⟩
  | line :: _ => ⟨.ok line, 1, [.read prompt line]⟩

/-- `raise e`. -/
def raise (e : Exc) : Ex N α := fun _ => ⟨.raise e, 0, []⟩

/-- A gdb call that reads memory: its result, or `gdb.MemoryError`. -/
def ofMemory : Option α → Ex N α
  | some a => pure a
  | none => raise .memoryError

/-- A Python computation that prints and reads nothing. -/
def ofExcept : Except Exc α → Ex N α
  | .ok a => pure a
  | .error e => raise e

/-- Record an event that is not printed. -/
def emit (e : Event N) : Ex N Unit := fun _ => ⟨.ok (), 0, [e]⟩

/-- The fuel is spent. -/
def outOfFuel : Ex N α := fun _ => ⟨.outOfFuel, 0, []⟩

/-- `while body(): pass`, for at most `n` rounds. -/
def whileTrue (body : Ex N Bool) : ℕ → Ex N Unit
  | 0 => outOfFuel
  | n + 1 => body >>= fun b => if b then whileTrue body n else pure ()

@[simp] theorem say_apply (text : String) (inp : List String) :
    (say text : Ex N Unit) inp = ⟨.ok (), 0, [.print text]⟩ := rfl

@[simp] theorem rawInput_nil (prompt : String) :
    (rawInput prompt : Ex N String) [] = ⟨.raise .eof, 0, []⟩ := rfl

@[simp] theorem rawInput_cons (prompt line : String) (rest : List String) :
    (rawInput prompt : Ex N String) (line :: rest) = ⟨.ok line, 1, [.read prompt line]⟩ := rfl

@[simp] theorem raise_apply (e : Exc) (inp : List String) :
    (raise e : Ex N α) inp = ⟨.raise e, 0, []⟩ := rfl

@[simp] theorem ofMemory_some (a : α) : (ofMemory (some a) : Ex N α) = pure a := rfl

@[simp] theorem ofMemory_none : (ofMemory none : Ex N α) = raise .memoryError := rfl

@[simp] theorem ofExcept_ok (a : α) : (ofExcept (.ok a) : Ex N α) = pure a := rfl

@[simp] theorem ofExcept_error (e : Exc) : (ofExcept (.error e) : Ex N α) = raise e := rfl

/-- A computation that prints and reads nothing, peeled one step at a time. -/
theorem except_bind_eq_ok {ε : Type} {x : Except ε α} {f : α → Except ε β} {b : β} :
    x >>= f = .ok b ↔ ∃ a, x = .ok a ∧ f a = .ok b := by
  cases x <;> simp [bind, Except.bind]

theorem except_bind_eq_error {ε : Type} {x : Except ε α} {f : α → Except ε β} {e : ε} :
    x >>= f = .error e ↔ x = .error e ∨ ∃ a, x = .ok a ∧ f a = .error e := by
  cases x <;> simp [bind, Except.bind]

@[simp] theorem emit_apply (e : Event N) (inp : List String) :
    (emit e : Ex N Unit) inp = ⟨.ok (), 0, [e]⟩ := rfl

@[simp] theorem outOfFuel_apply (inp : List String) :
    (outOfFuel : Ex N α) inp = ⟨.outOfFuel, 0, []⟩ := rfl

theorem whileTrue_zero (body : Ex N Bool) : whileTrue body 0 = outOfFuel := rfl

theorem whileTrue_succ (body : Ex N Bool) (n : ℕ) :
    whileTrue body (n + 1) = body >>= fun b => if b then whileTrue body n else pure () := rfl

/-! ### More fuel -/

/-- `x.Le y`: wherever `x` finishes, `y` finishes the same way, as `x` run with
more fuel does. -/
def Ex.Le (x y : Ex N α) : Prop := ∀ inp, (x inp).res ≠ .outOfFuel → y inp = x inp

theorem Ex.Le.refl (x : Ex N α) : x.Le x := fun _ _ => rfl

theorem Ex.Le.trans {x y z : Ex N α} (hxy : x.Le y) (hyz : y.Le z) : x.Le z := fun inp h => by
  rw [hyz inp (by rwa [hxy inp h]), hxy inp h]

theorem Ex.Le.bind {x x' : Ex N α} {f f' : α → Ex N β} (hx : x.Le x')
    (hf : ∀ a, (f a).Le (f' a)) : (x >>= f).Le (x' >>= f') := by
  intro inp h
  simp only [Ex.bind_apply] at h ⊢
  rcases hr : x inp with ⟨a | e | _, u, tr⟩ <;> rw [hr] at h
  · rw [hx inp (by simp [hr]), hr]
    simp only [Run.next_ok] at h ⊢
    rw [hf a _ h]
  · rw [hx inp (by simp [hr]), hr]
    rfl
  · exact absurd rfl h

theorem whileTrue_le_of_le {body body' : Ex N Bool} (hb : body.Le body') :
    ∀ {k k' : ℕ}, k ≤ k' → (whileTrue body k).Le (whileTrue body' k')
  | 0, _, _ => fun _ h => absurd rfl h
  | k + 1, k' + 1, h => by
    rw [whileTrue_succ, whileTrue_succ]
    refine hb.bind fun b => ?_
    cases b
    · exact .refl _
    · exact whileTrue_le_of_le hb (by omega)

/-! ### Finishing -/

/-- The run `r` finished: it returned, or it raised an exception `P` allows. -/
def Run.Ends (P : Exc → Prop) (r : Run N α) : Prop :=
  match r.res with
  | .ok _ => True
  | .raise e => P e
  | .outOfFuel => False

theorem Run.Ends.ne_outOfFuel {P : Exc → Prop} {r : Run N α} (h : r.Ends P) :
    r.res ≠ .outOfFuel := by
  rintro hr
  simp [Run.Ends, hr] at h

theorem Run.Ends.next {P : Exc → Prop} {r : Run N α} {f : α → Ex N β} {inp : List String}
    (hr : r.Ends P) (hf : ∀ a, r.res = .ok a → (f a (inp.drop r.used)).Ends P) :
    (r.next f inp).Ends P := by
  rcases r with ⟨a | e | _, u, tr⟩
  · exact hf a rfl
  · exact hr
  · exact hr

theorem Run.ends_next_ok {P : Exc → Prop} {a : α} {u : ℕ} {tr : List (Event N)}
    {f : α → Ex N β} {inp : List String} :
    (Run.next ⟨.ok a, u, tr⟩ f inp).Ends P ↔ (f a (inp.drop u)).Ends P := Iff.rfl

/-- What follows a run with `pure b` returns `b`, if anything. -/
theorem Run.res_next_pure {r : Run N α} {a b : β} {inp : List String}
    (h : (r.next (fun _ => pure b) inp).res = .ok a) : a = b := by
  rcases r with ⟨_ | _ | _, u, tr⟩ <;> simp at h
  exact h.symm

/-- A run's trace is its first part's, then what follows if that part returned. -/
theorem Run.trace_next (r : Run N α) (f : α → Ex N β) (inp : List String) :
    (r.next f inp).trace = r.trace ++ match r.res with
      | .ok a => (f a (inp.drop r.used)).trace
      | _ => [] := by
  rcases r with ⟨_ | _ | _, u, tr⟩ <;> simp [Run.next]

/-- What follows a run that ran out of fuel runs out of fuel too. -/
theorem Run.next_res_outOfFuel {r : Run N α} {f : α → Ex N β} {inp : List String}
    (h : r.res = .outOfFuel) : (r.next f inp).res = .outOfFuel := by
  obtain ⟨res, u, tr⟩ := r
  cases h
  rfl

theorem Ex.Le.ends {P : Exc → Prop} {x y : Ex N α} {inp : List String} (hxy : x.Le y)
    (h : (x inp).Ends P) : (y inp).Ends P := by
  rwa [hxy inp h.ne_outOfFuel]

end GdbExplore
