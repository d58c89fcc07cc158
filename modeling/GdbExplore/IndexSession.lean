import GdbExplore.Fuel

/-!
# Arrays, and pointers explored as arrays

`ArrayExplorer.explore_expr` reads one index per call and asks the dispatcher to
call it again; `PointerExplorer.explore_expr`, answered "n" then "y", runs a
`while True:` loop of its own. Both are meant to run one index session: read an
index, stop at a line that is not an integer, report and skip an unreadable
element, explore a readable one as the child `guard_expr(expr)[i]`. That session
is `indexSession`; its flag `pause` says whether it waits for enter after an
unreadable element, which only `ArrayExplorer` does.

Runs are compared up to what they print (`Run.observed`): the same end, the
same lines read under the same prompts, the same children explored, in order.

## What is proved

* `indexSession_refinement`: the array, repeated, is the session that pauses; the
  pointer's loop is the session that does not, where `value[index]` can be
  fetched (gdb raises `gdb.MemoryError` there otherwise, outside any `try`). Over
  the same elements, readable or not, the two agree on every input on which no
  round types the index of an unreadable element (`Ex.roundsAvoid`).
* `exploreExpr_arr_pause`: where a round does, they part: the array takes the
  next line for the enter it waits for.
-/

namespace GdbExplore

variable {N α β : Type}

/-! ### Runs that differ only in what they print -/

/-- Whether an event is a `print`. -/
def Event.isPrint : Event N → Bool
  | .print _ => true
  | _ => false

/-- What a run shows besides its prints: how it ended, the lines it read, and its
reads and explorations in order. -/
def Run.observed (r : Run N α) : Res α × ℕ × List (Event N) :=
  (r.res, r.used, r.trace.filter fun e => !e.isPrint)

/-- Runs that agree up to prints, each followed by runs that agree up to prints from
where it stopped reading, agree up to prints. -/
theorem Run.observed_next {r r' : Run N α} {f f' : α → Ex N β} {inp : List String}
    (h : r.observed = r'.observed)
    (hf : ∀ a, r.res = .ok a → (f a (inp.drop r.used)).observed = (f' a (inp.drop r.used)).observed) :
    (r.next f inp).observed = (r'.next f' inp).observed := by
  rcases r with ⟨a | e | _, u, tr⟩ <;> rcases r' with ⟨a' | e' | _, u', tr'⟩ <;>
    simp only [Run.observed, Prod.mk.injEq] at h <;> obtain ⟨hres, rfl, htr⟩ := h <;> cases hres
  · have := hf a rfl
    simp only [Run.observed, Prod.mk.injEq] at this ⊢
    simp only [Run.next_ok, List.filter_append, htr, this, and_self]
  all_goals simp [Run.observed, htr]

/-- Whether no round of `whileTrue body n`, run on `inp`, begins on input that `bad`
flags. -/
def Ex.roundsAvoid (body : Ex N Bool) (bad : List String → Bool) : ℕ → List String → Bool
  | 0, _ => true
  | n + 1, inp => !bad inp && match body inp with
    | ⟨.ok true, u, _⟩ => Ex.roundsAvoid body bad n (inp.drop u)
    | _ => true

/-- Loops whose bodies agree up to prints on every input that `bad` does not flag
agree up to prints on every input none of whose rounds begins where `bad` flags. -/
theorem Ex.whileTrue_observed {body body' : Ex N Bool} {bad : List String → Bool}
    (h : ∀ inp, bad inp = false → (body inp).observed = (body' inp).observed) :
    ∀ n inp, Ex.roundsAvoid body' bad n inp = true →
      (whileTrue body n inp).observed = (whileTrue body' n inp).observed
  | 0, _, _ => rfl
  | n + 1, inp, hr => by
    simp only [Ex.roundsAvoid, Bool.and_eq_true, Bool.not_eq_true'] at hr
    have hb := h inp hr.1
    rw [whileTrue_succ, whileTrue_succ, Ex.bind_apply, Ex.bind_apply]
    refine Run.observed_next hb fun b hres => ?_
    cases b
    · rfl
    simp only [Run.observed, Prod.mk.injEq] at hb
    obtain ⟨hres', hused, -⟩ := hb
    rcases hr' : body' inp with ⟨res, u, tr⟩
    rw [hr'] at hres' hused hr
    rw [hres] at hres'
    subst hres' hused
    exact Ex.whileTrue_observed h n _ hr.2

/-- `x` and `y` differ at most in what they print. -/
def Ex.EqUpToPrints (x y : Ex N α) : Prop := ∀ inp, (x inp).observed = (y inp).observed

namespace Ex.EqUpToPrints

theorem refl (x : Ex N α) : x.EqUpToPrints x := fun _ => rfl

theorem symm {x y : Ex N α} (h : x.EqUpToPrints y) : y.EqUpToPrints x := fun inp => (h inp).symm

theorem trans {x y z : Ex N α} (h : x.EqUpToPrints y) (h' : y.EqUpToPrints z) : x.EqUpToPrints z :=
  fun inp => (h inp).trans (h' inp)

/-- Runs that agree up to prints, followed by runs that do, agree up to prints. -/
theorem bind {x x' : Ex N α} {f f' : α → Ex N β} (hx : x.EqUpToPrints x')
    (hf : ∀ a, (f a).EqUpToPrints (f' a)) : (x >>= f).EqUpToPrints (x' >>= f') :=
  fun inp => Run.observed_next (hx inp) fun a _ => hf a _

/-- A print can be left out. -/
theorem say_bind (s : String) (f : Unit → Ex N β) : (say s >>= f).EqUpToPrints (f ()) := by
  intro inp
  simp [Run.observed, Event.isPrint]

/-- Loops whose bodies agree up to prints agree up to prints. -/
theorem whileTrue {body body' : Ex N Bool} (h : body.EqUpToPrints body') :
    ∀ n, (GdbExplore.whileTrue body n).EqUpToPrints (GdbExplore.whileTrue body' n)
  | 0 => refl _
  | n + 1 => bind h fun b => by
    cases b
    · exact refl _
    · exact whileTrue h n

end Ex.EqUpToPrints

/-! ### The index session -/

variable {T V : Type} (G : TypeGraph T) (H : ValueGraph G V)

/-- The index session both explorers are meant to run: read an index, stop at a
line that is not an integer, report and skip an unreadable element (waiting for
enter if `pause`), and explore a readable one as the child `g[i]`. `true` asks for
another round. -/
def indexSession (pause : Bool) (explore : String → V → Bool → Ex V Unit) (expr g : String)
    (element : ℤ → Option V) : Ex V Bool := do
  let line ← rawInput ("Enter the index of the element you want to explore in '" ++ expr ++ "': ")
  match pyInt line with
  | none => pure false
  | some index =>
    match element index with
    | none =>
      say ("Cannot read value at index " ++ toString index ++ ".")
      if pause then
        let _ ← rawInput "Press enter to continue... "
      pure true
    | some w =>
      explore (g ++ "[" ++ toString index ++ "]") w true
      pure true

/-- Whether `inp` begins with an integer line naming an element that `element` does
not give: the line a round of the session reads first, read as an index. -/
def typesUnreadable (element : ℤ → Option V) : List String → Bool
  | line :: _ => match pyInt line with
    | some index => (element index).isNone
    | none => false
  | [] => false

/-- Runs that read a line first agree where their continuations agree on the line
they read. -/
theorem rawInput_bind_congr {prompt : String} {f f' : String → Ex N β} {inp : List String}
    (h : ∀ line rest, inp = line :: rest → f line = f' line) :
    (rawInput prompt >>= f) inp = (rawInput prompt >>= f') inp := by
  rcases inp with _ | ⟨line, rest⟩
  · rfl
  · simp only [Ex.bind_apply, rawInput_cons, Run.next_ok, h line rest rfl]

variable {e : String → V → Bool → Ex V Unit} {expr g : String}

/-- One call of `ArrayExplorer.explore_expr` is a round of the session that pauses. -/
theorem ArrayExplorer.exploreExpr_eqUpToPrints (hg : guardExpr expr = .ok g) (a : V)
    (isChild : Bool) :
    (ArrayExplorer.exploreExpr G H e expr a isChild).EqUpToPrints
      (indexSession true e expr g fun i => H.readable (H.getitem a i)) := by
  unfold ArrayExplorer.exploreExpr indexSession
  refine (Ex.EqUpToPrints.say_bind _ _).trans (.bind (.refl _) fun line => ?_)
  rcases pyInt line with _ | i
  · cases isChild
    · simp only [Bool.false_eq_true, if_false, Ex.pure_bind]
      exact .refl _
    · exact Ex.EqUpToPrints.say_bind _ _
  · rcases hw : H.readable (H.getitem a i) with _ | w
    · simp only [hw, if_true, Ex.pure_bind]
      exact .refl _
    · simp only [hw, hg, ofExcept_ok, Ex.pure_bind]
      exact .refl _

/-- A round of the pointer's array loop is a round of the session that does not
pause, on an input whose first line, read as an index, names an element that
`value[index]` fetches. -/
theorem PointerExplorer.indexStep_apply (hg : guardExpr expr = .ok g) (p : V) {inp : List String}
    (hfetch : ∀ line rest i, inp = line :: rest → pyInt line = some i → H.getitem p i ≠ none) :
    PointerExplorer.indexStep G H e expr p inp =
      indexSession false e expr g (fun i => H.readable (H.getitem p i)) inp := by
  unfold PointerExplorer.indexStep indexSession
  refine rawInput_bind_congr fun line rest hinp => ?_
  rcases hl : pyInt line with _ | i
  · rfl
  · obtain ⟨w, hw⟩ := Option.ne_none_iff_exists'.1 (hfetch line rest i hinp hl)
    rcases hs : H.str w with _ | s <;>
      simp [hg, hw, hs, ValueGraph.readable, Ex.pure_bind]

/-- A round of the pointer's array loop is a round of the session that does not
pause, where `value[index]` can be fetched. -/
theorem PointerExplorer.indexStep_eq_indexSession (hg : guardExpr expr = .ok g) (p : V)
    (hfetch : ∀ i, H.getitem p i ≠ none) :
    PointerExplorer.indexStep G H e expr p =
      indexSession false e expr g fun i => H.readable (H.getitem p i) :=
  funext fun _ => PointerExplorer.indexStep_apply G H hg p fun _ _ i _ _ => hfetch i

/-- The two sessions part only after the index of an unreadable element. -/
theorem indexSession_apply_pause {element : ℤ → Option V} {inp : List String}
    (h : typesUnreadable element inp = false) :
    indexSession true e expr g element inp = indexSession false e expr g element inp := by
  unfold indexSession
  refine rawInput_bind_congr fun line rest hinp => ?_
  subst hinp
  rcases hl : pyInt line with _ | i
  · rfl
  · rcases hw : element i with _ | w
    · simp [typesUnreadable, hl, hw] at h
    · simp only [hw]

/-- A round of the array and a round of the pointer's loop over the same elements
agree up to prints on every input whose first line names no unreadable element. -/
theorem ArrayExplorer.exploreExpr_observed_indexStep (hg : guardExpr expr = .ok g) {a p : V}
    (isChild : Bool) (hsame : ∀ i, H.readable (H.getitem a i) = H.readable (H.getitem p i))
    {inp : List String} (h : typesUnreadable (fun i => H.readable (H.getitem p i)) inp = false) :
    (ArrayExplorer.exploreExpr G H e expr a isChild inp).observed =
      (PointerExplorer.indexStep G H e expr p inp).observed := by
  rw [ArrayExplorer.exploreExpr_eqUpToPrints G H hg a isChild inp, funext hsame,
    indexSession_apply_pause h, PointerExplorer.indexStep_apply G H hg p]
  rintro line rest i rfl hl hnone
  simp [typesUnreadable, hl, hnone, ValueGraph.readable] at h

/-- The array, run again by the dispatcher while it repeats, runs the session that
pauses. -/
theorem ArrayExplorer.repeat_eqUpToPrints (hg : guardExpr expr = .ok g) (a : V) (isChild : Bool)
    (n : ℕ) :
    (whileTrue (ArrayExplorer.exploreExpr G H e expr a isChild) n).EqUpToPrints
      (whileTrue (indexSession true e expr g fun i => H.readable (H.getitem a i)) n) :=
  Ex.EqUpToPrints.whileTrue (ArrayExplorer.exploreExpr_eqUpToPrints G H hg a isChild) n

/-- The pointer's array loop runs the session that does not pause. -/
theorem PointerExplorer.indexLoop_eq_indexSession (hg : guardExpr expr = .ok g) (p : V)
    (hfetch : ∀ i, H.getitem p i ≠ none) (n : ℕ) :
    whileTrue (PointerExplorer.indexStep G H e expr p) n =
      whileTrue (indexSession false e expr g fun i => H.readable (H.getitem p i)) n := by
  rw [PointerExplorer.indexStep_eq_indexSession G H hg p hfetch]

/-- **Arrays and pointers explored as arrays.** For every child explorer: the array,
run again while it repeats, reads and explores as the index session that waits for
enter after an unreadable element; the pointer's array loop is the session that
does not, where `value[index]` can be fetched. So over the same elements, readable
or not, the two agree, up to what they print, on every input on which no round of
the pointer's loop types the index of an unreadable element. -/
theorem indexSession_refinement :
    (∀ (e : String → V → Bool → Ex V Unit) (expr g : String) (a : V) (isChild : Bool) (n : ℕ),
      guardExpr expr = .ok g →
      (whileTrue (ArrayExplorer.exploreExpr G H e expr a isChild) n).EqUpToPrints
        (whileTrue (indexSession true e expr g fun i => H.readable (H.getitem a i)) n)) ∧
    (∀ (e : String → V → Bool → Ex V Unit) (expr g : String) (p : V) (n : ℕ),
      guardExpr expr = .ok g → (∀ i, H.getitem p i ≠ none) →
      whileTrue (PointerExplorer.indexStep G H e expr p) n =
        whileTrue (indexSession false e expr g fun i => H.readable (H.getitem p i)) n) ∧
    (∀ (e : String → V → Bool → Ex V Unit) (expr : String) (a p : V) (isChild : Bool) (n : ℕ)
      (inp : List String), expr ≠ "" →
      (∀ i, H.readable (H.getitem a i) = H.readable (H.getitem p i)) →
      Ex.roundsAvoid (PointerExplorer.indexStep G H e expr p)
        (typesUnreadable fun i => H.readable (H.getitem p i)) n inp = true →
      (whileTrue (ArrayExplorer.exploreExpr G H e expr a isChild) n inp).observed =
        (whileTrue (PointerExplorer.indexStep G H e expr p) n inp).observed) := by
  refine ⟨fun e expr g a isChild n hg => ArrayExplorer.repeat_eqUpToPrints G H hg a isChild n,
    fun e expr g p n hg hfetch => PointerExplorer.indexLoop_eq_indexSession G H hg p hfetch n,
    fun e expr a p isChild n inp hexpr hsame hr => ?_⟩
  obtain ⟨g, hg⟩ := guardExpr_ok hexpr
  exact Ex.whileTrue_observed
    (fun _ h => ArrayExplorer.exploreExpr_observed_indexStep G H hg isChild hsame h) n inp hr

/-! ### An array and a pointer to its first element -/

/-- The types of `int arr[5]; int *p = arr;`. -/
inductive ArrType where
  | arr
  | int
  | intPtr
  deriving DecidableEq, Repr

/-- `int [5]`, `int` and `int *`. -/
def arrTypes : TypeGraph ArrType where
  code | .arr => .array | .int => .int | .intPtr => .ptr
  name | .arr => "int [5]" | .int => "int" | .intPtr => "int *"
  target _ := .int
  fields _ := []
  stripTypedefs t := t

/-- The array `arr`, the pointer `p` to its first element, and the elements. -/
inductive ArrValue where
  | arr
  | p
  | elem (i : ℤ)
  deriving DecidableEq, Repr

/-- `arr[i]` and `p[i]` are the same element, which gdb computes without reading
memory; the one at index 3 is unreadable. -/
def arrValues : ValueGraph arrTypes ArrValue where
  type | .arr => .arr | .p => .intPtr | .elem _ => .int
  str | .elem i => if i = 3 then none else some "0" | _ => some "0x601040 <arr>"
  dereference | .p => some (.elem 0) | _ => none
  getitem
    | .elem _, _ => none
    | _, i => some (.elem i)
  getfield _ _ := none
  cast _ _ := none
  referencedValue _ := none
  type_cast _ _ _ h := nomatch h
  type_referencedValue _ _ h := nomatch h

/-- `arr` and the pointer `p` to its first element, both explored under the path
`arr` with the dispatcher as the child explorer: on the input `4`, enter, `x` no
round types the unreadable index 3. -/
theorem indexSession_refinement_arr :
    guardExpr "arr" = .ok "arr" ∧ (∀ i, arrValues.getitem .p i ≠ none) ∧ "arr" ≠ "" ∧
      (∀ i, arrValues.readable (arrValues.getitem .arr i) =
        arrValues.readable (arrValues.getitem .p i)) ∧
      Ex.roundsAvoid
        (PointerExplorer.indexStep arrTypes arrValues (Explorer.exploreExpr arrTypes arrValues 2) "arr" .p)
        (typesUnreadable fun i => arrValues.readable (arrValues.getitem .p i)) 3 ["4", "", "x"] = true ∧
      (whileTrue (ArrayExplorer.exploreExpr arrTypes arrValues
          (Explorer.exploreExpr arrTypes arrValues 2) "arr" .arr false) 3).EqUpToPrints
        (whileTrue (indexSession true (Explorer.exploreExpr arrTypes arrValues 2) "arr" "arr"
          fun i => arrValues.readable (arrValues.getitem .arr i)) 3) ∧
      whileTrue (PointerExplorer.indexStep arrTypes arrValues
          (Explorer.exploreExpr arrTypes arrValues 2) "arr" .p) 3 =
        whileTrue (indexSession false (Explorer.exploreExpr arrTypes arrValues 2) "arr" "arr"
          fun i => arrValues.readable (arrValues.getitem .p i)) 3 ∧
      (whileTrue (ArrayExplorer.exploreExpr arrTypes arrValues
          (Explorer.exploreExpr arrTypes arrValues 2) "arr" .arr false) 3 ["4", "", "x"]).observed =
        (whileTrue (PointerExplorer.indexStep arrTypes arrValues
          (Explorer.exploreExpr arrTypes arrValues 2) "arr" .p) 3 ["4", "", "x"]).observed := by
  have hg : guardExpr "arr" = .ok "arr" := rfl
  have hfetch : ∀ i, arrValues.getitem .p i ≠ none := fun _ => Option.some_ne_none _
  have hr : Ex.roundsAvoid
      (PointerExplorer.indexStep arrTypes arrValues (Explorer.exploreExpr arrTypes arrValues 2) "arr" .p)
      (typesUnreadable fun i => arrValues.readable (arrValues.getitem .p i)) 3 ["4", "", "x"] = true := by
    decide
  exact ⟨hg, hfetch, by decide, fun _ => rfl, hr,
    (indexSession_refinement arrTypes arrValues).1 _ "arr" "arr" .arr false 3 hg,
    (indexSession_refinement arrTypes arrValues).2.1 _ "arr" "arr" .p 3 hg hfetch,
    (indexSession_refinement arrTypes arrValues).2.2 _ "arr" .arr .p false 3 _ (by decide)
      (fun _ => rfl) hr⟩

/-- The spec's own example: index 3 unreadable, then index 4. The array reads the
line `4` as the enter that its pause waits for, and never explores `arr[4]`; the
pointer reads it as the next index and explores `p[4]`. -/
theorem exploreExpr_arr_pause :
    (Explorer.exploreExpr arrTypes arrValues 4 "arr" .arr false ["3", "4", ""]).trace =
      [.explore "arr" .arr false,
        .print "'arr' is an array of 'int'.",
        .read "Enter the index of the element you want to explore in 'arr': " "3",
        .print "Cannot read value at index 3.",
        .read "Press enter to continue... " "4",
        .print "'arr' is an array of 'int'.",
        .read "Enter the index of the element you want to explore in 'arr': " ""] ∧
    (Explorer.exploreExpr arrTypes arrValues 4 "p" .p false ["n", "y", "3", "4", "", ""]).trace =
      [.explore "p" .p false,
        .print "'p' is a pointer to a value of type 'int'",
        .read "Continue exploring it as a pointer to a single value [y/n]: " "n",
        .read "Continue exploring it as a pointer to an array [y/n]: " "y",
        .read "Enter the index of the element you want to explore in 'p': " "3",
        .print "Cannot read value at index 3.",
        .read "Enter the index of the element you want to explore in 'p': " "4",
        .explore "p[4]" (.elem 4) true,
        .print "'p[4]' is a scalar value of type 'int'.",
        .print "p[4] = 0",
        .read "\nPress enter to return to parent value: " "",
        .print "\nReturning to parent value...\n",
        .read "Enter the index of the element you want to explore in 'p': " ""] := by
  constructor <;> decide

end GdbExplore
