import Mathlib.Data.List.Basic

/-!
# The gdb interface the explorer uses

`explore.py` reaches the inspected program only through gdb's Python API. A
`gdb.Type` has a `code`, a printed form `str(t)`, a `target()`, `fields()` and
`strip_typedefs()`. A `gdb.Value` has a `type`, a printed form `str(v)`, and
`dereference()`, `v[i]`, `v[name]`, `cast(t)` and `referenced_value()`, each of
which may raise `gdb.MemoryError` when it touches memory gdb cannot read.

Both are outside the source, so they are modelled as data: a `TypeGraph` over
any type of handles, cycles allowed (Go's `type T *T` is its own pointee), and a
`ValueGraph` over it, cyclic data allowed. A value graph keeps the two laws the
explorer's pass-through steps rely on: a cast has the type it was cast to, and
a referenced value has the reference's target type.

`int(line)`, with which both index prompts read a number, is Python's; `pyInt`
models it on ASCII text.
-/

namespace GdbExplore

/-- The `gdb.TYPE_CODE_*` constants the explorer tells apart. -/
inductive TypeCode where
  /-- `TYPE_CODE_CHAR`. -/
  | char
  /-- `TYPE_CODE_INT`. -/
  | int
  /-- `TYPE_CODE_BOOL`. -/
  | bool
  /-- `TYPE_CODE_FLT`. -/
  | flt
  /-- `TYPE_CODE_VOID`. -/
  | void
  /-- `TYPE_CODE_ENUM`. -/
  | enum
  /-- `TYPE_CODE_STRUCT`, also for classes. -/
  | struct
  /-- `TYPE_CODE_UNION`. -/
  | union
  /-- `TYPE_CODE_PTR`. -/
  | ptr
  /-- `TYPE_CODE_REF`. -/
  | ref
  /-- `TYPE_CODE_RVALUE_REF`. -/
  | rvalueRef
  /-- `TYPE_CODE_TYPEDEF`. -/
  | typedef
  /-- `TYPE_CODE_ARRAY`. -/
  | array
  /-- Any other of gdb's codes (functions, methods, ranges, ...), numbered. -/
  | other (k : ℕ)
  deriving DecidableEq, Repr

/-- A `gdb.Field` of a struct, class or union type. `name` is `None` for an
anonymous member, such as a C11 anonymous union. -/
structure Field (T : Type) where
  /-- `field.name`. -/
  name : Option String
  /-- `field.type`. -/
  type : T
  /-- `field.artificial`: made up by the compiler, such as a vtable pointer. -/
  artificial : Bool
  /-- `field.is_base_class`. -/
  isBaseClass : Bool
  deriving DecidableEq, Repr

/-- The `gdb.Type` handles of the inspected program, and what the explorer asks of them. -/
structure TypeGraph (T : Type) where
  /-- `t.code`. -/
  code : T → TypeCode
  /-- `str(t)`. -/
  name : T → String
  /-- `t.target()`: the pointee, referent, element or aliased type. -/
  target : T → T
  /-- `t.fields()`, in declaration order. -/
  fields : T → List (Field T)
  /-- `t.strip_typedefs()`. -/
  stripTypedefs : T → T

/-- The `gdb.Value` handles of the inspected program over the types `G`. Every
operation that reads memory gives `none` where it raises `gdb.MemoryError`. -/
structure ValueGraph {T : Type} (G : TypeGraph T) (V : Type) where
  /-- `v.type`. -/
  type : V → T
  /-- `str(v)`. -/
  str : V → Option String
  /-- `v.dereference()`. -/
  dereference : V → Option V
  /-- `v[i]`, for an integer `i`. -/
  getitem : V → ℤ → Option V
  /-- `v[name]`, for a field name. -/
  getfield : V → String → Option V
  /-- `v.cast(t)`. -/
  cast : V → T → Option V
  /-- `v.referenced_value()`. -/
  referencedValue : V → Option V
  /-- A cast has the type it was cast to. -/
  type_cast : ∀ v t w, cast v t = some w → type w = t
  /-- A referenced value has the reference's target type. -/
  type_referencedValue : ∀ v w, referencedValue v = some w → type w = G.target (type v)

/-- What the commands reach besides the graphs: `gdb.parse_and_eval` and
`gdb.lookup_type`, `none` where they raise `RuntimeError` (of which
`gdb.MemoryError` is one). -/
structure Gdb (T V : Type) where
  /-- The types. -/
  types : TypeGraph T
  /-- The values. -/
  values : ValueGraph types V
  /-- `gdb.parse_and_eval(s)`. -/
  parseAndEval : String → Option V
  /-- `gdb.lookup_type(s)`. -/
  lookupType : String → Option T

/-! ### Python's `int` -/

/-- The value of the decimal digits `cs` after the digits already read into `acc`;
an underscore may stand between two digits. -/
def digitsValue (acc : ℕ) : List Char → Option ℕ
  | [] => some acc
  | '_' :: c :: cs => if c.isDigit then digitsValue (10 * acc + (c.toNat - '0'.toNat)) cs else none
  | c :: cs => if c.isDigit then digitsValue (10 * acc + (c.toNat - '0'.toNat)) cs else none

/-- An unsigned literal of `int()`: a digit, then what `digitsValue` accepts. -/
def decimalValue : List Char → Option ℕ
  | c :: cs => if c.isDigit then digitsValue (c.toNat - '0'.toNat) cs else none
  | [] => none

/-- The whitespace `int()` strips: Python's ASCII whitespace. -/
def isSpace (c : Char) : Bool :=
  c = ' ' || c = '\t' || c = '\n' || c = '\r' || c = '\x0b' || c = '\x0c'

/-- Python's `int(s)` for a string `s`: surrounding whitespace, an optional sign,
then a decimal literal. `none` is the `ValueError` it raises on anything else,
the empty line included. -/
def pyInt (s : String) : Option ℤ :=
  match ((s.data.dropWhile isSpace).reverse.dropWhile isSpace).reverse with
  | '-' :: cs => (decimalValue cs).map fun n => -(n : ℤ)
  | '+' :: cs => (decimalValue cs).map fun n => (n : ℤ)
  | cs => (decimalValue cs).map fun n => (n : ℤ)

/-! ### Python's `str` of a number -/

/-- The number a string of decimal digits denotes. -/
def digitCharsValue (cs : List Char) : ℕ := cs.foldl (fun acc c => 10 * acc + (c.toNat - 48)) 0

theorem toDigitsCore_succ (f n : ℕ) (ds : List Char) :
    Nat.toDigitsCore 10 (f + 1) n ds =
      if n / 10 = 0 then Nat.digitChar (n % 10) :: ds
      else Nat.toDigitsCore 10 f (n / 10) (Nat.digitChar (n % 10) :: ds) :=
  rfl

theorem toDigitsCore_append (f n : ℕ) (ds : List Char) :
    Nat.toDigitsCore 10 f n ds = Nat.toDigitsCore 10 f n [] ++ ds := by
  induction f generalizing n ds with
  | zero => rfl
  | succ f ih =>
    rw [toDigitsCore_succ, toDigitsCore_succ]
    split
    · rfl
    · rw [ih _ (_ :: ds), ih _ [_], List.append_assoc, List.singleton_append]

theorem digitCharsValue_toDigitsCore :
    ∀ f n, n < f → digitCharsValue (Nat.toDigitsCore 10 f n []) = n
  | 0, _, h => absurd h (Nat.not_lt_zero _)
  | f + 1, n, h => by
    have hdigit : ∀ d < 10, (Nat.digitChar d).toNat - 48 = d := by decide
    rw [toDigitsCore_succ]
    split
    · simp [digitCharsValue, hdigit _ (Nat.mod_lt n (by decide))]
      omega
    · rw [toDigitsCore_append, digitCharsValue, List.foldl_append, ← digitCharsValue,
        digitCharsValue_toDigitsCore f (n / 10) (by omega)]
      simp only [List.foldl_cons, List.foldl_nil, hdigit _ (Nat.mod_lt n (by decide))]
      omega

/-- Different numbers print differently, so the field menu's keys are distinct. -/
theorem toString_nat_injective : Function.Injective (toString : ℕ → String) := by
  intro n m h
  have h' : Nat.toDigits 10 n = Nat.toDigits 10 m := congrArg String.data h
  rw [← digitCharsValue_toDigitsCore (n + 1) n (by omega),
    ← digitCharsValue_toDigitsCore (m + 1) m (by omega)]
  exact congrArg digitCharsValue h'

/-- No number prints as the empty line. -/
theorem toString_nat_ne_empty (n : ℕ) : toString n ≠ "" := by
  intro h
  have h' : Nat.toDigitsCore 10 (n + 1) n [] = [] := congrArg String.data h
  rw [toDigitsCore_succ] at h'
  split at h'
  · cases h'
  · rw [toDigitsCore_append] at h'
    simp at h'

theorem toDigitsCore_isDigit : ∀ f n, ∀ c ∈ Nat.toDigitsCore 10 f n [], c.isDigit = true
  | 0, _, c, h => absurd h (List.not_mem_nil c)
  | f + 1, n, c, h => by
    have hdigit : ∀ d < 10, (Nat.digitChar d).isDigit = true := by decide
    rw [toDigitsCore_succ] at h
    split at h
    · rw [List.mem_singleton] at h
      exact h ▸ hdigit _ (Nat.mod_lt n (by decide))
    · rw [toDigitsCore_append, List.mem_append, List.mem_singleton] at h
      rcases h with h | rfl
      · exact toDigitsCore_isDigit f (n / 10) c h
      · exact hdigit _ (Nat.mod_lt n (by decide))

/-! ### `int(str(i))` -/

/-- Digits without underscores are read as `digitCharsValue` reads them. -/
theorem digitsValue_of_isDigit : ∀ (cs : List Char) (acc : ℕ), (∀ c ∈ cs, c.isDigit = true) →
    digitsValue acc cs = some (cs.foldl (fun acc c => 10 * acc + (c.toNat - 48)) acc)
  | [], _, _ => rfl
  | c :: cs, acc, h => by
    have hc := h c (List.mem_cons_self _ _)
    have hne : c ≠ '_' := by rintro rfl; exact absurd hc (by decide)
    have ih := digitsValue_of_isDigit cs (10 * acc + (c.toNat - 48)) fun d hd =>
      h d (List.mem_cons_of_mem _ hd)
    cases cs with
    | nil => simp [digitsValue, hc]
    | cons c' cs' => simp [digitsValue, hne, hc, ih]

theorem decimalValue_toDigitsCore (n : ℕ) :
    decimalValue (Nat.toDigitsCore 10 (n + 1) n []) = some n := by
  have hd := toDigitsCore_isDigit (n + 1) n
  have hv := digitCharsValue_toDigitsCore (n + 1) n (Nat.lt_succ_self n)
  rcases hds : Nat.toDigitsCore 10 (n + 1) n [] with _ | ⟨c, cs⟩
  · exact absurd (String.ext hds) (toString_nat_ne_empty n)
  · rw [hds] at hd hv
    rw [decimalValue, if_pos (hd c (List.mem_cons_self _ _)),
      digitsValue_of_isDigit cs _ fun d h => hd d (List.mem_cons_of_mem _ h), ← hv]
    simp [digitCharsValue]

theorem isSpace_eq_false_of_isDigit {c : Char} (h : c.isDigit = true) : isSpace c = false := by
  rw [Bool.eq_false_iff]
  intro hs
  simp only [isSpace, Bool.or_eq_true, decide_eq_true_eq] at hs
  rcases hs with ((((rfl | rfl) | rfl) | rfl) | rfl) | rfl <;> exact absurd h (by decide)

/-- `int()` strips nothing from text without whitespace. -/
theorem strip_of_forall {cs : List Char} (h : ∀ c ∈ cs, isSpace c = false) :
    ((cs.dropWhile isSpace).reverse.dropWhile isSpace).reverse = cs := by
  have hdrop : ∀ cs : List Char, (∀ c ∈ cs, isSpace c = false) → cs.dropWhile isSpace = cs
    | [], _ => rfl
    | c :: cs, h => by simp [List.dropWhile_cons, h c (List.mem_cons_self _ _)]
  rw [hdrop cs h, hdrop _ fun c hc => h c (List.mem_reverse.1 hc), List.reverse_reverse]

/-- `int(str(i)) == i`: an index prompt reads every index back from the text that names it. -/
theorem pyInt_toString (i : ℤ) : pyInt (toString i) = some i := by
  rcases i with m | m
  · have hd := toDigitsCore_isDigit (m + 1) m
    have hs : (toString (Int.ofNat m)).data = Nat.toDigitsCore 10 (m + 1) m [] := rfl
    unfold pyInt
    rw [hs, strip_of_forall fun c hc => isSpace_eq_false_of_isDigit (hd c hc)]
    have hv := decimalValue_toDigitsCore m
    rcases hds : Nat.toDigitsCore 10 (m + 1) m [] with _ | ⟨c, cs⟩
    · rw [hds] at hv
      cases hv
    · rw [hds] at hd hv
      have hc := hd c (List.mem_cons_self _ _)
      split
      next heq => cases heq; exact absurd hc (by decide)
      next heq => cases heq; exact absurd hc (by decide)
      next => rw [hv]; rfl
  · have hd := toDigitsCore_isDigit (m + 1 + 1) (m + 1)
    have hs : (toString (Int.negSucc m)).data = '-' :: Nat.toDigitsCore 10 (m + 1 + 1) (m + 1) [] :=
      rfl
    have hspace : ∀ c ∈ (toString (Int.negSucc m)).data, isSpace c = false := by
      rw [hs]
      rintro c (_ | ⟨_, hc⟩)
      · rfl
      · exact isSpace_eq_false_of_isDigit (hd c hc)
    unfold pyInt
    rw [strip_of_forall hspace, hs]
    simp only [decimalValue_toDigitsCore]
    rfl

theorem pyInt_empty : pyInt "" = none := rfl

example : pyInt " -1_0 " = some (-10) := by decide

example : pyInt "q" = none := by decide

end GdbExplore
