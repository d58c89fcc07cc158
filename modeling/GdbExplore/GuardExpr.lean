import GdbExplore.Session

/-!
# `Explorer.guard_expr`

Before a path is extended to `*e`, `e[i]` or `e.name`, `guard_expr` wraps it in
parentheses unless it is a plain name (characters of `[A-Za-z0-9_]`) or already
begins with `(` and ends with `)`:

    if expr[0] != '(' or expr[length - 1] != ')':
        ... scan for a character outside [A-Za-z0-9_] ...
    return f"({expr})" if guard else expr

`expr[0]` raises `IndexError` on the empty string, so `guardExpr` is fallible.

## What is proved

* `guardExpr_eq_ite_idem`: for a non-empty path, `guard_expr` returns it as it is
  exactly when it begins with `(` and ends with `)` or is a name of
  `[A-Za-z0-9_]`, and in parentheses otherwise; guarding twice guards once.
* `guardExpr_balanced`: for a non-empty string with balanced parentheses that
  does not both begin with `(` and end with `)`, the result is a plain name or a
  single parenthesized group, so an operator appended to it applies to all of it.
* `guardExpr_cast_paren`: the check of the first and last character takes
  `(struct foo *)(buf)`, a cast applied to a parenthesized operand, for one
  group, and returns it unchanged; `(struct foo *)(buf)[2]` then indexes `buf`.
-/

namespace GdbExplore

/-- The test in `guard_expr`'s loop: `c` is none of `_`, `a`..`z`, `A`..`Z`, `0`..`9`. -/
def needsGuard (c : Char) : Bool :=
  c ≠ '_' && !('a' ≤ c && c ≤ 'z') && !('A' ≤ c && c ≤ 'Z') && !('0' ≤ c && c ≤ '9')

/-- `guard_expr`'s `while i < length` loop, over the characters from `i` on:
`true` when it sets `guard` and breaks. -/
def guardScan : List Char → Bool
  | [] => false
  | c :: cs => if needsGuard c then true else guardScan cs

/-- `Explorer.guard_expr(expr)`. -/
def guardExpr (expr : String) : Except Exc String :=
  match expr.data with
  | [] => .error (.indexError "string index out of range")
  | c :: _ =>
    let guard := if c ≠ '(' || expr.data.getLast? ≠ some ')' then guardScan expr.data else false
    .ok (if guard then "(" ++ expr ++ ")" else expr)

theorem guardScan_eq_false_iff (cs : List Char) :
    guardScan cs = false ↔ ∀ c ∈ cs, needsGuard c = false := by
  induction cs with
  | nil => simp [guardScan]
  | cons c cs ih => by_cases h : needsGuard c <;> simp [guardScan, h, ih]

/-- `guard_expr` raises only on the empty string. -/
theorem guardExpr_ok {expr : String} (h : expr ≠ "") : ∃ g, guardExpr expr = .ok g := by
  unfold guardExpr
  rcases hd : expr.data with _ | ⟨c, cs⟩
  · exact absurd (String.ext hd) h
  · exact ⟨_, rfl⟩

/-! ### The closed form -/

/-- The loop's test is exactly "not in `[A-Za-z0-9_]`". -/
theorem needsGuard_eq_false_iff (c : Char) : needsGuard c = false ↔ c.isAlphanum ∨ c = '_' := by
  have hguard : needsGuard c = (c ≠ '_' && !(97 ≤ c.toNat && c.toNat ≤ 122) &&
      !(65 ≤ c.toNat && c.toNat ≤ 90) && !(48 ≤ c.toNat && c.toNat ≤ 57)) := rfl
  have halnum : c.isAlphanum = ((65 ≤ c.toNat && c.toNat ≤ 90 || 97 ≤ c.toNat && c.toNat ≤ 122) ||
      48 ≤ c.toNat && c.toNat ≤ 57) := rfl
  rw [hguard, halnum]
  by_cases h : c = '_'
  · subst h
    decide
  · simp [h]
    omega

/-- A path that begins with `(` and ends with `)` is returned as it is. -/
theorem guardExpr_of_paren {e : String}
    (h : e.data.head? = some '(' ∧ e.data.getLast? = some ')') : guardExpr e = .ok e := by
  unfold guardExpr
  rcases hd : e.data with _ | ⟨c, cs⟩ <;> rw [hd] at h
  · cases h.1
  · obtain ⟨hc, hl⟩ := h
    cases hc
    simp [hd, hl]

/-- Otherwise the loop decides. -/
theorem guardExpr_of_not_paren {e : String} (he : e ≠ "")
    (h : ¬ (e.data.head? = some '(' ∧ e.data.getLast? = some ')')) :
    guardExpr e = .ok (if guardScan e.data then "(" ++ e ++ ")" else e) := by
  unfold guardExpr
  rcases hd : e.data with _ | ⟨c, cs⟩
  · exact absurd (String.ext hd) he
  · rw [hd] at h
    have hg : (c ≠ '(' || (c :: cs).getLast? ≠ some ')') = true := by
      by_cases hc : c = '(' <;> simp_all
    simp only [hg, if_true]

/-- A parenthesized path is returned as it is. -/
theorem guardExpr_wrap (e : String) : guardExpr ("(" ++ e ++ ")") = .ok ("(" ++ e ++ ")") :=
  guardExpr_of_paren ⟨rfl, by
    show ('(' :: (e.data ++ [')'])).getLast? = some ')'
    rw [← List.cons_append, List.getLast?_append]
    simp⟩

/-- **`guard_expr` in closed form**: a non-empty path is returned as it is when it
begins with `(` and ends with `)` or is made of `[A-Za-z0-9_]` only, and in
parentheses otherwise; so guarding twice guards once. -/
theorem guardExpr_eq_ite_idem {e : String} (he : e ≠ "") :
    guardExpr e = .ok (if (e.data.head? = some '(' ∧ e.data.getLast? = some ')') ∨
        ∀ c ∈ e.data, c.isAlphanum ∨ c = '_' then e else "(" ++ e ++ ")") ∧
      (guardExpr e >>= guardExpr) = guardExpr e := by
  by_cases hp : e.data.head? = some '(' ∧ e.data.getLast? = some ')'
  · rw [guardExpr_of_paren hp, if_pos (.inl hp)]
    exact ⟨rfl, guardExpr_of_paren hp⟩
  have hg := guardExpr_of_not_paren he hp
  cases hs : guardScan e.data <;> rw [hs] at hg <;>
    simp only [Bool.false_eq_true, if_false, if_true] at hg
  · have hall : ∀ c ∈ e.data, c.isAlphanum ∨ c = '_' := fun c hc =>
      (needsGuard_eq_false_iff c).1 ((guardScan_eq_false_iff _).1 hs c hc)
    rw [hg, if_pos (.inr hall)]
    exact ⟨rfl, hg⟩
  · have hall : ¬ ∀ c ∈ e.data, c.isAlphanum ∨ c = '_' := fun hall => by
      have := (guardScan_eq_false_iff _).2 fun c hc => (needsGuard_eq_false_iff c).2 (hall c hc)
      rw [hs] at this
      cases this
    rw [hg, if_neg fun h => h.elim hp hall]
    exact ⟨rfl, guardExpr_wrap e⟩

/-- A path with `->` is put in parentheses, once. -/
theorem guardExpr_eq_ite_idem_path :
    "p->next" ≠ "" ∧
      guardExpr "p->next" = .ok (if ("p->next".data.head? = some '(' ∧
          "p->next".data.getLast? = some ')') ∨ ∀ c ∈ "p->next".data, c.isAlphanum ∨ c = '_'
        then "p->next" else "(" ++ "p->next" ++ ")") ∧
      (guardExpr "p->next" >>= guardExpr) = guardExpr "p->next" :=
  ⟨by decide, guardExpr_eq_ite_idem (by decide)⟩
/-! ### Parentheses -/

/-- The number of `(` less the number of `)` in `cs`. -/
def parenDepth : List Char → ℤ
  | [] => 0
  | c :: cs => (if c = '(' then 1 else if c = ')' then -1 else 0) + parenDepth cs

/-- Every prefix of `cs` has at least as many `(` as `)`, and `cs` as many. -/
def Balanced (cs : List Char) : Prop :=
  (∀ k ≤ cs.length, 0 ≤ parenDepth (cs.take k)) ∧ parenDepth cs = 0

/-- `cs` is one parenthesized group: its first character `(` is matched by its
last character `)`, the depth it opens staying above `0` in between. -/
def OneGroup (cs : List Char) : Prop :=
  cs.head? = some '(' ∧ cs.getLast? = some ')' ∧ Balanced cs ∧
    ∀ k < cs.length, 0 < k → 0 < parenDepth (cs.take k)

instance (cs : List Char) : Decidable (Balanced cs) :=
  inferInstanceAs (Decidable (_ ∧ _))

instance (cs : List Char) : Decidable (OneGroup cs) :=
  inferInstanceAs (Decidable (_ ∧ _))

@[simp] theorem parenDepth_nil : parenDepth [] = 0 := rfl

@[simp] theorem parenDepth_cons (c : Char) (cs : List Char) :
    parenDepth (c :: cs) = (if c = '(' then 1 else if c = ')' then -1 else 0) + parenDepth cs :=
  rfl

@[simp] theorem parenDepth_append (cs ds : List Char) :
    parenDepth (cs ++ ds) = parenDepth cs + parenDepth ds := by
  induction cs with
  | nil => simp
  | cons c cs ih => simp only [List.cons_append, parenDepth_cons, ih, Int.add_assoc]

/-- Parentheses around a balanced string make one group. -/
theorem oneGroup_paren {cs : List Char} (h : Balanced cs) : OneGroup ('(' :: (cs ++ [')'])) := by
  obtain ⟨hpre, hall⟩ := h
  have hin : ∀ j ≤ cs.length,
      parenDepth (('(' :: (cs ++ [')'])).take (j + 1)) = 1 + parenDepth (cs.take j) := by
    intro j hj
    rw [List.take_succ_cons, List.take_append_of_le_length hj]
    simp
  refine ⟨rfl, by rw [← List.cons_append, List.getLast?_append]; simp,
    ⟨fun k hk => ?_, by simp [hall]⟩, fun k hk hk0 => ?_⟩
  · rcases k with _ | j
    · simp
    · rcases Nat.lt_or_ge j (cs.length + 1) with hj | hj
      · have := hpre j (by omega)
        rw [hin j (by omega)]
        omega
      · rw [List.take_of_length_le (by simp at hk ⊢; omega)]
        simp [hall]
  · obtain ⟨j, rfl⟩ : ∃ j, k = j + 1 := ⟨k - 1, by omega⟩
    simp only [List.length_cons, List.length_append, List.length_nil] at hk
    have := hpre j (by omega)
    rw [hin j (by omega)]
    omega

/-- **Guarding a balanced expression.** A non-empty string with balanced parentheses
that does not both begin with `(` and end with `)` is guarded to a plain name of
`[A-Za-z0-9_]` or to one parenthesized group. -/
theorem guardExpr_balanced {e s : String} (hb : Balanced e.data)
    (hnot : ¬ (e.data.head? = some '(' ∧ e.data.getLast? = some ')'))
    (h : guardExpr e = .ok s) : (∀ c ∈ s.data, needsGuard c = false) ∨ OneGroup s.data := by
  have he : e ≠ "" := by
    rintro rfl
    cases h
  rw [guardExpr_of_not_paren he hnot, Except.ok.injEq] at h
  subst h
  cases hs : guardScan e.data
  · exact .inl (by simpa [hs] using (guardScan_eq_false_iff _).mp hs)
  · exact .inr (by simpa [hs] using oneGroup_paren hb)

/-- `a+b` is guarded to the one group `(a+b)`. -/
theorem guardExpr_balanced_sum :
    Balanced "a+b".data ∧ ¬ ("a+b".data.head? = some '(' ∧ "a+b".data.getLast? = some ')') ∧
      guardExpr "a+b" = .ok "(a+b)" ∧
      ((∀ c ∈ "(a+b)".data, needsGuard c = false) ∨ OneGroup "(a+b)".data) :=
  ⟨by decide, by decide, rfl, guardExpr_balanced (e := "a+b") (by decide) (by decide) rfl⟩

/-- The failing input of the early check: a cast applied to a parenthesized operand. -/
theorem guardExpr_cast_paren :
    guardExpr "(struct foo *)(buf)" = .ok "(struct foo *)(buf)" ∧
      Balanced "(struct foo *)(buf)".data ∧ ¬ OneGroup "(struct foo *)(buf)".data ∧
      ¬ ∀ c ∈ "(struct foo *)(buf)".data, needsGuard c = false :=
  ⟨rfl, by decide, by decide, by decide⟩

end GdbExplore
