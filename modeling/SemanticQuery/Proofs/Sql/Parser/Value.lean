import SemanticQuery.Proofs.Sql.Parser.Comparison

/-!
# What strings are read as

An expression that starts with a string is that string as it was read, or no string at all: what is
accessed or built behind a value is no literal. The string is read alone where no operator and no
access stands behind it.
-/

namespace SemanticQuery.Sql

/-- A string as a value. -/
def Expr.text (text : String) : Expr := .literal (.single text)

lemma Expr.text_inj {s t : String} (h : Expr.text s = Expr.text t) : s = t := by
  simpa [Expr.text] using h

namespace Parser

variable {g : Grammar} {ts : List Token}

/-! ### What operators make -/

lemma yields_isTest_ne_literal (e : Expr) (value : Literal) :
    Yields (isTest g e) ts fun x _ => x ≠ .literal value := by
  unfold isTest
  repeat' first
    | exact yields_pure (by simp)
    | refine yields_ite (fun _ => ?_) (fun _ => ?_)
    | refine yields_bind fun _ _ => ?_
    | split

lemma yields_patternTest_ne_literal (e : Expr) (negated : Bool) (word : String)
    (any escapes : Bool) (value : Literal) :
    Yields (patternTest g e negated word any escapes) ts fun x _ => x ≠ .literal value := by
  unfold patternTest
  dsimp only
  repeat' first
    | exact yields_pure (by simp)
    | refine yields_ite (fun _ => ?_) (fun _ => ?_)
    | refine yields_bind fun _ _ => ?_

lemma yields_membership_ne_literal (e : Expr) (negated : Bool) (value : Literal) :
    Yields (membership g e negated) ts fun x _ => x ≠ .literal value := by
  unfold membership
  repeat' first
    | exact yields_pure (by simp)
    | refine yields_ite (fun _ => ?_) (fun _ => ?_)
    | refine yields_bind fun _ _ => ?_
    | split

lemma yields_negatableTest_ne_literal (e : Expr) (value : Literal) :
    Yields (negatableTest g e) ts fun x _ => x ≠ .literal value := by
  unfold negatableTest
  repeat' first
    | exact yields_pure (by simp)
    | exact yields_patternTest_ne_literal e _ _ _ _ value
    | exact yields_membership_ne_literal e _ value
    | refine yields_ite (fun _ => ?_) (fun _ => ?_)
    | refine yields_bind fun _ _ => ?_

lemma yields_rightSide_ne_literal (left : Expr) (op : BinaryOp) (power : Nat) (value : Literal) :
    Yields (rightSide g left op power) ts fun x _ => x ≠ .literal value := by
  unfold rightSide
  repeat' first
    | exact yields_pure (by simp)
    | refine yields_ite (fun _ => ?_) (fun _ => ?_)
    | refine yields_bind fun _ _ => ?_
    | split

/-- No operator makes a literal. -/
lemma yields_infixed_ne_literal (left : Expr) (power : Nat) (value : Literal) :
    Yields (infixed g left power) ts fun x _ => x ≠ .literal value := by
  unfold infixed
  repeat' first
    | exact yields_pure (by simp)
    | exact yields_fail
    | exact yields_rightSide_ne_literal left _ power value
    | exact yields_isTest_ne_literal left value
    | exact yields_negatableTest_ne_literal left value
    | refine yields_ite (fun _ => ?_) (fun _ => ?_)
    | refine yields_bind fun _ _ => ?_
    | split

/-! ### What starts with a string -/

lemma withAccess_eq_or_ne_literal (root : Expr) (steps : List Access) (value : Literal) :
    withAccess root steps = root ∨ withAccess root steps ≠ .literal value := by
  unfold withAccess
  split
  · exact .inl rfl
  · split <;> exact .inr (by simp)
  · exact .inr (by simp)

lemma yields_collated_eq_or_ne_literal (e : Expr) (value : Literal) :
    Yields (collated e) ts fun x _ => x = e ∨ x ≠ .literal value := by
  refine yields_bind fun _ _ => yields_ite (fun _ => ?_) (fun _ => yields_pure (.inl rfl))
  exact yields_bind fun _ _ => yields_pure (.inr (by simp))

/-- Of all literals only the string itself is read from its token on. -/
lemma yields_expression_single (s : String) (power : Nat) (value : Literal) :
    Yields (expression g power) (.single s :: ts) fun e _ => e = .text s ∨ e ≠ .literal value := by
  have hterm : ∀ d, term g d (.single s :: ts) = collated (.text s) d ts := fun _ => rfl
  refine yields_bind_of (yields_of_eq hterm (yields_collated_eq_or_ne_literal _ value))
    fun root _ hroot => ?_
  refine yields_bind_of (R := fun e _ => e = .text s ∨ e ≠ .literal value) ?_ fun first _ hfirst => ?_
  · refine yields_bind fun steps _ => yields_pure ?_
    rcases withAccess_eq_or_ne_literal root steps value with heq | hne
    · rwa [heq]
    · exact .inr hne
  · refine yields_loop (I := fun e _ => e = .text s ∨ e ≠ .literal value) ?_ hfirst
    intro e ts he
    refine yields_bind fun _ _ => yields_ite (fun _ => yields_pure he) fun _ => ?_
    refine yields_ite (fun _ => yields_pure he) fun _ => ?_
    exact yields_bind_of (yields_infixed_ne_literal e _ value) fun x _ hx =>
      yields_pure (.inr hx)

/-- The tokens that end a value: none, a comma or a closing parenthesis. -/
inductive EndsValue : List Token → Prop where
  | nil : EndsValue []
  | comma (ts : List Token) : EndsValue (.symbol "," :: ts)
  | parenthesis (ts : List Token) : EndsValue (.symbol ")" :: ts)

lemma expression_single {rest : List Token} (h : EndsValue rest) (s : String) (power d : Nat) :
    expression g power d (.single s :: rest) = .ok (.text s, rest) := by
  cases h <;> rfl

/-! ### Operators before strings -/

lemma infixed_like (left : Expr) (power d : Nat) (s : String) :
    infixed g left power d (.word "LIKE" "LIKE" :: .single s :: ts) =
      (do
        let pattern ← g.subexpr Power.like
        return Expr.like false false left pattern (← escapeChar) : Parser Expr) d
        (.single s :: ts) :=
  rfl

lemma infixed_isIn (left : Expr) (power d : Nat) :
    infixed g left power d (.word "IN" "IN" :: ts) = membership g left false d ts :=
  rfl

lemma infixed_notIn (left : Expr) (power d : Nat) :
    infixed g left power d (.word "NOT" "NOT" :: .word "IN" "IN" :: ts) =
      membership g left true d ts :=
  rfl

/-- The values in parentheses, and the membership in them. -/
def listed (g : Grammar) (left : Expr) (negated : Bool) : Parser Expr := do
  let items ← commaSeparated g.expr
  expectSymbol ")"
  return .inList negated left items

/-- No query starts with a string. -/
lemma membership_single (n : Nat) (left : Expr) (negated : Bool) (s : String) (d : Nat) :
    membership (grammar (n + 1)) left negated d (.symbol "(" :: .single s :: ts) =
      listed (grammar (n + 1)) left negated d (.single s :: ts) :=
  rfl

lemma yields_membership_empty (n : Nat) (left : Expr) (negated : Bool) :
    Yields (membership (grammar n) left negated) [.symbol "(", .symbol ")"] fun _ _ => False where
  of_eq_ok {d e rest} h := by
    have hempty : ∀ n d, (membership (grammar n) left negated d [.symbol "(", .symbol ")"]).isOk =
        false := by
      intro n d
      rcases n with _ | n
      · rfl
      rcases d with _ | d <;> rfl
    have hfailed := hempty n d
    rw [h] at hfailed
    exact Bool.noConfusion hfailed

end Parser

end SemanticQuery.Sql
