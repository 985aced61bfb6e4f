import SemanticQuery.Correction.Injection
import SemanticQuery.Proofs.Sql.Parser.Term
import SemanticQuery.Sql.Parser.Operator

/-!
# What operators build

An operator that binds tighter than `OR` finds no open `OR` on its right, and none on its left
either: behind an `OR` the next operator binds no tighter. So every expression that is read is well
joined.
-/

namespace SemanticQuery.Sql.Parser

variable {g : Grammar} {ts : List Token}

/-! ### Readings -/

/-- The tokens go on with no operator that binds tighter than `power`. -/
def Closes (power : Nat) (ts : List Token) : Prop :=
  powerOf ts ≤ power ∨ (ts.head?.map (·.isSymbol ".")).getD false = true

/-- What is read as an expression whose operators bind tighter than `power`. -/
structure IsReadWithin (power : Nat) (e : Expr) (rest : List Token) : Prop where
  isWellJoined : e.isWellJoined = true
  hasOpenOr : Power.or ≤ power → e.hasOpenOr = false
  closes : Closes power rest
  path : e ≠ .path []

/-- What the operator ahead, which binds by `power`, builds on `left`. -/
inductive Built (left : Expr) (power : Nat) (rest : List Token) : Expr → Prop where
  | form {e : Expr} (h : e.isForm = true) : Built left power rest e
  | inList (negated : Bool) (items : List Expr) : Built left power rest (.inList negated left items)
  | like (negated any : Bool) (pattern : Expr) (escape : Option String) :
    Built left power rest (.like negated any left pattern escape)
  | between (negated : Bool) (low high : Expr) :
    Built left power rest (.between negated left low high)
  | other {op : BinaryOp} (right : Expr) (hand : op ≠ .and) (hor : op ≠ .or) :
    Built left power rest (.binary op left right)
  | and {right : Expr} (hpower : power = Power.and) (hright : IsReadWithin power right rest) :
    Built left power rest (.binary .and left right)
  | or {right : Expr} (hpower : power = Power.or) (hright : IsReadWithin power right rest) :
    Built left power rest (.binary .or left right)

/-! ### Tests -/

lemma yields_isTest (e : Expr) : Yields (isTest g e) ts fun x _ => x.isForm = true := by
  unfold isTest
  repeat' first
    | exact yields_pure rfl
    | refine yields_ite (fun _ => ?_) (fun _ => ?_)
    | refine yields_bind fun _ _ => ?_
    | split

lemma yields_patternTest (e : Expr) (negated : Bool) (word : String) (any escapes : Bool) :
    Yields (patternTest g e negated word any escapes) ts fun x _ => x.isForm = true := by
  unfold patternTest
  dsimp only
  repeat' first
    | exact yields_pure rfl
    | refine yields_ite (fun _ => ?_) (fun _ => ?_)
    | refine yields_bind fun _ _ => ?_

lemma yields_membership (e : Expr) (negated : Bool) (power : Nat) :
    Yields (membership g e negated) ts fun x rest => Built e power rest x := by
  unfold membership
  refine yields_bind fun unnests _ => yields_ite (fun _ => ?_) (fun _ => ?_)
  · exact yields_bind fun _ _ => yields_pure (.form rfl)
  · refine yields_bind fun _ _ => yields_bind fun query _ => ?_
    split
    · exact yields_bind fun _ _ => yields_pure (.form rfl)
    · exact yields_bind fun _ _ => yields_bind fun _ _ => yields_pure (.inList negated _)

lemma yields_negatableTest (e : Expr) (power : Nat) :
    Yields (negatableTest g e) ts fun x rest => Built e power rest x := by
  have hpattern : ∀ {start negated word any escapes},
      Yields (patternTest g e negated word any escapes) start fun x rest => Built e power rest x :=
    (yields_patternTest e _ _ _ _).mono fun _ _ => .form
  unfold negatableTest
  refine yields_bind fun negated _ => ?_
  refine yields_bind fun _ _ => yields_ite (fun _ => yields_bind fun _ _ => hpattern) fun _ => ?_
  refine yields_bind fun _ _ => yields_ite (fun _ => hpattern) fun _ => ?_
  refine yields_bind fun _ _ => yields_ite (fun _ => yields_membership e negated power) fun _ => ?_
  refine yields_bind fun _ _ => yields_ite (fun _ => ?_) fun _ => ?_
  · exact yields_bind fun _ _ => yields_bind fun _ _ => yields_bind fun _ _ =>
      yields_pure (.between negated _ _)
  refine yields_bind fun _ _ => yields_ite (fun _ => ?_) fun _ => ?_
  · exact yields_bind fun _ _ => yields_bind fun _ _ => yields_bind fun _ _ =>
      yields_pure (.like negated _ _ _)
  refine yields_bind fun _ _ => yields_ite (fun _ => hpattern) fun _ => ?_
  exact yields_bind fun _ _ => hpattern

/-! ### Operators between expressions -/

lemma eq_word_of_tokenOp_and {t : Token} (h : tokenOp t = some .and) :
    ∃ text, t = .word text "AND" := by
  unfold tokenOp at h
  split at h
  case h_1 =>
    unfold symbolOp at h
    split at h <;> simp at h
  case h_2 text => exact ⟨text, rfl⟩
  all_goals simp at h

lemma eq_word_of_tokenOp_or {t : Token} (h : tokenOp t = some .or) :
    ∃ text, t = .word text "OR" := by
  unfold tokenOp at h
  split at h
  case h_1 =>
    unfold symbolOp at h
    split at h <;> simp at h
  case h_3 text => exact ⟨text, rfl⟩
  all_goals simp at h

/-- The operators of conditions bind as their words do. -/
lemma powerOf_of_tokenOp {t : Token} {rest : List Token} {op : BinaryOp}
    (h : tokenOp t = some op) :
    (op = .and → powerOf (t :: rest) = Power.and) ∧
      (op = .or → powerOf (t :: rest) = Power.or) := by
  constructor
  · rintro rfl
    obtain ⟨text, rfl⟩ := eq_word_of_tokenOp_and h
    rfl
  · rintro rfl
    obtain ⟨text, rfl⟩ := eq_word_of_tokenOp_or h
    rfl

variable (hg : ∀ power ts, Yields (g.subexpr power) ts (IsReadWithin power))
include hg

lemma yields_rightSide (left : Expr) {op : BinaryOp} {power : Nat}
    (hand : op = .and → power = Power.and) (hor : op = .or → power = Power.or) :
    Yields (rightSide g left op power) ts fun e rest => Built left power rest e := by
  refine yields_bind fun quantifier middle => ?_
  split
  · refine yields_bind_of (hg power middle) fun right rest hright => yields_pure ?_
    cases op with
    | and => exact .and (hand rfl) hright
    | or => exact .or (hor rfl) hright
    | compare _ | other _ => exact .other right (by simp) (by simp)
  · refine yields_bind fun _ _ => yields_bind fun _ _ => yields_bind fun _ _ => ?_
    refine yields_ite (fun _ => ?_) (fun _ => ?_)
    · refine yields_bind fun _ _ => yields_bind fun right _ => yields_bind fun _ _ => ?_
      split <;> exact yields_pure (.form rfl)
    · exact yields_bind fun _ _ => yields_bind fun _ _ => yields_bind fun _ _ =>
        yields_pure (.form rfl)

lemma yields_infixed (left : Expr) :
    Yields (infixed g left (powerOf ts)) ts fun e rest => Built left (powerOf ts) rest e := by
  refine yields_bind_of (yields_keyword "DIV") fun divides middle hdivides => ?_
  refine yields_ite (fun _ => ?_) (fun hno => ?_)
  · exact yields_bind fun right _ => yields_pure (.other right (by simp) (by simp))
  obtain rfl : middle = ts := by simpa [hno] using hdivides
  refine yields_bind_of yields_ahead fun tokens rest htokens => ?_
  obtain ⟨rfl, rfl⟩ := htokens
  split
  · exact yields_fail
  next t rest =>
    split
    next op hop =>
      have hpower := @powerOf_of_tokenOp t rest op hop
      exact yields_bind fun _ _ => yields_rightSide hg left hpower.1 hpower.2
    next _ =>
      split
      · exact yields_bind fun _ _ => (yields_isTest left).mono fun _ _ => .form
      · exact yields_bind fun _ _ => yields_bind fun _ _ => yields_bind fun _ _ =>
          yields_pure (.form rfl)
      · exact yields_negatableTest left _
      · exact yields_bind fun _ _ => yields_bind fun _ _ => yields_pure (.form rfl)
      · exact yields_fail

/-! ### Expressions -/

omit hg in
lemma isWellJoined_of_isTerm {e : Expr} (h : e.isTerm = true) :
    e.isWellJoined = true ∧ e.hasOpenOr = false ∧ e ≠ .path [] := by
  cases e <;> simp_all [Expr.isTerm, Expr.isWellJoined, Expr.hasOpenOr]

omit hg in
lemma isWellJoined_of_isForm {e : Expr} (h : e.isForm = true) :
    e.isWellJoined = true ∧ e.hasOpenOr = false ∧ e ≠ .path [] := by
  cases e <;> simp_all [Expr.isForm, Expr.isWellJoined, Expr.hasOpenOr]

lemma yields_termFrom : Yields (term g) ts (IsTermFrom ts) :=
  yields_term fun ts => (hg 0 ts).mono fun _ _ he => he.isWellJoined

/-- A term with what is accessed behind it is a term. -/
lemma yields_accessedFrom {root : Expr} {middle : List Token} (hroot : IsTermFrom ts root middle) :
    Yields (accessed g root) middle (IsTermFrom ts) := by
  have hpath : ∀ power ts, Yields (g.subexpr power) ts fun e _ => e ≠ .path [] :=
    fun power ts => (hg power ts).mono fun _ _ he => he.path
  refine (yields_accessed hpath root).mono fun e rest he => ?_
  rcases he with hform | ⟨first, others, rfl⟩ | ⟨rfl, rfl⟩
  · exact isTermFrom_of_isForm hform
  · exact ⟨rfl, by simp⟩
  · exact hroot

/-- While an expression is read, its open `OR` is closed: no operator that binds tighter
follows. -/
structure IsReadSoFar (power : Nat) (e : Expr) (ts : List Token) : Prop where
  isWellJoined : e.isWellJoined = true
  hasOpenOr : Power.or ≤ power → e.hasOpenOr = false
  closes : e.hasOpenOr = true → Closes Power.or ts
  path : e ≠ .path []

omit hg in
lemma isReadSoFar_of_isTerm {power : Nat} {e : Expr} (h : e.isTerm = true) :
    IsReadSoFar power e ts := by
  obtain ⟨hwell, hopen, hpath⟩ := isWellJoined_of_isTerm h
  exact ⟨hwell, fun _ => hopen, by simp [hopen], hpath⟩

omit hg in
/-- The operator ahead keeps what was read well joined. -/
lemma IsReadSoFar.built {power : Nat} {left e : Expr} {rest : List Token}
    (hleft : IsReadSoFar power left ts) (hpower : power < powerOf ts)
    (hpoint : (ts.head?.map (·.isSymbol ".")).getD false = false)
    (he : Built left (powerOf ts) rest e) : IsReadSoFar power e rest := by
  cases he with
  | form hform =>
    obtain ⟨hwell, hopen, hpath⟩ := isWellJoined_of_isForm hform
    exact ⟨hwell, fun _ => hopen, by simp [hopen], hpath⟩
  | inList negated items => exact ⟨rfl, fun _ => rfl, by simp [Expr.hasOpenOr], by simp⟩
  | like negated any pattern escape => exact ⟨rfl, fun _ => rfl, by simp [Expr.hasOpenOr], by simp⟩
  | between negated low high => exact ⟨rfl, fun _ => rfl, by simp [Expr.hasOpenOr], by simp⟩
  | @other op right hand hor =>
    cases op with
    | and => exact absurd rfl hand
    | or => exact absurd rfl hor
    | compare _ | other _ => exact ⟨rfl, fun _ => rfl, by simp [Expr.hasOpenOr], by simp⟩
  | and hand hright =>
    -- An open `OR` on the left would have been closed by an operator that binds no tighter.
    have hopen : left.hasOpenOr = false := by
      by_contra h
      rcases hleft.closes (by simpa using h) with hor | hdot
      · rw [hand] at hor
        exact absurd hor (by decide)
      · rw [hpoint] at hdot
        exact absurd hdot (by decide)
    have hopen' := hright.hasOpenOr (by rw [hand]; decide)
    refine ⟨?_, fun _ => ?_, ?_, by simp⟩
    · exact (Expr.isWellJoined_and _ _).mpr ⟨hopen, hopen', hleft.isWellJoined, hright.isWellJoined⟩
    · simp [hopen, hopen']
    · simp [hopen, hopen']
  | or hor hright =>
    refine ⟨rfl, fun hle => ?_, fun _ => ?_, by simp⟩
    · rw [hor] at hpower
      exact absurd hpower (Nat.not_lt.mpr hle)
    · rw [← hor]
      exact hright.closes

lemma yields_expression (power : Nat) : Yields (expression g power) ts (IsReadWithin power) := by
  refine yields_bind_of (yields_termFrom hg) fun root middle hroot => ?_
  refine yields_bind_of (yields_accessedFrom hg hroot) fun first rest hfirst => ?_
  refine yields_loop (I := IsReadSoFar power) ?_ (isReadSoFar_of_isTerm hfirst.isTerm)
  intro e ts he
  refine yields_bind_of yields_ahead fun tokens middle hmiddle => ?_
  obtain ⟨rfl, rfl⟩ := hmiddle
  refine yields_ite (fun hcloses => ?_) fun hpower => yields_ite (fun hpoint => ?_) fun hpoint => ?_
  · exact yields_pure ⟨he.isWellJoined, he.hasOpenOr, .inl hcloses, he.path⟩
  · exact yields_pure ⟨he.isWellJoined, he.hasOpenOr, .inr hpoint, he.path⟩
  · refine yields_bind_of (yields_infixed hg e) fun built rest hbuilt => yields_pure ?_
    exact he.built (Nat.not_le.mp hpower) (by simpa using hpoint) hbuilt

end SemanticQuery.Sql.Parser
