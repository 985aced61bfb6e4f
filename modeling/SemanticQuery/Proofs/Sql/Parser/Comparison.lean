import SemanticQuery.Proofs.Number.Decimal
import SemanticQuery.Proofs.Sql.Lexer
import SemanticQuery.Proofs.Sql.Parser.Reading

/-!
# What comparisons are read from

A condition that compares a bare name was read from tokens that start with the name's word: no
operator makes a name, and no term but the word itself is one. Behind the word and the sign of an
equation, what is compared is an equation.
-/

namespace SemanticQuery.Sql

/-- The number that a count is written as. -/
def Expr.numeral : Int → Expr
  | .ofNat n => .literal (.number (toString n) false)
  | .negSucc n => .unary .minus (.literal (.number (toString (n + 1)) false))

/-- The condition that a column has a number as its value. -/
def Expr.numberIs (column : String) (i : Int) : Expr :=
  .binary (.compare .eq) (.name (.bare column)) (.numeral i)

namespace Parser

variable {g : Grammar} {ts : List Token}

/-! ### Compared names -/

lemma comparedName?_of_isForm {e : Expr} (h : e.isForm = true) : e.comparedName? = none := by
  cases e <;> simp_all [Expr.isForm, Expr.comparedName?]

lemma comparedName?_of_isTerm {e : Expr} (h : e.isTerm = true) : e.comparedName? = none := by
  cases e <;> simp_all [Expr.isTerm, Expr.comparedName?]

namespace Built

variable {left e : Expr} {power : Nat} {rest : List Token}

/-- An operator compares a name only if the name stands on its left. -/
lemma left_eq_name (h : Built left power rest e) {name : String}
    (hname : e.comparedName? = some name) : left = .name ⟨name, none⟩ := by
  cases h with
  | form hform => simp [comparedName?_of_isForm hform] at hname
  | inList negated items =>
    unfold Expr.comparedName? at hname
    split at hname <;> simp_all
  | like negated any pattern escape =>
    unfold Expr.comparedName? at hname
    split at hname <;> simp_all
  | between negated low high => simp [Expr.comparedName?] at hname
  | other right hand hor =>
    unfold Expr.comparedName? at hname
    split at hname <;> simp_all
  | and hpower hright => simp [Expr.comparedName?] at hname
  | or hpower hright => simp [Expr.comparedName?] at hname

lemma ne_name (h : Built left power rest e) (ident : Ident) : e ≠ .name ident := by
  cases h with
  | form hform =>
    rintro rfl
    simp [Expr.isForm] at hform
  | _ => simp

end Built

variable (hg : ∀ power ts, Yields (g.subexpr power) ts (IsReadWithin power))
include hg

/-- A compared name is the first word of what was read. -/
lemma yields_comparedName (power : Nat) :
    Yields (expression g power) ts fun e _ =>
      ∀ name, e.comparedName? = some name → ∃ key rest, ts = .word name key :: rest := by
  let FromWord := fun (e : Expr) (_ : List Token) => ∀ name,
    e = .name ⟨name, none⟩ ∨ e.comparedName? = some name → ∃ key rest, ts = .word name key :: rest
  refine yields_bind_of (yields_termFrom hg) fun root middle hroot => ?_
  refine yields_bind_of (yields_accessedFrom hg hroot) fun first rest hfirst => ?_
  refine yields_loop (I := FromWord) ?_ ?_
  · intro e ts he
    refine yields_bind_of yields_ahead fun tokens middle hmiddle => ?_
    obtain ⟨rfl, rfl⟩ := hmiddle
    refine yields_ite (fun _ => ?_) fun _ => yields_ite (fun _ => ?_) fun _ => ?_
    · exact yields_pure fun name hname => he name (.inr hname)
    · exact yields_pure fun name hname => he name (.inr hname)
    · refine yields_bind_of (yields_infixed hg e) fun built rest hbuilt => yields_pure ?_
      rintro name (hname | hname)
      · exact absurd hname (hbuilt.ne_name _)
      · exact he name (.inl (hbuilt.left_eq_name hname))
  · rintro name (hname | hname)
    · obtain ⟨key, hts⟩ := hfirst.name name hname
      exact ⟨key, rest, hts⟩
    · simp [comparedName?_of_isTerm hfirst.isTerm] at hname

/-! ### The operator behind a name -/

omit hg in
/-- Behind the sign of a comparison stands its right side, or a quantifier. -/
lemma yields_comparisonFrom {P : Expr → Prop} (c : Comparison) (left : Expr) {power : Nat}
    (hright : Yields (g.subexpr power) ts fun e _ => P e) :
    Yields (infixed g left power) (.symbol c.symbol :: ts) fun e _ =>
      e.isForm = true ∨ ∃ right, e = .binary (.compare c) left right ∧ P right := by
  have hsign : ∀ d, infixed g left power d (.symbol c.symbol :: ts) =
      rightSide g left (.compare c) power d ts := by
    intro d
    cases c <;> rfl
  refine yields_of_eq hsign ?_
  refine yields_bind_of (yields_oneOf _) fun quantifier rest hrest => ?_
  split
  next _ =>
    obtain rfl := hrest rfl
    exact yields_bind_of hright fun right _ h => yields_pure (.inr ⟨right, rfl, h⟩)
  · refine yields_bind fun _ _ => yields_bind fun _ _ => yields_bind fun _ _ => ?_
    refine yields_ite (fun _ => ?_) (fun _ => ?_)
    · refine yields_bind fun _ _ => yields_bind fun right _ => yields_bind fun _ _ => ?_
      split <;> exact yields_pure (.inl rfl)
    · exact yields_bind fun _ _ => yields_bind fun _ _ => yields_bind fun _ _ =>
        yields_pure (.inl rfl)

/-- What starts with a name compares only if the operator behind the name builds it. -/
lemma yields_firstOperator {P : Expr → Prop} {name key : String}
    (hfirst : Yields (infixed g (.name (.bare name)) (powerOf ts)) ts fun e _ =>
      ∀ name', e.comparedName? = some name' → P e) (power : Nat) :
    Yields (expression g power) (.word name key :: ts) fun e _ =>
      ∀ name', e.comparedName? = some name' → P e := by
  let Finished := fun (e : Expr) => P e ∧ ∃ name', e.comparedName? = some name'
  let Unfinished := fun (e : Expr) (rest : List Token) => e.comparedName? = none ∧
    ∀ name', e = .name ⟨name', none⟩ → name' = name ∧ rest = ts
  have hnext : ∀ {e : Expr} {rest : List Token}, (∀ name', e ≠ .name ⟨name', none⟩) →
      (∀ name', e.comparedName? = some name' → P e) → Finished e ∨ Unfinished e rest := by
    intro e rest hname hP
    cases hcompared : e.comparedName? with
    | none => exact .inr ⟨hcompared, fun name' h => absurd h (hname name')⟩
    | some name' => exact .inl ⟨hP name' hcompared, name', hcompared⟩
  refine yields_bind_of (yields_termFrom hg) fun root middle hroot => ?_
  refine yields_bind_of (yields_accessedFrom hg hroot) fun first rest hterm => ?_
  refine yields_loop (I := fun e rest => Finished e ∨ Unfinished e rest) ?_ ?_
  · intro e rest he
    have hresult : ∀ name', e.comparedName? = some name' → P e := by
      intro name' hname
      rcases he with he | ⟨hnone, -⟩
      · exact he.1
      · simp [hnone] at hname
    refine yields_bind_of yields_ahead fun tokens middle hmiddle => ?_
    obtain ⟨rfl, rfl⟩ := hmiddle
    refine yields_ite (fun _ => yields_pure hresult) fun _ => ?_
    refine yields_ite (fun _ => yields_pure hresult) fun _ => ?_
    by_cases hname : ∃ name', e = .name ⟨name', none⟩
    · obtain ⟨name', rfl⟩ := hname
      obtain ⟨rfl, rfl⟩ : name' = name ∧ middle = ts := by
        rcases he with ⟨-, name'', hcompared⟩ | ⟨-, hrest⟩
        · simp [Expr.comparedName?] at hcompared
        · exact hrest name' rfl
      refine yields_bind_of (hfirst.and (yields_infixed hg _)) fun built rest hbuilt =>
        yields_pure ?_
      exact hnext (fun name'' => hbuilt.2.ne_name _) hbuilt.1
    · -- What an operator builds on anything but a name compares no name.
      refine yields_bind_of (yields_infixed hg e) fun built rest hbuilt => yields_pure ?_
      refine hnext (fun name' => hbuilt.ne_name _) fun name' hcompared => ?_
      exact absurd ⟨name', hbuilt.left_eq_name hcompared⟩ hname
  · refine .inr ⟨comparedName?_of_isTerm hterm.isTerm, fun name' hname => ?_⟩
    obtain ⟨key', hts⟩ := hterm.name name' hname
    simp_all

/-! ### Numbers -/

omit hg in
lemma yields_number (digits : String) (long : Bool) (power : Nat) :
    Yields (expression g power) [.number digits long] fun e rest =>
      e = .literal (.number digits long) ∧ rest = [] where
  of_eq_ok {d e rest} h := by
    have hread : expression g power d [.number digits long] =
        .ok (.literal (.number digits long), []) := by
      rfl
    rw [hread] at h
    simp_all

omit hg in
lemma yields_negated (digits : String) (long : Bool) (power : Nat)
    (hnumber : Yields (g.subexpr Power.multiply) [.number digits long] fun e rest =>
      e = .literal (.number digits long) ∧ rest = []) :
    Yields (expression g power) [.symbol "-", .number digits long] fun e rest =>
      e = .unary .minus (.literal (.number digits long)) ∧ rest = [] where
  of_eq_ok {d e rest} h := by
    obtain ⟨root, middle, hroot, hrest⟩ := bind_eq_ok h
    have hterm : term g d [.symbol "-", .number digits long] =
        (g.subexpr Power.multiply >>= fun e => collated (.unary .minus e)) d
          [.number digits long] := rfl
    rw [hterm] at hroot
    obtain ⟨operand, behind, hoperand, hcollated⟩ := bind_eq_ok hroot
    obtain ⟨rfl, rfl⟩ := hnumber.of_eq_ok hoperand
    obtain ⟨rfl, rfl⟩ := Prod.mk.inj (Except.ok.inj hcollated)
    obtain ⟨rfl, rfl⟩ := Prod.mk.inj (Except.ok.inj hrest)
    exact ⟨rfl, rfl⟩

omit hg in
lemma yields_grammar_number (n power : Nat) (digits : String) (long : Bool) :
    Yields ((grammar n).subexpr power) [.number digits long] fun e rest =>
      e = .literal (.number digits long) ∧ rest = [] := by
  cases n with
  | zero => exact ⟨fun h => by simp [grammar, Grammar.empty] at h⟩
  | succ n => exact yields_nest (yields_number digits long power)

/-- The tokens of a number. -/
def numeralTokens : Int → List Token
  | .ofNat n => [.number (toString n) false]
  | .negSucc n => [.symbol "-", .number (toString (n + 1)) false]

omit hg in
lemma yields_numeral (n power : Nat) (i : Int) :
    Yields ((grammar n).subexpr power) (numeralTokens i) fun e _ => e = .numeral i := by
  cases i with
  | ofNat i => exact (yields_grammar_number n power _ _).mono fun _ _ h => h.1
  | negSucc i =>
    cases n with
    | zero => exact ⟨fun h => by simp [grammar, Grammar.empty] at h⟩
    | succ n =>
      refine yields_nest ((yields_negated _ _ power ?_).mono fun _ _ h => h.1)
      exact yields_grammar_number n _ _ _

/-! ### The grammar -/

omit hg in
lemma yields_grammar_comparedName (n : Nat) (ts : List Token) :
    Yields (grammar n).expr ts fun e _ =>
      ∀ name, e.comparedName? = some name → ∃ key rest, ts = .word name key :: rest := by
  cases n with
  | zero => exact ⟨fun h => by simp [grammar, Grammar.empty, Grammar.expr] at h⟩
  | succ n => exact yields_nest (yields_comparedName (yields_subexpr n) 0)

omit hg in
lemma yields_grammar_equation (n : Nat) (name key : String) (i : Int) :
    Yields (grammar n).expr (.word name key :: .symbol "=" :: numeralTokens i) fun e _ =>
      ∀ name', e.comparedName? = some name' → e = .numberIs name i := by
  cases n with
  | zero => exact ⟨fun h => by simp [grammar, Grammar.empty, Grammar.expr] at h⟩
  | succ n =>
    have hright := yields_comparisonFrom .eq (.name (.bare name))
      (yields_numeral n (powerOf (.symbol "=" :: numeralTokens i)) i)
    refine yields_nest (yields_firstOperator (yields_subexpr n) (hright.mono ?_) 0)
    rintro e _ (hform | ⟨right, rfl, rfl⟩) name' hname
    · simp [comparedName?_of_isForm hform] at hname
    · rfl

end Parser

/-! ### Texts -/

lemma tokens_of_toString {n : Nat} {afterWord : Bool} {i : Int} {ts : List Token}
    (h : Lexer.tokensWithin n afterWord (toString i).toList = .ok ts) :
    ts = Parser.numeralTokens i := by
  cases i with
  | ofNat i =>
    obtain ⟨hne, hdigits⟩ := Number.digits_toString i
    have hts := Lexer.tokens_of_digits h hne hdigits
    rwa [String.ofList_toList] at hts
  | negSucc i =>
    obtain ⟨hne, hdigits⟩ := Number.digits_toString (i + 1)
    rw [Number.toList_toString_negSucc] at h
    have hts := Lexer.tokens_of_minus h hne hdigits
    rwa [String.ofList_toList] at hts

lemma exists_tokens_of_readCondition {text : String} {e : Expr}
    (h : Expr.readCondition text = .ok e) :
    ∃ ts d rest, tokenize text = .ok ts ∧
      (Parser.grammar (Parser.levels ts)).expr d ts = .ok (e, rest) := by
  unfold Expr.readCondition at h
  split at h
  · simp at h
  · simp at h
  next found hread =>
    obtain rfl : found = e := by simpa using h
    unfold Expr.readWhole at hread
    cases htokens : tokenize text with
    | error fault => simp [htokens, bind, Except.bind] at hread
    | ok ts =>
      cases hwhole : Parser.wholeExpr (Parser.levels ts) Parser.maxDepth ts with
      | error fault => simp [htokens, hwhole, bind, Except.bind] at hread
      | ok r =>
        obtain ⟨whole, rest⟩ := r
        obtain rfl : whole = (found, none) := by
          simpa [htokens, hwhole, bind, Except.bind, pure, Except.pure] using hread
        obtain ⟨e', middle, he, hpeek⟩ := Parser.bind_eq_ok hwhole
        obtain ⟨token, _, _, hpure⟩ := Parser.bind_eq_ok hpeek
        obtain rfl : e' = found := (Prod.mk.inj (Parser.pure_eq_ok hpure).1).1
        exact ⟨ts, _, middle, rfl, he⟩

/-- A name that a condition compares, if the condition's text starts with it, was read there. -/
lemma exists_rest_of_readCondition {name tail : String} {e : Expr}
    (h : Expr.readCondition (name ++ tail) = .ok e) (hname : e.comparedName? = some name) :
    ' ' ∉ name.toList ∧ ∃ n afterWord ts m d key rest,
      Lexer.tokensWithin n afterWord tail.toList = .ok ts ∧
        (Parser.grammar m).expr d (.word name key :: ts) = .ok (e, rest) := by
  obtain ⟨ts, d, rest, htokens, hread⟩ := exists_tokens_of_readCondition h
  obtain ⟨key, others, rfl⟩ :=
    (Parser.yields_grammar_comparedName _ ts).of_eq_ok hread name hname
  rw [tokenize, String.toList_append] at htokens
  obtain ⟨hblank, n, afterWord, hrest⟩ := Lexer.exists_rest_of_tokensWithin htokens
  exact ⟨hblank, n, afterWord, others, _, d, key, rest, hrest, hread⟩

/-- A text that equates a name and a number, and that is read as a condition on the name, is read
as their equation. -/
theorem Expr.eq_numberIs_of_readCondition {name : String} {i : Int} {e : Expr}
    (h : Expr.readCondition (name ++ (" = " ++ toString i)) = .ok e)
    (hname : e.comparedName? = some name) : e = .numberIs name i := by
  obtain ⟨-, n, afterWord, ts, m, d, key, rest, htokens, hread⟩ :=
    exists_rest_of_readCondition h hname
  rw [String.toList_append] at htokens
  obtain ⟨_, _, ts', hnumber, rfl⟩ := Lexer.tokens_of_equals htokens
  obtain rfl := tokens_of_toString hnumber
  exact (Parser.yields_grammar_equation m name key i).of_eq_ok hread name hname

lemma Expr.print_numeral (i : Int) : (Expr.numeral i).print = toString i := by
  cases i <;> rfl

/-- The equation of a name and a number prints as its text. -/
lemma Expr.print_numberIs (name : String) (i : Int) :
    (Expr.numberIs name i).print = name ++ " = " ++ toString i := by
  simp [numberIs, Expr.print, Expr.print_numeral, Ident.bare, Ident.print, BinaryOp.symbol,
    Comparison.symbol, String.append_assoc]

end SemanticQuery.Sql
