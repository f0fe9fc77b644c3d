import PageComponent.Proofs.Text.Spans
import PageComponent.Proofs.Value.Showing
import PageComponent.Style.Fold

/-!
# Folding comes to an end

A pass over a text replaces the groups that can be folded and leaves the rest as it is. No
parenthesis is ever written, so a pass that changes the text leaves fewer of them behind. The text
that folding ends with has no group that can be folded.
-/

namespace PageComponent.Style

variable {vars : Entries String} {previous : Option Char} {c : Char}
  {cs body behind text result : List Char}

/-! ## What is written for a group -/

theorem isUnit_of_quantity {q : Quantity} {rest : List Char}
    (h : Quantity.read? cs = some (q, rest)) : ∀ c ∈ q.unit, Quantity.isUnitPart c = true := by
  obtain ⟨d, -, eq⟩ := Option.bind_eq_some_iff.mp h
  cases eq
  exact fun c => List.mem_takeWhile_imp

theorem isUnit_of_literal {q : Quantity} {literal : String}
    (h : Quantity.ofLiteral? literal = some q) : ∀ c ∈ q.unit, Quantity.isUnitPart c = true := by
  unfold Quantity.ofLiteral? at h
  split at h
  next eq =>
    cases h
    exact isUnit_of_quantity eq
  next eq =>
    cases h
    exact isUnit_of_quantity eq
  next => cases h

namespace GroupToken

/-- The unit of an operand is made of letters and percent signs. -/
def HasUnit : GroupToken → Prop
  | operand q => ∀ c ∈ q.unit, Quantity.isUnitPart c = true
  | operator _ => True

theorem hasUnit_of_read {token : GroupToken} {rest : List Char}
    (h : read? vars cs = some (token, rest)) : token.HasUnit := by
  unfold read? at h
  split at h
  next => cases h
  next c r =>
    split at h
    next =>
      split at h
      next =>
        obtain ⟨literal, -, h⟩ := Option.bind_eq_some_iff.mp h
        obtain ⟨q, eq, h⟩ := Option.bind_eq_some_iff.mp h
        cases h
        exact isUnit_of_literal eq
      next => cases h
    next =>
      split at h
      next eq =>
        cases h
        exact isUnit_of_quantity eq
      next =>
        obtain ⟨op, -, eq⟩ := Option.map_eq_some_iff.mp h
        cases eq
        trivial

theorem hasUnit_of_chars {n : Nat} {tokens : List GroupToken}
    (h : ofChars? vars n cs = some tokens) : ∀ token ∈ tokens, token.HasUnit := by
  induction n generalizing cs tokens with
  | zero =>
    rw [ofChars?] at h
    split at h
    next =>
      cases h
      exact List.forall_mem_nil _
    next => cases h
  | succ n ih =>
    rw [ofChars?] at h
    split at h
    next =>
      cases h
      exact List.forall_mem_nil _
    next =>
      obtain ⟨⟨token, rest⟩, read, h⟩ := Option.bind_eq_some_iff.mp h
      obtain ⟨others, more, eq⟩ := Option.bind_eq_some_iff.mp h
      cases eq
      exact List.forall_mem_cons.mpr ⟨hasUnit_of_read read, ih more⟩

theorem isUnit_of_tail {tokens : List GroupToken} {tail : List (Operator × Quantity)}
    (h : tail? tokens = some tail) (units : ∀ token ∈ tokens, token.HasUnit) :
    ∀ link ∈ tail, ∀ c ∈ link.2.unit, Quantity.isUnitPart c = true := by
  fun_induction tail? tokens generalizing tail with
  | case1 =>
    cases h
    exact List.forall_mem_nil _
  | case2 op q rest ih =>
    obtain ⟨others, eq, rfl⟩ := Option.map_eq_some_iff.mp h
    obtain ⟨-, units⟩ := List.forall_mem_cons.mp units
    obtain ⟨unit, units⟩ := List.forall_mem_cons.mp units
    exact List.forall_mem_cons.mpr ⟨unit, ih eq units⟩
  | case3 => cases h

end GroupToken

theorem isUnit_of_firstUnit {qs : List Quantity}
    (units : ∀ q ∈ qs, ∀ c ∈ q.unit, Quantity.isUnitPart c = true) :
    ∀ c ∈ firstUnit qs, Quantity.isUnitPart c = true := by
  rw [firstUnit]
  cases found : (qs.map (·.unit)).find? (· ≠ []) with
  | none => exact List.forall_mem_nil _
  | some unit =>
    obtain ⟨q, mem, rfl⟩ := List.mem_map.mp (List.mem_of_find?_eq_some found)
    exact units q mem

/-- A group that is folded is replaced by a number with a unit. -/
theorem exists_of_foldGroup (h : foldGroup? vars body = some text) :
    ∃ (x : Binary) (qs : List Quantity),
      text = (NumberFormat.plain.write x).toList ++ firstUnit qs ∧
      ∀ q ∈ qs, ∀ c ∈ q.unit, Quantity.isUnitPart c = true := by
  obtain ⟨tokens, chars, h⟩ := Option.bind_eq_some_iff.mp h
  have units := GroupToken.hasUnit_of_chars chars
  dsimp only at h
  split at h
  next q rest =>
    obtain ⟨unit, units⟩ := List.forall_mem_cons.mp units
    obtain ⟨tail, links, h⟩ := Option.bind_eq_some_iff.mp h
    split at h
    next => cases h
    next =>
      obtain ⟨⟨x, terms⟩, -, h⟩ := Option.bind_eq_some_iff.mp h
      cases h
      refine ⟨_, _, rfl, List.forall_mem_cons.mpr ⟨unit, ?_⟩⟩
      exact List.forall_mem_map.mpr (GroupToken.isUnit_of_tail links units)
  next => cases h

/-- A kind of characters to which no parenthesis belongs. -/
theorem not_isParenthesis_of {p : Char → Bool} (opening : p '(' = false)
    (closing : p ')' = false) (kind : p c = true) : isParenthesis c = false := by
  rw [Bool.eq_false_iff]
  intro parenthesis
  rcases Bool.or_eq_true_iff.mp parenthesis with here | here
  · rw [beq_iff_eq.mp here, opening] at kind
    cases kind
  · rw [beq_iff_eq.mp here, closing] at kind
    cases kind

/-- The result of a group has no parentheses. -/
theorem not_isParenthesis_of_foldGroup (h : foldGroup? vars body = some text) :
    ∀ c ∈ text, isParenthesis c = false := by
  obtain ⟨x, qs, rfl, units⟩ := exists_of_foldGroup h
  refine List.forall_mem_append.mpr ⟨fun c mem => ?_, fun c mem => ?_⟩
  · exact not_isParenthesis_of rfl rfl (NumberFormat.isMark_of_mem_write x c mem)
  · exact not_isParenthesis_of rfl rfl (isUnit_of_firstUnit units c mem)

/-! ## One pass -/

/-- Somewhere in `cs`, which stands behind the character `previous`, the text `body` stands in
parentheses of its own that belong to no function. -/
inductive HasGroup (body : List Char) : (previous : Option Char) → List Char → Prop where
  | here {previous : Option Char} (free : allowsGroup previous = true)
      (plain : ∀ c ∈ body, isParenthesis c = false) (behind : List Char) :
      HasGroup body previous ('(' :: (body ++ ')' :: behind))
  | later {previous : Option Char} {cs : List Char} (c : Char) (h : HasGroup body (some c) cs) :
      HasGroup body previous (c :: cs)

theorem HasGroup.append (front : List Char) (h : HasGroup body (front.getLast?.or previous) cs) :
    HasGroup body previous (front ++ cs) := by
  induction front generalizing previous with
  | nil => exact h
  | cons c front ih =>
    refine .later c (ih ?_)
    cases front with
    | nil => exact h
    | cons d front => exact h

theorem foldPass_nil : foldPass vars previous [] = [] := by
  rw [foldPass]

/-- A pass replaces the group that a text begins with and goes on behind it. -/
theorem foldPass_group (free : allowsGroup previous = true)
    (plain : ∀ c ∈ body, isParenthesis c = false) (behind : List Char) :
    foldPass vars previous ('(' :: (body ++ ')' :: behind)) =
      (foldGroup? vars body).getD ('(' :: body ++ [')']) ++ foldPass vars (some ')') behind := by
  have inside : (body ++ ')' :: behind).takeWhile (!isParenthesis ·) = body :=
    Text.takeWhile_append_stop (fun c mem => by rw [plain c mem]; rfl) rfl behind
  rw [foldPass, inside, List.drop_left, if_pos ⟨rfl, free, rfl⟩, List.drop_length_add_append]
  rfl

/-- Where a text does not begin with a group, its first character stays. -/
theorem front_cases (vars : Entries String) (previous : Option Char) (c : Char) (cs : List Char) :
    foldPass vars previous (c :: cs) = c :: foldPass vars (some c) cs ∨
      ∃ body behind, c = '(' ∧ cs = body ++ ')' :: behind ∧ allowsGroup previous = true ∧
        ∀ d ∈ body, isParenthesis d = false := by
  rw [foldPass]
  split
  next group =>
    obtain ⟨rfl, free, closed⟩ := group
    obtain ⟨behind, eq⟩ := List.head?_eq_some_iff.mp closed
    refine .inr ⟨cs.takeWhile (!isParenthesis ·), behind, rfl, ?_, free, ?_⟩
    · have front := List.takeWhile_prefix (!isParenthesis ·) (l := cs)
      rw [← eq]
      exact (List.prefix_iff_eq_append.mp front).symm
    · intro d mem
      simpa using List.mem_takeWhile_imp mem
  next => exact .inl rfl

theorem count_of_plain (plain : ∀ c ∈ cs, isParenthesis c = false) : cs.count '(' = 0 :=
  List.count_eq_zero.mpr fun mem => absurd (plain '(' mem) (by decide)

theorem count_le_of (h : text = cs ∨ text.count '(' < cs.count '(') :
    text.count '(' ≤ cs.count '(' := by
  rcases h with same | fewer
  · rw [same]
  · exact fewer.le

/-- A pass takes a parenthesis away or leaves the text as it is. -/
theorem foldPass_eq_or_count_lt (vars : Entries String) :
    ∀ (previous : Option Char) (cs : List Char), foldPass vars previous cs = cs ∨
      (foldPass vars previous cs).count '(' < cs.count '('
  | _, [] => .inl foldPass_nil
  | previous, c :: cs => by
    rcases front_cases vars previous c cs with eq | ⟨body, behind, rfl, rfl, free, plain⟩
    · rw [eq]
      rcases foldPass_eq_or_count_lt vars (some c) cs with same | fewer
      · rw [same]
        exact .inl rfl
      · right
        rw [List.count_cons, List.count_cons]
        omega
    · have rest := foldPass_eq_or_count_lt vars (some ')') behind
      rw [foldPass_group free plain]
      cases folded : foldGroup? vars body with
      | none =>
        rcases rest with same | fewer
        · left
          rw [Option.getD_none, same, List.append_assoc]
          rfl
        · right
          rw [Option.getD_none, List.append_assoc, List.cons_append, List.singleton_append,
            List.count_cons_self, List.count_cons_self, List.count_append, List.count_append,
            List.count_cons_of_ne (by decide), List.count_cons_of_ne (by decide)]
          omega
      | some text =>
        right
        have none := count_of_plain (not_isParenthesis_of_foldGroup folded)
        have le := count_le_of rest
        rw [Option.getD_some, List.count_append, none, List.count_cons_self, List.count_append,
          List.count_cons_of_ne (by decide)]
        omega
termination_by _ cs => cs.length

theorem count_foldPass_lt (changed : foldPass vars previous cs ≠ cs) :
    (foldPass vars previous cs).count '(' < cs.count '(' :=
  (foldPass_eq_or_count_lt vars previous cs).resolve_left changed

/-! ## When nothing is left to fold -/

/-- Text without an opening parenthesis is passed over. -/
theorem foldPass_append (plain : ∀ c ∈ cs, c ≠ '(') (behind : List Char) :
    foldPass vars previous (cs ++ behind) =
      cs ++ foldPass vars (cs.getLast?.or previous) behind := by
  induction cs generalizing previous with
  | nil => rfl
  | cons c cs ih =>
    obtain ⟨other, plain⟩ := List.forall_mem_cons.mp plain
    rcases front_cases vars previous c (cs ++ behind) with eq | ⟨_, _, opening, _⟩
    · rw [List.cons_append, eq, ih plain, List.getLast?_cons]
      cases cs.getLast? <;> rfl
    · exact absurd opening other

theorem foldGroup?_eq_none_of_fixed (free : allowsGroup previous = true)
    (plain : ∀ c ∈ body, isParenthesis c = false)
    (fixed : foldPass vars previous ('(' :: (body ++ ')' :: behind)) =
      '(' :: (body ++ ')' :: behind)) : foldGroup? vars body = none := by
  cases folded : foldGroup? vars body with
  | none => rfl
  | some text =>
    have counts := congrArg (List.count '(') fixed
    have rest := count_le_of (foldPass_eq_or_count_lt vars (some ')') behind)
    rw [foldPass_group free plain, folded, Option.getD_some, List.count_append,
      count_of_plain (not_isParenthesis_of_foldGroup folded), List.count_cons_self,
      List.count_append, count_of_plain plain, List.count_cons_of_ne (by decide)] at counts
    omega

/-- What a pass leaves as it is, it leaves as it is behind the first character too. -/
theorem fixed_tail (fixed : foldPass vars previous (c :: cs) = c :: cs) :
    foldPass vars (some c) cs = cs := by
  rcases front_cases vars previous c cs with eq | ⟨body, behind, rfl, rfl, free, plain⟩
  · rw [eq] at fixed
    exact (List.cons_eq_cons.mp fixed).2
  · have none := foldGroup?_eq_none_of_fixed free plain fixed
    have inside : ∀ c ∈ body ++ [')'], c ≠ '(' := by
      refine List.forall_mem_append.mpr
        ⟨fun c mem => ?_, List.forall_mem_singleton.mpr (by decide)⟩
      rintro rfl
      exact absurd (plain '(' mem) (by decide)
    have rest : foldPass vars (some ')') behind = behind := by
      rw [foldPass_group free plain, none, Option.getD_none] at fixed
      simpa using fixed
    have front := @foldPass_append vars (some '(') _ inside behind
    rw [List.getLast?_append, List.getLast?_singleton, Option.some_or, Option.some_or,
      rest] at front
    simpa using front

theorem foldPass_eq_self_of_none (vars : Entries String) :
    ∀ (previous : Option Char) (cs : List Char),
      (∀ body, HasGroup body previous cs → foldGroup? vars body = none) →
        foldPass vars previous cs = cs
  | _, [], _ => foldPass_nil
  | previous, c :: cs, unfolded => by
    rcases front_cases vars previous c cs with eq | ⟨body, behind, rfl, rfl, free, plain⟩
    · have rest := foldPass_eq_self_of_none vars (some c) cs fun body group =>
        unfolded body (group.later c)
      rw [eq, rest]
    · have rest := foldPass_eq_self_of_none vars (some ')') behind fun body' group => by
        have behind_front : HasGroup body' previous (('(' :: body ++ [')']) ++ behind) := by
          refine HasGroup.append _ ?_
          rwa [List.getLast?_append, List.getLast?_singleton, Option.some_or, Option.some_or]
        rw [List.append_assoc] at behind_front
        exact unfolded body' behind_front
      rw [foldPass_group free plain, unfolded body (.here free plain behind), rest,
        Option.getD_none, List.append_assoc]
      rfl
termination_by _ cs => cs.length

/-- A pass leaves a text as it is exactly if no group of it can be folded. -/
theorem foldPass_eq_self_iff : foldPass vars previous cs = cs ↔
    ∀ body, HasGroup body previous cs → foldGroup? vars body = none := by
  refine ⟨fun fixed body group => ?_, foldPass_eq_self_of_none vars previous cs⟩
  induction group with
  | here free plain behind => exact foldGroup?_eq_none_of_fixed free plain fixed
  | later c _ ih => exact ih (fixed_tail fixed)

/-! ## All passes -/

/-- Passes from `cs` on, until one leaves the text as it is, end with `result`. -/
inductive Settles (vars : Entries String) : (cs result : List Char) → Prop where
  | same {cs : List Char} (fixed : foldPass vars none cs = cs) : Settles vars cs cs
  | pass {cs result : List Char} (changed : foldPass vars none cs ≠ cs)
      (more : Settles vars (foldPass vars none cs) result) : Settles vars cs result

theorem Settles.unique (h : Settles vars cs result) (h' : Settles vars cs text) :
    text = result := by
  induction h with
  | same fixed =>
    cases h' with
    | same => rfl
    | pass changed => exact absurd fixed changed
  | pass changed _ ih =>
    cases h' with
    | same fixed => exact absurd fixed changed
    | pass _ more => exact ih more

theorem Settles.fixed (h : Settles vars cs result) : foldPass vars none result = result := by
  induction h with
  | same fixed => exact fixed
  | pass _ _ ih => exact ih

/-- As many passes as there are parentheses to take away are enough. -/
theorem settles_foldPasses {n : Nat} (enough : cs.count '(' ≤ n) :
    Settles vars cs (foldPasses vars n cs) := by
  induction n generalizing cs with
  | zero =>
    have none : cs.count '(' = 0 := Nat.le_zero.mp enough
    refine .same ?_
    by_contra changed
    have fewer := count_foldPass_lt changed
    omega
  | succ n ih =>
    rw [foldPasses]
    split
    next fixed => exact .same fixed
    next changed =>
      have fewer := count_foldPass_lt changed
      exact .pass changed (ih (by omega))

theorem settles_foldChars (vars : Entries String) (cs : List Char) :
    Settles vars cs (foldChars vars cs) :=
  settles_foldPasses (Nat.le_refl _)

theorem foldChars_eq_self (fixed : foldPass vars none cs = cs) : foldChars vars cs = cs :=
  (Settles.same fixed).unique (settles_foldChars vars cs)

/-- Folding a text comes to an end, since each pass that changes a text takes parentheses away and
no number is written with any. What it ends with has no group that can be folded, and folding that
again changes nothing. -/
theorem folding_settles (vars : Entries String) (s : String) :
    (∃ result : String, foldLeaf vars (.text s) = .text result ∧
      (∀ text, Settles vars s.toList text ↔ text = result.toList) ∧
      (∀ body, HasGroup body none result.toList → foldGroup? vars body = none) ∧
      foldLeaf vars (.text result) = .text result) ∧
    (∀ text, foldPass vars none text ≠ text →
      (foldPass vars none text).count '(' < text.count '(') ∧
    ∀ (n : Number) (written : String), n.toText = .ok written →
      ∀ c ∈ written.toList, isParenthesis c = false := by
  have settles := settles_foldChars vars s.toList
  refine ⟨⟨.ofList (foldChars vars s.toList), rfl, fun text => ?_, ?_, ?_⟩,
    fun text changed => count_foldPass_lt changed, fun n written shown c mem => ?_⟩
  · rw [String.toList_ofList]
    constructor
    · exact settles.unique
    · rintro rfl
      exact settles
  · rw [String.toList_ofList]
    exact foldPass_eq_self_iff.mp settles.fixed
  · rw [foldLeaf, String.toList_ofList, foldChars_eq_self settles.fixed]
  · exact not_isParenthesis_of rfl rfl (Number.isMark_of_toText shown c mem)

/-- The outer group is folded once the inner one is, and `(x)` stays. -/
theorem folding_settles_of_nested :
    let vars : Entries String := [("a", "3")]
    let text := "((@a + 1) * 0.5vw) (x)".toList
    (foldPass vars none text ≠ text ∧ (foldPass vars none text).count '(' < text.count '(') ∧
      (foldLeaf vars (.text (.ofList text)) = .text "2vw (x)" ∧
        foldLeaf vars (.text "2vw (x)") = .text "2vw (x)") ∧
      (HasGroup ['x'] none "2vw (x)".toList ∧ foldGroup? vars ['x'] = none) ∧
      (Number.toText (.int (-2)) = .ok "-2" ∧ ∀ c ∈ "-2".toList, isParenthesis c = false) := by
  intro vars text
  have folded : foldLeaf vars (.text (.ofList text)) = .text "2vw (x)" := by decide +kernel
  have changed : foldPass vars none text ≠ text := by decide +kernel
  have group : HasGroup ['x'] none "2vw (x)".toList :=
    .append "2vw ".toList (.here rfl (List.forall_mem_singleton.mpr rfl) [])
  have shown : Number.toText (.int (-2)) = .ok "-2" := by decide +kernel
  obtain ⟨⟨result, eq, -, unfolded, again⟩, fewer, marks⟩ := folding_settles vars (.ofList text)
  obtain rfl : "2vw (x)" = result := Value.text.inj (folded.symm.trans eq)
  exact ⟨⟨changed, fewer text changed⟩, ⟨folded, again⟩, ⟨group, unfolded _ group⟩,
    shown, marks _ _ shown⟩

end PageComponent.Style
