import PageComponent.Expr.Evaluation
import PageComponent.Proofs.Outcome

/-!
# Confinement of evaluation

An expression reads the parameters that it names and nothing else, and a list or a mapping that it
gives is one that stands within them.
-/

namespace PageComponent

variable {params params' : Params} {names names' : List String}

/-! ## Reading -/

/-- The parameters have the same values under the given names. -/
def AgreeOn (names : List String) (params params' : Params) : Prop :=
  ∀ name ∈ names, Entries.get? params name = Entries.get? params' name

theorem AgreeOn.mono (h : AgreeOn names params params') (sub : names' ⊆ names) :
    AgreeOn names' params params' :=
  fun name mem => h name (sub mem)

theorem Located.ofParameter_congr {name : String}
    (same : Entries.get? params name = Entries.get? params' name) :
    ofParameter params name = ofParameter params' name := by
  rw [ofParameter, ofParameter, same]

namespace Expr

mutual

theorem evaluate_congr (e : Expr) (same : AgreeOn e.parameters params params') :
    e.evaluate params = e.evaluate params' := by
  match e with
  | .literal _ | .undefined => rfl
  | .ref parameter names =>
    rw [evaluate, evaluate, Located.ofParameter_congr (same parameter List.mem_cons_self)]
  | .member target key =>
    rw [evaluate, evaluate, evaluate_congr target (same.mono (List.subset_append_left ..)),
      evaluate_congr key (same.mono (List.subset_append_right ..))]
  | .binary op left right =>
    rw [evaluate, evaluate, evaluate_congr left (same.mono (List.subset_append_left ..)),
      evaluate_congr right (same.mono (List.subset_append_right ..))]
  | .unary op operand =>
    have same : AgreeOn operand.parameters params params' := same
    rw [evaluate, evaluate, evaluate_congr operand same]
  | .conditional test consequent alternate =>
    obtain ⟨⟨first, second⟩, third⟩ := List.forall_mem_append.mp same |>.imp_left
      List.forall_mem_append.mp
    rw [evaluate, evaluate, evaluate_congr test first, evaluate_congr consequent second,
      evaluate_congr alternate third]
  | .call function arguments =>
    have same : AgreeOn (argumentParameters arguments) params params' := same
    rw [evaluate, evaluate, evaluateAll_congr arguments same]
termination_by structural e

theorem evaluateAll_congr (es : List Expr) (same : AgreeOn (argumentParameters es) params params') :
    evaluateAll params es = evaluateAll params' es := by
  match es with
  | [] => rfl
  | e :: es =>
    rw [evaluateAll, evaluateAll, evaluate_congr e (same.mono (List.subset_append_left ..)),
      evaluateAll_congr es (same.mono (List.subset_append_right ..))]
termination_by structural es

end

end Expr

/-! ## Results -/

namespace Place

theorem get?_child (p : Place) (step : Step) (params : Params) :
    (p.child step).get? params = (p.get? params).bind (follow? · step) := by
  rw [get?, get?, child]
  cases Entries.get? params p.parameter with
  | none => rfl
  | some value =>
    simp only [Option.bind_eq_bind, Option.bind_some, List.foldlM_append, List.foldlM_cons,
      List.foldlM_nil]
    cases List.foldlM follow? value p.steps with
    | none => rfl
    | some inner => simp

end Place

namespace Located

/-- What has a place stands there, within one of the named parameters; a list or a mapping has a
place. -/
structure Within (names : List String) (params : Params) (r : Located) : Prop where
  placed : ∀ p ∈ r.place, p.parameter ∈ names ∧ p.get? params = some r.value
  object : r.value.kind = .object → r.place.isSome = true

namespace Within

theorem mono {r : Located} (h : Within names params r) (sub : names ⊆ names') :
    Within names' params r :=
  ⟨fun p mem => (h.placed p mem).imp_left (sub ·), h.object⟩

theorem computed {value : Value} (plain : value.kind ≠ .object) :
    Within names params (computed value) :=
  ⟨fun _ mem => (Option.not_mem_none _ mem).elim, fun object => absurd object plain⟩

theorem ofParameter {name : String} (mem : name ∈ names) :
    Within names params (ofParameter params name) := by
  rw [Located.ofParameter]
  cases h : Entries.get? params name with
  | none => exact .computed nofun
  | some value =>
    refine ⟨?_, fun _ => rfl⟩
    rintro p here
    obtain rfl := Option.some.inj here
    refine ⟨mem, ?_⟩
    rw [Place.get?, h]
    rfl

theorem child {target : Located} {step : Step} {value : Value}
    (h : Within names params target) (object : target.value.kind = .object)
    (found : Place.follow? target.value step = some value) :
    Within names params (target.child step value) := by
  constructor
  · intro p mem
    obtain ⟨q, place, rfl⟩ := Option.map_eq_some_iff.mp mem
    obtain ⟨named, stands⟩ := h.placed q place
    refine ⟨named, ?_⟩
    rw [Place.get?_child, stands, Option.bind_some, found]
    rfl
  · intro _
    rw [Located.child, Option.isSome_map]
    exact h.object object

end Within

theorem itemMember_eq_ok {name : String} {length : Nat} {item? : Nat → Option Located} {r : Located}
    (h : itemMember name length item? = .ok r) :
    r = computed (Value.int length) ∨ r = undefined ∨ ∃ i, item? i = some r := by
  rw [itemMember] at h
  split at h
  next =>
    cases h
    exact .inl rfl
  next =>
    obtain ⟨index?, _, h⟩ := bind_eq_ok.mp h
    cases index? with
    | none =>
      cases h
      exact .inr (.inl rfl)
    | some i =>
      obtain rfl := Except.ok.inj h
      cases found : item? i with
      | none => exact .inr (.inl rfl)
      | some item => exact .inr (.inr ⟨i, found⟩)

theorem Within.member {target r : Located} {key : Value} (h : Within names params target)
    (access : target.member key = .ok r) : Within names params r := by
  obtain ⟨name, _, access⟩ := bind_eq_ok.mp access
  split at access
  next => cases access
  next => cases access
  next fields value =>
    split at access
    next v found =>
      cases access
      refine h.child (by rw [value]; rfl) ?_
      rw [value]
      exact found
    next =>
      cases access
      exact .computed nofun
  next items value =>
    obtain rfl | rfl | ⟨i, item⟩ := itemMember_eq_ok access
    · exact .computed nofun
    · exact .computed nofun
    · obtain ⟨v, found, rfl⟩ := Option.map_eq_some_iff.mp item
      refine h.child (by rw [value]; rfl) ?_
      rw [value]
      exact found
  next s value =>
    obtain rfl | rfl | ⟨i, item⟩ := itemMember_eq_ok access
    · exact .computed nofun
    · exact .computed nofun
    · obtain ⟨c, _, rfl⟩ := Option.map_eq_some_iff.mp item
      exact .computed nofun
  next =>
    cases access
    exact .computed nofun
  next =>
    cases access
    exact .computed nofun

theorem Within.follow {path : List String} {start r : Located} (h : Within names params start)
    (access : Expr.follow start path = .ok r) : Within names params r := by
  induction path generalizing start with
  | nil =>
    cases access
    exact h
  | cons name path ih =>
    rw [Expr.follow, List.foldlM_cons] at access
    obtain ⟨next, first, others⟩ := bind_eq_ok.mp access
    exact ih (h.member first) others

end Located

/-! ### Operators and functions -/

namespace Value

variable {a b value : Value}

theorem kind_of_compareBy {test : Ordering → Bool} (h : compareBy test a b = .ok value) :
    value.kind = .boolean := by
  obtain ⟨order?, _, h⟩ := bind_eq_ok.mp h
  cases order? <;> cases h <;> rfl

theorem kind_of_plus (h : plus a b = .ok value) : value.kind = .text ∨ value.kind = .number := by
  rw [plus] at h
  split at h
  next =>
    obtain ⟨s, _, h⟩ := bind_eq_ok.mp h
    obtain ⟨t, _, h⟩ := bind_eq_ok.mp h
    cases h
    exact .inl rfl
  next =>
    obtain ⟨n, _, h⟩ := bind_eq_ok.mp h
    cases h
    exact .inr rfl

theorem kind_of_divide {m n : Number} (h : divide m n = .ok value) : value.kind = .number := by
  rw [divide] at h
  split at h
  next => cases h
  next =>
    obtain ⟨quotient, _, h⟩ := bind_eq_ok.mp h
    cases h
    rfl

theorem kind_of_remainder {m n : Number} (h : remainder m n = .ok value) :
    value.kind = .number := by
  rw [remainder] at h
  split at h
  next => cases h
  next =>
    obtain ⟨rest, _, h⟩ := bind_eq_ok.mp h
    cases h
    rfl

end Value

/-- An operator gives its second operand, or what is no list and no mapping. -/
theorem BinaryOp.apply_eq_ok {op : BinaryOp} {a b r : Located} (h : op.apply a b = .ok r) :
    r = b ∨ ∃ value : Value, value.kind ≠ .object ∧ r = .computed value := by
  cases op
  case and | or =>
    cases h
    exact .inl rfl
  case strictEq | strictNe =>
    cases h
    exact .inr ⟨.bool _, nofun, rfl⟩
  all_goals
    obtain ⟨result, applied, h⟩ := bind_eq_ok.mp h
    cases h
    refine .inr ⟨_, ?_, rfl⟩
  case eq | ne | sub | mul => exact nofun
  case lt | gt | le | ge =>
    intro object
    cases (Value.kind_of_compareBy applied).symm.trans object
  case add =>
    intro object
    rcases Value.kind_of_plus applied with kind | kind <;> cases kind.symm.trans object
  case div =>
    intro object
    cases (Value.kind_of_divide applied).symm.trans object
  case rem =>
    intro object
    cases (Value.kind_of_remainder applied).symm.trans object

theorem UnaryOp.kind_of_apply {op : UnaryOp} {v value : Value} (h : op.apply v = .ok value) :
    value.kind ≠ .object := by
  cases op with
  | not =>
    obtain ⟨truth, _, h⟩ := bind_eq_ok.mp h
    cases h
    exact nofun
  | neg | pos =>
    cases h
    exact nofun

theorem kind_of_applyFunction {name : String} {arguments : List Value} {value : Value}
    (h : applyFunction name arguments = .ok value) : value.kind = .number := by
  simp only [applyFunction] at h
  split at h
  next =>
    obtain ⟨least, _, h⟩ := bind_eq_ok.mp h
    cases h
    rfl
  split at h
  next =>
    obtain ⟨greatest, _, h⟩ := bind_eq_ok.mp h
    cases h
    rfl
  split at h
  next =>
    split at h <;> cases h
    rfl
  split at h
  next =>
    split at h
    next =>
      obtain ⟨rounded, _, h⟩ := bind_eq_ok.mp h
      cases h
      rfl
    next => cases h
  next => cases h

theorem Literal.kind_toValue (l : Literal) : l.toValue.kind ≠ .object := by
  cases l <;> exact nofun

/-! ### Expressions -/

namespace Expr

theorem within_evaluate (e : Expr) {r : Located} (h : e.evaluate params = .ok r) :
    r.Within e.parameters params := by
  match e with
  | .literal l =>
    cases h
    exact .computed l.kind_toValue
  | .undefined =>
    cases h
    exact .computed nofun
  | .ref parameter names => exact .follow (.ofParameter List.mem_cons_self) h
  | .member target key =>
    obtain ⟨t, targeted, h⟩ := bind_eq_ok.mp h
    obtain ⟨k, _, h⟩ := bind_eq_ok.mp h
    exact ((within_evaluate target targeted).mono (List.subset_append_left ..)).member h
  | .binary op left right =>
    obtain ⟨a, first, h⟩ := bind_eq_ok.mp h
    obtain ⟨decided, _, h⟩ := bind_eq_ok.mp h
    split at h
    next =>
      cases h
      exact (within_evaluate left first).mono (List.subset_append_left ..)
    next =>
      obtain ⟨b, second, h⟩ := bind_eq_ok.mp h
      obtain rfl | ⟨value, plain, rfl⟩ := BinaryOp.apply_eq_ok h
      · exact (within_evaluate right second).mono (List.subset_append_right ..)
      · exact .computed plain
  | .unary op operand =>
    obtain ⟨v, _, h⟩ := bind_eq_ok.mp h
    obtain ⟨value, applied, h⟩ := bind_eq_ok.mp h
    cases h
    exact .computed (UnaryOp.kind_of_apply applied)
  | .conditional test consequent alternate =>
    obtain ⟨t, _, h⟩ := bind_eq_ok.mp h
    obtain ⟨holds, _, h⟩ := bind_eq_ok.mp h
    split at h
    next =>
      refine (within_evaluate consequent h).mono ?_
      exact fun _ mem => List.mem_append_left _ (List.mem_append_right _ mem)
    next => exact (within_evaluate alternate h).mono (List.subset_append_right ..)
  | .call function arguments =>
    obtain ⟨values, _, h⟩ := bind_eq_ok.mp h
    obtain ⟨value, applied, h⟩ := bind_eq_ok.mp h
    cases h
    refine .computed fun object => ?_
    cases (kind_of_applyFunction applied).symm.trans object
termination_by structural e

/-- Evaluation is confined to the parameters that an expression names: it has the same outcome, a
value or an error, over all parameters with the same values under these names, and a list or a
mapping that it gives stands within the value of one of them. -/
theorem evaluate_confined (e : Expr) :
    (∀ params params' : Params,
      (∀ name ∈ e.parameters, Entries.get? params name = Entries.get? params' name) →
        e.evaluate params = e.evaluate params') ∧
    ∀ (params : Params) (r : Located), e.evaluate params = .ok r → r.value.kind = .object →
      ∃ p ∈ r.place, p.parameter ∈ e.parameters ∧ p.get? params = some r.value := by
  refine ⟨fun _ _ same => evaluate_congr e same, fun params r h object => ?_⟩
  have within := within_evaluate e h
  obtain ⟨p, place⟩ := Option.isSome_iff_exists.mp (within.object object)
  exact ⟨p, place, within.placed p place⟩

/-- A list within a parameter, found behind a parameter that is missing. -/
theorem evaluate_confined_of_index :
    let e : Expr :=
      .binary .or (.ref "hidden" []) (.member (.ref "page" ["items"]) (.literal (.int 1)))
    let inner : Value := .list [.text "a"]
    let page : Value := .mapping [("items", .list [.null, inner])]
    let params : Params := [("page", page), ("other", .null)]
    let params' : Params := [("other", inner), ("page", page)]
    let r : Located := ⟨inner, some ⟨"page", [.key "items", .index 1]⟩⟩
    (∀ name ∈ e.parameters, Entries.get? params name = Entries.get? params' name) ∧
      e.evaluate params = e.evaluate params' ∧
      e.evaluate params = .ok r ∧ r.value.kind = .object ∧
      ∃ p ∈ r.place, p.parameter ∈ e.parameters ∧ p.get? params = some r.value := by
  intro e inner page params params' r
  have same : ∀ name ∈ e.parameters, Entries.get? params name = Entries.get? params' name := by
    simp [e, params, params', Expr.parameters, Entries.get?]
  have found : e.evaluate params = .ok r := rfl
  exact ⟨same, (evaluate_confined e).1 params params' same, found, rfl,
    (evaluate_confined e).2 params r found rfl⟩

end Expr

end PageComponent
