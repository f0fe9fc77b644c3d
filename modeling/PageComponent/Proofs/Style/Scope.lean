import PageComponent.Less.Value
import PageComponent.Proofs.Directive.Settled
import PageComponent.Proofs.Value.Showing
import PageComponent.Rest
import PageComponent.Style.Source

/-!
# Scope

The root of a component bears a class, and the styles of the component are in a block behind the
selector of that class. Both are written by putting the scope id behind a fixed text, so they agree
for the ids that hold neither a blank nor a character that a style sheet reads as something else
than itself.
-/

namespace PageComponent

/-! ## Class selectors -/

namespace Css

/-- Beyond ASCII every character may stand in a name. -/
def isNameStart (c : Char) : Bool :=
  c.isAlpha || c == '_' || 0x80 ≤ c.toNat

def isNamePart (c : Char) : Bool :=
  isNameStart c || c.isDigit || c == '-'

def isLineEnd (c : Char) : Bool :=
  c == '\n' || c == '\r' || c == '\x0C'

/-- Takes the place of what is no character. -/
def replacement : Char :=
  '\uFFFD'

def charOf (n : Nat) : Char :=
  if n ≠ 0 ∧ n.isValidChar then Char.ofNat n else replacement

/-- The number of characters at the front of `cs` that are one blank. -/
def blankLength (cs : List Char) : Nat :=
  if cs.take 2 = ['\r', '\n'] then 2
  else if cs.head?.any fun c => c == ' ' || c == '\t' || isLineEnd c then 1
  else 0

/-- What a backslash in front of `c :: cs` stands for: a character by its code point, of which there
are up to six hexadecimal digits and a blank that ends them, or `c`. -/
def readEscape (c : Char) (cs : List Char) : Char × Shorter (c :: cs) :=
  let digits := ((c :: cs).takeWhile Less.Stretch.isHexDigit).take 6
  if digits = [] then (charOf c.toNat, .tail c cs)
  else
    (charOf ((Text.radixValue? 16 digits).getD 0),
      .drop (digits.length + blankLength ((c :: cs).drop digits.length)) c cs)

/-- The name at the front of `cs`, and what follows it. -/
def readName (cs : List Char) : List Char × List Char :=
  match cs with
  | [] => ([], [])
  | c :: r =>
    if isNamePart c ∨ c = '\x00' then
      let (name, rest) := readName r
      (charOf c.toNat :: name, rest)
    else if c ≠ '\\' then ([], c :: r)
    else match r with
      | [] => ([replacement], [])
      | d :: r =>
        if isLineEnd d then ([], c :: d :: r)
        else
          let (e, behind) := readEscape d r
          let (name, rest) := readName behind.1
          (e :: name, rest)
termination_by cs.length
decreasing_by
  · exact Nat.lt_succ_self _
  · exact Nat.lt_succ_of_lt behind.2

/-- Whether a backslash in front of `cs` begins an escape. -/
def isEscape (cs : List Char) : Bool :=
  !cs.head?.any isLineEnd

def startsName : List Char → Bool
  | '-' :: '-' :: _ => true
  | '-' :: '\\' :: cs | '\\' :: cs => isEscape cs
  | '-' :: c :: _ | c :: _ => isNameStart c || c == '\x00'
  | [] => false

/-- The class that a selector names, if it is a class selector and nothing else. -/
def classSelector? (selector : String) : Option String :=
  match selector.toList with
  | '.' :: cs =>
    let (name, rest) := readName cs
    if startsName cs ∧ rest = [] then some (.ofList name) else none
  | _ => none

theorem classSelector?_of_point {selector : String} {cs : List Char}
    (h : selector.toList = '.' :: cs) :
    classSelector? selector =
      if startsName cs = true ∧ (readName cs).2 = [] then some (.ofList (readName cs).1)
      else none := by
  rw [classSelector?, h]
  rfl

/-- Whether what stands behind the selector applies to the element with the tag. -/
def Selects (selector : String) (tag : Tag) : Prop :=
  ∃ name ∈ classSelector? selector, name ∈ tag.classes

theorem charOf_toNat {c : Char} (h : c ≠ '\x00') : charOf c.toNat = c := by
  have filled : c.toNat ≠ 0 := fun zero => h (Char.toNat_inj.mp zero)
  rw [charOf, if_pos ⟨filled, c.valid⟩, Char.ofNat_toNat]

/-- Escapes make a name shorter than its spelling. -/
theorem length_readName_le (cs : List Char) : (readName cs).1.length ≤ cs.length := by
  fun_induction readName cs with
  | case1 => exact Nat.le_refl 0
  | case2 c r part name rest read ih =>
    rw [read] at ih
    exact Nat.succ_le_succ ih
  | case3 | case5 => exact Nat.zero_le _
  | case4 => exact Nat.le_refl 1
  | case6 c stop escape d r inside e behind escaped name rest read ih =>
    rw [read] at ih
    exact Nat.succ_le_succ (Nat.le_trans ih (Nat.le_of_lt behind.2))

example : readName "1\\.5".toList = ("1.5".toList, []) := by cbv

/-- A name is its own spelling if it is spelled without escapes. -/
theorem readName_eq_self_iff {cs : List Char} :
    readName cs = (cs, []) ↔ ∀ c ∈ cs, isNamePart c = true := by
  fun_induction readName cs with
  | case1 => exact iff_of_true rfl fun _ mem => (List.not_mem_nil mem).elim
  | case2 c r start name rest read ih =>
    rw [read] at ih
    by_cases part : isNamePart c = true
    · have filled : c ≠ '\x00' := by
        rintro rfl
        cases part
      rw [charOf_toNat filled, List.forall_mem_cons, and_iff_right part, ← ih]
      simp only [Prod.mk.injEq, List.cons.injEq, true_and]
    · obtain rfl := start.resolve_left part
      refine iff_of_false (fun same => ?_) fun parts => part (parts _ List.mem_cons_self)
      exact absurd (List.cons.inj (congrArg Prod.fst same)).1 (by decide)
  | case3 c r stop other =>
    exact iff_of_false nofun fun parts => stop (.inl (parts _ List.mem_cons_self))
  | case4 c stop escape =>
    refine iff_of_false ?_ fun parts => stop (.inl (parts _ List.mem_cons_self))
    obtain rfl := Classical.not_not.mp escape
    decide
  | case5 c stop escape d r lineEnd =>
    exact iff_of_false nofun fun parts => stop (.inl (parts _ List.mem_cons_self))
  | case6 c stop escape d r inside e behind escaped name rest read ih =>
    refine iff_of_false (fun same => ?_) fun parts => stop (.inl (parts _ List.mem_cons_self))
    have longest : name = d :: r := (List.cons.inj (congrArg Prod.fst same)).2
    have shorter := length_readName_le behind.1
    rw [read, longest] at shorter
    exact Nat.not_lt_of_le shorter behind.2

end Css

/-! ## Scope ids -/

theorem Value.label_ne_empty {value : Value} (h : value ≠ .text "") : value.label ≠ "" := by
  cases value with
  | text s =>
    rintro rfl
    exact h rfl
  | null | undefined => decide
  | bool b => cases b <;> decide
  | number n =>
    change n.inspect ≠ ""
    cases n with
    | int n => exact toString_int_ne_empty n
    | float x => exact NumberFormat.precise.write_ne_empty (by decide) x
  | list items =>
    change "[" ++ ", ".intercalate (inspectItems items) ++ "]" ≠ ""
    simp
  | mapping fields =>
    change "\x7b" ++ ", ".intercalate (inspectFields fields) ++ "\x7d" ≠ ""
    simp

/-- Every text but the empty one is a scope id. -/
theorem RenderOptions.exists_scopeId?_iff {id : String} :
    (∃ value, scopeId? value = some id) ↔ id ≠ "" := by
  constructor
  · rintro ⟨value, accepted⟩
    unfold scopeId? at accepted
    split at accepted
    next => cases accepted
    next => cases accepted
    next some filled =>
      obtain rfl := Option.some.inj accepted
      exact Value.label_ne_empty filled
  · intro filled
    exact ⟨.text id, by simp [scopeId?, filled, Value.label]⟩

namespace Style

open Css

variable {id : String} {options : RenderOptions} {tag : Tag}

/-- The class of a root. -/
def scopeClass (id : String) : String :=
  "cid-" ++ id

/-- What stands in front of the block of styles. -/
def scopeSelector (id : String) : String :=
  ".cid-" ++ id

theorem toList_scopeClass : (scopeClass id).toList = ['c', 'i', 'd', '-'] ++ id.toList := by
  simp [scopeClass]

theorem classSelector?_scopeSelector :
    classSelector? (scopeSelector id) = some (scopeClass id) ↔
      ∀ c ∈ id.toList, isNamePart c = true := by
  have selector : (scopeSelector id).toList = '.' :: (scopeClass id).toList := by
    simp [scopeSelector, scopeClass]
  have starts : startsName (scopeClass id).toList = true := by
    rw [toList_scopeClass]
    rfl
  have fixed : ∀ c ∈ ['c', 'i', 'd', '-'], isNamePart c = true := by
    simp [isNamePart, isNameStart]
  have parts : (∀ c ∈ (scopeClass id).toList, isNamePart c = true) ↔
      ∀ c ∈ id.toList, isNamePart c = true := by
    rw [toList_scopeClass, List.forall_mem_append, and_iff_right fixed]
  rw [← parts, ← readName_eq_self_iff, classSelector?_of_point selector, starts]
  constructor
  · intro named
    obtain ⟨⟨_, rest⟩, name⟩ := Option.ite_none_right_eq_some.mp named
    have name := congrArg String.toList (Option.some.inj name)
    rw [String.toList_ofList] at name
    exact Prod.ext name rest
  · intro read
    rw [read, if_pos ⟨rfl, rfl⟩, String.ofList_toList]

/-- The classes of a section that has its scope. -/
theorem classes_applyScope (isSection : tag.name = "section") :
    (Pass.applyScope options tag).classes =
      (blankWords (scopeClass (options.cid.getD ""))).foldl Tag.insertClass tag.classes := by
  have classed : (tag.addClasses (scopeClass (options.cid.getD ""))).classes =
      (blankWords (scopeClass (options.cid.getD ""))).foldl Tag.insertClass tag.classes :=
    Tag.classes_setClasses fun _ => Tag.isWord_of_mem_addedClasses
  rw [Pass.applyScope, if_pos isSection, ← scopeClass, ← classed]
  split
  next anchor written =>
    split
    next => rfl
    next =>
      refine Tag.classes_congr ?_
      rw [Tag.get?_set, if_neg (by decide)]
  next => rfl

/-- The markup and the styles of a component have one scope. -/
structure SharesScope (id : String) : Prop where
  /-- The styles are in a block behind the selector. -/
  block : ∀ {styles : StyleTree} {params : Params} {colours : List String} {less : String},
    source styles params id colours = .ok less →
      ∃ (vars : Entries String) (body : String),
        less = String.join (vars.map variableLine) ++ scopeSelector id ++ " \x7b " ++ body ++
          " \x7d"
  /-- The selector is read as that of the class. -/
  selector : classSelector? (scopeSelector id) = some (scopeClass id)
  /-- A root that is a section has the classes that it had and the class of the scope, so that the
  selector selects it. -/
  root : ∀ {ctx : RenderContext} {nodes : List Node} {tag : Tag}, ctx.options.cid = some id →
    Pass.rootTag? nodes = some tag → tag.name = "section" →
      ∃ nodes' tag', Pass.scope.run ctx nodes = .ok nodes' ∧ Pass.rootTag? nodes' = some tag' ∧
        tag'.classes = Tag.insertClass tag.classes (scopeClass id) ∧
        Selects (scopeSelector id) tag'

theorem source_block {styles : StyleTree} {params : Params} {colours : List String} {less : String}
    (h : source styles params id colours = .ok less) :
    ∃ (vars : Entries String) (body : String),
      less = String.join (vars.map variableLine) ++ scopeSelector id ++ " \x7b " ++ body ++
        " \x7d" := by
  obtain ⟨vars, _, h⟩ := bind_eq_ok.mp h
  obtain ⟨body, _, written⟩ := bind_eq_ok.mp h
  refine ⟨vars.filter fun entry => isVariableName entry.1, body, ?_⟩
  rw [← Except.ok.inj written, scopeSelector, ← String.append_assoc]

theorem isWord_scopeClass_iff :
    Text.IsWord (scopeClass id).toList ↔ ∀ c ∈ id.toList, Text.isBlank c = false := by
  have fixed : ∀ c ∈ ['c', 'i', 'd', '-'], Text.isBlank c = false := by
    simp [Text.isBlank]
  rw [toList_scopeClass]
  constructor
  · exact fun word c mem => word.solid c (List.mem_append_right _ mem)
  · exact fun solid => ⟨List.cons_ne_nil _ _, List.forall_mem_append.mpr ⟨fixed, solid⟩⟩

theorem blankWords_scopeClass (solid : ∀ c ∈ id.toList, Text.isBlank c = false) :
    blankWords (scopeClass id) = [scopeClass id] := by
  have words : ∀ name ∈ [scopeClass id], Text.IsWord name.toList :=
    List.forall_mem_singleton.mpr (isWord_scopeClass_iff.mpr solid)
  have read := blankWords_intercalate words
  rwa [String.intercalate_singleton] at read

/-- What the scope pass makes of a root that is a section. -/
theorem exists_scoped {ctx : RenderContext} {nodes : List Node} (filled : id ≠ "")
    (cid : ctx.options.cid = some id) (root : Pass.rootTag? nodes = some tag)
    (isSection : tag.name = "section") :
    ∃ nodes' tag', Pass.scope.run ctx nodes = .ok nodes' ∧ Pass.rootTag? nodes' = some tag' ∧
      tag'.classes = (blankWords (scopeClass id)).foldl Tag.insertClass tag.classes := by
  have given : ctx.options.cid.getD "" = id := by
    rw [cid]
    rfl
  refine ⟨Pass.onRoot (Pass.applyScope ctx.options) nodes, Pass.applyScope ctx.options tag, ?_, ?_,
    ?_⟩
  · rw [Pass.run, given, if_neg filled]
  · rw [Pass.rootTag?_onRoot, root]
    rfl
  · rw [classes_applyScope isSection, given]

/-- Markup and styles have one scope for exactly the ids that hold no blank and are spelled as a
style sheet spells names. -/
theorem sharesScope_iff {value : Value} (accepted : RenderOptions.scopeId? value = some id) :
    SharesScope id ↔ ∀ c ∈ id.toList, isNamePart c = true ∧ Text.isBlank c = false := by
  have filled : id ≠ "" := RenderOptions.exists_scopeId?_iff.mp ⟨value, accepted⟩
  constructor
  · intro shares
    have parts := classSelector?_scopeSelector.mp shares.selector
    -- A section without classes shows whether the class is a single word.
    let ctx : RenderContext := ⟨[], { cid := some id }⟩
    have bare : Pass.rootTag? [.element ⟨"section", []⟩ []] = some ⟨"section", []⟩ := rfl
    obtain ⟨nodes', tag', _, _, classes, _⟩ := @shares.root ctx _ _ rfl bare rfl
    have word : Text.IsWord (scopeClass id).toList := by
      have mem : scopeClass id ∈ tag'.classes := by
        rw [classes, Tag.mem_insertClass]
        exact .inr rfl
      exact isWord_of_mem_blankWords mem
    exact fun c mem => ⟨parts c mem, isWord_scopeClass_iff.mp word c mem⟩
  · intro plain
    have selector := classSelector?_scopeSelector.mpr fun c mem => (plain c mem).1
    refine ⟨source_block, selector, fun cid root isSection => ?_⟩
    obtain ⟨nodes', tag', run, root', classes⟩ := exists_scoped filled cid root isSection
    rw [blankWords_scopeClass fun c mem => (plain c mem).2] at classes
    refine ⟨nodes', tag', run, root', classes, scopeClass id, selector, ?_⟩
    rw [classes]
    exact Tag.mem_insertClass.mpr (.inr rfl)

/-- A point is no part of a name, so the scope of a number with a fraction is not shared. -/
theorem not_sharesScope_of_fraction :
    let value : Value := .number (.float (.ofDecimal false 15 (-1)))
    RenderOptions.scopeId? value = some "1.5" ∧ ¬SharesScope "1.5" := by
  intro value
  have accepted : RenderOptions.scopeId? value = some "1.5" := by decide +kernel
  refine ⟨accepted, fun shares => ?_⟩
  have plain := (sharesScope_iff accepted).mp shares '.' (by decide)
  cases plain.1

end Style

end PageComponent
