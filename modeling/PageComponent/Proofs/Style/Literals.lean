import PageComponent.Proofs.Style.Scope
import PageComponent.Proofs.Text.Digits
import PageComponent.Proofs.Text.Spans

/-!
# Literals

A parameter becomes a line that defines a variable. Its text is put between quotes as it is, so the
line defines that variable and nothing else exactly if the text may stand between quotes. A numeral
stands by itself, and so must be spelled in ASCII.
-/

namespace PageComponent.Style

open PageComponent.Css

/-! ## Lines that define a variable -/

/-- A dash or nothing. -/
def IsSign (cs : List Char) : Prop :=
  cs = [] ∨ cs = ['-']

/-- The name of a variable. -/
inductive IsIdentifier : List Char → Prop where
  | mk {sign : List Char} {c : Char} {cs : List Char} (signed : IsSign sign)
      (start : isIdentStart c = true) (parts : ∀ d ∈ cs, isIdentPart d = true) :
      IsIdentifier (sign ++ c :: cs)

/-- A decimal number in the given digits. -/
inductive IsNumber (digit : Char → Bool) : List Char → Prop where
  | whole {sign ds : List Char} (signed : IsSign sign) (ne : ds ≠ [])
      (digits : ∀ d ∈ ds, digit d = true) : IsNumber digit (sign ++ ds)
  | pointed {sign ds fs : List Char} (signed : IsSign sign) (ne : ds ≠ [])
      (digits : ∀ d ∈ ds, digit d = true) (ne' : fs ≠ []) (digits' : ∀ d ∈ fs, digit d = true) :
      IsNumber digit (sign ++ (ds ++ '.' :: fs))

/-- What may stand between the quotes of a string: no line ends, a quote only behind a backslash,
and no backslash that escapes nothing. -/
inductive StringBody : List Char → Prop where
  | nil : StringBody []
  | plain {c : Char} {body : List Char} (inner : c ≠ '"') (unescaped : c ≠ '\\')
      (inLine : isLineEnd c = false) (rest : StringBody body) : StringBody (c :: body)
  | escaped {c : Char} {body : List Char} (inLine : isLineEnd c = false)
      (rest : StringBody body) : StringBody ('\\' :: c :: body)

def IsString (cs : List Char) : Prop :=
  ∃ body, cs = inQuotes body ∧ StringBody body

/-- The line defines one variable, as a number or as a string, and nothing else. -/
def Defines (line : List Char) : Prop :=
  ∃ name value, line = '@' :: (name ++ ':' :: (' ' :: (value ++ [';', '\n']))) ∧
    IsIdentifier name ∧ (IsNumber Char.isDigit value ∨ IsString value)

section Spelling

variable {digit digit' : Char → Bool} {cs name value : List Char}

theorem isIdentPart_of_isIdentStart {c : Char} (h : isIdentStart c = true) :
    isIdentPart c = true := by
  simp only [isIdentStart, isIdentPart, Char.isAlphanum, Bool.or_eq_true] at h ⊢
  tauto

theorem IsIdentifier.parts (h : IsIdentifier cs) : ∀ c ∈ cs, isIdentPart c = true := by
  cases h with
  | @mk sign c cs signed start parts =>
    have all : ∀ d ∈ c :: cs, isIdentPart d = true :=
      List.forall_mem_cons.mpr ⟨isIdentPart_of_isIdentStart start, parts⟩
    rcases signed with rfl | rfl
    · exact all
    · exact List.forall_mem_cons.mpr ⟨rfl, all⟩

theorem IsNumber.chars (h : IsNumber digit cs) : ∀ c ∈ cs, digit c = true ∨ c = '-' ∨ c = '.' := by
  have of_sign {sign : List Char} (signed : IsSign sign) : ∀ c ∈ sign, c = '-' := by
    rcases signed with rfl | rfl
    · exact nofun
    · exact List.forall_mem_singleton.mpr rfl
  cases h with
  | whole signed ne digits =>
    intro c mem
    rcases List.mem_append.mp mem with mem | mem
    · exact .inr (.inl (of_sign signed c mem))
    · exact .inl (digits c mem)
  | pointed signed ne digits ne' digits' =>
    intro c mem
    simp only [List.mem_append, List.mem_cons] at mem
    rcases mem with mem | mem | rfl | mem
    · exact .inr (.inl (of_sign signed c mem))
    · exact .inl (digits c mem)
    · exact .inr (.inr rfl)
    · exact .inl (digits' c mem)

theorem IsNumber.imp (h : IsNumber digit cs)
    (others : ∀ c ∈ cs, digit c = true → digit' c = true) : IsNumber digit' cs := by
  cases h with
  | whole signed ne digits =>
    exact .whole signed ne fun d mem => others d (List.mem_append_right _ mem) (digits d mem)
  | pointed signed ne digits ne' digits' =>
    refine .pointed signed ne (fun d mem => others d ?_ (digits d mem)) ne'
      fun d mem => others d ?_ (digits' d mem)
    · exact List.mem_append_right _ (List.mem_append_left _ mem)
    · exact List.mem_append_right _ (List.mem_append_right _ (List.mem_cons_of_mem _ mem))

theorem isString_inQuotes_iff : IsString (inQuotes cs) ↔ StringBody cs := by
  constructor
  · rintro ⟨body, eq, inner⟩
    obtain rfl : cs = body := List.append_cancel_right (List.cons_eq_cons.mp eq).2
    exact inner
  · exact fun inner => ⟨cs, rfl, inner⟩

theorem not_isNumber_inQuotes : ¬IsNumber Char.isDigit (inQuotes cs) := by
  intro number
  have first := number.chars '"' List.mem_cons_self
  simp [Char.isDigit] at first

theorem defines_iff (noColon : ':' ∉ name) :
    Defines ('@' :: (name ++ ':' :: (' ' :: (value ++ [';', '\n'])))) ↔
      IsIdentifier name ∧ (IsNumber Char.isDigit value ∨ IsString value) := by
  constructor
  · rintro ⟨name', value', eq, identifier, spelled⟩
    have noColon' : ':' ∉ name' := fun mem => by cases identifier.parts ':' mem
    have line := (List.cons_eq_cons.mp eq).2
    have others {name : List Char} (noColon : ':' ∉ name) :
        ∀ c ∈ name, decide (c ≠ ':') = true :=
      fun c mem => decide_eq_true fun eq => noColon (eq ▸ mem)
    have names := congrArg (List.takeWhile (· ≠ ':')) line
    rw [Text.takeWhile_append_stop (others noColon) (by simp),
      Text.takeWhile_append_stop (others noColon') (by simp)] at names
    subst names
    have values := List.append_cancel_left line
    simp only [List.cons.injEq, true_and, List.append_cancel_right_eq] at values
    subst values
    exact ⟨identifier, spelled⟩
  · exact fun h => ⟨name, value, rfl, h⟩

end Spelling

/-! ## What the patterns let through -/

section Patterns

variable {cs : List Char}

theorem dropLineEnd_eq_self (h : '\n' ∉ cs) : dropLineEnd cs = cs := by
  unfold dropLineEnd
  rw [if_neg]
  exact fun last => h (List.mem_of_getLast? last)

theorem mem_dropLineEnd_or {c : Char} (h : c ∈ cs) : c ∈ dropLineEnd cs ∨ c = '\n' := by
  unfold dropLineEnd
  split
  next last =>
    obtain ⟨front, rfl⟩ := List.getLast?_eq_some_iff.mp last
    rw [List.dropLast_concat]
    simpa using h
  next => exact .inl h

theorem exists_sign (cs : List Char) : ∃ sign, IsSign sign ∧
    cs = sign ++ if cs.head? = some '-' then cs.drop 1 else cs := by
  by_cases signed : cs.head? = some '-'
  · obtain ⟨rest, rfl⟩ := List.head?_eq_some_iff.mp signed
    exact ⟨['-'], .inr rfl, rfl⟩
  · exact ⟨[], .inl rfl, by rw [if_neg signed, List.nil_append]⟩

theorem isNumber_of_isNumeral (h : isNumeral cs = true) :
    IsNumber Text.isDigit (dropLineEnd cs) := by
  unfold isNumeral at h
  dsimp only at h
  obtain ⟨sign, signed, eq⟩ := exists_sign (dropLineEnd cs)
  generalize (if (dropLineEnd cs).head? = some '-' then (dropLineEnd cs).drop 1
    else dropLineEnd cs) = unsigned at h eq
  have parts := @List.takeWhile_append_dropWhile _ Text.isDigit unsigned
  have digits : ∀ d ∈ unsigned.takeWhile Text.isDigit, Text.isDigit d = true :=
    fun d mem => List.mem_takeWhile_imp mem
  simp only [Bool.and_eq_true, Bool.not_eq_true', List.isEmpty_eq_false_iff] at h
  obtain ⟨ne, fraction⟩ := h
  rw [eq, ← parts]
  cases behind : unsigned.dropWhile Text.isDigit with
  | nil =>
    rw [List.append_nil]
    exact .whole signed ne digits
  | cons c fs =>
    simp only [behind, Bool.and_eq_true, beq_iff_eq, Bool.not_eq_true', List.isEmpty_eq_false_iff,
      List.all_eq_true] at fraction
    obtain ⟨⟨rfl, ne'⟩, digits'⟩ := fraction
    exact .pointed signed ne digits ne' digits'

theorem isIdentifier_of_isVariableName {name : String} (h : isVariableName name = true) :
    IsIdentifier (dropLineEnd name.toList) := by
  unfold isVariableName at h
  dsimp only at h
  obtain ⟨sign, signed, eq⟩ := exists_sign (dropLineEnd name.toList)
  generalize (if (dropLineEnd name.toList).head? = some '-' then (dropLineEnd name.toList).drop 1
    else dropLineEnd name.toList) = unsigned at h eq
  cases unsigned with
  | nil => cases h
  | cons c cs =>
    rw [Bool.and_eq_true, List.all_eq_true] at h
    rw [eq]
    exact .mk signed h.1 h.2

theorem isIdentifier_iff_of_isVariableName {name : String} (h : isVariableName name = true) :
    IsIdentifier name.toList ↔ '\n' ∉ name.toList := by
  constructor
  · intro identifier mem
    cases identifier.parts '\n' mem
  · intro inLine
    rw [← dropLineEnd_eq_self inLine]
    exact isIdentifier_of_isVariableName h

theorem colon_not_mem_of_isVariableName {name : String} (h : isVariableName name = true) :
    ':' ∉ name.toList := by
  intro mem
  rcases mem_dropLineEnd_or mem with mem | eq
  · cases (isIdentifier_of_isVariableName h).parts ':' mem
  · cases eq

theorem isNumber_iff_of_isNumeral (h : isNumeral cs = true) :
    IsNumber Char.isDigit cs ↔ ∀ c ∈ cs, c.toNat < 0x80 ∧ c ≠ '\n' := by
  constructor
  · intro number c mem
    rcases number.chars c mem with digit | rfl | rfl
    · have bounds := Text.ascii_isDigit_iff.mp digit
      refine ⟨by omega, ?_⟩
      rintro rfl
      cases digit
    · decide
    · decide
  · intro plain
    have number := isNumber_of_isNumeral h
    rw [dropLineEnd_eq_self fun mem => (plain '\n' mem).2 rfl] at number
    exact number.imp fun c mem => Text.isDigit_of_ascii (plain c mem).1

theorem not_isString_of_isNumeral (h : isNumeral cs = true) : ¬IsString cs := by
  rintro ⟨body, rfl, _⟩
  have first : '"' ∈ dropLineEnd (inQuotes body) :=
    (mem_dropLineEnd_or List.mem_cons_self).resolve_right (by decide)
  rcases (isNumber_of_isNumeral h).chars '"' first with digit | dash | point
  · cases Text.isDigit_of_ascii (by decide) digit
  · cases dash
  · cases point

end Patterns

/-! ## The lines of a style source -/

section Declarations

variable {params fields : Params} {colours : List String} {vars vars' : Entries String}

/-- The text of a parameter in which the root of the assets is left out. -/
def relative (s : String) : List Char :=
  Text.replaceAll assetRoot.toList [] s.toList

/-- The variables that are defined ahead of the block, in order. -/
def declarations (params : Params) (colours : List String) :
    Except TooLarge (Entries String) := do
  return (← variablesOf params colours).filter fun entry => isVariableName entry.1

/-- A leaf has the name, and the value is that of the leaf, or of the parameter of that name. -/
def Holds (params : Params) (name : String) (value : Value) : Prop :=
  ∃ fields, withBackground params = .ok fields ∧ ∃ leaf ∈ leaves "" fields,
    leaf.1 = name ∧ (Entries.get? fields name).getD leaf.2 = value

theorem mem_entries_set {entry : String × String} {name literal : String}
    (mem : entry ∈ Entries.set vars name literal) : entry = (name, literal) ∨ entry ∈ vars := by
  induction vars with
  | nil => exact .inl (List.mem_singleton.mp mem)
  | cons first vars ih =>
    obtain ⟨key, other⟩ := first
    rw [Entries.set] at mem
    split at mem
    next same =>
      rcases List.mem_cons.mp mem with eq | mem
      · exact .inl (same ▸ eq)
      · exact .inr (List.mem_cons_of_mem _ mem)
    next =>
      rcases List.mem_cons.mp mem with eq | mem
      · exact .inr (eq ▸ List.mem_cons_self)
      · exact (ih mem).imp_right (List.mem_cons_of_mem _)

/-- Setting the variables of some leaves one after another. -/
theorem foldlM_literals {step : Entries String → String × Value → Except TooLarge (Entries String)}
    (steps : ∀ vars leaf, step vars leaf = (do
      return Entries.set vars leaf.1
        (← literal colours leaf.1 ((Entries.get? fields leaf.1).getD leaf.2))))
    (ls : List (String × Value)) (h : ls.foldlM step vars = .ok vars') :
    (∀ entry ∈ vars', entry ∈ vars ∨ ∃ leaf ∈ ls, leaf.1 = entry.1 ∧
      literal colours entry.1 ((Entries.get? fields entry.1).getD leaf.2) = .ok entry.2) ∧
    (∀ name ∈ Entries.keys vars, name ∈ Entries.keys vars') ∧
    (∀ leaf ∈ ls, leaf.1 ∈ Entries.keys vars') := by
  induction ls generalizing vars with
  | nil =>
    cases h
    exact ⟨fun entry mem => .inl mem, fun name mem => mem, nofun⟩
  | cons leaf ls ih =>
    rw [List.foldlM_cons, steps] at h
    obtain ⟨next, stepped, h⟩ := bind_eq_ok.mp h
    obtain ⟨written, shown, stepped⟩ := bind_eq_ok.mp stepped
    cases stepped
    obtain ⟨entries, kept, named⟩ := ih h
    have keys {name : String} (mem : name = leaf.1 ∨ name ∈ Entries.keys vars) :
        name ∈ Entries.keys (Entries.set vars leaf.1 written) := by
      rw [Entries.keys_set]
      split <;> grind
    refine ⟨fun entry mem => ?_, fun name mem => kept name (keys (.inr mem)), ?_⟩
    · rcases entries entry mem with mem | ⟨leaf', mem, given⟩
      · rcases mem_entries_set mem with rfl | mem
        · exact .inr ⟨leaf, List.mem_cons_self, rfl, shown⟩
        · exact .inl mem
      · exact .inr ⟨leaf', List.mem_cons_of_mem _ mem, given⟩
    · exact List.forall_mem_cons.mpr ⟨kept leaf.1 (keys (.inl rfl)), named⟩

theorem of_declarations (h : declarations params colours = .ok vars) :
    (∀ entry ∈ vars, isVariableName entry.1 = true ∧
      ∃ value, Holds params entry.1 value ∧ literal colours entry.1 value = .ok entry.2) ∧
    (∀ name value, Holds params name value → isVariableName name = true →
      name ∈ Entries.keys vars) := by
  obtain ⟨all, found, filtered⟩ := bind_eq_ok.mp h
  cases filtered
  obtain ⟨fields, given, folded⟩ := bind_eq_ok.mp found
  obtain ⟨entries, _, named⟩ := foldlM_literals (fun vars leaf => rfl) _ folded
  constructor
  · intro entry mem
    obtain ⟨mem, valid⟩ := List.mem_filter.mp mem
    obtain ⟨leaf, inside, name, shown⟩ := (entries entry mem).resolve_left (List.not_mem_nil)
    exact ⟨valid, _, ⟨fields, given, leaf, inside, name, rfl⟩, shown⟩
  · rintro name value ⟨fields', given', leaf, inside, rfl, _⟩ valid
    cases given.symm.trans given'
    obtain ⟨entry, mem, name⟩ := List.mem_map.mp (named leaf inside)
    exact List.mem_map.mpr ⟨entry, List.mem_filter.mpr ⟨mem, by rwa [name]⟩, name⟩

theorem source_eq (styles : StyleTree) (cid : String) :
    source styles params cid colours = (do
      let vars ← declarations params colours
      let body ← print (foldFields vars styles)
      return String.join (vars.map variableLine) ++ ".cid-" ++ cid ++ " \x7b " ++ body ++
        " \x7d") := by
  unfold source declarations
  cases variablesOf params colours <;> rfl

theorem toList_variableLine (entry : String × String) : (variableLine entry).toList =
    '@' :: (entry.1.toList ++ ':' :: (' ' :: (entry.2.toList ++ [';', '\n']))) := by
  simp [variableLine]

/-- The line of a variable whose value is the text `cs`, in quotes or without. -/
theorem defines_textLiteral_iff {name : String} {cs : List Char}
    (valid : isVariableName name = true) (noColour : name ∉ colours)
    (quoted : ¬(name = backgroundValue ∧ isColour cs = true)) :
    Defines (variableLine (name, .ofList (textLiteral colours name cs))).toList ↔
      '\n' ∉ name.toList ∧
        if name ≠ backgroundValue ∧ isNumeral cs = true then ∀ c ∈ cs, c.toNat < 0x80 ∧ c ≠ '\n'
        else StringBody cs := by
  rw [toList_variableLine, defines_iff (colon_not_mem_of_isVariableName valid),
    isIdentifier_iff_of_isVariableName valid, String.toList_ofList]
  refine and_congr_right fun _ => ?_
  have inQuotes_iff : IsNumber Char.isDigit (inQuotes cs) ∨ IsString (inQuotes cs) ↔
      StringBody cs := by
    rw [or_iff_right not_isNumber_inQuotes, isString_inQuotes_iff]
  rw [textLiteral, if_neg (by simpa using noColour)]
  by_cases background : name = backgroundValue
  · rw [if_pos background, if_neg fun colour => quoted ⟨background, colour⟩, inQuotes_iff,
      if_neg fun bare => bare.1 background]
  · rw [if_neg background]
    by_cases numeral : isNumeral cs = true
    · rw [if_pos numeral, if_pos ⟨background, numeral⟩, ← isNumber_iff_of_isNumeral numeral]
      exact or_iff_left (not_isString_of_isNumeral numeral)
    · rw [if_neg numeral, if_neg fun bare => numeral bare.2, inQuotes_iff]

/-- Each leaf whose name a variable may have gets a line. For a text that is written as a number or
in quotes, the line defines one variable and nothing else exactly if the name has no line end, a
number has ASCII digits and no line end, and what stands in quotes may stand there. -/
theorem declaration_defines_iff (h : declarations params colours = .ok vars) :
    (∀ styles cid, source styles params cid colours = (do
      let body ← print (foldFields vars styles)
      return String.join (vars.map variableLine) ++ ".cid-" ++ cid ++ " \x7b " ++ body ++
        " \x7d")) ∧
    (∀ name value, Holds params name value → isVariableName name = true →
      name ∈ Entries.keys vars) ∧
    ∀ entry ∈ vars, ∃ value, Holds params entry.1 value ∧
      literal colours entry.1 value = .ok entry.2 ∧
      ∀ s, value = .text s → entry.1 ∉ colours →
        ¬(entry.1 = backgroundValue ∧ isColour (relative s) = true) →
        (Defines (variableLine entry).toList ↔ '\n' ∉ entry.1.toList ∧
          if entry.1 ≠ backgroundValue ∧ isNumeral (relative s) = true then
            ∀ c ∈ relative s, c.toNat < 0x80 ∧ c ≠ '\n'
          else StringBody (relative s)) := by
  obtain ⟨entries, named⟩ := of_declarations h
  refine ⟨fun styles cid => ?_, named, fun entry mem => ?_⟩
  · rw [source_eq, h]
    rfl
  · obtain ⟨valid, value, holds, shown⟩ := entries entry mem
    refine ⟨value, holds, shown, ?_⟩
    rintro s rfl noColour quoted
    have written : String.ofList (textLiteral colours entry.1 (relative s)) = entry.2 :=
      Except.ok.inj shown
    have line := @defines_textLiteral_iff colours _ _ valid noColour quoted
    rwa [written] at line

/-- A quote in a title ends its string; a title without one is safe. -/
theorem declaration_of_quote :
    let params : Params := [("title", .text "a\"b"), ("lead", .text "ab")]
    declarations params [] = .ok [("title", "\"a\"b\""), ("lead", "\"ab\"")] ∧
    ¬Defines (variableLine ("title", "\"a\"b\"")).toList ∧
    Defines (variableLine ("lead", "\"ab\"")).toList := by
  intro params
  have declared : declarations params [] = .ok [("title", "\"a\"b\""), ("lead", "\"ab\"")] := by
    cbv
  have given : withBackground params = .ok params := by cbv
  have lines := (declaration_defines_iff declared).2.2
  refine ⟨declared, ?_, ?_⟩
  · obtain ⟨_, ⟨fields, given', leaf, _, _, rfl⟩, _, line⟩ :=
      lines ("title", "\"a\"b\"") (by simp)
    cases given.symm.trans given'
    have broken : relative "a\"b" = ['a', '"', 'b'] := by cbv
    have line := line "a\"b" (by simp [params, Entries.get?]) (by simp) (by simp [backgroundValue])
    intro defines
    have body := (line.mp defines).2
    rw [broken, if_neg (by decide)] at body
    cases body with
    | plain _ _ _ rest => cases rest with
      | plain inner => exact inner rfl
  · obtain ⟨_, ⟨fields, given', leaf, _, _, rfl⟩, _, line⟩ := lines ("lead", "\"ab\"") (by simp)
    cases given.symm.trans given'
    have plain : relative "ab" = ['a', 'b'] := by cbv
    have line := line "ab" (by simp [params, Entries.get?]) (by simp) (by simp [backgroundValue])
    refine line.mpr ⟨by decide, ?_⟩
    rw [plain, if_neg (by decide)]
    exact .plain (by decide) (by decide) rfl (.plain (by decide) (by decide) rfl .nil)

end Declarations

end PageComponent.Style
