import PageComponent.Proofs.Markup.Escapes

/-!
# Printed start tags

The print of a tag is read as the tag, whatever its attributes hold and whatever follows it.
-/

namespace PageComponent

theorem NotLonger.dropWhile_eq {α : Type} {p : α → Bool} {xs ys : List α}
    (h : xs.dropWhile p = ys) : ∃ short, NotLonger.dropWhile p xs = ⟨ys, short⟩ := by
  subst h
  exact ⟨(List.dropWhile_sublist p).length_le, rfl⟩

namespace StartTag

variable {c q : Char} {cs body rest : List Char}

/-! ## Names -/

/-- What a name may hold behind its first letter: any character that is no capital letter and ends
no name of a tag or an attribute. -/
def isNamePart (c : Char) : Bool :=
  Text.lowerChar c == [c] && isAttributeNamePart c && !isNameEnd c

/-- Names of tags and of attributes that are read as they are written. -/
def isName (name : String) : Bool :=
  match name.toList with
  | c :: cs => c.isLower && cs.all isNamePart
  | [] => false

theorem exists_of_isName {name : String} (h : isName name = true) :
    ∃ c cs, name.toList = c :: cs ∧ c.isLower = true ∧ ∀ d ∈ cs, isNamePart d = true := by
  rw [isName] at h
  split at h
  next c cs eq =>
    obtain ⟨first, others⟩ := Bool.and_eq_true_iff.mp h
    exact ⟨c, cs, eq, first, List.all_eq_true.mp others⟩
  next => cases h

/-- Small letters, digits, dashes and underscores. -/
theorem isNamePart_of_ascii (h : c.isLower = true ∨ c.isDigit = true ∨ c = '-' ∨ c = '_') :
    isNamePart c = true := by
  have ascii : ∀ n < 128, (Char.ofNat n).isLower = true ∨ (Char.ofNat n).isDigit = true ∨
      Char.ofNat n = '-' ∨ Char.ofNat n = '_' → isNamePart (Char.ofNat n) = true := by decide
  have small : c.toNat < 128 := by
    rcases h with lower | digit | rfl | rfl
    · have bound := UInt32.le_iff_toNat_le.mp (of_decide_eq_true (Bool.and_eq_true_iff.mp lower).2)
      exact Nat.lt_of_le_of_lt bound (by decide)
    · exact Nat.lt_of_le_of_lt (Text.ascii_isDigit_iff.mp digit).2 (by decide)
    · decide
    · decide
  rw [← Char.ofNat_toNat c] at h ⊢
  exact ascii c.toNat small h

theorem isNamePart_iff : isNamePart c = true ↔
    Text.lowerChar c = [c] ∧ isAttributeNamePart c = true ∧ isNameEnd c = false := by
  rw [isNamePart, Bool.and_eq_true, Bool.and_eq_true, beq_iff_eq, Bool.not_eq_true', and_assoc]

theorem isNamePart_of_mem {name : String} (h : isName name = true) {d : Char}
    (mem : d ∈ name.toList) : isNamePart d = true := by
  obtain ⟨c, cs, eq, first, others⟩ := exists_of_isName h
  rw [eq] at mem
  rcases List.mem_cons.mp mem with rfl | mem
  · exact isNamePart_of_ascii (.inl first)
  · exact others d mem

theorem lowered_of_isName {name : String} (h : isName name = true) : lowered name = name := by
  have same : ∀ d ∈ name.toList, Text.lowerChar d = [d] := by
    intro d mem
    exact (isNamePart_iff.mp (isNamePart_of_mem h mem)).1
  rw [lowered, List.flatMap_congr same, List.flatMap_singleton', String.ofList_toList]

/-- Names of tags as they are read: of small letters, a letter first and then what ends no name. -/
structure IsTagName (name : String) : Prop where
  small : lowered name = name
  shape : ∃ c cs, name.toList = c :: cs ∧ c.isLower = true ∧ ∀ d ∈ cs, isNameEnd d = false

/-- Names of attributes as they are read. -/
structure IsKey (name : String) : Prop where
  small : lowered name = name
  shape : ∃ c cs, name.toList = c :: cs ∧ isAttributeStart c = true ∧
    ∀ d ∈ cs, isAttributeNamePart d = true

theorem isAttributeStart_of_isNamePart (h : isNamePart c = true) : isAttributeStart c = true := by
  have part := (isNamePart_iff.mp h).2.1
  rw [isAttributeNamePart, Bool.and_eq_true] at part
  exact part.1

theorem IsTagName.of_isName {name : String} (h : isName name = true) : IsTagName name := by
  obtain ⟨c, cs, eq, first, others⟩ := exists_of_isName h
  exact ⟨lowered_of_isName h, c, cs, eq, first, fun d mem => (isNamePart_iff.mp (others d mem)).2.2⟩

theorem IsKey.of_isName {name : String} (h : isName name = true) : IsKey name := by
  obtain ⟨c, cs, eq, first, others⟩ := exists_of_isName h
  refine ⟨lowered_of_isName h, c, cs, eq, ?_, fun d mem => (isNamePart_iff.mp (others d mem)).2.1⟩
  exact isAttributeStart_of_isNamePart (isNamePart_of_ascii (.inl first))

/-! ## Values -/

theorem readValue?_quoted (quote : q = '"' ∨ q = '\'') (closed : q ∉ body) (rest : List Char) :
    ∃ short, readValue? ('=' :: q :: (body ++ q :: rest)) = some (body, ⟨rest, short⟩) := by
  have other : ∀ d ∈ body, (d != q) = true := by
    intro d mem
    rw [bne_iff_ne]
    rintro rfl
    exact closed mem
  have closing : (body ++ q :: rest).dropWhile (· != q) = q :: rest := by
    rw [List.dropWhile_append_of_pos other, List.dropWhile_cons, bne_self_eq_false]
    rfl
  have marks : Text.isBlank q = false ∧ (q == '=') = false := by
    rcases quote with rfl | rfl <;> decide
  have unquoted : (q :: (body ++ q :: rest)).dropWhile Text.isBlank = q :: (body ++ q :: rest) := by
    rw [List.dropWhile_cons, marks.1]
    rfl
  have value : ('=' :: q :: (body ++ q :: rest)).dropWhile (· == '=') =
      q :: (body ++ q :: rest) := by
    rw [List.dropWhile_cons, List.dropWhile_cons, marks.2]
    rfl
  have start : ('=' :: q :: (body ++ q :: rest)).dropWhile Text.isBlank =
      '=' :: q :: (body ++ q :: rest) := rfl
  obtain ⟨_, first⟩ := NotLonger.dropWhile_eq start
  obtain ⟨_, second⟩ := NotLonger.dropWhile_eq value
  obtain ⟨_, third⟩ := NotLonger.dropWhile_eq unquoted
  obtain ⟨_, fourth⟩ := NotLonger.dropWhile_eq closing
  have count : ('=' :: q :: (body ++ q :: rest)).length -
      (q :: (body ++ q :: rest)).length ≠ 0 := by simp
  have taken : (body ++ q :: rest).take ((body ++ q :: rest).length - (rest.length + 1)) = body :=
    List.take_left' (by simp)
  rw [readValue?, first]
  dsimp only
  rw [second]
  dsimp only
  rw [if_neg count, third]
  dsimp only
  rw [if_pos quote, fourth]
  dsimp only
  rw [taken]
  exact ⟨_, rfl⟩

/-! ## Attributes -/

theorem skipSeparators_end (rest : List Char) :
    ∃ short, skipSeparators ('>' :: rest) = ⟨'>' :: rest, short⟩ :=
  ⟨_, rfl⟩

theorem skipSeparators_start (start : isAttributeStart c = true) (cs : List Char) :
    ∃ short, skipSeparators (' ' :: c :: cs) = ⟨c :: cs, short⟩ := by
  have kept : (Text.isBlank c || (c == '/' && cs.head? != some '>')) = false := by
    simp only [isAttributeStart, Bool.and_eq_true, Bool.not_eq_true', bne_iff_ne] at start
    simp [start]
  have here : skipSeparators (c :: cs) = NotLonger.self (c :: cs) := by
    rw [skipSeparators, kept]
    rfl
  have blank : Text.isBlank ' ' = true := rfl
  rw [skipSeparators, blank, here]
  exact ⟨_, rfl⟩

theorem lastRead_append (start c : Char) (before rest : List Char) :
    lastRead start (before ++ c :: rest) rest = c := by
  have taken : (before ++ c :: rest).take ((before ++ c :: rest).length - rest.length) =
      before ++ [c] := by
    rw [List.append_cons]
    apply List.take_left'
    simp only [List.length_append, List.length_cons]
    omega
  rw [lastRead, taken, List.getLast?_concat]
  rfl

/-- The front of a printed attribute is its name and its value in quotes. -/
theorem exists_printAttribute {entry : String × String} (name : IsKey entry.1) :
    ∃ c cs q body, (isAttributeStart c = true ∧ (∀ d ∈ cs, isAttributeNamePart d = true) ∧
        (q = '"' ∨ q = '\'') ∧ q ∉ body) ∧
      Markup.printAttribute entry = ' ' :: c :: (cs ++ '=' :: q :: (body ++ [q])) ∧
      entry = (lowered (.ofList (c :: cs)), .ofList (Reference.decodeValue body)) := by
  obtain ⟨key, value⟩ := entry
  obtain ⟨c, cs, key_eq, first, others⟩ := name.shape
  obtain ⟨q, body, value_eq, quote, closed, decoded⟩ := Markup.quoteValue_escape value
  refine ⟨c, cs, q, body, ⟨first, others, quote, closed⟩, ?_, ?_⟩
  · rw [Markup.printAttribute, key_eq, value_eq]
    rfl
  · rw [← key_eq, decoded, String.ofList_toList, String.ofList_toList, name.small]

theorem readAttributes_cons {previous : Char} {attributes : List (String × String)}
    {tail start : List Char} {short : start.length ≤ tail.length}
    {short' : rest.length ≤ start.length} (allowed : allowsAttribute previous = true)
    (first : isAttributeStart c = true) (others : ∀ d ∈ cs, isAttributeNamePart d = true)
    (quote : q = '"' ∨ q = '\'') (closed : q ∉ body)
    (skipped : skipSeparators tail = ⟨start, short⟩)
    (next : readAttributes (lastRead previous (c :: (cs ++ '=' :: q :: (body ++ q :: tail))) start)
      start = (attributes, ⟨rest, short'⟩)) :
    ∃ short, readAttributes previous (c :: (cs ++ '=' :: q :: (body ++ q :: tail))) =
      ((lowered (.ofList (c :: cs)), .ofList (Reference.decodeValue body)) :: attributes,
        ⟨rest, short⟩) := by
  have named : (cs ++ '=' :: q :: (body ++ q :: tail)).takeWhile isAttributeNamePart = cs :=
    Text.takeWhile_append_stop others rfl _
  have behind : (cs ++ '=' :: q :: (body ++ q :: tail)).dropWhile isAttributeNamePart =
      '=' :: q :: (body ++ q :: tail) :=
    List.dropWhile_append_of_pos others
  obtain ⟨_, after⟩ := NotLonger.dropWhile_eq behind
  obtain ⟨_, value⟩ := readValue?_quoted quote closed tail
  rw [readAttributes, if_pos (by rw [allowed, first]; rfl), after,
    named]
  dsimp only
  rw [value]
  dsimp only
  rw [skipped]
  dsimp only
  rw [next]
  exact ⟨_, rfl⟩

/-- A space stands in front of printed attributes, and nothing else that is skipped. -/
theorem exists_start {attributes : List (String × String)} (ne : attributes ≠ [])
    (names : ∀ entry ∈ attributes, IsKey entry.1) (rest : List Char) :
    ∃ start short, attributes.flatMap Markup.printAttribute ++ rest = ' ' :: start ∧
      skipSeparators (' ' :: start) = ⟨start, short⟩ := by
  obtain ⟨entry, attributes, rfl⟩ := List.exists_cons_of_ne_nil ne
  obtain ⟨c, cs, q, body, ⟨first, _⟩, printed, _⟩ := exists_printAttribute (names entry (.head _))
  obtain ⟨short, skipped⟩ := skipSeparators_start first
    (cs ++ '=' :: q :: (body ++ [q]) ++ (attributes.flatMap Markup.printAttribute ++ rest))
  refine ⟨_, short, ?_, skipped⟩
  rw [List.flatMap_cons, printed, List.append_assoc]
  rfl

/-- An attribute may begin where printed attributes do, for the space in front of them is read. -/
theorem allowsAttribute_lastRead {attributes : List (String × String)} (ne : attributes ≠ [])
    (names : ∀ entry ∈ attributes, IsKey entry.1) (rest : List Char) (start : Char)
    (front : List Char) :
    allowsAttribute (lastRead start
      (front ++ (attributes.flatMap Markup.printAttribute ++ '>' :: rest))
      (skipSeparators (attributes.flatMap Markup.printAttribute ++ '>' :: rest)).val) = true := by
  obtain ⟨behind, _, begins, skips⟩ := exists_start ne names ('>' :: rest)
  rw [begins, skips, lastRead_append]
  rfl

/-- Printed attributes are read back, from behind the separators in front of them. -/
theorem readAttributes_print {attributes : List (String × String)} {previous : Char}
    (names : ∀ entry ∈ attributes, IsKey entry.1) (rest : List Char)
    (allowed : attributes ≠ [] → allowsAttribute previous = true) :
    ∃ short, readAttributes previous
        (skipSeparators (attributes.flatMap Markup.printAttribute ++ '>' :: rest)).val =
      (attributes, ⟨'>' :: rest, short⟩) := by
  induction attributes generalizing previous with
  | nil =>
    obtain ⟨_, skipped⟩ := skipSeparators_end rest
    rw [List.flatMap_nil, List.nil_append, skipped, readAttributes, isAttributeStart,
      Bool.and_comm, if_neg]
    · exact ⟨_, rfl⟩
    · exact Bool.false_ne_true
  | cons entry attributes ih =>
    obtain ⟨name, names⟩ := List.forall_mem_cons.mp names
    obtain ⟨c, cs, q, body, ⟨first, others, quote, closed⟩, printed, entry_eq⟩ :=
      exists_printAttribute name
    generalize tail_eq : attributes.flatMap Markup.printAttribute ++ '>' :: rest = tail at ih
    obtain ⟨_, skipped⟩ := skipSeparators_start first
      (cs ++ '=' :: q :: (body ++ q :: tail))
    have text : (entry :: attributes).flatMap Markup.printAttribute ++ '>' :: rest =
        ' ' :: c :: (cs ++ '=' :: q :: (body ++ q :: tail)) := by
      rw [List.flatMap_cons, printed, List.append_assoc, tail_eq]
      simp
    have spaced : attributes ≠ [] → allowsAttribute (lastRead previous
        (c :: (cs ++ '=' :: q :: (body ++ q :: tail))) (skipSeparators tail).val) = true := by
      intro ne
      have allowed := allowsAttribute_lastRead ne names rest previous
        (c :: (cs ++ '=' :: q :: (body ++ [q])))
      rw [tail_eq] at allowed
      simpa using allowed
    obtain ⟨_, others_read⟩ := ih names spaced
    rw [text, skipped, entry_eq]
    exact readAttributes_cons (allowed (List.cons_ne_nil _ _)) first others quote closed rfl
      others_read

/-! ## Tags -/

/-- A printed start tag is read as its name and its attributes. -/
theorem read_print {name : String} {attributes : List (String × String)}
    (named : IsTagName name) (names : ∀ entry ∈ attributes, IsKey entry.1) (rest : List Char) :
    ∃ c cs, c.isLower = true ∧
      name.toList ++ (attributes.flatMap Markup.printAttribute ++ '>' :: rest) = c :: cs ∧
      ∃ short, read c cs = .complete ⟨name, attributes, false⟩ ⟨rest, short⟩ := by
  obtain ⟨c, cs, name_eq, first, others⟩ := named.shape
  have inner : ∀ d ∈ cs, (!isNameEnd d) = true := fun d mem => by
    rw [others d mem, Bool.not_false]
  generalize tail_eq : attributes.flatMap Markup.printAttribute ++ '>' :: rest = tail
  obtain ⟨e, tail', ended, rfl⟩ : ∃ e tail', isNameEnd e = true ∧ e :: tail' = tail := by
    by_cases ne : attributes = []
    · subst ne
      exact ⟨'>', rest, rfl, tail_eq⟩
    · obtain ⟨start, _, begins, _⟩ := exists_start ne names ('>' :: rest)
      exact ⟨' ', start, rfl, begins.symm.trans tail_eq⟩
  have spaced : attributes ≠ [] → allowsAttribute
      (lastRead c (c :: (cs ++ e :: tail')) (skipSeparators (e :: tail')).val) = true := by
    intro ne
    have allowed := allowsAttribute_lastRead ne names rest c (c :: cs)
    rwa [tail_eq] at allowed
  have attributes_read := readAttributes_print names rest spaced
  rw [tail_eq] at attributes_read
  obtain ⟨_, attributes_read⟩ := attributes_read
  have stop : (!isNameEnd e) = false := by rw [ended, Bool.not_true]
  have taken : (cs ++ e :: tail').takeWhile (!isNameEnd ·) = cs :=
    Text.takeWhile_append_stop inner stop tail'
  have behind : (cs ++ e :: tail').dropWhile (!isNameEnd ·) = e :: tail' := by
    rw [List.dropWhile_append_of_pos inner, List.dropWhile_cons, stop]
    rfl
  obtain ⟨_, after⟩ := NotLonger.dropWhile_eq behind
  refine ⟨c, cs ++ e :: tail', first, by rw [name_eq, List.cons_append], ?_⟩
  rw [read, after, taken, ← name_eq]
  dsimp only
  rw [attributes_read]
  have closing : ('>' :: rest).take 1 = ['>'] := rfl
  dsimp only
  rw [if_pos closing, String.ofList_toList, named.small]
  exact ⟨_, rfl⟩

end StartTag

end PageComponent
