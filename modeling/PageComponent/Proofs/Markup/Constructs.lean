import PageComponent.Proofs.Markup.Marks
import PageComponent.Proofs.Markup.StartTags

/-!
# Printed constructs

The print of a start tag, of an end tag and of a comment is read as one event, whatever follows it.
Of constructs that are kept as they are this needs that their text does not end them.
-/

namespace PageComponent

/-- The mark that ends the print of a construct. -/
def Verbatim.mark : Verbatim → Event.Mark
  | .comment => Event.commentEnd
  | .characterData => Event.sectionEnd
  | .doctype | .declaration | .instruction => Event.tagEnd

def Verbatim.ending : Verbatim → List Char
  | .comment => ['-', '-', '>']
  | .characterData => [']', ']', '>']
  | .doctype | .declaration | .instruction => ['>']

namespace Event

variable {mark : Mark} {c : Char} {cs rest content before : List Char} {events : List Event}
  {broken : Bool}

/-! ## Readings -/

theorem Reading.ofCut_eq {write : List Char → List Event}
    (h : ∃ short, cutAt? mark cs = some (before, ⟨rest, short⟩)) :
    ∃ short, Reading.ofCut write (cutAt? mark cs) = .complete (write before) ⟨rest, short⟩ := by
  obtain ⟨short, cut⟩ := h
  rw [cut]
  exact ⟨short, rfl⟩

theorem Reading.behind_eq {n : Nat} {reading : Reading (cs.drop n)}
    (h : ∃ short, reading = .complete events ⟨rest, short⟩) :
    ∃ short, reading.behind n = .complete events ⟨rest, short⟩ := by
  obtain ⟨_, rfl⟩ := h
  exact ⟨_, rfl⟩

theorem read_construct (h : ∃ short, readConstruct cs = .complete events ⟨rest, short⟩) :
    read broken ('<' :: cs) = events ++ read broken rest := by
  obtain ⟨short, construct⟩ := h
  rw [read, if_pos rfl, construct]

/-! ## Tags -/

theorem isAlpha_of_isLower (h : c.isLower = true) : c.isAlpha = true := by
  rw [Char.isAlpha, h, Bool.or_true]

/-- A printed start tag is read as the tag and, if its text is raw, with this text. -/
theorem read_printStart_append {tag : Tag} (named : StartTag.IsTagName tag.name)
    (names : ∀ entry ∈ tag.attributes, StartTag.IsKey entry.1)
    (element : ∃ short,
      readElement ⟨tag.name, tag.attributes, false⟩ cs = (events, ⟨rest, short⟩)) :
    read broken (tag.printStart ++ cs) = events ++ read broken rest := by
  obtain ⟨c, ds, first, text, short, tagRead⟩ := StartTag.read_print named names cs
  have front : tag.printStart ++ cs = '<' :: c :: ds := by
    rw [Tag.printStart, ← text]
    simp
  obtain ⟨_, element⟩ := element
  rw [front]
  apply read_construct
  rw [readConstruct, if_pos (isAlpha_of_isLower first), tagRead]
  dsimp only
  rw [element]
  exact ⟨_, rfl⟩

theorem read_printStart {tag : Tag} (named : StartTag.IsTagName tag.name)
    (names : ∀ entry ∈ tag.attributes, StartTag.IsKey entry.1)
    (notRaw : Tag.isRawName tag.name = false) (rest : List Char) :
    read broken (tag.printStart ++ rest) =
      .startTag ⟨tag.name, tag.attributes, false⟩ :: read broken rest := by
  have element : ∃ short, readElement ⟨tag.name, tag.attributes, false⟩ rest =
      ([.startTag ⟨tag.name, tag.attributes, false⟩], ⟨rest, short⟩) := by
    rw [readElement, notRaw]
    exact ⟨_, rfl⟩
  exact read_printStart_append named names element

theorem not_mem_of_isTagName {name : String} (h : StartTag.IsTagName name) : '>' ∉ name.toList := by
  obtain ⟨c, cs, eq, first, others⟩ := h.shape
  rw [eq, List.mem_cons]
  rintro (rfl | mem)
  · cases first
  · cases others _ mem

/-- A printed end tag is read as what stands in it. -/
theorem read_printEnd_of_isTagName {tag : Tag} (named : StartTag.IsTagName tag.name)
    (rest : List Char) :
    read broken (tag.printEnd ++ rest) = ofEndTag tag.name.toList ++ read broken rest := by
  have front : tag.printEnd ++ rest = '<' :: '/' :: (tag.name.toList ++ (['>'] ++ rest)) := by
    rw [Tag.printEnd]
    simp
  have cut := closes_tagEnd.cutAt?_append
    (cutAt?_tagEnd_eq_none.mpr (not_mem_of_isTagName named)) rest
  rw [front]
  apply read_construct
  rw [readConstruct, if_neg (by decide), if_pos rfl]
  exact Reading.behind_eq (Reading.ofCut_eq cut)

theorem ofEndTag_cases (content : List Char) : ofEndTag content = [] ∨
    (∃ name, ofEndTag content = [.endTag name]) ∨
      ∃ text, ofEndTag content = [.verbatim .comment text] := by
  unfold ofEndTag
  dsimp only
  split
  next => exact .inr (.inl ⟨_, rfl⟩)
  split
  next => exact .inl rfl
  split
  next => exact .inr (.inl ⟨_, rfl⟩)
  next => exact .inr (.inr ⟨_, rfl⟩)

theorem ofEndTag_of_isName {name : String} (h : StartTag.isName name = true) :
    ofEndTag name.toList = [.endTag name] := by
  obtain ⟨c, cs, eq, first, others⟩ := StartTag.exists_of_isName h
  have filled : ∀ d ∈ name.toList, Text.isBlank d = false := by
    intro d mem
    have start := StartTag.isAttributeStart_of_isNamePart (StartTag.isNamePart_of_mem h mem)
    rw [StartTag.isAttributeStart, Bool.and_eq_true, Bool.and_eq_true, Bool.not_eq_true'] at start
    exact start.1.1
  have whole : cs.takeWhile (!StartTag.isNameEnd ·) = cs := by
    apply List.takeWhile_eq_self_iff.mpr
    intro d mem
    rw [(StartTag.isNamePart_iff.mp (others d mem)).2.2, Bool.not_false]
  unfold ofEndTag
  rw [Text.trim_eq_self filled]
  dsimp only
  split
  next => rw [String.ofList_toList, StartTag.lowered_of_isName h]
  next =>
    rw [eq]
    dsimp only
    rw [if_pos (isAlpha_of_isLower first), whole, ← eq, String.ofList_toList,
      StartTag.lowered_of_isName h]

theorem read_printEnd {tag : Tag} (named : StartTag.isName tag.name = true) (rest : List Char) :
    read broken (tag.printEnd ++ rest) = .endTag tag.name :: read broken rest := by
  rw [read_printEnd_of_isTagName (.of_isName named), ofEndTag_of_isName named]
  rfl

/-! ## Constructs that are kept as they are -/

theorem readDeclaration_comment (unended : cutAt? commentEnd content = none) (rest : List Char) :
    ∃ short, readDeclaration ('-' :: '-' :: (content ++ (['-', '-', '>'] ++ rest))) =
      .complete [.verbatim .comment (.ofList content)] ⟨rest, short⟩ := by
  rw [readDeclaration, if_pos (by rfl)]
  exact Reading.behind_eq (Reading.ofCut_eq (closes_commentEnd.cutAt?_append unended rest))

theorem readDeclaration_doctype (unended : cutAt? tagEnd content = none) (rest : List Char) :
    ∃ short, readDeclaration ("DOCTYPE ".toList ++ (content ++ (['>'] ++ rest))) =
      .complete [.verbatim .doctype (.ofList content)] ⟨rest, short⟩ := by
  have spaced : cutAt? tagEnd ([' '] ++ content) = none :=
    cutAt?_append_eq_none (by simp) unended
  generalize source_eq : "DOCTYPE ".toList ++ (content ++ (['>'] ++ rest)) = source
  have first : source.take 2 = ['D', 'O'] := by rw [← source_eq]; rfl
  have second : source.take 1 = ['D'] := by rw [← source_eq]; rfl
  have doctype : (source.take 7).map Char.toLower = "doctype".toList := by rw [← source_eq]; rfl
  have behind : source.drop 7 = [' '] ++ content ++ (['>'] ++ rest) := by rw [← source_eq]; rfl
  have cut := closes_tagEnd.cutAt?_append spaced rest
  rw [← behind] at cut
  rw [readDeclaration, first, second, if_neg (by decide), if_neg (by decide), if_pos doctype]
  exact Reading.behind_eq (Reading.ofCut_eq cut)

theorem readDeclaration_characterData (unended : cutAt? sectionEnd content = none)
    (rest : List Char) :
    ∃ short, readDeclaration ("[CDATA[".toList ++ (content ++ ([']', ']', '>'] ++ rest))) =
      .complete [.verbatim .characterData (.ofList content)] ⟨rest, short⟩ := by
  have named : cutAt? sectionEnd ("CDATA[".toList ++ content) = none :=
    cutAt?_append_eq_none (by simp) unended
  have written : ofSection ("CDATA[".toList ++ content) =
      [.verbatim .characterData (.ofList content)] := if_pos rfl
  have cut := closes_sectionEnd.cutAt?_append named rest
  rw [List.append_assoc] at cut
  have front : "[CDATA[".toList ++ (content ++ ([']', ']', '>'] ++ rest)) =
      '[' :: ("CDATA[".toList ++ (content ++ ([']', ']', '>'] ++ rest))) := rfl
  rw [front]
  generalize source_eq : "CDATA[".toList ++ (content ++ ([']', ']', '>'] ++ rest)) = source at cut
  have name : source.takeWhile isSectionNamePart = "CDATA".toList := by rw [← source_eq]; rfl
  have behind : (source.dropWhile isSectionNamePart).all Text.isBlank = false := by
    rw [← source_eq]
    rfl
  have read : readSection? (('[' :: source).drop 1) =
      some (.ofCut ofSection (cutAt? sectionEnd (('[' :: source).drop 1))) := by
    rw [readSection?]
    simp only [List.drop_one, List.tail_cons, behind, name]
    rfl
  have dashes : ('[' :: source).take 2 ≠ ['-', '-'] := by simp
  have bracket : ('[' :: source).take 1 = ['['] := rfl
  rw [readDeclaration, if_neg dashes, if_pos bracket]
  rw [read, ← written]
  exact Reading.behind_eq (Reading.ofCut_eq cut)

/-- A construct is read as its text if the text does not end it. -/
theorem read_verbatim {kind : Verbatim} {text : String} (kept : kind ≠ .declaration)
    (unended : cutAt? kind.mark text.toList = none) (rest : List Char) :
    read broken (kind.opening.toList ++ text.toList ++ kind.ending ++ rest) =
      .verbatim kind text :: read broken rest := by
  rw [List.append_assoc, List.append_assoc]
  have whole : ∃ short,
      readConstruct (kind.opening.toList.tail ++ (text.toList ++ (kind.ending ++ rest))) =
        .complete [.verbatim kind (.ofList text.toList)] ⟨rest, short⟩ := by
    cases kind with
    | declaration => exact absurd rfl kept
    | comment => exact Reading.behind_eq (readDeclaration_comment unended rest)
    | instruction =>
      exact Reading.behind_eq (Reading.ofCut_eq (closes_tagEnd.cutAt?_append unended rest))
    | doctype => exact Reading.behind_eq (readDeclaration_doctype unended rest)
    | characterData => exact Reading.behind_eq (readDeclaration_characterData unended rest)
  rw [String.ofList_toList] at whole
  have opening : kind.opening.toList = '<' :: kind.opening.toList.tail := by cases kind <;> rfl
  rw [opening]
  exact read_construct whole

theorem read_comment {text : String} (unended : cutAt? commentEnd text.toList = none)
    (rest : List Char) :
    read broken (Verbatim.comment.opening.toList ++ text.toList ++
      Verbatim.comment.closing.toList ++ rest) = .verbatim .comment text :: read broken rest :=
  have kept : Verbatim.comment ≠ .declaration := nofun
  read_verbatim kept unended rest

end Event

end PageComponent
