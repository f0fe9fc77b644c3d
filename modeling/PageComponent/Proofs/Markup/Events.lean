import PageComponent.Proofs.Markup.Sources

/-!
# Printed trees as events

The print of a tree is read as the tags, texts and constructs of the tree in their order, whatever
the rules are by which the events are nested afterwards. This needs of the tree what the trees of
all sources have, and that no section of it holds the character that ends its print.
-/

namespace PageComponent

open Event TreeBuilder

theorem Tag.isName_of_isRawName {name : String} (raw : isRawName name = true) :
    StartTag.isName name = true := by
  rcases isRawName_iff.mp raw with rfl | rfl <;> decide

/-- A start tag as it is printed. -/
def Tag.start (tag : Tag) : StartTag :=
  ⟨tag.name, tag.attributes, false⟩

/-- What the print of an event is read as. A line ends behind the type of a document, and a section
is printed as an instruction. -/
def Event.printed : Event → List Event
  | .verbatim .doctype content => [.verbatim .doctype content, .text "\n"]
  | .verbatim .declaration content => [.verbatim .instruction (content ++ "?")]
  | .endTag name => ofEndTag name.toList
  | event => [event]

namespace Node

mutual

def eventsNode : Node → List Event
  | .element tag children =>
    if children.isEmpty && NestingRules.authored.isVoid tag.name then [.startTag tag.start]
    else .startTag tag.start :: (events children ++ [.endTag tag.name])
  | .text content => texts content.toList
  | .verbatim kind content => [.verbatim kind content]

/-- The events of a tree in document order. -/
def events : List Node → List Event
  | [] => []
  | node :: nodes => eventsNode node ++ events nodes

end

/-- The events that the print of a tree is read as. -/
def printed (nodes : List Node) : List Event :=
  (events nodes).flatMap Event.printed

/-- No section of a tree holds the character that ends its print. -/
def Sealed (nodes : List Node) : Prop :=
  ∀ content, .verbatim .declaration content ∈ events nodes → '>' ∉ content.toList

variable {keep : Bool} {tag : Tag} {node : Node} {nodes : List Node}

theorem printed_cons (node : Node) (nodes : List Node) :
    printed (node :: nodes) = (eventsNode node).flatMap Event.printed ++ printed nodes := by
  rw [printed, events, List.flatMap_append]
  rfl

theorem printed_element {children : List Node}
    (full : (children.isEmpty && NestingRules.authored.isVoid tag.name) = false) :
    (eventsNode (.element tag children)).flatMap Event.printed =
      [.startTag tag.start] ++ printed children ++ Event.printed (.endTag tag.name) := by
  rw [eventsNode, full, if_neg Bool.false_ne_true, List.flatMap_cons, List.flatMap_append,
    List.flatMap_singleton, List.append_assoc]
  rfl

theorem sealed_cons : Sealed (node :: nodes) ↔
    (∀ content, .verbatim .declaration content ∈ eventsNode node → '>' ∉ content.toList) ∧
      Sealed nodes := by
  simp only [Sealed, events, List.mem_append, or_imp, forall_and]

theorem not_mem_texts {kind : Verbatim} {content : String} (cs : List Char) :
    .verbatim kind content ∉ texts cs := by
  rw [texts]
  split <;> simp

/-- Trees of elements, texts and comments have no sections. -/
theorem Authored.sealed (h : Authored keep nodes) : Sealed nodes := by
  induction h with
  | nil => exact nofun
  | @element keep tag children nodes _ _ _ _ within after =>
    refine sealed_cons.mpr ⟨fun content mem => within content ?_, after⟩
    rw [eventsNode] at mem
    split at mem
    next => simp at mem
    next => simpa using mem
  | @text _ content nodes _ after =>
    exact sealed_cons.mpr ⟨fun _ mem => absurd mem (not_mem_texts content.toList), after⟩
  | comment _ _ after =>
    refine sealed_cons.mpr ⟨fun content mem => ?_, after⟩
    simp [eventsNode] at mem

theorem spells_printStart (written : tag.Written) (notRaw : Tag.isRawName tag.name = false) :
    Spells tag.printStart [.startTag tag.start] :=
  .of_event (read_printStart written.name
    (fun _ mem => written.keys _ (List.mem_map_of_mem mem)) notRaw)

theorem spells_printEnd (written : tag.Written) :
    Spells tag.printEnd (Event.printed (.endTag tag.name)) :=
  .of_events (read_printEnd_of_isTagName written.name)

theorem printed_texts (cs : List Char) : (texts cs).flatMap Event.printed = texts cs := by
  rw [texts]
  split <;> rfl

/-- Raw text is read up to the end tag behind it. -/
theorem spells_raw (written : tag.Written) (raw : Tag.isRawName tag.name = true)
    {text : List Char} (unended : cutAt? (elementEnd tag.name) text = none) :
    Spells (tag.printStart ++ text ++ tag.printEnd)
      (.startTag tag.start :: (texts text ++ [.endTag tag.name])) := by
  apply Spells.of_events
  intro rest
  obtain ⟨short, cut⟩ := (closes_elementEnd raw).cutAt?_append unended rest
  have printed : tag.printEnd = '<' :: '/' :: (tag.name.toList ++ ['>']) := rfl
  rw [List.append_assoc, List.append_assoc, printed]
  apply read_printStart_append written.name fun _ mem => written.keys _ (List.mem_map_of_mem mem)
  rw [readElement, if_pos (by rw [raw]; rfl), cut]
  exact ⟨short, rfl⟩

theorem exists_rawText {text? : Option String} {mark : Mark}
    (unended : ∀ content ∈ text?, cutAt? mark content.toList = none) :
    ∃ text, cutAt? mark text = none ∧
      printAllChars true (text?.toList.map Node.text) = text ∧
      printed (text?.toList.map Node.text) = texts text := by
  cases text? with
  | none => exact ⟨[], rfl, rfl, rfl⟩
  | some content =>
    refine ⟨content.toList, unended content rfl, List.append_nil _, ?_⟩
    exact (congrArg _ (List.append_nil _)).trans (printed_texts content.toList)

theorem spells_verbatim {kind : Verbatim} {content : String}
    (unended : cutAt? kind.mark content.toList = none) :
    Spells (printChars false (.verbatim kind content))
      (Event.printed (.verbatim kind content)) := by
  cases kind with
  | comment | characterData | instruction => exact .of_event (read_verbatim nofun unended)
  | doctype =>
    have first : Spells (Verbatim.doctype.opening.toList ++ content.toList ++ ['>'])
      [.verbatim .doctype content] := .of_event (read_verbatim nofun unended)
    have line : Spells ['\n'] [.text "\n"] := spells_plain rfl
    have whole := first.append line
    rwa [List.append_assoc] at whole
  | declaration =>
    have open_ : '>' ∉ (content ++ "?").toList := by
      rw [String.toList_append, List.mem_append, not_or]
      exact ⟨cutAt?_tagEnd_eq_none.mp unended, by decide⟩
    have whole : Spells (Verbatim.instruction.opening.toList ++ (content ++ "?").toList ++ ['>'])
      [.verbatim .instruction (content ++ "?")] :=
        .of_event (read_verbatim nofun (cutAt?_tagEnd_eq_none.mpr open_))
    rw [String.toList_append, ← List.append_assoc, List.append_assoc] at whole
    exact whole

theorem spells_printAll : ∀ {nodes : List Node} {keep : Bool}, (∀ node ∈ nodes, node.Written keep) →
    Sealed nodes → Spells (printAllChars false nodes) (printed nodes)
  | [], _, _, _ => .nil
  | .text content :: nodes, _, written, closed => by
    obtain ⟨_, written⟩ := List.forall_mem_cons.mp written
    obtain ⟨_, closed⟩ := sealed_cons.mp closed
    rw [printed_cons, eventsNode, printed_texts]
    exact (spells_escape content).append (spells_printAll written closed)
  | .verbatim kind content :: nodes, _, written, closed => by
    obtain ⟨first, written⟩ := List.forall_mem_cons.mp written
    obtain ⟨here, closed⟩ := sealed_cons.mp closed
    have unended : cutAt? kind.mark content.toList = none := by
      cases first with
      | verbatim unended =>
        by_cases kept : kind = .declaration
        · subst kept
          exact cutAt?_tagEnd_eq_none.mpr (here content List.mem_cons_self)
        · exact unended kept
    rw [printed_cons, eventsNode, List.flatMap_singleton]
    exact (spells_verbatim unended).append (spells_printAll written closed)
  | .element tag children :: nodes, keep, written, closed => by
    obtain ⟨first, written⟩ := List.forall_mem_cons.mp written
    obtain ⟨here, closed⟩ := sealed_cons.mp closed
    have element : Spells (printChars false (.element tag children))
        ((eventsNode (.element tag children)).flatMap Event.printed) := by
      cases first with
      | element tagged notRaw within =>
        have start := spells_printStart tagged notRaw
        rw [printChars, notRaw]
        cases full : children.isEmpty && NestingRules.authored.isVoid tag.name with
        | true =>
          rw [if_pos rfl, eventsNode, full, if_pos rfl]
          exact start
        | false =>
          have inner : Sealed children := by
            rw [eventsNode, full] at here
            exact fun content mem => here content (by simp [mem])
          rw [if_neg Bool.false_ne_true, printed_element full]
          exact (start.append (spells_printAll within inner)).append (spells_printEnd tagged)
      | @raw _ _ text? tagged raw unended =>
        obtain ⟨text, uncut, print_eq, printed_eq⟩ := exists_rawText unended
        have content := Tag.not_isVoid_of_isRawName raw
        have full : ((text?.toList.map Node.text).isEmpty &&
            NestingRules.authored.isVoid tag.name) = false := by rw [content, Bool.and_false]
        have ended : Event.printed (.endTag tag.name) = [.endTag tag.name] :=
          ofEndTag_of_isName (Tag.isName_of_isRawName raw)
        rw [printed_element full, printChars, full, if_neg Bool.false_ne_true, raw, print_eq,
          printed_eq, ended]
        exact spells_raw tagged raw uncut
    rw [printed_cons]
    exact element.append (spells_printAll written closed)

/-- A tree that is printed and read again is nested anew from its events. -/
theorem ofEvents_printAll (written : ∀ node ∈ nodes, node.Written keep) (closed : Sealed nodes)
    (rules : NestingRules) :
    ofEvents rules (Event.ofSource (printAll nodes)) = ofEvents rules (printed nodes) := by
  have ended : Event.read false [] = [] := by rw [Event.read]
  have whole := spells_printAll written closed rules .empty []
  rw [List.append_nil, ended, List.foldl_nil] at whole
  rw [ofEvents, ofEvents, Event.ofSource, printAll, String.toList_ofList, whole]

end Node

end PageComponent
