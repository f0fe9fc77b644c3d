import PageComponent.Markup.Tree
import PageComponent.Proofs.Markup.Constructs
import PageComponent.Proofs.Markup.Outline
import PageComponent.Proofs.Markup.Texts

/-!
# Printed trees are read back

The print of a tree is read as the same elements with the same attributes and comments, whatever
its texts and attribute values hold. Texts that follow one another become one, empty ones are lost,
and spaces alone shrink as they do wherever markup is read.
-/

namespace PageComponent

open Event TreeBuilder

/-! ## Trees as they are read -/

/-- A text as it is kept: spaces alone shrink to one unless they are to be kept. -/
def collapse (keep : Bool) (content : String) : String :=
  if content.toList.all isSpace && !keep then
    if content.toList.contains '\n' then "\n" else " "
  else content

namespace Node

/-- The node of a text, if the text is not empty. -/
def ofText (keep : Bool) (content : String) : List Node :=
  if content = "" then [] else [.text (collapse keep content)]

/-- The nodes with texts that follow one another joined, the first of them behind the text that is
pending. Elements, attributes and comments are as they were. -/
def condense (keep : Bool) (pending : String) : List Node → List Node
  | [] => ofText keep pending
  | .text content :: nodes => condense keep (pending ++ content) nodes
  | .verbatim kind content :: nodes =>
    ofText keep pending ++ .verbatim kind content :: condense keep "" nodes
  | .element tag children :: nodes =>
    ofText keep pending ++
      .element tag (condense (keep || keepsSpace tag.name) "" children) :: condense keep "" nodes

end Node

/-- Tags whose print is read back: with names in small letters, without two attributes of one name,
and not of elements with raw text. -/
structure Tag.Authored (tag : Tag) : Prop where
  name : StartTag.isName tag.name = true
  names : ∀ entry ∈ tag.attributes, StartTag.isName entry.1 = true
  distinct : (Entries.keys tag.attributes).Nodup
  notRaw : isRawName tag.name = false

/-- Texts of comments as reading leaves them: they do not end the comment, and spaces alone have
shrunk where they are not kept. -/
structure IsComment (keep : Bool) (content : String) : Prop where
  unended : cutAt? commentEnd content.toList = none
  collapsed : collapse keep content = content

/-- Trees of elements, texts and comments, where elements that have no content are empty. -/
inductive Node.Authored : Bool → List Node → Prop where
  | nil {keep : Bool} : Authored keep []
  | element {keep : Bool} {tag : Tag} {children nodes : List Node} (authored : tag.Authored)
      (void : NestingRules.authored.isVoid tag.name = true → children = [])
      (within : Authored (keep || keepsSpace tag.name) children) (after : Authored keep nodes) :
      Authored keep (.element tag children :: nodes)
  | text {keep : Bool} {content : String} {nodes : List Node} (after : Authored keep nodes) :
      Authored keep (.text content :: nodes)
  | comment {keep : Bool} {content : String} {nodes : List Node}
      (comment : IsComment keep content) (after : Authored keep nodes) :
      Authored keep (.verbatim .comment content :: nodes)

namespace TreeBuilder

variable {b b' b'' : TreeBuilder} {cs cs' : List Char}

/-! ## Texts -/

/-- Reading characters leads from one state to the other, whatever follows. -/
def Reads (cs : List Char) (b b' : TreeBuilder) : Prop :=
  ∀ rest, (read false (cs ++ rest)).foldl (step .authored) b =
    (read false rest).foldl (step .authored) b'

theorem Reads.refl (b : TreeBuilder) : Reads [] b b :=
  fun _ => rfl

theorem Reads.trans (h : Reads cs b b') (h' : Reads cs' b' b'') : Reads (cs ++ cs') b b'' := by
  intro rest
  rw [List.append_assoc, h, h']

theorem Reads.of_event {event : Event}
    (h : ∀ rest, read false (cs ++ rest) = event :: read false rest) :
    Reads cs b (step .authored b event) := by
  intro rest
  rw [h, List.foldl_cons]

/-- The state with more text behind the last node. -/
def withText (b : TreeBuilder) (content : List Char) : TreeBuilder :=
  if content = [] then b else { b with pending := some (b.pending.getD "" ++ .ofList content) }

theorem foldl_texts (rules : NestingRules) (b : TreeBuilder) (cs : List Char) :
    (texts cs).foldl (step rules) b = b.withText cs := by
  rw [texts, withText]
  split <;> rfl

theorem reads_escape (content : String) (b : TreeBuilder) :
    Reads (Markup.escape content) b (b.withText content.toList) := by
  intro rest
  rw [spells_escape, foldl_texts]

/-! ## Nodes -/

/-- Whether spaces are kept at the place that is read. -/
def keeps (b : TreeBuilder) : Bool :=
  b.stack.any (keepsSpace ·.tag.name)

def addAll (b : TreeBuilder) (nodes : List Node) : TreeBuilder :=
  nodes.foldl add b

/-- The state without its pending text. -/
def clear (b : TreeBuilder) : TreeBuilder :=
  { b with pending := none }

def awaiting (b : TreeBuilder) (names : List String) : TreeBuilder :=
  { b with awaited := names }

/-- No pending text is empty, and only end tags of elements without content are awaited. -/
structure Ready (b : TreeBuilder) : Prop where
  filled : b.pending ≠ some ""
  voids : ∀ name ∈ b.awaited, NestingRules.authored.isVoid name = true

theorem shrink_eq_collapse (b : TreeBuilder) (content : String) :
    b.shrink content = collapse b.keeps content :=
  rfl

theorem keeps_add (b : TreeBuilder) (node : Node) : (b.add node).keeps = b.keeps := by
  rw [add]
  split
  next => rfl
  next eq => rw [keeps, keeps, eq, List.any_cons, List.any_cons]

theorem keeps_flush (b : TreeBuilder) : b.flush.keeps = b.keeps := by
  rw [flush]
  split
  next => exact keeps_add _ _
  next => rfl

theorem awaited_add (b : TreeBuilder) (node : Node) : (b.add node).awaited = b.awaited := by
  rw [add]
  split <;> rfl

theorem awaited_flush (b : TreeBuilder) : b.flush.awaited = b.awaited := by
  rw [flush]
  split
  next => exact awaited_add _ _
  next => rfl

theorem flush_eq (ready : b.Ready) :
    b.flush = b.clear.addAll (Node.ofText b.keeps (b.pending.getD "")) := by
  rw [flush]
  split
  next content eq =>
    have filled : content ≠ "" := by
      rintro rfl
      exact ready.filled eq
    rw [eq, Option.getD_some, Node.ofText, if_neg filled]
    rfl
  next eq =>
    rw [eq, Option.getD_none, Node.ofText, if_pos rfl, clear, ← eq]
    rfl

theorem keeps_withText (b : TreeBuilder) (cs : List Char) : (b.withText cs).keeps = b.keeps := by
  rw [withText]
  split <;> rfl

theorem clear_withText (b : TreeBuilder) (cs : List Char) : (b.withText cs).clear = b.clear := by
  rw [withText]
  split <;> rfl

theorem getD_pending_withText (b : TreeBuilder) (cs : List Char) :
    (b.withText cs).pending.getD "" = b.pending.getD "" ++ .ofList cs := by
  rw [withText]
  split
  next empty => rw [empty, String.ofList_nil, String.append_empty]
  next => rfl

theorem Ready.withText (ready : b.Ready) (cs : List Char) : (b.withText cs).Ready := by
  rw [TreeBuilder.withText]
  split
  next => exact ready
  next filled =>
    refine ⟨?_, ready.voids⟩
    simp [filled]

theorem addAll_append (b : TreeBuilder) (front nodes : List Node) :
    b.addAll (front ++ nodes) = (b.addAll front).addAll nodes :=
  List.foldl_append

theorem keeps_addAll (b : TreeBuilder) (nodes : List Node) : (b.addAll nodes).keeps = b.keeps := by
  induction nodes generalizing b with
  | nil => rfl
  | cons node nodes ih => exact (ih (b.add node)).trans (keeps_add b node)

theorem add_awaiting (b : TreeBuilder) (names : List String) (node : Node) :
    (b.awaiting names).add node = (b.add node).awaiting names := by
  obtain ⟨stack, nodes, pending, awaited⟩ := b
  cases stack <;> rfl

theorem add_clear (b : TreeBuilder) (node : Node) : b.clear.add node = (b.add node).clear := by
  obtain ⟨stack, nodes, pending, awaited⟩ := b
  cases stack <;> rfl

/-- A change that adding a node does not see is not seen by adding many. -/
theorem addAll_comm {change : TreeBuilder → TreeBuilder}
    (unseen : ∀ b node, (change b).add node = change (b.add node)) (b : TreeBuilder)
    (nodes : List Node) : (change b).addAll nodes = change (b.addAll nodes) := by
  induction nodes generalizing b with
  | nil => rfl
  | cons node nodes ih =>
    rw [addAll, List.foldl_cons, unseen]
    exact ih (b.add node)

theorem addAll_awaiting (b : TreeBuilder) (names : List String) (nodes : List Node) :
    (b.awaiting names).addAll nodes = (b.addAll nodes).awaiting names :=
  @addAll_comm (awaiting · names) (fun b => add_awaiting b names) b nodes

theorem clear_addAll (b : TreeBuilder) (nodes : List Node) :
    (b.clear.addAll nodes).clear = b.clear.addAll nodes := by
  rw [addAll_comm add_clear]
  rfl

/-- Nodes that are added where each stands in front of those before it stand there reversed. -/
theorem addAll_eq_of_add {put : List Node → TreeBuilder}
    (one : ∀ front node, (put front).add node = put (node :: front)) (nodes : List Node) :
    (put []).addAll nodes = put nodes.reverse := by
  have behind (nodes front : List Node) :
      (put front).addAll nodes = put (nodes.reverse ++ front) := by
    induction nodes generalizing front with
    | nil => rfl
    | cons node nodes ih =>
      rw [addAll, List.foldl_cons, one, List.reverse_cons, List.append_assoc]
      exact ih (node :: front)
  rw [behind, List.append_nil]

theorem addAll_awaiting_self (b : TreeBuilder) (nodes : List Node) :
    (b.clear.addAll nodes).awaiting b.awaited = b.clear.addAll nodes :=
  (addAll_awaiting b.clear b.awaited nodes).symm

theorem close_awaiting (b : TreeBuilder) (names : List String) :
    (b.awaiting names).close = b.close.awaiting names := by
  obtain ⟨stack, nodes, pending, awaited⟩ := b
  cases stack with
  | nil => rfl
  | cons e stack =>
    exact add_awaiting ⟨stack, nodes, pending, awaited⟩ names (.element e.tag e.children.reverse)

/-- Reading the characters adds the nodes, the last of which may be a text that is pending. -/
def Adds (cs : List Char) (b : TreeBuilder) (nodes : List Node) : Prop :=
  ∃ b', Reads cs b b' ∧ b'.Ready ∧ b'.flush = (b.clear.addAll nodes).awaiting b'.awaited

theorem Adds.of_flush (ready : b.Ready) :
    Adds [] b (Node.ofText b.keeps (b.pending.getD "")) := by
  refine ⟨b, .refl b, ready, ?_⟩
  rw [flush_eq ready, addAll_awaiting_self]

theorem Adds.append {front nodes : List Node} {names : List String} (first : Reads cs b b')
    (added : b' = (b.clear.addAll front).awaiting names) (rest : Adds cs' b' nodes) :
    Adds (cs ++ cs') b (front ++ nodes) := by
  obtain ⟨b'', reads, ready, flushed⟩ := rest
  have cleared : b'.clear = (b.clear.addAll front).awaiting names := by
    rw [added]
    exact congrArg (awaiting · names) (clear_addAll b front)
  refine ⟨b'', first.trans reads, ready, ?_⟩
  rw [flushed, cleared, addAll_awaiting, addAll_append]
  rfl

/-- What is read first flushes the pending text and adds a node. -/
theorem Adds.cons {keep : Bool} {node : Node} {nodes : List Node} {names : List String}
    (ready : b.Ready) (place : b.keeps = keep)
    (voids : ∀ name ∈ names, NestingRules.authored.isVoid name = true)
    (first : Reads cs b ((b.flush.add node).awaiting names))
    (after : ∀ {b : TreeBuilder}, b.Ready → b.keeps = keep →
      Adds cs' b (Node.condense keep (b.pending.getD "") nodes)) :
    Adds (cs ++ cs') b
      (Node.ofText keep (b.pending.getD "") ++ node :: Node.condense keep "" nodes) := by
  have flushed : b.flush.add node =
      b.clear.addAll (Node.ofText keep (b.pending.getD "") ++ [node]) := by
    rw [flush_eq ready, place, addAll_append]
    rfl
  have empty : ((b.flush.add node).awaiting names).pending = none := by
    rw [flushed, ← clear_addAll]
    rfl
  have place' : ((b.flush.add node).awaiting names).keeps = keep := by
    rw [flushed, ← place]
    exact keeps_addAll b.clear _
  have ready' : ((b.flush.add node).awaiting names).Ready := ⟨by rw [empty]; exact nofun, voids⟩
  have rest := after ready' place'
  rw [empty] at rest
  rw [List.append_cons]
  exact .append first (by rw [flushed]) rest

/-! ## Elements -/

/-- The state within an element that begins. -/
def opened (b : TreeBuilder) (tag : Tag) : TreeBuilder :=
  { b with stack := ⟨tag, []⟩ :: b.stack }

theorem addAll_opened (b : TreeBuilder) (tag : Tag) (nodes : List Node) :
    (b.opened tag).addAll nodes = { b with stack := ⟨tag, nodes.reverse⟩ :: b.stack } := by
  apply @addAll_eq_of_add fun children => { b with stack := ⟨tag, children⟩ :: b.stack }
  exact fun _ _ => rfl

theorem close_addAll_opened (b : TreeBuilder) (tag : Tag) (nodes : List Node) :
    ((b.opened tag).addAll nodes).close = b.add (.element tag nodes) := by
  rw [addAll_opened, close]
  dsimp only
  rw [List.reverse_reverse]

theorem takeWhile_closes (name : String) (stack : List OpenElement) :
    stack.takeWhile (NestingRules.authored.closes name ·.tag.name) = [] := by
  cases stack <;> rfl

/-- As authored, a start tag ends no other element. -/
theorem startTag_authored (b : TreeBuilder) (tag : StartTag) :
    startTag .authored b tag =
      let inner := b.flush.opened ⟨tag.name, attributesOf .authored tag.attributes⟩
      if tag.selfClosing then endTag .authored inner tag.name
      else if NestingRules.authored.isVoid tag.name then
        { inner.close with awaited := b.flush.awaited ++ [tag.name] }
      else inner := by
  rw [startTag]
  dsimp only
  rw [takeWhile_closes]
  rfl

theorem startTag_eq {tag : Tag} (authored : tag.Authored) (b : TreeBuilder) :
    startTag .authored b ⟨tag.name, tag.attributes, false⟩ =
      if NestingRules.authored.isVoid tag.name then
        { (b.flush.opened tag).close with awaited := b.flush.awaited ++ [tag.name] }
      else b.flush.opened tag := by
  have attributes : attributesOf .authored tag.attributes = tag.attributes :=
    Entries.ofPairs_eq_self authored.distinct
  rw [startTag_authored, attributes]
  rfl

theorem reads_comment {content : String} (comment : IsComment b.keeps content) :
    Reads (Node.printChars false (.verbatim .comment content)) b
      ((b.flush.add (.verbatim .comment content)).awaiting b.awaited) := by
  have same : (b.flush.add (.verbatim .comment content)).awaited = b.awaited := by
    rw [awaited_add, awaited_flush]
  have shrunk : b.flush.shrink content = content := by
    rw [shrink_eq_collapse, keeps_flush, comment.collapsed]
  have stepped : step .authored b (.verbatim .comment content) =
      b.flush.add (.verbatim .comment content) := by
    rw [step, shrunk]
  rw [← same, Node.printChars]
  exact stepped ▸ Reads.of_event (read_comment comment.unended)

theorem pending_flush (b : TreeBuilder) : b.flush.pending = none := by
  have added (b : TreeBuilder) (node : Node) : (b.add node).pending = b.pending := by
    rw [add]
    split <;> rfl
  rw [flush]
  split
  next => exact added _ _
  next eq => exact eq

theorem pending_opened (b : TreeBuilder) (tag : Tag) :
    (b.flush.opened tag).pending.getD "" = "" := by
  rw [opened, pending_flush]
  rfl

theorem clear_opened (b : TreeBuilder) (tag : Tag) :
    (b.flush.opened tag).clear = b.flush.opened tag := by
  rw [clear, opened, pending_flush]

theorem keeps_opened {keep : Bool} (place : b.keeps = keep) (tag : Tag) :
    (b.flush.opened tag).keeps = (keep || keepsSpace tag.name) := by
  have inner : (b.flush.opened tag).keeps = (keepsSpace tag.name || b.flush.keeps) := rfl
  rw [inner, keeps_flush, place, Bool.or_comm]

theorem Ready.opened (ready : b.Ready) (tag : Tag) : (b.flush.opened tag).Ready := by
  refine ⟨?_, ?_⟩
  · rw [TreeBuilder.opened, pending_flush]
    exact nofun
  · rw [TreeBuilder.opened, awaited_flush]
    exact ready.voids

theorem closeNamed_innermost {e : OpenElement} {stack : List OpenElement}
    (innermost : b.stack = e :: stack) : closeNamed .authored b e.tag.name = b.close := by
  have within : b.stack.takeWhile (·.tag.name ≠ e.tag.name) = [] := by
    rw [innermost, List.takeWhile_cons_of_neg]
    simp
  rw [closeNamed, within, if_pos]
  · rfl
  · simp [innermost]

theorem reads_startTag {tag : Tag} (authored : tag.Authored) (b : TreeBuilder) :
    Reads tag.printStart b (startTag .authored b ⟨tag.name, tag.attributes, false⟩) :=
  .of_event (read_printStart (.of_isName authored.name)
    (fun entry mem => .of_isName (authored.names entry mem)) authored.notRaw)

theorem reads_opened {tag : Tag} (authored : tag.Authored)
    (content : NestingRules.authored.isVoid tag.name = false) (b : TreeBuilder) :
    Reads tag.printStart b (b.flush.opened tag) := by
  have reads := reads_startTag authored b
  rwa [startTag_eq authored, content, if_neg Bool.false_ne_true] at reads

theorem reads_void {tag : Tag} (authored : tag.Authored)
    (void : NestingRules.authored.isVoid tag.name = true) (b : TreeBuilder) :
    Reads tag.printStart b
      ((b.flush.add (.element tag [])).awaiting (b.flush.awaited ++ [tag.name])) := by
  have reads := reads_startTag authored b
  rwa [startTag_eq authored, void, if_pos rfl] at reads

/-- The end tag of the innermost element adds it with what was read of it. -/
theorem endTag_innermost {tag : Tag} {nodes : List Node} {names : List String} (ready : b.Ready)
    (content : NestingRules.authored.isVoid tag.name = false)
    (within : b.flush = ((b'.opened tag).addAll nodes).awaiting names) :
    endTag .authored b tag.name = (b'.add (.element tag nodes)).awaiting names := by
  have unawaited : b.awaited.contains tag.name = false := by
    rw [Bool.eq_false_iff, ne_eq, List.contains_iff_mem]
    intro mem
    exact Bool.false_ne_true (content.symm.trans (ready.voids _ mem))
  have innermost : b.flush.stack = ⟨tag, nodes.reverse⟩ :: b'.stack := by
    rw [within, addAll_opened]
    rfl
  have closed := closeNamed_innermost innermost
  rw [endTag, unawaited, if_neg Bool.false_ne_true, closed, within, close_awaiting,
    close_addAll_opened]

theorem reads_closed {tag : Tag} {nodes : List Node} {names : List String}
    (authored : tag.Authored) (ready : b.Ready)
    (content : NestingRules.authored.isVoid tag.name = false)
    (within : b.flush = ((b'.opened tag).addAll nodes).awaiting names) :
    Reads tag.printEnd b ((b'.add (.element tag nodes)).awaiting names) := by
  rw [← endTag_innermost ready content within]
  exact .of_event (read_printEnd authored.name)

/-! ## Trees -/

theorem reads_printAll {keep : Bool} {nodes : List Node} (h : Node.Authored keep nodes) :
    ∀ {b : TreeBuilder}, b.Ready → b.keeps = keep →
      Adds (Node.printAllChars false nodes) b (Node.condense keep (b.pending.getD "") nodes) := by
  -- The pending text differs from node to node, so the state is general in the induction.
  induction h with
  | nil =>
    intro b ready place
    rw [← place, Node.printAllChars, Node.condense]
    exact .of_flush ready
  | @text keep content nodes _ after =>
    intro b ready place
    obtain ⟨b', reads, ready', flushed⟩ := after (ready.withText content.toList)
      ((keeps_withText b content.toList).trans place)
    rw [getD_pending_withText, String.ofList_toList, clear_withText] at flushed
    rw [Node.printAllChars, Node.printChars, Node.condense, if_neg Bool.false_ne_true]
    exact ⟨b', (reads_escape content b).trans reads, ready', flushed⟩
  | @comment keep content nodes comment _ after =>
    intro b ready place
    rw [Node.printAllChars, Node.condense]
    exact .cons ready place ready.voids (reads_comment (place ▸ comment)) after
  | @element keep tag children nodes authored void _ _ within after =>
    intro b ready place
    rw [Node.printAllChars, Node.condense]
    cases content : NestingRules.authored.isVoid tag.name with
    | true =>
      obtain rfl := void content
      have voids : ∀ name ∈ b.flush.awaited ++ [tag.name],
          NestingRules.authored.isVoid name = true := by
        rw [awaited_flush]
        intro name mem
        rcases List.mem_append.mp mem with mem | mem
        · exact ready.voids name mem
        · exact List.mem_singleton.mp mem ▸ content
      rw [Node.printChars, content, Node.condense]
      exact .cons ready place voids (reads_void authored content b) after
    | false =>
      obtain ⟨b', reads, ready', flushed⟩ := within (ready.opened tag) (keeps_opened place tag)
      rw [pending_opened, clear_opened] at flushed
      have closes := reads_closed authored ready' content flushed
      rw [Node.printChars, content, Bool.and_false, if_neg Bool.false_ne_true, authored.notRaw]
      apply Adds.cons ready place ready'.voids
      · exact ((reads_opened authored content b).trans reads).trans closes
      · exact after

theorem addAll_empty (nodes : List Node) :
    empty.clear.addAll nodes = { empty with nodes := nodes.reverse } := by
  apply @addAll_eq_of_add fun nodes => { empty with nodes }
  exact fun _ _ => rfl

end TreeBuilder

namespace Node

/-- The print of nodes is read as the nodes with their texts condensed. -/
theorem ofSource_printAll {nodes : List Node} (h : Authored false nodes) :
    ofSource (printAll nodes) = condense false "" nodes := by
  have ready : empty.Ready := ⟨nofun, nofun⟩
  obtain ⟨b, reads, _, flushed⟩ := reads_printAll h ready rfl
  have start : empty.pending.getD "" = "" := rfl
  have ended : Event.read false [] = [] := by rw [Event.read]
  have last := reads []
  rw [List.append_nil, ended, List.foldl_nil] at last
  rw [start, addAll_empty] at flushed
  rw [ofSource, ofEvents, Event.ofSource, printAll, String.toList_ofList, last, finish, flushed]
  exact List.reverse_reverse _

/-- The elements with their attributes, and the comments. -/
def markup : List Node → List Node
  | [] => []
  | .text _ :: nodes => markup nodes
  | .verbatim kind content :: nodes => .verbatim kind content :: markup nodes
  | .element tag children :: nodes => .element tag (markup children) :: markup nodes

theorem markup_ofText_append (keep : Bool) (content : String) (nodes : List Node) :
    markup (ofText keep content ++ nodes) = markup nodes := by
  rw [ofText]
  split
  next => rfl
  next => rw [List.singleton_append, markup]

theorem markup_condense : ∀ (keep : Bool) (pending : String) (nodes : List Node),
    markup (condense keep pending nodes) = markup nodes
  | keep, pending, [] => by
    have empty := markup_ofText_append keep pending []
    rwa [List.append_nil, ← condense] at empty
  | keep, pending, .text content :: nodes => by
    rw [condense, markup, markup_condense keep (pending ++ content) nodes]
  | keep, pending, .verbatim kind content :: nodes => by
    rw [condense, markup_ofText_append, markup, markup, markup_condense keep "" nodes]
  | keep, pending, .element tag children :: nodes => by
    rw [condense, markup_ofText_append, markup, markup, markup_condense _ "" children,
      markup_condense keep "" nodes]

/-- The print of an element is read as an element with the same tag, attributes and comments, whose
texts are condensed: nothing in a text or in an attribute value is taken for markup. -/
theorem ofSource_print {tag : Tag} {children : List Node}
    (h : Authored false [.element tag children]) :
    ofSource (print (.element tag children)) =
        [.element tag (condense (keepsSpace tag.name) "" children)] ∧
      markup (condense (keepsSpace tag.name) "" children) = markup children := by
  refine ⟨?_, markup_condense _ _ _⟩
  have whole := ofSource_printAll h
  have same : printAll [.element tag children] = print (.element tag children) := by
    rw [printAll, printAllChars, printAllChars, List.append_nil]
    rfl
  rw [same] at whole
  rw [whole, condense, condense]
  rfl

/-- Both quotes, references, tags and a comment in texts and values, and spaces in and out of
preformatted text. -/
theorem ofSource_print_of_section :
    let tag : Tag := ⟨"section", [("title", "a\"b'c &amp; <d>\u00a0"), ("data-x_1", "\"")]⟩
    let children : List Node :=
      [.text "1 < 2 &lt; ", .text "</section><!--", .verbatim .comment " x > 1 - ", .text " \n ",
        .element ⟨"br", [("class", "'")]⟩ [], .text "",
        .element ⟨"pre", []⟩ [.text "  ", .verbatim .comment "  "], .text "  "]
    let children' : List Node :=
      [.text "1 < 2 &lt; </section><!--", .verbatim .comment " x > 1 - ", .text "\n",
        .element ⟨"br", [("class", "'")]⟩ [],
        .element ⟨"pre", []⟩ [.text "  ", .verbatim .comment "  "], .text " "]
    Authored false [.element tag children] ∧
      ofSource (print (.element tag children)) = [.element tag children'] ∧
      markup children' = markup children := by
  intro tag children children'
  have line : (⟨"br", [("class", "'")]⟩ : Tag).Authored := ⟨by decide, by decide, by decide, rfl⟩
  have preformatted : (⟨"pre", []⟩ : Tag).Authored := ⟨by decide, by decide, by decide, rfl⟩
  have outer : tag.Authored := ⟨by decide, by decide, by decide, rfl⟩
  have spaces : Authored true [.text "  ", .verbatim .comment "  "] :=
    .text (.comment ⟨by decide, rfl⟩ .nil)
  have written : Authored false [.element tag children] :=
    .element outer (by decide)
      (.text (.text (.comment ⟨by decide, rfl⟩ (.text (.element line (by decide) .nil
        (.text (.element preformatted (by decide) spaces (.text .nil)))))))) .nil
  have condensed : condense (keepsSpace tag.name) "" children = children' := by
    simp [condense, ofText, collapse, keepsSpace, tag, children, children', isSpace]
  exact ⟨written, condensed ▸ ofSource_print written⟩

end Node

end PageComponent
