import PageComponent.Proofs.Markup.Readings
import PageComponent.Proofs.Markup.RoundTrip

/-!
# Trees of a source

The tree of a source has tags of the kind that is read, no attribute twice in one tag, and raw text
that is not cut short by an end tag. The constructs in it that are kept as they are have texts that
do not end them, and where spaces are not kept they have shrunk.
-/

namespace PageComponent

open TreeBuilder

/-! ## Attributes -/

namespace Entries

variable {α : Type} {es : Entries α}

theorem nodup_keys_set (h : (keys es).Nodup) (key : String) (value : α) :
    (keys (set es key value)).Nodup := by
  rw [keys_set]
  split
  next => exact h
  next absent => exact List.nodup_append_comm.mp (List.nodup_cons.mpr ⟨absent, h⟩)

end Entries

theorem Tag.not_isVoid_of_isRawName {name : String} (raw : isRawName name = true) :
    NestingRules.authored.isVoid name = false := by
  rcases isRawName_iff.mp raw with rfl | rfl <;> decide

/-- Tags as they are read: each attribute stands in them once. -/
structure Tag.Written (tag : Tag) : Prop where
  name : StartTag.IsTagName tag.name
  keys : ∀ key ∈ Entries.keys tag.attributes, StartTag.IsKey key
  distinct : (Entries.keys tag.attributes).Nodup

namespace Tag.Written

variable {tag : Tag} {key value : String}

theorem set (h : tag.Written) (named : StartTag.IsKey key) : (tag.set key value).Written where
  name := h.name
  keys := Entries.forall_keys_set h.keys named value
  distinct := Entries.nodup_keys_set h.distinct key value

theorem erase (h : tag.Written) : (tag.erase key).Written where
  name := h.name
  keys other mem := by
    rw [Tag.erase, Entries.keys_erase] at mem
    exact h.keys other (List.mem_filter.mp mem).1
  distinct := by
    rw [Tag.erase, Entries.keys_erase]
    exact h.distinct.filter _

theorem of_named {tag : StartTag} (named : tag.Named) (rules : NestingRules) :
    (⟨tag.name, attributesOf rules tag.attributes⟩ : Tag).Written := by
  have grown (step : Entries String → String × String → Entries String)
      (sets : ∀ es e, step es e = es ∨ step es e = Entries.set es e.1 e.2) :
      ∀ (pairs : List (String × String)) (es : Entries String),
        (⟨tag.name, es⟩ : Tag).Written → (∀ e ∈ pairs, StartTag.IsKey e.1) →
          (⟨tag.name, pairs.foldl step es⟩ : Tag).Written := by
    intro pairs
    induction pairs with
    | nil => exact fun _ written _ => written
    | cons e pairs ih =>
      intro es written keys
      obtain ⟨key, keys⟩ := List.forall_mem_cons.mp keys
      refine ih _ ?_ keys
      rcases sets es e with same | set
      · rwa [same]
      · rw [set]
        exact written.set key
  have empty : (⟨tag.name, []⟩ : Tag).Written := ⟨named.name, nofun, List.nodup_nil⟩
  rw [attributesOf]
  split
  next => exact grown _ (fun _ _ => .inr rfl) tag.attributes [] empty named.keys
  next =>
    refine grown _ (fun es e => ?_) tag.attributes [] empty named.keys
    split
    next => exact .inl rfl
    next => exact .inr rfl

end Tag.Written

/-! ## Trees -/

/-- Nodes as they are read where spaces are kept or not. -/
inductive Node.Written : Bool → Node → Prop where
  | text {keep : Bool} {content : String} : Written keep (.text content)
  | verbatim {keep : Bool} {kind : Verbatim} {content : String}
      (unended : kind ≠ .declaration → Event.cutAt? kind.mark content.toList = none)
      (collapsed : collapse keep content = content) : Written keep (.verbatim kind content)
  | element {keep : Bool} {tag : Tag} {children : List Node} (written : tag.Written)
      (notRaw : Tag.isRawName tag.name = false)
      (within : ∀ node ∈ children, Written (keep || keepsSpace tag.name) node) :
      Written keep (.element tag children)
  | raw {keep : Bool} {tag : Tag} {text? : Option String} (written : tag.Written)
      (raw : Tag.isRawName tag.name = true)
      (unended : ∀ content ∈ text?,
        Event.cutAt? (Event.elementEnd tag.name) content.toList = none) :
      Written keep (.element tag (text?.toList.map .text))

theorem collapse_cases (keep : Bool) (content : String) :
    (collapse keep content = content ∨ collapse keep content = " " ∨
      collapse keep content = "\n") ∧
      collapse keep (collapse keep content) = collapse keep content := by
  rw [collapse]
  split
  next spaces =>
    rw [Bool.and_eq_true, Bool.not_eq_true'] at spaces
    rw [spaces.2]
    split
    next => exact ⟨.inr (.inr rfl), rfl⟩
    next => exact ⟨.inr (.inl rfl), rfl⟩
  next kept => exact ⟨.inl rfl, if_neg kept⟩

theorem cutAt?_collapse {mark : Event.Mark} {content : String}
    (unended : Event.cutAt? mark content.toList = none)
    (space : Event.cutAt? mark " ".toList = none) (line : Event.cutAt? mark "\n".toList = none)
    (keep : Bool) : Event.cutAt? mark (collapse keep content).toList = none := by
  rcases (collapse_cases keep content).1 with same | same | same
  · rwa [same]
  · rwa [same]
  · rwa [same]

theorem Node.Written.of_verbatim {kind : Verbatim} {content : String}
    (unended : kind ≠ .declaration → Event.cutAt? kind.mark content.toList = none) (keep : Bool) :
    Node.Written keep (.verbatim kind (collapse keep content)) := by
  refine .verbatim (fun kept => ?_) (collapse_cases keep content).2
  apply cutAt?_collapse (unended kept)
  · cases kind <;> rfl
  · cases kind <;> rfl

theorem Node.Written.of_raw {tag : Tag} {content : String} (written : tag.Written)
    (raw : Tag.isRawName tag.name = true)
    (unended : Event.cutAt? (Event.elementEnd tag.name) content.toList = none) (keep inner : Bool) :
    Node.Written keep (.element tag (ofText inner content)) := by
  rw [ofText]
  split
  next => exact @Node.Written.raw keep tag none written raw (by simp)
  next =>
    refine @Node.Written.raw keep tag (some (collapse inner content)) written raw ?_
    rintro _ ⟨⟩
    exact cutAt?_collapse unended rfl rfl inner

theorem Tag.Authored.written {tag : Tag} (h : tag.Authored) : tag.Written where
  name := .of_isName h.name
  keys := List.forall_mem_map.mpr fun entry mem => .of_isName (h.names entry mem)
  distinct := h.distinct

theorem Node.Authored.written {keep : Bool} {nodes : List Node} (h : Node.Authored keep nodes) :
    ∀ node ∈ nodes, node.Written keep := by
  induction h with
  | nil => exact nofun
  | element authored _ _ _ within after =>
    exact List.forall_mem_cons.mpr ⟨.element authored.written authored.notRaw within, after⟩
  | text _ after => exact List.forall_mem_cons.mpr ⟨.text, after⟩
  | comment comment _ after =>
    exact List.forall_mem_cons.mpr ⟨.verbatim (fun _ => comment.unended) comment.collapsed, after⟩

namespace TreeBuilder

variable {b : TreeBuilder} {tag : StartTag} {rules : NestingRules}

def WrittenStack : List OpenElement → Prop
  | [] => True
  | e :: stack =>
    (e.tag.Written ∧ Tag.isRawName e.tag.name = false ∧
      ∀ node ∈ e.children, node.Written ((e :: stack).any (keepsSpace ·.tag.name))) ∧
      WrittenStack stack

/-- All nodes so far are as they are read. -/
structure Written (b : TreeBuilder) : Prop where
  stack : WrittenStack b.stack
  nodes : ∀ node ∈ b.nodes, node.Written false
  voids : ∀ name ∈ b.awaited, NestingRules.authored.isVoid name = true

namespace Written

theorem add (h : b.Written) {node : Node} (written : node.Written b.keeps) :
    (b.add node).Written := by
  obtain ⟨stack, nodes, pending, awaited⟩ := b
  cases stack with
  | nil => exact ⟨h.stack, List.forall_mem_cons.mpr ⟨written, h.nodes⟩, h.voids⟩
  | cons e stack =>
    obtain ⟨⟨named, notRaw, within⟩, around⟩ := h.stack
    exact ⟨⟨⟨named, notRaw, List.forall_mem_cons.mpr ⟨written, within⟩⟩, around⟩, h.nodes,
      h.voids⟩

theorem flush (h : b.Written) : b.flush.Written := by
  rw [TreeBuilder.flush]
  split
  next =>
    have cleared : b.clear.Written := ⟨h.stack, h.nodes, h.voids⟩
    exact cleared.add .text
  next => exact h

theorem close (h : b.Written) : b.close.Written := by
  obtain ⟨stack, nodes, pending, awaited⟩ := b
  cases stack with
  | nil => exact h
  | cons e stack =>
    obtain ⟨⟨named, notRaw, within⟩, around⟩ := h.stack
    have outer : (TreeBuilder.mk stack nodes pending awaited).Written := ⟨around, h.nodes, h.voids⟩
    refine outer.add (.element named notRaw ?_)
    intro node mem
    rw [Bool.or_comm]
    exact within node (List.mem_reverse.mp mem)

theorem closeMany (h : b.Written) (n : Nat) : (closeMany n b).Written := by
  induction n generalizing b with
  | zero => exact h
  | succ n ih => exact ih h.close

theorem endTag (h : b.Written) (name : String) : (endTag .authored b name).Written := by
  rw [TreeBuilder.endTag]
  split
  next => exact ⟨h.stack, h.nodes, fun other mem => h.voids other (List.mem_of_mem_erase mem)⟩
  next =>
    rw [closeNamed]
    split
    next => exact h.flush.closeMany _
    next => exact h.flush

/-! ### Elements with raw text -/

/-- The end tag of an element that has just begun ends it, whatever its text is. -/
theorem endTag_opened (voids : ∀ name ∈ b.awaited, NestingRules.authored.isVoid name = true)
    (tag : Tag) (content : NestingRules.authored.isVoid tag.name = false) (text : List Char) :
    ∃ inner, TreeBuilder.endTag .authored ((b.flush.opened tag).withText text) tag.name =
      (b.flush.add (.element tag (Node.ofText inner (.ofList text)))).awaiting b.awaited := by
  have opened : (b.flush.opened tag).Ready := by
    refine ⟨?_, ?_⟩
    · rw [TreeBuilder.opened, pending_flush]
      exact (Option.some_ne_none "").symm
    · rw [TreeBuilder.opened, awaited_flush]
      exact voids
  have flushed := flush_eq (opened.withText text)
  rw [clear_withText, clear_opened, getD_pending_withText, pending_opened, String.empty_append]
    at flushed
  have same : (b.flush.opened tag).awaiting b.awaited = b.flush.opened tag := by
    rw [← awaited_flush b]
    rfl
  rw [← same, addAll_awaiting, same] at flushed
  exact ⟨_, endTag_innermost (opened.withText text) content flushed⟩

theorem add_raw (h : b.Written) (named : tag.Named) (raw : Tag.isRawName tag.name = true)
    {text : List Char} (unended : Event.cutAt? (Event.elementEnd tag.name) text = none) :
    (TreeBuilder.endTag .authored ((b.flush.opened ⟨tag.name,
      attributesOf .authored tag.attributes⟩).withText text) tag.name).Written := by
  obtain ⟨inner, ended⟩ := endTag_opened h.voids ⟨tag.name, attributesOf .authored tag.attributes⟩
    (Tag.not_isVoid_of_isRawName raw) text
  have written : Node.Written b.flush.keeps (.element ⟨tag.name,
      attributesOf .authored tag.attributes⟩ (Node.ofText inner (.ofList text))) :=
    .of_raw (.of_named named .authored) raw (by rwa [String.toList_ofList]) _ inner
  have added := h.flush.add written
  rw [ended]
  exact ⟨added.stack, added.nodes, h.voids⟩

theorem startTag_of_raw (raw : (Tag.isRawName tag.name && !tag.selfClosing) = true)
    (b : TreeBuilder) : TreeBuilder.startTag .authored b tag =
      b.flush.opened ⟨tag.name, attributesOf .authored tag.attributes⟩ := by
  rw [Bool.and_eq_true, Bool.not_eq_true'] at raw
  rw [startTag_authored, raw.2, Tag.not_isVoid_of_isRawName raw.1]
  rfl

theorem startTag (h : b.Written) (lone : (Event.startTag tag).Lone) :
    (TreeBuilder.startTag .authored b tag).Written := by
  obtain ⟨named, closed⟩ := lone
  rw [startTag_authored]
  dsimp only
  cases raw : Tag.isRawName tag.name with
  | true =>
    rw [raw, Bool.true_and, Bool.not_eq_false'] at closed
    rw [closed, if_pos rfl]
    exact @add_raw b tag h named raw [] rfl
  | false =>
    have inner : (b.flush.opened ⟨tag.name, attributesOf .authored tag.attributes⟩).Written :=
      ⟨⟨⟨.of_named named .authored, raw, nofun⟩, h.flush.stack⟩, h.flush.nodes, h.flush.voids⟩
    split
    next => exact inner.endTag tag.name
    split
    next void =>
      refine ⟨inner.close.stack, inner.close.nodes, ?_⟩
      exact List.forall_mem_append.mpr ⟨h.flush.voids, List.forall_mem_singleton.mpr void⟩
    next => exact inner

theorem step (h : b.Written) {event : Event} (lone : event.Lone) :
    (TreeBuilder.step .authored b event).Written := by
  cases event with
  | startTag tag => exact h.startTag lone
  | endTag name => exact h.endTag name
  | text content => exact ⟨h.stack, h.nodes, h.voids⟩
  | verbatim kind content => exact h.flush.add (.of_verbatim lone _)

end Written

theorem pending_add (b : TreeBuilder) (node : Node) : (b.add node).pending = b.pending := by
  rw [add]
  split <;> rfl

theorem length_stack_add (b : TreeBuilder) (node : Node) :
    (b.add node).stack.length = b.stack.length := by
  rw [add]
  split
  next => rfl
  next eq => rw [eq, List.length_cons, List.length_cons]

/-- An element that the source ends in is ended there. -/
theorem finish_opened (b : TreeBuilder) (tag : Tag) :
    (b.flush.opened tag).finish = (b.flush.add (.element tag [])).finish := by
  have flush_eq_self {b : TreeBuilder} (none : b.pending = none) : b.flush = b := by
    rw [flush, none]
  have pending : (b.flush.add (.element tag [])).pending = none := by
    rw [pending_add, pending_flush]
  have closed : (b.flush.opened tag).close = b.flush.add (.element tag []) :=
    close_addAll_opened b.flush tag []
  have length : (b.flush.opened tag).stack.length = b.flush.stack.length + 1 := rfl
  have unpending : (b.flush.opened tag).flush = b.flush.opened tag :=
    flush_eq_self (pending_flush b)
  rw [finish, finish, flush_eq_self pending, unpending, length, closeMany, closed,
    length_stack_add]

/-- Events in order make a tree of written nodes. -/
theorem Written.finish_foldl {events : List Event} (h : Event.Orderly events) :
    ∀ {b : TreeBuilder}, b.Written →
      ∀ node ∈ (events.foldl (TreeBuilder.step .authored) b).finish, node.Written false := by
  induction h with
  | nil =>
    intro b written node mem
    exact (written.flush.closeMany _).nodes node (List.mem_reverse.mp mem)
  | lone lone _ ih =>
    intro b written
    exact ih (written.step lone)
  | @raw tag text events named raw unended _ ih =>
    intro b written
    rw [List.foldl_cons, List.foldl_append, foldl_texts, List.foldl_cons, TreeBuilder.step,
      startTag_of_raw raw]
    exact ih (written.add_raw named (Bool.and_eq_true_iff.mp raw).1 unended)
  | @unended tag named raw =>
    intro b written
    have rawName := (Bool.and_eq_true_iff.mp raw).1
    have element : Node.Written b.flush.keeps
        (.element ⟨tag.name, attributesOf .authored tag.attributes⟩ []) :=
      @Node.Written.of_raw _ "" (.of_named named .authored) rawName rfl _ false
    have added := written.flush.add element
    rw [List.foldl_cons, List.foldl_nil, TreeBuilder.step, startTag_of_raw raw, finish_opened]
    intro node mem
    exact (added.flush.closeMany _).nodes node (List.mem_reverse.mp mem)

end TreeBuilder

/-- The tree of a source is written. -/
theorem Node.written_ofSource (source : String) : ∀ node ∈ ofSource source, node.Written false :=
  Written.finish_foldl (Event.orderly_read false source.toList) ⟨trivial, nofun, nofun⟩

end PageComponent
