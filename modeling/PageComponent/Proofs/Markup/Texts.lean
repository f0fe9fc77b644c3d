import PageComponent.Markup.Tree
import PageComponent.Proofs.Markup.Escapes

/-!
# Printed texts

The print of a text is read as that text, though perhaps in several pieces. Under any nesting rules
a tree does not show where a text was cut.
-/

namespace PageComponent.Event

open TreeBuilder

variable {c : Char} {cs cs' ds ds' : List Char} {events events' : List Event}

/-- Reading the characters does to every tree what the events do, whatever follows them. -/
def Spells (cs : List Char) (events : List Event) : Prop :=
  ∀ (rules : NestingRules) (b : TreeBuilder) (rest : List Char),
    (read false (cs ++ rest)).foldl (step rules) b =
      (read false rest).foldl (step rules) (events.foldl (step rules) b)

theorem Spells.nil : Spells [] [] :=
  fun _ _ _ => rfl

theorem Spells.append (h : Spells cs events) (h' : Spells cs' events') :
    Spells (cs ++ cs') (events ++ events') := by
  intro rules b rest
  rw [List.append_assoc, h, h', List.foldl_append]

theorem Spells.of_events (h : ∀ rest, read false (cs ++ rest) = events ++ read false rest) :
    Spells cs events := by
  intro rules b rest
  rw [h, List.foldl_append]

theorem Spells.of_event {event : Event}
    (h : ∀ rest, read false (cs ++ rest) = event :: read false rest) : Spells cs [event] :=
  .of_events h

/-! ## Pieces of a text -/

theorem foldl_texts_append (rules : NestingRules) (b : TreeBuilder) (cs ds : List Char) :
    (texts cs ++ texts ds).foldl (step rules) b = (texts (cs ++ ds)).foldl (step rules) b := by
  by_cases first : cs = []
  · subst first
    rfl
  by_cases second : ds = []
  · rw [second, List.append_nil]
    exact congrArg (List.foldl (step rules) b) (List.append_nil (texts cs))
  · simp [texts, first, second, step, String.append_assoc]

theorem Spells.texts_append (h : Spells cs (texts ds)) (h' : Spells cs' (texts ds')) :
    Spells (cs ++ cs') (texts (ds ++ ds')) := by
  intro rules b rest
  rw [h.append h', foldl_texts_append]

theorem read_plain (plain : isPlain c = true) (rest : List Char) :
    read false (c :: rest) =
      .text (.ofList (c :: rest.takeWhile isPlain)) :: read false (rest.dropWhile isPlain) := by
  rw [isPlain, Bool.and_eq_true, bne_iff_ne, bne_iff_ne] at plain
  rw [Event.read, if_neg plain.1, if_neg plain.2]

/-- A run of plain characters is one event, but it could as well be read one by one. -/
theorem spells_plain (plain : isPlain c = true) : Spells [c] (texts [c]) := by
  intro rules b rest
  have one : texts [c] = [.text (.ofList [c])] := rfl
  rw [List.singleton_append, read_plain plain, List.foldl_cons, one, List.foldl_cons,
    List.foldl_nil]
  cases rest with
  | nil => rfl
  | cons d ds =>
    by_cases next : isPlain d = true
    · rw [read_plain next, List.foldl_cons, List.takeWhile_cons_of_pos next,
        List.dropWhile_cons_of_pos next]
      congr 1
      simp only [step, Option.getD_some, String.append_assoc, ← String.ofList_append,
        List.singleton_append]
    · rw [List.takeWhile_cons_of_neg next, List.dropWhile_cons_of_neg next]

theorem spells_reference {name : List Char} (names : Reference.Names name c) :
    Spells ('&' :: (name ++ [';'])) (texts [c]) := by
  have one : ∀ rest, read false ('&' :: (name ++ [';']) ++ rest) =
      .text (.ofList [c]) :: read false rest := by
    intro rest
    rw [List.cons_append, ← List.append_cons, Event.read, if_neg (by decide), if_pos rfl,
      names.readInText_eq]
    dsimp only
    rw [List.drop_length_add_append, List.drop_one, List.tail_cons]
  exact .of_event one

theorem spells_escape (content : String) :
    Spells (Markup.escape content) (texts content.toList) := by
  rw [Markup.escape]
  induction content.toList with
  | nil => exact .nil
  | cons c cs ih =>
    have first : Spells (Markup.escapeChar c) (texts [c]) := by
      rcases Markup.escapes_escapeChar c with ⟨same, plain⟩ | ⟨name, names, reference⟩
      · rw [same]
        exact spells_plain plain
      · rw [reference]
        exact spells_reference names
    rw [List.flatMap_cons]
    exact first.texts_append ih

end PageComponent.Event
