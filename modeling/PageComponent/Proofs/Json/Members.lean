import PageComponent.Json.Reader
import PageComponent.Proofs.Outcome

/-!
# Members of objects

A member whose name and value are plain texts is read up to the quote that closes the value. What
stands behind it decides whether the object ends, goes on or cannot be read.
-/

namespace PageComponent.Json

variable {α : Type} {cs name content rest start : List Char} {c d : Char}

/-- A text in which every character stands for itself. -/
def Plain (cs : List Char) : Prop :=
  ∀ c ∈ cs, c ≠ '"' ∧ c ≠ '\\' ∧ 0x20 ≤ c.toNat

instance : Decidable (Plain cs) :=
  List.decidableBAll _ cs

/-- A reader gives the item and leaves the rest. -/
def Leaves (outcome : Except Error (α × Shorter cs)) (item : α) (rest : List Char) : Prop :=
  ∃ shorter, outcome = .ok (item, ⟨rest, shorter⟩)

theorem readText_plain (plain : Plain cs) :
    Leaves (readText start (cs ++ '"' :: rest)) cs rest := by
  induction cs with
  | nil =>
    rw [List.nil_append, readText, if_pos rfl]
    exact ⟨_, rfl⟩
  | cons c cs ih =>
    obtain ⟨⟨inner, unescaped, visible⟩, plain⟩ := List.forall_mem_cons.mp plain
    obtain ⟨shorter, read⟩ := ih plain
    rw [List.cons_append, readText, if_neg inner, if_neg unescaped, if_neg (by omega), read]
    exact ⟨_, rfl⟩

theorem readValue_text (plain : Plain content) :
    Leaves (readValue ('"' :: (content ++ '"' :: rest))) (.text (.ofList content)) rest := by
  obtain ⟨shorter, read⟩ := @readText_plain _ rest ('"' :: (content ++ '"' :: rest)) plain
  rw [readValue, if_pos rfl, read]
  exact ⟨_, rfl⟩

/-! ## Marks between values -/

theorem skipSpace_of_visible (visible : isSpace c = false) (cs : List Char) :
    (skipSpace (c :: cs)).1 = c :: cs := by
  rw [skipSpace, NotLonger.dropWhile]
  dsimp only
  rw [List.dropWhile_cons_of_neg (by simp [visible])]

theorem skipSpace_space (cs : List Char) : (skipSpace (' ' :: cs)).1 = (skipSpace cs).1 := rfl

theorem next?_eq_some (here : (skipSpace cs).1 = c :: rest) :
    ∃ shorter, next? c cs = some ⟨rest, shorter⟩ := by
  rw [next?]
  generalize skipSpace cs = skipped at here
  obtain ⟨_, shorter⟩ := skipped
  subst here
  dsimp only
  rw [if_pos rfl]
  exact ⟨shorter, rfl⟩

theorem next?_eq_none (here : (skipSpace cs).1 = d :: rest) (other : d ≠ c) :
    next? c cs = none := by
  rw [next?]
  generalize skipSpace cs = skipped at here
  obtain ⟨_, shorter⟩ := skipped
  subst here
  dsimp only
  rw [if_neg other]

/-! ## Members -/

/-- A member with its texts in quotes. -/
def member (name content : List Char) : List Char :=
  '"' :: (name ++ '"' :: ':' :: ' ' :: '"' :: (content ++ ['"']))

section Member

variable (named : Plain name) (plain : Plain content)

include named plain

/-- Behind a member the object is read on from where its value ends. -/
theorem readMembers_member (here : (skipSpace cs).1 = member name content ++ rest) :
    ∃ shorter : rest.length < cs.length, readMembers cs = (do
      match next? '\x7d' rest with
      | some ⟨r, h⟩ =>
        return ([(.ofList name, .text (.ofList content))], ⟨r, Nat.lt_trans h shorter⟩)
      | none =>
        match next? ',' rest with
        | none => throw ⟨.expectedComma, skipSpace rest⟩
        | some ⟨r, h⟩ =>
          let (pairs, ⟨r', h'⟩) ← readMembers r
          return ((.ofList name, .text (.ofList content)) :: pairs,
            ⟨r', Nat.lt_trans h' (Nat.lt_trans h shorter)⟩)) := by
  have whole : member name content ++ rest =
      '"' :: (name ++ '"' :: ':' :: ' ' :: '"' :: (content ++ '"' :: rest)) := by
    simp [member]
  rw [whole] at here
  obtain ⟨quoted, first⟩ := next?_eq_some here
  obtain ⟨_, second⟩ := @readText_plain _ (':' :: ' ' :: '"' :: (content ++ '"' :: rest))
    (skipSpace cs).1 named
  obtain ⟨_, colon⟩ := @next?_eq_some (':' :: ' ' :: '"' :: (content ++ '"' :: rest)) _ ':'
    (skipSpace_of_visible rfl _)
  obtain ⟨_, value⟩ : Leaves (readValue (skipSpace (' ' :: '"' :: (content ++ '"' :: rest))).1)
    (.text (.ofList content)) rest := readValue_text plain
  have shorter : rest.length < cs.length := by
    simp only [List.length_append, List.length_cons] at quoted
    omega
  refine ⟨shorter, ?_⟩
  rw [readMembers, first]
  dsimp only
  rw [second]
  simp only [bind, Except.bind, pure, Except.pure]
  rw [colon]
  dsimp only
  generalize readValue _ = outcome at value ⊢
  subst value
  rfl

theorem readMembers_close {r : List Char} (here : (skipSpace cs).1 = member name content ++ rest)
    (close : (skipSpace rest).1 = '\x7d' :: r) :
    Leaves (readMembers cs) [(.ofList name, .text (.ofList content))] r := by
  obtain ⟨_, read⟩ := readMembers_member named plain here
  obtain ⟨_, found⟩ := next?_eq_some close
  rw [read, found]
  exact ⟨_, rfl⟩

section Comma

variable {r : List Char} (here : (skipSpace cs).1 = member name content ++ rest)
  (comma : (skipSpace rest).1 = ',' :: r)

include here comma

theorem readMembers_comma {pairs : List (String × Value)} {r' : List Char}
    (others : Leaves (readMembers r) pairs r') :
    Leaves (readMembers cs) ((.ofList name, .text (.ofList content)) :: pairs) r' := by
  obtain ⟨_, read⟩ := readMembers_member named plain here
  obtain ⟨_, found⟩ := next?_eq_some comma
  obtain ⟨_, others⟩ := others
  rw [read, next?_eq_none comma (by decide), found]
  dsimp only
  rw [others]
  exact ⟨_, rfl⟩

theorem readMembers_comma_fails (others : Fails (readMembers r)) : Fails (readMembers cs) := by
  obtain ⟨_, read⟩ := readMembers_member named plain here
  obtain ⟨_, found⟩ := next?_eq_some comma
  obtain ⟨e, others⟩ := others
  rw [read, next?_eq_none comma (by decide), found]
  dsimp only
  rw [others]
  exact ⟨e, rfl⟩

end Comma

/-- A value ends where a comma or the end of the object follows. -/
theorem readMembers_stop {r : List Char} (here : (skipSpace cs).1 = member name content ++ rest)
    (stop : (skipSpace rest).1 = d :: r) (unclosed : d ≠ '\x7d') (alone : d ≠ ',') :
    Fails (readMembers cs) := by
  obtain ⟨_, read⟩ := readMembers_member named plain here
  rw [read, next?_eq_none stop unclosed, next?_eq_none stop alone]
  exact ⟨_, rfl⟩

end Member

/-! ## Objects -/

variable {pair : List Char × List Char} {pairs : List (List Char × List Char)} {r : List Char}

/-- A name and a text that may stand between quotes as they are. -/
def PlainPair (pair : List Char × List Char) : Prop :=
  Plain pair.1 ∧ Plain pair.2

/-- Members that others follow. -/
def leading (pairs : List (List Char × List Char)) : List Char :=
  pairs.flatMap fun pair => member pair.1 pair.2 ++ [',', ' ']

def textOf (pair : List Char × List Char) : String × Value :=
  (.ofList pair.1, .text (.ofList pair.2))

theorem skipSpace_member (name content cs : List Char) :
    (skipSpace (member name content ++ cs)).1 = member name content ++ cs :=
  skipSpace_of_visible rfl _

theorem skipSpace_leading (pairs : List (List Char × List Char)) (name content cs : List Char) :
    (skipSpace (leading pairs ++ (member name content ++ cs))).1 =
      leading pairs ++ (member name content ++ cs) := by
  cases pairs with
  | nil => exact skipSpace_member name content cs
  | cons pair pairs =>
    rw [leading, List.flatMap_cons, List.append_assoc, List.append_assoc, skipSpace_member]

/-- The members up to one of them are read, and what becomes of the object depends on the rest. -/
theorem readMembers_leading (plain : ∀ pair ∈ pairs, PlainPair pair)
    (here : (skipSpace cs).1 = leading pairs ++ (member name content ++ rest)) :
    ∃ inner, (skipSpace inner).1 = member name content ++ rest ∧
      (∀ {items r}, Leaves (readMembers inner) items r →
        Leaves (readMembers cs) (pairs.map textOf ++ items) r) ∧
      (Fails (readMembers inner) → Fails (readMembers cs)) := by
  induction pairs generalizing cs with
  | nil => exact ⟨cs, here, id, id⟩
  | cons pair pairs ih =>
    obtain ⟨⟨named, valued⟩, plain⟩ := List.forall_mem_cons.mp plain
    rw [leading, List.flatMap_cons, List.append_assoc, List.append_assoc, List.cons_append,
      List.cons_append, List.nil_append] at here
    have comma := skipSpace_of_visible (c := ',') rfl
      (' ' :: (leading pairs ++ (member name content ++ rest)))
    have behind : (skipSpace (' ' :: (leading pairs ++ (member name content ++ rest)))).1 =
        leading pairs ++ (member name content ++ rest) := by
      rw [skipSpace_space, skipSpace_leading]
    obtain ⟨inner, reached, leaves, fails⟩ := ih plain behind
    exact ⟨inner, reached, fun others => readMembers_comma named valued here comma (leaves others),
      fun broken => readMembers_comma_fails named valued here comma (fails broken)⟩

theorem exists_leading_eq (pairs : List (List Char × List Char)) (name content cs : List Char) :
    ∃ behind, leading pairs ++ (member name content ++ cs) = '"' :: behind := by
  cases pairs with
  | nil => exact ⟨_, rfl⟩
  | cons pair pairs => exact ⟨_, rfl⟩

/-- An object that is not empty is what its members are. -/
theorem read_object (here : (skipSpace cs).1 = d :: r) (filled : d ≠ '\x7d') :
    (∀ items, Leaves (readMembers cs) items [] →
      read (.ofList ('\x7b' :: cs)) = .ok (.mapping (Entries.ofPairs items))) ∧
    (Fails (readMembers cs) → Fails (read (.ofList ('\x7b' :: cs)))) := by
  have value : readValue (skipSpace ('\x7b' :: cs)).1 = _ := readValue.eq_2 '\x7b' cs
  rw [if_neg (by decide), if_pos rfl, next?_eq_none here filled] at value
  have unmarked : ¬('\x7b' :: cs).head? = some '\uFEFF' := by simp
  unfold read
  rw [String.toList_ofList]
  dsimp only
  rw [if_neg unmarked, value]
  constructor
  · rintro items ⟨shorter, members⟩
    rw [members]
    rfl
  · rintro ⟨e, members⟩
    rw [members]
    exact ⟨e, rfl⟩

section Read

variable (others : ∀ pair ∈ pairs, PlainPair pair) (plain : PlainPair pair)

include others plain

/-- An object of texts. -/
theorem read_members :
    read (.ofList ('\x7b' :: (leading pairs ++ (member pair.1 pair.2 ++ ['\x7d'])))) =
      .ok (.mapping (Entries.ofPairs ((pairs ++ [pair]).map textOf))) := by
  obtain ⟨behind, eq⟩ := exists_leading_eq pairs pair.1 pair.2 ['\x7d']
  have here := skipSpace_leading pairs pair.1 pair.2 ['\x7d']
  obtain ⟨inner, reached, leaves, _⟩ := readMembers_leading others here
  rw [List.map_append]
  refine (read_object (here.trans eq) (by decide)).1 _ ?_
  exact leaves (readMembers_close plain.1 plain.2 reached (skipSpace_of_visible rfl []))

/-- An object cannot be read if something else follows one of its values. -/
theorem read_broken (visible : isSpace d = false) (unclosed : d ≠ '\x7d') (alone : d ≠ ',') :
    Fails (read (.ofList ('\x7b' :: (leading pairs ++ (member pair.1 pair.2 ++ d :: r))))) := by
  obtain ⟨behind, eq⟩ := exists_leading_eq pairs pair.1 pair.2 (d :: r)
  have here := skipSpace_leading pairs pair.1 pair.2 (d :: r)
  obtain ⟨inner, reached, _, fails⟩ := readMembers_leading others here
  refine (read_object (here.trans eq) (by decide)).2 ?_
  exact fails (readMembers_stop plain.1 plain.2 reached (skipSpace_of_visible visible r) unclosed
    alone)

end Read

end PageComponent.Json
