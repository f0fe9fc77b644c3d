import PageComponent.Proofs.Directive.Segments

/-!
# What is quoted

The reader of the top level and the scanner of expressions see the same quotes, as long as no text
literal contains the quote that it stands in: a backslash makes such a quote part of the literal,
and the reader of the top level takes it for the end.
-/

namespace PageComponent

namespace Nesting

variable {quote c : Char} {cs body : List Char}

/-- What a kind of characters without the quotes tells of them. -/
theorem isQuote_eq_false {p : Char → Bool} (double : p '"' = false) (single : p '\'' = false)
    (h : p c = true) : isQuote c = false := by
  rw [Bool.eq_false_iff]
  intro mark
  simp only [isQuote, Bool.or_eq_true, beq_iff_eq] at mark
  cases mark with
  | inl eq => rw [eq, double] at h; cases h
  | inr eq => rw [eq, single] at h; cases h

/-- The open quote behind a character; brackets do not matter for it. -/
def quoteAfter : Option Char → Char → Option Char
  | some quote, c => if c = quote then none else some quote
  | none, c => if isQuote c then some c else none

theorem quote_after (n : Nesting) (c : Char) : (n.after c).quote = quoteAfter n.quote c := by
  obtain ⟨depth, quote⟩ := n
  cases quote with
  | some quote =>
    simp only [after, quoteAfter]
    split <;> rfl
  | none =>
    simp only [after, quoteAfter]
    split
    next => rfl
    next =>
      split
      next => rfl
      next => split <;> rfl

theorem quote_behind (cs : List Char) : (behind cs).quote = cs.foldl quoteAfter none := by
  have general (n : Nesting) : (cs.foldl after n).quote = cs.foldl quoteAfter n.quote := by
    induction cs generalizing n with
    | nil => rfl
    | cons c cs ih => rw [List.foldl_cons, List.foldl_cons, ih, quote_after]
  exact general top

theorem foldl_quoteAfter_plain (plain : ∀ c ∈ cs, isQuote c = false) :
    cs.foldl quoteAfter none = none := by
  induction cs with
  | nil => rfl
  | cons c cs ih =>
    obtain ⟨first, others⟩ := List.forall_mem_cons.mp plain
    rw [List.foldl_cons, quoteAfter, if_neg (Bool.eq_false_iff.mp first)]
    exact ih others

/-- A quote is open as long as it does not appear again. -/
theorem foldl_quoteAfter_open (inner : quote ∉ cs) :
    cs.foldl quoteAfter (some quote) = some quote := by
  induction cs with
  | nil => rfl
  | cons c cs ih =>
    have other : c ≠ quote := (List.ne_of_not_mem_cons inner).symm
    rw [List.foldl_cons, quoteAfter, if_neg other]
    exact ih (List.not_mem_of_not_mem_cons inner)

theorem foldl_quoteAfter_opened (mark : isQuote quote = true) (inner : quote ∉ body) :
    (quote :: body).foldl quoteAfter none = some quote := by
  rw [List.foldl_cons, quoteAfter, if_pos mark]
  exact foldl_quoteAfter_open inner

theorem foldl_quoteAfter_closed (mark : isQuote quote = true) (inner : quote ∉ body) :
    (quote :: (body ++ [quote])).foldl quoteAfter none = none := by
  rw [← List.cons_append, List.foldl_append, foldl_quoteAfter_opened mark inner]
  simp [quoteAfter]

end Nesting

namespace Lexeme

open PageComponent.Grammar

variable {quote : Char} {body content value span rest span' rest' : List Char} {kind : TokenKind}

theorem IsQuote.isQuote (h : IsQuote quote) : Nesting.isQuote quote = true := by
  cases h with
  | inl double => rw [double]; rfl
  | inr single => rw [single]; rfl

theorem unescape_eq_iff (mark : IsQuote quote) (c : Char) : unescape c = quote ↔ c = quote := by
  unfold unescape
  cases mark with
  | inl double => subst double; grind
  | inr single => subst single; grind

/-- A literal contains its own quote exactly if its body does. -/
theorem Decodes.mem_iff (mark : IsQuote quote) (h : Decodes quote body content) :
    quote ∈ content ↔ quote ∈ body := by
  induction h with
  | nil => exact Iff.rfl
  | plain inner _ _ ih => rw [List.mem_cons, List.mem_cons, ih]
  | @escaped c _ _ _ ih =>
    have slash : quote ≠ '\\' := by
      cases mark with
      | inl double => rw [double]; decide
      | inr single => rw [single]; decide
    rw [List.mem_cons, List.mem_cons, List.mem_cons, ih, eq_comm, unescape_eq_iff mark, eq_comm]
    exact (or_iff_right slash).symm

/-- What a text literal takes up. -/
theorem Stands.literal (h : Stands .string value span rest) :
    ∃ quote body, IsQuote quote ∧ Decodes quote body value ∧ span = quote :: (body ++ [quote]) := by
  generalize string : TokenKind.string = kind at h
  cases h with
  | text mark decodes => exact ⟨_, _, mark, decodes, rfl⟩
  | number => cases string
  | @word c cs =>
    have name := word_kind (c :: cs)
    rw [← string] at name
    exact absurd name (by decide)
  | operator mem =>
    have other := (operator_kind mem).1
    rw [← string] at other
    exact absurd (by decide) other

theorem Stands.plain (h : Stands kind value span rest) (other : kind ≠ .string) :
    ∀ c ∈ span, Nesting.isQuote c = false := by
  have digit {c : Char} : c.isDigit = true → Nesting.isQuote c = false :=
    Nesting.isQuote_eq_false rfl rfl
  cases h with
  | text => exact absurd rfl other
  | number numeral =>
    cases numeral with
    | whole _ digits => exact fun c mem => digit (digits c mem)
    | pointed digits _ digits' =>
      simp only [List.forall_mem_append, List.forall_mem_cons]
      exact ⟨fun c mem => digit (digits c mem), rfl, fun c mem => digit (digits' c mem)⟩
  | word start parts =>
    rw [List.forall_mem_cons]
    constructor
    · exact Nesting.isQuote_eq_false rfl rfl start
    · exact fun c mem => Nesting.isQuote_eq_false rfl rfl (parts c mem)
  | operator mem =>
    have plain : ∀ o ∈ TokenKind.operators, o.1.all (!Nesting.isQuote ·) = true := by decide
    intro c inner
    simpa using List.all_eq_true.mp (plain _ mem) c inner

/-- Where a token stands, it takes up one stretch only. -/
theorem Stands.span_eq (h : Stands kind value span rest) (h' : Stands kind value span' rest')
    (same : span ++ rest = span' ++ rest') : span = span' := by
  obtain ⟨c, cs, rfl, _⟩ := h.visible
  obtain ⟨d, ds, rfl, _⟩ := h'.visible
  obtain ⟨rfl, behind⟩ : c = d ∧ cs ++ rest = ds ++ rest' := by simpa using same
  have first : read c (cs ++ rest) 0 = _ := h.read_eq
  rw [behind, h'.read_eq] at first
  have lengths : (c :: cs).length = (c :: ds).length := by simpa using (Except.ok.inj first).symm
  exact List.append_inj_left same lengths

end Lexeme

namespace Token

open PageComponent.Lexeme Nesting

variable {source rest cs front back : List Char} {pos : Nat} {ts : List Token} {t u : Token}

/-- A text literal contains the quote that it stands in. -/
def HoldsOwnQuote (source : List Char) (t : Token) : Prop :=
  ∃ quote, source[t.pos]? = some quote ∧ quote ∈ t.value.toList

/-- A token takes up characters on both sides of the place between `front` and `back`. -/
def Encloses (t : Token) (front back : List Char) : Prop :=
  ∃ before opened closed behind, front = before ++ opened ∧ back = closed ++ behind ∧
    opened ≠ [] ∧ closed ≠ [] ∧ t.pos = before.length ∧
    Stands t.kind t.value.toList (opened ++ closed) behind

/-! ## Cutting a source -/

/-- Where a place is that cuts a source into `front` and `back`: between tokens or within one. What
stands before the place, or before the token, is made up of tokens. -/
inductive Cut (rest : List Char) (pos : Nat) (ts : List Token) (front back : List Char) : Prop where
  | between {us : List Token} (sub : us ⊆ ts) (tiles : Tiles (back ++ rest) pos front us)
  | within {t : Token} {us : List Token} {before opened closed behind : List Char} (mem : t ∈ ts)
      (sub : us ⊆ ts) (tiles : Tiles (opened ++ (back ++ rest)) pos before us)
      (front_eq : front = before ++ opened) (back_eq : back = closed ++ behind)
      (begun : opened ≠ []) (unfinished : closed ≠ []) (place : t.pos = pos + before.length)
      (stands : Stands t.kind t.value.toList (opened ++ closed) (behind ++ rest))

section Cut

variable {gap span opened closed value : List Char} {kind : TokenKind}

theorem Cut.of_blank (blank : ∀ c ∈ front, Text.isBlank c = true) : Cut rest pos ts front back :=
  .between (List.nil_subset _) (.blanks blank)

/-- A place behind the first token is where it is among the others. -/
theorem Cut.behind (blank : ∀ c ∈ gap, Text.isBlank c = true)
    (stands : Stands kind value span (front ++ (back ++ rest)))
    (cut : Cut rest (pos + gap.length + span.length) ts front back) :
    Cut rest pos (⟨kind, .ofList value, pos + gap.length⟩ :: ts) (gap ++ (span ++ front)) back := by
  cases cut with
  | between sub tiles => exact .between (List.cons_subset_cons _ sub) (.token blank stands tiles)
  | @within t us before opened closed behind mem sub tiles front_eq back_eq begun unfinished place
      stands' =>
    subst front_eq
    rw [List.append_assoc] at stands
    have longer : gap ++ (span ++ (before ++ opened)) = (gap ++ (span ++ before)) ++ opened := by
      simp only [List.append_assoc]
    have farther : t.pos = pos + (gap ++ (span ++ before)).length := by
      simp only [place, List.length_append, Nat.add_assoc]
    exact .within (List.mem_cons_of_mem _ mem) (List.cons_subset_cons _ sub)
      (.token blank stands tiles) longer back_eq begun unfinished farther stands'

/-- A place in the stretch of the first token is at its start, at its end or within it. -/
theorem Cut.first (blank : ∀ c ∈ gap, Text.isBlank c = true)
    (stands : Stands kind value (opened ++ closed) (cs ++ rest)) :
    Cut rest pos (⟨kind, .ofList value, pos + gap.length⟩ :: ts) (gap ++ opened)
      (closed ++ cs) := by
  by_cases begun : opened = []
  · subst begun
    rw [List.append_nil]
    exact .of_blank blank
  by_cases unfinished : closed = []
  · subst unfinished
    rw [List.append_nil] at stands
    rw [← List.append_nil opened]
    apply Cut.behind blank
    · exact stands
    · exact .of_blank (List.forall_mem_nil _)
  · apply Cut.within List.mem_cons_self (List.nil_subset _) (.blanks blank) rfl rfl begun unfinished
    · rfl
    · rwa [String.toList_ofList]

end Cut

theorem Tiles.cut (h : Tiles rest pos cs ts) (whole : cs = front ++ back) :
    Cut rest pos ts front back := by
  induction h generalizing front with
  | blanks blank =>
    subst whole
    exact .of_blank (List.forall_mem_append.mp blank).1
  | @token pos gap span cs value kind ts blank stands more ih =>
    -- the place is in the blanks, in the stretch of the first token, or behind it
    rcases List.append_eq_append_iff.mp whole with ⟨inner, rfl, spanned⟩ | ⟨inner, rfl, rfl⟩
    · rcases List.append_eq_append_iff.mp spanned with ⟨later, rfl, rfl⟩ | ⟨closed, rfl, rfl⟩
      · rw [List.append_assoc] at stands
        exact (ih rfl).behind blank stands
      · exact .first blank stands
    · exact .of_blank (List.forall_mem_append.mp blank).1

/-- No token takes in the place where a token begins. -/
theorem Layout.not_encloses_start {source : String} (layout : Layout source ts) (mem : t ∈ ts)
    (mem' : u ∈ ts) (place : t.pos = front.length) (whole : source.toList = front ++ back) :
    ¬u.Encloses front back := by
  intro encloses
  obtain ⟨before, opened, closed, behind, rfl, rfl, ne, ne', start, stands⟩ := encloses
  obtain ⟨before', span, behind', whole', start', stands', later⟩ := layout.stands u mem'
  rw [whole, List.append_assoc] at whole'
  obtain ⟨rfl, spans⟩ := List.append_inj whole' (start.symm.trans start')
  have same : opened ++ closed = span := stands.span_eq stands' (by rw [List.append_assoc, spans])
  have reach := later t (List.mem_append_left _ mem)
  have some_opened := List.length_pos_of_ne_nil ne
  have some_closed := List.length_pos_of_ne_nil ne'
  rw [← same, List.length_append, place, start, List.length_append] at reach
  omega

/-! ## Reading quotes -/

/-- Tokens without their own quotes leave no quote open. -/
theorem Tiles.foldl_quoteAfter (h : Tiles rest pos cs ts) (lead : List Char)
    (whole : source = lead ++ (cs ++ rest)) (place : lead.length = pos)
    (plain : ∀ t ∈ ts, t.kind = .string → ¬t.HoldsOwnQuote source) :
    cs.foldl quoteAfter none = none := by
  induction h generalizing lead with
  | blanks blank => exact foldl_quoteAfter_plain fun c mem => isQuote_eq_false rfl rfl (blank c mem)
  | @token pos gap span cs value kind ts blank stands more ih =>
    obtain ⟨first, others⟩ := List.forall_mem_cons.mp plain
    have gaps : gap.foldl quoteAfter none = none :=
      foldl_quoteAfter_plain fun c mem => isQuote_eq_false rfl rfl (blank c mem)
    have spans : span.foldl quoteAfter none = none := by
      by_cases string : kind = .string
      · subst string
        obtain ⟨quote, body, mark, decodes, rfl⟩ := stands.literal
        apply foldl_quoteAfter_closed mark.isQuote
        intro inner
        apply first rfl
        refine ⟨quote, ?_, ?_⟩
        · simp [whole, ← place]
        · rw [String.toList_ofList]
          exact (decodes.mem_iff mark).mpr inner
      · exact foldl_quoteAfter_plain (stands.plain string)
    rw [List.foldl_append, gaps, List.foldl_append, spans]
    apply ih (lead ++ (gap ++ span))
    · simp [whole]
    · simp [place, Nat.add_assoc]
    · exact others

/-- Behind the opening quote of a literal, and before its closing one, the quote is open. -/
theorem foldl_quoteAfter_literal {quote : Char} {body opened closed : List Char}
    (mark : isQuote quote = true) (inner : quote ∉ body)
    (span : opened ++ closed = quote :: (body ++ [quote])) (ne : opened ≠ []) (ne' : closed ≠ []) :
    opened.foldl quoteAfter none = some quote := by
  have inside : opened ++ closed.dropLast = quote :: body := by
    have cut := congrArg List.dropLast span
    rwa [List.dropLast_append_of_ne_nil ne', ← List.cons_append, List.dropLast_concat] at cut
  cases opened with
  | nil => exact absurd rfl ne
  | cons c opened =>
    obtain ⟨rfl, rfl⟩ := List.cons_eq_cons.mp inside
    apply foldl_quoteAfter_opened mark
    exact fun mem => inner (List.mem_append_left _ mem)

/-- The reader of the top level and the scanner of expressions agree on what is quoted. -/
structure QuotedAlike (source : String) (ts : List Token) : Prop where
  /-- A quote is open exactly within the text literals. -/
  within : ∀ front back, source.toList = front ++ back →
    ((behind front).quote.isSome ↔ ∃ t ∈ ts, t.kind = .string ∧ t.Encloses front back)
  /-- No quote is left open. -/
  ended : (behind source.toList).quote = none

/-- The part of a source that some of its tokens make up leaves no quote open. -/
theorem Tiles.quote_front {us : List Token}
    (plain : ∀ t ∈ ts, t.kind = .string → ¬t.HoldsOwnQuote source) (sub : us ⊆ ts)
    (tiles : Tiles (back ++ []) 0 front us) (whole : source = front ++ back) :
    front.foldl quoteAfter none = none := by
  refine tiles.foldl_quoteAfter [] ?_ rfl fun t mem => plain t (sub mem)
  rwa [List.append_nil, List.nil_append]

section Layout

variable {text : String} (layout : Layout text ts)

include layout

/-- What stands before a token is made up of tokens. -/
theorem Layout.exists_tiles (mem : t ∈ ts) (place : t.pos = front.length)
    (whole : text.toList = front ++ back) : ∃ us ⊆ ts, Tiles (back ++ []) 0 front us := by
  cases layout.tiles.cut whole with
  | between sub tiles => exact ⟨_, sub, tiles⟩
  | within mem' sub tiles front_eq back_eq begun unfinished start stands =>
    rw [Nat.zero_add] at start
    rw [List.append_nil] at stands
    apply absurd _ (layout.not_encloses_start mem mem' place whole)
    exact ⟨_, _, _, _, front_eq, back_eq, begun, unfinished, start, stands⟩

variable (plain : ∀ t ∈ ts, t.kind = .string → ¬t.HoldsOwnQuote text.toList)

include plain

/-- Within a literal its quote is open. -/
theorem Layout.quote_of_encloses (mem : t ∈ ts) (string : t.kind = .string)
    (encloses : t.Encloses front back) (whole : text.toList = front ++ back) :
    (behind front).quote.isSome := by
  obtain ⟨before, opened, closed, behind, rfl, rfl, ne, ne', start, stands⟩ := encloses
  rw [string] at stands
  obtain ⟨quote, body, mark, decodes, span⟩ := stands.literal
  rw [List.append_assoc] at whole
  obtain ⟨us, sub, tiles⟩ := layout.exists_tiles mem start whole
  have outside := tiles.quote_front plain sub whole
  have inner : quote ∉ body := by
    intro inner
    apply plain t mem string
    refine ⟨quote, ?_, (decodes.mem_iff mark).mpr inner⟩
    rw [whole, ← List.append_assoc opened, span, start]
    simp
  rw [quote_behind, List.foldl_append, outside,
    foldl_quoteAfter_literal mark.isQuote inner span ne ne']
  rfl

theorem Layout.quotedAlike : QuotedAlike text ts where
  within := by
    intro front back whole
    constructor
    · intro quoted
      rw [quote_behind] at quoted
      cases layout.tiles.cut whole with
      | between sub tiles =>
        rw [tiles.quote_front plain sub whole] at quoted
        cases quoted
      | @within t us before opened closed behind mem sub tiles front_eq back_eq begun unfinished
          start stands =>
        rw [Nat.zero_add] at start
        rw [List.append_nil] at stands
        by_cases string : t.kind = .string
        · exact ⟨t, mem, string, _, _, _, _, front_eq, back_eq, begun, unfinished, start, stands⟩
        · have opens : ∀ c ∈ opened, isQuote c = false :=
            fun c inner => stands.plain string c (List.mem_append_left _ inner)
          rw [← List.append_assoc] at tiles
          rw [front_eq, List.append_assoc] at whole
          have outside := tiles.quote_front plain sub whole
          rw [front_eq, List.foldl_append, outside, foldl_quoteAfter_plain opens] at quoted
          cases quoted
    · intro enclosed
      obtain ⟨t, mem, string, encloses⟩ := enclosed
      exact layout.quote_of_encloses plain mem string encloses whole
  ended := by
    rw [quote_behind]
    exact Tiles.quote_front plain (List.Subset.refl _) layout.tiles (List.append_nil _).symm

end Layout

/-- A literal with its own quote is left too early. -/
theorem QuotedAlike.not_holdsOwnQuote {text : String} (layout : Layout text ts)
    (alike : QuotedAlike text ts) : ∀ t ∈ ts, t.kind = .string → ¬t.HoldsOwnQuote text.toList := by
  intro t mem string holds
  obtain ⟨before, span, behind, whole, start, stands, _⟩ := layout.stands t mem
  rw [string] at stands
  obtain ⟨quote, body, mark, decodes, rfl⟩ := stands.literal
  obtain ⟨own, found, inner⟩ := holds
  have same : quote = own := by simpa [whole, start] using found
  rw [← same, decodes.mem_iff mark] at inner
  obtain ⟨first, last, rfl, fresh⟩ := List.eq_append_cons_of_mem inner
  have outside : before.foldl quoteAfter none = none := by
    rw [← quote_behind, ← Option.not_isSome_iff_eq_none, alike.within before _ whole]
    rintro ⟨u, mem', _, encloses⟩
    exact layout.not_encloses_start mem mem' start whole encloses
  -- the place behind the first such quote is within the literal
  have split : quote :: (first ++ quote :: last ++ [quote]) =
      (quote :: (first ++ [quote])) ++ (last ++ [quote]) := by simp
  rw [split] at stands whole
  rw [List.append_assoc, ← List.append_assoc before] at whole
  have quoted := (alike.within _ _ whole).mpr ⟨t, mem, string, before, _, _, behind, rfl, rfl,
    List.cons_ne_nil _ _, by simp, start, by rwa [string]⟩
  have left := foldl_quoteAfter_closed mark.isQuote fresh
  rw [quote_behind, List.foldl_append, outside, left] at quoted
  cases quoted

/-- The reader of the top level and the scanner of expressions agree on a source exactly if no text
literal of it contains the quote that it stands in. -/
theorem quotedAlike_iff {source : String} (h : ofSource source = .ok ts) :
    QuotedAlike source ts ↔ ∀ t ∈ ts, t.kind = .string → ¬t.HoldsOwnQuote source.toList := by
  have layout := layout_of_tiles (scan_eq_ok_iff.mp h)
  exact ⟨QuotedAlike.not_holdsOwnQuote layout, layout.quotedAlike⟩

/-- Behind the escaped quote of `'a\'b,c'` the reader of the top level is outside. -/
theorem not_quotedAlike_of_escaped :
    ofSource "'a\\'b,c'" = .ok [⟨.string, "a'b,c", 0⟩] ∧
    ¬QuotedAlike "'a\\'b,c'" [⟨.string, "a'b,c", 0⟩] ∧
    (∃ ts, ofSource "'a\"b,c'" = .ok ts ∧ QuotedAlike "'a\"b,c'" ts) := by
  have scanned : ofSource "'a\\'b,c'" = .ok [⟨.string, "a'b,c", 0⟩] := by cbv
  have scanned' : ofSource "'a\"b,c'" = .ok [⟨.string, "a\"b,c", 0⟩] := by cbv
  refine ⟨scanned, ?_, _, scanned', ?_⟩
  · rw [quotedAlike_iff scanned]
    intro plain
    exact plain _ List.mem_cons_self rfl ⟨'\'', by decide, by decide⟩
  · rw [quotedAlike_iff scanned']
    intro t mem _ holds
    cases List.mem_singleton.mp mem
    obtain ⟨quote, first, inner⟩ := holds
    have single : quote = '\'' := by simpa using first.symm
    subst single
    exact absurd inner (by decide)

end Token

end PageComponent
