import Mathlib.Data.List.Basic
import PageComponent.Markup.Event
import PageComponent.Markup.Printer
import PageComponent.Proofs.Text.Spans

/-!
# Escaped characters

A reference that is printed is read as the character it was printed for, in texts as in attribute
values, and no other character that is printed begins a reference. So a value is read back from
its print, whichever quotes there are in it.
-/

namespace PageComponent

namespace Reference

variable {name cs : List Char} {c : Char}

/-- A reference of letters only that stands for one character. -/
structure Names (name : List Char) (c : Char) : Prop where
  filled : name ≠ []
  letters : ∀ d ∈ name, d.isAlpha = true
  short : name.length ≤ 32
  known : named? name = some [c]

/-- The characters that are printed as references. -/
def printed : List (Char × String) :=
  [('&', "amp"), ('<', "lt"), ('>', "gt"), ('\xa0', "nbsp"), ('"', "quot")]

theorem names_of_mem_printed {reference : Char × String} (mem : reference ∈ printed) :
    Names reference.2.toList reference.1 := by
  have filled : ∀ r ∈ printed, r.2.toList ≠ [] := by decide
  have letters : ∀ r ∈ printed, r.2.toList.all Char.isAlpha = true := by decide
  have short : ∀ r ∈ printed, r.2.toList.length ≤ 32 := by decide
  have known : ∀ r ∈ printed, named? r.2.toList = some [r.1] := by decide +kernel
  exact ⟨filled _ mem, List.all_eq_true.mp (letters _ mem), short _ mem, known _ mem⟩

theorem ne_of_isAlpha {c d : Char} (h : c.isAlpha = true) (other : d.isAlpha = false) : c ≠ d := by
  rintro rfl
  exact Bool.false_ne_true (other.symm.trans h)

theorem isNameChar_of_isAlpha (h : c.isAlpha = true) : isNameChar c = true := by
  rw [isNameChar, Bool.not_eq_true', List.contains_eq_mem, decide_eq_false_iff_not]
  intro mem
  have others : ['\t', '\n', '\x0c', ' ', '<', '&', '#', ';'].all (!Char.isAlpha ·) = true := rfl
  have other := List.all_eq_true.mp others c mem
  rw [h] at other
  cases other

theorem isTextNameChar_of_isAlpha (h : c.isAlpha = true) : isTextNameChar c = true := by
  rw [isTextNameChar, Char.isAlphanum, h]
  rfl

theorem head?_drop_append (name : List Char) (c : Char) (cs : List Char) :
    ((name ++ c :: cs).drop name.length).head? = some c := by
  rw [List.drop_left, List.head?_cons]

namespace Names

theorem readInValue?_eq (h : Names name c) (cs : List Char) :
    readInValue? (name ++ ';' :: cs) = some ([c], name.length + 1) := by
  have whole : ((name ++ ';' :: cs).takeWhile isNameChar).take 32 = name := by
    rw [Text.takeWhile_append_stop (fun d mem => isNameChar_of_isAlpha (h.letters d mem)) rfl,
      List.take_of_length_le h.short]
  have unnumbered : ∀ r, name ++ ';' :: cs ≠ '#' :: r := by
    obtain ⟨d, ds, rfl⟩ := List.exists_cons_of_ne_nil h.filled
    intro r eq
    exact ne_of_isAlpha (h.letters d List.mem_cons_self) rfl (List.cons.inj eq).1
  unfold readInValue?
  split
  next r eq => exact absurd eq (unnumbered r)
  next =>
    dsimp only
    rw [whole, if_neg h.filled]
    simp only [head?_drop_append, if_true, decide_true, namedInValue, h.known]

theorem readInText_eq (h : Names name c) (cs : List Char) :
    readInText (name ++ ';' :: cs) = .complete [c] (name.length + 1) := by
  obtain ⟨d, ds, rfl⟩ := List.exists_cons_of_ne_nil h.filled
  obtain ⟨letter, letters⟩ := List.forall_mem_cons.mp h.letters
  have whole : (ds ++ ';' :: cs).takeWhile isTextNameChar = ds :=
    Text.takeWhile_append_stop (fun d mem => isTextNameChar_of_isAlpha (letters d mem)) rfl cs
  have ended : (d :: ds).length < (d :: ds ++ ';' :: cs).length := by simp
  have number : d ≠ '#' := ne_of_isAlpha letter rfl
  rw [List.cons_append] at ended ⊢
  unfold readInText
  split
  next eq => exact absurd (List.cons.inj eq).1 number
  next eq => exact absurd (List.cons.inj eq).1 number
  next eq =>
    obtain ⟨rfl, rfl⟩ := List.cons.inj eq
    dsimp only
    rw [if_pos letter, whole, if_pos ended, ← List.cons_append, head?_drop_append, if_pos rfl,
      namedInText, h.known]
    rfl
  next eq => cases eq

end Names

/-! ## Values -/

theorem decodeValue_cons (plain : Event.isPlain c = true) (cs : List Char) :
    decodeValue (c :: cs) = c :: decodeValue cs := by
  rw [decodeValue]
  rintro rfl
  cases plain

theorem Names.decodeValue_eq (h : Names name c) (cs : List Char) :
    decodeValue ('&' :: (name ++ ';' :: cs)) = c :: decodeValue cs := by
  rw [decodeValue, h.readInValue?_eq]
  dsimp only
  rw [List.drop_length_add_append, List.drop_one, List.tail_cons]
  rfl

/-- Characters are written as they are, besides those that are written as references. -/
def Escapes (write : Char → List Char) : Prop :=
  ∀ c, (write c = [c] ∧ Event.isPlain c = true) ∨
    ∃ name, Names name c ∧ write c = '&' :: (name ++ [';'])

theorem Escapes.decodeValue_flatMap {write : Char → List Char} (h : Escapes write)
    (cs : List Char) : decodeValue (cs.flatMap write) = cs := by
  induction cs with
  | nil => rw [List.flatMap_nil, decodeValue]
  | cons c cs ih =>
    rw [List.flatMap_cons]
    rcases h c with ⟨same, plain⟩ | ⟨name, names, reference⟩
    · rw [same, List.singleton_append, decodeValue_cons plain, ih]
    · rw [reference, List.cons_append, ← List.append_cons, names.decodeValue_eq, ih]

end Reference

namespace Markup

open Reference

variable {c q : Char} {cs : List Char}

theorem escapes_escapeChar : Escapes escapeChar := by
  intro c
  have printed {name : String} (mem : (c, name) ∈ printed) :
      ∃ name', Names name' c ∧ '&' :: (name.toList ++ [';']) = '&' :: (name' ++ [';']) :=
    ⟨name.toList, names_of_mem_printed mem, rfl⟩
  rw [escapeChar]
  split
  next eq => exact .inr (printed (by subst eq; decide : (c, "amp") ∈ _))
  split
  next eq => exact .inr (printed (by subst eq; decide : (c, "lt") ∈ _))
  split
  next eq => exact .inr (printed (by subst eq; decide : (c, "gt") ∈ _))
  split
  next eq => exact .inr (printed (by subst eq; decide : (c, "nbsp") ∈ _))
  next ampersand less _ _ =>
    refine .inl ⟨rfl, ?_⟩
    rw [Event.isPlain, bne_iff_ne.mpr less, bne_iff_ne.mpr ampersand]
    rfl

def quoteChar (c : Char) : List Char :=
  if c = '"' then "&quot;".toList else [c]

/-- Escaped characters hold no quote that was not there. -/
theorem escapes_quoteChar : Escapes fun c => (escapeChar c).flatMap quoteChar := by
  intro c
  by_cases quote : c = '"'
  · subst quote
    exact .inr ⟨"quot".toList, names_of_mem_printed (by decide : ('"', "quot") ∈ _), rfl⟩
  rcases escapes_escapeChar c with ⟨same, plain⟩ | ⟨name, names, reference⟩
  · refine .inl ⟨?_, plain⟩
    dsimp only
    rw [same, List.flatMap_singleton, quoteChar, if_neg quote]
  · refine .inr ⟨name, names, ?_⟩
    have unquoted : ∀ d ∈ '&' :: (name ++ [';']), quoteChar d = [d] := by
      intro d mem
      rw [quoteChar, if_neg]
      rintro rfl
      simp only [List.mem_cons, List.mem_append, List.not_mem_nil, or_false] at mem
      rcases mem with eq | letter | eq
      · cases eq
      · exact ne_of_isAlpha (names.letters _ letter) rfl rfl
      · cases eq
    dsimp only
    rw [reference, List.flatMap_congr unquoted, List.flatMap_singleton']

/-- What is written for a value stands in quotes that it does not hold, and is decoded to it. -/
theorem quoteValue_escape (s : String) :
    ∃ q body, quoteValue (escape s) = q :: (body ++ [q]) ∧ (q = '"' ∨ q = '\'') ∧ q ∉ body ∧
      decodeValue body = s.toList := by
  have escaped : decodeValue (escape s) = s.toList := escapes_escapeChar.decodeValue_flatMap _
  rw [quoteValue]
  split
  next double =>
    split
    next single =>
      refine ⟨'"', (escape s).flatMap quoteChar, rfl, .inl rfl, ?_, ?_⟩
      · intro mem
        obtain ⟨c, _, mem⟩ := List.mem_flatMap.mp mem
        rw [quoteChar] at mem
        split at mem
        next => exact absurd mem (by decide)
        next other => exact other (List.mem_singleton.mp mem).symm
      · rw [escape, List.flatMap_assoc]
        exact escapes_quoteChar.decodeValue_flatMap _
    next single =>
      rw [List.contains_iff_mem] at single
      exact ⟨'\'', escape s, rfl, .inr rfl, single, escaped⟩
  next double =>
    rw [List.contains_iff_mem] at double
    exact ⟨'"', escape s, rfl, .inl rfl, double, escaped⟩

end Markup

end PageComponent
