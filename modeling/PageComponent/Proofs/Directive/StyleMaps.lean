import PageComponent.Directive.Pass
import PageComponent.Proofs.Json.Members
import PageComponent.Proofs.Text.Characters
import PageComponent.Proofs.Text.Spans

/-!
# Written style maps

A body that is written from properties and sources is read as these, unless a source has a name or
a number before a colon, as a conditional may have. Such a name is taken for that of a property: it
is put in quotes within the source, which ends there, and nothing of the body is read.
-/

namespace PageComponent

namespace StyleMap

variable {cs name rest : List Char} {c : Char}

/-! ## Bare keys -/

/-- Whether a bare key stands before a colon, with blanks between them at most. -/
def holdsKey : List Char → Bool
  | [] => false
  | c :: cs => (isBareKey c && (cs.dropWhile Text.isBlank).head? == some ':') || holdsKey cs

theorem isBlank_of_isBareKey (h : isBareKey c = true) : Text.isBlank c = false :=
  Text.isBlank_of (by decide) h

/-- Of a run of keys only the last one can stand before the colon. -/
theorem holdsKey_append (keys : ∀ c ∈ name, isBareKey c = true) (ne : name ≠ []) :
    holdsKey (name ++ cs) = ((cs.dropWhile Text.isBlank).head? == some ':' || holdsKey cs) := by
  induction name with
  | nil => exact absurd rfl ne
  | cons c name ih =>
    obtain ⟨key, keys⟩ := List.forall_mem_cons.mp keys
    rw [List.cons_append, holdsKey, key, Bool.true_and]
    cases name with
    | nil => rfl
    | cons d name =>
      have next : isBareKey d = true := keys d List.mem_cons_self
      have stop : ((d :: name ++ cs).dropWhile Text.isBlank).head? = some d := by
        rw [List.cons_append, List.dropWhile_cons_of_neg (by simp [isBlank_of_isBareKey next])]
        rfl
      have noColon : d ≠ ':' := by
        rintro rfl
        cases next
      rw [stop, ih keys (List.cons_ne_nil d name)]
      simp [noColon]

theorem quoteKeys_other (h : isBareKey c = false) (cs : List Char) :
    quoteKeys (c :: cs) = c :: quoteKeys cs := by
  rw [quoteKeys, if_neg (by simp [h])]

section Run

variable (keys : ∀ c ∈ name, isBareKey c = true) (ne : name ≠ [])
  (stop : ∀ c ∈ cs.head?, isBareKey c = false)

include keys ne stop

theorem quoteKeys_before {after : List Char} (colon : cs.dropWhile Text.isBlank = ':' :: after) :
    quoteKeys (name ++ cs) = '"' :: name ++ '"' :: ':' :: quoteKeys after := by
  cases name with
  | nil => exact absurd rfl ne
  | cons c name =>
    obtain ⟨key, keys⟩ := List.forall_mem_cons.mp keys
    rw [List.cons_append, quoteKeys, if_pos key]
    dsimp only
    have behind := Text.dropWhile_append_of_head keys stop
    rw [Text.takeWhile_append_of_head keys stop]
    split
    next after' found =>
      rw [behind, colon] at found
      obtain rfl := (List.cons_eq_cons.mp found).2
      rfl
    next other =>
      exact absurd (behind.symm ▸ colon) (other after)

theorem quoteKeys_apart (apart : (cs.dropWhile Text.isBlank).head? ≠ some ':') :
    quoteKeys (name ++ cs) = name ++ quoteKeys cs := by
  cases name with
  | nil => exact absurd rfl ne
  | cons c name =>
    obtain ⟨key, keys⟩ := List.forall_mem_cons.mp keys
    rw [List.cons_append, quoteKeys, if_pos key]
    dsimp only
    have behind := Text.dropWhile_append_of_head keys stop
    rw [Text.takeWhile_append_of_head keys stop]
    split
    next after found =>
      rw [behind] at found
      rw [found] at apart
      exact absurd rfl apart
    next => rw [behind]

end Run

/-- What becomes of a text before a single quote: it is kept, or else a quote is put before a key
in it. -/
structure Kept (rest cs : List Char) : Prop where
  free : holdsKey cs = false → quoteKeys (cs ++ '\'' :: rest) = cs ++ '\'' :: quoteKeys rest
  bound : holdsKey cs = true → ∃ front c back tail, cs = front ++ c :: back ∧ isBareKey c = true ∧
    quoteKeys (cs ++ '\'' :: rest) = front ++ '"' :: c :: tail

namespace Kept

theorem other (kept : Kept rest cs) (other : isBareKey c = false) : Kept rest (c :: cs) := by
  constructor
  · intro free
    rw [holdsKey, other, Bool.false_and, Bool.false_or] at free
    rw [List.cons_append, quoteKeys_other other, kept.free free, List.cons_append]
  · intro bound
    rw [holdsKey, other, Bool.false_and, Bool.false_or] at bound
    obtain ⟨front, d, back, tail, rfl, key, eq⟩ := kept.bound bound
    exact ⟨c :: front, d, back, tail, rfl, key, by
      rw [List.cons_append, quoteKeys_other other, eq, List.cons_append]⟩

/-- A run of keys is put in quotes where a colon follows, and is kept where none does. -/
theorem run (kept : Kept rest cs) (keys : ∀ d ∈ c :: name, isBareKey d = true)
    (stop : ∀ d ∈ cs.head?, isBareKey d = false) : Kept rest (c :: name ++ cs) := by
  have ne := List.cons_ne_nil c name
  have stop' : ∀ d ∈ (cs ++ '\'' :: rest).head?, isBareKey d = false := by
    cases cs with
    | nil => rintro _ ⟨⟩; rfl
    | cons d cs => exact stop
  have behind := Text.dropWhile_append_stop (p := Text.isBlank) (d := '\'') rfl cs rest
  by_cases colon : (cs.dropWhile Text.isBlank).head? = some ':'
  · obtain ⟨after, found⟩ := List.head?_eq_some_iff.mp colon
    rw [found, List.cons_append] at behind
    have holds : holdsKey (c :: name ++ cs) = true := by
      rw [holdsKey_append keys ne, colon, beq_self_eq_true, Bool.true_or]
    refine ⟨fun free => ?_, fun _ => ?_⟩
    · rw [holds] at free
      cases free
    · have quoted := quoteKeys_before keys ne stop' behind
      rw [← List.append_assoc] at quoted
      exact ⟨[], c, name ++ cs, _, rfl, keys c List.mem_cons_self, quoted⟩
  · have apart : ((cs ++ '\'' :: rest).dropWhile Text.isBlank).head? ≠ some ':' := by
      rw [behind, List.head?_append]
      cases found : (cs.dropWhile Text.isBlank).head? with
      | none => simp
      | some d => exact fun eq => colon (found.trans eq)
    have holds : holdsKey (c :: name ++ cs) = holdsKey cs := by
      rw [holdsKey_append keys ne, beq_false_of_ne colon, Bool.false_or]
    refine ⟨fun free => ?_, fun bound => ?_⟩
    · rw [List.append_assoc, quoteKeys_apart keys ne stop' apart, kept.free (holds ▸ free),
        List.append_assoc]
    · obtain ⟨front, d, back, tail, rfl, key, eq⟩ := kept.bound (holds ▸ bound)
      exact ⟨c :: name ++ front, d, back, tail, by simp, key, by
        rw [List.append_assoc, quoteKeys_apart keys ne stop' apart, eq, List.append_assoc]⟩

end Kept

theorem kept (rest cs : List Char) : Kept rest cs := by
  induction length : cs.length using Nat.strongRecOn generalizing cs with
  | ind n ih =>
    cases cs with
    | nil => exact ⟨fun _ => quoteKeys_other rfl rest, nofun⟩
    | cons c cs =>
      by_cases key : isBareKey c = true
      · -- the run of keys at the front is taken off as a whole
        have shorter := (List.dropWhile_sublist (l := cs) isBareKey).length_le
        have behind := ih _ (by simp [← length]; omega) (cs.dropWhile isBareKey) rfl
        have keys : ∀ d ∈ c :: cs.takeWhile isBareKey, isBareKey d = true :=
          List.forall_mem_cons.mpr ⟨key, fun d mem => List.mem_takeWhile_imp mem⟩
        have whole := behind.run keys Text.head?_dropWhile
        rwa [List.cons_append, List.takeWhile_append_dropWhile] at whole
      · exact (ih cs.length (by simp [← length]) cs rfl).other (Bool.eq_false_iff.mpr key)

/-! ## Quotes -/

theorem toJson_other (h : isBareKey c = false) (cs : List Char) :
    toJson (c :: cs) = (if c = '\'' then '"' else c) :: toJson cs := by
  rw [toJson, quoteKeys_other h, List.map_cons]
  rfl

theorem map_eq_self (unquoted : '\'' ∉ cs) :
    cs.map (fun c => if c = '\'' then '"' else c) = cs := by
  refine (List.map_congr_left fun c mem => if_neg ?_).trans (List.map_id' cs)
  rintro rfl
  exact unquoted mem

section Run

variable (keys : ∀ c ∈ name, isBareKey c = true) (ne : name ≠ [])
  (stop : ∀ c ∈ cs.head?, isBareKey c = false)

include keys

theorem not_mem_of_keys : '\'' ∉ name := by
  intro mem
  cases keys _ mem

include ne stop

theorem toJson_before {after : List Char} (colon : cs.dropWhile Text.isBlank = ':' :: after) :
    toJson (name ++ cs) = '"' :: name ++ '"' :: ':' :: toJson after := by
  rw [toJson, quoteKeys_before keys ne stop colon, List.cons_append, List.map_cons, List.map_append,
    map_eq_self (not_mem_of_keys keys)]
  rfl

theorem toJson_apart (apart : (cs.dropWhile Text.isBlank).head? ≠ some ':') :
    toJson (name ++ cs) = name ++ toJson cs := by
  rw [toJson, quoteKeys_apart keys ne stop apart, List.map_append,
    map_eq_self (not_mem_of_keys keys)]
  rfl

end Run

/-- A source between quotes is kept, or else a quote is put into it before a key. -/
theorem toJson_append (unquoted : '\'' ∉ cs) (rest : List Char) :
    (holdsKey cs = false → toJson (cs ++ '\'' :: rest) = cs ++ '"' :: toJson rest) ∧
    (holdsKey cs = true → ∃ front c back tail, cs = front ++ c :: back ∧ isBareKey c = true ∧
      toJson (cs ++ '\'' :: rest) = front ++ '"' :: c :: tail) := by
  obtain ⟨free, bound⟩ := kept rest cs
  constructor
  · intro h
    rw [toJson, free h, List.map_append, map_eq_self unquoted, List.map_cons]
    rfl
  · intro h
    obtain ⟨front, c, back, tail, rfl, key, eq⟩ := bound h
    simp only [List.mem_append, List.mem_cons, not_or] at unquoted
    obtain ⟨outside, other, _⟩ := unquoted
    refine ⟨front, c, back, tail.map fun c => if c = '\'' then '"' else c, rfl, key, ?_⟩
    rw [toJson, eq, List.map_append, map_eq_self outside, List.map_cons, List.map_cons,
      if_neg (Ne.symm other)]
    rfl

/-! ## Properties -/

/-- A property and the source of its value; the name may be written in quotes. -/
structure Property where
  name : String
  quoted : Bool
  source : String

namespace Property

/-- What may be written as an entry of a body. -/
structure Writable (p : Property) : Prop where
  filled : p.name ≠ ""
  keys : ∀ c ∈ p.name.toList, isBareKey c = true
  unquoted : '\'' ∉ p.source.toList
  plain : Json.Plain p.source.toList

def print (p : Property) : String :=
  (if p.quoted then "'" ++ p.name ++ "'" else p.name) ++ ": '" ++ p.source ++ "'"

/-- What is to be read of the entry. -/
def entry (p : Property) : String × Value :=
  (p.name, .text p.source)

/-- Whether nothing of the source is taken for the name of a property. -/
def apart (p : Property) : Bool :=
  !holdsKey p.source.toList

variable {p : Property} {rest : List Char}

theorem toList_print (p : Property) :
    p.print.toList = (if p.quoted then '\'' :: (p.name.toList ++ ['\'']) else p.name.toList) ++
      ':' :: ' ' :: '\'' :: (p.source.toList ++ ['\'']) := by
  cases h : p.quoted <;> simp [print, h, String.toList_append]

theorem plain_of_isBareKey (h : isBareKey c = true) : c ≠ '"' ∧ c ≠ '\\' ∧ 0x20 ≤ c.toNat := by
  refine ⟨?_, ?_, ?_⟩
  · rintro rfl
    cases h
  · rintro rfl
    cases h
  · simp only [isBareKey, Char.isAlphanum, Char.isAlpha, Char.isUpper, Char.isLower, Char.isDigit,
      Bool.or_eq_true, Bool.and_eq_true, decide_eq_true_eq, beq_iff_eq] at h
    rcases h with ((((h | h) | h) | rfl) | rfl)
    all_goals first | exact Nat.le_trans (by decide) h.1 | decide

namespace Writable

variable (h : p.Writable)

include h

theorem plain_name : Json.Plain p.name.toList :=
  fun c mem => plain_of_isBareKey (h.keys c mem)

theorem name_ne_nil : p.name.toList ≠ [] :=
  fun eq => h.filled (String.toList_eq_nil_iff.mp eq)

/-- The name is put in quotes in both of its forms. -/
theorem toJson_print (rest : List Char) :
    toJson (p.print.toList ++ rest) = '"' :: (p.name.toList ++
      '"' :: ':' :: ' ' :: '"' :: toJson (p.source.toList ++ '\'' :: rest)) := by
  rw [toList_print]
  generalize source : p.source.toList ++ '\'' :: rest = behind
  cases p.quoted with
  | true =>
    have whole : '\'' :: (p.name.toList ++ ['\'']) ++ ':' :: ' ' :: '\'' ::
        (p.source.toList ++ ['\'']) ++ rest =
          '\'' :: (p.name.toList ++ '\'' :: ':' :: ' ' :: '\'' :: behind) := by
      simp [← source]
    have closed : ∀ c ∈ ('\'' :: ':' :: ' ' :: '\'' :: behind).head?, isBareKey c = false := by
      rintro _ ⟨⟩
      rfl
    have apart :
        (('\'' :: ':' :: ' ' :: '\'' :: behind).dropWhile Text.isBlank).head? ≠ some ':' := by
      rw [List.dropWhile_cons_of_neg (by decide)]
      simp
    rw [if_pos rfl, whole, toJson_other rfl, toJson_apart h.keys h.name_ne_nil closed apart,
      toJson_other rfl, toJson_other rfl, toJson_other rfl, toJson_other rfl]
    rfl
  | false =>
    have whole : p.name.toList ++ ':' :: ' ' :: '\'' :: (p.source.toList ++ ['\'']) ++ rest =
        p.name.toList ++ ':' :: ' ' :: '\'' :: behind := by
      simp [← source]
    have closed : ∀ c ∈ (':' :: ' ' :: '\'' :: behind).head?, isBareKey c = false := by
      rintro _ ⟨⟩
      rfl
    have colon : (':' :: ' ' :: '\'' :: behind).dropWhile Text.isBlank =
        ':' :: ' ' :: '\'' :: behind :=
      List.dropWhile_cons_of_neg (by decide)
    rw [if_neg Bool.false_ne_true, whole, toJson_before h.keys h.name_ne_nil closed colon,
      toJson_other rfl, toJson_other rfl]
    rfl

/-- The entry as a member of an object, if its source is kept. -/
theorem toJson_print_of_apart (apart : p.apart = true) (rest : List Char) :
    toJson (p.print.toList ++ rest) =
      Json.member p.name.toList p.source.toList ++ toJson rest := by
  have free : holdsKey p.source.toList = false := by simpa [Property.apart] using apart
  rw [h.toJson_print, (toJson_append h.unquoted rest).1 free]
  simp [Json.member]

/-- A key within the source ends the value, and stands behind it. -/
theorem toJson_print_of_not_apart (bound : p.apart = false) (rest : List Char) :
    ∃ front c tail, Json.Plain front ∧ isBareKey c = true ∧
      toJson (p.print.toList ++ rest) = Json.member p.name.toList front ++ c :: tail := by
  have bound : holdsKey p.source.toList = true := by simpa [Property.apart] using bound
  obtain ⟨front, c, back, tail, source, key, eq⟩ := (toJson_append h.unquoted rest).2 bound
  refine ⟨front, c, tail, fun d mem => h.plain d ?_, key, ?_⟩
  · rw [source]
    exact List.mem_append_left _ mem
  · rw [h.toJson_print, eq]
    simp [Json.member]

end Writable

end Property

/-! ## Bodies -/

variable {properties others : List Property} {p : Property}

def pair (p : Property) : List Char × List Char :=
  (p.name.toList, p.source.toList)

/-- The body with the properties as its entries. -/
def printAll (properties : List Property) : String :=
  "\x7b" ++ ", ".intercalate (properties.map Property.print) ++ "\x7d"

theorem toList_printAll (properties : List Property) :
    (printAll properties).toList =
      '\x7b' :: ([',', ' '].intercalate (properties.map fun p => p.print.toList) ++ ['\x7d']) := by
  simp only [printAll, String.toList_append, String.toList_intercalate, List.map_map]
  rfl

/-- Entries that others follow. -/
def leading (properties : List Property) : List Char :=
  properties.flatMap fun p => p.print.toList ++ [',', ' ']

theorem intercalate_append (properties : List Property) (p : Property) (others : List Property) :
    [',', ' '].intercalate ((properties ++ p :: others).map fun p => p.print.toList) =
      leading properties ++ [',', ' '].intercalate ((p :: others).map fun p => p.print.toList) := by
  induction properties with
  | nil => rfl
  | cons q properties ih =>
    rw [List.cons_append, List.map_cons, List.intercalate_cons_of_ne_nil (by simp), ih]
    simp [leading]

theorem toJson_leading (writable : ∀ p ∈ properties, p.Writable)
    (apart : ∀ p ∈ properties, p.apart = true) (rest : List Char) :
    toJson (leading properties ++ rest) = Json.leading (properties.map pair) ++ toJson rest := by
  induction properties with
  | nil => rfl
  | cons p properties ih =>
    obtain ⟨first, writable⟩ := List.forall_mem_cons.mp writable
    obtain ⟨kept, apart⟩ := List.forall_mem_cons.mp apart
    have whole : leading (p :: properties) ++ rest =
        p.print.toList ++ ',' :: ' ' :: (leading properties ++ rest) := by
      simp [leading]
    rw [whole, first.toJson_print_of_apart kept, toJson_other rfl, toJson_other rfl,
      ih writable apart]
    simp [Json.leading, pair]

theorem toJson_close : toJson ['\x7d'] = ['\x7d'] := by
  rw [toJson_other rfl, toJson, quoteKeys]
  rfl

theorem plainPair (h : p.Writable) : Json.PlainPair (pair p) :=
  ⟨h.plain_name, h.plain⟩

theorem textOf_pair (p : Property) : Json.textOf (pair p) = p.entry := by
  simp [Json.textOf, pair, Property.entry]

theorem ofBody_empty : ofBody (printAll []) = [] := by
  have body : toJson (printAll []).toList = ['\x7b', '\x7d'] := by
    rw [toList_printAll, toJson_other rfl]
    exact congrArg _ toJson_close
  rw [ofBody, body]
  decide +kernel

theorem ofBody_of_apart (writable : ∀ p ∈ properties, p.Writable)
    (distinct : (properties.map (·.name)).Nodup) (apart : ∀ p ∈ properties, p.apart = true) :
    ofBody (printAll properties) = properties.map Property.entry := by
  obtain rfl | ⟨before, last, eq⟩ := List.eq_nil_or_concat properties
  · exact ofBody_empty
  rw [List.concat_eq_append] at eq
  subst eq
  have keys : (Entries.keys ((before ++ [last]).map Property.entry)).Nodup := by
    rwa [Entries.keys, List.map_map]
  obtain ⟨writable, writable'⟩ := List.forall_mem_append.mp writable
  obtain ⟨apart, apart'⟩ := List.forall_mem_append.mp apart
  have last' := List.forall_mem_singleton.mp writable'
  have body : toJson (printAll (before ++ [last])).toList =
      '\x7b' :: (Json.leading (before.map pair) ++
        (Json.member (pair last).1 (pair last).2 ++ ['\x7d'])) := by
    rw [toList_printAll, intercalate_append, toJson_other rfl, List.append_assoc,
      toJson_leading writable apart, List.map_singleton, List.intercalate_singleton,
      last'.toJson_print_of_apart (apart' last List.mem_cons_self), toJson_close]
    rfl
  have pairs : ∀ pair' ∈ before.map pair, Json.PlainPair pair' :=
    List.forall_mem_map.mpr fun p mem => plainPair (writable p mem)
  have texts : ((before.map pair ++ [pair last]).map Json.textOf) =
      (before ++ [last]).map Property.entry := by
    simp [textOf_pair]
  rw [ofBody, body, Json.read_members pairs (plainPair last'),
    texts, Entries.ofPairs_eq_self keys]

theorem ofBody_of_not_apart (writable : ∀ p ∈ properties, p.Writable)
    (bound : ∃ p ∈ properties, p.apart = false) : ofBody (printAll properties) = [] := by
  -- the first property with a key in its source
  have some : (properties.find? fun p => !p.apart).isSome := by
    simpa [List.find?_isSome] using bound
  obtain ⟨p, found⟩ := Option.isSome_iff_exists.mp some
  obtain ⟨here, before, others, rfl, apart⟩ := List.find?_eq_some_iff_append.mp found
  obtain ⟨writable, writable'⟩ := List.forall_mem_append.mp writable
  have first := (List.forall_mem_cons.mp writable').1
  have apart : ∀ p ∈ before, p.apart = true := by simpa using apart
  have here : p.apart = false := by simpa using here
  obtain ⟨rest, behind⟩ : ∃ rest, [',', ' '].intercalate
      ((p :: others).map fun p => p.print.toList) ++ ['\x7d'] = p.print.toList ++ rest := by
    cases others with
    | nil => exact ⟨_, by rw [List.map_singleton, List.intercalate_singleton]⟩
    | cons q others =>
      rw [List.map_cons, List.intercalate_cons_of_ne_nil (by simp), List.append_assoc,
        List.append_assoc]
      exact ⟨_, rfl⟩
  obtain ⟨front, c, tail, plain, key, broken⟩ := first.toJson_print_of_not_apart here rest
  have body : toJson (printAll (before ++ p :: others)).toList =
      '\x7b' :: (Json.leading (before.map pair) ++
        (Json.member (pair p).1 front ++ c :: tail)) := by
    rw [toList_printAll, intercalate_append, toJson_other rfl, List.append_assoc,
      toJson_leading writable apart, behind, broken]
    rfl
  have pairs : ∀ pair' ∈ before.map pair, Json.PlainPair pair' :=
    List.forall_mem_map.mpr fun p mem => plainPair (writable p mem)
  have visible : Json.isSpace c = false := by
    simp only [Json.isSpace, Bool.or_eq_false_iff, beq_eq_false_iff_ne]
    refine ⟨⟨⟨?_, ?_⟩, ?_⟩, ?_⟩
    all_goals
      rintro rfl
      cases key
  have unclosed : c ≠ '\x7d' := by
    rintro rfl
    cases key
  have alone : c ≠ ',' := by
    rintro rfl
    cases key
  have plain : Json.PlainPair ((pair p).1, front) := ⟨first.plain_name, plain⟩
  obtain ⟨e, fails⟩ := Json.read_broken (r := tail) pairs plain visible unclosed alone
  rw [ofBody, body, fails]

/-- A body is read as the properties that it is written from exactly if no source has a name or a
number before a colon. Otherwise nothing is read of it, and no expression is evaluated. -/
theorem reads_written (properties : List Property) (writable : ∀ p ∈ properties, p.Writable)
    (distinct : (properties.map (·.name)).Nodup) :
    (ofBody (printAll properties) = properties.map Property.entry ↔
      ∀ p ∈ properties, p.apart = true) ∧
    ∀ params tag, Tag.get? tag "mbr-style" = some (printAll properties) →
      Pass.applyStyles params tag =
        if properties.all Property.apart then do
          let declarations := (← properties.mapM fun p =>
            Pass.declaration? params (p.name, .text p.source)).filterMap id
          return (if declarations = [] then tag else tag.appendStyle declarations false).erase
            "mbr-style"
        else .ok (tag.erase "mbr-style") := by
  by_cases apart : properties.all Property.apart = true
  · have reads := ofBody_of_apart writable distinct (List.all_eq_true.mp apart)
    refine ⟨⟨fun _ => List.all_eq_true.mp apart, fun _ => reads⟩, fun params tag present => ?_⟩
    rw [Pass.applyStyles, present, if_pos apart]
    dsimp only
    rw [reads, List.mapM_map]
    rfl
  · have bound : ∃ p ∈ properties, p.apart = false := by simpa using apart
    have nothing := ofBody_of_not_apart writable bound
    refine ⟨⟨fun reads => ?_, fun all => absurd (List.all_eq_true.mpr all) apart⟩,
      fun params tag present => ?_⟩
    · obtain ⟨p, mem, _⟩ := bound
      rw [nothing] at reads
      exact absurd (List.mem_map_of_mem mem) (reads ▸ List.not_mem_nil)
    · rw [Pass.applyStyles, present, if_neg apart]
      dsimp only
      rw [nothing]
      rfl

/-- Of two conditionals one has a name before its colon. -/
theorem reads_written_of_conditionals :
    let width : Property := ⟨"max-width", true, "(a) ? (b) : 1"⟩
    let height : Property := ⟨"height", false, "a ? b : c"⟩
    (∃ e, Expr.parse height.source = .ok e) ∧
      ofBody (printAll [width]) = [("max-width", .text "(a) ? (b) : 1")] ∧
      ofBody (printAll [width, height]) ≠ [width, height].map Property.entry := by
  intro width height
  have writable : width.Writable :=
    ⟨by decide, List.all_eq_true.mp (by decide), by decide, by decide⟩
  have writable' : height.Writable :=
    ⟨by decide, List.all_eq_true.mp (by decide), by decide, by decide⟩
  refine ⟨⟨_, by cbv⟩, ?_, ?_⟩
  · refine (reads_written [width] (by simpa using writable) (by simp)).1.mpr ?_
    decide
  · intro reads
    have apart := (reads_written [width, height] (by simp [writable, writable']) (by decide)).1.mp
      reads
    exact absurd apart (by decide)

end StyleMap

end PageComponent
