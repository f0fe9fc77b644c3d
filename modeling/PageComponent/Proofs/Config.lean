import Mathlib
import PageComponent.Config
import PageComponent.Proofs.Outcome

/-!
# Configuration

Settings that cannot be used are refused with an explanation, with four exceptions: a section that
is no table, an infinite delay and colours that stand in no collection fail without one, and a list
of colours is taken as it is, whether its items are names or not.
-/

namespace PageComponent.Config

variable {α β : Type} {table fields : Toml.Table} {heading key name : String}
  {file : Option String} {v : Toml.Value} {i : Int} {n : Nat} {items : List Toml.Value}
  {c c' : Config} {environment : Entries String}

/-! ## Failures without an explanation -/

/-- The failure is one that nobody foresaw. -/
def Unforeseen (x : Except ConfigError α) : Prop :=
  ∃ e, x = .error e ∧ e.explanation? = none

theorem not_unforeseen_ok (a : α) : ¬Unforeseen (.ok a) := by
  rintro ⟨e, h, -⟩
  cases h

theorem unforeseen_error_iff {e : ConfigError} :
    Unforeseen (.error e : Except ConfigError α) ↔ e.explanation? = none := by
  constructor
  · rintro ⟨_, ⟨⟩, none⟩
    exact none
  · exact fun none => ⟨e, rfl, none⟩

/-- The failure of two steps, of which the second one fails alike after each result of the first. -/
theorem unforeseen_bind {x : Except ConfigError α} {f : α → Except ConfigError β} {bad : Prop}
    (second : ∀ a, x = .ok a → (Unforeseen (f a) ↔ bad)) :
    Unforeseen (x >>= f) ↔ Unforeseen x ∨ (∃ a, x = .ok a) ∧ bad := by
  cases x with
  | error e =>
    rw [or_iff_left (by rintro ⟨⟨a, done⟩, -⟩; cases done), unforeseen_error_iff]
    exact unforeseen_error_iff
  | ok a =>
    rw [or_iff_right (not_unforeseen_ok a), and_iff_right ⟨a, rfl⟩]
    exact second a rfl

/-- A last step that always ends or is explained does not matter. -/
theorem unforeseen_bind_of_total {x : Except ConfigError α} {f : α → Except ConfigError β}
    (total : ∀ a, ¬Unforeseen (f a)) : Unforeseen (x >>= f) ↔ Unforeseen x := by
  rw [unforeseen_bind fun a _ => iff_false_intro (total a), and_false, or_false]

/-! ## Sections -/

/-- What is there under the heading is a table. -/
def IsSection (table : Toml.Table) (heading : String) : Prop :=
  ∀ v, table.get? heading = some v → ∃ fields, v = .table fields

/-- The value of a setting in its section. -/
def setting? (table : Toml.Table) (heading name : String) : Option Toml.Value :=
  match table.get? heading with
  | some (.table fields) => Entries.get? fields name
  | _ => none

theorem sectionOf_cases (table : Toml.Table) (heading : String) :
    (IsSection table heading ∧ ∃ fields, sectionOf table heading = .ok fields ∧
      ∀ name, fields.get? name = setting? table heading name) ∨
    (¬IsSection table heading ∧
      sectionOf table heading = .error (.sectionNotTable heading)) := by
  unfold IsSection sectionOf setting?
  cases table.get? heading with
  | none => exact .inl ⟨nofun, [], rfl, fun _ => rfl⟩
  | some v =>
    cases v with
    | table fields =>
      refine .inl ⟨?_, fields, rfl, fun _ => rfl⟩
      rintro _ ⟨⟩
      exact ⟨fields, rfl⟩
    | _ =>
      refine .inr ⟨fun h => ?_, rfl⟩
      obtain ⟨fields, eq⟩ := h _ rfl
      cases eq

theorem exists_sectionOf_iff :
    (∃ fields, sectionOf table heading = .ok fields) ↔ IsSection table heading := by
  rcases sectionOf_cases table heading with ⟨yes, fields, done, -⟩ | ⟨no, failed⟩
  · exact iff_of_true ⟨fields, done⟩ yes
  · rw [failed]
    exact iff_of_false nofun no

/-- The failure of steps that begin with a section. -/
theorem unforeseen_bind_sectionOf {f : Toml.Table → Except ConfigError β} {bad : Prop}
    (second : ∀ fields, sectionOf table heading = .ok fields → (Unforeseen (f fields) ↔ bad)) :
    Unforeseen (sectionOf table heading >>= f) ↔ ¬IsSection table heading ∨ bad := by
  rw [unforeseen_bind second, exists_sectionOf_iff]
  rcases sectionOf_cases table heading with ⟨yes, fields, done, -⟩ | ⟨no, failed⟩
  · rw [done, or_iff_right (not_unforeseen_ok fields), and_iff_right yes,
      or_iff_right (not_not_intro yes)]
  · rw [failed]
    exact iff_of_true (.inl (unforeseen_error_iff.mpr rfl)) (.inl no)

theorem get?_of_sectionOf (h : sectionOf table heading = .ok fields) (name : String) :
    fields.get? name = setting? table heading name := by
  rcases sectionOf_cases table heading with ⟨-, found, done, same⟩ | ⟨-, failed⟩
  · rw [← same name, Except.ok.inj (h.symm.trans done)]
  · rw [failed] at h
    cases h

/-! ## Delays -/

/-- The integer that a value is taken for. -/
inductive Denotes : Toml.Value → Int → Prop
  | bool (b : Bool) : Denotes (.bool b) (if b then 1 else 0)
  | int (i : Int) : Denotes (.number (.int i)) i
  | float {x : Binary} {i : Int} (whole : x.truncate? = some i) : Denotes (.number (.float x)) i
  | text {s : String} {i : Int} (spelled : Text.integer? s.toList = some i) : Denotes (.text s) i

def IsInfinite (v : Toml.Value) : Prop :=
  ∃ negative, v = .number (.float (.infinite negative))

theorem integerOf_cases (key : String) (file : Option String) (v : Toml.Value) :
    (∃ i, integerOf key file v = .ok i ∧ Denotes v i) ∨
    (integerOf key file v = .error (.infinite key) ∧ IsInfinite v) ∨
    (integerOf key file v = .error (.notInteger key v file) ∧ ¬IsInfinite v) := by
  cases v with
  | bool b => exact .inl ⟨_, rfl, .bool b⟩
  | number n =>
    cases n with
    | int i => exact .inl ⟨i, rfl, .int i⟩
    | float x =>
      cases x with
      | nan => exact .inr (.inr ⟨rfl, nofun⟩)
      | infinite negative => exact .inr (.inl ⟨rfl, negative, rfl⟩)
      | finite s m e canonical =>
        cases whole : (Binary.finite s m e canonical).truncate? with
        | some i => exact .inl ⟨i, by simp only [integerOf, whole], .float whole⟩
        | none => exact .inr (.inr ⟨by simp only [integerOf, whole], nofun⟩)
  | text s =>
    cases spelled : Text.integer? s.toList with
    | some i => exact .inl ⟨i, by simp only [integerOf, spelled], .text spelled⟩
    | none => exact .inr (.inr ⟨by simp only [integerOf, spelled], nofun⟩)
  | _ => exact .inr (.inr ⟨rfl, nofun⟩)

theorem integerOf_eq_ok_iff : integerOf key file v = .ok i ↔ Denotes v i := by
  constructor
  · intro h
    rcases integerOf_cases key file v with ⟨j, done, denotes⟩ | ⟨failed, -⟩ | ⟨failed, -⟩
    · obtain rfl := Except.ok.inj (done.symm.trans h)
      exact denotes
    · cases failed.symm.trans h
    · cases failed.symm.trans h
  · rintro (b | i | @⟨x, i, whole⟩ | spelled)
    · rfl
    · rfl
    · cases x with
      | finite s m e canonical => simp only [integerOf, whole]
      | _ => cases whole
    · simp only [integerOf, spelled]

theorem unforeseen_integerOf : Unforeseen (integerOf key file v) ↔ IsInfinite v := by
  rcases integerOf_cases key file v with ⟨i, done, denotes⟩ | ⟨failed, yes⟩ | ⟨failed, no⟩
  · rw [done]
    refine iff_of_false (not_unforeseen_ok i) ?_
    rintro ⟨negative, rfl⟩
    cases denotes with
    | float whole => cases whole
  · rw [failed]
    exact iff_of_true (unforeseen_error_iff.mpr rfl) yes
  · rw [failed]
    exact iff_of_false (fun h => nomatch unforeseen_error_iff.mp h) no

theorem delayOf_eq_ok_iff : delayOf key file v = .ok n ↔ Denotes v n := by
  rw [delayOf, bind_eq_ok]
  simp only [integerOf_eq_ok_iff]
  constructor
  · rintro ⟨i, denotes, h⟩
    split at h
    next => cases h
    next nonneg =>
      cases h
      rwa [Int.toNat_of_nonneg (Int.not_lt.mp nonneg)]
  · intro denotes
    refine ⟨n, denotes, ?_⟩
    rw [if_neg (Int.not_lt.mpr (Int.natCast_nonneg n))]
    rfl

theorem unforeseen_delayOf : Unforeseen (delayOf key file v) ↔ IsInfinite v := by
  have explained (i : Int) : ¬Unforeseen (do
      if i < 0 then throw (.negative key file)
      return i.toNat : Except ConfigError Nat) := by
    split
    next => exact fun h => nomatch unforeseen_error_iff.mp h
    next => exact not_unforeseen_ok _
  rw [delayOf, unforeseen_bind_of_total explained, unforeseen_integerOf]

/-- The delay that a setting asks for, or the usual one. -/
inductive IsDelay : Option Toml.Value → Nat → Prop
  | given {v : Toml.Value} {n : Nat} (denotes : Denotes v n) : IsDelay (some v) n
  | usual : IsDelay none 100

/-! ## Colours -/

/-- The colours that a setting names, or the usual ones: the items of a list, the characters of a
text or the keys of a table. -/
inductive AreColours : Option Toml.Value → List Toml.Value → Prop
  | items (items : List Toml.Value) : AreColours (some (.list items)) items
  | characters (s : String) :
    AreColours (some (.text s)) (s.toList.map fun c => .text (.singleton c))
  | keys (fields : List (String × Toml.Value)) :
    AreColours (some (.table fields)) (fields.map fun f => .text f.1)
  | usual : AreColours none (defaultColours.map .text)

theorem itemsOf_eq_ok_iff : itemsOf v = .ok items ↔ AreColours (some v) items := by
  constructor
  · intro h
    cases v with
    | list items =>
      cases h
      exact .items _
    | text s =>
      cases h
      exact .characters s
    | table fields =>
      cases h
      exact .keys fields
    | _ => cases h
  · rintro (_ | _ | _) <;> rfl

theorem unforeseen_itemsOf : Unforeseen (itemsOf v) ↔ ∀ items, ¬AreColours (some v) items := by
  simp only [← itemsOf_eq_ok_iff]
  cases h : itemsOf v with
  | ok items => exact iff_of_false (not_unforeseen_ok items) fun none => none items rfl
  | error e =>
    refine iff_of_true (unforeseen_error_iff.mpr ?_) nofun
    cases v <;> cases h
    all_goals rfl

/-- Only a list can hold something else than names. -/
theorem AreColours.names_or {value? : Option Toml.Value} (h : AreColours value? items) :
    (∀ v ∈ items, ∃ s, v = .text s) ∨ value? = some (.list items) := by
  have named {α : Type} (as : List α) (f : α → String) :
      ∀ v ∈ as.map fun a => Toml.Value.text (f a), ∃ s, v = .text s := by
    intro v mem
    obtain ⟨a, -, rfl⟩ := List.mem_map.mp mem
    exact ⟨f a, rfl⟩
  cases h with
  | items => exact .inr rfl
  | characters s => exact .inl (named _ _)
  | keys fields => exact .inl (named _ _)
  | usual => exact .inl (named _ _)

/-! ## Tables -/

/-- The value that decides about the delay. One of the environment goes before that of the table. -/
def delay? (table : Toml.Table) (environment : Entries String) : Option Toml.Value :=
  ((environment.get? debounceVariable).map .text).or (setting? table "reactive" "debounce_ms")

/-- The configuration has the settings of the table with those of the environment on top of them. -/
structure Reads (table : Toml.Table) (environment : Entries String) (c : Config) : Prop where
  projectPath : c.projectPath = (environment.get? projectPathVariable).getD
    (((setting? table "render" "project_path").map Toml.Value.label).getD "")
  overlayPatch : c.overlayPatch =
    ((setting? table "render" "overlay_patch").map Toml.Value.isFilled).getD false
  delay : IsDelay (delay? table environment) c.debounce
  colours : AreColours (setting? table "styles" "color_variables") c.colours

/-- The delay in a setting that may be missing. -/
def delayIn (file : Option String) : Option Toml.Value → Except ConfigError Nat
  | some value => delayOf "reactive.debounce_ms" file value
  | none => .ok 100

/-- The colours in a setting that may be missing. -/
def coloursIn : Option Toml.Value → Except ConfigError (List Toml.Value)
  | some value => itemsOf value
  | none => .ok (defaultColours.map .text)

theorem ofTable_eq (table : Toml.Table) (file : Option String) : ofTable table file = (do
    let render ← sectionOf table "render"
    let reactive ← sectionOf table "reactive"
    let debounce ← delayIn file (reactive.get? "debounce_ms")
    let styles ← sectionOf table "styles"
    let colours ← coloursIn (styles.get? "color_variables")
    return {
      projectPath := ((render.get? "project_path").map Toml.Value.label).getD ""
      overlayPatch := ((render.get? "overlay_patch").map Toml.Value.isFilled).getD false
      debounce, colours, source := file }) := by
  refine bind_congr fun render => bind_congr fun reactive => ?_
  cases reactive.get? "debounce_ms" <;>
    refine bind_congr fun debounce => bind_congr fun styles => ?_ <;>
    cases styles.get? "color_variables" <;> rfl

section

variable {value? : Option Toml.Value}

theorem delayIn_eq_ok_iff : delayIn file value? = .ok n ↔ IsDelay value? n := by
  cases value? with
  | none =>
    constructor
    · rintro ⟨⟩
      exact .usual
    · rintro ⟨⟩
      rfl
  | some v =>
    refine delayOf_eq_ok_iff.trans ⟨.given, ?_⟩
    rintro ⟨denotes⟩
    exact denotes

theorem unforeseen_delayIn : Unforeseen (delayIn file value?) ↔ ∃ v ∈ value?, IsInfinite v := by
  cases value? with
  | none => exact iff_of_false (not_unforeseen_ok 100) nofun
  | some v =>
    refine unforeseen_delayOf.trans ⟨fun infinite => ⟨v, rfl, infinite⟩, ?_⟩
    rintro ⟨_, ⟨⟩, infinite⟩
    exact infinite

theorem coloursIn_eq_ok_iff : coloursIn value? = .ok items ↔ AreColours value? items := by
  cases value? with
  | none =>
    constructor
    · rintro ⟨⟩
      exact .usual
    · rintro ⟨⟩
      rfl
  | some v => exact itemsOf_eq_ok_iff

theorem unforeseen_coloursIn :
    Unforeseen (coloursIn value?) ↔ ∀ items, ¬AreColours value? items := by
  cases value? with
  | none => exact iff_of_false (not_unforeseen_ok _) fun none => none _ .usual
  | some v => exact unforeseen_itemsOf

end

theorem reads_of_ofTable (h : ofTable table file = .ok c) : Reads table [] c := by
  rw [ofTable_eq] at h
  obtain ⟨render, hrender, h⟩ := bind_eq_ok.mp h
  obtain ⟨reactive, hreactive, h⟩ := bind_eq_ok.mp h
  obtain ⟨n, hdelay, h⟩ := bind_eq_ok.mp h
  obtain ⟨styles, hstyles, h⟩ := bind_eq_ok.mp h
  obtain ⟨items, hcolours, h⟩ := bind_eq_ok.mp h
  cases h
  have delay := delayIn_eq_ok_iff.mp hdelay
  have colours := coloursIn_eq_ok_iff.mp hcolours
  rw [get?_of_sectionOf hreactive] at delay
  rw [get?_of_sectionOf hstyles] at colours
  have settings := get?_of_sectionOf hrender
  exact ⟨by rw [settings "project_path"]; rfl, by rw [settings "overlay_patch"], delay, colours⟩

theorem exists_ofTable (render : IsSection table "render") (reactive : IsSection table "reactive")
    (styles : IsSection table "styles")
    (delay : IsDelay (setting? table "reactive" "debounce_ms") n)
    (colours : AreColours (setting? table "styles" "color_variables") items) :
    ∃ c, ofTable table file = .ok c ∧ c.colours = items := by
  obtain ⟨render, hrender⟩ := exists_sectionOf_iff.mpr render
  obtain ⟨reactive, hreactive⟩ := exists_sectionOf_iff.mpr reactive
  obtain ⟨styles, hstyles⟩ := exists_sectionOf_iff.mpr styles
  rw [← get?_of_sectionOf hreactive] at delay
  rw [← get?_of_sectionOf hstyles] at colours
  have hdelay := (@delayIn_eq_ok_iff file _ _).mpr delay
  have hcolours := coloursIn_eq_ok_iff.mpr colours
  rw [ofTable_eq]
  exact ⟨_, bind_eq_ok.mpr ⟨render, hrender, bind_eq_ok.mpr ⟨reactive, hreactive,
    bind_eq_ok.mpr ⟨n, hdelay, bind_eq_ok.mpr ⟨styles, hstyles,
      bind_eq_ok.mpr ⟨items, hcolours, rfl⟩⟩⟩⟩⟩, rfl⟩

theorem unforeseen_ofTable : Unforeseen (ofTable table file) ↔
    ¬IsSection table "render" ∨ ¬IsSection table "reactive" ∨
      (∃ v ∈ setting? table "reactive" "debounce_ms", IsInfinite v) ∨
      (∃ n, IsDelay (setting? table "reactive" "debounce_ms") n) ∧
        (¬IsSection table "styles" ∨
          ∀ items, ¬AreColours (setting? table "styles" "color_variables") items) := by
  rw [ofTable_eq]
  refine unforeseen_bind_sectionOf fun render _ => unforeseen_bind_sectionOf fun reactive h => ?_
  rw [← get?_of_sectionOf h, ← @unforeseen_delayIn file]
  simp only [← @delayIn_eq_ok_iff file]
  refine unforeseen_bind fun n _ => unforeseen_bind_sectionOf fun styles h => ?_
  rw [← get?_of_sectionOf h, ← unforeseen_coloursIn]
  exact unforeseen_bind_of_total fun _ => not_unforeseen_ok _

/-! ## The environment -/

theorem override_eq (c : Config) (environment : Entries String) : c.override environment = (do
    let debounce ← match environment.get? debounceVariable with
      | some s => delayOf debounceVariable none (.text s)
      | none => .ok c.debounce
    return { c with
      projectPath := (environment.get? projectPathVariable).getD c.projectPath
      debounce }) := by
  unfold override
  cases environment.get? projectPathVariable <;> cases environment.get? debounceVariable <;> rfl

theorem unforeseen_override (c : Config) (environment : Entries String) :
    ¬Unforeseen (c.override environment) := by
  rw [override_eq]
  cases environment.get? debounceVariable with
  | none => exact not_unforeseen_ok _
  | some s =>
    intro unforeseen
    have delay := (unforeseen_bind_of_total fun _ => not_unforeseen_ok _).mp unforeseen
    obtain ⟨_, ⟨⟩⟩ := unforeseen_delayOf.mp delay

theorem reads_of_override (reads : Reads table [] c) (h : c.override environment = .ok c') :
    Reads table environment c' ∧ c'.colours = c.colours := by
  rw [override_eq] at h
  have path := congrArg (environment.get? projectPathVariable).getD reads.projectPath
  cases found : environment.get? debounceVariable with
  | none =>
    rw [found] at h
    cases h
    refine ⟨⟨path, reads.overlayPatch, ?_, reads.colours⟩, rfl⟩
    rw [delay?, found]
    exact reads.delay
  | some s =>
    rw [found] at h
    obtain ⟨n, delay, ⟨⟩⟩ := bind_eq_ok.mp h
    refine ⟨⟨path, reads.overlayPatch, ?_, reads.colours⟩, rfl⟩
    rw [delay?, found]
    exact .given (delayOf_eq_ok_iff.mp delay)

theorem exists_override (c : Config) (delay : IsDelay (delay? table environment) n) :
    ∃ c', c.override environment = .ok c' := by
  rw [override_eq]
  rw [delay?] at delay
  cases found : environment.get? debounceVariable with
  | none => exact ⟨_, rfl⟩
  | some s =>
    rw [found] at delay
    cases delay with
    | given denotes => exact ⟨_, bind_eq_ok.mpr ⟨n, delayOf_eq_ok_iff.mpr denotes, rfl⟩⟩

theorem reads_of_steps (h : (ofTable table file >>= (·.override environment)) = .ok c) :
    Reads table environment c ∧ ∃ n, IsDelay (setting? table "reactive" "debounce_ms") n := by
  obtain ⟨first, done, overridden⟩ := bind_eq_ok.mp h
  have reads := reads_of_ofTable done
  exact ⟨(reads_of_override reads overridden).1, _, reads.delay⟩

/-! ## Files -/

/-- The table in the file, empty without a file that can be read. -/
def tableOf (files : Files) (path : Option String) : Toml.Table :=
  match readTable? files (Files.normalPath (path.getD fileName)) with
  | .ok (some table) => table
  | _ => []

/-- What a user may expect of the settings: a configuration with them in which all colours are
names, or an explanation. -/
structure Kept (table : Toml.Table) (environment : Entries String)
    (result : Except ConfigError Config) : Prop where
  reads : ∀ c, result = .ok c → Reads table environment c
  names : ∀ c, result = .ok c → ∀ v ∈ c.colours, ∃ s, v = .text s
  explained : ¬Unforeseen result

/-- The settings for which nobody provided. -/
inductive Breach (table : Toml.Table) (environment : Entries String) : Prop
  | heading {heading : String} (early : heading = "render" ∨ heading = "reactive")
    (other : ¬IsSection table heading)
  | infinite {v : Toml.Value} (found : setting? table "reactive" "debounce_ms" = some v)
    (infinite : IsInfinite v)
  | styles {n : Nat} (delay : IsDelay (setting? table "reactive" "debounce_ms") n)
    (other : ¬IsSection table "styles")
  | colours {n : Nat} (delay : IsDelay (setting? table "reactive" "debounce_ms") n)
    (unlisted : ∀ items, ¬AreColours (setting? table "styles" "color_variables") items)
  | name {n m : Nat} {items : List Toml.Value} {v : Toml.Value}
    (delay : IsDelay (setting? table "reactive" "debounce_ms") n)
    (override : IsDelay (delay? table environment) m)
    (found : setting? table "styles" "color_variables" = some (.list items)) (mem : v ∈ items)
    (other : ∀ s, v ≠ .text s)

theorem Breach.of_unforeseen (h : Unforeseen (ofTable table file)) : Breach table environment := by
  rcases unforeseen_ofTable.mp h with render | reactive | ⟨v, found, infinite⟩ | ⟨⟨n, delay⟩, late⟩
  · exact .heading (.inl rfl) render
  · exact .heading (.inr rfl) reactive
  · exact .infinite found infinite
  · rcases late with styles | colours
    · exact .styles delay styles
    · exact .colours delay colours

theorem Breach.not_kept (h : Breach table environment) :
    ¬Kept table environment (ofTable table file >>= (·.override environment)) := by
  intro kept
  have calm := kept.explained
  rw [unforeseen_bind_of_total fun c => unforeseen_override c environment, unforeseen_ofTable]
    at calm
  simp only [not_or, not_not] at calm
  obtain ⟨render, reactive, finite, late⟩ := calm
  cases h with
  | heading early other =>
    rcases early with rfl | rfl
    · exact other render
    · exact other reactive
  | infinite found infinite => exact finite ⟨_, found, infinite⟩
  | styles delay other => exact late ⟨⟨_, delay⟩, .inl other⟩
  | colours delay unlisted => exact late ⟨⟨_, delay⟩, .inr unlisted⟩
  | @name n m items v delay override found mem other =>
    have styles : IsSection table "styles" :=
      not_not.mp fun none => late ⟨⟨n, delay⟩, .inl none⟩
    have colours : AreColours (setting? table "styles" "color_variables") items :=
      found ▸ .items items
    obtain ⟨c, done, same⟩ := @exists_ofTable _ file _ _ render reactive styles delay colours
    obtain ⟨c', overridden⟩ := exists_override c override
    have same' := (reads_of_override (reads_of_ofTable done) overridden).2
    obtain ⟨s, eq⟩ := kept.names c' (bind_eq_ok.mpr ⟨c, done, overridden⟩) v
      (by rwa [same', same])
    exact other s eq

theorem kept_ofTable_iff :
    Kept table environment (ofTable table file >>= (·.override environment)) ↔
      ¬Breach table environment := by
  refine ⟨fun kept breach => breach.not_kept kept, fun sound => ?_⟩
  refine ⟨fun c h => (reads_of_steps h).1, fun c h v mem => ?_, fun unforeseen => ?_⟩
  · obtain ⟨reads, n, delay⟩ := reads_of_steps h
    rcases reads.colours.names_or with names | list
    · exact names v mem
    · by_contra other
      exact sound (.name delay reads.delay list mem fun s eq => other ⟨s, eq⟩)
  · rw [unforeseen_bind_of_total fun c => unforeseen_override c environment] at unforeseen
    exact sound (.of_unforeseen unforeseen)

theorem not_breach_nil : ¬Breach [] environment := by
  have sections (heading : String) : IsSection [] heading := nofun
  rintro (⟨-, other⟩ | ⟨⟨⟩⟩ | ⟨-, other⟩ | ⟨-, unlisted⟩ | ⟨-, -, ⟨⟩⟩)
  · exact other (sections _)
  · exact other (sections _)
  · exact unlisted _ .usual

/-- The file is there and no text. -/
def IsUndecodable (files : Files) (path : Option String) : Prop :=
  files.read (Files.normalPath (path.getD fileName)) = .error .undecodable

/-- Loading fails without a table, or its table and the environment make the configuration. -/
theorem load_cases (files : Files) (environment : Entries String) (path : Option String) :
    (∃ e, load files environment path = .error e ∧ tableOf files path = [] ∧
      (e.explanation? = none ↔ IsUndecodable files path)) ∨
    (¬IsUndecodable files path ∧ ∃ file, load files environment path =
      (ofTable (tableOf files path) file >>= (·.override environment))) := by
  rw [load, tableOf, readTable?, IsUndecodable]
  generalize Files.normalPath (path.getD fileName) = place
  cases files.read place with
  | error failure =>
    cases failure with
    | undecodable => exact .inl ⟨_, rfl, rfl, iff_of_true rfl rfl⟩
    | missing =>
      cases path with
      | none => exact .inr ⟨nofun, none, rfl⟩
      | some path => exact .inl ⟨_, rfl, rfl, iff_of_false nofun nofun⟩
  | ok source =>
    dsimp only
    cases Toml.read? source with
    | none => exact .inl ⟨_, rfl, rfl, iff_of_false nofun nofun⟩
    | some table => exact .inr ⟨nofun, some place, rfl⟩

/-- Loading keeps what a user may expect, exactly if the file is text and its table is no breach.
What it returns has the settings in any case. -/
theorem load_kept_iff (files : Files) (environment : Entries String) (path : Option String) :
    (Kept (tableOf files path) environment (load files environment path) ↔
      ¬IsUndecodable files path ∧ ¬Breach (tableOf files path) environment) ∧
    ∀ c, load files environment path = .ok c → Reads (tableOf files path) environment c := by
  rcases load_cases files environment path with ⟨e, failed, empty, explained⟩ | ⟨text, file, eq⟩
  · rw [failed, empty]
    rw [← @unforeseen_error_iff Config] at explained
    refine ⟨⟨fun kept => ⟨mt explained.mpr kept.explained, not_breach_nil⟩, fun h => ?_⟩, nofun⟩
    exact ⟨nofun, nofun, mt explained.mp h.1⟩
  · rw [eq]
    exact ⟨kept_ofTable_iff.trans (iff_and_self.mpr fun _ => text), fun c h => (reads_of_steps h).1⟩

/-! ## The usual file -/

theorem pathNames_eq (path : String) : Files.pathNames path =
    ((path.toList.splitOnP (· == '/')).map .ofList).filter fun name => name ≠ "" ∧ name ≠ "." := by
  rw [Files.pathNames, ← String.toList_split_bool]
  rfl

theorem normalPath_fileName : Files.normalPath fileName = fileName := by
  have names : Files.pathNames fileName = [fileName] := by
    rw [pathNames_eq]
    rfl
  have relative : fileName.startsWith "/" = false := by decide +kernel
  rw [Files.normalPath, names, relative]
  decide

/-- The table in the usual file. -/
theorem tableOf_none {files : Files} {bytes : ByteArray} {source : String}
    (found : files.get? fileName = some bytes) (decoded : Files.decode? bytes = some source)
    (toml : Toml.read? source = some table) : tableOf files none = table := by
  rw [tableOf, Option.getD_none, readTable?, Files.read, normalPath_fileName, normalPath_fileName,
    found]
  dsimp only
  rw [decoded]
  dsimp only
  rw [toml]

/-- Infinity is a number that a file can give for the delay. -/
theorem not_kept_of_infinite :
    let files : Files := [("sectionkit.toml", "[reactive]\ndebounce_ms = inf\n".toUTF8)]
    ¬Kept (tableOf files none) [] (load files [] none) := by
  intro files kept
  have decoded : Files.decode? "[reactive]\ndebounce_ms = inf\n".toUTF8 =
      some "[reactive]\ndebounce_ms = inf\n" := by
    have valid : String.fromUTF8? "[reactive]\ndebounce_ms = inf\n".toUTF8 =
        some "[reactive]\ndebounce_ms = inf\n" := by decide +kernel
    rw [Files.decode?, valid]
    decide +kernel
  have toml : Toml.read? "[reactive]\ndebounce_ms = inf\n" =
      some [("reactive", .table [("debounce_ms", .number (.float (.infinite false)))])] := by cbv
  obtain ⟨-, sound⟩ := (load_kept_iff files [] none).1.mp kept
  rw [tableOf_none rfl decoded toml] at sound
  exact sound (.infinite rfl ⟨false, rfl⟩)

end PageComponent.Config
