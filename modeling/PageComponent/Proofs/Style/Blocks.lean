import PageComponent.Proofs.Style.Overflow
import PageComponent.Proofs.Text.Trimming

/-!
# Style trees block by block

The writer of style trees closes a block where the depth falls. A printer without a state closes it
where its entries end. Both write the same: an entry is never deeper than the one behind it but at
the end of a block, so a leaf closes nothing and a block is closed once, right behind its entries.
-/

namespace PageComponent.Style

variable {depth : Nat} {key : String} {first : Bool} {w : Writer} {fields : List (String × Value)}

/-! ## The printer without a state -/

/-- Two spaces for each block that is open. -/
def margin : Nat → String
  | 0 => ""
  | depth + 1 => "  " ++ margin depth

/-- The first line of a block, behind a blank line unless nothing is written in front of it. -/
def headerLine (first : Bool) (depth : Nat) (key : String) : String :=
  (if first then "" else "\n") ++ (margin depth ++ key ++ " \x7b\n")

def leafLine (depth : Nat) (key text : String) : String :=
  margin depth ++ key ++ ": " ++ text ++ ";\n"

def closingLine (depth : Nat) : String :=
  margin depth ++ "\x7d\n"

mutual

/-- The lines of an entry; `first` says that they are the first ones of all. -/
def entryLines (first : Bool) (depth : Nat) (key : String) : Value → Except TooLarge String
  | .mapping fields => do
    let lines ← blockLines false (depth + 1) fields
    return headerLine first depth key ++ lines ++ closingLine depth
  | value => do
    let text ← value.toText
    return leafLine depth key text

def blockLines (first : Bool) (depth : Nat) : List (String × Value) → Except TooLarge String
  | [] => .ok ""
  | (key, value) :: rest => do
    let lines ← entryLines first depth key value
    let others ← blockLines false depth rest
    return lines ++ others

end

theorem indentation_eq : ∀ depth : Nat, indentation depth = margin depth
  | 0 => rfl
  | depth + 1 => by
    have deeper : indentation (depth + 1) = "  " ++ indentation depth := by
      rw [indentation, Nat.mul_succ, Nat.add_comm, List.replicate_add, String.ofList_append]
      rfl
    rw [deeper, margin, indentation_eq depth]

/-! ## What the writer closes -/

namespace Writer

/-- Behind a leaf nothing is closed, since the entry before it is no deeper. -/
theorem finish_leaf (le : w.depth ≤ depth) : w.finish depth false = ⟨w.written, depth⟩ := by
  have level : ¬depth < w.depth := Nat.not_lt.mpr le
  simp [finish, level]

/-- Behind a block one brace is written: the block is empty, or its last entry is deeper. -/
theorem finish_block {empty : Bool} (ended : empty = true ∨ depth < w.depth) :
    w.finish depth empty = ⟨w.written ++ closingLine depth, depth⟩ := by
  have closes : (decide (depth < w.depth) || empty) = true := by
    rw [Bool.or_eq_true, decide_eq_true_eq]
    exact ended.symm
  rw [finish, if_pos closes, indentation_eq]
  rfl

end Writer

theorem openBlock_eq (w : Writer) (depth : Nat) (key : String) :
    openBlock w depth key = ⟨w.written ++ headerLine (w.written = "") depth key, w.depth⟩ := by
  by_cases first : w.written = ""
  · simp [openBlock, headerLine, Writer.write, first, indentation_eq]
  · simp [openBlock, headerLine, Writer.write, first, indentation_eq, String.append_assoc]

/-! ## Entries -/

theorem entryLines_leaf {value : Value} (leaf : value.isMapping = false) :
    entryLines first depth key value = do
      let text ← value.toText
      return leafLine depth key text := by
  cases value with
  | mapping fields => cases leaf
  | _ => rfl

theorem entryLines_ne_empty {value : Value} {lines : String}
    (h : entryLines first depth key value = .ok lines) : lines ≠ "" := by
  cases mapping : value.isMapping with
  | true =>
    cases value with
    | mapping fields =>
      obtain ⟨inner, _, written⟩ := bind_eq_ok.mp h
      cases written
      simp [closingLine]
    | _ => cases mapping
  | false =>
    rw [entryLines_leaf mapping] at h
    obtain ⟨text, _, written⟩ := bind_eq_ok.mp h
    cases written
    simp [leafLine]

theorem writeLeaf_eq (le : w.depth ≤ depth) {value : Value} (leaf : value.isMapping = false) :
    writeLeaf depth key w value =
      (fun lines => ⟨w.written ++ lines, depth⟩) <$> entryLines first depth key value := by
  rw [entryLines_leaf leaf, writeLeaf, indentation_eq]
  cases value.toText with
  | error e => rfl
  | ok text =>
    have closed := Writer.finish_leaf (w := w.write (leafLine depth key text)) le
    exact congrArg Except.ok closed

/-- The state behind entries at `depth` that wrote the given lines. -/
def Writer.behind (w : Writer) (depth : Nat) (fields : List (String × Value)) (lines : String) :
    Writer :=
  ⟨w.written ++ lines, if fields.isEmpty then w.depth else depth⟩

mutual

/-- An entry writes its lines, if no entry before it is deeper. -/
theorem writeEntry_eq {depth : Nat} {w : Writer} (key : String) (le : w.depth ≤ depth) :
    ∀ value : Value, writeEntry depth key w value =
      (fun lines => ⟨w.written ++ lines, depth⟩) <$>
        entryLines (w.written = "") depth key value
  | .mapping fields => by
    have deeper : (openBlock w depth key).depth ≤ depth + 1 := by
      rw [openBlock_eq]
      exact Nat.le_succ_of_le le
    have inner := writeEntries_eq deeper fields
    have opened : decide ((openBlock w depth key).written = "") = false := by
      rw [openBlock_eq]
      simp [headerLine]
    rw [opened] at inner
    rw [writeEntry, entryLines, inner]
    cases blockLines false (depth + 1) fields with
    | error e => rfl
    | ok lines =>
      have ended : fields.isEmpty = true ∨
          depth < ((openBlock w depth key).behind (depth + 1) fields lines).depth := by
        cases empty : fields.isEmpty with
        | true => exact .inl rfl
        | false =>
          apply Or.inr
          simp [Writer.behind, empty]
      have closed := Writer.finish_block ended
      refine (congrArg Except.ok closed).trans ?_
      simp [Writer.behind, openBlock_eq, String.append_assoc]
  | .null | .undefined | .bool _ | .number _ | .text _ | .list _ => writeLeaf_eq le rfl

theorem writeEntries_eq {depth : Nat} {w : Writer} (le : w.depth ≤ depth) :
    ∀ fields : List (String × Value), writeEntries depth w fields =
      w.behind depth fields <$> blockLines (w.written = "") depth fields
  | [] => by
    rw [writeEntries, blockLines]
    simp [Writer.behind]
  | (key, value) :: rest => by
    rw [writeEntries, blockLines, writeEntry_eq key le value]
    cases entry : entryLines (w.written = "") depth key value with
    | error e => rfl
    | ok lines =>
      have others := writeEntries_eq (w := ⟨w.written ++ lines, depth⟩) (Nat.le_refl depth) rest
      have begun : decide (w.written ++ lines = "") = false := by
        simp [entryLines_ne_empty entry]
      rw [begun] at others
      refine others.trans ?_
      cases blockLines false depth rest with
      | error e => rfl
      | ok more =>
        apply congrArg Except.ok
        simp [Writer.behind, String.append_assoc]

end

/-! ## Trees -/

/-- A style tree is printed as its blocks, without the blanks around them: each block is closed by
one brace right behind its entries, and leaves close nothing. Only a leaf that cannot be shown
leaves a tree without a text. -/
theorem print_eq_blockLines (tree : StyleTree) :
    (∀ out, print tree = .ok out ↔
      ∃ lines, blockLines true 0 tree = .ok lines ∧ Text.Strips lines.toList out.toList) ∧
    (Fails (print tree) ↔ ∃ leaf ∈ leaves "" tree, leaf.2.Unshowable) := by
  have written := writeEntries_eq (w := ⟨"", 0⟩) (Nat.le_refl 0) tree
  have printed : print tree = trimmed <$> blockLines true 0 tree := by
    rw [print, written]
    simp [Writer.behind]
  constructor
  · intro out
    rw [printed, map_eq_ok]
    simp only [trimmed_eq_iff]
  · have fails := fails_writeEntries 0 "" ⟨"", 0⟩ tree
    exact (fails_bind_of_total fun _ => not_fails_ok _).trans fails

end PageComponent.Style
