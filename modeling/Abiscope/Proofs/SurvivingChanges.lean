import Abiscope.Proofs.DifferenceTrees
import Abiscope.Proofs.ReportText

/-!
# The changes that a report shows of a type

A report shows the tree of a type change with a heading for every finding. Three tests interleave there:
a finding that a suppression hides is left out with all that lies in it, a finding is left out if nothing
in it is left to report, and a heading stands without a change of its own if only something in it is left.

What a reader looks for are the lines that tell a change of a type. All headings begin with other words,
so these lines can be told from the rest. They are the changes of the findings that survive, in the order
of the tree, each as deep as its finding lies: a finding survives if neither it nor any finding that it
lies in is hidden.
-/

namespace Abiscope

/-! ## The findings that survive -/

/-- Whether neither a finding nor one that it lies in is hidden. -/
def survives (entry : List Finding × Finding) : Bool :=
  !entry.2.isSuppressed && entry.1.all fun above => !above.isSuppressed

/-- The changes of those findings that survive, each with the depth of its finding. -/
def survivingOf (located : List (List Finding × Finding)) : List (Nat × TypeChange) :=
  (located.filter survives).flatMap fun entry =>
    entry.2.changes.map fun change => (entry.1.length, change)

/-- The changes that survive in some findings, in the order of the tree. -/
def Findings.surviving (findings : Findings) : List (Nat × TypeChange) := survivingOf findings.located

/-- The changes that survive in a difference, in the order of the tree. -/
def TypeDifference.surviving (difference : TypeDifference) : List (Nat × TypeChange) :=
  survivingOf difference.located

theorem survivingOf_append (left right : List (List Finding × Finding)) :
    survivingOf (left ++ right) = survivingOf left ++ survivingOf right := by
  rw [survivingOf, List.filter_append, List.flatMap_append]
  rfl

/-- Nothing survives in a finding that is hidden. In any other one the same survives as by itself, one
step deeper. -/
theorem survivingOf_inside (finding : Finding) (located : List (List Finding × Finding)) :
    survivingOf (located.map fun entry => (finding :: entry.1, entry.2)) =
      if finding.isSuppressed then []
      else (survivingOf located).map fun entry => (entry.1 + 1, entry.2) := by
  rw [survivingOf, List.filter_map, List.flatMap_map]
  cases hidden : finding.isSuppressed with
  | true =>
    have none : located.filter (survives ∘ fun entry => (finding :: entry.1, entry.2)) = [] := by
      refine List.filter_eq_nil_iff.mpr fun entry _ => ?_
      simp only [Function.comp_apply, survives, List.all_cons, hidden, Bool.not_true, Bool.false_and,
        Bool.and_false, Bool.false_eq_true, not_false_eq_true]
    rw [none, if_pos rfl, List.flatMap_nil]
  | false =>
    have same : (survives ∘ fun entry => (finding :: entry.1, entry.2)) = survives := by
      funext entry
      simp only [Function.comp_apply, survives, List.all_cons, hidden, Bool.not_false, Bool.true_and]
    rw [same, if_neg Bool.false_ne_true, survivingOf, List.map_flatMap]
    simp only [List.map_map, Function.comp_def, List.length_cons]

/-- A difference shows its own changes and those that survive in it, unless it is hidden. -/
theorem TypeDifference.surviving_eq (difference : TypeDifference) :
    difference.surviving =
      if difference.isSuppressed then []
      else difference.finding.changes.map (fun change => (0, change)) ++
        difference.inside.surviving.map fun entry => (entry.1 + 1, entry.2) := by
  have whole : difference.surviving = survivingOf [([], difference.finding)] ++
      survivingOf (difference.inside.located.map fun entry =>
        (difference.finding :: entry.1, entry.2)) := by
    rw [← survivingOf_append]
    rfl
  rw [whole, survivingOf_inside, isSuppressed]
  cases hidden : difference.finding.isSuppressed with
  | true =>
    rw [survivingOf, List.filter_cons_of_neg (by simp [survives, hidden])]
    rfl
  | false =>
    rw [survivingOf, List.filter_cons_of_pos (by simp [survives, hidden]), List.filter_nil,
      List.flatMap_cons, List.flatMap_nil, List.append_nil]
    rfl

/-- What survives in findings survives in the first one or in the others. -/
theorem Findings.surviving_cons (role : String) (finding : Finding) (inside beside : Findings) :
    (Findings.cons role finding inside beside).surviving =
      (⟨finding, inside⟩ : TypeDifference).surviving ++ beside.surviving := by
  rw [surviving, located, survivingOf_append]
  rfl

/-- Something is left to report of a difference exactly if something survives in it, provided that this
holds of what is inside it. -/
theorem TypeDifference.isReportable_iff_of_inside {difference : TypeDifference}
    (inside : difference.inside.anyReportable = true ↔ difference.inside.surviving ≠ []) :
    difference.isReportable = true ↔ difference.surviving ≠ [] := by
  rw [surviving_eq, isReportable, Bool.and_eq_true, Bool.or_eq_true, inside, Bool.not_eq_true',
    Bool.not_eq_true', List.isEmpty_eq_false_iff]
  cases difference.isSuppressed with
  | true => simp only [Bool.true_eq_false, false_and, if_true, ne_eq, not_true_eq_false]
  | false =>
    simp only [Bool.false_eq_true, if_false, true_and, ne_eq, List.append_eq_nil_iff,
      List.map_eq_nil_iff, not_and_or]

/-- Something is left to report in findings exactly if something survives in them. -/
theorem Findings.anyReportable_iff (findings : Findings) :
    findings.anyReportable = true ↔ findings.surviving ≠ [] := by
  induction findings with
  | empty => exact ⟨fun impossible => by contradiction, fun impossible => absurd rfl impossible⟩
  | cons role finding inside beside ofInside ofBeside =>
    have first := @TypeDifference.isReportable_iff_of_inside ⟨finding, inside⟩ ofInside
    rw [surviving_cons, ne_eq, List.append_eq_nil_iff, not_and_or, ← ne_eq, ← ne_eq, ← first, ← ofBeside,
      ← Bool.or_eq_true]
    rfl

/-- Something is left to report of a difference exactly if something survives in it. -/
theorem TypeDifference.isReportable_iff (difference : TypeDifference) :
    difference.isReportable = true ↔ difference.surviving ≠ [] :=
  isReportable_iff_of_inside difference.inside.anyReportable_iff

namespace Report

/-! ## Lines that tell a change of a type -/

/-- What a change of a type in words begins with. -/
def changeOpenings : List String :=
  ["type kind changed from ", "type name changed from '", "type size changed from ",
    "type became declaration-only", "type is no longer declaration-only", "qualifiers changed from '",
    "lvalue reference became rvalue reference", "rvalue reference became lvalue reference",
    "array bound changed from ", "data member '", "enumerator '", "parameter count changed from ",
    "function type became variadic", "function type is no longer variadic"]

/-- Whether a line tells a change of a type, however far it is indented. That a finding without changes of
its own goes by another name now is mentioned in other words, and is none. -/
def tellsTypeChange (line : String) : Bool :=
  changeOpenings.any fun opening => opening.toList.isPrefixOf (line.toList.dropWhile (· == ' '))

/-- A text begins with some letters. -/
def Begins (start : List Char) (text : String) : Prop := start <+: text.toList

theorem Begins.refl (text : String) : Begins text.toList text := List.prefix_rfl

theorem Begins.append {start : List Char} {text : String} (begins : Begins start text) (more : String) :
    Begins start (text ++ more) := by
  rw [Begins, String.toList_append]
  exact begins.trans (List.prefix_append _ _)

/-- A change in words begins with one of the openings. -/
theorem exists_opening (change : TypeChange) :
    ∃ opening ∈ changeOpenings, Begins opening.toList change.text := by
  cases change with
  | sort old new =>
    exact ⟨"type kind changed from ", by simp [changeOpenings],
      (((Begins.refl _).append _).append _).append _⟩
  | renamed old new =>
    exact ⟨"type name changed from '", by simp [changeOpenings],
      ((((Begins.refl _).append _).append _).append _).append _⟩
  | resized old new =>
    exact ⟨"type size changed from ", by simp [changeOpenings],
      ((((Begins.refl _).append _).append _).append _).append _⟩
  | completeness isDeclaration =>
    cases isDeclaration with
    | true => exact ⟨"type became declaration-only", by simp [changeOpenings], .refl _⟩
    | false => exact ⟨"type is no longer declaration-only", by simp [changeOpenings], .refl _⟩
  | requalified old new =>
    exact ⟨"qualifiers changed from '", by simp [changeOpenings],
      ((((Begins.refl _).append _).append _).append _).append _⟩
  | referenceSort isRvalue =>
    cases isRvalue with
    | true => exact ⟨"lvalue reference became rvalue reference", by simp [changeOpenings], .refl _⟩
    | false => exact ⟨"rvalue reference became lvalue reference", by simp [changeOpenings], .refl _⟩
  | arrayBound old new =>
    exact ⟨"array bound changed from ", by simp [changeOpenings],
      (((Begins.refl _).append _).append _).append _⟩
  | memberAdded name type offset =>
    exact ⟨"data member '", by simp [changeOpenings],
      ((((((Begins.refl _).append _).append _).append _).append _).append _).append _⟩
  | memberRemoved name type offset =>
    exact ⟨"data member '", by simp [changeOpenings],
      ((((((Begins.refl _).append _).append _).append _).append _).append _).append _⟩
  | memberMoved name old new =>
    exact ⟨"data member '", by simp [changeOpenings],
      ((((((Begins.refl _).append _).append _).append _).append _).append _).append _⟩
  | enumeratorAdded name value =>
    exact ⟨"enumerator '", by simp [changeOpenings],
      ((((Begins.refl _).append _).append _).append _).append _⟩
  | enumeratorRemoved name value =>
    exact ⟨"enumerator '", by simp [changeOpenings],
      ((((Begins.refl _).append _).append _).append _).append _⟩
  | enumeratorRevalued name old new =>
    exact ⟨"enumerator '", by simp [changeOpenings],
      (((((Begins.refl _).append _).append _).append _).append _).append _⟩
  | parameterCount old new =>
    exact ⟨"parameter count changed from ", by simp [changeOpenings],
      (((Begins.refl _).append _).append _).append _⟩
  | variadic isVariadic =>
    cases isVariadic with
    | true => exact ⟨"function type became variadic", by simp [changeOpenings], .refl _⟩
    | false => exact ⟨"function type is no longer variadic", by simp [changeOpenings], .refl _⟩

/-- Whether some letters begin with one that is not blank. -/
def beginsSolid (start : List Char) : Bool := start.head?.any (· != ' ')

/-- Behind its indentation a line has its text, if that does not begin with a blank. -/
theorem dropWhile_indented {start : List Char} {text : String} (begins : Begins start text)
    (solid : beginsSolid start = true) (indent : Nat) :
    (indented indent text).toList.dropWhile (· == ' ') = text.toList := by
  obtain ⟨rest, written⟩ := begins
  rw [indented, String.toList_append, String.toList_ofList, List.dropWhile_append_of_pos, ← written]
  · cases start with
    | nil => contradiction
    | cons first others =>
      rw [List.cons_append, List.dropWhile_cons_of_neg]
      simpa [beginsSolid] using solid
  · intro blank member
    rw [List.eq_of_mem_replicate member]
    rfl

/-- The line of a change tells it. -/
theorem tellsTypeChange_change (indent : Nat) (change : TypeChange) :
    tellsTypeChange (indented indent change.text) = true := by
  have solid : ∀ opening ∈ changeOpenings, beginsSolid opening.toList = true := by
    decide +kernel
  obtain ⟨opening, member, begins⟩ := exists_opening change
  rw [tellsTypeChange, dropWhile_indented begins (solid opening member), List.any_eq_true]
  exact ⟨opening, member, List.isPrefixOf_iff_prefix.mpr begins⟩

/-- No opening of a change begins with some letters, and these do not begin with one. -/
def IsApart (start : List Char) : Prop :=
  ∀ opening ∈ changeOpenings, ¬opening.toList <+: start ∧ ¬start <+: opening.toList

/-- A line whose text begins with other letters than a change tells none. -/
theorem tellsTypeChange_of_isApart {start : List Char} {text : String} (begins : Begins start text)
    (solid : beginsSolid start = true) (apart : IsApart start) (indent : Nat) :
    tellsTypeChange (indented indent text) = false := by
  rw [tellsTypeChange, dropWhile_indented begins solid, List.any_eq_false]
  intro opening member opens
  rcases List.prefix_or_prefix_of_prefix (List.isPrefixOf_iff_prefix.mp opens) begins with one | other
  · exact (apart opening member).1 one
  · exact (apart opening member).2 other

instance (start : List Char) : Decidable (IsApart start) :=
  List.decidableBAll _ changeOpenings

/-- What other lines of an entry begin with, apart from those about parameters. -/
def otherOpenings : List String :=
  ["in ", "return type changed", "type of variable changed", "type changed from '",
    "symbol version changed from '", "symbol binding changed from ", "symbol type changed from ",
    "symbol visibility changed from ", "size of symbol changed from "]

/-- Lines that begin in another way tell no change of a type. -/
theorem tellsTypeChange_of_mem {opening text : String} (member : opening ∈ otherOpenings)
    (begins : Begins opening.toList text) (indent : Nat) :
    tellsTypeChange (indented indent text) = false := by
  have apart : ∀ opening ∈ otherOpenings,
      beginsSolid opening.toList = true ∧ IsApart opening.toList := by
    decide +kernel
  exact tellsTypeChange_of_isApart begins (apart opening member).1 (apart opening member).2 indent

/-- Lines about parameters tell no change of a type: a number follows, and no count. -/
theorem tellsTypeChange_parameter {index : Nat} {text : String}
    (begins : Begins ("parameter " ++ toString (index + 1)).toList text) (indent : Nat) :
    tellsTypeChange (indented indent text) = false := by
  obtain ⟨digit, digits, written, isDigit⟩ := exists_digit (index + 1)
  replace begins : Begins ("parameter ".toList ++ [digit]) text := by
    refine List.IsPrefix.trans ?_ begins
    rw [String.toList_append, written]
    exact ⟨digits, by rw [List.append_assoc, List.singleton_append]⟩
  have longer : ∀ opening ∈ changeOpenings, 11 < opening.toList.length ∧
      ("parameter ".toList <+: opening.toList → opening.toList[10]?.all (!·.isDigit) = true) := by
    decide +kernel
  refine tellsTypeChange_of_isApart begins rfl (fun opening member => ⟨?_, ?_⟩) indent
  · intro short
    exact absurd short.length_le (Nat.not_le.mpr (longer opening member).1)
  · rintro ⟨others, same⟩
    have next : opening.toList[10]? = some digit := by
      rw [← same]
      rfl
    have noDigit := (longer opening member).2 ⟨digit :: others, by rw [← same, List.append_assoc]; rfl⟩
    rw [next, Option.all_some, isDigit] at noDigit
    exact Bool.false_ne_true noDigit

/-! ## The lines of a tree -/

/-- The line of a change that survives somewhere below a heading. -/
def survivingLine (indent : Nat) (entry : Nat × TypeChange) : String :=
  indented (indent + 2 + 2 * entry.1) entry.2.text

/-- The lines of changes one step deeper are those of the changes below a heading one step deeper. -/
theorem map_survivingLine_deeper (indent : Nat) (surviving : List (Nat × TypeChange)) :
    (surviving.map fun entry => (entry.1 + 1, entry.2)).map (survivingLine indent) =
      surviving.map (survivingLine (indent + 2)) := by
  rw [List.map_map]
  refine List.map_congr_left fun entry _ => ?_
  simp only [Function.comp_apply, survivingLine, Nat.mul_succ]
  congr 1
  omega

/-- The lines about the types of a finding that tell a change are those of its changes. -/
theorem filter_findingLines (indent : Nat) (finding : Finding) :
    (findingLines indent finding).filter tellsTypeChange =
      finding.changes.map fun change => indented indent change.text := by
  have mention : tellsTypeChange (indented indent
      s!"type changed from '{finding.oldName}' to '{finding.newName}'") = false :=
    tellsTypeChange_of_mem (by simp [otherOpenings])
      (((((Begins.refl "type changed from '").append _).append _).append _).append _) indent
  have renamed : (if finding.oldName != finding.newName && finding.changes.isEmpty then
      [indented indent s!"type changed from '{finding.oldName}' to '{finding.newName}'"]
      else []).filter tellsTypeChange = [] := by
    split
    · rw [List.filter_cons, mention, if_neg Bool.false_ne_true, List.filter_nil]
    · rfl
  rw [findingLines, List.filter_append, renamed, List.nil_append, List.filter_eq_self]
  intro line member
  obtain ⟨change, _, rfl⟩ := List.mem_map.mp member
  exact tellsTypeChange_change indent change

variable {options : Options}

/-- Below a heading that tells no change of a type, the lines that do are those of the changes that
survive, provided that this holds of what is inside.

Proof: a finding that is hidden shows nothing and has nothing that survives. The same goes for one of
which nothing is left to report. -/
theorem filter_typeLines_of_inside (hides : options.showSuppressed = false) {indent : Nat}
    {heading : String} (other : tellsTypeChange (indented indent (heading ++ ":")) = false)
    {difference : TypeDifference}
    (inside : (findingsLines options (indent + 2) difference.inside).filter tellsTypeChange =
      difference.inside.surviving.map (survivingLine (indent + 2))) :
    (typeLines options indent heading difference).filter tellsTypeChange =
      difference.surviving.map (survivingLine indent) := by
  rw [typeLines, headingOf, hides, if_neg Bool.false_ne_true, Bool.or_false]
  cases reportable : difference.isReportable with
  | false =>
    have nothing : difference.surviving = [] := by
      rw [← Bool.not_eq_true, difference.isReportable_iff, not_not] at reportable
      exact reportable
    rw [nothing, if_neg Bool.false_ne_true, ite_self]
    rfl
  | true =>
    have shown : difference.isSuppressed = false := by
      rw [TypeDifference.isReportable, Bool.and_eq_true, Bool.not_eq_true'] at reportable
      exact reportable.1
    rw [shown, if_neg Bool.false_ne_true, if_pos rfl, difference.surviving_eq, shown,
      if_neg Bool.false_ne_true, List.map_append, map_survivingLine_deeper, ← inside, List.map_map]
    dsimp only
    rw [List.filter_cons, other, if_neg Bool.false_ne_true, List.filter_append, filter_findingLines]
    rfl

/-- Of the lines of findings, those that tell a change are the changes that survive.

Proof: by induction over the findings. All headings of parts begin alike. -/
theorem filter_findingsLines (hides : options.showSuppressed = false) (indent : Nat)
    (findings : Findings) :
    (findingsLines options indent findings).filter tellsTypeChange =
      findings.surviving.map (survivingLine indent) := by
  induction findings generalizing indent with
  | empty => rfl
  | cons role finding inside beside ofInside ofBeside =>
    have other : tellsTypeChange (indented indent (partHeading options role finding ++ ":")) = false :=
      tellsTypeChange_of_mem (by simp [otherOpenings])
        (((((((Begins.refl "in ").append _).append _).append _).append _).append _).append _) indent
    rw [findingsLines_cons, List.filter_append, Findings.surviving_cons, List.map_append,
      ofBeside indent, filter_typeLines_of_inside hides other (ofInside (indent + 2))]

/-- Below a heading that tells no change of a type, the lines that do are those of the changes that
survive. -/
theorem filter_typeLines (hides : options.showSuppressed = false) {indent : Nat} {heading : String}
    (other : tellsTypeChange (indented indent (heading ++ ":")) = false) (difference : TypeDifference) :
    (typeLines options indent heading difference).filter tellsTypeChange =
      difference.surviving.map (survivingLine indent) :=
  filter_typeLines_of_inside hides other (filter_findingsLines hides _ _)

end Report

end Abiscope
