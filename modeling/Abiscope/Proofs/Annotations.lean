import Abiscope.Proofs.FewerRules

/-!
# Suppressions only annotate

A suppression leaves a label on what it hides: on an entry, on a parameter, or on a finding anywhere in
the tree of a type. Nothing is left out for it and nothing is entered twice. So when all labels are
taken away, at every depth, the difference of two corpora is the one that is found without suppressions:
it has the same entries in the same order, and the same trees.
-/

namespace Abiscope

/-! ## Taking labels away -/

/-- A finding without its label. -/
def Finding.bare (finding : Finding) : Finding := { finding with suppressedBy := none }

/-- Findings without the labels at any depth. -/
def Findings.bare : Findings → Findings
  | .empty => .empty
  | .cons role finding inside beside => .cons role finding.bare inside.bare beside.bare

/-- A difference between types without the labels at any depth. -/
def TypeDifference.bare (difference : TypeDifference) : TypeDifference :=
  ⟨difference.finding.bare, difference.inside.bare⟩

/-- What happened to a parameter, without the labels in its type. -/
def ParameterChange.bare : ParameterChange → ParameterChange
  | .retyped difference => .retyped difference.bare
  | .added type => .added type
  | .removed type => .removed type

/-- A change of a parameter without its label and those in its type. -/
def ParameterDifference.bare (difference : ParameterDifference) : ParameterDifference :=
  { difference with change := difference.change.bare, suppressedBy := none }

/-- The changes of a function without its label and those of its parts. -/
def FunctionDifference.bare (difference : FunctionDifference) : FunctionDifference :=
  { difference with
    result := difference.result.map TypeDifference.bare
    parameters := difference.parameters.map ParameterDifference.bare
    suppressedBy := none }

/-- The changes of a variable without its label and those in its type. -/
def VariableDifference.bare (difference : VariableDifference) : VariableDifference :=
  { difference with type := difference.type.map TypeDifference.bare, suppressedBy := none }

/-- A symbol on one side only without its label. -/
def SymbolChange.bare (change : SymbolChange) : SymbolChange := { change with suppressedBy := none }

/-- What changed between two corpora, without any labels. -/
def Difference.bare (difference : Difference) : Difference :=
  { difference with
    removedFunctions := difference.removedFunctions.map bareEntity
    addedFunctions := difference.addedFunctions.map bareEntity
    changedFunctions := difference.changedFunctions.map FunctionDifference.bare
    removedVariables := difference.removedVariables.map bareEntity
    addedVariables := difference.addedVariables.map bareEntity
    changedVariables := difference.changedVariables.map VariableDifference.bare
    removedFunctionSymbols := difference.removedFunctionSymbols.map SymbolChange.bare
    addedFunctionSymbols := difference.addedFunctionSymbols.map SymbolChange.bare
    removedVariableSymbols := difference.removedVariableSymbols.map SymbolChange.bare
    addedVariableSymbols := difference.addedVariableSymbols.map SymbolChange.bare }

/-! ## What differs in labels only -/

/-- Related lists become equal by what makes related elements equal. -/
theorem map_eq_map_of_forall₂ {α β γ : Type} {related : α → β → Prop} {left : List α} {right : List β}
    {ofLeft : α → γ} {ofRight : β → γ} (pairs : List.Forall₂ related left right)
    (same : ∀ one other, related one other → ofLeft one = ofRight other) :
    left.map ofLeft = right.map ofRight := by
  induction pairs with
  | nil => rfl
  | cons head _ inductionHypothesis =>
    rw [List.map_cons, List.map_cons, same _ _ head, inductionHypothesis]

/-- Related values, or none, become equal by what makes related values equal. -/
theorem map_eq_map_of_rel {α β γ : Type} {related : α → β → Prop} {left : Option α}
    {right : Option β} {ofLeft : α → γ} {ofRight : β → γ} (pair : Option.Rel related left right)
    (same : ∀ one other, related one other → ofLeft one = ofRight other) :
    left.map ofLeft = right.map ofRight := by
  cases pair with
  | none => rfl
  | some pair => exact congrArg some (same _ _ pair)

variable {labels : Option String → Option String → Prop}

/-- Findings that are the same but for their labels are the same without them. -/
theorem Findings.Related.bare {left right : Findings} (related : left.Related labels right) :
    left.bare = right.bare := by
  induction related with
  | empty => rfl
  | cons role finding _ _ ofInside ofBeside =>
    rw [Findings.bare, Findings.bare, Finding.bare, Finding.bare, finding.same, ofInside, ofBeside]

/-- Differences that are the same but for their labels are the same without them. -/
theorem TypeDifference.Related.bare {left right : TypeDifference}
    (related : left.Related labels right) : left.bare = right.bare := by
  rw [TypeDifference.bare, TypeDifference.bare, Finding.bare, Finding.bare, related.finding.same,
    related.inside.bare]

/-- What happened to a parameter is the same without labels if its types differ in labels only. -/
theorem ParameterChange.Alike.bare {left right : ParameterChange}
    (alike : left.Alike (TypeDifference.Related labels) right) : left.bare = right.bare := by
  cases alike with
  | retyped agree => exact congrArg ParameterChange.retyped agree.bare
  | added type => rfl
  | removed type => rfl

/-- Changes of a parameter whose types differ in labels only differ in labels only. -/
theorem ParameterDifference.Alike.bare {left right : ParameterDifference}
    (alike : left.Alike (TypeDifference.Related labels) right) : left.bare = right.bare := by
  simp only [ParameterDifference.bare, alike.index, alike.name, alike.change.bare]

/-- Changes of a function whose types differ in labels only differ in labels only. -/
theorem FunctionDifference.Alike.bare {left right : FunctionDifference}
    (alike : left.Alike (TypeDifference.Related labels) right) : left.bare = right.bare := by
  have results := map_eq_map_of_rel alike.result fun _ _ => TypeDifference.Related.bare
  have parameters :=
    map_eq_map_of_forall₂ alike.parameters fun _ _ => ParameterDifference.Alike.bare
  simp only [FunctionDifference.bare, alike.text, alike.key, alike.location, alike.symbolChanges,
    results, parameters]

namespace Difference

open Suppression (Context FunctionFacts FunctionRule)

/-- A rule about parameters changes nothing but labels. -/
theorem bare_labelParameters (rule : FunctionRule) (facts : FunctionFacts)
    (parameters : List ParameterDifference) :
    (labelParameters rule facts parameters).map ParameterDifference.bare =
      parameters.map ParameterDifference.bare := by
  rw [labelParameters, List.map_map]
  refine List.map_congr_left fun parameter _ => ?_
  rw [Function.comp_apply]
  dsimp only
  split <;> rfl

/-- Rules change nothing about a function but labels. -/
theorem bare_labelFunction (context : Context) (facts : FunctionFacts) (rules : List FunctionRule)
    (difference : FunctionDifference) :
    (labelFunction context facts rules difference).bare = difference.bare := by
  induction rules generalizing difference with
  | nil => rfl
  | cons rule rest inductionHypothesis =>
    rw [labelFunction]
    split
    · split
      · rfl
      · exact inductionHypothesis difference
    · split
      · refine (inductionHypothesis _).trans ?_
        simp only [FunctionDifference.bare, bare_labelParameters]
      · exact inductionHypothesis difference

variable {few many : Context}

/-- Entries about a function that are made with related labels are the same without them. -/
theorem FunctionsRelated.bare {left right : FunctionDifference}
    (related : FunctionsRelated (TypeDifference.Related labels) few many left right) :
    left.bare = right.bare := by
  obtain ⟨facts, bareLeft, bareRight, alike, _, rfl, rfl⟩ := related
  rw [bare_labelFunction, bare_labelFunction, alike.bare]

/-- Entries about a variable that are made with related labels are the same without them. -/
theorem VariablesRelated.bare {left right : VariableDifference}
    (related : VariablesRelated (TypeDifference.Related labels) few many left right) :
    left.bare = right.bare := by
  obtain ⟨facts, bareLeft, bareRight, alike, _, rfl, rfl⟩ := related
  have types := map_eq_map_of_rel alike.type fun _ _ => TypeDifference.Related.bare
  simp only [VariableDifference.bare, alike.text, alike.key, alike.location, alike.symbolChanges,
    types]

/-- Symbols that are kept are the same without labels. -/
theorem SymbolsKept.bare {few many : List SymbolChange} (kept : SymbolsKept few many) :
    few.map SymbolChange.bare = many.map SymbolChange.bare :=
  map_eq_map_of_forall₂ kept fun _ _ entry => by
    rw [SymbolChange.bare, SymbolChange.bare, entry.same]

/-- Without labels the difference of two corpora is the one that is found without suppressions.

Proof: the rules of the empty list are among those of any other. So both comparisons have the same
entries in their places, and where types are compared, the two runs take the same steps, whatever labels
they leave. -/
theorem bare_ofCorpora (first second : Corpus) (suppressions : List Suppression)
    (options : Options) :
    (ofCorpora first second suppressions options).bare =
      (ofCorpora first second [] options).bare := by
  have within : (contextOf first []).Within (contextOf first suppressions) :=
    within_contextOf fun _ member => absurd member List.not_mem_nil
  have keeps := ofCorpora_keeps second options within
  obtain ⟨functions, globals⟩ := changed_related second options within
  have entities {few many : List EntityChange} (kept : EntitiesKept few many) :
      few.map bareEntity = many.map bareEntity :=
    map_eq_map_of_forall₂ kept fun _ _ entry => entry.same
  have changedFunctions := map_eq_map_of_forall₂ functions fun _ _ => FunctionsRelated.bare
  have changedVariables := map_eq_map_of_forall₂ globals fun _ _ => VariablesRelated.bare
  simp only [bare, keeps.soname, keeps.architecture, keeps.removedNeeded, keeps.addedNeeded,
    entities keeps.removedFunctions, entities keeps.addedFunctions, changedFunctions,
    entities keeps.removedVariables, entities keeps.addedVariables, changedVariables,
    keeps.removedFunctionSymbols.bare, keeps.addedFunctionSymbols.bare,
    keeps.removedVariableSymbols.bare, keeps.addedVariableSymbols.bare]
  rfl

end Difference

end Abiscope
