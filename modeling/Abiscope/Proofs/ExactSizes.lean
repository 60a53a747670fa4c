import Abiscope.Proofs.DifferenceTrees
import Abiscope.Proofs.SizeChains

/-!
# Exact sizes

The exact size of a type is a number without a bound: the size of an array with a known count is that of
its element as often as it counts. Sizing computes it in words of 64 bits. What it finds is always the exact
size, and where it overflows, some type that the size is made of has an exact size that no word holds. So
sizing finds every size that there is exactly if there are no such types, and then no comparison fails of
a product either.
-/

namespace Abiscope

namespace TypeGraph

open Relation (ReflTransGen)

variable {graph : TypeGraph} {id element settled total : Nat} {size count : UInt64} {overflow : Overflow}

/-- The exact size of a type in bits. -/
inductive HasSize (graph : TypeGraph) : Nat → Nat → Prop where
  | itself {id : Nat} {size : UInt64} (own : graph.ownSize? id = some size) :
      HasSize graph id size.toNat
  | behind {id base total : Nat} (leads : graph.StandsFor id base) (whole : HasSize graph base total) :
      HasSize graph id total
  | repeated {id element total : Nat} {count : UInt64}
      (repeats : (graph.node id).repeated? = some (element, count)) (each : HasSize graph element total) :
      HasSize graph id (total * count.toNat)

/-- A type has the size of the type to which aliases and qualifiers lead. -/
theorem HasSize.of_standsFor (path : ReflTransGen graph.StandsFor id settled)
    (whole : graph.HasSize settled total) : graph.HasSize id total := by
  induction path using ReflTransGen.head_induction_on with
  | refl => exact whole
  | head leads _ inductionHypothesis => exact .behind leads inductionHypothesis

/-- A type has a size exactly if its size rests on a type with a size of its own. -/
theorem exists_hasSize_iff :
    (∃ total, graph.HasSize id total) ↔
      ∃ other, ReflTransGen graph.RestsOn id other ∧ (graph.ownSize? other).isSome := by
  constructor
  · rintro ⟨total, exact⟩
    induction exact with
    | @itself id size own => exact ⟨id, .refl, own ▸ rfl⟩
    | behind leads _ inductionHypothesis =>
      obtain ⟨other, path, own⟩ := inductionHypothesis
      exact ⟨other, .head (.inl leads) path, own⟩
    | @repeated id element total count repeats _ inductionHypothesis =>
      obtain ⟨other, path, own⟩ := inductionHypothesis
      exact ⟨other, .head (.inr ⟨count, repeats⟩) path, own⟩
  · rintro ⟨other, path, own⟩
    induction path using ReflTransGen.head_induction_on with
    | refl =>
      obtain ⟨size, own⟩ := Option.isSome_iff_exists.mp own
      exact ⟨size.toNat, .itself own⟩
    | head step _ inductionHypothesis =>
      obtain ⟨total, exact⟩ := inductionHypothesis
      rcases step with leads | ⟨count, repeats⟩
      · exact ⟨total, .behind leads exact⟩
      · exact ⟨total * count.toNat, .repeated repeats exact⟩

/-! ## What sizing finds -/

/-- If an array with a known count is sized, its element is, and the size of the array is the product. -/
theorem exists_sizing_of_repeated? (repeats : (graph.node id).repeated? = some (element, count))
    (sized : graph.sizing id = some (.ok (some size))) :
    ∃ each, graph.sizing element = some (.ok (some each)) ∧ size.toNat = each.toNat * count.toNat := by
  rw [sizing_of_repeated? repeats, Option.map_eq_some_iff] at sized
  obtain ⟨ofElement, sizedElement, made⟩ := sized
  cases ofElement with
  | error overflow => cases made
  | ok size? =>
    obtain ⟨each, rfl, product⟩ := toNat_of_sizeOfAll made
    exact ⟨each, sizedElement, product⟩

/-- The size that is found is the exact one. -/
theorem HasSize.toNat_of_sizing (exact : graph.HasSize id total)
    (sized : graph.sizing id = some (.ok (some size))) : size.toNat = total := by
  induction exact generalizing size with
  | itself own =>
    rw [sizing_of_ownSize? own] at sized
    cases sized
    rfl
  | behind leads _ inductionHypothesis =>
    exact inductionHypothesis ((sizing_of_standsFor leads).symm.trans sized)
  | repeated repeats _ inductionHypothesis =>
    obtain ⟨each, sizedElement, product⟩ := exists_sizing_of_repeated? repeats sized
    rw [product, inductionHypothesis sizedElement]

/-- A type that has a size is sized, or a product overflows. -/
theorem HasSize.exists_sizing (exact : graph.HasSize id total) :
    (∃ size, graph.sizing id = some (.ok (some size))) ∨
      ∃ overflow, graph.sizing id = some (.error overflow) := by
  induction exact with
  | itself own => exact .inl ⟨_, sizing_of_ownSize? own⟩
  | behind leads _ inductionHypothesis => rwa [sizing_of_standsFor leads]
  | @repeated id element total count repeats _ inductionHypothesis =>
    rw [sizing_of_repeated? repeats]
    rcases inductionHypothesis with ⟨each, sized⟩ | ⟨overflow, fails⟩
    · rw [sized, Option.map_some, Except.bind]
      by_cases fits : each.toNat * count.toNat < UInt64.size
      · exact .inl ⟨_, congrArg some (sizeOfAll_of_lt fits)⟩
      · exact .inr ⟨_, by rw [sizeOfAll, dif_neg fits]⟩
    · rw [fails]
      exact .inr ⟨overflow, rfl⟩

/-- What an outcome of sizing says about a type: a size that is found is the exact one, and a product
overflows at an array that the size rests on, with the exact size of its element. -/
structure Accounts (graph : TypeGraph) (id : Nat) (outcome : Except Overflow (Option UInt64)) : Prop where
  found : ∀ size, outcome = .ok (some size) → graph.HasSize id size.toNat
  failed : ∀ overflow, outcome = .error overflow → ∃ array element,
    ReflTransGen graph.RestsOn id array ∧
      (graph.node array).repeated? = some (element, overflow.count) ∧
      graph.HasSize element overflow.size.toNat

/-- The outcome for a type is that for the type at which its walk ends. -/
theorem Accounts.of_settled? {bound : Nat} {outcome : Except Overflow (Option UInt64)}
    (settles : graph.settled? bound id = some settled) (accounts : graph.Accounts settled outcome) :
    graph.Accounts id outcome := by
  refine ⟨fun size made => ?_, fun overflow made => ?_⟩
  · exact .of_standsFor (reflTransGen_standsFor settles) (accounts.found size made)
  · obtain ⟨array, element, path, product⟩ := accounts.failed overflow made
    exact ⟨array, element, (reflTransGen_of_settled? settles).trans path, product⟩

/-- The outcome for an array with a known count is made of that for its element. -/
theorem Accounts.of_repeated? {ofElement : Except Overflow (Option UInt64)}
    (repeats : (graph.node id).repeated? = some (element, count))
    (accounts : graph.Accounts element ofElement) :
    graph.Accounts id (ofElement.bind (sizeOfAll count)) := by
  cases ofElement with
  | error overflow =>
    refine ⟨fun _ impossible => by contradiction, fun other made => ?_⟩
    obtain ⟨array, inner, path, product⟩ := accounts.failed other made
    exact ⟨array, inner, .head (.inr ⟨count, repeats⟩) path, product⟩
  | ok size? =>
    refine ⟨fun size made => ?_, fun overflow made => ?_⟩
    · obtain ⟨each, rfl, product⟩ := toNat_of_sizeOfAll made
      rw [product]
      exact .repeated repeats (accounts.found each rfl)
    · obtain ⟨rfl, rfl⟩ := eq_of_sizeOfAll_eq_error made
      exact ⟨id, element, .refl, repeats, accounts.found _ rfl⟩

/-- Every outcome of sizing accounts for the type, by induction on the calls. -/
theorem accounts_of_sizing {outcome : Except Overflow (Option UInt64)}
    (sized : graph.sizing id = some outcome) : graph.Accounts id outcome := by
  refine sizing.partial_correctness graph (fun id outcome => graph.Accounts id outcome) ?_ id _ sized
  intro inner inductionHypothesis id outcome made
  cases settles : graph.settled? (graph.size + 1) id with
  | none =>
    simp only [settles, Option.some.injEq] at made
    subst made
    refine ⟨fun size impossible => ?_, fun _ impossible => by contradiction⟩
    cases impossible
  | some settled =>
    refine .of_settled? settles ?_
    cases repeats : (graph.node settled).repeated? with
    | none =>
      simp only [settles, repeats, Option.some.injEq] at made
      subst made
      exact ⟨fun size own => .itself (Except.ok.inj own), fun _ impossible => by contradiction⟩
    | some each =>
      simp only [settles, repeats] at made
      obtain ⟨ofElement, sized, bound⟩ := Option.bind_eq_some_iff.mp made
      obtain rfl := Option.some.inj bound
      exact .of_repeated? repeats (inductionHypothesis each.1 ofElement sized)

/-- If a type is sized, so is everything that its size rests on. -/
theorem exists_sizing_of_path {other : Nat} (path : ReflTransGen graph.RestsOn id other)
    (sized : graph.sizing id = some (.ok (some size))) :
    ∃ size, graph.sizing other = some (.ok (some size)) := by
  induction path with
  | refl => exact ⟨size, sized⟩
  | tail _ step inductionHypothesis =>
    obtain ⟨before, sizedBefore⟩ := inductionHypothesis
    rcases step with leads | ⟨count, repeats⟩
    · exact ⟨before, (sizing_of_standsFor leads).symm.trans sizedBefore⟩
    · obtain ⟨each, sizedElement, _⟩ := exists_sizing_of_repeated? repeats sizedBefore
      exact ⟨each, sizedElement⟩

/-! ## Sizes that are too large -/

/-- A comparison sees the exact size of a type, and does not fail of an overflow at the type. Whatever was
compared before, and wherever the type stands in what is returned, it is never why that fails. -/
structure ComparesExactly (graph : TypeGraph) (id : Nat) : Prop where
  sees : ∀ comparison part changes inside, comparison.first = graph → part.old = id →
    ∀ total, graph.HasSize id total →
      (TypeComparison.factsOf comparison part changes inside).size.toNat = total
  passes : ∀ comparison : TypeComparison, comparison.first = graph →
    ∀ calls old new reach difference,
      (comparison.compare old new reach (comparison.memoryAfter calls)).1 = some difference →
        ∀ entry ∈ difference.located, entry.2.old = id →
          ∀ overflow, entry.2.failure? ≠ some (.overflow overflow)

/-- Sizing a type is exact: it finds a size exactly if the type has one, which is then the exact one, no
product overflows, and no comparison fails of one or sees another size. -/
structure SizesExactly (graph : TypeGraph) (id : Nat) : Prop where
  finds : ∀ total, graph.HasSize id total ↔
    ∃ size, graph.sizing id = some (.ok (some size)) ∧ size.toNat = total
  fits : ∀ overflow, graph.sizing id ≠ some (.error overflow)
  compares : graph.ComparesExactly id

/-- Sizing fails of an overflow exactly where it has that outcome. -/
theorem sizeFailure?_eq_overflow_iff :
    graph.sizeFailure? id = some (.overflow overflow) ↔ graph.sizing id = some (.error overflow) := by
  rw [sizeFailure?, sizeOf?]
  cases graph.sizing id with
  | none => simp
  | some outcome => cases outcome <;> simp [Except.mapError]

/-- If the exact size of a type is found, comparisons are exact about it. -/
theorem comparesExactly_of_finds
    (finds : ∀ total, graph.HasSize id total → ∃ size, graph.sizing id = some (.ok (some size)))
    (fits : ∀ overflow, graph.sizing id ≠ some (.error overflow)) : graph.ComparesExactly id := by
  constructor
  case sees =>
    rintro comparison part changes inside rfl rfl total exact
    obtain ⟨size, sized⟩ := finds total exact
    change ((comparison.first.sizeOf? part.old).toOption.join.getD 0).toNat = total
    rw [sizeOf?, sized]
    exact exact.toNat_of_sizing sized
  case passes =>
    rintro comparison rfl calls old new reach difference returned entry member rfl overflow
    obtain ⟨part, inside, judged⟩ :=
      (TypeComparison.foundFor_compare returned).exists_judged entry member
    rw [TypeComparison.failure?_of_judge judged]
    exact fun failed => fits overflow (sizeFailure?_eq_overflow_iff.mp failed)

/-- Sizing a type is exact exactly if none of the types that its size rests on, itself included, has a size
that is too large for a word. -/
theorem sizesExactly_iff (graph : TypeGraph) (id : Nat) :
    graph.SizesExactly id ↔
      ∀ other total, ReflTransGen graph.RestsOn id other → graph.HasSize other total →
        total < UInt64.size := by
  constructor
  · intro sizes other total path exact
    obtain ⟨last, toLast, own⟩ := exists_hasSize_iff.mp ⟨total, exact⟩
    obtain ⟨whole, exactWhole⟩ := exists_hasSize_iff.mpr ⟨last, path.trans toLast, own⟩
    obtain ⟨size, sized, _⟩ := (sizes.finds whole).mp exactWhole
    obtain ⟨found, sizedOther⟩ := exists_sizing_of_path path sized
    rw [← exact.toNat_of_sizing sizedOther]
    exact found.toNat_lt_size
  · intro small
    have fits (overflow : Overflow) : graph.sizing id ≠ some (.error overflow) := by
      intro fails
      obtain ⟨array, element, path, repeats, each⟩ := (accounts_of_sizing fails).failed overflow rfl
      exact Nat.not_lt.mpr overflow.isTooLarge (small array _ path (.repeated repeats each))
    have finds (total : Nat) (exact : graph.HasSize id total) :
        ∃ size, graph.sizing id = some (.ok (some size)) :=
      exact.exists_sizing.resolve_right fun ⟨overflow, fails⟩ => fits overflow fails
    refine ⟨fun total => ⟨fun exact => ?_, ?_⟩, fits, comparesExactly_of_finds finds fits⟩
    · obtain ⟨size, sized⟩ := finds total exact
      exact ⟨size, sized, exact.toNat_of_sizing sized⟩
    · rintro ⟨size, sized, rfl⟩
      exact (accounts_of_sizing sized).found size rfl

/-- An array of `2 ^ 59 + 1` values of 32 bits. -/
def manyValues : TypeGraph where
  nodes := #[.builtin "int" 32, .array 0 (some 576460752303423489)]

/-- The array has `2 ^ 64 + 32` bits, and sizing it overflows. -/
theorem manyValues_not_sizesExactly :
    manyValues.HasSize 1 (UInt64.size + 32) ∧
      (∃ overflow, manyValues.sizing 1 = some (.error overflow)) ∧ ¬ manyValues.SizesExactly 1 := by
  have exact : manyValues.HasSize 1 (UInt64.size + 32) :=
    @HasSize.repeated manyValues 1 0 32 576460752303423489 rfl (@HasSize.itself manyValues 0 32 rfl)
  have tooLarge (size : UInt64) : size.toNat ≠ UInt64.size + 32 := by
    have bound := size.toNat_lt_size
    omega
  refine ⟨exact, exact.exists_sizing.resolve_left fun ⟨size, sized⟩ => ?_, fun sizes => ?_⟩
  · exact tooLarge size (exact.toNat_of_sizing sized)
  · obtain ⟨size, _, found⟩ := (sizes.finds _).mp exact
    exact tooLarge size found

end TypeGraph

end Abiscope
