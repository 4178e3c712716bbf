import StructuralCast.Proofs.Engine.Constancy
import StructuralCast.Proofs.Engine.Replay
import StructuralCast.Proofs.Inquiry.Optimum

/-!
Contract: which of several overloads an engine binds to a method that is asked for.

`Engine.bestMethod` is resolution of one method where nothing is under analysis yet. It stores verdicts
from one comparison to the next, but the engine answers alike all the while (`analyzing_eval`), so the
order of the comparisons is of no account. `bestMethod_foremost` says which method comes out, in terms of
what the engine says of casts between the types of the methods: of those that serve, the first of the
closest ones, and in any case one with the very types that are asked for, if there is one.
-/

namespace StructuralCast.Engine

open Resolution Inquiry

variable {registry : Registry} {engine : Engine}

/-- The method of a source type that serves a required one best. -/
def bestMethod (registry : Registry) (onStatic : Bool) (source : TypeId) (required : Method) :
    StateM Engine (Option Method) :=
  analyzing registry fun setting =>
    Resolution.bestMethod registry (ask setting) onStatic (Offer.of registry source onStatic) required

/-- A method that fits in all but its types, and whose types can be cast. -/
def Serviceable (registry : Registry) (engine : Engine) (onStatic : Bool)
    (required candidate : Method) : Prop :=
  Eligible required onStatic candidate ∧
    ∀ pair ∈ correspondence required candidate, (canCast registry pair.1 pair.2 engine).1 = true

/-- A public method that is declared just as it is required. -/
def declaresAlike (required : Method) (onStatic : Bool) (candidate : Method) : Bool :=
  candidate.isStatic = onStatic && candidate.isPublic && candidate.name = required.name &&
    candidate.genericArity = required.genericArity && candidate.params = required.params &&
    candidate.result = required.result

theorem declaresAlike_iff {required candidate : Method} {onStatic : Bool} :
    declaresAlike required onStatic candidate = true ↔
      Eligible required onStatic candidate ∧ SameTypes required candidate := by
  simp only [declaresAlike, Eligible, SameTypes, Bool.and_eq_true, decide_eq_true_eq]
  constructor
  · rintro ⟨⟨⟨⟨⟨side, visible⟩, name⟩, arity⟩, params⟩, result⟩
    exact ⟨⟨side, visible, name, arity, congrArg List.length params⟩, params, result⟩
  · rintro ⟨⟨side, visible, name, arity, _⟩, params, result⟩
    exact ⟨⟨⟨⟨⟨side, visible⟩, name⟩, arity⟩, params⟩, result⟩

/-- All types that an offered method mentions have been given out. -/
theorem issued_of_offered (grown : registry.Grown) {source : TypeId} {onStatic : Bool}
    {candidate : Method} (offered : candidate ∈ (Offer.of registry source onStatic).methods)
    {type : TypeId} (mentioned : type ∈ candidate.params ++ [candidate.result]) :
    registry.issued type = true := by
  have isMember : Member.method candidate ∈ (Offer.of registry source onStatic).members :=
    List.mem_append_left _ (List.mem_append_left _ (List.mem_map_of_mem offered))
  obtain ⟨owner, _, declared, _⟩ := Registry.mem_offer_iff.1 isMember
  exact grown.closed owner type (Definition.mem_referencedTypes_of_member declared mentioned)

section Overload

variable {onStatic : Bool} {source : TypeId} {required : Method}

theorem bestMethod_eq : bestMethod registry onStatic source required =
    analyzing registry fun setting => (Resolution.bestMethod registry question onStatic
      (Offer.of registry source onStatic) required).interpret (ask setting) := by
  simp only [bestMethod, interpret_bestMethod]

/-- For a method whose types the registry knows, casts say the same as answers. -/
theorem serviceable_iff (grown : registry.Grown)
    (issued : ∀ type ∈ required.params ++ [required.result], registry.issued type = true)
    {candidate : Method} (offered : candidate ∈ (Offer.of registry source onStatic).methods) :
    Serviceable registry engine onStatic required candidate ↔
      (Member.method required).Serves (fun target source => answer registry engine target source = true)
        onStatic (.method candidate) := by
  refine and_congr_right fun _ => forall₂_congr fun pair member => ?_
  have known : knows registry pair.1 pair.2 = true := by
    rw [knows, Bool.and_eq_true]
    rcases List.mem_append.1 member with ofParams | ofResult
    · obtain ⟨left, right⟩ := List.of_mem_zip ofParams
      exact ⟨issued_of_offered grown offered (List.mem_append_left _ left),
        issued _ (List.mem_append_left _ right)⟩
    · rw [List.mem_singleton.1 ofResult]
      exact ⟨issued _ (List.mem_append_right _ List.mem_cons_self),
        issued_of_offered grown offered (List.mem_append_right _ List.mem_cons_self)⟩
  rw [canCast_eq_answer, known, Bool.true_and]

/-- Types that the registry knows can be cast to themselves. -/
theorem canCast_self {id : TypeId} (issued : registry.issued id = true) :
    (canCast registry id id engine).1 = true := by
  rw [canCast_eq_answer, knows, issued]
  show (Compatibility.compatible _ [] false id id _).1 = true
  rw [Compatibility.compatible_apply, if_pos rfl]

/-- A method that is declared just as required can serve. -/
theorem serviceable_of_declaresAlike
    (issued : ∀ type ∈ required.params ++ [required.result], registry.issued type = true)
    {candidate : Method} (alike : declaresAlike required onStatic candidate = true) :
    Serviceable registry engine onStatic required candidate := by
  obtain ⟨eligible, sameTypes⟩ := declaresAlike_iff.1 alike
  refine ⟨eligible, fun pair member => ?_⟩
  obtain ⟨same, mentioned⟩ := eq_of_mem_correspondence sameTypes member
  rw [← same]
  exact canCast_self (issued _ mentioned)

/-- The outcome of resolution is the one that the answers of the engine admit. -/
theorem outcome_of_bestMethod (refuting : registry.Refuting engine.verdicts) (onStatic : Bool)
    (source : TypeId) (required : Method) :
    Outcome (fun target source reply => reply = answer registry engine target source)
      (Resolution.bestMethod registry question onStatic (Offer.of registry source onStatic) required)
      (bestMethod registry onStatic source required engine).1 := by
  rw [bestMethod_eq, analyzing_eval refuting]
  exact outcome_eval _ _

section Choice

variable (grown : registry.Grown) (refuting : registry.Refuting engine.verdicts)
  (issued : ∀ type ∈ required.params ++ [required.result], registry.issued type = true)

include grown refuting issued

theorem foremost_of_engine {best : Method}
    (chosen : (bestMethod registry onStatic source required engine).1 = some best) :
    Foremost (Serviceable registry engine onStatic required) (totalCloseness registry required)
      (Offer.of registry source onStatic).methods best := by
  have outcome := outcome_of_bestMethod refuting onStatic source required
  rw [chosen] at outcome
  exact (foremost_of_bestMethod outcome).congr fun candidate offered =>
    (serviceable_iff grown issued offered).symm

theorem bestMethod_eq_none_iff : (bestMethod registry onStatic source required engine).1 = none ↔
    ∀ candidate ∈ (Offer.of registry source onStatic).methods,
      ¬ Serviceable registry engine onStatic required candidate := by
  constructor
  · intro none candidate offered serviceable
    have outcome := outcome_of_bestMethod refuting onStatic source required
    rw [none] at outcome
    refine denied_of_bestMethod (fun target source yes no => ?_) outcome candidate offered
      ((serviceable_iff grown issued offered).1 serviceable)
    exact absurd (no.trans yes) (by decide)
  · intro unserved
    cases chosen : (bestMethod registry onStatic source required engine).1 with
    | none => rfl
    | some best =>
        obtain ⟨before, after, split, serviceable, _⟩ :=
          foremost_of_engine grown refuting issued chosen
        exact absurd serviceable (unserved best (by rw [split]; simp))

/-- The first method that is declared just as required is chosen whatever else there is. -/
theorem bestMethod_of_declaresAlike {exact : Method}
    (first : (Offer.of registry source onStatic).methods.find? (declaresAlike required onStatic) =
      some exact) : (bestMethod registry onStatic source required engine).1 = some exact := by
  have alike := List.find?_some first
  have offered := List.mem_of_find?_eq_some first
  have serviceable : Serviceable registry engine onStatic required exact :=
    serviceable_of_declaresAlike issued alike
  cases chosen : (bestMethod registry onStatic source required engine).1 with
  | none =>
      exact absurd serviceable
        ((bestMethod_eq_none_iff grown refuting issued).1 chosen exact offered)
  | some best =>
      have foremost := foremost_of_engine grown refuting issued chosen
      have highest := foremost.le offered serviceable
      rw [totalCloseness_of_sameTypes (declaresAlike_iff.1 alike).2] at highest
      have zero := Int.le_antisymm (totalCloseness_nonpos required best) highest
      obtain ⟨before, after, split, ⟨eligible, compatible⟩, earlier, _⟩ := foremost
      have alikeBest : declaresAlike required onStatic best = true := by
        have length := eligible.2.2.2.2
        exact declaresAlike_iff.2 ⟨eligible, sameTypes_of_totalCloseness length zero⟩
      -- None before the chosen one is declared so, because it would be as close.
      have isFirst : (Offer.of registry source onStatic).methods.find?
          (declaresAlike required onStatic) = some best := by
        refine List.find?_eq_some_iff_append.2 ⟨alikeBest, before, after, split, fun other member => ?_⟩
        by_contra alikeOther
        simp only [Bool.not_eq_true', Bool.not_eq_false] at alikeOther
        have closer := earlier other member (serviceable_of_declaresAlike issued alikeOther)
        rw [totalCloseness_of_sameTypes (declaresAlike_iff.1 alikeOther).2, zero] at closer
        exact Int.lt_irrefl 0 closer
      rw [first] at isFirst
      exact congrArg some (Option.some.inj isFirst).symm

end Choice

/-- A choice that is made again is the same, and nothing changes any more; nor has it changed what the
engine says of casts. -/
theorem bestMethod_again (refuting : registry.Refuting engine.verdicts) :
    bestMethod registry onStatic source required (bestMethod registry onStatic source required engine).2 =
      bestMethod registry onStatic source required engine ∧
    ∀ left right, (canCast registry left right
      (bestMethod registry onStatic source required engine).2).1 = (canCast registry left right engine).1 := by
  rw [bestMethod_eq]
  refine ⟨analyzing_again _ (.refl _), fun left right => ?_⟩
  rw [canCast_eq_answer, canCast_eq_answer, answer_after refuting]

end Overload

/-- In every engine that operations lead to, overload resolution finds a method exactly if one can serve.
It finds the first of the closest ones, the first with the very types if there is one, and the same one
again. -/
theorem bestMethod_foremost (grown : registry.Grown) (reachable : Reachable registry engine)
    (onStatic : Bool) (source : TypeId) (required : Method)
    (issued : ∀ type ∈ required.params ++ [required.result], registry.issued type = true) :
    let offered := (Offer.of registry source onStatic).methods
    let choice := bestMethod registry onStatic source required engine
    (choice.1 = none ↔
      ∀ candidate ∈ offered, ¬ Serviceable registry engine onStatic required candidate) ∧
    (∀ best, choice.1 = some best →
      Foremost (Serviceable registry engine onStatic required) (totalCloseness registry required)
        offered best) ∧
    (∀ exact, offered.find? (declaresAlike required onStatic) = some exact →
      choice.1 = some exact) ∧
    bestMethod registry onStatic source required choice.2 = choice ∧
    ∀ left right, (canCast registry left right choice.2).1 = (canCast registry left right engine).1 :=
  have refuting := reachable.refuting
  ⟨bestMethod_eq_none_iff grown refuting issued, fun _ => foremost_of_engine grown refuting issued,
    fun _ => bestMethod_of_declaresAlike grown refuting issued, bestMethod_again refuting⟩

/-! ### An instance -/

/-- A method that takes one argument. -/
def taking (param result : TypeId) (body : RoutineId) : Method :=
  ⟨"Take", [param], result, false, 0, .visible, some body⟩

/-- Class 17 descends from class 16. Class 18 takes any object, two ways a 16, and a 17 for a text. -/
def Registry.kennel : Registry :=
  let animal := (Registry.initial.register (.named "Animal") .classType Definition.empty).1
  let dog := (animal.register (.named "Dog") .classType
    { Definition.empty with base := some ⟨16⟩ }).1
  (dog.register (.named "Kennel") .classType
    { Definition.empty with
      methods := [taking .object .void ⟨0⟩, taking ⟨16⟩ .void ⟨1⟩, taking ⟨16⟩ .void ⟨2⟩,
        taking ⟨17⟩ .text ⟨3⟩] }).1

theorem Registry.kennel_grown : Registry.kennel.Grown :=
  ((Registry.Grown.initial.register _ _ _).register _ _ _).register _ _ _

/-- An engine that has been asked about the two classes. -/
def curious : Engine :=
  (canCast Registry.kennel ⟨16⟩ ⟨17⟩ (Engine.fresh ⟨0⟩ Config.standard)).2

/-- Where a 17 is to be taken for nothing, the first of the two ways to take a 16 is chosen. -/
theorem kennel_takes_nearest : Reachable Registry.kennel curious ∧
    (∀ type ∈ (taking ⟨17⟩ .void ⟨4⟩).params ++ [(taking ⟨17⟩ .void ⟨4⟩).result],
      Registry.kennel.issued type = true) ∧
    (bestMethod Registry.kennel false ⟨18⟩ (taking ⟨17⟩ .void ⟨4⟩) curious).1 =
      some (taking ⟨16⟩ .void ⟨1⟩) ∧
    Foremost (Serviceable Registry.kennel curious false (taking ⟨17⟩ .void ⟨4⟩))
      (totalCloseness Registry.kennel (taking ⟨17⟩ .void ⟨4⟩))
      (Offer.of Registry.kennel ⟨18⟩ false).methods (taking ⟨16⟩ .void ⟨1⟩) := by
  have reachable : Reachable Registry.kennel curious := .canCast (.fresh ⟨0⟩ Config.standard) ⟨16⟩ ⟨17⟩
  have issued : ∀ type ∈ (taking ⟨17⟩ .void ⟨4⟩).params ++ [(taking ⟨17⟩ .void ⟨4⟩).result],
      Registry.kennel.issued type = true := by decide +kernel
  have chosen : (bestMethod Registry.kennel false ⟨18⟩ (taking ⟨17⟩ .void ⟨4⟩) curious).1 =
      some (taking ⟨16⟩ .void ⟨1⟩) := by decide +kernel
  exact ⟨reachable, issued, chosen,
    (bestMethod_foremost Registry.kennel_grown reachable false ⟨18⟩ _ issued).2.1 _ chosen⟩

end StructuralCast.Engine
