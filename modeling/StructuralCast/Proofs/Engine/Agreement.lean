import StructuralCast.Proofs.Engine.Answers
import StructuralCast.Proofs.Engine.Delegates
import StructuralCast.Proofs.Engine.Preparation
import StructuralCast.Proofs.Engine.Synthesis

/-!
Contract: two engines that are asked for the same.

Engines over one registry may have answered different questions, and one may widen while the other does
not. On a shape that asks for no events all of them are of one mind, if the registry has plain bases:
either all hand out a factory for a source, or all refuse for the same cause (`Reachable.agree_factory`).
Events are left out because a factory may relay them, or fail to, according to the type that it is made
for. About delegate types all engines are of one mind (`Reachable.agree_delegateFactory`).
-/

namespace StructuralCast

open Step

namespace Registry

variable {registry : Registry} {shape source : TypeId}

/-- A shape that asks for no events. -/
def Quiet (registry : Registry) (shape : TypeId) : Prop :=
  ∀ members, registry.shapeMembers shape = .ok members →
    ∀ required ∈ members, required.member.kind ≠ .event

/-- A target of casts that all engines over a registry are of one mind about. -/
def Unanimous (registry : Registry) (target : TypeId) : Prop :=
  registry.PlainBases ∧ registry.Quiet target

theorem Quiet.not_strands (quiet : registry.Quiet shape) (onStatic : Bool) :
    ¬ registry.Strands onStatic shape source := by
  rintro ⟨members, declaring, required, _, found, isRequired, _⟩
  exact quiet members found _ isRequired rfl

end Registry

namespace Engine

variable {registry : Registry} {engine engine' : Engine} {shape source target : TypeId}

/-- Where a sound engine hands out a factory, the source offers what the shape asks for: the factory
was generated for a type above it, if not for the source itself. -/
theorem Sound.fulfils_of_factory {after : Engine} (sound : engine.Sound registry)
    (orderly : registry.Orderly) (plain : engine.config.widen = true → registry.PlainBases)
    {made : Factory} (hands : (factory registry shape source).run engine = (.ok made, after)) :
    registry.Fulfils registry.Conforms false shape source := by
  obtain ⟨_, _, same⟩ := sound.factory_eq orderly plain shape source
  have finds : engine.mostGeneral registry shape source = .ok made := by
    rw [same] at hands
    exact (Prod.mk.inj hands).1
  obtain ⟨candidate, member, generates⟩ := Registry.exists_of_firstGenerated finds
  have fulfilled := Registry.fulfils_of_generated generates
  have isCandidate := mem_candidates_iff.1 member
  by_cases widens : engine.config.widen = true
  · exact fulfilled.of_mem_chain orderly (plain widens) (mem_chain_of_mem_candidates isCandidate)
  · rw [candidates, if_neg widens, List.mem_singleton] at isCandidate
    exact isCandidate ▸ fulfilled

/-- A reachable engine that suits its registry hands out a factory for a quiet shape if the source
offers what the shape asks for. -/
theorem Reachable.factory_of_fulfils (reachable : Reachable registry engine)
    (orderly : registry.Orderly) (plain : registry.PlainBases) (quiet : registry.Quiet shape)
    (fulfilled : registry.Fulfils registry.Conforms false shape source) (cause : CastError) :
    ((factory registry shape source).run engine).1 ≠ .error cause := by
  intro refuses
  have sound := reachable.sound orderly fun _ => plain
  obtain ⟨after, _, same⟩ := sound.factory_eq orderly (fun _ => plain) shape source
  have unplanned : registry.generated engine.id shape source = .error cause := by
    rw [same] at refuses
    exact Registry.generated_of_firstGenerated refuses
  obtain ⟨blueprint, resolves⟩ := Registry.resolved_of_fulfils fulfilled
  have planning : registry.synthesize engine.id blueprint = .error cause := by
    rw [← unplanned, Registry.generated, resolves]
    rfl
  obtain ⟨found, wanted, rfl⟩ := Registry.synthesize_eq_error planning
  have affirmable := (reachable.evolved orderly.grown).affirmable
  exact quiet.not_strands false (strands_of_factory affirmable refuses)

/-- Engines over one registry hand out factories of a quiet shape together, or refuse together. -/
theorem Reachable.agree_factory (reachable : Reachable registry engine)
    (reachable' : Reachable registry engine') (orderly : registry.Orderly)
    (unanimous : registry.Unanimous shape) (source : TypeId) :
    Agree False (fun _ _ => True) ((factory registry shape source).run engine).1
      ((factory registry shape source).run engine').1 := by
  obtain ⟨plain, quiet⟩ := unanimous
  have fulfilled : ∀ {asked : Engine} {made : Factory}, Reachable registry asked →
      ((factory registry shape source).run asked).1 = .ok made →
        registry.Fulfils registry.Conforms false shape source := by
    intro asked made reachable hands
    exact (reachable.sound orderly fun _ => plain).fulfils_of_factory orderly (fun _ => plain)
      (Prod.ext hands rfl)
  have unplanned : ∀ {asked : Engine} {cause : CastError}, Reachable registry asked →
      ((factory registry shape source).run asked).1 = .error cause →
        registry.generated asked.id shape source = .error cause := by
    intro asked cause reachable refuses
    obtain ⟨after, _, same⟩ :=
      (reachable.sound orderly fun _ => plain).factory_eq orderly (fun _ => plain) shape source
    rw [same] at refuses
    exact Registry.generated_of_firstGenerated refuses
  cases first : ((factory registry shape source).run engine).1 with
  | ok made =>
      cases second : ((factory registry shape source).run engine').1 with
      | ok made' => exact .ok trivial
      | error cause =>
          exact absurd second (reachable'.factory_of_fulfils orderly plain quiet
            (fulfilled reachable first) cause)
  | error cause =>
      cases second : ((factory registry shape source).run engine').1 with
      | ok made' =>
          exact absurd first (reachable.factory_of_fulfils orderly plain quiet
            (fulfilled reachable' second) cause)
      | error cause' =>
          have same : registry.generated engine'.id shape source = _ :=
            Registry.generated_rename engine.id engine'.id shape source
          rw [unplanned reachable first, unplanned reachable' second] at same
          obtain rfl : cause' = cause := Except.error.inj same
          exact .error cause'

/-- Engines over one registry hand out delegate factories together, or refuse together. -/
theorem Reachable.agree_delegateFactory (reachable : Reachable registry engine)
    (reachable' : Reachable registry engine') (orderly : registry.Orderly)
    (plain : registry.PlainBases) (target source : TypeId) :
    Agree False (fun _ _ => True) ((delegateFactory registry target source).run engine).1
      ((delegateFactory registry target source).run engine').1 := by
  rw [reachable.delegateFactory_eq orderly fun _ => plain,
    reachable'.delegateFactory_eq orderly fun _ => plain]
  unfold delegateGenerated
  split
  case isFalse => exact .error _
  case isTrue =>
    rw [Registry.synthesizeDelegate_rename engine.id engine'.id]
    cases registry.synthesizeDelegate engine.id target source with
    | ok made => exact .ok trivial
    | error cause => exact .error cause

end Engine
end StructuralCast
