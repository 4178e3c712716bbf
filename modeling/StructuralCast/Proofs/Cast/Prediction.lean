import StructuralCast.Proofs.Cast.Repetition
import StructuralCast.Proofs.Engine.Agreement

/-!
Contract: a cast that succeeds was predicted.

Whatever a cast makes of a value, the type of the value and the target are compatible
(`compatible_of_cast`). So an engine that is asked whether the cast is possible says yes, be it asked
before the cast or after it, about the value or about its type (`canCast_of_cast`).
-/

namespace StructuralCast

open Step

namespace Cast

variable {σ : Type} {world asked after : World σ} {id : EngineId} {target source : TypeId}
  {value plain made : Value}

/-- A strategy makes something of a value only if the types conform. -/
theorem conforms_of_byStrategy (tended : world.Tended id) (orderly : world.registry.Orderly)
    (plainBases : (world.engine id).config.widen = true → world.registry.PlainBases)
    {strategy : Strategy} (claims : strategy.claims world.registry target source = true)
    (typed : plain.type? = some source)
    (casts : (byStrategy id target plain strategy).run world = (.ok made, after)) :
    world.registry.Conforms target source := by
  have sound := tended.reachable.sound orderly plainBases
  refine Registry.conforms_of_supports ?_
  cases strategy with
  | interface =>
      have isShape : world.registry.kind target = .interface := by
        simpa [Strategy.claims] using claims
      obtain ⟨factory, between, searches, _⟩ := adapts_of_interface casts
      rw [typed, Option.getD_some] at searches
      exact .shape isShape
        (sound.fulfils_of_factory orderly plainBases (Action.ok_of_withEngine searches))
  | delegate =>
      obtain ⟨c, factory, between, ref, rfl, searches, _⟩ := wraps_of_delegate casts
      obtain rfl : c.type = source := Option.some.inj typed
      exact (tended.reachable.conforms_of_delegateFactory orderly plainBases
        (Action.ok_of_withEngine searches)).supports
  | enumText =>
      refine .enumText ?_
      simpa [Strategy.claims] using claims
  | genericParam =>
      simp only [Strategy.claims, Bool.and_eq_true, decide_eq_true_eq] at claims
      obtain ⟨⟨⟨targetKind, sourceKind⟩, positioned⟩, samePosition⟩ := claims
      obtain ⟨position, found⟩ := Option.isSome_iff_exists.1 positioned
      exact .genericParam targetKind sourceKind position found (samePosition ▸ found)

/-- A cast succeeds only between compatible types. -/
theorem compatible_of_cast (tended : world.Tended id) (orderly : world.registry.Orderly)
    (plainBases : (world.engine id).config.widen = true → world.registry.PlainBases)
    (present : value.isNull = false) (typed : value.unadapt.type? = some source)
    (sourceIssued : world.registry.issued source)
    (casts : (cast id target value).run world = (.ok made, after)) :
    world.registry.Compatible target source := by
  obtain ⟨targetIssued, ways⟩ := cases_of_cast casts
  rw [present, typed, Option.getD_some] at ways
  refine (Registry.compatible_iff orderly.grown.closed).2 ⟨targetIssued, sourceIssued, ?_⟩
  obtain ⟨impossible, _⟩ | ⟨_, fits, _⟩ | ⟨_, _, strategy, claims, ran⟩ := ways
  · cases impossible
  · exact Registry.conforms_of_supports (.native (.inl fits))
  · exact conforms_of_byStrategy tended orderly plainBases claims typed ran

/-- The question about a value is the question about the type of what is below its layers. -/
theorem canCastValue_fst (issued : world.registry.issued target = true)
    (present : value.isNull = false) (typed : value.unadapt.type? = some source) :
    ((canCastValue id target value).run world).1 =
      .ok (Engine.canCast world.registry target source (world.engine id)).1 := by
  unfold canCastValue
  rw [run_bind]
  dsimp only [run_get]
  rw [issued, present, typed]
  rfl

/-- If a cast of a value succeeds, then the engine says that it is possible: of the value and of its
type, in any state that led to the cast and in any state that the cast leads to. -/
theorem canCast_of_cast (grown : world.registry.Grown) (acyclic : world.registry.Acyclic)
    (roots : world.registry.InterfacesAreRoots)
    (plainBases : (world.engine id).config.widen = true → world.registry.PlainBases)
    (tended : world.Tended id) (present : value.isNull = false)
    (typed : value.unadapt.type? = some source) (sourceIssued : world.registry.issued source)
    (casts : (cast id target value).run world = (.ok made, after)) :
    ∀ asked : World σ, (asked.Tended id ∧ World.Follows asked world) ∨ World.Follows after asked →
      ((canCastValue id target value).run asked).1 = .ok true ∧
        (Engine.canCast asked.registry target source (asked.engine id)).1 = true := by
  have orderly : world.registry.Orderly := ⟨grown, acyclic, roots⟩
  have compatible := compatible_of_cast tended orderly plainBases present typed sourceIssued casts
  have targetIssued := ((Registry.compatible_iff grown.closed).1 compatible).1
  have answers : ∀ asked : World σ, asked.registry = world.registry →
      (asked.engine id).config = (world.engine id).config →
      (asked.engine id).Sound world.registry →
        ((canCastValue id target value).run asked).1 = .ok true ∧
          (Engine.canCast asked.registry target source (asked.engine id)).1 = true := by
    intro asked sameRegistry sameConfig sound
    have yes : (Engine.canCast asked.registry target source (asked.engine id)).1 = true := by
      rw [sameRegistry]
      exact (sound.canCast_iff orderly (sameConfig ▸ plainBases) targetIssued sourceIssued).2
        compatible
    refine ⟨?_, yes⟩
    rw [canCastValue_fst (sameRegistry ▸ targetIssued) present typed, yes]
  rintro asked (⟨tendedThen, earlier⟩ | later)
  · have sameConfig := (earlier.engines id tendedThen.named).edits.sameId.2
    refine answers asked earlier.registry.symm sameConfig.symm ?_
    rw [earlier.registry] at orderly plainBases ⊢
    exact tendedThen.reachable.sound orderly (sameConfig ▸ plainBases)
  · have follows : World.Follows world asked :=
      World.Follows.trans ((follows_cast id target value).related_of_run casts) later
    have moves := follows.engines id tended.named
    exact answers asked follows.registry moves.edits.sameId.2
      (Engine.Moves.sound moves orderly plainBases (tended.reachable.sound orderly plainBases))

/-! ### Instances -/

/-- A node was cast to the shape with links, so it can be. -/
theorem node_predicted : ∃ made after,
    (cast ⟨0⟩ ⟨16⟩ node).run (newcomer Registry.linked) = (.ok made, after) ∧
      (Engine.canCast Registry.linked ⟨16⟩ ⟨17⟩ ((newcomer Registry.linked).engine ⟨0⟩)).1 = true ∧
      (Engine.canCast after.registry ⟨16⟩ ⟨17⟩ (after.engine ⟨0⟩)).1 = true := by
  obtain ⟨made, after, casts, _⟩ := node_casts
  have predicted := canCast_of_cast Registry.linked_grown Registry.linked_orderly.acyclic
    Registry.linked_orderly.roots (fun _ => Registry.linked_plainBases)
    (newcomer_tended Registry.linked) rfl rfl (Registry.linked_issued 17) casts
  refine ⟨made, after, casts, ?_, ?_⟩
  · exact (predicted _ (.inl ⟨newcomer_tended Registry.linked, refl_of World.Follows _⟩)).2
  · exact (predicted _ (.inr (refl_of World.Follows _))).2

/-- An object of the class whose base is an interface that extends another one. -/
def derived : Value := .object ⟨0, ⟨18⟩, "Derived"⟩

/-- Where an interface that extends another one is the base of a class, an object of the class is cast
by a factory for the interface, although the engine has just said that this is not possible. -/
theorem cast_succeeds_where_canCast_denies :
    ¬ ∀ (world after : World Unit) (id : EngineId) (target source : TypeId) (value made : Value),
      world.registry.Grown → world.registry.Acyclic → world.registry.InterfacesAreRoots →
        world.Tended id → value.isNull = false → value.unadapt.type? = some source →
          world.registry.issued source = true →
            (cast id target value).run world = (.ok made, after) →
              (Engine.canCast world.registry target source (world.engine id)).1 = true := by
  intro claimed
  have checked : ((cast ⟨0⟩ ⟨19⟩ derived).run
        (newcomer Registry.extendingBase)).1.toOption.isSome = true ∧
      Registry.extendingBase.issued ⟨18⟩ = true ∧
      (Engine.canCast Registry.extendingBase ⟨19⟩ ⟨18⟩
        ((newcomer Registry.extendingBase).engine ⟨0⟩)).1 = false := by
    decide +kernel
  obtain ⟨succeeds, sourceIssued, denied⟩ := checked
  obtain ⟨made, found⟩ := Option.isSome_iff_exists.1 succeeds
  have predicted := claimed (newcomer Registry.extendingBase) _ ⟨0⟩ ⟨19⟩ ⟨18⟩ derived made
    Registry.extendingBase_grown Registry.extendingBase_orderly.acyclic
    Registry.extendingBase_orderly.roots (newcomer_tended Registry.extendingBase) rfl rfl sourceIssued
    (Prod.ext (ok_of_toOption found) rfl)
  exact absurd (denied.symm.trans predicted) (by decide)

end Cast
end StructuralCast
