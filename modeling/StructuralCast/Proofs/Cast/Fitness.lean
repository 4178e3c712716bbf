import StructuralCast.Proofs.Engine.Founding

/-!
Contract: what a cast makes is of the type that was asked for.

An engine finds its factories by the target that they are kept under, and over a session it goes on using
those that it made when its registry was another one. `Engine.Presents` is what makes that safe: whatever
is kept under a target presents that target, and an operation over any registry leaves it so. So what
a cast makes of a value is an instance of the target, wherever a session has got to
(`Cast.isInstance_of_cast`). Nothing is asked of the value: it may have been put together by hand, with
a type that does not go with its content, or was never given out.
-/

namespace StructuralCast

open Step

namespace Engine

variable {registry : Registry} {engine after : Engine} {shape target source : TypeId}

/-- What is kept under a target presents it. -/
structure Presents (engine : Engine) : Prop where
  interfaces : ∀ shape source factory, engine.interfaces.find? shape source = some factory →
    factory.shape = shape
  delegates : ∀ target source factory, engine.delegates.find? target source = some factory →
    factory.target = target

/-- What is added to an engine was planned for the pair that it is kept under. -/
theorem Edit.presents (edit : Edit registry engine after) (presents : engine.Presents) :
    after.Presents := by
  cases edit with
  | keepFactory shape source kept plans =>
      refine ⟨fun shape' source' factory found => ?_, presents.delegates⟩
      rcases PairTable.of_find?_insert found with earlier | ⟨rfl, rfl, rfl⟩
      · exact presents.interfaces _ _ _ earlier
      · exact plans.subject.2.1
  | change changes =>
      cases changes with
      | learn => exact ⟨presents.interfaces, presents.delegates⟩
      | keepStatic => exact ⟨presents.interfaces, presents.delegates⟩
      | keepVerdict => exact ⟨presents.interfaces, presents.delegates⟩
      | owners => exact ⟨presents.interfaces, presents.delegates⟩
      | keepDelegate _ target source kept plans =>
          refine ⟨presents.interfaces, fun target' source' factory found => ?_⟩
          rcases PairTable.of_find?_insert found with earlier | ⟨rfl, rfl, rfl⟩
          · exact presents.delegates _ _ _ earlier
          · obtain ⟨_, _, _, _, _, _, ofTarget, _⟩ := plans.subject
            exact ofTarget

theorem Edits.presents (edits : Edits registry engine after) (presents : engine.Presents) :
    after.Presents := by
  induction edits with
  | refl => exact presents
  | tail _ step inductionHypothesis => exact step.presents inductionHypothesis

/-- However an engine and its registry came about, what it keeps under a target presents it. -/
theorem Evolved.presents (evolved : Evolved registry engine) : engine.Presents := by
  induction evolved with
  | fresh =>
      refine ⟨?_, ?_⟩ <;>
        · intro _ _ _ found
          cases found
  | moves _ moves inductionHypothesis => exact moves.edits.presents inductionHypothesis
  | develops _ _ inductionHypothesis => exact inductionHypothesis

theorem Presents.shape_of_factory (presents : engine.Presents) {made : Factory}
    (hands : (factory registry shape source).run engine = (.ok made, after)) : made.shape = shape := by
  have edits : Edits registry engine after := (edits_factory shape source engine).related_of_run hands
  obtain ⟨owner, kept⟩ := kept_of_factory hands
  exact (edits.presents presents).interfaces shape owner made kept

theorem Presents.target_of_delegateFactory (presents : engine.Presents) {made : DelegateFactory}
    (hands : (delegateFactory registry target source).run engine = (.ok made, after)) :
    made.target = target := by
  have moves : Moves registry engine after :=
    (moves_delegateFactory target source engine).related_of_run hands
  have kept := (memoized_delegateFactory registry target source).kept engine _ after trivial hands
  exact (moves.edits.presents presents).delegates target source made kept

end Engine

namespace Cast

variable {σ : Type} {world after : World σ} {id : EngineId} {target : TypeId} {value plain made : Value}

/-- What a strategy makes has the type of the target itself, unless it leaves the value as it is. -/
theorem type_of_byStrategy (presents : (world.engine id).Presents) {strategy : Strategy}
    (changes : strategy ≠ .genericParam)
    (makes : (byStrategy id target plain strategy).run world = (.ok made, after)) :
    made.type? = some target := by
  cases strategy with
  | interface =>
      obtain ⟨factory, between, searches, adapts⟩ := adapts_of_interface makes
      obtain ⟨ref, relays, rfl⟩ := adapter_of_adapt adapts
      exact congrArg some (presents.shape_of_factory (Action.ok_of_withEngine searches))
  | delegate =>
      obtain ⟨c, factory, between, ref, _, searches, rfl⟩ := wraps_of_delegate makes
      exact congrArg some (presents.target_of_delegateFactory (Action.ok_of_withEngine searches))
  | enumText =>
      rcases eq_of_enumText makes with ⟨rfl, _, _, rfl⟩ | ⟨_, rfl⟩
      · rfl
      · rfl
  | genericParam => exact absurd rfl changes

/-- Wherever a session has got to, what a cast makes of a value that is not null is an instance of the
target, unless the target is a generic parameter. -/
theorem isInstance_of_cast {start : σ} (reached : World.Acts (World.initial start) world)
    (present : value.isNull = false) (specific : world.registry.kind target ≠ .genericParam)
    (casts : (cast id target value).run world = (.ok made, after)) :
    after.registry.admits target made.type? = true := by
  have evolved : world.Evolved id := reached.evolved (World.evolved_initial start id)
  have sameTypes : after.registry = world.registry :=
    World.Follows.registry ((follows_cast id target value).related_of_run casts)
  rw [sameTypes]
  obtain ⟨_, ⟨isNull, _⟩ | ⟨_, fits, rfl⟩ | ⟨_, _, strategy, claims, makes⟩⟩ := cases_of_cast casts
  · rw [present] at isNull
    cases isNull
  · exact fits
  · have changes : strategy ≠ .genericParam := by
      rintro rfl
      simp only [Strategy.claims, Bool.and_eq_true, decide_eq_true_eq] at claims
      exact specific claims.1.1.1
    rw [type_of_byStrategy evolved.evolved.presents changes makes]
    exact Registry.admits_self

end Cast

namespace Acquaintance

theorem peopled_reached : World.Acts (World.initial ()) peopled :=
  (founded_reached.tail (.register _ _ _ _)).tail (.register _ _ _ _)

/-- A struct that claims to be of the class is no object, and is presented as the shape all the same. -/
theorem impostor_presented :
    ∃ made after, (Cast.cast ⟨0⟩ ⟨16⟩ (.struct ⟨17⟩ [])).run peopled = (.ok made, after) ∧
      World.Acts (World.initial ()) peopled ∧ peopled.registry.kind ⟨16⟩ ≠ .genericParam ∧
      after.registry.admits ⟨16⟩ made.type? = true := by
  have checked : ((Cast.cast ⟨0⟩ ⟨16⟩ (.struct ⟨17⟩ [])).run peopled).1.isOk = true ∧
      peopled.registry.kind ⟨16⟩ ≠ .genericParam := by
    decide +kernel
  obtain ⟨succeeds, specific⟩ := checked
  cases ran : (Cast.cast ⟨0⟩ ⟨16⟩ (.struct ⟨17⟩ [])).run peopled with
  | mk outcome after =>
      rw [ran] at succeeds
      cases outcome with
      | error cause => cases succeeds
      | ok made =>
          exact ⟨made, after, rfl, peopled_reached, specific,
            Cast.isInstance_of_cast peopled_reached rfl specific ran⟩

end Acquaintance
end StructuralCast
