import StructuralCast.Proofs.Engine.Founding

/-!
Contract: what a yes of an engine says about conversions.

An engine looks at members and may take back nothing that it has said, while a conversion is planned from
the two types alone. Even so, between two types of which an engine says yes there is a conversion, and
one back, wherever a session has got to (`conversions_of_canCast`): a stored yes was about a pair that
could be planned when it was stored, and a pair that can be planned stays so as the registry develops.
-/

namespace StructuralCast

open Step

theorem Engine.affirmable_of_canCast {registry : Registry} {engine : Engine} {target source : TypeId}
    (held : registry.VerdictsAffirmable engine.verdicts)
    (affirms : (canCast registry target source engine).1 = true) :
    registry.Affirmable target source := by
  unfold canCast at affirms
  split at affirms
  case isTrue =>
    have entails := Compatibility.compatible_affirms ⟨registry, engine.hasFactory registry⟩ [] false
      target source ⟨engine.verdicts, none⟩ (fun _ member => absurd member List.not_mem_nil) held
    exact entails.affirmable affirms rfl
  case isFalse => cases affirms

/-- Wherever a session has got to, there is a conversion between two types of which an engine says yes,
and one back. -/
theorem conversions_of_canCast {σ : Type} {start : σ} {world after : World σ}
    (reached : World.Acts (World.initial start) world) {id : EngineId} {target source : TypeId}
    (affirms : (Action.onEngine id (Engine.canCast world.registry target source) :
      Action σ CastError Bool).run world = (.ok true, after)) :
    (∃ conversion, world.registry.planConversion target source = .ok conversion) ∧
      ∃ conversion, world.registry.planConversion source target = .ok conversion := by
  have evolved : world.Evolved id := reached.evolved (World.evolved_initial start id)
  have yes : (Engine.canCast world.registry target source (world.engine id)).1 = true := by
    rw [Action.run_onEngine] at affirms
    exact Except.ok.inj (congrArg Prod.fst affirms)
  have affirmable := Engine.affirmable_of_canCast evolved.evolved.affirmable yes
  exact ⟨Registry.planConversion_ok_iff.2 affirmable.plannable,
    Registry.planConversion_ok_iff.2 affirmable.plannable.symm⟩

namespace Premature

open Acquaintance

/-- A shape and a class that are declared, and not defined yet. -/
def shape : Registry × TypeId := Registry.initial.add "Greeter" (.named "Greeter") .interface
def person : Registry × TypeId := shape.1.add "Person" (.named "Person") .classType

/-- The shape asks for a method after all, which the class may never have. -/
def members : Definition := { Definition.empty with methods := [introduces ⟨16⟩ none] }
def defined : Registry := ⟨person.1.types.setIfInBounds 16 ((person.1.info ⟨16⟩).define members)⟩

theorem shape_declared : Registry.initial.declare (.named "Greeter") .interface = .ok shape := rfl
theorem person_declared : shape.1.declare (.named "Person") .classType = .ok person := rfl
theorem members_defined : person.1.define ⟨16⟩ members = .ok defined := rfl

/-- An engine is asked while nothing is known of the two types. -/
def declared : World Unit := { founded with registry := person.1 }
def asked : World Unit :=
  ((Action.onEngine ⟨0⟩ (Engine.canCast declared.registry ⟨16⟩ ⟨17⟩) :
    Action Unit CastError Bool).run declared).2
def developed : World Unit := { asked with registry := defined }

theorem developed_reached : World.Acts (World.initial ()) developed := by
  have declares : World.Acts founded declared :=
    World.acts_of_develops ((Relation.ReflTransGen.single (.declare shape_declared)).tail
      (.declare person_declared))
  have asks : World.Acts declared asked := .single (.canCast declared ⟨0⟩ ⟨16⟩ ⟨17⟩)
  exact (founded_reached.trans (declares.trans asks)).tail (.develop (.define members_defined) _)

/-- The engine keeps to what it has said, a new one knows better, and there are both conversions. -/
theorem developed_convertible :
    World.Acts (World.initial ()) developed ∧
      (∃ after, (Action.onEngine ⟨0⟩ (Engine.canCast developed.registry ⟨16⟩ ⟨17⟩) :
        Action Unit CastError Bool).run developed = (.ok true, after)) ∧
      (Engine.canCast developed.registry ⟨16⟩ ⟨17⟩ (.fresh ⟨1⟩ Config.standard)).1 = false ∧
      (∃ conversion, developed.registry.planConversion ⟨16⟩ ⟨17⟩ = .ok conversion) ∧
      ∃ conversion, developed.registry.planConversion ⟨17⟩ ⟨16⟩ = .ok conversion := by
  have answers : (Engine.canCast developed.registry ⟨16⟩ ⟨17⟩ (developed.engine ⟨0⟩)).1 = true ∧
      (Engine.canCast developed.registry ⟨16⟩ ⟨17⟩ (.fresh ⟨1⟩ Config.standard)).1 = false := by
    decide +kernel
  have affirms : (Action.onEngine ⟨0⟩ (Engine.canCast developed.registry ⟨16⟩ ⟨17⟩) :
      Action Unit CastError Bool).run developed = (.ok true, developed.setEngine ⟨0⟩
        (Engine.canCast developed.registry ⟨16⟩ ⟨17⟩ (developed.engine ⟨0⟩)).2) := by
    rw [Action.run_onEngine, answers.1]
  exact ⟨developed_reached, ⟨_, affirms⟩, answers.2, conversions_of_canCast developed_reached affirms⟩

end Premature
end StructuralCast
