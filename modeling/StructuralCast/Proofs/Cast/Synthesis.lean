import StructuralCast.Proofs.Cast.Repetition
import StructuralCast.Proofs.Engine.Synthesis

/-!
Contract: which operations fail for want of a conversion.

`noConversion_only_if_stranded` goes through the operations of an engine, in any state that it can get
into while its registry grows. A resolution gives a blueprint that can be planned unless some event is
stranded, and then that is why casts and preparations of the pair fail. Between delegate types
conversions are never missing.

`Registry.signalling` has a shape whose event is relayed and one whose event is stranded.
-/

namespace StructuralCast

open Step

namespace Registry

/-- Types 16 and 17 are delegates that take any value and a text. Shape 18 asks for an event with
handlers of the former, class 19 has the event with handlers of the latter, and shape 20 asks for it
with any value as a handler. -/
def signalling : Registry :=
  let report := (initial.register (.named "Report") .delegate
    { Definition.empty with invoke := some ⟨[.object], .void⟩ }).1
  let notice := (report.register (.named "Notice") .delegate
    { Definition.empty with invoke := some ⟨[.text], .void⟩ }).1
  let reporter := (notice.register (.named "Reporter") .interface
    { Definition.empty with events := [⟨"Said", ⟨16⟩, false⟩] }).1
  let speaker := (reporter.register (.named "Speaker") .classType
    { Definition.empty with events := [⟨"Said", ⟨17⟩, false⟩] }).1
  (speaker.register (.named "Listener") .interface
    { Definition.empty with events := [⟨"Said", .object, false⟩] }).1

theorem signalling_grown : signalling.Grown :=
  ((((Grown.initial.register _ _ _).register _ _ _).register _ _ _).register _ _ _).register _ _ _

end Registry

namespace Cast

variable {σ : Type} {world : World σ} {id : EngineId} {target shape source : TypeId} {value : Value}
  {found wanted : String}

/-- Making an adapter plans nothing, so it fails for other reasons if it does. -/
theorem adapt_noConversion (factory : Factory) (source : Value) :
    ((Action.mapError CastError.call (adapt factory source)).run world).1 ≠
      .error (.noConversion found wanted) := by
  intro fails
  rw [Action.run_mapError] at fails
  generalize (adapt factory source).run world = run at fails
  obtain ⟨outcome, after⟩ := run
  cases outcome with
  | ok made => cases fails
  | error cause => cases fails

theorem strands_of_byStrategy
    (held : world.registry.VerdictsAffirmable (world.engine id).verdicts) {strategy : Strategy}
    (fails : ((byStrategy id target value strategy).run world).1 =
      .error (.noConversion found wanted)) :
    world.registry.Strands false target (value.type?.getD .object) := by
  unfold byStrategy at fails
  cases strategy with
  | interface =>
      rw [run_bind] at fails
      dsimp only [run_get] at fails
      rcases error_of_run_bind fails with searching | ⟨factory, between, _, adapting⟩
      · exact Engine.strands_of_factory held searching
      · exact absurd adapting (adapt_noConversion factory value)
  | delegate =>
      rw [run_bind] at fails
      dsimp only [run_get] at fails
      cases value with
      | callable c =>
          rcases error_of_run_bind fails with requesting | ⟨factory, between, _, impossible⟩
          · exact absurd requesting (Engine.delegateFactory_noConversion held _ _ found wanted)
          · cases impossible
      | _ => cases fails
  | enumText =>
      rw [run_bind] at fails
      dsimp only [run_get] at fails
      cases value with
      | text ref content =>
          dsimp only at fails
          cases parses : parseEnum world.registry target content with
          | error cause =>
              rw [parses] at fails
              cases fails
          | ok parsed =>
              rw [parses] at fails
              cases fails
      | enumeration type number =>
          dsimp only at fails
          split at fails
          case isTrue => cases fails
          case isFalse => cases fails
      | _ => cases fails
  | genericParam => cases fails

theorem strands_of_cast (held : world.registry.VerdictsAffirmable (world.engine id).verdicts)
    (fails : ((cast id target value).run world).1 = .error (.noConversion found wanted)) :
    world.registry.Strands false target (value.unadapt.type?.getD .object) := by
  unfold cast at fails
  rw [run_bind] at fails
  dsimp only [run_get] at fails
  split at fails
  case isTrue => cases fails
  case isFalse =>
    split at fails
    case isTrue => cases fails
    case isFalse =>
      split at fails
      case isTrue => cases fails
      case isFalse =>
        split at fails
        case h_1 => exact strands_of_byStrategy held fails
        case h_2 => cases fails

theorem strands_of_staticCast (held : world.registry.VerdictsAffirmable (world.engine id).verdicts)
    (fails : ((staticCast id shape source).run world).1 = .error (.noConversion found wanted)) :
    world.registry.Strands true shape source := by
  unfold staticCast at fails
  rw [run_bind] at fails
  dsimp only [run_get] at fails
  split at fails
  case isFalse => cases fails
  case isTrue =>
    split at fails
    case h_1 => cases fails
    case h_2 =>
      rcases error_of_run_bind fails with generating | ⟨factory, between, _, adapting⟩
      · rw [Action.run_withEngine] at generating
        rcases error_of_run_bind generating with unresolved | ⟨blueprint, _, resolves, unplanned⟩
        · exact absurd unresolved (Engine.resolve_noConversion held true shape source found wanted)
        · exact Engine.strands_of_unplanned held (congrArg Prod.fst resolves) unplanned
      · rcases error_of_run_bind adapting with adapting | ⟨_, _, _, keeping⟩
        · exact absurd adapting (adapt_noConversion factory .null)
        · cases keeping

/-- However an engine and its registry came about: what it resolves can be planned exactly if the
blueprint has no stranded event, what it accepts of delegates can always be planned, and its operations
fail for want of a conversion only where some event of the pair is stranded. -/
theorem noConversion_only_if_stranded (evolved : (world.engine id).Evolved world.registry) :
    (∀ onStatic shape source blueprint,
      ((Engine.resolve world.registry onStatic shape source).run (world.engine id)).1 = .ok blueprint →
        ∀ maker, ((∃ factory, world.registry.synthesize maker blueprint = .ok factory) ↔
            ∀ binding ∈ blueprint.bindings, ¬ world.registry.Stranded binding) ∧
          ∀ binding ∈ blueprint.bindings, world.registry.Stranded binding →
            world.registry.Strands onStatic shape source) ∧
    (∀ target source, (Engine.analyzing world.registry (fun setting =>
        Strategy.delegate.accepts setting (Engine.ask setting) target source)
        (world.engine id)).1 = true →
      ∀ maker, ∃ factory, world.registry.synthesizeDelegate maker target source = .ok factory) ∧
    (∀ target value found wanted,
      ((cast id target value).run world).1 = .error (.noConversion found wanted) →
        world.registry.Strands false target (value.unadapt.type?.getD .object)) ∧
    (∀ target source found wanted,
      ((Engine.prepare world.registry target source).run (world.engine id)).1 =
          .error (.noConversion found wanted) → world.registry.Strands false target source) ∧
    (∀ shape source found wanted,
      ((staticCast id shape source).run world).1 = .error (.noConversion found wanted) →
        world.registry.Strands true shape source) ∧
    (∀ target source found wanted,
      ((Engine.requestDelegateFactory world.registry target source).run (world.engine id)).1 ≠
        .error (.noConversion found wanted)) := by
  have held := evolved.affirmable
  refine ⟨fun onStatic shape source blueprint resolves => ?_, fun target source accepted => ?_,
    fun target value found wanted => strands_of_cast held,
    fun target source found wanted => Engine.strands_of_prepare held,
    fun shape source found wanted => strands_of_staticCast held,
    fun target source found wanted => ?_⟩
  · exact Engine.synthesize_ok_of_resolve held resolves
  · exact Engine.synthesizeDelegate_ok_of_accepts held accepted
  · exact Engine.requestDelegateFactory_noConversion held target source found wanted

/-! ### Instances -/

theorem signalling_evolved : ((newcomer Registry.signalling).engine ⟨0⟩).Evolved
    (newcomer Registry.signalling).registry :=
  (newcomer_tended Registry.signalling).reachable.evolved Registry.signalling_grown

/-- The event of the shape is relayed from that of the class, because its handlers take more. -/
theorem reporter_planned : ∃ blueprint factory,
    ((Engine.resolve Registry.signalling false ⟨18⟩ ⟨19⟩).run
        ((newcomer Registry.signalling).engine ⟨0⟩)).1 = .ok blueprint ∧
      Registry.signalling.synthesize ⟨0⟩ blueprint = .ok factory := by
  have relayed : ¬ Registry.signalling.Strands false ⟨18⟩ ⟨19⟩ :=
    Registry.not_strands_of_delegates (by decide +kernel)
  have succeeds : ((Engine.resolve Registry.signalling false ⟨18⟩ ⟨19⟩).run
      ((newcomer Registry.signalling).engine ⟨0⟩)).1.toOption.isSome = true := by decide +kernel
  obtain ⟨blueprint, found⟩ := Option.isSome_iff_exists.1 succeeds
  have resolves := ok_of_toOption found
  obtain ⟨plannable, strands⟩ :=
    (noConversion_only_if_stranded signalling_evolved).1 false ⟨18⟩ ⟨19⟩ blueprint resolves ⟨0⟩
  obtain ⟨factory, planned⟩ := plannable.2 fun binding isBound stranded =>
    relayed (strands binding isBound stranded)
  exact ⟨blueprint, factory, resolves, planned⟩

/-- A shape that takes any value as a handler is said to be compatible with the class, but there is no
relay, so getting ready for the cast fails for want of a conversion. -/
theorem listener_stranded :
    ¬ ∀ (registry : Registry) (engine : Engine), engine.Evolved registry →
      ∀ (target source : TypeId) (found wanted : String),
        (Engine.canCast registry target source engine).1 = true →
          ((Engine.prepare registry target source).run engine).1 ≠
            .error (.noConversion found wanted) := by
  intro claimed
  have checked : (Engine.canCast Registry.signalling ⟨20⟩ ⟨19⟩
        ((newcomer Registry.signalling).engine ⟨0⟩)).1 = true ∧
      ((Engine.prepare Registry.signalling ⟨20⟩ ⟨19⟩).run
        ((newcomer Registry.signalling).engine ⟨0⟩)).1 = .error (.noConversion "Notice" "object") := by
    decide +kernel
  exact claimed Registry.signalling ((newcomer Registry.signalling).engine ⟨0⟩) signalling_evolved
    ⟨20⟩ ⟨19⟩ "Notice" "object" checked.1 checked.2

end Cast
end StructuralCast
