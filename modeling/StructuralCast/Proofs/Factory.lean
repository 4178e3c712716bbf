import Mathlib.Tactic.Common
import StructuralCast.Factory
import StructuralCast.Proofs.Step

/-!
Contract: what planning makes of a blueprint.

`synthesize_eq_ok` and `synthesizeDelegate_eq_ok` open a successful planning: the plan has the engine,
the types and the conversions that were asked for. Failures do not depend on the engine
(`synthesize_rename`), and they are always about a conversion that does not exist
(`synthesize_eq_error`).
-/

namespace StructuralCast.Registry

open Step

variable {registry : Registry}

theorem synthesize_eq_ok {engine : EngineId} {blueprint : Blueprint} {factory : Factory}
    (planned : registry.synthesize engine blueprint = .ok factory) :
    factory.engine = engine ∧ factory.blueprint = blueprint ∧
      factory.shapeName = registry.name blueprint.shape ∧
      blueprint.bindings.mapM registry.planSlot = .ok factory.slots := by
  unfold synthesize at planned
  obtain ⟨slots, slotsPlanned, planned⟩ := ok_of_bind planned
  cases planned
  exact ⟨rfl, rfl, rfl, slotsPlanned⟩

/-! ### What a failure is about -/

theorem planConversion_eq_error {target source : TypeId} {cause : CastError}
    (refuses : registry.planConversion target source = .error cause) :
    cause = .noConversion (registry.name source) (registry.name target) := by
  unfold planConversion at refuses
  split at refuses
  case isTrue => cases refuses
  case isFalse =>
    split at refuses
    case isTrue => split at refuses <;> cases refuses
    case isFalse =>
      split at refuses
      case isTrue => cases refuses
      case isFalse =>
        split at refuses
        case isTrue => cases refuses
        case isFalse =>
          cases refuses
          rfl

theorem planConversions_eq_error {targets sources : List TypeId} {cause : CastError}
    (refuses : registry.planConversions targets sources = .error cause) :
    ∃ source target, cause = .noConversion source target := by
  obtain ⟨pair, _, refuses⟩ := error_of_mapM refuses
  exact ⟨_, _, planConversion_eq_error refuses⟩

theorem planRelay_eq_error {target source : TypeId} {cause : CastError}
    (refuses : registry.planRelay target source = .error cause) :
    ∃ source target, cause = .noConversion source target := by
  unfold planRelay at refuses
  split at refuses
  case h_2 =>
    cases refuses
    exact ⟨_, _, rfl⟩
  case h_1 wanted offered _ _ =>
    split at refuses
    case isFalse =>
      cases refuses
      exact ⟨_, _, rfl⟩
    case isTrue =>
      rcases error_of_bind refuses with args | ⟨args, _, refuses⟩
      · exact planConversions_eq_error args
      · exact ⟨_, _, planConversion_eq_error (error_of_bind_pure refuses)⟩

theorem planSlot_eq_error {binding : Binding} {cause : CastError}
    (refuses : registry.planSlot binding = .error cause) :
    ∃ source target, cause = .noConversion source target := by
  cases binding with
  | method declaring required provided =>
      rcases error_of_bind refuses with args | ⟨args, _, refuses⟩
      · exact planConversions_eq_error args
      · exact ⟨_, _, planConversion_eq_error (error_of_bind_pure refuses)⟩
  | property declaring required provided =>
      rcases error_of_bind refuses with index | ⟨index, _, refuses⟩
      · exact planConversions_eq_error index
      · rcases error_of_bind refuses with onGet | ⟨onGet, _, refuses⟩
        · exact ⟨_, _, planConversion_eq_error onGet⟩
        · exact ⟨_, _, planConversion_eq_error (error_of_bind_pure refuses)⟩
  | event declaring required provided =>
      simp only [planSlot] at refuses
      split at refuses
      case isTrue => cases refuses
      case isFalse =>
        rw [map_eq_pure_bind] at refuses
        exact planRelay_eq_error (error_of_bind_pure (error_of_bind_pure refuses))

theorem synthesize_eq_error {engine : EngineId} {blueprint : Blueprint} {cause : CastError}
    (refuses : registry.synthesize engine blueprint = .error cause) :
    ∃ source target, cause = .noConversion source target := by
  obtain ⟨binding, _, refuses⟩ := error_of_mapM (error_of_bind_pure refuses)
  exact planSlot_eq_error refuses

/-! ### Other engines, and delegates -/

/-- Planning for another engine gives the same plan under another name, or the same failure. -/
theorem synthesize_rename (engine other : EngineId) (blueprint : Blueprint) :
    registry.synthesize other blueprint =
      (registry.synthesize engine blueprint).map fun factory => { factory with engine := other } := by
  unfold synthesize
  cases blueprint.bindings.mapM registry.planSlot with
  | error cause => rfl
  | ok slots => rfl

theorem synthesizeDelegate_rename (engine other : EngineId) (target source : TypeId) :
    registry.synthesizeDelegate other target source =
      (registry.synthesizeDelegate engine target source).map fun factory =>
        { factory with engine := other } := by
  unfold synthesizeDelegate
  split
  case h_2 => rfl
  case h_1 wanted offered _ _ =>
    cases registry.planConversions offered.params wanted.params with
    | error cause => rfl
    | ok args =>
        cases registry.planConversion wanted.result offered.result with
        | error cause => rfl
        | ok result => rfl

theorem synthesizeDelegate_eq_ok {engine : EngineId} {target source : TypeId}
    {factory : DelegateFactory}
    (planned : registry.synthesizeDelegate engine target source = .ok factory) :
    ∃ wanted offered, (registry.info target).invoke = some wanted ∧
      (registry.info source).invoke = some offered ∧
      factory.engine = engine ∧ factory.target = target ∧ factory.source = source ∧
      factory.params = wanted.params ∧ factory.result = wanted.result ∧
      registry.planConversions offered.params wanted.params = .ok factory.argConversions ∧
      registry.planConversion wanted.result offered.result = .ok factory.resultConversion := by
  unfold synthesizeDelegate at planned
  split at planned
  case h_2 => cases planned
  case h_1 wanted offered wantedDeclared offeredDeclared =>
    obtain ⟨args, argsPlanned, planned⟩ := ok_of_bind planned
    obtain ⟨result, resultPlanned, planned⟩ := ok_of_bind planned
    cases planned
    exact ⟨wanted, offered, wantedDeclared, offeredDeclared, rfl, rfl, rfl, rfl, rfl, argsPlanned,
      resultPlanned⟩

end StructuralCast.Registry
