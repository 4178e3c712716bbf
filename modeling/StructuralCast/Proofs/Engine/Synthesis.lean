import StructuralCast.Proofs.Compatibility.Affirmation
import StructuralCast.Proofs.Engine.Preparation

/-!
Contract: when an engine fails for want of a conversion.

`Evolved` is about engines that live on while their registry grows. Whatever they have found out, a yes
entails a conversion (`Evolved.affirmable`). So everything that such an engine resolves can be planned,
with one exception: an event that the shape asks for and the source offers under handlers of different
types, of which one is no delegate, or which are related natively. A conversion between such handler
types exists, but there may be no relay (`Registry.Strands`).
-/

namespace StructuralCast

open Step

/-- A shape asks for an event that a source offers under a handler type that is not the same. Yes may
be said about the two types, but nothing can be relayed between them. -/
def Registry.Strands (registry : Registry) (onStatic : Bool) (shape source : TypeId) : Prop :=
  ∃ members declaring required provided, registry.shapeMembers shape = .ok members ∧
    ⟨declaring, .event required⟩ ∈ members ∧
    .event provided ∈ (Offer.of registry source onStatic).members ∧
    provided.name = required.name ∧ required.handler ≠ provided.handler ∧
    registry.Affirmable required.handler provided.handler ∧
    ¬ registry.Relayable required.handler provided.handler

/-- No event is stranded where all handler types are the same or delegates that are not related. -/
theorem Registry.not_strands_of_delegates {registry : Registry} {onStatic : Bool}
    {shape source : TypeId}
    (delegates : ∀ members ∈ (registry.shapeMembers shape).toOption, ∀ required ∈ members,
      ∀ provided ∈ (Offer.of registry source onStatic).events,
        required.member.kind = .event → required.member.result = provided.handler ∨
          (registry.kind required.member.result = .delegate ∧
            registry.kind provided.handler = .delegate ∧
              registry.related required.member.result provided.handler = false)) :
    ¬ registry.Strands onStatic shape source := by
  rintro ⟨members, declaring, required, provided, found, isRequired, isOffered, _, different,
    affirmable, unrelayable⟩
  have offered : provided ∈ (Offer.of registry source onStatic).events := by
    simpa [Offer.members] using isOffered
  have asked : members ∈ (registry.shapeMembers shape).toOption := by
    rw [found]
    rfl
  rcases delegates members asked _ isRequired provided offered rfl with
    same | ⟨wantedKind, offeredKind, unrelated⟩
  · exact different same
  · rcases affirmable.relayable wantedKind offeredKind with related | relayable
    · rw [show registry.related required.handler provided.handler = false from unrelated] at related
      cases related
    · exact unrelayable relayable

/-- A stranded binding of a blueprint is a stranded event of the shape. -/
theorem Registry.strands_of_stranded {registry : Registry} {onStatic : Bool} {shape source : TypeId}
    {blueprint : Blueprint}
    (outcome : (Resolution.blueprint registry Inquiry.question onStatic shape source).Outcome
      (fun target source answer => answer = true → registry.Affirmable target source)
      (.ok blueprint))
    {binding : Binding} (isBound : binding ∈ blueprint.bindings)
    (stranded : registry.Stranded binding) : registry.Strands onStatic shape source := by
  obtain ⟨⟨members, found, isRequired⟩, isOffered, serves⟩ :=
    Resolution.bound_of_blueprint outcome isBound
  cases binding with
  | method => exact stranded.elim
  | property => exact stranded.elim
  | event declaring required provided =>
      obtain ⟨name, _, affirmed⟩ := serves
      exact ⟨members, declaring, required, provided, found, isRequired, isOffered, name, stranded.1,
        affirmed rfl, stranded.2⟩

namespace Engine

/-- The engines that any operations lead to, where the registry may grow between them. -/
inductive Evolved : Registry → Engine → Prop where
  | fresh {registry : Registry} (grown : registry.Grown) (id : EngineId) (config : Config) :
      Evolved registry (Engine.fresh id config)
  | moves {registry : Registry} {engine after : Engine} (before : Evolved registry engine)
      (moves : Moves registry engine after) : Evolved registry after
  | develops {registry developed : Registry} {engine : Engine} (before : Evolved registry engine)
      (develops : registry.Develops developed) : Evolved developed engine

variable {registry : Registry} {engine after : Engine} {shape source target : TypeId}

/-- The engines that operations over one registry lead to are among them. -/
theorem Reachable.evolved (reachable : Reachable registry engine) (grown : registry.Grown) :
    Evolved registry engine :=
  .moves (.fresh grown engine.id engine.config) reachable.moves

theorem Evolved.grown (evolved : Evolved registry engine) : registry.Grown := by
  induction evolved with
  | fresh grown => exact grown
  | moves _ _ inductionHypothesis => exact inductionHypothesis
  | develops _ develops inductionHypothesis => exact develops.grown inductionHypothesis

/-! ### What a yes entails -/

/-- An edit stores no yes that may not be said. -/
theorem Edit.affirmable {before : Engine} (edit : Edit registry before after)
    (held : registry.VerdictsAffirmable before.verdicts) :
    registry.VerdictsAffirmable after.verdicts := by
  cases edit with
  | keepFactory => exact held
  | change changes =>
      cases changes with
      | learn inquiry =>
          exact (Compatibility.interpret_affirms ⟨registry, before.hasFactory registry⟩
            (inquiry ⟨registry, before.hasFactory registry⟩) ⟨before.verdicts, none⟩ held).1
      | keepDelegate => exact held
      | keepStatic => exact held
      | keepVerdict => exact held
      | owners => exact held

theorem Edits.affirmable {before : Engine} (edits : Edits registry before after)
    (held : registry.VerdictsAffirmable before.verdicts) :
    registry.VerdictsAffirmable after.verdicts := by
  induction edits with
  | refl => exact held
  | tail _ step inductionHypothesis => exact step.affirmable inductionHypothesis

/-- However an engine and its registry came about, every yes that is stored may be said. -/
theorem Evolved.affirmable (evolved : Evolved registry engine) :
    registry.VerdictsAffirmable engine.verdicts := by
  induction evolved with
  | fresh =>
      intro target source found
      cases found
  | moves _ moves inductionHypothesis => exact moves.edits.affirmable inductionHypothesis
  | develops before develops inductionHypothesis =>
      intro target source found
      exact (inductionHypothesis target source found).mono (develops.retains before.grown)
        before.grown (develops.grown before.grown)

/-- The answers that a resolution has had, where every yes may be said. -/
theorem affirmed_of_resolve (held : registry.VerdictsAffirmable engine.verdicts) (onStatic : Bool)
    (shape source : TypeId) :
    (Resolution.blueprint registry Inquiry.question onStatic shape source).Outcome
      (fun target source answer => answer = true → registry.Affirmable target source)
      ((resolve registry onStatic shape source).run engine).1 := by
  have affirms := (Compatibility.interpret_affirms ⟨registry, engine.hasFactory registry⟩
    (Resolution.blueprint registry Inquiry.question onStatic shape source)
    ⟨engine.verdicts, none⟩ held).2
  rw [Resolution.interpret_blueprint] at affirms
  exact affirms

/-! ### What is resolved can be planned -/

/-- What an engine has resolved can be planned, unless some event is stranded. -/
theorem synthesize_ok_of_resolve (held : registry.VerdictsAffirmable engine.verdicts)
    {onStatic : Bool} {blueprint : Blueprint}
    (resolves : ((resolve registry onStatic shape source).run engine).1 = .ok blueprint)
    (maker : EngineId) :
    ((∃ factory, registry.synthesize maker blueprint = .ok factory) ↔
        ∀ binding ∈ blueprint.bindings, ¬ registry.Stranded binding) ∧
      ∀ binding ∈ blueprint.bindings, registry.Stranded binding →
        registry.Strands onStatic shape source := by
  have outcome := affirmed_of_resolve held onStatic shape source
  rw [resolves] at outcome
  have serve : ∀ binding ∈ blueprint.bindings,
      binding.required.member.Serves registry.Plannable onStatic binding.provided := by
    intro binding isBound
    exact (Resolution.serves_of_blueprint outcome isBound).mono_on (fun _ _ => trivial)
      (fun _ _ => trivial) fun _ _ (_ : True) (_ : True) entails => (entails rfl).plannable
  exact ⟨Registry.synthesize_ok_iff serve maker, fun binding isBound =>
    Registry.strands_of_stranded outcome isBound⟩

/-- What an engine has resolved fails to be planned only if some event is stranded. -/
theorem strands_of_unplanned (held : registry.VerdictsAffirmable engine.verdicts) {onStatic : Bool}
    {blueprint : Blueprint}
    (resolves : ((resolve registry onStatic shape source).run engine).1 = .ok blueprint)
    {maker : EngineId} {cause : CastError}
    (unplanned : registry.synthesize maker blueprint = .error cause) :
    registry.Strands onStatic shape source := by
  obtain ⟨plannable, strands⟩ := synthesize_ok_of_resolve held resolves maker
  by_contra unstranded
  obtain ⟨factory, planned⟩ := plannable.2 fun binding isBound stranded =>
    unstranded (strands binding isBound stranded)
  rw [planned] at unplanned
  cases unplanned

/-- Resolving never fails for want of a conversion. -/
theorem resolve_noConversion (held : registry.VerdictsAffirmable engine.verdicts) (onStatic : Bool)
    (shape source : TypeId) (found wanted : String) :
    ((resolve registry onStatic shape source).run engine).1 ≠
      .error (.noConversion found wanted) := by
  intro unresolved
  have outcome := affirmed_of_resolve held onStatic shape source
  rw [unresolved] at outcome
  cases Resolution.isAboutMembers_of_blueprint outcome

/-! ### Factories of shapes -/

theorem strands_of_exactFactory (held : registry.VerdictsAffirmable engine.verdicts)
    {found wanted : String}
    (fails : ((exactFactory registry shape source).run engine).1 =
      .error (.noConversion found wanted)) : registry.Strands false shape source := by
  have generates : ((generate registry shape source).run engine).1 =
      .error (.noConversion found wanted) := by
    rw [exactFactory_apply] at fails
    cases stored : engine.interfaces.find? shape source with
    | some kept =>
        rw [stored] at fails
        cases fails
    | none =>
        rw [stored] at fails
        generalize (generate registry shape source).run engine = run at fails ⊢
        obtain ⟨outcome, between⟩ := run
        cases outcome with
        | error cause => exact fails
        | ok made => cases fails
  rcases error_of_run_bind generates with unresolved | ⟨blueprint, between, resolves, unplanned⟩
  · exact absurd unresolved (resolve_noConversion held false shape source found wanted)
  · have refuses : registry.synthesize between.id blueprint = .error (.noConversion found wanted) :=
      unplanned
    exact strands_of_unplanned held (congrArg Prod.fst resolves) refuses

theorem strands_of_firstFactory {last : TypeId} {candidates : List TypeId}
    (held : registry.VerdictsAffirmable engine.verdicts) {found wanted : String}
    (fails : ((firstFactory registry shape last candidates).run engine).1 =
      .error (.noConversion found wanted)) : registry.Strands false shape last := by
  induction candidates generalizing engine with
  | nil => exact strands_of_exactFactory held fails
  | cons candidate rest inductionHypothesis =>
      have edits : Edits registry engine ((exactFactory registry shape candidate).run engine).2 :=
        edits_exactFactory shape candidate engine
      rw [firstFactory_apply] at fails
      generalize (exactFactory registry shape candidate).run engine = run at fails edits
      obtain ⟨outcome, between⟩ := run
      cases outcome with
      | ok made => cases fails
      | error cause => exact inductionHypothesis (edits.affirmable held) fails

/-- A search for a factory tells of a missing conversion only if an event of the source itself is
stranded, whatever became of the types above it. -/
theorem strands_of_factory (held : registry.VerdictsAffirmable engine.verdicts)
    {found wanted : String}
    (fails : ((factory registry shape source).run engine).1 = .error (.noConversion found wanted)) :
    registry.Strands false shape source := by
  rw [factory_apply] at fails
  cases ready : engine.readyFactory? registry shape source with
  | some made =>
      rw [ready] at fails
      cases fails
  | none =>
      rw [ready] at fails
      exact strands_of_firstFactory held fails

/-! ### Delegate factories -/

/-- Where the question about two delegate types is answered with yes, their signatures correspond. -/
theorem relayable_of_delegateQuestion (held : registry.VerdictsAffirmable engine.verdicts)
    (accepted : (analyzing registry (fun setting =>
      (registry.delegateQuestion target source).interpret (ask setting)) engine).1 = true) :
    registry.Relayable target source := by
  have outcome := (Compatibility.interpret_affirms ⟨registry, engine.hasFactory registry⟩
    (registry.delegateQuestion target source) ⟨engine.verdicts, none⟩ held).2
  have yes : ((registry.delegateQuestion target source).interpret
      (ask ⟨registry, engine.hasFactory registry⟩) ⟨engine.verdicts, none⟩).1 = true := accepted
  unfold ask at yes
  rw [yes] at outcome
  exact Strategy.relayable_of_accepts (fun _ _ entails => (entails rfl).plannable) outcome

/-- What the strategy for delegates accepts can be planned. -/
theorem synthesizeDelegate_ok_of_accepts (held : registry.VerdictsAffirmable engine.verdicts)
    (accepted : (analyzing registry (fun setting =>
      Strategy.delegate.accepts setting (ask setting) target source) engine).1 = true)
    (maker : EngineId) :
    ∃ factory, registry.synthesizeDelegate maker target source = .ok factory := by
  refine Registry.synthesizeDelegate_ok_of_relayable (relayable_of_delegateQuestion held ?_) maker
  rw [← accepted]
  simp only [Registry.delegateQuestion, Strategy.interpret_accepts]
  rfl

/-- A request for a delegate factory never tells of a missing conversion. -/
theorem delegateFactory_noConversion (held : registry.VerdictsAffirmable engine.verdicts)
    (target source : TypeId) (found wanted : String) :
    ((delegateFactory registry target source).run engine).1 ≠ .error (.noConversion found wanted) := by
  rw [delegateFactory_apply]
  cases engine.delegates.find? target source with
  | some kept => exact fun impossible => by cases impossible
  | none =>
      have relayable : (analyzing registry (fun setting =>
          (registry.delegateQuestion target source).interpret (ask setting)) engine).1 = true →
            registry.Relayable target source := relayable_of_delegateQuestion held
      generalize analyzing registry (fun setting =>
        (registry.delegateQuestion target source).interpret (ask setting)) engine = run at relayable
      obtain ⟨answer, between⟩ := run
      cases answer with
      | false => exact fun impossible => by cases impossible
      | true =>
          obtain ⟨made, planned⟩ :=
            Registry.synthesizeDelegate_ok_of_relayable (relayable rfl) between.id
          dsimp only
          rw [planned]
          exact fun impossible => by cases impossible

/-! ### Operations of an engine -/

theorem strands_of_prepare (held : registry.VerdictsAffirmable engine.verdicts)
    {found wanted : String}
    (fails : ((prepare registry target source).run engine).1 = .error (.noConversion found wanted)) :
    registry.Strands false target source := by
  unfold prepare at fails
  split at fails
  case isFalse => cases fails
  case isTrue =>
    split at fails
    case isTrue => cases fails
    case isFalse =>
      cases claimant : Strategy.claimant? registry target source with
      | none =>
          rw [claimant] at fails
          cases fails
      | some strategy =>
          rw [claimant] at fails
          cases strategy with
          | interface =>
              rcases error_of_run_bind fails with searching | ⟨_, _, _, impossible⟩
              · exact strands_of_factory held searching
              · cases impossible
          | delegate =>
              rcases error_of_run_bind fails with requesting | ⟨_, _, _, impossible⟩
              · exact absurd requesting (delegateFactory_noConversion held target source found wanted)
              · cases impossible
          | enumText => cases fails
          | genericParam => cases fails

theorem requestDelegateFactory_noConversion (held : registry.VerdictsAffirmable engine.verdicts)
    (target source : TypeId) (found wanted : String) :
    ((requestDelegateFactory registry target source).run engine).1 ≠
      .error (.noConversion found wanted) := by
  unfold requestDelegateFactory
  split
  case isTrue => exact delegateFactory_noConversion held target source found wanted
  case isFalse => exact fun impossible => by cases impossible

end Engine
end StructuralCast
