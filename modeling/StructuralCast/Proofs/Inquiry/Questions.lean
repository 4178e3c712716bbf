import StructuralCast.Proofs.Compatibility.Conformance
import StructuralCast.Proofs.Inquiry.Analysis
import StructuralCast.Proofs.Registry.Flattening

/-!
Contract: what an analysis asks about.

`Inquiry.Asks about` holds of an inquiry whose questions are all about pairs that satisfy `about`,
whatever the answers are. The analysis of a pair asks about the types that members mention, and where
there are members, the types that have them have been given out (`Compatibility.asks_analyze`). So an
analysis never leaves the types that have been given out, and a pair with a foreign type raises no
question at all (`Compatibility.exists_done_of_foreign`).
-/

namespace StructuralCast

namespace Inquiry

variable {α β : Type} {about wider : TypeId → TypeId → Prop}

/-- All questions of an inquiry are about such pairs, whatever is answered. -/
def Asks (about : TypeId → TypeId → Prop) : Inquiry α → Prop
  | done _ => True
  | ask _ target source next => about target source ∧ ∀ answer, (next answer).Asks about

theorem asks_question {bothWays : Bool} {target source : TypeId} :
    (question bothWays target source).Asks about ↔ about target source :=
  and_iff_left fun _ => trivial

theorem Asks.bind {inquiry : Inquiry α} {continuation : α → Inquiry β} (first : inquiry.Asks about)
    (further : ∀ result, (continuation result).Asks about) :
    (inquiry >>= continuation).Asks about := by
  induction inquiry with
  | done result => exact further result
  | ask bothWays target source next inductionHypothesis =>
      exact ⟨first.1, fun answer => inductionHypothesis answer (first.2 answer)⟩

theorem Asks.mono (widen : ∀ target source, about target source → wider target source)
    {inquiry : Inquiry α} (asks : inquiry.Asks about) : inquiry.Asks wider := by
  induction inquiry with
  | done result => trivial
  | ask bothWays target source next inductionHypothesis =>
      exact ⟨widen _ _ asks.1, fun answer => inductionHypothesis answer (asks.2 answer)⟩

/-- An inquiry that has nothing to ask about has its result. -/
theorem exists_done {inquiry : Inquiry α} (asks : inquiry.Asks fun _ _ => False) :
    ∃ result, inquiry = done result := by
  cases inquiry with
  | done result => exact ⟨result, rfl⟩
  | ask bothWays target source next => exact asks.1.elim

end Inquiry

open Inquiry

namespace Resolution

variable {registry : Registry} {about : TypeId → TypeId → Prop} {known : TypeId → Prop}
  {onStatic : Bool} {offer : Offer}

theorem asks_score? {pairs : List (TypeId × TypeId)} (each : ∀ pair ∈ pairs, about pair.1 pair.2) :
    (score? registry question pairs).Asks about := by
  induction pairs with
  | nil => trivial
  | cons head rest inductionHypothesis =>
      obtain ⟨here, further⟩ := List.forall_mem_cons.1 each
      refine (asks_question.2 here).bind fun answer => ?_
      cases answer with
      | true => exact (inductionHypothesis further).bind fun _ => trivial
      | false => trivial

theorem asks_bestAmong {required : Method} {best : Option (Method × Int)} {candidates : List Method}
    (each : ∀ candidate ∈ candidates, ∀ pair ∈ correspondence required candidate,
      about pair.1 pair.2) :
    (bestAmong registry question required best candidates).Asks about := by
  induction candidates generalizing best with
  | nil => trivial
  | cons candidate rest inductionHypothesis =>
      obtain ⟨here, further⟩ := List.forall_mem_cons.1 each
      exact (asks_score? here).bind fun _ => inductionHypothesis further

theorem asks_allCompatible {pairs : List (TypeId × TypeId)}
    (each : ∀ pair ∈ pairs, about pair.1 pair.2) : (allCompatible question pairs).Asks about := by
  induction pairs with
  | nil => trivial
  | cons head rest inductionHypothesis =>
      obtain ⟨here, further⟩ := List.forall_mem_cons.1 each
      refine (asks_question.2 here).bind fun answer => ?_
      cases answer with
      | true => exact inductionHypothesis further
      | false => trivial

theorem asks_firstFitting {α : Type} {fits : α → Inquiry Bool} {candidates : List α}
    (each : ∀ candidate ∈ candidates, (fits candidate).Asks about) :
    (firstFitting fits candidates).Asks about := by
  induction candidates with
  | nil => trivial
  | cons candidate rest inductionHypothesis =>
      obtain ⟨here, further⟩ := List.forall_mem_cons.1 each
      refine here.bind fun fit => ?_
      cases fit with
      | true => trivial
      | false => exact inductionHypothesis further

theorem asks_propertyFits {required candidate : Property}
    (types : about required.type candidate.type)
    (index : ∀ pair ∈ required.index.zip candidate.index, about pair.1 pair.2) :
    (propertyFits question onStatic required candidate).Asks about := by
  unfold propertyFits
  split
  case isFalse => trivial
  case isTrue =>
    refine (asks_question.2 types).bind fun answer => ?_
    cases answer with
    | false => trivial
    | true =>
        rw [if_pos rfl]
        split
        case isTrue => exact asks_allCompatible index
        case isFalse => trivial

theorem asks_eventFits {required candidate : Event} (handlers : about required.handler candidate.handler) :
    (eventFits question onStatic required candidate).Asks about := by
  unfold eventFits
  split
  case isTrue => exact asks_question.2 handlers
  case isFalse => trivial

/-- The types that a required member and the offered ones mention are what its binding asks about. -/
theorem asks_bind? {required : ShapeMember}
    (each : ∀ offered ∈ offer.members, ∀ type ∈ required.member.types ++ offered.types, known type) :
    (bind? registry question onStatic offer required).Asks fun left right => known left ∧ known right := by
  have ofRequired {offered : Member} (isOffered : offered ∈ offer.members) {type : TypeId}
      (mentioned : type ∈ required.member.types) : known type :=
    each offered isOffered type (List.mem_append_left _ mentioned)
  have ofOffered {offered : Member} (isOffered : offered ∈ offer.members) {type : TypeId}
      (mentioned : type ∈ offered.types) : known type :=
    each offered isOffered type (List.mem_append_right _ mentioned)
  have param {member : Member} {type : TypeId} (mentioned : type ∈ member.params) :
      type ∈ member.types := List.mem_append_left _ mentioned
  have result (member : Member) : member.result ∈ member.types :=
    List.mem_append_right _ (List.mem_singleton_self _)
  unfold bind?
  split
  case h_1 wanted isMethod =>
    rw [isMethod] at ofRequired
    refine Asks.bind (Asks.bind (asks_bestAmong fun candidate isCandidate pair isPair => ?_)
      fun _ => trivial) fun _ => trivial
    have isOffered : .method candidate ∈ offer.members := by
      simp [Offer.members, (List.mem_filter.1 isCandidate).1]
    rcases List.mem_append.1 isPair with ofParams | ofResult
    · obtain ⟨left, right⟩ := List.of_mem_zip ofParams
      exact ⟨ofOffered isOffered (param left), ofRequired isOffered (param right)⟩
    · rw [List.mem_singleton.1 ofResult]
      exact ⟨ofRequired isOffered (result (.method wanted)),
        ofOffered isOffered (result (.method candidate))⟩
  case h_2 wanted isProperty =>
    rw [isProperty] at ofRequired
    refine (asks_firstFitting fun candidate isCandidate => ?_).bind fun _ => trivial
    have isOffered : .property candidate ∈ offer.members := by simp [Offer.members, isCandidate]
    refine asks_propertyFits ⟨ofRequired isOffered (result (.property wanted)),
      ofOffered isOffered (result (.property candidate))⟩ fun pair isPair => ?_
    obtain ⟨left, right⟩ := List.of_mem_zip isPair
    exact ⟨ofRequired isOffered (param left), ofOffered isOffered (param right)⟩
  case h_3 wanted isEvent =>
    rw [isEvent] at ofRequired
    refine (asks_firstFitting fun candidate isCandidate => ?_).bind fun _ => trivial
    have isOffered : .event candidate ∈ offer.members := by simp [Offer.members, isCandidate]
    exact asks_eventFits ⟨ofRequired isOffered (result (.event wanted)),
      ofOffered isOffered (result (.event candidate))⟩

theorem asks_bindAll {shape source : TypeId} {members : List ShapeMember}
    (each : ∀ required ∈ members, ∀ offered ∈ offer.members,
      ∀ type ∈ required.member.types ++ offered.types, known type) :
    (bindAll registry question onStatic offer shape source members).Asks
      fun left right => known left ∧ known right := by
  induction members with
  | nil => trivial
  | cons required rest inductionHypothesis =>
      obtain ⟨here, further⟩ := List.forall_mem_cons.1 each
      refine (asks_bind? here).bind fun binding => ?_
      cases binding with
      | none => trivial
      | some binding => exact (inductionHypothesis further).bind fun _ => trivial

/-- A blueprint asks about types that have been given out, and only for a shape and a source type that
have been, too. -/
theorem asks_blueprint (closed : registry.Closed) {shape source : TypeId} :
    (blueprint registry question onStatic shape source).Asks fun left right =>
      (registry.issued left ∧ registry.issued right) ∧ registry.issued shape ∧ registry.issued source := by
  unfold blueprint
  split
  case h_1 => trivial
  case h_2 members flattens =>
    have mentions : ∀ required ∈ members, ∀ offered ∈ (Offer.of registry source onStatic).members,
        ∀ type ∈ required.member.types ++ offered.types,
          registry.issued type ∧ registry.issued shape ∧ registry.issued source := by
      intro required isRequired offered isOffered type mentioned
      obtain ⟨owner, declared⟩ := Registry.declared_of_mem_shapeMembers flattens isRequired
      obtain ⟨other, _, provided, _⟩ := Registry.mem_offer_iff.1 isOffered
      refine ⟨?_, ?_, ?_⟩
      · rcases List.mem_append.1 mentioned with ofRequired | ofOffered
        · exact closed owner type (Definition.mem_referencedTypes_of_member declared ofRequired)
        · exact closed other type (Definition.mem_referencedTypes_of_member provided ofOffered)
      · have kept := List.mem_of_find?_eq_some ((Registry.mem_shapeMembers_iff flattens).1 isRequired)
        obtain ⟨visited, isVisited, _⟩ := List.mem_flatMap.1 kept
        exact ((Registry.mem_shapeTypes_iff closed).1 isVisited).1
      · by_contra foreign
        rw [Registry.offer_of_not_issued foreign] at isOffered
        exact absurd isOffered List.not_mem_nil
    refine Asks.bind ((asks_bindAll mentions).mono ?_) fun _ => trivial
    exact fun _ _ ⟨left, right⟩ => ⟨⟨left.1, right.1⟩, left.2⟩

end Resolution

namespace Strategy

variable {about : TypeId → TypeId → Prop} {setting : Setting} {target source : TypeId}

theorem asks_signaturesAgree {target source : Option Signature}
    (each : ∀ wanted offered, target = some wanted → source = some offered →
      (∀ pair ∈ wanted.params.zip offered.params, about pair.1 pair.2) ∧
        about wanted.result offered.result) :
    (signaturesAgree question target source).Asks about := by
  unfold signaturesAgree
  split
  case h_2 => trivial
  case h_1 wanted offered =>
    obtain ⟨params, results⟩ := each wanted offered rfl rfl
    split
    case isFalse => trivial
    case isTrue =>
      refine (Resolution.asks_allCompatible params).bind fun agreed => ?_
      cases agreed with
      | true => exact asks_question.2 results
      | false => trivial

theorem asks_anyOf {test : Strategy → Inquiry Bool} (each : ∀ strategy, (test strategy).Asks about)
    (strategies : List Strategy) : (anyOf test strategies).Asks about := by
  induction strategies with
  | nil => trivial
  | cons strategy rest inductionHypothesis =>
      refine (each strategy).bind fun accepted => ?_
      cases accepted with
      | true => trivial
      | false => exact inductionHypothesis

theorem asks_accepts (closed : setting.registry.Closed) (strategy : Strategy) :
    (strategy.accepts setting question target source).Asks fun left right =>
      (setting.registry.issued left ∧ setting.registry.issued right) ∧
        setting.registry.issued target ∧ setting.registry.issued source := by
  cases strategy with
  | enumText => trivial
  | genericParam => trivial
  | interface =>
      simp only [accepts]
      split
      case isFalse => trivial
      case isTrue =>
        split
        case isTrue => trivial
        case isFalse => exact (Resolution.asks_blueprint closed).bind fun _ => trivial
  | delegate =>
      simp only [accepts]
      split
      case isFalse => trivial
      case isTrue claimed =>
        have kinds : setting.registry.kind target = .delegate ∧
            setting.registry.kind source = .delegate := by simpa [claims] using claimed
        have issued : setting.registry.issued target ∧ setting.registry.issued source :=
          ⟨Registry.issued_of_kind kinds.1 (by decide), Registry.issued_of_kind kinds.2 (by decide)⟩
        refine asks_signaturesAgree fun wanted offered isWanted isOffered => ?_
        have ofWanted {type : TypeId} (mentioned : type ∈ wanted.params ++ [wanted.result]) :=
          closed target type (Definition.mem_referencedTypes_of_invoke isWanted mentioned)
        have ofOffered {type : TypeId} (mentioned : type ∈ offered.params ++ [offered.result]) :=
          closed source type (Definition.mem_referencedTypes_of_invoke isOffered mentioned)
        refine ⟨fun pair isPair => ?_, ⟨ofWanted (by simp), ofOffered (by simp)⟩, issued⟩
        obtain ⟨left, right⟩ := List.of_mem_zip isPair
        exact ⟨⟨ofWanted (List.mem_append_left _ left), ofOffered (List.mem_append_left _ right)⟩, issued⟩

end Strategy

namespace Compatibility

variable {setting : Setting} {target source : TypeId}

/-- The analysis of a pair asks about pairs of types that have been given out, and only if both types of
the pair have been, too. -/
theorem asks_analyze (closed : setting.registry.Closed) :
    (analyze setting question target source).Asks fun left right =>
      (left, right) ∈ pairs setting.registry ∧ (target, source) ∈ pairs setting.registry := by
  simp only [mem_pairs_iff]
  unfold analyze
  split
  case isTrue => trivial
  case isFalse =>
    refine (Strategy.asks_anyOf (Strategy.asks_accepts closed) _).bind fun accepted => ?_
    cases accepted with
    | true => trivial
    | false =>
        refine Strategy.asks_anyOf (fun strategy => ?_) _
        by_cases oneWay : strategy = .genericParam
        · subst oneWay
          trivial
        · rw [Strategy.acceptsReversed_eq oneWay]
          exact (Strategy.asks_accepts closed strategy).mono fun _ _ given => ⟨given.1, given.2.symm⟩

/-- A type that was never given out has no members to ask about. -/
theorem exists_done_of_foreign (closed : setting.registry.Closed)
    (foreign : (target, source) ∉ pairs setting.registry) :
    ∃ verdict, analyze setting question target source = done verdict :=
  exists_done ((asks_analyze closed).mono fun _ _ given => foreign given.2)

end Compatibility
end StructuralCast
