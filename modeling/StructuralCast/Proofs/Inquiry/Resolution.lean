import StructuralCast.Proofs.Inquiry
import StructuralCast.Proofs.Compatibility.Relation
import StructuralCast.Proofs.Lists

/-!
Contract: resolution as an inquiry, and what its results say about the answers.

Resolution in any monad is the same inquiry, run there: `interpret_blueprint` and the lemmas before
it. So it suffices to know what the results of the inquiry mean.

A success says that the members are served, with yes answered to each question that this rests on
(`fulfils_of_blueprint`). A failure says that they are not served by any relation that holds of no
pair to which no was answered (`not_fulfils_of_blueprint`). The two relations need not be the same:
some answers yes are given too early.
-/

namespace StructuralCast

open Inquiry

namespace Resolution

/-! ### Resolution in any monad is its inquiry run there -/

section Interpret

variable {m : Type → Type} [Monad m] [LawfulMonad m] (registry : Registry) (ask : Ask m)

@[simp] theorem interpret_score? (pairs : List (TypeId × TypeId)) :
    (score? registry question pairs).interpret ask = score? registry ask pairs := by
  induction pairs with
  | nil => simp [score?]
  | cons pair rest inductionHypothesis => simp [score?, inductionHypothesis]

@[simp] theorem interpret_bestAmong (required : Method) (best : Option (Method × Int))
    (candidates : List Method) :
    (bestAmong registry question required best candidates).interpret ask =
      bestAmong registry ask required best candidates := by
  induction candidates generalizing best with
  | nil => simp [bestAmong]
  | cons candidate rest inductionHypothesis => simp [bestAmong, inductionHypothesis]

@[simp] theorem interpret_bestMethod (onStatic : Bool) (offer : Offer) (required : Method) :
    (bestMethod registry question onStatic offer required).interpret ask =
      bestMethod registry ask onStatic offer required := by
  simp [bestMethod]

@[simp] theorem interpret_allCompatible (pairs : List (TypeId × TypeId)) :
    (allCompatible question pairs).interpret ask = allCompatible ask pairs := by
  induction pairs with
  | nil => simp [allCompatible]
  | cons pair rest inductionHypothesis => simp [allCompatible, inductionHypothesis]

@[simp] theorem interpret_propertyFits (onStatic : Bool) (required candidate : Property) :
    (propertyFits question onStatic required candidate).interpret ask =
      propertyFits ask onStatic required candidate := by
  simp [propertyFits]

@[simp] theorem interpret_eventFits (onStatic : Bool) (required candidate : Event) :
    (eventFits question onStatic required candidate).interpret ask =
      eventFits ask onStatic required candidate := by
  simp [eventFits]

@[simp] theorem interpret_firstFitting {α : Type} {fits : α → Inquiry Bool} {fits' : α → m Bool}
    (same : ∀ candidate, (fits candidate).interpret ask = fits' candidate) (candidates : List α) :
    (firstFitting fits candidates).interpret ask = firstFitting fits' candidates := by
  induction candidates with
  | nil => simp [firstFitting]
  | cons candidate rest inductionHypothesis => simp [firstFitting, same, inductionHypothesis]

@[simp] theorem interpret_bind? (onStatic : Bool) (offer : Offer) (required : ShapeMember) :
    (bind? registry question onStatic offer required).interpret ask =
      bind? registry ask onStatic offer required := by
  unfold bind?
  split
  case h_1 => simp
  case h_2 wanted _ =>
    simp [interpret_firstFitting ask (interpret_propertyFits ask onStatic wanted)]
  case h_3 wanted _ =>
    simp [interpret_firstFitting ask (interpret_eventFits ask onStatic wanted)]

@[simp] theorem interpret_bindAll (onStatic : Bool) (offer : Offer) (shape source : TypeId)
    (members : List ShapeMember) :
    (bindAll registry question onStatic offer shape source members).interpret ask =
      bindAll registry ask onStatic offer shape source members := by
  induction members with
  | nil => simp [bindAll]
  | cons required rest inductionHypothesis =>
      simp only [bindAll, interpret_bind, interpret_bind?]
      congr 1
      funext binding
      cases binding with
      | none => simp
      | some binding => simp [inductionHypothesis]

@[simp] theorem interpret_blueprint (onStatic : Bool) (shape source : TypeId) :
    (blueprint registry question onStatic shape source).interpret ask =
      blueprint registry ask onStatic shape source := by
  unfold blueprint
  split <;> simp

end Interpret

/-! ### What a success rests on -/

section Success

variable {allowed : TypeId → TypeId → Bool → Prop} {registry : Registry} {onStatic : Bool}
  {offer : Offer}

theorem affirmed_of_score? {pairs : List (TypeId × TypeId)} {score : Int}
    (outcome : Outcome allowed (score? registry question pairs) (some score)) :
    ∀ pair ∈ pairs, allowed pair.1 pair.2 true := by
  induction pairs generalizing score with
  | nil => exact fun pair member => absurd member List.not_mem_nil
  | cons head rest inductionHypothesis =>
      simp only [score?, outcome_bind, outcome_question] at outcome
      obtain ⟨answer, admitted, continued⟩ := outcome
      cases answer with
      | false => simp at continued
      | true =>
          simp only [if_true, outcome_bind, outcome_pure] at continued
          obtain ⟨others, outcomeOfRest, total⟩ := continued
          obtain ⟨tail, rfl, _⟩ := Option.map_eq_some_iff.1 total.symm
          intro pair member
          rcases List.mem_cons.1 member with rfl | further
          · exact admitted
          · exact inductionHypothesis outcomeOfRest pair further

/-- What is best after a candidate was considered is what was best before, and at least as close, or
the candidate, which is closer. -/
theorem improve_eq_some {best : Option (Method × Int)} {candidate method : Method}
    {scored : Option Int} {score : Int}
    (improved : improve best candidate scored = some (method, score)) :
    (best = some (method, score) ∧ ∀ value, scored = some value → value ≤ score) ∨
      (candidate = method ∧ scored = some score ∧
        ∀ earlier value, best = some (earlier, value) → value < score) := by
  unfold improve at improved
  split at improved
  case h_1 => exact .inl ⟨improved, fun _ impossible => by cases impossible⟩
  case h_2 =>
    split at improved
    case h_1 =>
      cases improved
      exact .inr ⟨rfl, rfl, fun _ _ impossible => by cases impossible⟩
    case h_2 =>
      split at improved
      case isTrue closer =>
        cases improved
        refine .inr ⟨rfl, rfl, fun _ _ same => ?_⟩
        cases same
        exact closer
      case isFalse noCloser =>
        cases improved
        refine .inl ⟨rfl, fun _ same => ?_⟩
        cases same
        exact Int.not_lt.1 noCloser

theorem improve_eq_none {best : Option (Method × Int)} {candidate : Method} {scored : Option Int}
    (unimproved : improve best candidate scored = none) : best = none ∧ scored = none := by
  unfold improve at unimproved
  split at unimproved
  case h_1 => exact ⟨unimproved, rfl⟩
  case h_2 =>
    split at unimproved
    case h_1 => simp at unimproved
    case h_2 => split at unimproved <;> simp at unimproved

theorem affirmed_of_bestAmong {required method : Method} {score : Int}
    {best : Option (Method × Int)} {candidates : List Method}
    (outcome : Outcome allowed (bestAmong registry question required best candidates)
      (some (method, score))) :
    (∃ earlier, best = some (method, earlier)) ∨
      (method ∈ candidates ∧
        ∀ pair ∈ correspondence required method, allowed pair.1 pair.2 true) := by
  induction candidates generalizing best with
  | nil => exact .inl ⟨score, outcome.symm⟩
  | cons candidate rest inductionHypothesis =>
      simp only [bestAmong, outcome_bind] at outcome
      obtain ⟨scored, outcomeOfScore, continued⟩ := outcome
      rcases inductionHypothesis continued with ⟨earlier, improved⟩ | ⟨member, pairs⟩
      · rcases improve_eq_some improved with ⟨kept, _⟩ | ⟨rfl, rfl, _⟩
        · exact .inl ⟨_, kept⟩
        · exact .inr ⟨List.mem_cons_self, affirmed_of_score? outcomeOfScore⟩
      · exact .inr ⟨List.mem_cons_of_mem _ member, pairs⟩

theorem serves_of_bestMethod {required method : Method}
    (outcome : Outcome allowed (bestMethod registry question onStatic offer required)
      (some method)) :
    method ∈ offer.methods ∧
      (Member.method required).Serves (fun target source => allowed target source true) onStatic
        (.method method) := by
  simp only [bestMethod, outcome_bind, outcome_pure] at outcome
  obtain ⟨best, outcomeOfBest, chosen⟩ := outcome
  obtain ⟨⟨found, score⟩, rfl, rfl⟩ := Option.map_eq_some_iff.1 chosen.symm
  rcases affirmed_of_bestAmong outcomeOfBest with ⟨_, never⟩ | ⟨member, pairs⟩
  · exact absurd never (by simp)
  · obtain ⟨offered, eligible⟩ := List.mem_filter.1 member
    exact ⟨offered, of_decide_eq_true eligible, pairs⟩

theorem affirmed_of_allCompatible {pairs : List (TypeId × TypeId)}
    (outcome : Outcome allowed (allCompatible question pairs) true) :
    ∀ pair ∈ pairs, allowed pair.1 pair.2 true := by
  induction pairs with
  | nil => exact fun pair member => absurd member List.not_mem_nil
  | cons head rest inductionHypothesis =>
      simp only [allCompatible, outcome_bind, outcome_question] at outcome
      obtain ⟨answer, admitted, continued⟩ := outcome
      cases answer with
      | false => simp at continued
      | true =>
          intro pair member
          rcases List.mem_cons.1 member with rfl | further
          · exact admitted
          · exact inductionHypothesis (by simpa using continued) pair further

theorem serves_of_propertyFits {required candidate : Property}
    (outcome : Outcome allowed (propertyFits question onStatic required candidate) true) :
    (Member.property required).Serves (fun target source => allowed target source true) onStatic
      (.property candidate) := by
  simp only [propertyFits, outcome_ite, outcome_bind, outcome_question, outcome_pure] at outcome
  rcases outcome with ⟨⟨name, side⟩, answer, admitted, continued⟩ | ⟨_, impossible⟩
  · cases answer with
    | false => simp at continued
    | true =>
        rcases continued with ⟨_, ⟨⟨getter, setter, arity⟩, index⟩ | ⟨_, impossible⟩⟩ | ⟨never, _⟩
        · exact ⟨name, side, getter, setter, arity, admitted, affirmed_of_allCompatible index⟩
        · exact absurd impossible (by decide)
        · exact absurd rfl never
  · exact absurd impossible (by decide)

theorem serves_of_eventFits {required candidate : Event}
    (outcome : Outcome allowed (eventFits question onStatic required candidate) true) :
    (Member.event required).Serves (fun target source => allowed target source true) onStatic
      (.event candidate) := by
  simp only [eventFits, outcome_ite, outcome_question, outcome_pure] at outcome
  rcases outcome with ⟨⟨name, side⟩, admitted⟩ | ⟨_, impossible⟩
  · exact ⟨name, side, admitted⟩
  · exact absurd impossible (by decide)

theorem of_firstFitting {α : Type} {fits : α → Inquiry Bool} {candidates : List α} {chosen : α}
    (outcome : Outcome allowed (firstFitting fits candidates) (some chosen)) :
    chosen ∈ candidates ∧ Outcome allowed (fits chosen) true := by
  induction candidates with
  | nil => simp [firstFitting] at outcome
  | cons candidate rest inductionHypothesis =>
      simp only [firstFitting, outcome_bind] at outcome
      obtain ⟨answer, fitted, continued⟩ := outcome
      cases answer with
      | true =>
          have same : chosen = candidate := by simpa using continued
          exact ⟨same ▸ List.mem_cons_self, same ▸ fitted⟩
      | false =>
          obtain ⟨member, passed⟩ := inductionHypothesis (by simpa using continued)
          exact ⟨List.mem_cons_of_mem _ member, passed⟩

/-- The member that a binding names is offered, and serves the member that was asked for. -/
theorem serves_of_bind? {required : ShapeMember} {binding : Binding}
    (outcome : Outcome allowed (bind? registry question onStatic offer required) (some binding)) :
    binding.required = required ∧ binding.provided ∈ offer.members ∧
      required.member.Serves (fun target source => allowed target source true) onStatic
        binding.provided := by
  unfold bind? at outcome
  split at outcome
  all_goals
    rename_i wanted isWanted
    simp only [outcome_bind, outcome_pure] at outcome
    obtain ⟨served, found, chosen⟩ := outcome
    obtain ⟨provided, rfl, rfl⟩ := Option.map_eq_some_iff.1 chosen.symm
    refine ⟨by rw [Binding.required, ← isWanted], ?_⟩
    rw [isWanted]
  · obtain ⟨offered, serves⟩ := serves_of_bestMethod found
    exact ⟨by simp [Offer.members, Binding.provided, offered], serves⟩
  · obtain ⟨offered, fitted⟩ := of_firstFitting found
    exact ⟨by simp [Offer.members, Binding.provided, offered], serves_of_propertyFits fitted⟩
  · obtain ⟨offered, fitted⟩ := of_firstFitting found
    exact ⟨by simp [Offer.members, Binding.provided, offered], serves_of_eventFits fitted⟩

/-- Each member that was asked for has its binding. -/
theorem bound_of_bindAll {shape source : TypeId} {members : List ShapeMember}
    {bindings : List Binding}
    (outcome : Outcome allowed (bindAll registry question onStatic offer shape source members)
      (.ok bindings)) :
    List.Forall₂ (fun required binding =>
        Outcome allowed (bind? registry question onStatic offer required) (some binding))
      members bindings := by
  induction members generalizing bindings with
  | nil =>
      have nothing : (.ok bindings : Except CastError (List Binding)) = .ok [] := outcome
      cases nothing
      exact .nil
  | cons head rest inductionHypothesis =>
      simp only [bindAll, outcome_bind] at outcome
      obtain ⟨bound, found, continued⟩ := outcome
      cases bound with
      | none => simp at continued
      | some binding =>
          simp only [outcome_bind, outcome_pure] at continued
          obtain ⟨others, outcomeOfRest, all⟩ := continued
          cases others with
          | error cause => simp [Except.map] at all
          | ok others =>
              have whole : bindings = binding :: others := by simpa [Except.map] using all
              rw [whole]
              exact .cons found (inductionHypothesis outcomeOfRest)

/-- A blueprint binds all that the shape asks for, and says what it is for. -/
theorem bindings_of_blueprint {shape source : TypeId} {blueprint : Blueprint}
    (outcome : Outcome allowed (Resolution.blueprint registry question onStatic shape source)
      (.ok blueprint)) :
    ∃ members bindings, registry.shapeMembers shape = .ok members ∧
      Outcome allowed (bindAll registry question onStatic (Offer.of registry source onStatic) shape
        source members) (.ok bindings) ∧
      blueprint = ⟨shape, source, onStatic, bindings⟩ := by
  unfold Resolution.blueprint at outcome
  split at outcome
  case h_1 => simp at outcome
  case h_2 members found =>
    simp only [outcome_bind, outcome_pure] at outcome
    obtain ⟨bindings, outcomeOfMembers, made⟩ := outcome
    cases bindings with
    | error cause => simp [Except.map] at made
    | ok bindings => exact ⟨members, bindings, found, outcomeOfMembers, Except.ok.inj made⟩

/-- Each member that a shape asks for has its binding in a blueprint. -/
theorem exists_binding {shape source : TypeId} {blueprint : Blueprint}
    (outcome : Outcome allowed (Resolution.blueprint registry question onStatic shape source)
      (.ok blueprint)) {members : List ShapeMember}
    (flattens : registry.shapeMembers shape = .ok members) {required : ShapeMember}
    (isRequired : required ∈ members) :
    ∃ binding ∈ blueprint.bindings, Outcome allowed
      (bind? registry question onStatic (Offer.of registry source onStatic) required)
        (some binding) := by
  obtain ⟨others, bindings, found, outcomeOfMembers, rfl⟩ := bindings_of_blueprint outcome
  obtain rfl : members = others := Except.ok.inj (flattens.symm.trans found)
  exact exists_of_mem_left (bound_of_bindAll outcomeOfMembers) isRequired

theorem fulfils_of_blueprint {shape source : TypeId} {blueprint : Blueprint}
    (outcome : Outcome allowed (Resolution.blueprint registry question onStatic shape source)
      (.ok blueprint)) :
    registry.Fulfils (fun target source => allowed target source true) onStatic shape source := by
  obtain ⟨members, _, found, _⟩ := bindings_of_blueprint outcome
  refine ⟨members, found, fun required isRequired => ?_⟩
  obtain ⟨binding, _, bound⟩ := exists_binding outcome found isRequired
  exact ⟨binding.provided, (serves_of_bind? bound).2⟩

/-- A binding is for a member that the shape asks for, and names one that the source offers and that
serves it. -/
theorem bound_of_blueprint {shape source : TypeId} {blueprint : Blueprint}
    (outcome : Outcome allowed (Resolution.blueprint registry question onStatic shape source)
      (.ok blueprint)) {binding : Binding} (isBound : binding ∈ blueprint.bindings) :
    (∃ members, registry.shapeMembers shape = .ok members ∧ binding.required ∈ members) ∧
      binding.provided ∈ (Offer.of registry source onStatic).members ∧
      binding.required.member.Serves (fun target source => allowed target source true) onStatic
        binding.provided := by
  obtain ⟨members, bindings, found, outcomeOfMembers, rfl⟩ := bindings_of_blueprint outcome
  obtain ⟨required, isRequired, bound⟩ :=
    exists_of_mem_right (bound_of_bindAll outcomeOfMembers) isBound
  obtain ⟨rfl, serves⟩ := serves_of_bind? bound
  exact ⟨⟨members, found, isRequired⟩, serves⟩

/-- What a binding names serves what it is for. -/
theorem serves_of_blueprint {shape source : TypeId} {blueprint : Blueprint}
    (outcome : Outcome allowed (Resolution.blueprint registry question onStatic shape source)
      (.ok blueprint)) {binding : Binding} (isBound : binding ∈ blueprint.bindings) :
    binding.required.member.Serves (fun target source => allowed target source true) onStatic
      binding.provided :=
  (bound_of_blueprint outcome isBound).2.2

/-- A blueprint says what it is for. -/
theorem subject_of_blueprint {shape source : TypeId} {blueprint : Blueprint}
    (outcome : Outcome allowed (Resolution.blueprint registry question onStatic shape source)
      (.ok blueprint)) :
    blueprint.shape = shape ∧ blueprint.source = source ∧ blueprint.isStatic = onStatic := by
  obtain ⟨_, _, _, _, rfl⟩ := bindings_of_blueprint outcome
  exact ⟨rfl, rfl, rfl⟩

end Success

/-! ### What a failure is about -/

section Refusal

variable {allowed : TypeId → TypeId → Bool → Prop} {registry : Registry} {onStatic : Bool}
  {shape source : TypeId} {members : List ShapeMember} {cause : CastError}

/-- Binding fails at a member that nothing serves, and says which one it is. -/
theorem unbound_of_bindAll {offer : Offer}
    (outcome : Outcome allowed (bindAll registry question onStatic offer shape source members)
      (.error cause)) :
    ∃ required ∈ members, Outcome allowed (bind? registry question onStatic offer required) none ∧
      cause = .memberNotImplemented (registry.name shape) (registry.name source)
        (required.describe registry) := by
  induction members with
  | nil => simp [bindAll] at outcome
  | cons head rest inductionHypothesis =>
      simp only [bindAll, outcome_bind] at outcome
      obtain ⟨bound, found, continued⟩ := outcome
      cases bound with
      | none => exact ⟨head, List.mem_cons_self, found, Except.error.inj continued⟩
      | some binding =>
          simp only [outcome_bind, outcome_pure] at continued
          obtain ⟨others, outcomeOfRest, all⟩ := continued
          cases others with
          | ok others => simp [Except.map] at all
          | error other =>
              obtain rfl : cause = other := by simpa [Except.map] using all
              obtain ⟨required, member, unbound⟩ := inductionHypothesis outcomeOfRest
              exact ⟨required, List.mem_cons_of_mem _ member, unbound⟩

/-- A shape that can be flattened is refused because of a member that nothing serves. -/
theorem unbound_of_blueprint
    (outcome : Outcome allowed (Resolution.blueprint registry question onStatic shape source)
      (.error cause)) (flattens : registry.shapeMembers shape = .ok members) :
    ∃ required ∈ members,
      Outcome allowed (bind? registry question onStatic (Offer.of registry source onStatic) required)
        none ∧
      cause = .memberNotImplemented (registry.name shape) (registry.name source)
        (required.describe registry) := by
  rw [Resolution.blueprint, flattens] at outcome
  simp only [outcome_bind, outcome_pure] at outcome
  obtain ⟨bindings, outcomeOfMembers, made⟩ := outcome
  cases bindings with
  | ok bindings => simp [Except.map] at made
  | error other =>
      obtain rfl : cause = other := by simpa [Except.map] using made
      exact unbound_of_bindAll outcomeOfMembers

end Refusal

/-! ### What a failure rules out -/

section Failure

variable {allowed : TypeId → TypeId → Bool → Prop} {holds : TypeId → TypeId → Prop}
  {registry : Registry} {onStatic : Bool} {offer : Offer}
  (avoids : ∀ target source, holds target source → ¬ allowed target source false)

include avoids

theorem denied_of_score? {pairs : List (TypeId × TypeId)}
    (outcome : Outcome allowed (score? registry question pairs) none) :
    ¬ ∀ pair ∈ pairs, holds pair.1 pair.2 := by
  intro allHold
  induction pairs with
  | nil => simp [score?] at outcome
  | cons head rest inductionHypothesis =>
      simp only [score?, outcome_bind, outcome_question] at outcome
      obtain ⟨answer, admitted, continued⟩ := outcome
      cases answer with
      | false => exact avoids _ _ (allHold head List.mem_cons_self) admitted
      | true =>
          simp only [if_true, outcome_bind, outcome_pure] at continued
          obtain ⟨others, outcomeOfRest, total⟩ := continued
          rw [Option.map_eq_none_iff.1 total.symm] at outcomeOfRest
          exact inductionHypothesis outcomeOfRest fun pair member =>
            allHold pair (List.mem_cons_of_mem _ member)

theorem denied_of_bestAmong {required : Method} {best : Option (Method × Int)}
    {candidates : List Method}
    (outcome : Outcome allowed (bestAmong registry question required best candidates) none) :
    best = none ∧
      ∀ candidate ∈ candidates,
        ¬ ∀ pair ∈ correspondence required candidate, holds pair.1 pair.2 := by
  induction candidates generalizing best with
  | nil => exact ⟨outcome.symm, fun candidate member => absurd member List.not_mem_nil⟩
  | cons head rest inductionHypothesis =>
      simp only [bestAmong, outcome_bind] at outcome
      obtain ⟨scored, outcomeOfScore, continued⟩ := outcome
      obtain ⟨unimproved, denied⟩ := inductionHypothesis continued
      obtain ⟨rfl, rfl⟩ := improve_eq_none unimproved
      refine ⟨rfl, fun candidate member => ?_⟩
      rcases List.mem_cons.1 member with rfl | further
      · exact denied_of_score? avoids outcomeOfScore
      · exact denied candidate further

theorem denied_of_bestMethod {required : Method}
    (outcome : Outcome allowed (bestMethod registry question onStatic offer required) none) :
    ∀ candidate ∈ offer.methods,
      ¬ (Member.method required).Serves holds onStatic (.method candidate) := by
  simp only [bestMethod, outcome_bind, outcome_pure] at outcome
  obtain ⟨best, outcomeOfBest, chosen⟩ := outcome
  rw [Option.map_eq_none_iff.1 chosen.symm] at outcomeOfBest
  rintro candidate member ⟨eligible, pairs⟩
  have considered : candidate ∈ offer.methods.filter fun candidate =>
      Eligible required onStatic candidate := List.mem_filter.2 ⟨member, decide_eq_true eligible⟩
  exact (denied_of_bestAmong avoids outcomeOfBest).2 candidate considered pairs

theorem denied_of_allCompatible {pairs : List (TypeId × TypeId)}
    (outcome : Outcome allowed (allCompatible question pairs) false) :
    ¬ ∀ pair ∈ pairs, holds pair.1 pair.2 := by
  intro allHold
  induction pairs with
  | nil => simp [allCompatible] at outcome
  | cons head rest inductionHypothesis =>
      simp only [allCompatible, outcome_bind, outcome_question] at outcome
      obtain ⟨answer, admitted, continued⟩ := outcome
      cases answer with
      | false => exact avoids _ _ (allHold head List.mem_cons_self) admitted
      | true =>
          exact inductionHypothesis (by simpa using continued) fun pair member =>
            allHold pair (List.mem_cons_of_mem _ member)

theorem denied_of_propertyFits {required candidate : Property}
    (outcome : Outcome allowed (propertyFits question onStatic required candidate) false) :
    ¬ (Member.property required).Serves holds onStatic (.property candidate) := by
  rintro ⟨name, side, getter, setter, arity, type, index⟩
  rw [propertyFits, if_pos ⟨name, side⟩] at outcome
  simp only [outcome_bind, outcome_question] at outcome
  obtain ⟨answer, admitted, continued⟩ := outcome
  cases answer with
  | false => exact avoids _ _ type admitted
  | true =>
      rw [if_pos rfl, if_pos ⟨getter, setter, arity⟩] at continued
      exact denied_of_allCompatible avoids continued index

theorem denied_of_eventFits {required candidate : Event}
    (outcome : Outcome allowed (eventFits question onStatic required candidate) false) :
    ¬ (Member.event required).Serves holds onStatic (.event candidate) := by
  rintro ⟨name, side, handler⟩
  rw [eventFits, if_pos ⟨name, side⟩] at outcome
  exact avoids _ _ handler (outcome_question.1 outcome)

omit avoids in
theorem refused_of_firstFitting {α : Type} {fits : α → Inquiry Bool} {candidates : List α}
    (outcome : Outcome allowed (firstFitting fits candidates) none) :
    ∀ candidate ∈ candidates, Outcome allowed (fits candidate) false := by
  induction candidates with
  | nil => exact fun candidate member => absurd member List.not_mem_nil
  | cons head rest inductionHypothesis =>
      simp only [firstFitting, outcome_bind] at outcome
      obtain ⟨answer, fitted, continued⟩ := outcome
      cases answer with
      | true => simp at continued
      | false =>
          intro candidate member
          rcases List.mem_cons.1 member with rfl | further
          · exact fitted
          · exact inductionHypothesis (by simpa using continued) candidate further

theorem denied_of_bind? {required : ShapeMember}
    (outcome : Outcome allowed (bind? registry question onStatic offer required) none) :
    ∀ offered ∈ offer.members, ¬ required.member.Serves holds onStatic offered := by
  intro offered member serves
  unfold bind? at outcome
  split at outcome
  all_goals
    rename_i wanted isWanted
    simp only [outcome_bind, outcome_pure] at outcome
    obtain ⟨served, unserved, chosen⟩ := outcome
    rw [Option.map_eq_none_iff.1 chosen.symm] at unserved
    rw [isWanted] at serves
  · cases offered with
    | method candidate =>
        have listed : candidate ∈ offer.methods := by simpa [Offer.members] using member
        exact denied_of_bestMethod avoids unserved candidate listed serves
    | property _ => exact serves
    | event _ => exact serves
  · cases offered with
    | method _ => exact serves
    | property candidate =>
        have listed : candidate ∈ offer.properties := by simpa [Offer.members] using member
        have refused := refused_of_firstFitting unserved candidate listed
        exact denied_of_propertyFits avoids refused serves
    | event _ => exact serves
  · cases offered with
    | method _ => exact serves
    | property _ => exact serves
    | event candidate =>
        have listed : candidate ∈ offer.events := by simpa [Offer.members] using member
        have refused := refused_of_firstFitting unserved candidate listed
        exact denied_of_eventFits avoids refused serves

theorem not_fulfils_of_blueprint {shape source : TypeId} {cause : CastError}
    (outcome : Outcome allowed (Resolution.blueprint registry question onStatic shape source)
      (.error cause)) :
    ¬ registry.Fulfils holds onStatic shape source := by
  rintro ⟨members, found, served⟩
  obtain ⟨required, member, unbound, _⟩ := unbound_of_blueprint outcome found
  obtain ⟨offered, isOffered, serves⟩ := served required member
  exact denied_of_bind? avoids unbound offered isOffered serves

end Failure

end Resolution
end StructuralCast
