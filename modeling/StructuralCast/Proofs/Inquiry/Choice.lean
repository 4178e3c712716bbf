import StructuralCast.Forwarding
import StructuralCast.Proofs.Inquiry.Resolution

/-!
Contract: which of several members that serve is bound.

With one fixed answer to each question, how close a method is depends on its types alone. So the
method that is bound is the first one offered that declares its types (`find?_of_bestMethod`), and a
property that is bound is the first one that declares its types and has the accessors that are asked
for (`find?_of_firstProperty`). These are the tests by which a member of a derived type is found to take
the place of one above it.
-/

namespace StructuralCast

namespace Inquiry

variable {α : Type} {answer : TypeId → TypeId → Bool}

/-- Fixed answers lead to one result. -/
theorem eq_eval_of_outcome {inquiry : Inquiry α} {result : α}
    (outcome : Outcome (fun target source reply => reply = answer target source) inquiry result) :
    result = inquiry.eval answer := by
  induction inquiry with
  | done final => exact outcome
  | ask bothWays target source next inductionHypothesis =>
      obtain ⟨reply, rfl, further⟩ := outcome
      exact inductionHypothesis _ further

theorem outcome_unique {inquiry : Inquiry α} {first second : α}
    (one : Outcome (fun target source reply => reply = answer target source) inquiry first)
    (other : Outcome (fun target source reply => reply = answer target source) inquiry second) :
    first = second :=
  (eq_eval_of_outcome one).trans (eq_eval_of_outcome other).symm

end Inquiry

namespace Resolution

open Inquiry

variable {registry : Registry} {answer : TypeId → TypeId → Bool} {offer : Offer}

/-! ### Methods -/

/-- How close a candidate is, by fixed answers. -/
def scored (registry : Registry) (answer : TypeId → TypeId → Bool) (required candidate : Method) :
    Option Int :=
  (score? registry question (correspondence required candidate)).eval answer

/-- What is closer than the best after a candidate was considered is closer than the candidate and
than what was best before. -/
theorem lt_of_improve {best : Option (Method × Int)} {candidate : Method} {given : Option Int}
    {score : Int}
    (closer : ∀ method value, improve best candidate given = some (method, value) → value < score) :
    (∀ value, given = some value → value < score) ∧
      ∀ method value, best = some (method, value) → value < score := by
  cases given with
  | none => exact ⟨fun _ impossible => (nomatch impossible), closer⟩
  | some own =>
      cases best with
      | none =>
          refine ⟨fun value same => ?_, fun _ _ impossible => (nomatch impossible)⟩
          cases same
          exact closer candidate own rfl
      | some holder =>
          obtain ⟨held, highest⟩ := holder
          simp only [improve] at closer
          by_cases improves : highest < own
          · have passed := closer candidate own (if_pos improves)
            refine ⟨fun value same => ?_, fun _ value same => ?_⟩
            · cases same
              exact passed
            · cases same
              exact Int.lt_trans improves passed
          · have passed := closer held highest (if_neg improves)
            refine ⟨fun value same => ?_, fun _ value same => ?_⟩
            · cases same
              exact Int.lt_of_le_of_lt (Int.not_lt.1 improves) passed
            · cases same
              exact passed

/-- The best of several candidates is closer than all that come before it. -/
theorem first_of_bestAmong {required method : Method} {score : Int} {best : Option (Method × Int)}
    {candidates : List Method}
    (outcome : Outcome (fun target source reply => reply = answer target source)
      (bestAmong registry question required best candidates) (some (method, score))) :
    best = some (method, score) ∨
      (∀ earlier value, best = some (earlier, value) → value < score) ∧
        ∃ before after, candidates = before ++ method :: after ∧
          scored registry answer required method = some score ∧
          ∀ earlier ∈ before, ∀ value,
            scored registry answer required earlier = some value → value < score := by
  induction candidates generalizing best with
  | nil => exact .inl outcome.symm
  | cons candidate rest inductionHypothesis =>
      simp only [bestAmong, outcome_bind] at outcome
      obtain ⟨given, outcomeOfScore, continued⟩ := outcome
      obtain rfl : given = scored registry answer required candidate :=
        eq_eval_of_outcome outcomeOfScore
      rcases inductionHypothesis continued with improved | ⟨closer, before, after, rfl, own, least⟩
      · rcases improve_eq_some improved with ⟨kept, _⟩ | ⟨rfl, own, closer⟩
        · exact .inl kept
        · exact .inr ⟨closer, [], rest, rfl, own, fun _ impossible => absurd impossible List.not_mem_nil⟩
      · obtain ⟨passesCandidate, passesBest⟩ := lt_of_improve closer
        refine .inr ⟨passesBest, candidate :: before, after, rfl, own, ?_⟩
        intro earlier member
        rcases List.mem_cons.1 member with rfl | further
        · exact passesCandidate
        · exact least earlier further

/-- A method that is bound is the first one offered that declares its types. -/
theorem find?_of_bestMethod {required method : Method}
    (outcome : Outcome (fun target source reply => reply = answer target source)
      (bestMethod registry question false offer required) (some method)) :
    offer.methods.find? (Factory.overridesMethod method) = some method := by
  have eligible : Eligible required false method := (serves_of_bestMethod outcome).2.1
  simp only [bestMethod, outcome_bind, outcome_pure] at outcome
  obtain ⟨best, outcomeOfBest, chosen⟩ := outcome
  obtain ⟨⟨found, score⟩, rfl, rfl⟩ := Option.map_eq_some_iff.1 chosen.symm
  rcases first_of_bestAmong outcomeOfBest with impossible | ⟨_, before, after, split, own, least⟩
  · cases impossible
  have first : (offer.methods.filter fun candidate => Eligible required false candidate).find?
      (fun candidate => candidate.params = found.params && candidate.result = found.result) =
        some found := by
    refine List.find?_eq_some_iff_append.2 ⟨by simp, before, after, split, ?_⟩
    intro earlier isEarlier
    -- Two methods of the same types are equally close.
    by_contra sameTypes
    simp only [Bool.not_eq_true', Bool.not_eq_false, Bool.and_eq_true, decide_eq_true_eq] at sameTypes
    have sameScore : scored registry answer required earlier = some score := by
      rw [← own, scored, scored, correspondence, correspondence, sameTypes.1, sameTypes.2]
    exact Int.lt_irrefl score (least earlier isEarlier score sameScore)
  rw [List.find?_filter] at first
  rw [← first]
  congr 1
  funext candidate
  obtain ⟨_, _, name, arity, length⟩ := eligible
  rw [Bool.eq_iff_iff]
  simp only [Factory.overridesMethod, Eligible, Bool.and_eq_true, decide_eq_true_eq,
    Bool.not_eq_true', ← name, ← arity, ← length]
  constructor
  · rintro ⟨⟨⟨⟨⟨sameName, side⟩, visible⟩, sameParams⟩, sameResult⟩, sameArity⟩
    exact ⟨⟨side, visible, sameName, sameArity, by rw [sameParams]⟩, sameParams, sameResult⟩
  · rintro ⟨⟨side, visible, sameName, sameArity, _⟩, sameParams, sameResult⟩
    exact ⟨⟨⟨⟨⟨sameName, side⟩, visible⟩, sameParams⟩, sameResult⟩, sameArity⟩

/-! ### Properties -/

/-- A property that declares the types of another one and has the accessors that are asked for. -/
def standsFor (required bound candidate : Property) : Bool :=
  Factory.overridesProperty bound candidate && covers required.getter candidate.getter &&
    covers required.setter candidate.setter

/-- Where the accessors do, the fit of a property depends on its name and types alone. -/
theorem propertyFits_congr {required bound candidate : Property}
    (bindable : (Member.property required).Serves (fun _ _ => True) false (.property bound))
    (stands : standsFor required bound candidate = true) :
    propertyFits question false required candidate = propertyFits question false required bound := by
  obtain ⟨name, side, getter, setter, length, _⟩ := bindable
  simp only [standsFor, Factory.overridesProperty, Bool.and_eq_true, decide_eq_true_eq,
    Bool.not_eq_true'] at stands
  obtain ⟨⟨⟨⟨⟨sameSide, sameName⟩, sameType⟩, sameIndex⟩, hasGetter⟩, hasSetter⟩ := stands
  simp only [propertyFits, sameName, name, sameSide, side, sameType, sameIndex, getter, setter,
    hasGetter, hasSetter]

/-- A property that is bound is the first one offered that declares its types and has the accessors
that are asked for. -/
theorem find?_of_firstProperty {required property : Property} {properties : List Property}
    (outcome : Outcome (fun target source reply => reply = answer target source)
      (firstFitting (propertyFits question false required) properties) (some property)) :
    properties.find? (standsFor required property) = some property := by
  have fitted := (of_firstFitting outcome).2
  have serves := serves_of_propertyFits fitted
  have bindable : (Member.property required).Serves (fun _ _ => True) false (.property property) :=
    serves.mono_on (fun _ _ => trivial) (fun _ _ => trivial) fun _ _ _ _ _ => trivial
  have standsForItself : standsFor required property property = true := by
    obtain ⟨name, side, getter, setter, _⟩ := bindable
    simp [standsFor, Factory.overridesProperty, side, getter, setter]
  induction properties with
  | nil => simp [firstFitting] at outcome
  | cons candidate rest inductionHypothesis =>
      simp only [firstFitting, outcome_bind] at outcome
      obtain ⟨reply, fitsCandidate, continued⟩ := outcome
      cases reply with
      | true =>
          obtain rfl : property = candidate := by simpa using continued
          rw [List.find?_cons_of_pos standsForItself]
      | false =>
          have differs : ¬ standsFor required property candidate = true := by
            intro stands
            rw [propertyFits_congr bindable stands] at fitsCandidate
            exact absurd (outcome_unique fitsCandidate fitted) (by decide)
          rw [List.find?_cons_of_neg differs]
          exact inductionHypothesis (by simpa using continued)

end Resolution
end StructuralCast
