import StructuralCast.Proofs.Inquiry.Choice

/-!
Contract: the method that is bound is the best one that serves.

Closeness is never positive, and zero for identical types only (`closeness_nonpos`, `closeness_neg`);
so is its sum over the types of a method. With one fixed answer to each question the method that is
bound is `Foremost`: it serves, no other that serves is closer, and none before it is as close. So a
method that declares just what is required cannot be passed over, unless for an earlier one like it.
-/

namespace StructuralCast

namespace Registry

variable {registry : Registry}

theorem distance?_pos {left right : TypeId} {steps : Nat} (different : left ≠ right)
    (found : registry.distance? left right = some steps) : 0 < steps := by
  refine Nat.pos_of_ne_zero fun none => different ?_
  subst none
  obtain ⟨_, first, _⟩ := List.idxOf?_eq_some_iff.1 found
  exact first

theorem closeness_self (id : TypeId) : registry.closeness id id = 0 := if_pos rfl

/-- Different types are some way apart. -/
theorem closeness_neg {left right : TypeId} (different : left ≠ right) :
    registry.closeness left right < 0 := by
  rw [closeness, if_neg different]
  split
  case h_1 steps found =>
    have apart : 0 < steps := by
      have either : registry.distance? left right = some steps ∨
          registry.distance? left right = none ∧ registry.distance? right left = some steps := by
        simpa using found
      rcases either with forward | ⟨_, backward⟩
      · exact distance?_pos different forward
      · exact distance?_pos different.symm backward
    have below : Int.neg steps < 0 := Int.neg_neg_of_pos (Int.natCast_pos.2 apart)
    have floor : leastCloseness < 0 := by decide
    omega
  case h_2 => decide

theorem closeness_nonpos (left right : TypeId) : registry.closeness left right ≤ 0 := by
  by_cases same : left = right
  · exact Int.le_of_eq (same ▸ closeness_self left)
  · exact Int.le_of_lt (closeness_neg same)

end Registry

namespace Resolution

open Inquiry

variable {registry : Registry} {answer : TypeId → TypeId → Bool} {offer : Offer}

/-! ### Closeness of methods -/

/-- The closeness of two methods, summed over their types. -/
def totalCloseness (registry : Registry) (required candidate : Method) : Int :=
  ((correspondence required candidate).map fun pair => registry.closeness pair.1 pair.2).foldr
    addCloseness 0

/-- All types of one method are those of the other. -/
def SameTypes (required candidate : Method) : Prop :=
  candidate.params = required.params ∧ candidate.result = required.result

theorem sum_nonpos {values : List Int} (nonpos : ∀ value ∈ values, value ≤ 0) :
    values.foldr addCloseness 0 ≤ 0 := by
  induction values with
  | nil => exact Int.le_refl 0
  | cons value rest inductionHypothesis =>
      have first := nonpos value List.mem_cons_self
      have others := inductionHypothesis fun other member => nonpos other (List.mem_cons_of_mem _ member)
      have floor : Registry.leastCloseness ≤ 0 := by decide
      simp only [List.foldr_cons, addCloseness]
      omega

/-- A sum of closeness is zero only if all of it is. -/
theorem sum_eq_zero {values : List Int} (nonpos : ∀ value ∈ values, value ≤ 0)
    (zero : values.foldr addCloseness 0 = 0) : ∀ value ∈ values, value = 0 := by
  induction values with
  | nil => exact fun value never => absurd never List.not_mem_nil
  | cons value rest inductionHypothesis =>
      have first := nonpos value List.mem_cons_self
      have nonposRest : ∀ other ∈ rest, other ≤ 0 :=
        fun other member => nonpos other (List.mem_cons_of_mem _ member)
      have others := sum_nonpos nonposRest
      have floor : Registry.leastCloseness < 0 := by decide
      simp only [List.foldr_cons, addCloseness] at zero
      intro other member
      rcases List.mem_cons.1 member with rfl | further
      · omega
      · exact inductionHypothesis nonposRest (by omega) other further

theorem nonpos_of_correspondence {required candidate : Method} {value : Int}
    (member : value ∈ (correspondence required candidate).map fun pair =>
      registry.closeness pair.1 pair.2) : value ≤ 0 := by
  obtain ⟨pair, _, rfl⟩ := List.mem_map.1 member
  exact Registry.closeness_nonpos pair.1 pair.2

theorem totalCloseness_nonpos (required candidate : Method) :
    totalCloseness registry required candidate ≤ 0 :=
  sum_nonpos fun _ => nonpos_of_correspondence

theorem eq_of_zip_eq {left right : List TypeId} (length : left.length = right.length)
    (same : ∀ pair ∈ left.zip right, pair.1 = pair.2) : left = right := by
  refine List.ext_getElem length fun index inLeft inRight => ?_
  have within : index < (left.zip right).length := by
    rw [List.length_zip]
    omega
  have together := same _ (List.getElem_mem within)
  simpa using together

/-- Methods of one arity are at no distance only if they have the same types. -/
theorem sameTypes_of_totalCloseness {required candidate : Method}
    (length : candidate.params.length = required.params.length)
    (zero : totalCloseness registry required candidate = 0) : SameTypes required candidate := by
  have same : ∀ pair ∈ correspondence required candidate, pair.1 = pair.2 := by
    intro pair member
    by_contra different
    have none := sum_eq_zero (fun _ => nonpos_of_correspondence) zero _ (List.mem_map_of_mem member)
    have below : registry.closeness pair.1 pair.2 < 0 := Registry.closeness_neg different
    omega
  exact ⟨eq_of_zip_eq length fun pair member => same pair (List.mem_append_left _ member),
    (same _ (List.mem_append_right _ (List.mem_singleton.2 rfl))).symm⟩

theorem sum_zeros {values : List Int} (zeros : ∀ value ∈ values, value = 0) :
    values.foldr addCloseness 0 = 0 := by
  induction values with
  | nil => rfl
  | cons value rest inductionHypothesis =>
      rw [List.foldr_cons, zeros value List.mem_cons_self,
        inductionHypothesis fun other member => zeros other (List.mem_cons_of_mem _ member)]
      decide

/-- The types that a method has in common with itself. -/
theorem eq_of_mem_correspondence {required candidate : Method} (same : SameTypes required candidate)
    {pair : TypeId × TypeId} (member : pair ∈ correspondence required candidate) :
    pair.1 = pair.2 ∧ pair.1 ∈ required.params ++ [required.result] := by
  rw [correspondence, same.1, same.2] at member
  rcases List.mem_append.1 member with ofParams | ofResult
  · obtain ⟨index, within, rfl⟩ := List.getElem_of_mem ofParams
    rw [List.getElem_zip]
    exact ⟨rfl, List.mem_append_left _ (List.getElem_mem _)⟩
  · rw [List.mem_singleton.1 ofResult]
    exact ⟨rfl, List.mem_append_right _ (List.mem_singleton.2 rfl)⟩

theorem totalCloseness_of_sameTypes {required candidate : Method}
    (same : SameTypes required candidate) : totalCloseness registry required candidate = 0 := by
  refine sum_zeros fun value member => ?_
  obtain ⟨pair, isPair, rfl⟩ := List.mem_map.1 member
  rw [(eq_of_mem_correspondence same isPair).1, Registry.closeness_self]

/-! ### The best of several methods -/

/-- A method that serves, that none is closer than, and that none before is as close as. -/
def Foremost (serves : Method → Prop) (closeness : Method → Int) (offered : List Method)
    (best : Method) : Prop :=
  ∃ before after, offered = before ++ best :: after ∧ serves best ∧
    (∀ other ∈ before, serves other → closeness other < closeness best) ∧
    ∀ other ∈ after, serves other → closeness other ≤ closeness best

theorem Foremost.le {serves : Method → Prop} {closeness : Method → Int} {offered : List Method}
    {best other : Method} (foremost : Foremost serves closeness offered best)
    (member : other ∈ offered) (alsoServes : serves other) : closeness other ≤ closeness best := by
  obtain ⟨before, after, rfl, _, earlier, later⟩ := foremost
  rcases List.mem_append.1 member with isEarlier | others
  · exact Int.le_of_lt (earlier other isEarlier alsoServes)
  · rcases List.mem_cons.1 others with rfl | isLater
    · exact Int.le_refl _
    · exact later other isLater alsoServes

theorem Foremost.congr {serves serves' : Method → Prop} {closeness : Method → Int}
    {offered : List Method} {best : Method} (foremost : Foremost serves closeness offered best)
    (same : ∀ method ∈ offered, serves method ↔ serves' method) :
    Foremost serves' closeness offered best := by
  obtain ⟨before, after, rfl, servesBest, earlier, later⟩ := foremost
  refine ⟨before, after, rfl, (same best (by simp)).1 servesBest, fun other member alsoServes => ?_,
    fun other member alsoServes => ?_⟩
  · exact earlier other member ((same other (by simp [member])).2 alsoServes)
  · exact later other member ((same other (by simp [member])).2 alsoServes)

/-- Methods that cannot serve may be left out before. -/
theorem Foremost.of_filter {serves : Method → Prop} {closeness : Method → Int}
    {offered : List Method} {best : Method} (test : Method → Bool)
    (tested : ∀ method, serves method → test method = true)
    (foremost : Foremost serves closeness (offered.filter test) best) :
    Foremost serves closeness offered best := by
  obtain ⟨before, after, split, servesBest, earlier, later⟩ := foremost
  obtain ⟨front, back, rfl, rfl, splitBack⟩ := List.filter_eq_append_iff.1 split
  obtain ⟨skipped, rest, rfl, none, _, rfl⟩ := List.filter_eq_cons_iff.1 splitBack
  refine ⟨front ++ skipped, rest, by simp, servesBest, fun other member alsoServes => ?_,
    fun other member alsoServes => ?_⟩
  · rcases List.mem_append.1 member with inFront | inSkipped
    · exact earlier other (List.mem_filter.2 ⟨inFront, tested other alsoServes⟩) alsoServes
    · exact absurd (tested other alsoServes) (none other inSkipped)
  · exact later other (List.mem_filter.2 ⟨member, tested other alsoServes⟩) alsoServes

/-- With fixed answers, a candidate has a score if all its types are compatible, and then it is how close
it is. -/
theorem scored_eq (required candidate : Method) :
    scored registry answer required candidate =
      if ∀ pair ∈ correspondence required candidate, answer pair.1 pair.2 = true then
        some (totalCloseness registry required candidate)
      else none := by
  have summed : ∀ pairs : List (TypeId × TypeId),
      (score? registry question pairs).eval answer =
        if ∀ pair ∈ pairs, answer pair.1 pair.2 = true then
          some ((pairs.map fun pair => registry.closeness pair.1 pair.2).foldr addCloseness 0)
        else none := by
    intro pairs
    rw [eval, interpret_score?]
    induction pairs with
    | nil => exact (if_pos fun _ never => nomatch never).symm
    | cons pair rest inductionHypothesis =>
        show (if answer pair.1 pair.2 then
          (score? registry (answering answer) rest : Id _).map _ else none) = _
        rw [inductionHypothesis]
        by_cases answered : answer pair.1 pair.2 = true
        · by_cases others : ∀ pair ∈ rest, answer pair.1 pair.2 = true
          · rw [if_pos answered, if_pos others, if_pos (by simpa [answered] using others)]
            rfl
          · rw [if_pos answered, if_neg others, if_neg (by simpa [answered] using others)]
            rfl
        · rw [if_neg answered, if_neg (by simp [answered])]
  exact summed _

/-- The best of several candidates is at least as close as each of them. -/
theorem le_of_bestAmong {required method : Method} {score : Int} {best : Option (Method × Int)}
    {candidates : List Method}
    (outcome : Outcome (fun target source reply => reply = answer target source)
      (bestAmong registry question required best candidates) (some (method, score))) :
    (∀ earlier value, best = some (earlier, value) → value ≤ score) ∧
      ∀ candidate ∈ candidates, ∀ value,
        scored registry answer required candidate = some value → value ≤ score := by
  induction candidates generalizing best with
  | nil =>
      refine ⟨fun earlier value same => ?_, fun _ never => absurd never List.not_mem_nil⟩
      cases same.symm.trans outcome.symm
      exact Int.le_refl score
  | cons candidate rest inductionHypothesis =>
      simp only [bestAmong, outcome_bind] at outcome
      obtain ⟨given, outcomeOfScore, continued⟩ := outcome
      obtain rfl : given = scored registry answer required candidate :=
        eq_eval_of_outcome outcomeOfScore
      obtain ⟨highest, others⟩ := inductionHypothesis continued
      obtain ⟨passesCandidate, passesBest⟩ := lt_of_improve fun method value improved =>
        Int.lt_add_one_iff.2 (highest method value improved)
      refine ⟨fun earlier value same => Int.lt_add_one_iff.1 (passesBest earlier value same),
        fun other member => ?_⟩
      rcases List.mem_cons.1 member with rfl | further
      · exact fun value same => Int.lt_add_one_iff.1 (passesCandidate value same)
      · exact others other further

/-- With fixed answers, what is bound is foremost among the methods that serve. -/
theorem foremost_of_bestMethod {onStatic : Bool} {required best : Method}
    (outcome : Outcome (fun target source reply => reply = answer target source)
      (bestMethod registry question onStatic offer required) (some best)) :
    Foremost (fun candidate => (Member.method required).Serves
        (fun target source => answer target source = true) onStatic (.method candidate))
      (totalCloseness registry required) offer.methods best := by
  have serves := (serves_of_bestMethod outcome).2.mono_on (fun _ _ => trivial) (fun _ _ => trivial)
    fun _ _ (_ : True) (_ : True) (same : true = answer _ _) => same.symm
  simp only [bestMethod, outcome_bind, outcome_pure] at outcome
  obtain ⟨chosen, outcomeOfBest, isChosen⟩ := outcome
  obtain ⟨⟨found, score⟩, rfl, rfl⟩ := Option.map_eq_some_iff.1 isChosen.symm
  have scoredOf : ∀ {candidate}, (Member.method required).Serves
      (fun target source => answer target source = true) onStatic (.method candidate) →
        scored registry answer required candidate =
          some (totalCloseness registry required candidate) :=
    fun serves => (scored_eq required _).trans (if_pos serves.2)
  rcases first_of_bestAmong outcomeOfBest with impossible | ⟨_, before, after, split, own, first⟩
  · cases impossible
  have highest := (le_of_bestAmong outcomeOfBest).2
  obtain rfl : totalCloseness registry required found = score :=
    Option.some.inj ((scoredOf serves).symm.trans own)
  refine .of_filter _ (fun _ serves => decide_eq_true serves.1)
    ⟨before, after, split, serves, fun other member alsoServes => ?_, fun other member alsoServes => ?_⟩
  · exact first other member _ (scoredOf alsoServes)
  · have considered : other ∈ offer.methods.filter fun candidate =>
        Eligible required onStatic candidate := by
      rw [split]
      exact List.mem_append_right _ (List.mem_cons_of_mem _ member)
    exact highest other considered _ (scoredOf alsoServes)

end Resolution
end StructuralCast
