import StructuralCast.Proofs.Engine.Planned
import StructuralCast.Value.Equality

/-!
Contract: values under the wrappers that engines and hosts put on them.

`Value.Genuine` says of every layer within a value that it was planned by an engine, and that an
adapter of an instance has something to adapt, while an adapter of static members has nothing. Taking
off what engines put on is then something that equality does not notice (`peel_unadapt`).
-/

namespace StructuralCast

mutual

/-- Every layer within a value was planned over one of some registries, and an adapter is over null
exactly if it presents static members. -/
def Value.Genuine (among : Registry → Prop) : Value → Prop
  | .adapter _ factory source _ =>
    (∃ registry, among registry ∧
      registry.Plans factory.engine source.isNull factory.shape factory.source factory) ∧
      source.Genuine among
  | .proxy _ _ _ inner => inner.Genuine among
  | .callable c => c.Genuine among
  | .null | .bool _ | .int _ | .float _ | .text _ _ | .enumeration _ _ | .struct _ _ | .object _ =>
    True

def Callable.Genuine (among : Registry → Prop) : Callable → Prop
  | .native _ _ _ => True
  | .adapted _ factory inner =>
    (∃ registry, among registry ∧
      registry.PlansDelegate factory.engine factory.target inner.type factory) ∧
      inner.Genuine among
  | .foreign _ _ _ inner => inner.Genuine among

end

variable {among : Registry → Prop}

theorem Value.present_of_type {value : Value} {type : TypeId} (typed : value.type? = some type) :
    value.isNull = false := by
  cases value with
  | null => cases typed
  | _ => rfl

theorem Value.side_of_planned {factory : Factory} {source : Value}
    (planned : ∃ registry, among registry ∧
      registry.Plans factory.engine source.isNull factory.shape factory.source factory) :
    factory.isStatic = source.isNull := by
  obtain ⟨_, _, plans⟩ := planned
  exact plans.subject.2.2.2

/-! ### Taking layers off -/

mutual

/-- What is left has no layer of an engine on top. -/
theorem Value.unadapt_unadapt : (value : Value) → value.unadapt.unadapt = value.unadapt
  | .adapter ref factory source relays => by
    by_cases static : factory.isStatic = true
    · simp only [Value.unadapt, if_pos static]
    · simp only [Value.unadapt, if_neg static]
      exact source.unadapt_unadapt
  | .callable c => by
    simp only [Value.unadapt]
    rw [c.unadapt_unadapt]
  | .proxy _ _ _ _ | .null | .bool _ | .int _ | .float _ | .text _ _ | .enumeration _ _
  | .struct _ _ | .object _ => rfl

theorem Callable.unadapt_unadapt : (c : Callable) → c.unadapt.unadapt = c.unadapt
  | .native _ _ _ => rfl
  | .adapted _ _ inner => inner.unadapt_unadapt
  | .foreign _ _ _ _ => rfl

end

theorem Value.isNull_unadapt : (value : Value) → (genuine : value.Genuine among) →
    value.unadapt.isNull = value.isNull
  | .adapter _ factory source _, ⟨planned, genuine⟩ => by
    have side := Value.side_of_planned planned
    by_cases static : factory.isStatic = true
    · simp only [Value.unadapt, if_pos static]
    · simp only [Value.unadapt, if_neg static]
      rw [source.isNull_unadapt genuine, ← side]
      show factory.isStatic = false
      simpa using static
  | .callable _, _ => rfl
  | .proxy _ _ _ _, _ | .null, _ | .bool _, _ | .int _, _ | .float _, _ | .text _ _, _
  | .enumeration _ _, _ | .struct _ _, _ | .object _, _ => rfl

mutual

/-- Layers of engines are among the wrappers that equality looks through. -/
theorem Value.peel_unadapt : (value : Value) → (genuine : value.Genuine among) →
    value.unadapt.peel = value.peel
  | .adapter ref factory source relays, ⟨planned, genuine⟩ => by
    have side := Value.side_of_planned planned
    by_cases static : factory.isStatic = true
    · simp only [Value.unadapt, if_pos static]
    · have present : ¬ source.isNull = true := by rwa [← side]
      simp only [Value.unadapt, if_neg static, Value.peel, if_neg present]
      exact source.peel_unadapt genuine
  | .callable c, genuine => by
    simp only [Value.unadapt, Value.peel]
    exact c.peel_unadapt genuine
  | .proxy _ _ _ _, _ | .null, _ | .bool _, _ | .int _, _ | .float _, _ | .text _ _, _
  | .enumeration _ _, _ | .struct _ _, _ | .object _, _ => rfl

theorem Callable.peel_unadapt : (c : Callable) → (genuine : c.Genuine among) → c.unadapt.peel = c.peel
  | .native _ _ _, _ => rfl
  | .adapted _ _ inner, ⟨_, genuine⟩ => by
    simp only [Callable.unadapt, Callable.peel]
    exact inner.peel_unadapt genuine
  | .foreign _ _ _ _, _ => rfl

end

mutual

theorem Value.genuine_unadapt : (value : Value) → (genuine : value.Genuine among) →
    value.unadapt.Genuine among
  | .adapter ref factory source relays, ⟨planned, genuine⟩ => by
    by_cases static : factory.isStatic = true
    · simp only [Value.unadapt, if_pos static]
      exact ⟨planned, genuine⟩
    · simp only [Value.unadapt, if_neg static]
      exact source.genuine_unadapt genuine
  | .callable c, genuine => by
    simp only [Value.unadapt, Value.Genuine]
    exact c.genuine_unadapt genuine
  | .proxy _ _ _ _, genuine => genuine
  | .null, _ | .bool _, _ | .int _, _ | .float _, _ | .text _ _, _
  | .enumeration _ _, _ | .struct _ _, _ | .object _, _ => trivial

theorem Callable.genuine_unadapt : (c : Callable) → (genuine : c.Genuine among) →
    c.unadapt.Genuine among
  | .native _ _ _, _ => trivial
  | .adapted _ _ inner, ⟨_, genuine⟩ => inner.genuine_unadapt genuine
  | .foreign _ _ _ _, genuine => genuine

end

/-! ### Equality looks through layers -/

theorem Value.sameAllocation_self {value : Value} {identity : Allocation}
    (allocated : value.allocation? = some identity) : value.sameAllocation value = true := by
  simp [Value.sameAllocation, allocated]

mutual

/-- A value equals itself. -/
theorem Value.equalsPeeled_self : (value : Value) → value.equalsPeeled value.peel = true
  | .adapter ref factory source relays => by
    by_cases empty : source.isNull = true
    · simp only [Value.equalsPeeled, Value.peel, if_pos empty]
      exact Value.sameAllocation_self rfl
    · simp only [Value.equalsPeeled, Value.peel, if_neg empty]
      exact source.equalsPeeled_self
  | .proxy ref shape shapeName inner => by
    by_cases empty : inner.isNull = true
    · simp only [Value.equalsPeeled, Value.peel, if_pos empty]
      exact Value.sameAllocation_self rfl
    · simp only [Value.equalsPeeled, Value.peel, if_neg empty]
      exact inner.equalsPeeled_self
  | .callable c => by
    simp only [Value.equalsPeeled, Value.peel]
    exact c.equalsPeeled_self
  | .struct type fields => by
    simp only [Value.equalsPeeled, Value.peel, decide_true, Bool.true_and]
    exact Value.fieldsEqual_self fields
  | .null => rfl
  | .bool truth => by simp [Value.equalsPeeled, Value.peel]
  | .int number => by simp [Value.equalsPeeled, Value.peel]
  | .float bits => by simp [Value.equalsPeeled, Value.peel]
  | .text _ content => by simp [Value.equalsPeeled, Value.peel]
  | .enumeration type number => by simp [Value.equalsPeeled, Value.peel]
  | .object o => by simp [Value.equalsPeeled, Value.peel]

theorem Callable.equalsPeeled_self : (c : Callable) → c.equalsPeeled c.peel = true
  | .native number type routine => by
    simp only [Callable.equalsPeeled, Callable.peel]
    exact Value.sameAllocation_self rfl
  | .adapted _ _ inner => by
    simp only [Callable.equalsPeeled, Callable.peel]
    exact inner.equalsPeeled_self
  | .foreign ref type body inner => by
    by_cases empty : inner.isNull = true
    · simp only [Callable.equalsPeeled, Callable.peel, if_pos empty]
      exact Value.sameAllocation_self rfl
    · simp only [Callable.equalsPeeled, Callable.peel, if_neg empty]
      exact inner.equalsPeeled_self

theorem Value.fieldsEqual_self : (fields : List Value) → Value.fieldsEqual fields fields = true
  | [] => rfl
  | field :: rest => by
    simp only [Value.fieldsEqual, Bool.and_eq_true]
    exact ⟨field.equalsPeeled_self, Value.fieldsEqual_self rest⟩

end

mutual

theorem Value.equalsPeeled_peel : (value other : Value) →
    value.peel.equalsPeeled other = value.equalsPeeled other
  | .adapter ref factory source relays, other => by
    by_cases empty : source.isNull = true
    · simp only [Value.peel, if_pos empty]
    · simp only [Value.peel, Value.equalsPeeled, if_neg empty]
      exact source.equalsPeeled_peel other
  | .proxy ref shape shapeName inner, other => by
    by_cases empty : inner.isNull = true
    · simp only [Value.peel, if_pos empty]
    · simp only [Value.peel, Value.equalsPeeled, if_neg empty]
      exact inner.equalsPeeled_peel other
  | .callable c, other => by
    simp only [Value.peel, Value.equalsPeeled]
    exact c.equalsPeeled_peel other
  | .null, _ | .bool _, _ | .int _, _ | .float _, _ | .text _ _, _
  | .enumeration _ _, _ | .struct _ _, _ | .object _, _ => rfl

theorem Callable.equalsPeeled_peel : (c : Callable) → (other : Value) →
    c.peel.equalsPeeled other = c.equalsPeeled other
  | .native _ _ _, other => by
    simp only [Callable.peel, Value.equalsPeeled]
  | .adapted _ _ inner, other => by
    simp only [Callable.peel, Callable.equalsPeeled]
    exact inner.equalsPeeled_peel other
  | .foreign ref type body inner, other => by
    by_cases empty : inner.isNull = true
    · simp only [Callable.peel, if_pos empty, Value.equalsPeeled]
    · simp only [Callable.peel, if_neg empty, Callable.equalsPeeled]
      exact inner.equalsPeeled_peel other

end

/-- Values with one content under their wrappers are equal. -/
theorem Value.equals_of_peel {left right : Value} (same : left.peel = right.peel) :
    left.equals right = true := by
  rw [Value.equals, ← Value.equalsPeeled_peel, same, Value.equalsPeeled_peel]
  exact right.equalsPeeled_self

end StructuralCast
