import Scriptlet.Sink
import Scriptlet.Stop

/-!
Computations that write to a sink with a limit.

A computation is confined if a limit cuts off its output and changes nothing else: as long as everything fits,
it ends as it does without the limit, and otherwise it fails at the first byte too many, whatever it would have
done later. `confined_bind` says that a sequence of confined computations is confined.
-/

set_option autoImplicit false

namespace Scriptlet

structure Outlet (σ : Type) where
  sink : σ → Sink
  put : Sink → σ → σ
  sink_put : ∀ output state, sink (put output state) = output
  put_put : ∀ output other state, put output (put other state) = put output state

def Outlet.limited {σ : Type} (outlet : Outlet σ) (bound : Nat) (state : σ) : σ :=
  outlet.put { outlet.sink state with limit := some bound } state

def leftBy {ε σ α : Type} : EStateM.Result ε σ α → σ
  | .ok _ state => state
  | .error _ state => state

def mapState {ε σ α : Type} (change : σ → σ) : EStateM.Result ε σ α → EStateM.Result ε σ α
  | .ok result state => .ok result (change state)
  | .error error state => .error error (change state)

section Ends

variable {ε σ α : Type} (outlet : Outlet σ) (bound : Nat) (cut : ε → Prop)

def Unlimited (state : σ) : Prop := (outlet.sink state).limit = none

def Fits (state : σ) : Prop := (outlet.sink state).bytes.size ≤ bound

structure WrittenOn (before after : σ) : Prop where
  unlimited : Unlimited outlet after
  appended : ∃ more, (outlet.sink after).bytes = (outlet.sink before).bytes ++ more

def CutOff (after : σ) (confined : EStateM.Result (Stop ε) σ α) : Prop :=
  ∃ error later, confined = .error (.failed error) later ∧ cut error ∧
    (outlet.sink later).bytes = (outlet.sink after).bytes.extract 0 bound

def EndsWithin (free confined : EStateM.Result (Stop ε) σ α) : Prop :=
  (∃ state, free = .error .outOfFuel state) ∨
    (Fits outlet bound (leftBy free) ∧ confined = mapState (outlet.limited bound) free) ∨
    (¬ Fits outlet bound (leftBy free) ∧ CutOff outlet bound cut (leftBy free) confined)

structure Confined (action : EStateM (Stop ε) σ α) : Prop where
  writes : ∀ state, Unlimited outlet state → WrittenOn outlet state (leftBy (action state))
  ends : ∀ state, Unlimited outlet state → Fits outlet bound state →
    EndsWithin outlet bound cut (action state) (action (outlet.limited bound state))

structure Silent (action : EStateM (Stop ε) σ α) : Prop where
  keeps : ∀ state, outlet.sink (leftBy (action state)) = outlet.sink state
  blind : ∀ state, action (outlet.limited bound state) = mapState (outlet.limited bound) (action state)

structure Inert (change : σ → σ) : Prop where
  keeps : ∀ state, outlet.sink (change state) = outlet.sink state
  blind : ∀ state, change (outlet.limited bound state) = outlet.limited bound (change state)

end Ends

section Composition

variable {ε σ α β : Type} {outlet : Outlet σ} {bound : Nat} {cut : ε → Prop}

theorem written_on_refl {before after : σ} (unlimited : Unlimited outlet before)
    (same : outlet.sink after = outlet.sink before) : WrittenOn outlet before after where
  unlimited := by rwa [Unlimited, same]
  appended := ⟨.empty, by rw [same, ByteArray.append_empty]⟩

theorem written_on_trans {before middle after : σ} (first : WrittenOn outlet before middle)
    (second : WrittenOn outlet middle after) : WrittenOn outlet before after := by
  obtain ⟨more, written⟩ := first.appended
  obtain ⟨others, further⟩ := second.appended
  exact ⟨second.unlimited, more ++ others, by rw [further, written, ByteArray.append_assoc]⟩

theorem extract_of_append {front back : ByteArray} (within : bound ≤ front.size) :
    (front ++ back).extract 0 bound = front.extract 0 bound := by
  have none : bound - front.size = 0 := by omega
  rw [ByteArray.extract_append, Nat.zero_sub, none, ByteArray.extract_same, ByteArray.append_empty]

-- What is too much already stays too much, and the bytes up to the limit stay the same.
theorem cut_off_stays {middle after : σ} {confined : EStateM.Result (Stop ε) σ α}
    (beyond : ¬ Fits outlet bound middle) (written : WrittenOn outlet middle after)
    (broken : CutOff outlet bound cut middle confined) :
    ¬ Fits outlet bound after ∧ CutOff outlet bound cut after confined := by
  obtain ⟨more, appended⟩ := written.appended
  obtain ⟨error, later, ends, isCut, stored⟩ := broken
  rw [Fits] at beyond
  refine ⟨?_, error, later, ends, isCut, ?_⟩
  · rw [Fits, appended, ByteArray.size_append]
    omega
  · rw [stored, appended, extract_of_append (by omega)]

theorem confined_silent {action : EStateM (Stop ε) σ α} (silent : Silent outlet bound action) :
    Confined outlet bound cut action where
  writes state unlimited := written_on_refl unlimited (silent.keeps state)
  ends state unlimited fits := by
    have same : Fits outlet bound (leftBy (action state)) := by rwa [Fits, silent.keeps]
    exact .inr (.inl ⟨same, silent.blind state⟩)

theorem confined_pure (result : α) : Confined outlet bound cut (pure result) :=
  confined_silent ⟨fun _ => rfl, fun _ => rfl⟩

theorem confined_throw (stop : Stop ε) :
    Confined outlet bound cut (throw stop : EStateM (Stop ε) σ α) :=
  confined_silent ⟨fun _ => rfl, fun _ => rfl⟩

theorem confined_modify {change : σ → σ} (inert : Inert outlet bound change) :
    Confined outlet bound cut (modify change : EStateM (Stop ε) σ Unit) := by
  apply confined_silent
  constructor
  case keeps => exact inert.keeps
  case blind =>
    intro state
    change EStateM.Result.ok () (change (outlet.limited bound state)) = _
    rw [inert.blind]
    rfl

theorem inert_comp {change other : σ → σ} (first : Inert outlet bound change)
    (second : Inert outlet bound other) : Inert outlet bound (other ∘ change) where
  keeps state := (second.keeps (change state)).trans (first.keeps state)
  blind state := by rw [Function.comp_apply, first.blind, second.blind, Function.comp_apply]

theorem ends_within_bind {action : EStateM (Stop ε) σ α} {next : α → EStateM (Stop ε) σ β} {state : σ}
    (begins : EndsWithin outlet bound cut (action state) (action (outlet.limited bound state)))
    (writes : ∀ result middle, action state = .ok result middle →
      WrittenOn outlet middle (leftBy (next result middle)))
    (continues : ∀ result middle, action state = .ok result middle → Fits outlet bound middle →
      EndsWithin outlet bound cut (next result middle) (next result (outlet.limited bound middle))) :
    EndsWithin outlet bound cut ((action >>= next) state)
      ((action >>= next) (outlet.limited bound state)) := by
  change EndsWithin outlet bound cut (EStateM.bind action next state)
    (EStateM.bind action next (outlet.limited bound state))
  rw [EStateM.bind, EStateM.bind]
  cases answer : action state with
  | error stop middle =>
      rw [answer] at begins
      obtain ⟨last, exhausted⟩ | ⟨within, same⟩ | ⟨beyond, error, later, same, broken⟩ := begins
      · exact .inl ⟨last, by cases exhausted; rfl⟩
      · rw [same]
        exact .inr (.inl ⟨within, rfl⟩)
      · rw [same]
        exact .inr (.inr ⟨beyond, error, later, rfl, broken⟩)
  | ok result middle =>
      rw [answer] at begins
      obtain ⟨last, impossible⟩ | ⟨within, same⟩ | ⟨beyond, error, later, same, broken⟩ := begins
      · cases impossible
      · rw [same]
        exact continues result middle answer within
      · -- The limit has been met already, so what comes next is not reached.
        rw [same]
        exact .inr (.inr (cut_off_stays beyond (writes result middle answer) ⟨error, later, rfl, broken⟩))

theorem confined_bind {action : EStateM (Stop ε) σ α} {next : α → EStateM (Stop ε) σ β}
    (begins : Confined outlet bound cut action)
    (continues : ∀ result, Confined outlet bound cut (next result)) :
    Confined outlet bound cut (action >>= next) where
  writes state unlimited := by
    have begun := begins.writes state unlimited
    change WrittenOn outlet state (leftBy (EStateM.bind action next state))
    rw [EStateM.bind]
    cases answer : action state with
    | ok result middle =>
        rw [answer] at begun
        exact written_on_trans begun ((continues result).writes middle begun.unlimited)
    | error stop middle =>
        rw [answer] at begun
        exact begun
  ends state unlimited fits := by
    have begun := begins.writes state unlimited
    apply ends_within_bind (begins.ends state unlimited fits)
    · intro result middle answer
      rw [answer] at begun
      exact (continues result).writes middle begun.unlimited
    · intro result middle answer
      rw [answer] at begun
      exact (continues result).ends middle begun.unlimited

theorem ends_within_mono {other : ε → Prop} {free confined : EStateM.Result (Stop ε) σ α}
    (within : EndsWithin outlet bound cut free confined)
    (weaker : ¬ Fits outlet bound (leftBy free) → ∀ error, cut error → other error) :
    EndsWithin outlet bound other free confined := by
  obtain exhausted | fits | ⟨beyond, error, later, same, isCut, stored⟩ := within
  · exact .inl exhausted
  · exact .inr (.inl fits)
  · exact .inr (.inr ⟨beyond, error, later, same, weaker beyond error isCut, stored⟩)

theorem confined_mono {other : ε → Prop} {action : EStateM (Stop ε) σ α}
    (confined : Confined outlet bound cut action) (weaker : ∀ error, cut error → other error) :
    Confined outlet bound other action where
  writes := confined.writes
  ends state unlimited fits := ends_within_mono (confined.ends state unlimited fits) fun _ => weaker

theorem confined_write {action : EStateM (Stop ε) σ α} (text : String) (result : α) (error : ε)
    (isCut : cut error)
    (runs : ∀ state, action state =
      match Sink.write text (outlet.sink state) with
      | .ok _ output => .ok result (outlet.put output state)
      | .error _ output => .error (.failed error) (outlet.put output state)) :
    Confined outlet bound cut action := by
  have free : ∀ state, Unlimited outlet state → action state =
      .ok result (outlet.put ⟨none, (outlet.sink state).bytes ++ text.toUTF8⟩ state) := by
    intro state unlimited
    have shape : outlet.sink state = ⟨none, (outlet.sink state).bytes⟩ := by rw [← unlimited]
    rw [runs, shape]
    rfl
  constructor
  case writes =>
    intro state unlimited
    rw [free state unlimited]
    constructor
    case unlimited => rw [leftBy, Unlimited, outlet.sink_put]
    case appended => exact ⟨text.toUTF8, by rw [leftBy, outlet.sink_put]⟩
  case ends =>
    intro state unlimited fits
    have limited : action (outlet.limited bound state) =
        if ((outlet.sink state).bytes ++ text.toUTF8).size ≤ bound then
          .ok result (outlet.put ⟨some bound, (outlet.sink state).bytes ++ text.toUTF8⟩ state)
        else .error (.failed error) (outlet.put
          ⟨some bound, ((outlet.sink state).bytes ++ text.toUTF8).extract 0 bound⟩ state) := by
      rw [runs, Outlet.limited, outlet.sink_put]
      by_cases within : ((outlet.sink state).bytes ++ text.toUTF8).size ≤ bound
      · simp only [Sink.write, if_pos within, outlet.put_put]
      · simp only [Sink.write, if_neg within, outlet.put_put]
    rw [free state unlimited, limited]
    by_cases within : ((outlet.sink state).bytes ++ text.toUTF8).size ≤ bound
    · rw [if_pos within]
      refine .inr (.inl ⟨by rwa [leftBy, Fits, outlet.sink_put], ?_⟩)
      rw [mapState, Outlet.limited, outlet.sink_put, outlet.put_put]
    · rw [if_neg within]
      refine .inr (.inr ⟨by rwa [leftBy, Fits, outlet.sink_put], error, _, rfl, isCut, ?_⟩)
      rw [leftBy, outlet.sink_put, outlet.sink_put]

end Composition

end Scriptlet
