import TunnelBore.Shared.Json

namespace TunnelBore.Broker

/-!
# `Dispatcher`: subscriptions by message type

A control session hands every message to the subscriptions of its type.  The dispatcher only
holds weak pointers to them; those that have expired are erased on the way.  A subscription
says whether the next one of the same type is called too.

What a subscription does is its own affair, so the world it changes is a parameter `σ`, and an
exception that it throws leaves `dispatch`.  The order among the subscriptions of one type is
that of the list.
-/

/-- How a callback ends: it returns whether to go on, or it throws. -/
inductive CallbackEnd
  | returned (goOn : Bool)
  | threw
  deriving DecidableEq, Repr

/-- `Subscription`: its callback, on the message and its `ref`. -/
abbrev Subscription (σ : Type) := Json → String → σ → σ × CallbackEnd

/-- `Dispatcher`: `m_subscribers`, where `none` is a weak pointer that has expired. -/
structure Dispatcher (σ : Type) where
  subscribers : List (String × Option (Subscription σ)) := []

namespace Dispatcher

variable {σ : Type}

/-- `Dispatcher::subscribe`. -/
def subscribe (d : Dispatcher σ) (type : String) (callback : Subscription σ) : Dispatcher σ :=
  { d with subscribers := d.subscribers ++ [(type, some callback)] }

/-- The loop of `dispatch` over the subscribers; the result says whether a callback threw. -/
def dispatchLoop (type : String) (msg : Json) (ref : String) :
    List (String × Option (Subscription σ)) → σ → σ × List (String × Option (Subscription σ)) × Bool
  | [], world                   => (world, [], false)
  | (other, held) :: rest, world =>
    if other = type then
      match held with
      | none          => dispatchLoop type msg ref rest world
      | some callback =>
        match callback msg ref world with
        | (world, .threw)          => (world, (other, held) :: rest, true)
        | (world, .returned false) => (world, (other, held) :: rest, false)
        | (world, .returned true)  =>
          let last := dispatchLoop type msg ref rest world
          (last.1, (other, held) :: last.2.1, last.2.2)
    else
      let last := dispatchLoop type msg ref rest world
      (last.1, (other, held) :: last.2.1, last.2.2)

/-- `Dispatcher::dispatch`, on a message whose type is a string. -/
def dispatch (d : Dispatcher σ) (type : String) (msg : Json) (ref : String) (world : σ) :
    σ × Dispatcher σ × Bool :=
  let last := dispatchLoop type msg ref d.subscribers world
  (last.1, ⟨last.2.1⟩, last.2.2)

/-- The types somebody has subscribed to. -/
def types (d : Dispatcher σ) : List String := d.subscribers.map Prod.fst

/-- The callbacks never throw. -/
def NeverThrows (d : Dispatcher σ) : Prop :=
  ∀ entry ∈ d.subscribers, ∀ callback, entry.2 = some callback →
    ∀ msg ref world, (callback msg ref world).2 ≠ .threw

/-- A message nobody has subscribed to changes nothing. -/
theorem dispatch_of_not_mem {d : Dispatcher σ} {type : String} (h : type ∉ d.types)
    (msg : Json) (ref : String) (world : σ) :
    d.dispatch type msg ref world = (world, d, false) := by
  have hloop : dispatchLoop type msg ref d.subscribers world = (world, d.subscribers, false) := by
    obtain ⟨subscribers⟩ := d
    induction subscribers with
    | nil => rfl
    | cons entry rest ih =>
      obtain ⟨hne, hrest⟩ := List.ne_and_not_mem_of_not_mem_cons h
      have hne : ¬entry.1 = type := fun heq => hne heq.symm
      simp only [dispatchLoop, hne, if_false]
      rw [ih hrest]
  unfold dispatch
  rw [hloop]

/-- The loop keeps or erases entries. -/
theorem dispatchLoop_sublist (type : String) (msg : Json) (ref : String)
    (subscribers : List (String × Option (Subscription σ))) (world : σ) :
    (dispatchLoop type msg ref subscribers world).2.1.Sublist subscribers := by
  induction subscribers generalizing world with
  | nil => exact List.Sublist.refl _
  | cons entry rest ih =>
    obtain ⟨other, held⟩ := entry
    unfold dispatchLoop
    split
    · cases held with
      | none => exact (ih world).cons _
      | some callback =>
        simp only
        split
        · exact List.Sublist.refl _
        · exact List.Sublist.refl _
        · exact (ih _).cons_cons _
    · exact (ih world).cons_cons _

/-- No exception leaves `dispatch` when no callback throws. -/
theorem dispatch_neverThrows {d : Dispatcher σ} (h : d.NeverThrows) (type : String) (msg : Json)
    (ref : String) (world : σ) :
    (d.dispatch type msg ref world).2.2 = false ∧
      (d.dispatch type msg ref world).2.1.NeverThrows := by
  constructor
  · show (dispatchLoop type msg ref d.subscribers world).2.2 = false
    obtain ⟨subscribers⟩ := d
    induction subscribers generalizing world with
    | nil => rfl
    | cons entry rest ih =>
      obtain ⟨other, held⟩ := entry
      have hrest : NeverThrows ⟨rest⟩ := fun e he => h e (List.mem_cons_of_mem _ he)
      simp only [dispatchLoop]
      split
      · cases held with
        | none => exact ih world hrest
        | some callback =>
          have hcallback := h (other, some callback) List.mem_cons_self callback rfl msg ref world
          simp only
          split
          · next hthrew =>
            rw [hthrew] at hcallback
            exact absurd rfl hcallback
          · rfl
          · exact ih _ hrest
      · exact ih world hrest
  · intro entry hentry
    exact h entry ((dispatchLoop_sublist type msg ref d.subscribers world).subset hentry)

/-- The callbacks keep what holds of the world. -/
def Keeps (I : σ → Prop) (d : Dispatcher σ) : Prop :=
  ∀ entry ∈ d.subscribers, ∀ callback, entry.2 = some callback →
    ∀ msg ref world, I world → I (callback msg ref world).1

/-- So does `dispatch`, whoever is called. -/
theorem Keeps.dispatch {I : σ → Prop} {d : Dispatcher σ} (h : d.Keeps I) (type : String)
    (msg : Json) (ref : String) {world : σ} (hworld : I world) :
    I (d.dispatch type msg ref world).1 ∧ (d.dispatch type msg ref world).2.1.Keeps I := by
  constructor
  · show I (dispatchLoop type msg ref d.subscribers world).1
    obtain ⟨subscribers⟩ := d
    induction subscribers generalizing world with
    | nil => exact hworld
    | cons entry rest ih =>
      obtain ⟨other, held⟩ := entry
      have hrest : Keeps I ⟨rest⟩ := fun e he => h e (List.mem_cons_of_mem _ he)
      simp only [dispatchLoop]
      split
      · cases held with
        | none => exact ih hworld hrest
        | some callback =>
          have hcalled := h (other, some callback) List.mem_cons_self callback rfl msg ref world
            hworld
          cases hresult : callback msg ref world with
          | mk after ending =>
            rw [hresult] at hcalled
            simp only [hresult]
            cases ending with
            | threw => exact hcalled
            | returned goOn =>
              cases goOn with
              | false => exact hcalled
              | true => exact ih hcalled hrest
      · exact ih hworld hrest
  · intro entry hentry
    exact h entry ((dispatchLoop_sublist type msg ref d.subscribers world).subset hentry)

end Dispatcher

end TunnelBore.Broker
