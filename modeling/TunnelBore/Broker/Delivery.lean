import Mathlib.Data.List.InsertIdx
import Mathlib.Logic.Function.Basic
import TunnelBore.Broker.Dispatcher
import TunnelBore.Lib.Run

namespace TunnelBore.Broker

open TunnelBore.Lib

/-!
# Delivery by the dispatcher

`Dispatcher::dispatch` walks over the entries of one type, erases those whose subscription is gone
and stops at a callback that does not return `true`.  The table outlives its subscriptions: who has
subscribed holds the subscription and may destroy it at any time, also from within a callback.

* `deliver` — the loop over an equal range, with a record of what it called and erased;
* `SubscriberTable.step` — histories of `subscribe`, destructions and `dispatch`;
* `Sound` — every subscription that is there has its entry, under its type, once;
* `dispatch_delivers` — what any `dispatch` calls and what it changes;
* `dispatchLoop_eq` — for callbacks that destroy nothing, the loop is that of `Dispatcher`.
-/

/-- Subscriptions, in the order in which they were made. -/
abbrev SubscriptionId := Nat

/-- What a callback does. -/
structure Answer where
  result : CallbackEnd
  /-- The subscriptions that are destroyed meanwhile. -/
  destroys : List SubscriptionId := []
  deriving DecidableEq, Repr

/-- A call of a callback. -/
structure Invocation where
  subscription : SubscriptionId
  /-- The subscriptions that were there. -/
  live : List SubscriptionId
  answer : Answer
  deriving DecidableEq, Repr

/-- An entry that is erased. -/
structure Erasure where
  subscription : SubscriptionId
  /-- The subscriptions that were there. -/
  live : List SubscriptionId
  deriving DecidableEq, Repr

/-- What a callback does after the calls before it. -/
abbrev Callbacks := List Invocation → SubscriptionId → Answer

/-- What `dispatch` leaves of the entries of its type, and what it has done. -/
structure Delivery where
  kept : List SubscriptionId
  live : List SubscriptionId
  invocations : List Invocation := []
  erasures : List Erasure := []
  deriving DecidableEq, Repr

/-- The loop of `dispatch` from `begin` to `end`. -/
def deliver (callbacks : Callbacks) :
    List Invocation → List SubscriptionId → List SubscriptionId → Delivery
  | _,    live, []         => { kept := [], live := live }
  | past, live, id :: rest =>
    if id ∈ live then
      let call : Invocation := ⟨id, live, callbacks past id⟩
      let live := live.filter fun other => other ∉ call.answer.destroys
      if call.answer.result = .returned true then
        let d := deliver callbacks (past ++ [call]) live rest
        { d with kept := id :: d.kept, invocations := call :: d.invocations }
      else { kept := id :: rest, live := live, invocations := [call] }
    -- the pointer cannot be locked
    else
      let d := deliver callbacks past live rest
      { d with erasures := ⟨id, live⟩ :: d.erasures }

/-! ### The loop -/

/-- What the loop has done with the entries `ids`. -/
structure Delivered (live ids : List SubscriptionId) (d : Delivery) : Prop where
  /-- Entries are called in their order, each once. -/
  order : (d.invocations.map Invocation.subscription).Sublist ids
  alive : ∀ i ∈ d.invocations, i.subscription ∈ i.live ∧ i.live ⊆ live
  /-- Only the last call may return something else than `true`. -/
  stops : ∀ i ∈ d.invocations.dropLast, i.answer.result = .returned true
  all : (∀ i ∈ d.invocations, i.answer.result = .returned true) →
    ∀ id ∈ ids, id ∈ d.live → id ∈ d.invocations.map Invocation.subscription
  kept : d.kept.Sublist ids
  erased : ∀ id ∈ ids, id ∈ d.kept ∨ ∃ e ∈ d.erasures, e.subscription = id
  dead : ∀ e ∈ d.erasures, e.subscription ∉ e.live ∧ d.live ⊆ e.live
  remaining : d.live ⊆ live
  /-- What is gone has been destroyed by a callback. -/
  destroyed : ∀ id ∈ live, id ∈ d.live ∨ ∃ i ∈ d.invocations, id ∈ i.answer.destroys

section
variable {live rest : List SubscriptionId} {id : SubscriptionId} {d : Delivery}

/-- The subscription is called, and the loop goes on. -/
theorem Delivered.goesOn {answer : Answer}
    (h : Delivered (live.filter fun other => other ∉ answer.destroys) rest d) (hlive : id ∈ live)
    (hresult : answer.result = .returned true) :
    Delivered live (id :: rest)
      { d with kept := id :: d.kept, invocations := ⟨id, live, answer⟩ :: d.invocations } := by
  have hsub : (live.filter fun other => other ∉ answer.destroys) ⊆ live :=
    List.filter_subset_self _
  refine ⟨h.order.cons_cons id, ?_, ?_, ?_, h.kept.cons_cons id, ?_, h.dead,
    fun _ hid => hsub (h.remaining hid), ?_⟩
  · intro i hi
    obtain rfl | hi := List.mem_cons.mp hi
    · exact ⟨hlive, List.Subset.refl _⟩
    · obtain ⟨hin, hle⟩ := h.alive i hi
      exact ⟨hin, fun _ hid => hsub (hle hid)⟩
  · intro i hi
    -- the call is the last one only when nothing else is called
    have hcases : i = ⟨id, live, answer⟩ ∨ i ∈ d.invocations.dropLast := by
      cases hl : d.invocations with
      | nil => simp [hl] at hi
      | cons j l => simpa [hl] using hi
    obtain rfl | hi := hcases
    · exact hresult
    · exact h.stops i hi
  · intro hall other hother hin
    obtain rfl | hother := List.mem_cons.mp hother
    · exact List.mem_cons_self
    · apply List.mem_cons_of_mem
      exact h.all (fun i hi => hall i (List.mem_cons_of_mem _ hi)) other hother hin
  · intro other hother
    obtain rfl | hother := List.mem_cons.mp hother
    · exact .inl List.mem_cons_self
    · exact (h.erased other hother).imp_left (List.mem_cons_of_mem _)
  · intro other hother
    by_cases hdestroyed : other ∈ answer.destroys
    · exact .inr ⟨_, List.mem_cons_self, hdestroyed⟩
    · have hleft : other ∈ live.filter fun other => other ∉ answer.destroys := by
        simp [hother, hdestroyed]
      obtain hin | ⟨i, hi, hin⟩ := h.destroyed other hleft
      · exact .inl hin
      · exact .inr ⟨i, List.mem_cons_of_mem _ hi, hin⟩

/-- The subscription is called, and the loop ends. -/
theorem delivered_ends {answer : Answer} (hlive : id ∈ live)
    (hresult : answer.result ≠ .returned true) :
    Delivered live (id :: rest)
      { kept := id :: rest, live := live.filter fun other => other ∉ answer.destroys,
        invocations := [⟨id, live, answer⟩] } := by
  refine ⟨?_, ?_, by simp, ?_, List.Sublist.refl _, fun _ h => .inl h, by simp,
    List.filter_subset_self _, ?_⟩
  · show List.Sublist [id] (id :: rest)
    simp
  · intro i hi
    obtain rfl := List.mem_singleton.mp hi
    exact ⟨hlive, List.Subset.refl _⟩
  · intro hall
    exact absurd (hall _ List.mem_cons_self) hresult
  · intro other hother
    by_cases hdestroyed : other ∈ answer.destroys
    · exact .inr ⟨_, List.mem_cons_self, hdestroyed⟩
    · left
      simp [hother, hdestroyed]

/-- The subscription is gone, and its entry is erased. -/
theorem Delivered.erases (h : Delivered live rest d) (hdead : id ∉ live) :
    Delivered live (id :: rest) { d with erasures := ⟨id, live⟩ :: d.erasures } := by
  refine ⟨h.order.cons id, h.alive, h.stops, ?_, h.kept.cons id, ?_, ?_, h.remaining,
    h.destroyed⟩
  · intro hall other hother hin
    obtain rfl | hother := List.mem_cons.mp hother
    · exact absurd (h.remaining hin) hdead
    · exact h.all hall other hother hin
  · intro other hother
    obtain rfl | hother := List.mem_cons.mp hother
    · exact .inr ⟨_, List.mem_cons_self, rfl⟩
    · obtain hkept | ⟨e, he, heq⟩ := h.erased other hother
      · exact .inl hkept
      · exact .inr ⟨e, List.mem_cons_of_mem _ he, heq⟩
  · intro e he
    obtain rfl | he := List.mem_cons.mp he
    · exact ⟨hdead, h.remaining⟩
    · exact h.dead e he

end

/-- **The loop.**  By induction on the entries that are left, whatever was called before. -/
theorem deliver_delivered (callbacks : Callbacks) (past : List Invocation)
    (live ids : List SubscriptionId) :
    Delivered live ids (deliver callbacks past live ids) := by
  induction ids generalizing past live with
  | nil =>
    exact ⟨List.Sublist.refl _, by simp [deliver], by simp [deliver], by simp,
      List.Sublist.refl _, by simp, by simp [deliver], List.Subset.refl _,
      fun _ h => .inl h⟩
  | cons id rest ih =>
    unfold deliver
    split
    · next hlive =>
      simp only
      split
      · next hresult => exact (ih _ _).goesOn hlive hresult
      · next hresult => exact delivered_ends hlive hresult
    · next hdead => exact (ih _ _).erases hdead

/-! ### Histories -/

/-- The dispatcher's table, and the subscriptions that somebody holds. -/
structure SubscriberTable where
  /-- `m_subscribers`: the equal range of every type. -/
  ranges : String → List SubscriptionId := fun _ => []
  /-- The types the subscriptions were made with. -/
  registered : List String := []
  live : List SubscriptionId := []

inductive DispatcherEvent
  /-- `subscribe`; the place among the entries of the type is up to the container. -/
  | subscribe (type : String) (position : Nat)
  /-- A subscription is destroyed. -/
  | destroy (id : SubscriptionId)
  /-- `dispatch` of a message of the type. -/
  | dispatch (type : String) (callbacks : Callbacks)

namespace SubscriberTable

/-- `Dispatcher::subscribe`. -/
def subscribe (s : SubscriberTable) (type : String) (position : Nat) : SubscriberTable :=
  let id := s.registered.length
  { ranges := Function.update s.ranges type ((s.ranges type).insertIdx position id)
    registered := s.registered ++ [type]
    live := id :: s.live }

/-- `Dispatcher::dispatch`. -/
def dispatch (s : SubscriberTable) (type : String) (callbacks : Callbacks) :
    Delivery × SubscriberTable :=
  let d := deliver callbacks [] s.live (s.ranges type)
  (d, { s with ranges := Function.update s.ranges type d.kept, live := d.live })

/-- One event; `none` when it cannot happen. -/
def step (s : SubscriberTable) : DispatcherEvent → Option SubscriberTable
  | .subscribe type position =>
    if position ≤ (s.ranges type).length then some (s.subscribe type position) else none
  | .destroy id              =>
    if id ∈ s.live then some { s with live := s.live.filter fun other => other ≠ id } else none
  | .dispatch type callbacks => some (s.dispatch type callbacks).2

/-- Every entry is under the type of its subscription, once, and every subscription that is there
    has an entry. -/
structure Sound (s : SubscriberTable) : Prop where
  typed : ∀ type, ∀ id ∈ s.ranges type, s.registered[id]? = some type
  nodup : ∀ type, (s.ranges type).Nodup
  held : ∀ id ∈ s.live, ∃ type, id ∈ s.ranges type

variable {s t : SubscriberTable}

theorem sound_empty : Sound {} := ⟨by simp, by simp, by simp⟩

/-- Subscriptions in the table have been made. -/
theorem Sound.lt_length (hs : s.Sound) {type : String} {id : SubscriptionId}
    (h : id ∈ s.ranges type) : id < s.registered.length :=
  (List.getElem?_eq_some_iff.mp (hs.typed type id h)).1

/-- A subscription that is there is found under the type it was made with. -/
theorem Sound.mem_ranges (hs : s.Sound) {type : String} {id : SubscriptionId}
    (htype : s.registered[id]? = some type) (hlive : id ∈ s.live) : id ∈ s.ranges type := by
  obtain ⟨other, hother⟩ := hs.held id hlive
  have hsame := (hs.typed other id hother).symm.trans htype
  rwa [Option.some.inj hsame] at hother

theorem Sound.subscribe (hs : s.Sound) {type : String} {position : Nat}
    (hposition : position ≤ (s.ranges type).length) : (s.subscribe type position).Sound := by
  have hmem : ∀ id, id ∈ (s.subscribe type position).ranges type ↔
      id = s.registered.length ∨ id ∈ s.ranges type := by
    intro id
    show id ∈ Function.update s.ranges type _ type ↔ _
    rw [Function.update_self]
    exact List.mem_insertIdx hposition
  have hframe : ∀ other, other ≠ type →
      (s.subscribe type position).ranges other = s.ranges other :=
    fun other hother => Function.update_of_ne hother _ _
  have hold : ∀ other, ∀ id ∈ s.ranges other,
      (s.subscribe type position).registered[id]? = some other := by
    intro other id hid
    show (s.registered ++ [type])[id]? = some other
    rw [List.getElem?_append_left (hs.lt_length hid)]
    exact hs.typed other id hid
  refine ⟨fun other id hid => ?_, fun other => ?_, fun id hid => ?_⟩
  · by_cases hother : other = type
    · subst hother
      obtain rfl | hid := (hmem id).mp hid
      · exact List.getElem?_concat_length
      · exact hold other id hid
    · rw [hframe other hother] at hid
      exact hold other id hid
  · by_cases hother : other = type
    · subst hother
      show (Function.update s.ranges other _ other).Nodup
      rw [Function.update_self]
      apply (List.perm_insertIdx _ _ hposition).nodup_iff.mpr
      -- the new entry is not among the old ones
      refine List.nodup_cons.mpr ⟨fun hin => ?_, hs.nodup other⟩
      exact Nat.lt_irrefl _ (hs.lt_length hin)
    · rw [hframe other hother]
      exact hs.nodup other
  · obtain rfl | hid := List.mem_cons.mp hid
    · exact ⟨type, (hmem _).mpr (.inl rfl)⟩
    · obtain ⟨other, hother⟩ := hs.held id hid
      refine ⟨other, ?_⟩
      by_cases heq : other = type
      · subst heq
        exact (hmem id).mpr (.inr hother)
      · rw [hframe other heq]
        exact hother

/-- What a `dispatch` leaves in the table. -/
theorem dispatch_ranges (s : SubscriberTable) (type : String) (callbacks : Callbacks) :
    (s.dispatch type callbacks).2.ranges type = (s.dispatch type callbacks).1.kept :=
  Function.update_self _ _ _

/-- Other types are as before. -/
theorem dispatch_frame (s : SubscriberTable) {type other : String} (callbacks : Callbacks)
    (h : other ≠ type) : (s.dispatch type callbacks).2.ranges other = s.ranges other :=
  Function.update_of_ne h _ _

theorem dispatch_delivered (s : SubscriberTable) (type : String) (callbacks : Callbacks) :
    Delivered s.live (s.ranges type) (s.dispatch type callbacks).1 :=
  deliver_delivered callbacks [] s.live (s.ranges type)

theorem Sound.dispatch (hs : s.Sound) (type : String) (callbacks : Callbacks) :
    (s.dispatch type callbacks).2.Sound := by
  have hd := s.dispatch_delivered type callbacks
  refine ⟨fun other id hid => ?_, fun other => ?_, fun id hid => ?_⟩
  · show s.registered[id]? = some other
    by_cases hother : other = type
    · subst hother
      rw [dispatch_ranges] at hid
      exact hs.typed other id (hd.kept.subset hid)
    · rw [s.dispatch_frame callbacks hother] at hid
      exact hs.typed other id hid
  · by_cases hother : other = type
    · subst hother
      rw [dispatch_ranges]
      exact hd.kept.nodup (hs.nodup other)
    · rw [s.dispatch_frame callbacks hother]
      exact hs.nodup other
  · obtain ⟨other, hother⟩ := hs.held id (hd.remaining hid)
    refine ⟨other, ?_⟩
    by_cases heq : other = type
    · subst heq
      rw [dispatch_ranges]
      -- an entry that was erased belongs to a subscription that is gone
      obtain hkept | ⟨e, he, rfl⟩ := hd.erased id hother
      · exact hkept
      · obtain ⟨hgone, hleft⟩ := hd.dead e he
        exact absurd (hleft hid) hgone
    · rw [s.dispatch_frame callbacks heq]
      exact hother

/-- **One event keeps the table sound.** -/
theorem Sound.step {e : DispatcherEvent} (hs : s.Sound) (h : s.step e = some t) : t.Sound := by
  cases e with
  | subscribe type position =>
    obtain ⟨hposition, heq⟩ := Option.ite_none_right_eq_some.mp h
    obtain rfl := Option.some.inj heq
    exact hs.subscribe hposition
  | destroy id =>
    obtain ⟨-, heq⟩ := Option.ite_none_right_eq_some.mp h
    obtain rfl := Option.some.inj heq
    refine ⟨hs.typed, hs.nodup, fun other hother => hs.held other ?_⟩
    exact (List.mem_filter.mp hother).1
  | dispatch type callbacks =>
    obtain rfl := Option.some.inj h
    exact hs.dispatch type callbacks

/-- The table has the subscription, under the type it was made with. -/
def Has (s : SubscriberTable) (id : SubscriptionId) : Prop :=
  ∃ type, s.registered[id]? = some type ∧ id ∈ s.ranges type

theorem Sound.has (hs : s.Sound) {id : SubscriptionId} (hlive : id ∈ s.live) : s.Has id := by
  obtain ⟨type, htype⟩ := hs.held id hlive
  exact ⟨type, hs.typed type id htype, htype⟩

/-- What a `dispatch` of the type may do, from the table `s` to the table `t`. -/
structure Dispatched (type : String) (s : SubscriberTable) (d : Delivery) (t : SubscriberTable) :
    Prop where
  /-- It invokes subscriptions that are there, and of the type. -/
  only : ∀ i ∈ d.invocations, i.subscription ∈ i.live ∧ i.subscription ∈ s.live ∧
    s.registered[i.subscription]? = some type
  once : (d.invocations.map Invocation.subscription).Nodup
  /-- Nothing is invoked after a callback that did not return `true`. -/
  stops : ∀ i ∈ d.invocations.dropLast, i.answer.result = .returned true
  /-- When all of them return `true`, those that are left have been invoked. -/
  all : (∀ i ∈ d.invocations, i.answer.result = .returned true) →
    ∀ id ∈ t.live, s.registered[id]? = some type →
      id ∈ d.invocations.map Invocation.subscription
  removes : (t.ranges type).Sublist (s.ranges type)
  /-- What is removed was destroyed before. -/
  expired : ∀ id ∈ s.ranges type, id ∉ t.ranges type →
    ∃ e ∈ d.erasures, e.subscription = id ∧ id ∉ e.live
  others : ∀ other, other ≠ type → t.ranges other = s.ranges other
  registered : t.registered = s.registered
  /-- It destroys nothing itself. -/
  destroys : ∀ id ∈ s.live, id ∈ t.live ∨ ∃ i ∈ d.invocations, id ∈ i.answer.destroys
  keeps : ∀ id ∈ t.live, t.Has id

/-- **Delivery.**  After any history, what a `dispatch` invokes and what it changes. -/
theorem dispatch_delivers {events : List DispatcherEvent} (hrun : run step {} events = some s)
    (type : String) (callbacks : Callbacks) :
    (∀ id ∈ s.live, s.Has id) ∧
      Dispatched type s (s.dispatch type callbacks).1 (s.dispatch type callbacks).2 := by
  have hs : s.Sound := run_preserves (fun _ _ _ => Sound.step) sound_empty hrun
  have ht := hs.dispatch type callbacks
  have hd := s.dispatch_delivered type callbacks
  refine ⟨fun id => hs.has, ⟨fun i hi => ?_, hd.order.nodup (hs.nodup type), hd.stops, ?_, ?_, ?_,
    fun other => s.dispatch_frame callbacks, rfl, hd.destroyed, fun id => ht.has⟩⟩
  · obtain ⟨hin, hsub⟩ := hd.alive i hi
    have hentry := hd.order.subset (List.mem_map_of_mem hi)
    exact ⟨hin, hsub hin, hs.typed type i.subscription hentry⟩
  · intro hall id hid htype
    apply hd.all hall id _ hid
    exact hs.mem_ranges htype (hd.remaining hid)
  · rw [dispatch_ranges]
    exact hd.kept
  · intro id hid hgone
    rw [dispatch_ranges] at hgone
    obtain hkept | ⟨e, he, rfl⟩ := hd.erased id hid
    · exact absurd hkept hgone
    · exact ⟨e, he, rfl, (hd.dead e he).1⟩

/-- The second of three subscriptions is destroyed; the last one ends the dispatch. -/
theorem dispatch_delivers_destroyed :
    ∃ s, run step {} [.subscribe "NewTunnel" 0, .subscribe "NewTunnel" 0,
        .subscribe "NewTunnel" 1, .destroy 1] = some s ∧
      (s.dispatch "NewTunnel" fun _ id => ⟨.returned (id != 2), []⟩).1.kept = [2, 0] ∧
      Dispatched "NewTunnel" s (s.dispatch "NewTunnel" fun _ id => ⟨.returned (id != 2), []⟩).1
        (s.dispatch "NewTunnel" fun _ id => ⟨.returned (id != 2), []⟩).2 :=
  have hrun : run step {} [.subscribe "NewTunnel" 0, .subscribe "NewTunnel" 0,
      .subscribe "NewTunnel" 1, .destroy 1] = some _ := rfl
  ⟨_, hrun, by decide, (dispatch_delivers hrun _ _).2⟩

end SubscriberTable

/-! ### The loop of `Dispatcher` -/

section
variable {σ : Type} (subscriptions : SubscriptionId → Subscription σ) (msg : Json) (ref : String)

/-- The world after some calls. -/
def worldAfter (world : σ) (calls : List Invocation) : σ :=
  calls.foldl (fun world call => (subscriptions call.subscription msg ref world).1) world

/-- Callbacks that destroy nothing, on a message. -/
def answers (world : σ) : Callbacks := fun past id =>
  ⟨(subscriptions id msg ref (worldAfter subscriptions msg ref world past)).2, []⟩

/-- The weak pointer in an entry. -/
def entry (live : List SubscriptionId) (e : String × SubscriptionId) :
    String × Option (Subscription σ) :=
  (e.1, if e.2 ∈ live then some (subscriptions e.2) else none)

/-- The equal range of a type among the entries. -/
theorem filter_entry (type : String) (live : List SubscriptionId)
    (entries : List (String × SubscriptionId)) :
    (entries.map (entry subscriptions live)).filter (fun e => e.1 = type) =
      ((entries.filter fun e => e.1 = type).map Prod.snd).map
        (fun id => entry subscriptions live (type, id)) := by
  induction entries with
  | nil => rfl
  | cons e rest ih =>
    obtain ⟨other, id⟩ := e
    by_cases hother : other = type
    · subst hother
      simpa [entry] using ih
    · simpa [entry, hother] using ih

/-- The loop over the equal range calls what the loop over the whole table calls. -/
theorem dispatchLoop_eq (type : String) (live : List SubscriptionId) (world : σ)
    (past : List Invocation) (entries : List (String × SubscriptionId)) :
    let d := deliver (answers subscriptions msg ref world) past live
      ((entries.filter fun e => e.1 = type).map Prod.snd)
    let last := Dispatcher.dispatchLoop type msg ref (entries.map (entry subscriptions live))
      (worldAfter subscriptions msg ref world past)
    last.1 = worldAfter subscriptions msg ref world (past ++ d.invocations) ∧
      last.2.1.filter (fun e => e.1 = type) =
        d.kept.map (fun id => entry subscriptions live (type, id)) ∧
      last.2.2 = d.invocations.any fun i => i.answer.result = .threw := by
  induction entries generalizing past with
  | nil => simp [deliver, Dispatcher.dispatchLoop]
  | cons e rest ih =>
    obtain ⟨other, id⟩ := e
    by_cases hother : other = type
    · subst hother
      by_cases hlive : id ∈ live
      · have hafter : worldAfter subscriptions msg ref world
            (past ++ [⟨id, live, answers subscriptions msg ref world past id⟩]) =
            (subscriptions id msg ref (worldAfter subscriptions msg ref world past)).1 := by
          simp [worldAfter]
        obtain ⟨world', result, hcall⟩ : ∃ world' result,
            subscriptions id msg ref (worldAfter subscriptions msg ref world past) =
              (world', result) := ⟨_, _, rfl⟩
        have hanswer : answers subscriptions msg ref world past id = ⟨result, []⟩ := by
          simp [answers, hcall]
        rw [hanswer, hcall] at hafter
        have hih := ih (past ++ [⟨id, live, ⟨result, []⟩⟩])
        rw [hafter] at hih
        -- the entries after a callback that ends the loop
        have hrest := filter_entry subscriptions other live rest
        cases result with
        | threw =>
          simpa [deliver, Dispatcher.dispatchLoop, entry, hlive, hcall, hanswer, hafter] using hrest
        | returned goOn =>
          cases goOn with
          | false =>
            simpa [deliver, Dispatcher.dispatchLoop, entry, hlive, hcall, hanswer, hafter]
              using hrest
          | true =>
            simpa [deliver, Dispatcher.dispatchLoop, entry, hlive, hcall, hanswer] using hih
      · -- the pointer has expired
        simpa [deliver, Dispatcher.dispatchLoop, entry, hlive] using ih past
    · -- an entry of another type
      simpa [deliver, Dispatcher.dispatchLoop, entry, hother] using ih past

end

end TunnelBore.Broker
