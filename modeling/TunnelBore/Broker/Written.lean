import TunnelBore.Broker.Subscriptions

namespace TunnelBore.Broker

open TunnelBore.Lib

/-!
# What the broker writes on a control session

Texts are written by the subscriptions, by `addService`, and by `informAboutConnection`, and there
are four kinds of them.

* `Written` — these texts;
* `ControlSession.keeps_readText` — what the callbacks keep, a read keeps;
* `WritesKnown` — nothing else is written, whatever happens to a publisher.
-/

/-- The texts that are written on a control session. -/
inductive Written : Json → Prop
  | startResult (result : Bool) :
      Written (.object [("result", .boolean result), ("type", .string "ServiceStartResult")])
  | error (ref msg : String) : Written (errorMessage ref msg)
  | pong (ref : String) :
      Written (.object [
        ("payload", .object [("type", .string "Pong")]),
        ("ref", .string ref),
        ("type", .string "Pong")])
  | newTunnel (serviceId : ServiceId) (tunnelId : TunnelId) (serviceInfo : ServiceInfo) :
      Written (PublisherWorld.newTunnel serviceId tunnelId serviceInfo)

/-! ### Reads -/

namespace ControlSession

variable {σ ε : Type} {parse : Bytes → Except ε Json} {writeJson : Json → σ → σ}
variable {I : σ → Prop} {s s' : ControlSession σ}

theorem keeps_onJson (hcallbacks : s.dispatcher.Keeps I) (hworld : I s.world) (type : String)
    (popped : Json) (ref : String) :
    I (s.onJson type popped ref).world ∧ (s.onJson type popped ref).dispatcher.Keeps I := by
  have hdispatch := hcallbacks.dispatch type popped ref hworld
  unfold onJson
  simp only
  split
  · exact hdispatch
  · exact hdispatch

theorem keeps_onPopped
    (hwrite : ∀ ref msg world, I world → I (writeJson (errorMessage ref msg) world))
    (hcallbacks : s.dispatcher.Keeps I) (hworld : I s.world) (popped : Json) :
    I (s.onPopped writeJson popped).world ∧
      (s.onPopped writeJson popped).dispatcher.Keeps I := by
  unfold onPopped
  split
  · exact ⟨hworld, hcallbacks⟩
  · split
    · exact ⟨hwrite _ _ _ hworld, hcallbacks⟩
    · split
      · exact ⟨hworld, hcallbacks⟩
      · exact keeps_onJson hcallbacks hworld _ _ _

/-- **What the callbacks keep, a read keeps**, and they go on keeping it. -/
theorem keeps_readText
    (hwrite : ∀ ref msg world, I world → I (writeJson (errorMessage ref msg) world))
    (hcallbacks : s.dispatcher.Keeps I) (hworld : I s.world) {text : Bytes}
    (h : s.readText parse writeJson text = some s') :
    I s'.world ∧ s'.dispatcher.Keeps I := by
  simp only [readText, Option.ite_none_right_eq_some, Option.some.injEq] at h
  obtain ⟨-, rfl⟩ := h
  unfold onRead
  simp only [Bool.false_eq_true, if_false]
  split
  · exact ⟨hworld, hcallbacks⟩
  · exact ⟨hworld, hcallbacks⟩
  · next popped textParser _ =>
    exact keeps_onPopped (s := { s with reading := false, textParser := textParser }) hwrite
      hcallbacks hworld popped

end ControlSession

/-! ### A publisher of the broker -/

namespace PublisherWorld

/-- Nothing else has been written. -/
def WritesKnown (w : PublisherWorld) : Prop := ∀ j ∈ w.written, Written j

variable {w : PublisherWorld} (starts : Starts) (what : String)

theorem WritesKnown.append (hw : w.WritesKnown) {texts : List Json}
    (htexts : ∀ j ∈ texts, Written j) : ∀ j ∈ w.written ++ texts, Written j := by
  intro j hj
  rcases List.mem_append.mp hj with hj | hj
  · exact hw j hj
  · exact htexts j hj

theorem WritesKnown.writeJson (hw : w.WritesKnown) {j : Json} (hj : Written j) :
    (w.writeJson j).WritesKnown := by
  refine hw.append fun text htext => ?_
  rw [List.mem_singleton.mp htext]
  exact hj

/-- Every service of a handshake is answered by a `ServiceStartResult`. -/
theorem written_startResults (p : Publisher) (offers : List Offer) :
    ∀ j ∈ startResults p offers, Written j := by
  induction offers generalizing p with
  | nil => exact fun j hj => absurd hj List.not_mem_nil
  | cons offer offers ih =>
    intro j hj
    rcases List.mem_cons.mp hj with rfl | hj
    · exact .startResult _
    · exact ih _ j hj

theorem keeps_onHandshake (j : Json) (ref : String) (hw : w.WritesKnown) :
    (onHandshake starts what j ref w).1.WritesKnown := by
  unfold onHandshake
  split
  · exact hw.writeJson (.error _ _)
  · split
    · exact hw.writeJson (.error _ _)
    · exact hw.append (written_startResults _ _)

theorem keeps_onPing (j : Json) (ref : String) (hw : w.WritesKnown) :
    (onPing j ref w).1.WritesKnown :=
  hw.writeJson (.pong ref)

/-- The two subscriptions of a new session. -/
theorem mem_subscribers_setup {session : SessionId} {entry : String × Option (Subscription _)}
    (h : entry ∈ (w.setup starts what session).dispatcher.subscribers) :
    entry = ("Handshake", some (onHandshake starts what)) ∨ entry = ("Ping", some onPing) := by
  have hboth : entry ∈ [("Handshake", some (onHandshake starts what)), ("Ping", some onPing)] := h
  rcases List.mem_cons.mp hboth with rfl | hping
  · exact .inl rfl
  · exact .inr (List.mem_singleton.mp hping)

/-- They write nothing else. -/
theorem keeps_setup (w : PublisherWorld) (session : SessionId) :
    (w.setup starts what session).dispatcher.Keeps WritesKnown := by
  intro entry hentry callback hcallback msg ref world hworld
  rcases mem_subscribers_setup starts what hentry with rfl | rfl
  · obtain rfl := Option.some.inj hcallback
    exact keeps_onHandshake starts what msg ref hworld
  · obtain rfl := Option.some.inj hcallback
    exact keeps_onPing msg ref hworld

/-- They do not throw. -/
theorem neverThrows_setup (w : PublisherWorld) (session : SessionId) :
    (w.setup starts what session).dispatcher.NeverThrows := by
  intro entry hentry callback hcallback msg ref world
  rcases mem_subscribers_setup starts what hentry with rfl | rfl
  · obtain rfl := Option.some.inj hcallback
    unfold onHandshake
    split
    · exact fun h => by cases h
    · split
      · exact fun h => by cases h
      · exact fun h => by cases h
  · obtain rfl := Option.some.inj hcallback
    exact fun h => by cases h

theorem WritesKnown.informAboutConnection (hw : w.WritesKnown) (serviceId : ServiceId)
    (tunnelId : TunnelId) : (w.informAboutConnection serviceId tunnelId).WritesKnown := by
  unfold PublisherWorld.informAboutConnection
  split
  · exact hw
  · exact hw.writeJson (.newTunnel _ _ _)

theorem WritesKnown.inform (hw : w.WritesKnown) (serviceId : ServiceId) (effects : List Effect) :
    (effects.foldl (fun w effect => w.inform serviceId effect) w).WritesKnown := by
  induction effects generalizing w with
  | nil => exact hw
  | cons effect effects ih =>
    apply ih
    cases effect with
    | inform tunnelId => exact hw.informAboutConnection serviceId tunnelId
    | _ => exact hw

/-- What happens to a service has at most `NewTunnel` messages written. -/
theorem WritesKnown.tunnel (hw : w.WritesKnown) {serviceId : ServiceId} {e : Event}
    {w' : PublisherWorld} (h : w.tunnel serviceId e = some w') : w'.WritesKnown := by
  simp only [PublisherWorld.tunnel, Option.ite_none_right_eq_some] at h
  obtain ⟨-, hstep⟩ := h
  obtain ⟨r, -, rfl⟩ := Option.map_eq_some_iff.mp hstep
  have htunnels : ({ w with tunnels := Function.update w.tunnels serviceId r } :
      PublisherWorld).WritesKnown := hw
  exact htunnels.inform serviceId _

end PublisherWorld

end TunnelBore.Broker
