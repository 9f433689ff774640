import Nearcade.Source.Godot
import Nearcade.System.Events

/-!
# Bindings — Events

The queue between the SDK's callback and the script.  Every step of the class is a run of the SDK,
and what the queue goes through in it is a run of a queue of 256 (`queue_run`), so what holds of
such a queue holds of the class.

`delivered` are the events that come to `_event_callback`, `polled` the dictionaries that
`poll_event` returned for an event.  The methods are called one after the other: none from a handler
of a signal that `poll_event` emits, nor on two threads at once.

* `delivered_sublist`: a step delivers its event, or nothing.
* `polled_in_order`: in every run, what was polled and then what waits is made of the events that
  were delivered, in their order, with nothing twice; no more than 256 wait; and nothing is missing
  just when no event came while 256 waited.
* `frames_lossless`: where a script empties the queue once a frame, and no frame brings more than
  256 events, it gets every one.
-/

namespace Nearcade.Godot
open Text Runs

/-! ### Who an event goes to -/

/-- The callback and its `userdata` are the ones the class sets. -/
def Heard (g : NearcadeState) : Prop :=
  g.eventCb = some eventCallback ∧ g.eventCbUserdata = self

instance (g : NearcadeState) : Decidable (Heard g) := inferInstanceAs (Decidable (_ ∧ _))

theorem delivered_append (fx fx' : List Effect) :
    delivered (fx ++ fx') = delivered fx ++ delivered fx' :=
  List.filterMap_append

theorem delivered_event (g : NearcadeState) (ev : NearcadeEvent) :
    delivered [.event g.eventCb g.eventCbUserdata ev] = if Heard g then [ev] else [] := by
  by_cases h : Heard g
  · have hd : delivered [.event g.eventCb g.eventCbUserdata ev] = _ := List.filterMap_cons
    rw [hd, if_pos h]
    simp only [if_pos (show g.eventCb = some eventCallback ∧ g.eventCbUserdata = self from h)]
    rfl
  · have hd : delivered [.event g.eventCb g.eventCbUserdata ev] = _ := List.filterMap_cons
    rw [hd, if_neg h]
    simp only [if_neg (show ¬ (g.eventCb = some eventCallback ∧ g.eventCbUserdata = self) from h)]
    rfl

/-- What does not reach the application is not delivered. -/
theorem delivered_foreign {ks : List Kind} {fx : List Effect} (h : Within ks fx)
    (hk : .application ∉ ks) : delivered fx = [] :=
  h.filterMap fun e he => by
    cases e with
    | event cb ud ev => exact absurd he hk
    | _ => rfl

/-- All events go to the callback that is set. -/
def ToCallback (g : NearcadeState) (fx : List Effect) : Prop :=
  ∀ e ∈ fx, e.kind = .application → ∃ ev, e = .event g.eventCb g.eventCbUserdata ev

section
variable {g : NearcadeState} {fx fx' : List Effect}

theorem toCallback_fireEvent (g : NearcadeState) (ev : NearcadeEvent) :
    ToCallback g (fireEvent g ev) :=
  fun _ he _ => ⟨ev, List.mem_singleton.mp he⟩

theorem ToCallback.append (h : ToCallback g fx) (h' : ToCallback g fx') :
    ToCallback g (fx ++ fx') := fun e he hk => by
  rcases List.mem_append.mp he with he | he
  · exact h e he hk
  · exact h' e he hk

/-- What does not reach the application. -/
theorem toCallback_foreign {ks : List Kind} (h : Within ks fx) (hk : .application ∉ ks) :
    ToCallback g fx := fun e he ha => absurd (ha ▸ h e he) hk

/-- **Where the class is heard, all events are delivered**; elsewhere none is. -/
theorem ToCallback.delivered (h : ToCallback g fx) :
    delivered fx = if Heard g then fired fx else [] := by
  induction fx with
  | nil => exact (ite_self _).symm
  | cons e fx ih =>
      have ih := ih fun e' he' => h e' (List.mem_cons_of_mem _ he')
      have hd : Godot.delivered (e :: fx) = Godot.delivered [e] ++ Godot.delivered fx :=
        delivered_append [e] fx
      have hf : fired (e :: fx) = fired [e] ++ fired fx := fired_append [e] fx
      rw [hd, hf, ih]
      by_cases ha : e.kind = .application
      · obtain ⟨ev, rfl⟩ := h e (List.mem_cons_self ..) ha
        rw [delivered_event]
        split <;> rfl
      · -- it goes to another part
        have hw : Within [e.kind] [e] := .one (List.mem_singleton.mpr rfl)
        have hk : .application ∉ [e.kind] := fun hm => ha (List.mem_singleton.mp hm).symm
        rw [delivered_foreign hw hk, hw.fired hk]
        rfl

end

section
variable {ov : Int → Int}

theorem Call.toCallback (s : State) (c : Call) : ToCallback s.g (c.run ov s).2 := by
  cases c with
  | startStreaming => exact toCallback_fireEvent { s.g with streaming := true } _
  | _ => exact toCallback_foreign (Call.within ov s _) (by simp [Call.kinds])

theorem Net.toCallback (s : State) (n : Net) : ToCallback s.g (n.run ov s).2 := by
  cases n with
  | receive wsi input throws =>
      simp only [Net.run, callbackReceive]
      split
      · exact toCallback_fireEvent _ _
      · refine ToCallback.append ?_ (toCallback_fireEvent _ _)
        split
        · exact toCallback_foreign Webrtc.within_handleSignaling (by simp)
        · exact toCallback_foreign .nil (List.not_mem_nil)
      · exact toCallback_foreign .nil (List.not_mem_nil)
  | stateChange pc state =>
      simp only [Net.run]
      split
      · exact toCallback_fireEvent _ _
      · exact toCallback_foreign .nil (List.not_mem_nil)
  | message pc msg =>
      simp only [Net.run]
      split
      · refine ToCallback.append ?_ (toCallback_fireEvent _ _)
        exact toCallback_foreign Input.within_submitGamepad (by simp)
      · exact toCallback_foreign .nil (List.not_mem_nil)
  | established _ _ _ | closed _ | localDescription _ _ _ _ | localCandidate _ _ _ =>
      exact toCallback_foreign (Net.within ov s _) (by simp [Net.kinds])

/-- A callback fires its event, or nothing where the callbacks of the WebRTC module are not set. -/
theorem Net.fired_sublist (s : State) (n : Net) : (fired (n.run ov s).2).Sublist (n.event s) := by
  cases n with
  | receive wsi input throws =>
      simp only [Net.run, callbackReceive, Net.event]
      cases Signaling.senderOf s.sig wsi with
      | host | unknown => exact List.Sublist.refl _
      | viewer i =>
          simp only [handleViewerMessage, fired_append, fired_fireEvent]
          split
          · rw [onSignalingMsg, Webrtc.within_handleSignaling.fired (by simp)]
            exact List.Sublist.refl _
          · exact List.Sublist.refl _
  | stateChange pc state =>
      simp only [Net.run, Webrtc.onStateChange, Net.event, reportBy]
      cases s.rtc.captured pc with
      | none => exact List.nil_sublist _
      | some idx =>
          -- without `g_viewer_cb` a report fires nothing
          cases hv : s.rtc.gViewerCb with
          | false => cases state <;> exact List.nil_sublist _
          | true => cases state <;> exact List.Sublist.refl _
  | message pc msg =>
      cases msg with
      | string str => exact List.nil_sublist _
      | binary bin =>
          simp only [Net.run, Webrtc.onMessage, Net.event]
          split
          · rename_i pkt hpkt
            rw [Option.ite_none_right_eq_some] at hpkt
            rw [webrtcReceivedInput, fired_append, fired_fireEvent, hpkt.2,
              Input.within_submitGamepad.fired (by simp)]
            exact List.Sublist.refl _
          · exact List.nil_sublist _
  | established _ _ _ | closed _ | localDescription _ _ _ _ | localCandidate _ _ _ =>
      rw [(Net.within ov s _).fired (by simp [Net.kinds])]
      exact List.nil_sublist _

end

/-! ### What a step delivers -/

section
variable {ov : Int → Int} {conv : Variant → Int32}

/-- What the network does while the class is not heard is delivered to nobody. -/
theorem delivered_nets (ns : List Net) (is : List Nearcade.Input) {w : Nearcade.World}
    (h : ¬ Heard w.sdk.g) (his : ∀ w' : Nearcade.World,
      delivered (outputs ((system ov).trace w' is)) = []) :
    delivered (outputs ((system ov).trace w (ns.map .net ++ is))) = [] := by
  induction ns generalizing w with
  | nil => exact his w
  | cons n ns ih =>
      have hg : ¬ Heard ((system ov).next w (.net n)).sdk.g := by
        have hf : ((system ov).next w (.net n)).sdk.g = w.sdk.g := (Net.frame w.sdk n).1
        rwa [hf]
      have hn : delivered ((system ov).out w (.net n)) = [] :=
        (Net.toCallback w.sdk n).delivered.trans (if_neg h)
      rw [List.map_cons, List.cons_append, Machine.outputs_cons, delivered_append, hn, ih hg]
      rfl

/-- `nearcade_init` leaves no callback. -/
theorem not_heard_init (config : Option NearcadeConfig) (e : InitEnv) (waits : Capture.Waits)
    (s : State) : ¬ Heard (nearcadeInit config e waits s).2.1.g := by
  have hcb : (nearcadeInit config e waits s).2.1.g.eventCb = none := by
    rcases nearcadeInit_cases config e waits s with
      ⟨-, h⟩ | ⟨-, -, h⟩ | ⟨-, -, -, h⟩ | ⟨-, -, -, h⟩ <;> rw [h] <;> rfl
  intro h
  rw [Heard, hcb] at h
  exact absurd h.1 (by simp)

/-- A call delivers the event it fires, or nothing. -/
theorem delivered_call (w : Nearcade.World) (c : Call) :
    (delivered (outputs ((system ov).trace w [.call c]))).Sublist c.event := by
  have ho : outputs ((system ov).trace w [.call c]) = (c.run ov w.sdk).2 :=
    (Machine.outputs_cons ..).trans (List.append_nil _)
  rw [ho, (Call.toCallback w.sdk c).delivered, Call.fired]
  split
  · exact List.Sublist.refl _
  · exact List.nil_sublist _

/-- The event of a step, where the class is heard. -/
def Input.event (s : State) : Input → List NearcadeEvent
  | .net n => n.event s
  | .method .startStreaming => [.streaming 0]
  | .method _ => []

/-- **What a step delivers**: its event, or nothing. -/
theorem delivered_sublist (w : World) (i : Input) :
    (delivered (sdkEffects ov conv w i)).Sublist (i.event w.world.sdk) := by
  cases i with
  | net n =>
      have ho : sdkEffects ov conv w (.net n) = (n.run ov w.world.sdk).2 :=
        (Machine.outputs_cons ..).trans (List.append_nil _)
      rw [ho, (Net.toCallback w.world.sdk n).delivered]
      split
      · exact Net.fired_sublist _ n
      · exact List.nil_sublist _
  | method m =>
      cases m with
      | init config env waits between =>
          -- until the callback is set, what is fired goes nowhere
          have hset : ∀ w' : Nearcade.World, delivered (outputs ((system ov).trace w'
              (if (nearcadeInit (some (configOf conv config)) env waits w.world.sdk).1 = .ok then
                [.call (.setEventCallback (some eventCallback) self)] else []))) = [] := by
            intro w'
            split <;> rfl
          have hc : delivered ((system ov).out w.world
              (.call (.init (some (configOf conv config)) env waits))) = [] :=
            delivered_foreign within_nearcadeInit (by simp)
          have hg : ¬ Heard ((system ov).next w.world
              (.call (.init (some (configOf conv config)) env waits))).sdk.g :=
            not_heard_init _ env waits w.world.sdk
          rw [sdkEffects, Input.calls, Method.calls, List.cons_append, Machine.outputs_cons,
            delivered_append, hc, delivered_nets between _ hg hset]
          exact List.nil_sublist _
      | getSignalingUrl | getLanIp | getPin | pollEvent => exact List.nil_sublist _
      | _ => exact delivered_call _ _

/-- A step delivers no more than one event. -/
theorem delivered_length_le (ov : Int → Int) (conv : Variant → Int32) (w : World) (i : Input) :
    (delivered (sdkEffects ov conv w i)).length ≤ 1 := by
  refine (delivered_sublist w i).length_le.trans ?_
  cases i with
  | net n =>
      cases n with
      | receive wsi input throws =>
          simp only [Input.event, Net.event]
          split
          · exact Nat.le_refl 1
          · exact Nat.le_refl 1
          · exact Nat.zero_le 1
      | stateChange pc state => exact Option.length_toList_le
      | message pc msg =>
          cases msg with
          | string str => exact Nat.zero_le 1
          | binary bin => exact Option.length_toList_le
      | _ => exact Nat.zero_le 1
  | method m =>
      cases m with
      | startStreaming => exact Nat.le_refl 1
      | _ => exact Nat.zero_le 1

end

/-! ### The history of a run -/

/-- A trace of the class. -/
abbrev Trace := List (Entry World Input Out)

/-- What the SDK did in a step. -/
def effectsOf (os : List Out) : List Effect :=
  os.filterMap fun
    | .effect e => some e
    | _ => none

/-- The events delivered in a step. -/
def deliveredIn (e : Entry World Input Out) : List NearcadeEvent := delivered (effectsOf e.out)

/-- The events delivered in a run. -/
def deliveredEvents (t : Trace) : List NearcadeEvent := t.flatMap deliveredIn

/-- The dictionary of an event that a value is: `poll_event` returns an empty one for no event. -/
def eventReturned : Out → Option Dictionary
  | .returned (.dictionary (entry :: d)) => some (entry :: d)
  | _ => none

/-- The dictionaries of events that a step returned. -/
def polledIn (e : Entry World Input Out) : List Dictionary :=
  match e.input with
  | .method .pollEvent => e.out.filterMap eventReturned
  | _ => []

/-- The dictionaries of events that a run returned. -/
def polled (t : Trace) : List Dictionary := t.flatMap polledIn

/-- What a step is for the queue. -/
def Input.queueOps (evs : List NearcadeEvent) : Input → List (Queue.Op NearcadeEvent)
  | .method .pollEvent => [.take]
  | _ => evs.map .offer

/-- What a run is for the queue. -/
def queueOps (t : Trace) : List (Queue.Op NearcadeEvent) :=
  t.flatMap fun e => e.input.queueOps (deliveredIn e)

section
variable {ov : Int → Int} {conv : Variant → Int32}

theorem effectsOf_returns (s s' : State) (q : List NearcadeEvent) (i : Input) :
    effectsOf (i.returns conv s s' q) = [] := by
  cases i with
  | net n => rfl
  | method m =>
      cases m with
      | pollEvent => cases q <;> rfl
      | _ => rfl

theorem effectsOf_map (fx : List Effect) : effectsOf (fx.map .effect) = fx := by
  induction fx with
  | nil => rfl
  | cons e fx ih => exact congrArg (e :: ·) ih

theorem deliveredIn_eq {e : Entry World Input Out}
    (ho : e.out = (godot ov conv).out e.pre e.input) :
    deliveredIn e = delivered (sdkEffects ov conv e.pre e.input) := by
  have h : effectsOf ((godot ov conv).out e.pre e.input) = sdkEffects ov conv e.pre e.input := by
    simp only [godot]
    rw [effectsOf, List.filterMap_append]
    exact (congrArg₂ _ (effectsOf_map _) (effectsOf_returns ..)).trans (List.append_nil _)
  rw [deliveredIn, ho, h]

theorem deliveredIn_step (w : World) (i : Input) :
    deliveredIn ⟨w, i, (godot ov conv).out w i⟩ = delivered (sdkEffects ov conv w i) :=
  deliveredIn_eq (e := ⟨w, i, _⟩) rfl

/-- What a step polls is the first event that waits. -/
theorem polledIn_step (w : World) (i : Input) :
    polledIn ⟨w, i, (godot ov conv).out w i⟩ =
      match i with
      | .method .pollEvent => w.eventQueue.head?.toList.map eventDict
      | _ => [] := by
  cases i with
  | net n => rfl
  | method m =>
      cases m with
      | pollEvent =>
          obtain ⟨w, q⟩ := w
          cases q <;> rfl
      | _ => rfl

theorem final_offers (q evs : List NearcadeEvent) :
    (Queue.bounded NearcadeEvent 256).final q (evs.map .offer) = evs.foldl push q := by
  induction evs generalizing q with
  | nil => rfl
  | cons ev evs ih => exact ih (push q ev)

theorem outputs_offers (q evs : List NearcadeEvent) :
    outputs ((Queue.bounded NearcadeEvent 256).trace q (evs.map .offer)) = [] := by
  induction evs generalizing q with
  | nil => rfl
  | cons ev evs ih => exact ih (push q ev)

/-- A step is, for the queue, what its operations are. -/
theorem queueAfter_eq (q evs : List NearcadeEvent) (i : Input) :
    i.queueAfter q evs = (Queue.bounded NearcadeEvent 256).final q (i.queueOps evs) := by
  cases i with
  | net n => exact (final_offers q evs).symm
  | method m =>
      cases m with
      | pollEvent => rfl
      | _ => exact (final_offers q evs).symm

theorem polledIn_eq (w : World) (i : Input) :
    polledIn ⟨w, i, (godot ov conv).out w i⟩ =
      (outputs ((Queue.bounded NearcadeEvent 256).trace w.eventQueue
        (i.queueOps (delivered (sdkEffects ov conv w i))))).map eventDict := by
  rw [polledIn_step]
  cases i with
  | net n => exact (congrArg (List.map eventDict) (outputs_offers ..)).symm
  | method m =>
      cases m with
      | pollEvent =>
          rw [Input.queueOps, Machine.outputs_cons]
          exact congrArg _ (List.append_nil _).symm
      | _ => exact (congrArg (List.map eventDict) (outputs_offers ..)).symm

theorem eventQueue_next (w : World) (i : Input) :
    ((godot ov conv).next w i).eventQueue = (Queue.bounded NearcadeEvent 256).final w.eventQueue
      (i.queueOps (delivered (sdkEffects ov conv w i))) :=
  queueAfter_eq ..

theorem queueOps_cons (w : World) (i : Input) (is : List Input) :
    queueOps ((godot ov conv).trace w (i :: is)) =
      i.queueOps (delivered (sdkEffects ov conv w i)) ++
        queueOps ((godot ov conv).trace ((godot ov conv).next w i) is) := by
  rw [Machine.trace, queueOps, List.flatMap_cons, deliveredIn_step]
  rfl

/-- **A run of the class is a run of a queue of 256**, which holds what waits and gives what is
polled. -/
theorem queue_run (ov : Int → Int) (conv : Variant → Int32) (w : World) (is : List Input) :
    ((godot ov conv).final w is).eventQueue = (Queue.bounded NearcadeEvent 256).final w.eventQueue
        (queueOps ((godot ov conv).trace w is)) ∧
      polled ((godot ov conv).trace w is) =
        (outputs ((Queue.bounded NearcadeEvent 256).trace w.eventQueue
          (queueOps ((godot ov conv).trace w is)))).map eventDict := by
  induction is generalizing w with
  | nil => exact ⟨rfl, rfl⟩
  | cons i is ih =>
      obtain ⟨hq, hp⟩ := ih ((godot ov conv).next w i)
      rw [queueOps_cons, Machine.final, Machine.final_append, Machine.trace_append,
        ← eventQueue_next]
      refine ⟨hq, ?_⟩
      rw [Machine.trace, polled, List.flatMap_cons, polledIn_eq, outputs_append, List.map_append]
      exact congrArg _ hp

/-- What is offered to the queue in a run is what is delivered. -/
theorem offered_queueOps (w : World) (is : List Input) :
    (queueOps ((godot ov conv).trace w is)).filterMap Queue.Op.offered =
      deliveredEvents ((godot ov conv).trace w is) := by
  induction is generalizing w with
  | nil => rfl
  | cons i is ih =>
      have hstep : (i.queueOps (delivered (sdkEffects ov conv w i))).filterMap Queue.Op.offered =
          delivered (sdkEffects ov conv w i) := by
        have hmap : ∀ evs : List NearcadeEvent,
            (evs.map Queue.Op.offer).filterMap Queue.Op.offered = evs := fun evs => by
          rw [List.filterMap_map]
          exact List.filterMap_some
        cases i with
        | net n => exact hmap _
        | method m =>
            cases m with
            -- no call is made, so nothing is delivered
            | pollEvent => rfl
            | _ => exact hmap _
      rw [Machine.trace, queueOps, deliveredEvents, List.flatMap_cons, List.flatMap_cons,
        deliveredIn_step, List.filterMap_append, hstep]
      exact congrArg _ (ih _)

/-- **The queue has room in every step just when no event comes while 256 wait.** -/
theorem hasRoom_iff (w : World) (is : List Input) :
    (∀ e ∈ (Queue.bounded NearcadeEvent 256).trace w.eventQueue
        (queueOps ((godot ov conv).trace w is)), Queue.HasRoom 256 e.pre e.input) ↔
      ∀ e ∈ (godot ov conv).trace w is, deliveredIn e ≠ [] → e.pre.eventQueue.length < 256 := by
  induction is generalizing w with
  | nil =>
      exact iff_of_true (fun _ he => absurd he List.not_mem_nil)
        fun _ he => absurd he List.not_mem_nil
  | cons i is ih =>
      -- the operations of one step: at most one offer, or one that takes
      have hstep : (∀ e ∈ (Queue.bounded NearcadeEvent 256).trace w.eventQueue
          (i.queueOps (delivered (sdkEffects ov conv w i))), Queue.HasRoom 256 e.pre e.input) ↔
          (delivered (sdkEffects ov conv w i) ≠ [] → w.eventQueue.length < 256) := by
        have hoffer : ∀ evs : List NearcadeEvent, evs.length ≤ 1 →
            ((∀ e ∈ (Queue.bounded NearcadeEvent 256).trace w.eventQueue (evs.map .offer),
              Queue.HasRoom 256 e.pre e.input) ↔ (evs ≠ [] → w.eventQueue.length < 256)) := by
          intro evs hlen
          match evs, hlen with
          | [], _ =>
              exact iff_of_true (fun _ he => absurd he List.not_mem_nil) fun h => absurd rfl h
          | [ev], _ =>
              rw [List.map_singleton, Machine.trace, List.forall_mem_cons]
              refine (and_iff_left fun _ he => absurd he List.not_mem_nil).trans ?_
              exact imp_congr_left (iff_of_true rfl fun h => absurd h (List.cons_ne_nil ev []))
        have hlen := delivered_length_le ov conv w i
        cases i with
        | net n => exact hoffer _ hlen
        | method m =>
            cases m with
            | pollEvent =>
                refine iff_of_true (fun e he => ?_) fun h => absurd rfl h
                rw [List.mem_singleton.mp he]
                exact fun h => absurd h Bool.false_ne_true
            | _ => exact hoffer _ hlen
      rw [queueOps_cons, Machine.trace_append, List.forall_mem_append, ← eventQueue_next, ih, hstep,
        Machine.trace, List.forall_mem_cons, deliveredIn_step]

/-- **What a script polls.**  In every run, what was polled and then what waits is made of what
waited before and the events that were delivered, in order and with nothing twice; no more than 256
wait; and nothing is missing just when no event came while 256 waited. -/
theorem polled_of_queue {w : World} (hw : w.eventQueue.length ≤ 256) (is : List Input) :
    ((godot ov conv).final w is).eventQueue.length ≤ 256 ∧
      (polled ((godot ov conv).trace w is) ++
        ((godot ov conv).final w is).eventQueue.map eventDict).Sublist
          ((w.eventQueue ++ deliveredEvents ((godot ov conv).trace w is)).map eventDict) ∧
      (polled ((godot ov conv).trace w is) ++
          ((godot ov conv).final w is).eventQueue.map eventDict =
            (w.eventQueue ++ deliveredEvents ((godot ov conv).trace w is)).map eventDict ↔
        ∀ e ∈ (godot ov conv).trace w is, deliveredIn e ≠ [] → e.pre.eventQueue.length < 256) := by
  obtain ⟨hq, hp⟩ := queue_run ov conv w is
  have hacc : polled ((godot ov conv).trace w is) ++
      ((godot ov conv).final w is).eventQueue.map eventDict =
        (Queue.accounted 256 w.eventQueue (queueOps ((godot ov conv).trace w is))).map
          eventDict := by
    rw [hq, hp, ← List.map_append]
    rfl
  have hsub : (Queue.accounted 256 w.eventQueue
      (queueOps ((godot ov conv).trace w is))).Sublist _ := Queue.taken_sublist ..
  rw [offered_queueOps] at hsub
  rw [hacc]
  refine ⟨?_, hsub.map eventDict, ?_⟩
  · rw [hq]
    exact Queue.length_final_le hw _
  · rw [← hasRoom_iff, ← Queue.lossless_iff, offered_queueOps]
    constructor
    · intro h
      -- a sublist of the same length is the whole list
      have hlen := congrArg List.length h
      rw [List.length_map, List.length_map] at hlen
      exact hsub.eq_of_length hlen
    · exact fun h => congrArg (List.map eventDict) h

/-- **What a script polls, from the construction of the class on.** -/
theorem polled_in_order (ov : Int → Int) (conv : Variant → Int32) (is : List Input) :
    ((godot ov conv).final .boot is).eventQueue.length ≤ 256 ∧
      (polled ((godot ov conv).trace .boot is) ++
        ((godot ov conv).final .boot is).eventQueue.map eventDict).Sublist
          ((deliveredEvents ((godot ov conv).trace .boot is)).map eventDict) ∧
      (polled ((godot ov conv).trace .boot is) ++
          ((godot ov conv).final .boot is).eventQueue.map eventDict =
            (deliveredEvents ((godot ov conv).trace .boot is)).map eventDict ↔
        ∀ e ∈ (godot ov conv).trace .boot is,
          deliveredIn e ≠ [] → e.pre.eventQueue.length < 256) :=
  polled_of_queue (w := .boot) (Nat.zero_le 256) is

/-! ### Frames -/

/-- A script empties the queue at the end of each frame, and no frame brings more than 256
events. -/
def Frames (ov : Int → Int) (conv : Variant → Int32) : World → List (List Input) → Prop
  | _, [] => True
  | w, f :: fs =>
      (deliveredEvents ((godot ov conv).trace w f)).length ≤ 256 ∧
        ((godot ov conv).final w f).eventQueue = [] ∧ Frames ov conv ((godot ov conv).final w f) fs

/-- **A script that empties the queue once a frame gets every event**, where no frame brings more
than 256. -/
theorem frames_lossless {fs : List (List Input)} {w : World} (hw : w.eventQueue = [])
    (h : Frames ov conv w fs) :
    polled ((godot ov conv).trace w fs.flatten) =
      (deliveredEvents ((godot ov conv).trace w fs.flatten)).map eventDict := by
  induction fs generalizing w with
  | nil => rfl
  | cons f fs ih =>
      obtain ⟨hlen, hempty, hrest⟩ := h
      have ih := ih hempty hrest
      obtain ⟨hq, hp⟩ := queue_run ov conv w f
      have hroom : w.eventQueue.length +
          ((queueOps ((godot ov conv).trace w f)).filterMap Queue.Op.offered).length ≤ 256 := by
        rw [hw, offered_queueOps, List.length_nil, Nat.zero_add]
        exact hlen
      have hf := Queue.lossless_of_length_le hroom
      -- what is accounted for is polled, since nothing waits
      rw [Queue.accounted, ← hq, hempty, List.append_nil, offered_queueOps, hw,
        List.nil_append] at hf
      rw [List.flatten_cons, Machine.trace_append, polled, deliveredEvents, List.flatMap_append,
        List.flatMap_append, List.map_append]
      refine congrArg₂ _ ?_ ih
      have hpf : polled ((godot ov conv).trace w f) = _ := hp
      rw [hw, hf] at hpf
      exact hpf

end

/-- A script that starts the SDK, and one of its frames. -/
def firstFrames : List (List Input) :=
  [[.method (.init [] .good ⟨0, 0⟩ [])],
   [.method .startStreaming, .net (.established 7 (bytes "/viewer") []),
    .net (.stateChange 0 .connected), .method .pollEvent, .method .pollEvent]]

theorem frames_lossless_first :
    polled ((godot id fun _ => 0).trace .boot firstFrames.flatten) =
      (deliveredEvents ((godot id fun _ => 0).trace .boot firstFrames.flatten)).map eventDict :=
  frames_lossless rfl
    ⟨by decide +kernel, by decide +kernel, by decide +kernel, by decide +kernel, trivial⟩

end Nearcade.Godot
