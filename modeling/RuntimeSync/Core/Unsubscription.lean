import RuntimeSync.Core.Delivery

/-!
# Delivery and unsubscribing

A publish in progress invokes the callbacks that it copied when it started.
Each of them was copied for a subscription, and that subscription may have been
removed by the time the loop comes to its callback.
-/

namespace RuntimeSync.InMemoryTransport

variable {C : Type}

/-! ## What is left to invoke -/

/-- The subscriptions under the key, each with its callback. -/
def subscriptionsOf (t : Impl C) (key : Str) : List (Subscription × C) :=
  (Buckets.bucket t.subscribers key).map fun subscriber ↦
    (⟨key, subscriber.id⟩, subscriber.callback)

def observePending (number : ℕ) (pending : List (Subscription × C)) (r : Run C) :
    Call C → Answer C → List (Subscription × C)
  | .publish message, .started m =>
      if m = number then subscriptionsOf r.impl message.key else pending
  | _, .invoked m _ _ => if m = number then pending.tail else pending
  | _, _ => pending

/-- The callbacks that the publish with the number has still to invoke, each
with the subscription that it was copied for. -/
def pending (number : ℕ) (rec : Record C) : List (Subscription × C) :=
  rec.foldl (fun pending e ↦ observePending number pending e.state e.input e.output) []

/-- The subscription whose callback a call starts. -/
def startedFor (rec : Record C) : Answer C → Option Subscription
  | .invoked number _ _ => (pending number rec).head?.map Prod.fst
  | _ => none

theorem pending_concat (number : ℕ) (rec : Record C)
    (e : Machine.Entry (Run C) (Call C) (Answer C)) :
    pending number (rec ++ [e]) =
      observePending number (pending number rec) e.state e.input e.output := by
  rw [pending, List.foldl_concat, pending]

/-- What is pending is what the loops have left. -/
def Tracks (r : Run C) (rec : Record C) : Prop :=
  ∀ number : ℕ, (pending number rec).map Prod.snd =
    (r.deliveries[number]?.map Delivery.callbacks).getD []

theorem subscriptionsOf_callbacks (t : Impl C) (key : Str) :
    (subscriptionsOf t key).map Prod.snd =
      (Buckets.bucket t.subscribers key).map Subscriber.callback := by
  rw [subscriptionsOf, List.map_map]
  rfl

theorem tracks_step {r : Run C} {rec : Record C} (h : Tracks r rec) (call : Call C) :
    Tracks (step r call).1 (rec ++ [⟨r, call, (step r call).2⟩]) := by
  intro number
  rw [pending_concat]
  cases call with
  | subscribe key callback =>
      rw [step]
      split
      · exact h number
      · exact h number
  | unsubscribe subscription => exact h number
  | publish message =>
      cases hvalid : TransportKeys.validateTaskSampleKey message.key with
      | error reason =>
          rw [step_publish_of_invalid hvalid]
          exact h number
      | ok _ =>
          rw [step_publish_of_valid hvalid, observePending]
          dsimp only
          rw [Std.ExtTreeMap.getElem?_insert]
          by_cases heq : r.published = number
          · simp [heq, subscriptionsOf_callbacks]
          · simp [heq, h number]
  | proceed m =>
      rw [step]
      split
      · exact h number
      · next hsome =>
          refine (h number).trans ?_
          dsimp only
          rw [Std.ExtTreeMap.getElem?_erase]
          by_cases heq : m = number
          · subst heq
            simp [hsome]
          · simp [heq]
      · next hsome =>
          dsimp only [observePending]
          rw [Std.ExtTreeMap.getElem?_insert]
          by_cases heq : m = number
          · subst heq
            rw [if_pos rfl, List.map_tail, h m, hsome]
            simp
          · simp [heq, h number]

theorem tracks_after (calls : List (Call C)) : Tracks (after calls) (record calls) :=
  Machine.trace_run (R := Tracks) (s := {}) (fun _ _ call h ↦ tracks_step h call)
    (fun _ ↦ by simp [pending]) calls

/-! ## Removed subscriptions -/

/-- The subscription has been handed out. -/
def Made (subscription : Subscription) (rec : Record C) : Prop :=
  ∃ e ∈ rec, e.output = .subscribed subscription

theorem subscribed_step {r : Run C} {call : Call C} {subscription : Subscription}
    (h : (step r call).2 = .subscribed subscription) :
    subscription.id = r.impl.nextId ∧ (step r call).1.impl.nextId = r.impl.nextId + 1 := by
  cases call with
  | subscribe key callback =>
      by_cases hvalid : TransportKeys.validateTaskSampleKey key ≠ .ok () ∨ callback = none
      · obtain ⟨reason, hstep⟩ := step_subscribe_of_invalid (r := r) hvalid
        rw [hstep] at h
        cases h
      · obtain ⟨hkey, hcallback⟩ := not_or.mp hvalid
        obtain ⟨callback, rfl⟩ := Option.ne_none_iff_exists'.mp hcallback
        rw [step, subscribe_of_valid (not_not.mp hkey)] at h ⊢
        obtain rfl := Answer.subscribed.inj h
        exact ⟨rfl, rfl⟩
  | unsubscribe removed => cases h
  | publish message =>
      rw [step] at h
      split at h
      · cases h
      · cases h
  | proceed number =>
      rw [step] at h
      split at h
      · cases h
      · cases h
      · cases h

theorem nextId_le_step (r : Run C) (call : Call C) :
    r.impl.nextId ≤ (step r call).1.impl.nextId := by
  cases call with
  | subscribe key callback =>
      rw [step]
      cases hsubscribe : r.impl.subscribe key callback with
      | mk t result =>
          cases result with
          | error reason => exact Nat.le_refl _
          | ok subscription =>
              have hsubscribed : (step r (.subscribe key callback)).2 =
                  .subscribed subscription := by rw [step, hsubscribe]
              have hnext := (subscribed_step hsubscribed).2
              rw [step, hsubscribe] at hnext
              exact (Nat.le_succ _).trans (Nat.le_of_eq hnext.symm)
  | unsubscribe subscription => exact Nat.le_refl _
  | publish message =>
      rw [step]
      split
      · exact Nat.le_refl _
      · exact Nat.le_refl _
  | proceed number =>
      rw [step]
      split
      · exact Nat.le_refl _
      · exact Nat.le_refl _
      · exact Nat.le_refl _

theorem id_lt_of_made {calls : List (Call C)} {subscription : Subscription}
    (h : Made subscription (record calls)) : subscription.id < (after calls).impl.nextId := by
  have hstep : ∀ (r : Run C) (rec : Record C) (call : Call C),
      (∀ s, Made s rec → s.id < r.impl.nextId) →
        ∀ s, Made s (rec ++ [⟨r, call, (step r call).2⟩]) →
          s.id < (step r call).1.impl.nextId := by
    rintro r rec call hbefore s ⟨e, he, hout⟩
    rcases List.mem_append.mp he with he | he
    · exact Nat.lt_of_lt_of_le (hbefore s ⟨e, he, hout⟩) (nextId_le_step r call)
    · rw [List.mem_singleton.mp he] at hout
      obtain ⟨hid, hnext⟩ := subscribed_step hout
      omega
  exact Machine.trace_run (R := fun r rec ↦ ∀ s, Made s rec → s.id < r.impl.nextId) (s := {})
    hstep (by simp [Made]) calls subscription h

theorem mem_observe {subs : List (Subscription × C)} {call : Call C} {answer : Answer C}
    {s : Subscription × C} (h : s ∈ observe subs call answer) :
    s ∈ subs ∨ answer = .subscribed s.1 := by
  unfold observe at h
  split at h
  · rcases List.mem_append.mp h with h | h
    · exact .inl h
    · rw [List.mem_singleton.mp h]
      exact .inr rfl
  · exact .inl (List.mem_filter.mp h).1
  · exact .inl h

theorem mem_observePending {number : ℕ} {subs : List (Subscription × C)} {r : Run C}
    {call : Call C} {answer : Answer C} {s : Subscription × C}
    (h : s ∈ observePending number subs r call answer) :
    s ∈ subs ∨ ∃ key, s ∈ subscriptionsOf r.impl key := by
  unfold observePending at h
  split at h
  · split at h
    · exact .inr ⟨_, h⟩
    · exact .inl h
  · split at h
    · exact .inl (List.mem_of_mem_tail h)
    · exact .inl h
  · exact .inl h

theorem OnFile.mem_subscriptionsOf {t : Impl C} {subs : List (Subscription × C)}
    (h : OnFile t subs) {key : Str} {s : Subscription × C} (hs : s ∈ subscriptionsOf t key) :
    s ∈ subs := by
  rw [subscriptionsOf, h.files key, List.filter_map, List.map_map, List.map_map] at hs
  obtain ⟨s', hs', rfl⟩ := List.mem_map.mp hs
  obtain ⟨hmem, hkey⟩ := List.mem_filter.mp hs'
  obtain rfl := of_decide_eq_true hkey
  exact hmem

/-- Nothing invokes the callback of the subscription any more. -/
structure Gone (subscription : Subscription) (r : Run C) (rec : Record C) : Prop where
  id_lt : subscription.id < r.impl.nextId
  not_live : ∀ callback, (subscription, callback) ∉ live rec
  not_pending : ∀ number callback, (subscription, callback) ∉ pending number rec

theorem gone_step {subscription : Subscription} {r : Run C} {rec : Record C}
    (h : Gone subscription r rec) (hfile : OnFile r.impl (live rec)) (call : Call C) :
    Gone subscription (step r call).1 (rec ++ [⟨r, call, (step r call).2⟩]) := by
  refine ⟨Nat.lt_of_lt_of_le h.id_lt (nextId_le_step r call), ?_, ?_⟩
  · intro callback hmem
    rw [live_concat] at hmem
    rcases mem_observe hmem with hbefore | hnew
    · exact h.not_live callback hbefore
    · exact absurd (subscribed_step hnew).1 (Nat.ne_of_lt h.id_lt)
  · intro number callback hmem
    rw [pending_concat] at hmem
    rcases mem_observePending hmem with hbefore | ⟨key, hcopied⟩
    · exact h.not_pending number callback hbefore
    · exact h.not_live callback (hfile.mem_subscriptionsOf hcopied)

/-! ## From unsubscribing on -/

theorem record_concat (calls : List (Call C)) (call : Call C) :
    record (calls ++ [call]) =
      record calls ++ [⟨after calls, call, (step (after calls) call).2⟩] :=
  Machine.trace_concat step {} calls call

theorem after_concat (calls : List (Call C)) (call : Call C) :
    after (calls ++ [call]) = (step (after calls) call).1 :=
  Machine.run_concat step {} calls call

/-- The call after the first ones starts the callback of the subscription. -/
def Starts (subscription : Subscription) (calls : List (Call C)) (call : Call C) : Prop :=
  startedFor (record calls) (step (after calls) call).2 = some subscription

/-- A subscription whose unsubscribe has returned is inactive, and no later
call starts its callback. -/
def NoDeliveryAfterUnsubscribe (calls : List (Call C)) : Prop :=
  ∀ seen subscription rest call later,
    calls = seen ++ .unsubscribe subscription :: (rest ++ call :: later) →
    Made subscription (record seen) →
    (after (seen ++ .unsubscribe subscription :: rest)).impl.isActive subscription = false ∧
      ¬Starts subscription (seen ++ .unsubscribe subscription :: rest) call

/-- A subscription that is removed has no callback left to invoke in a publish. -/
def UnsubscribesIdle (calls : List (Call C)) : Prop :=
  ∀ seen subscription rest, calls = seen ++ .unsubscribe subscription :: rest →
    Made subscription (record seen) →
    ∀ number, subscription ∉ (pending number (record seen)).map Prod.fst

theorem not_live_unsubscribe (seen : List (Call C)) (subscription : Subscription) (callback : C) :
    (subscription, callback) ∉ live (record (seen ++ [.unsubscribe subscription])) := by
  rw [record_concat, live_concat, observe.eq_def]
  exact fun hmem ↦ of_decide_eq_true (List.mem_filter.mp hmem).2 rfl

theorem pending_unsubscribe (number : ℕ) (seen : List (Call C)) (subscription : Subscription) :
    pending number (record (seen ++ [.unsubscribe subscription])) =
      pending number (record seen) := by
  rw [record_concat, pending_concat, observePending.eq_def]
  rfl

theorem gone_after {subscription : Subscription} {seen : List (Call C)}
    (h : Gone subscription (after seen) (record seen)) (rest : List (Call C)) :
    Gone subscription (after (seen ++ rest)) (record (seen ++ rest)) := by
  induction rest using List.reverseRecOn with
  | nil => rwa [List.append_nil]
  | append_singleton rest call ih =>
      rw [← List.append_assoc, after_concat, record_concat]
      exact gone_step ih (onFile_after _) call

theorem gone_unsubscribe {seen : List (Call C)} {subscription : Subscription}
    (hmade : Made subscription (record seen))
    (hidle : ∀ number, subscription ∉ (pending number (record seen)).map Prod.fst)
    (rest : List (Call C)) :
    Gone subscription (after (seen ++ .unsubscribe subscription :: rest))
      (record (seen ++ .unsubscribe subscription :: rest)) := by
  rw [← List.singleton_append, ← List.append_assoc]
  refine gone_after ⟨?_, not_live_unsubscribe seen subscription, ?_⟩ rest
  · rw [after_concat]
    exact id_lt_of_made hmade
  · intro number callback hmem
    rw [pending_unsubscribe] at hmem
    exact hidle number (List.mem_map_of_mem hmem)

theorem Gone.isActive_eq_false {subscription : Subscription} {calls : List (Call C)}
    (h : Gone subscription (after calls) (record calls)) :
    (after calls).impl.isActive subscription = false := by
  refine Bool.eq_false_iff.mpr fun hactive ↦ ?_
  obtain ⟨callback, hmem⟩ := ((onFile_after calls).isActive_iff subscription).mp hactive
  exact h.not_live callback hmem

theorem Gone.not_starts {subscription : Subscription} {calls : List (Call C)}
    (h : Gone subscription (after calls) (record calls)) (call : Call C) :
    ¬Starts subscription calls call := by
  rw [Starts, startedFor.eq_def]
  intro hstarts
  split at hstarts
  · next number _ _ _ =>
      cases hpending : pending number (record calls) with
      | nil =>
          rw [hpending] at hstarts
          cases hstarts
      | cons first others =>
          rw [hpending] at hstarts
          obtain rfl := Option.some.inj hstarts
          refine h.not_pending number first.2 ?_
          rw [hpending]
          exact List.mem_cons_self
  · cases hstarts

/-! ## Pending callbacks are started -/

/-- A publish that goes on starts the callback that it has pending first. -/
theorem step_proceed_of_pending {calls : List (Call C)} {number : ℕ}
    {first : Subscription × C} {others : List (Subscription × C)}
    (h : pending number (record calls) = first :: others) :
    ∃ message, (step (after calls) (.proceed number)).2 = .invoked number first.2 message := by
  have htracks := tracks_after calls number
  rw [h] at htracks
  cases hdelivery : (after calls).deliveries[number]? with
  | none =>
      rw [hdelivery] at htracks
      cases htracks
  | some delivery =>
      obtain ⟨message, callbacks⟩ := delivery
      rw [hdelivery] at htracks
      obtain rfl : first.2 :: others.map Prod.snd = callbacks := htracks
      exact ⟨message, by rw [step, hdelivery]⟩

theorem starts_of_pending {calls : List (Call C)} {number : ℕ}
    {first : Subscription × C} {others : List (Subscription × C)}
    (h : pending number (record calls) = first :: others) :
    Starts first.1 calls (.proceed number) ∧
      pending number (record (calls ++ [.proceed number])) = others := by
  obtain ⟨message, hinvoked⟩ := step_proceed_of_pending h
  rw [record_concat, pending_concat, Starts, hinvoked, startedFor, h]
  exact ⟨rfl, if_pos rfl⟩

theorem starts_eventually {subscription : Subscription} {number : ℕ} :
    ∀ {calls : List (Call C)} {left : List (Subscription × C)},
      pending number (record calls) = left → subscription ∈ left.map Prod.fst →
      ∃ numbers : List ℕ,
        Starts subscription (calls ++ numbers.map .proceed) (.proceed number) := by
  intro calls left
  induction left generalizing calls with
  | nil =>
      intro _ hmem
      cases hmem
  | cons first others ih =>
      intro hpending hmem
      obtain ⟨hstarts, hothers⟩ := starts_of_pending hpending
      rcases List.mem_cons.mp hmem with rfl | hmem
      · exact ⟨[], by rwa [List.map_nil, List.append_nil]⟩
      · obtain ⟨numbers, hlater⟩ := ih hothers hmem
        refine ⟨number :: numbers, ?_⟩
        rwa [List.append_assoc] at hlater

theorem lt_published_of_pending {calls : List (Call C)} {number : ℕ}
    (h : pending number (record calls) ≠ []) : number < (after calls).published := by
  cases hpending : pending number (record calls) with
  | nil => exact absurd hpending h
  | cons first others =>
      have htracks := tracks_after calls number
      rw [hpending] at htracks
      cases hdelivery : (after calls).deliveries[number]? with
      | none =>
          rw [hdelivery] at htracks
          cases htracks
      | some delivery => exact (numbered_after calls).lt_published hdelivery

/-- No call drops a pending callback: it is started or stays pending. -/
theorem starts_or_pending {calls : List (Call C)} {number : ℕ} {subscription : Subscription}
    (h : subscription ∈ (pending number (record calls)).map Prod.fst) (call : Call C) :
    Starts subscription calls call ∨
      subscription ∈ (pending number (record (calls ++ [call]))).map Prod.fst := by
  have hlt : number < (after calls).published :=
    lt_published_of_pending fun hnil ↦ by simp [hnil] at h
  rw [record_concat, pending_concat, observePending.eq_def]
  dsimp only
  split
  · next message m hanswer =>
      refine .inr ?_
      have hm : m = (after calls).published := by
        rw [step] at hanswer
        split at hanswer
        · cases hanswer
        · exact (Answer.started.inj hanswer).symm
      rwa [if_neg (by omega)]
  · next m callback message hanswer =>
      by_cases hm : m = number
      · subst hm
        rw [if_pos rfl]
        cases hpending : pending m (record calls) with
        | nil => simp [hpending] at h
        | cons first others =>
            rw [hpending] at h
            rcases List.mem_cons.mp h with heq | hmem
            · refine .inl ?_
              rw [Starts, hanswer, startedFor, hpending, heq]
              rfl
            · exact .inr hmem
      · rw [if_neg hm]
        exact .inr h
  · exact .inr h

theorem starts_or_pending_after {calls : List (Call C)} {number : ℕ} {subscription : Subscription}
    (h : subscription ∈ (pending number (record calls)).map Prod.fst) (rest : List (Call C)) :
    (∃ began call later, rest = began ++ call :: later ∧ Starts subscription (calls ++ began) call)
      ∨ subscription ∈ (pending number (record (calls ++ rest))).map Prod.fst := by
  induction rest using List.reverseRecOn with
  | nil => exact .inr (by rwa [List.append_nil])
  | append_singleton rest call ih =>
      rcases ih with ⟨began, earlier, later, rfl, hstarts⟩ | hpending
      · exact .inl ⟨began, earlier, later ++ [call], by simp, hstarts⟩
      · rw [← List.append_assoc]
        rcases starts_or_pending hpending call with hstarts | hstill
        · exact .inl ⟨rest, call, [], rfl, hstarts⟩
        · exact .inr hstill

theorem split_of_append {α : Type} {xs ys seen rest : List α} {x : α}
    (h : xs ++ ys = seen ++ x :: rest) (hx : x ∉ ys) : ∃ rest', xs = seen ++ x :: rest' := by
  rcases List.append_eq_append_iff.mp h with ⟨others, _, hys⟩ | ⟨others, hxs, hrest⟩
  · exact absurd (hys ▸ List.mem_append_right others List.mem_cons_self) hx
  · cases others with
    | nil =>
        rw [List.nil_append] at hrest
        exact absurd (hrest ▸ List.mem_cons_self) hx
    | cons y others =>
        obtain ⟨rfl, -⟩ := List.cons.inj hrest
        exact ⟨others, hxs⟩

/-- A callback is never started after its subscription is removed, however the
publishes go on, exactly if no publish had it left to invoke at that time. -/
theorem no_delivery_iff (calls : List (Call C)) :
    (∀ numbers : List ℕ, NoDeliveryAfterUnsubscribe (calls ++ numbers.map .proceed)) ↔
      UnsubscribesIdle calls := by
  constructor
  · rintro h seen subscription rest rfl hmade number hpending
    rw [← pending_unsubscribe number seen subscription] at hpending
    rcases starts_or_pending_after hpending rest with
      ⟨began, call, later, rfl, hstarts⟩ | hpending
    · rw [List.append_assoc] at hstarts
      exact (h [] seen subscription began call later (by simp) hmade).2 hstarts
    · obtain ⟨numbers, hstarts⟩ := starts_eventually rfl hpending
      rw [List.append_assoc, List.append_assoc] at hstarts
      refine (h (numbers ++ [number]) seen subscription (rest ++ numbers.map .proceed)
        (.proceed number) [] ?_ hmade).2 ?_
      · simp
      · exact hstarts
  · intro hidle numbers seen subscription rest call later hcalls hmade
    have hgone : Gone subscription (after (seen ++ .unsubscribe subscription :: rest))
        (record (seen ++ .unsubscribe subscription :: rest)) := by
      obtain ⟨rest', rfl⟩ := split_of_append hcalls fun hmem ↦ by simp at hmem
      exact gone_unsubscribe hmade (hidle seen subscription rest' rfl hmade) rest
    exact ⟨hgone.isActive_eq_false, hgone.not_starts call⟩

/-! A publish to two subscribers, the first of which removes the second. -/

def sharedKey : Str := text "swarm_sync/v1/session/s/task/t/channel/c/schema/d"

def removalInDelivery : List (Call ℕ) :=
  [.subscribe sharedKey (some 0), .subscribe sharedKey (some 1), .publish { key := sharedKey },
    .proceed 0]

theorem delivery_after_unsubscribe :
    ¬∀ calls : List (Call ℕ), NoDeliveryAfterUnsubscribe calls := by
  intro h
  have hcall := h (removalInDelivery ++ [.unsubscribe ⟨sharedKey, 2⟩, .proceed 0])
    removalInDelivery ⟨sharedKey, 2⟩ [] (.proceed 0) [] rfl
  have hmade : Made ⟨sharedKey, 2⟩ (record removalInDelivery) := by
    refine ⟨_, Machine.mem_trace_of_split step {} [.subscribe sharedKey (some 0)]
      (.subscribe sharedKey (some 1)) [.publish { key := sharedKey }, .proceed 0], ?_⟩
    have hvalid : TransportKeys.validateTaskSampleKey sharedKey = .ok () := by decide +kernel
    rw [step, subscribe_of_valid hvalid]
    rfl
  refine (hcall hmade).2 ?_
  rw [Starts]
  decide +kernel

end RuntimeSync.InMemoryTransport
