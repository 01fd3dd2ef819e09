import RuntimeSync.Core.Transport

/-!
# Exact delivery

Which subscriptions are live is a matter of the calls and their answers alone,
and a publish invokes the callbacks of those that are live when it starts.
-/

namespace RuntimeSync.InMemoryTransport

variable {C : Type}

/-! ## Live subscriptions -/

/-- What one call makes of the live subscriptions, in the order of subscribing. -/
def observe (live : List (Subscription × C)) : Call C → Answer C → List (Subscription × C)
  | .subscribe _ (some callback), .subscribed subscription => live ++ [(subscription, callback)]
  | .unsubscribe subscription, _ => live.filter fun s ↦ s.1 ≠ subscription
  | _, _ => live

/-- The subscriptions made in a record and not removed in it. -/
def live (rec : Record C) : List (Subscription × C) :=
  rec.foldl (fun live e ↦ observe live e.input e.output) []

/-- The callbacks of the subscriptions with exactly this key. -/
def callbacksOf (key : Str) (live : List (Subscription × C)) : List C :=
  (live.filter fun s ↦ s.1.key = key).map Prod.snd

theorem live_concat (rec : Record C) (e : Machine.Entry (Run C) (Call C) (Answer C)) :
    live (rec ++ [e]) = observe (live rec) e.input e.output := by
  rw [live, List.foldl_concat, live]

/-- The transport has the live subscriptions on file, under distinct ids. -/
structure OnFile (t : Impl C) (subs : List (Subscription × C)) : Prop where
  files : Buckets.Files t.subscribers
    (subs.map fun s ↦ (s.1.key, (⟨s.1.id, s.2⟩ : Subscriber C)))
  fresh : ∀ s ∈ subs, s.1.id < t.nextId
  distinct : (subs.map fun s ↦ s.1.id).Nodup

theorem onFile_empty : OnFile ({} : Impl C) [] :=
  ⟨Buckets.files_empty, by simp, List.nodup_nil⟩

theorem OnFile.subscribe {t : Impl C} {subs : List (Subscription × C)} (h : OnFile t subs)
    (key : Str) (callback : C) :
    OnFile
      { subscribers := Buckets.push t.subscribers key ⟨t.nextId, callback⟩
        nextId := t.nextId + 1 }
      (subs ++ [(⟨key, t.nextId⟩, callback)]) := by
  constructor
  · rw [List.map_append]
    exact h.files.push key ⟨t.nextId, callback⟩
  · intro s hs
    rcases List.mem_append.mp hs with hs | hs
    · exact Nat.lt_succ_of_lt (h.fresh s hs)
    · rw [List.mem_singleton.mp hs]
      exact Nat.lt_succ_self _
  · rw [List.map_append, List.nodup_append]
    refine ⟨h.distinct, List.nodup_singleton _, ?_⟩
    intro id hid id' hid'
    obtain ⟨s, hs, rfl⟩ := List.mem_map.mp hid
    rw [List.mem_singleton.mp hid']
    exact Nat.ne_of_lt (h.fresh s hs)

theorem OnFile.remove {t : Impl C} {subs : List (Subscription × C)} (h : OnFile t subs)
    (subscription : Subscription) :
    OnFile (t.remove subscription) (subs.filter fun s ↦ s.1 ≠ subscription) := by
  constructor
  · have hfiles := h.files.removeIf subscription.key fun subscriber ↦
      subscriber.id == subscription.id
    rw [List.filter_map] at hfiles
    have hsame : subs.filter ((fun e : Str × Subscriber C ↦
        !(decide (e.1 = subscription.key) && (e.2.id == subscription.id))) ∘
          fun s ↦ (s.1.key, ⟨s.1.id, s.2⟩)) = subs.filter fun s ↦ s.1 ≠ subscription := by
      apply List.filter_congr
      intro s _
      simp only [Function.comp, ne_eq, Subscription.ext_iff, decide_not, Bool.decide_and]
      rfl
    rw [hsame] at hfiles
    exact hfiles
  · intro s hs
    exact h.fresh s (List.mem_filter.mp hs).1
  · exact h.distinct.sublist (List.filter_sublist.map _)

theorem OnFile.publish {t : Impl C} {subs : List (Subscription × C)} (h : OnFile t subs)
    (key : Str) :
    (Buckets.bucket t.subscribers key).map Subscriber.callback = callbacksOf key subs := by
  rw [h.files key, List.filter_map, List.map_map, List.map_map]
  rfl

theorem OnFile.isActive_iff {t : Impl C} {subs : List (Subscription × C)} (h : OnFile t subs)
    (subscription : Subscription) :
    t.isActive subscription = true ↔ ∃ callback, (subscription, callback) ∈ subs := by
  have hany : t.isActive subscription =
      (Buckets.bucket t.subscribers subscription.key).any fun subscriber ↦
        subscriber.id == subscription.id := by
    rw [Impl.isActive, Buckets.bucket]
    cases t.subscribers[subscription.key]? with
    | none => rfl
    | some subscribers => rfl
  rw [hany, h.files subscription.key, List.any_map, List.any_eq_true]
  constructor
  · rintro ⟨e, he, hid⟩
    obtain ⟨hmem, hkey⟩ := List.mem_filter.mp he
    obtain ⟨s, hs, rfl⟩ := List.mem_map.mp hmem
    have heq : s.1 = subscription := Subscription.ext (of_decide_eq_true hkey) (beq_iff_eq.mp hid)
    exact ⟨s.2, heq ▸ hs⟩
  · rintro ⟨callback, hs⟩
    refine ⟨_, List.mem_filter.mpr ⟨List.mem_map_of_mem hs, decide_eq_true rfl⟩, ?_⟩
    exact beq_self_eq_true _

/-! ## Steps -/

theorem subscribe_of_invalid {t : Impl C} {key : Str} {callback : Option C}
    (h : TransportKeys.validateTaskSampleKey key ≠ .ok () ∨ callback = none) :
    ∃ reason, t.subscribe key callback = (t, .error reason) := by
  rw [Impl.subscribe.eq_def]
  cases hvalid : TransportKeys.validateTaskSampleKey key with
  | error reason => exact ⟨reason, rfl⟩
  | ok _ =>
      rcases h with h | rfl
      · exact absurd hvalid h
      · exact ⟨_, rfl⟩

theorem subscribe_of_valid {t : Impl C} {key : Str}
    (h : TransportKeys.validateTaskSampleKey key = .ok ()) (callback : C) :
    t.subscribe key (some callback) =
      ({ subscribers := Buckets.push t.subscribers key ⟨t.nextId, callback⟩
         nextId := t.nextId + 1 }, .ok ⟨key, t.nextId⟩) := by
  simp only [Impl.subscribe, h]

theorem publish_of_valid {t : Impl C} {message : TransportMessage}
    (h : TransportKeys.validateTaskSampleKey message.key = .ok ()) :
    t.publish message =
      .ok ((Buckets.bucket t.subscribers message.key).map Subscriber.callback) := by
  rw [Impl.publish, h]

theorem publish_of_invalid {t : Impl C} {message : TransportMessage} {reason : Str}
    (h : TransportKeys.validateTaskSampleKey message.key = .error reason) :
    t.publish message = .error reason := by
  rw [Impl.publish, h]

/-- A subscribe that fails leaves everything as it was. -/
theorem step_subscribe_of_invalid {r : Run C} {key : Str} {callback : Option C}
    (h : TransportKeys.validateTaskSampleKey key ≠ .ok () ∨ callback = none) :
    ∃ reason, step r (.subscribe key callback) = (r, .refused reason) := by
  obtain ⟨reason, hsubscribe⟩ := subscribe_of_invalid h
  exact ⟨reason, by rw [step, hsubscribe]⟩

theorem step_subscribe_of_valid {r : Run C} {key : Str}
    (h : TransportKeys.validateTaskSampleKey key = .ok ()) (callback : C) :
    (step r (.subscribe key (some callback))).2 = .subscribed ⟨key, r.impl.nextId⟩ := by
  rw [step, subscribe_of_valid h]

theorem step_publish_of_valid {r : Run C} {message : TransportMessage}
    (h : TransportKeys.validateTaskSampleKey message.key = .ok ()) :
    step r (.publish message) =
      ({ r with
          deliveries := r.deliveries.insert r.published
            ⟨message, (Buckets.bucket r.impl.subscribers message.key).map Subscriber.callback⟩
          published := r.published + 1 }, .started r.published) := by
  rw [step, publish_of_valid h]

theorem step_publish_of_invalid {r : Run C} {message : TransportMessage} {reason : Str}
    (h : TransportKeys.validateTaskSampleKey message.key = .error reason) :
    step r (.publish message) = (r, .refused reason) := by
  rw [step, publish_of_invalid h]

theorem onFile_step {r : Run C} {subs : List (Subscription × C)} (h : OnFile r.impl subs)
    (call : Call C) : OnFile (step r call).1.impl (observe subs call (step r call).2) := by
  cases call with
  | subscribe key callback =>
      by_cases hvalid : TransportKeys.validateTaskSampleKey key = .ok ()
      · cases callback with
        | none =>
            obtain ⟨reason, hstep⟩ := step_subscribe_of_invalid (.inr rfl)
            rw [hstep]
            exact h
        | some callback =>
            rw [step, subscribe_of_valid hvalid]
            exact h.subscribe key callback
      · obtain ⟨reason, hstep⟩ : ∃ reason, step r (.subscribe key callback) =
            (r, .refused reason) := step_subscribe_of_invalid (.inl hvalid)
        rw [hstep]
        cases callback with
        | none => exact h
        | some callback => exact h
  | unsubscribe subscription => exact h.remove subscription
  | publish message =>
      cases hvalid : TransportKeys.validateTaskSampleKey message.key with
      | error reason =>
          rw [step_publish_of_invalid hvalid]
          exact h
      | ok _ =>
          rw [step_publish_of_valid hvalid]
          exact h
  | proceed number =>
      rw [step]
      split
      · exact h
      · exact h
      · exact h

theorem onFile_after (calls : List (Call C)) : OnFile (after calls).impl (live (record calls)) := by
  have hstep : ∀ (r : Run C) (rec : Record C) (call : Call C), OnFile r.impl (live rec) →
      OnFile (step r call).1.impl (live (rec ++ [⟨r, call, (step r call).2⟩])) := by
    intro r rec call h
    rw [live_concat]
    exact onFile_step h call
  exact Machine.trace_run (R := fun r rec ↦ OnFile r.impl (live rec)) (s := {}) hstep
    onFile_empty calls

/-! ## One publish -/

def invocationOf (number : ℕ) : Answer C → Option (C × TransportMessage)
  | .invoked m callback message => if m = number then some (callback, message) else none
  | _ => none

/-- The invocations by the publish with the number, in order. -/
def invocations (number : ℕ) (rec : Record C) : List (C × TransportMessage) :=
  rec.filterMap fun e ↦ invocationOf number e.output

def Returned (number : ℕ) (rec : Record C) : Prop := ∃ e ∈ rec, e.output = .returned number

def proceeds (number : ℕ) : Call C → Bool
  | .proceed m => m == number
  | _ => false

theorem invocations_append (number : ℕ) (rec rec' : Record C) :
    invocations number (rec ++ rec') = invocations number rec ++ invocations number rec' :=
  List.filterMap_append

theorem returned_append {number : ℕ} {rec rec' : Record C} :
    Returned number (rec ++ rec') ↔ Returned number rec ∨ Returned number rec' := by
  simp only [Returned, List.mem_append, or_and_right, exists_or]

theorem invocations_singleton (number : ℕ) (e : Machine.Entry (Run C) (Call C) (Answer C)) :
    invocations number [e] = (invocationOf number e.output).toList := by
  rw [invocations]
  cases h : invocationOf number e.output with
  | none => exact List.filterMap_cons_none h
  | some invocation => exact List.filterMap_cons_some h

theorem returned_singleton {number : ℕ} {e : Machine.Entry (Run C) (Call C) (Answer C)} :
    Returned number [e] ↔ e.output = .returned number := by
  simp [Returned]

/-- What a call does to the publishes in progress. -/
inductive Effect (r : Run C) : Call C → Run C × Answer C → Prop where
  | quiet {call : Call C} {r' : Run C} {answer : Answer C} :
      r'.deliveries = r.deliveries → r'.published = r.published →
      (∀ number, invocationOf number answer = none) → (∀ number, answer ≠ .returned number) →
      (∀ number, proceeds number call = true → r.deliveries[number]? = none) →
      Effect r call (r', answer)
  | started (message : TransportMessage) (callbacks : List C) :
      Effect r (.publish message)
        ({ r with
            deliveries := r.deliveries.insert r.published ⟨message, callbacks⟩
            published := r.published + 1 }, .started r.published)
  | invoked {number : ℕ} {message : TransportMessage} {callback : C} {callbacks : List C} :
      r.deliveries[number]? = some ⟨message, callback :: callbacks⟩ →
      Effect r (.proceed number)
        ({ r with deliveries := r.deliveries.insert number ⟨message, callbacks⟩ },
          .invoked number callback message)
  | returned {number : ℕ} {message : TransportMessage} :
      r.deliveries[number]? = some ⟨message, []⟩ →
      Effect r (.proceed number)
        ({ r with deliveries := r.deliveries.erase number }, .returned number)

theorem effect_step (r : Run C) (call : Call C) : Effect r call (step r call) := by
  cases call with
  | subscribe key callback =>
      rw [step]
      split
      · exact .quiet rfl rfl (fun _ ↦ rfl) nofun nofun
      · exact .quiet rfl rfl (fun _ ↦ rfl) nofun nofun
  | unsubscribe subscription => exact .quiet rfl rfl (fun _ ↦ rfl) nofun nofun
  | publish message =>
      rw [step]
      split
      · exact .quiet rfl rfl (fun _ ↦ rfl) nofun nofun
      · exact .started message _
  | proceed number =>
      rw [step]
      split
      · next hnone =>
          refine .quiet rfl rfl (fun _ ↦ rfl) nofun fun m hm ↦ ?_
          rw [← beq_iff_eq.mp hm]
          exact hnone
      · next hsome => exact .returned hsome
      · next hsome => exact .invoked hsome

/-- Numbers are given out in order, so none is used before it is given out. -/
structure Numbered (r : Run C) (rec : Record C) : Prop where
  deliveries : ∀ number : ℕ, r.published ≤ number → r.deliveries[number]? = none
  invocations : ∀ number, r.published ≤ number → invocations number rec = []
  returned : ∀ number, r.published ≤ number → ¬Returned number rec

theorem invocationOf_invoked {number m : ℕ} (callback : C) (message : TransportMessage) :
    invocationOf number (.invoked m callback message) =
      if m = number then some (callback, message) else none := rfl

/-- A line that says nothing about the numbers still to be given out. -/
theorem Numbered.concat {r r' : Run C} {rec : Record C} (h : Numbered r rec)
    (hpublished : r.published ≤ r'.published) {e : Machine.Entry (Run C) (Call C) (Answer C)}
    (hentry : ∀ number : ℕ, r'.published ≤ number →
      r'.deliveries[number]? = r.deliveries[number]? ∧ invocationOf number e.output = none ∧
        e.output ≠ .returned number) :
    Numbered r' (rec ++ [e]) := by
  constructor
  all_goals
    intro number hnumber
    obtain ⟨hdeliveries, hinvocation, hreturned⟩ := hentry number hnumber
    have hbefore := hpublished.trans hnumber
  · exact hdeliveries.trans (h.deliveries number hbefore)
  · rw [invocations_append, h.invocations number hbefore, invocations_singleton, hinvocation]
    rfl
  · rw [returned_append, returned_singleton]
    exact fun hor ↦ hor.elim (h.returned number hbefore) hreturned

theorem Numbered.lt_published {r : Run C} {rec : Record C} (h : Numbered r rec) {number : ℕ}
    {delivery : Delivery C} (hsome : r.deliveries[number]? = some delivery) :
    number < r.published := by
  by_contra hge
  rw [h.deliveries number (Nat.le_of_not_lt hge)] at hsome
  cases hsome

theorem numbered_step {r : Run C} {rec : Record C} (h : Numbered r rec) (call : Call C) :
    Numbered (step r call).1 (rec ++ [⟨r, call, (step r call).2⟩]) := by
  have heffect := effect_step r call
  generalize step r call = result at heffect ⊢
  cases heffect with
  | quiet hdeliveries hpublished hinvocation hreturned _ =>
      refine h.concat (Nat.le_of_eq hpublished.symm) fun number _ ↦ ?_
      exact ⟨by rw [hdeliveries], hinvocation number, hreturned number⟩
  | started message callbacks =>
      refine h.concat (Nat.le_succ _) fun number hnumber ↦ ⟨?_, rfl, nofun⟩
      have hne : r.published ≠ number := Nat.ne_of_lt hnumber
      rw [Std.ExtTreeMap.getElem?_insert]
      simp [hne]
  | invoked hsome =>
      apply h.concat
      · exact Nat.le_refl _
      · intro number hnumber
        have hne := Nat.ne_of_lt (Nat.lt_of_lt_of_le (h.lt_published hsome) hnumber)
        refine ⟨?_, if_neg hne, nofun⟩
        rw [Std.ExtTreeMap.getElem?_insert]
        simp [hne]
  | returned hsome =>
      apply h.concat
      · exact Nat.le_refl _
      · intro number hnumber
        have hne := Nat.ne_of_lt (Nat.lt_of_lt_of_le (h.lt_published hsome) hnumber)
        refine ⟨?_, rfl, fun heq ↦ hne (Answer.returned.inj heq)⟩
        rw [Std.ExtTreeMap.getElem?_erase]
        simp [hne]

theorem numbered_after (calls : List (Call C)) : Numbered (after calls) (record calls) :=
  Machine.trace_run (R := Numbered) (s := {}) (fun _ _ call h ↦ numbered_step h call)
    ⟨fun _ _ ↦ by simp, fun _ _ ↦ rfl, fun _ _ ↦ by simp [Returned]⟩ calls

/-- How far the publish has come since it copied its callbacks: it has invoked
the first of them, once for each time it went on, or it has invoked them all
and returned. -/
def Progress (number : ℕ) (message : TransportMessage) (copied : List C) (r : Run C)
    (rec : Record C) : Prop :=
  number < r.published ∧ ∃ remaining : List C,
    copied.map (fun callback ↦ (callback, message)) =
      invocations number rec ++ remaining.map (fun callback ↦ (callback, message)) ∧
    (r.deliveries[number]? = none ∧ Returned number rec ∧ remaining = [] ∨
      r.deliveries[number]? = some ⟨message, remaining⟩ ∧ ¬Returned number rec ∧
        (invocations number rec).length = rec.countP fun e ↦ proceeds number e.input)

/-- A call that has to do with other publishes only. -/
theorem progress_of_other {number : ℕ} {message : TransportMessage} {copied : List C} {r : Run C}
    {rec : Record C} (h : Progress number message copied r rec) {call : Call C} {r' : Run C}
    {answer : Answer C} (hpublished : r.published ≤ r'.published)
    (hdeliveries : r'.deliveries[number]? = r.deliveries[number]?)
    (hinvocation : invocationOf number answer = none) (hreturned : answer ≠ .returned number)
    (hproceeds : proceeds number call = true → r.deliveries[number]? = none) :
    Progress number message copied r' (rec ++ [⟨r, call, answer⟩]) := by
  obtain ⟨hnumber, remaining, hcopied, hstate⟩ := h
  have hsame : invocations number (rec ++ [⟨r, call, answer⟩]) = invocations number rec := by
    rw [invocations_append, invocations_singleton, hinvocation, Option.toList_none,
      List.append_nil]
  refine ⟨Nat.lt_of_lt_of_le hnumber hpublished, remaining, hsame ▸ hcopied, ?_⟩
  rw [hsame, hdeliveries, returned_append, returned_singleton]
  rcases hstate with ⟨hnone, hreturn, hremaining⟩ | ⟨hsome, hopen, hcount⟩
  · exact .inl ⟨hnone, .inl hreturn, hremaining⟩
  · refine .inr ⟨hsome, fun hor ↦ hor.elim hopen hreturned, ?_⟩
    have hother : proceeds number call = false := by
      apply Bool.eq_false_iff.mpr
      intro hproceed
      rw [hproceeds hproceed] at hsome
      cases hsome
    rw [hcount, List.countP_append, List.countP_singleton, hother]
    rfl

/-- A publish that goes on invokes the first of the callbacks that remain. -/
theorem progress_invoked {number : ℕ} {message message' : TransportMessage} {copied : List C}
    {r : Run C} {rec : Record C} (h : Progress number message copied r rec) {callback : C}
    {callbacks : List C}
    (hinvoked : r.deliveries[number]? = some ⟨message', callback :: callbacks⟩) :
    Progress number message copied
      { r with deliveries := r.deliveries.insert number ⟨message', callbacks⟩ }
      (rec ++ [⟨r, .proceed number, .invoked number callback message'⟩]) := by
  obtain ⟨hnumber, remaining, hcopied, hstate⟩ := h
  rcases hstate with ⟨hnone, -, -⟩ | ⟨hsome, hopen, hcount⟩
  · rw [hnone] at hinvoked
    cases hinvoked
  · obtain ⟨rfl, rfl⟩ := Delivery.mk.inj (Option.some.inj (hsome.symm.trans hinvoked))
    have hnext (e : Machine.Entry (Run C) (Call C) (Answer C))
        (he : e.output = .invoked number callback message) :
        invocations number (rec ++ [e]) = invocations number rec ++ [(callback, message)] := by
      rw [invocations_append, invocations_singleton, he, invocationOf_invoked, if_pos rfl]
      rfl
    refine ⟨hnumber, callbacks, ?_, .inr ⟨?_, ?_, ?_⟩⟩
    · rw [hnext _ rfl, hcopied, List.append_assoc]
      rfl
    · rw [Std.ExtTreeMap.getElem?_insert_self]
    · rw [returned_append, returned_singleton]
      exact fun hor ↦ hor.elim hopen nofun
    · rw [hnext _ rfl, List.length_append, hcount, List.countP_append, List.countP_singleton]
      simp [proceeds]

/-- It returns when none remains. -/
theorem progress_returned {number : ℕ} {message message' : TransportMessage} {copied : List C}
    {r : Run C} {rec : Record C} (h : Progress number message copied r rec)
    (hreturned : r.deliveries[number]? = some ⟨message', []⟩) :
    Progress number message copied { r with deliveries := r.deliveries.erase number }
      (rec ++ [⟨r, .proceed number, .returned number⟩]) := by
  obtain ⟨hnumber, remaining, hcopied, hstate⟩ := h
  rcases hstate with ⟨hnone, -, -⟩ | ⟨hsome, -, -⟩
  · rw [hnone] at hreturned
    cases hreturned
  · obtain ⟨rfl, rfl⟩ := Delivery.mk.inj (Option.some.inj (hsome.symm.trans hreturned))
    refine ⟨hnumber, [], ?_, .inl ⟨?_, ?_, rfl⟩⟩
    · rw [hcopied, invocations_append, invocations_singleton]
      simp [invocationOf]
    · rw [Std.ExtTreeMap.getElem?_erase_self]
    · exact returned_append.mpr (.inr (returned_singleton.mpr rfl))

theorem progress_step {number : ℕ} {message : TransportMessage} {copied : List C} {r : Run C}
    {rec : Record C} (h : Progress number message copied r rec) (call : Call C) :
    Progress number message copied (step r call).1 (rec ++ [⟨r, call, (step r call).2⟩]) := by
  have heffect := effect_step r call
  generalize step r call = result at heffect ⊢
  cases heffect with
  | quiet hdeliveries hpublished hinvocation hreturned hproceeds =>
      exact progress_of_other h (Nat.le_of_eq hpublished.symm) (by rw [hdeliveries])
        (hinvocation number) (hreturned number) (hproceeds number)
  | started message' callbacks =>
      refine progress_of_other h (Nat.le_succ _) ?_ rfl nofun nofun
      have hne : r.published ≠ number := Nat.ne_of_gt h.1
      rw [Std.ExtTreeMap.getElem?_insert]
      simp [hne]
  | @invoked m message' callback callbacks hinvoked =>
      by_cases heq : m = number
      · subst heq
        exact progress_invoked h hinvoked
      · refine progress_of_other h (Nat.le_refl _) ?_ (if_neg heq) nofun ?_
        · rw [Std.ExtTreeMap.getElem?_insert]
          simp [heq]
        · exact fun hproceed ↦ absurd (beq_iff_eq.mp hproceed) heq
  | @returned m message' hreturned =>
      by_cases heq : m = number
      · subst heq
        exact progress_returned h hreturned
      · refine progress_of_other h (Nat.le_refl _) ?_ rfl ?_ ?_
        · rw [Std.ExtTreeMap.getElem?_erase]
          simp [heq]
        · exact fun hanswer ↦ heq (Answer.returned.inj hanswer)
        · exact fun hproceed ↦ absurd (beq_iff_eq.mp hproceed) heq

theorem record_split (seen : List (Call C)) (call : Call C) (rest : List (Call C)) :
    record (seen ++ call :: rest) =
      record (seen ++ [call]) ++ Machine.trace step (after (seen ++ [call])) rest := by
  rw [← List.singleton_append, ← List.append_assoc, record, Machine.trace_append]
  rfl

/-- A publish gets a number that no call before it has, and copies the
callbacks of the subscriptions that are live. -/
theorem progress_publish (seen : List (Call C)) {message : TransportMessage}
    (hvalid : TransportKeys.validateTaskSampleKey message.key = .ok ()) :
    ∃ number,
      (step (after seen) (.publish message)).2 = .started number ∧
      invocations number (record (seen ++ [.publish message])) = [] ∧
      ¬Returned number (record (seen ++ [.publish message])) ∧
      Progress number message (callbacksOf message.key (live (record seen)))
        (after (seen ++ [.publish message])) [] := by
  have hnumbered := numbered_after seen
  have hstep := step_publish_of_valid (r := after seen) hvalid
  rw [(onFile_after seen).publish] at hstep
  have hanswer : (step (after seen) (.publish message)).2 = .started (after seen).published :=
    congrArg Prod.snd hstep
  have hrecord : record (seen ++ [.publish message]) =
      record seen ++ [⟨after seen, .publish message, .started (after seen).published⟩] := by
    rw [← hanswer]
    exact Machine.trace_concat step {} seen _
  refine ⟨(after seen).published, hanswer, ?_, ?_, ?_⟩
  · rw [hrecord, invocations_append, hnumbered.invocations _ (Nat.le_refl _),
      invocations_singleton]
    rfl
  · rw [hrecord, returned_append, returned_singleton]
    exact fun hor ↦ hor.elim (hnumbered.returned _ (Nat.le_refl _)) nofun
  · have hafter : after (seen ++ [.publish message]) = (step (after seen) (.publish message)).1 :=
      Machine.run_concat step {} seen _
    rw [hafter, hstep]
    refine ⟨Nat.lt_succ_self _, callbacksOf message.key (live (record seen)), rfl, .inr ⟨?_, ?_,
      rfl⟩⟩
    · exact Std.ExtTreeMap.getElem?_insert_self
    · simp [Returned]

/-- What becomes of a publish that does not fail. -/
theorem publish_progress (seen rest : List (Call C)) {message : TransportMessage}
    (hvalid : TransportKeys.validateTaskSampleKey message.key = .ok ()) :
    ∃ number,
      (step (after seen) (.publish message)).2 = .started number ∧
      ∃ remaining : List C,
        (callbacksOf message.key (live (record seen))).map (fun callback ↦ (callback, message)) =
          invocations number (record (seen ++ .publish message :: rest)) ++
            remaining.map (fun callback ↦ (callback, message)) ∧
        (Returned number (record (seen ++ .publish message :: rest)) ∧ remaining = [] ∨
          ¬Returned number (record (seen ++ .publish message :: rest)) ∧
            (invocations number (record (seen ++ .publish message :: rest))).length =
              rest.countP (proceeds number)) := by
  obtain ⟨number, hanswer, hinvocations, hreturned, hstart⟩ := progress_publish seen hvalid
  refine ⟨number, hanswer, ?_⟩
  obtain ⟨-, remaining, hcopied, hstate⟩ := Machine.trace_run
    (R := Progress number message (callbacksOf message.key (live (record seen))))
    (fun _ _ call h ↦ progress_step h call) hstart rest
  have hcount := Machine.countP_input_trace step (proceeds number)
    (after (seen ++ [.publish message])) rest
  rw [record_split, invocations_append, hinvocations, List.nil_append, returned_append]
  refine ⟨remaining, hcopied, ?_⟩
  rcases hstate with ⟨-, hreturn, hremaining⟩ | ⟨-, hopen, hlength⟩
  · exact .inl ⟨.inr hreturn, hremaining⟩
  · exact .inr ⟨fun hor ↦ hor.elim hreturned hopen, hlength.trans hcount⟩

/-- Every publish with a valid key invokes the callbacks of the subscriptions
that are live under its key when it starts, each once and in their order, with
its message; calls that fail change nothing; a subscription is made under the
key that was asked for; and it is removed without an effect on another. -/
theorem exact_delivery (calls : List (Call C)) :
    (∀ seen message rest, calls = seen ++ .publish message :: rest →
      TransportKeys.validateTaskSampleKey message.key = .ok () →
      ∃ number,
        (step (after seen) (.publish message)).2 = .started number ∧
        ∃ remaining : List C,
          (callbacksOf message.key (live (record seen))).map
              (fun callback ↦ (callback, message)) =
            invocations number (record calls) ++
              remaining.map (fun callback ↦ (callback, message)) ∧
          (Returned number (record calls) ∧ remaining = [] ∨
            ¬Returned number (record calls) ∧
              (invocations number (record calls)).length = rest.countP (proceeds number))) ∧
    (∀ seen message rest reason, calls = seen ++ .publish message :: rest →
      TransportKeys.validateTaskSampleKey message.key = .error reason →
      step (after seen) (.publish message) = (after seen, .refused reason)) ∧
    (∀ seen key callback rest, calls = seen ++ .subscribe key callback :: rest →
      TransportKeys.validateTaskSampleKey key ≠ .ok () ∨ callback = none →
      ∃ reason, step (after seen) (.subscribe key callback) = (after seen, .refused reason)) ∧
    (∀ seen key callback rest, calls = seen ++ .subscribe key (some callback) :: rest →
      TransportKeys.validateTaskSampleKey key = .ok () →
      ∃ id, (step (after seen) (.subscribe key (some callback))).2 = .subscribed ⟨key, id⟩ ∧
        live (record (seen ++ [.subscribe key (some callback)])) =
          live (record seen) ++ [(⟨key, id⟩, callback)]) ∧
    (∀ seen subscription rest, calls = seen ++ .unsubscribe subscription :: rest →
      ∀ other, other ≠ subscription →
        (after (seen ++ [.unsubscribe subscription])).impl.isActive other =
          (after seen).impl.isActive other) ∧
    ((live (record calls)).map Prod.fst).Nodup ∧
    ∀ subscription, (after calls).impl.isActive subscription = true ↔
      ∃ callback, (subscription, callback) ∈ live (record calls) := by
  refine ⟨?_, ?_, ?_, ?_, ?_, ?_, (onFile_after calls).isActive_iff⟩
  · rintro seen message rest rfl hvalid
    exact publish_progress seen rest hvalid
  · intro seen message rest reason _ hinvalid
    exact step_publish_of_invalid hinvalid
  · intro seen key callback rest _ hinvalid
    exact step_subscribe_of_invalid hinvalid
  · intro seen key callback rest _ hvalid
    have hanswer := step_subscribe_of_valid (r := after seen) hvalid callback
    refine ⟨_, hanswer, ?_⟩
    rw [record, Machine.trace_concat, live_concat]
    exact congrArg (observe (live (record seen)) (.subscribe key (some callback))) hanswer
  · intro seen subscription rest _ other hother
    have hbefore := onFile_after seen
    have hremoved := hbefore.remove subscription
    have hafter : (after (seen ++ [.unsubscribe subscription])).impl =
        (after seen).impl.remove subscription :=
      congrArg Run.impl (Machine.run_concat step {} seen (.unsubscribe subscription))
    rw [hafter, Bool.eq_iff_iff, hremoved.isActive_iff, hbefore.isActive_iff]
    simp [hother]
  · apply List.Nodup.of_map Subscription.id
    rw [List.map_map]
    exact (onFile_after calls).distinct

end RuntimeSync.InMemoryTransport
