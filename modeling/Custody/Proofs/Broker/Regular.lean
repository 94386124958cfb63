import Custody.Proofs.Broker.Entries

/-!
# Regular brokers

A broker that is valid, keeps to its settings, and has its ranking sorted. Every operation
keeps it so.

* `Broker.Regular`: the invariant;
* `Broker.Edit.regular`: an edit keeps it by which entries leave the ranking, or one comes to
  its rank.
-/

namespace Custody

namespace Broker

variable {ι ρ : Type} [DecidableEq ι]

/-- A valid broker of the settings whose ranking is sorted in their order. -/
structure Regular (settings : Settings) (b : Broker ι ρ) : Prop where
  valid : b.Valid
  kept : b.settings = settings
  order : b.idle.order = settings.order
  sorted : RankedQueue.Sorted settings.order b.ranking

theorem regular_empty (settings : Settings) : (empty settings : Broker ι ρ).Regular settings :=
  ⟨valid_empty settings, rfl, rfl, List.Pairwise.nil⟩

variable {settings : Settings} {b b' : Broker ι ρ} {id : ι}

theorem Edit.regular {after? : Option (Entry ρ)} {ranking : List (Priority × ι)}
    {retired : List ι} {ticket : UInt64} (edit : Edit b b' id after? ranking retired ticket)
    (regular : b.Regular settings) (valid : b'.Valid)
    (ranked : ranking.Sublist b.ranking ∨
      ∃ priority k, ranking = b.rankingWith priority k) : b'.Regular settings where
  valid := valid
  kept := edit.settings.trans regular.kept
  order := edit.order.trans regular.order
  sorted := by
    rw [edit.ranking]
    rcases ranked with shorter | ⟨priority, k, rfl⟩
    · exact regular.sorted.sublist shorter
    · rw [rankingWith, regular.order]
      exact RankedQueue.sorted_ranked regular.sorted _

namespace Regular

theorem rankingWithout_sublist (b : Broker ι ρ) (id : ι) :
    (b.rankingWithout id).Sublist b.ranking := List.eraseP_sublist ..

theorem register (regular : b.Regular settings) {resource : ρ} {priority : Priority}
    (hok : b.register id resource priority = .ok b') : b'.Regular settings := by
  have valid := (register_change regular.valid hok).2.2.2.valid
  exact (register_edit regular.valid hok).regular regular valid (.inr ⟨priority, id, rfl⟩)

theorem unregister (regular : b.Regular settings) (id : ι) :
    (b.unregister id).2.Regular settings := by
  cases known : b.onRecord? id with
  | none =>
    rw [unregister_of_unknown regular.valid known]
    exact regular
  | some entry =>
    obtain ⟨_, _, _, _, change⟩ := unregister_known regular.valid (isBusy?_of_onRecord? known)
    obtain ⟨_, _, _, edit⟩ := unregister_edit regular.valid known
    exact edit.regular regular change.valid (.inl (rankingWithout_sublist b id))

theorem withdraw (regular : b.Regular settings) (id : ι) :
    (b.withdraw id).2.Regular settings :=
  (withdraw_edit regular.valid id).2.regular regular (regular.valid.unrank id)
    (.inl (rankingWithout_sublist b id))

theorem request (regular : b.Regular settings) (id : ι) (caller : RequestId)
    (cancelled : Bool) : (b.request id caller cancelled).2.Regular settings := by
  have valid := regular.valid
  cases known : b.onRecord? id with
  | none =>
    rw [request_unknown (by simp [isBusy?_eq, known])]
    exact regular
  | some entry =>
    have hbusy := isBusy?_of_onRecord? known
    cases busy : entry.busy with
    | false =>
      rw [busy] at hbusy
      obtain ⟨_, _, _, _, change⟩ := request_free valid hbusy caller cancelled
      exact (request_free_edit valid known busy caller cancelled).2.regular regular change.valid
        (.inl (rankingWithout_sublist b id))
    | true =>
      rw [busy] at hbusy
      cases cancelled with
      | true =>
        rw [request_cancelled hbusy]
        exact regular
      | false =>
        have answered := request_held valid hbusy caller
        have edited := request_held_edit valid known busy caller
        rw [line_of_onRecord? known] at answered
        split at edited
        · rename_i room
          rw [if_pos room] at answered
          exact edited.2.regular regular answered.2.2.valid (.inl (.refl _))
        · rw [edited]
          exact regular

theorem takeAny (regular : b.Regular settings) : b.takeAny?.2.Regular settings := by
  have edited := takeAny_edit regular.valid
  rcases takeAny?_cases regular.valid with ⟨_, heq⟩ | ⟨_, _, _, hids, _, _, _, _, change⟩
  · rw [heq]
    exact regular
  · split at edited
    · rename_i empty
      simp [idleIds_eq, empty] at hids
    · rename_i ranked rest split
      obtain ⟨_, _, _, _, edit⟩ := edited
      refine edit.regular regular change.valid (.inl ?_)
      rw [split]
      exact List.sublist_cons_self _ _

theorem handOver (regular : b.Regular settings) (listens : RequestId → Bool) (id : ι)
    (priority : Priority) : (b.handOver listens id priority).broker.Regular settings := by
  have valid := regular.valid
  cases known : b.onRecord? id with
  | none =>
    have unknown : b.isBusy? id = none := by simp [isBusy?_eq, known]
    have change := (handOver_unknown valid unknown listens priority).2.2.2.2
    exact (handOver_unknown_edit known listens priority).regular regular change.valid
      (.inl (.refl _))
  | some entry =>
    have hbusy := isBusy?_of_onRecord? known
    have hline := line_of_onRecord? known
    cases busy : entry.busy with
    | false =>
      rw [busy] at hbusy
      rw [(handOver_free hbusy listens priority).2.2.2]
      exact regular
    | true =>
      rw [busy] at hbusy
      cases first : entry.waiters.dropWhile fun signal => !listens signal.request with
      | nil =>
        have change := (handOver_idle valid hbusy (hline ▸ first) priority).2.2.2.2
        exact (handOver_idle_edit valid known busy first priority).2.regular regular change.valid
          (.inr ⟨priority, id, rfl⟩)
      | cons signal rest =>
        obtain ⟨_, _, _, _, _, _, change⟩ :=
          handOver_waiter valid hbusy (hline ▸ first) priority
        exact (handOver_waiter_edit valid known busy first priority).2.regular regular
          change.valid (.inl (.refl _))

theorem leave (regular : b.Regular settings) {ticket : UInt64} {signal : Signal}
    (left : b.leave? id ticket = some (signal, b')) : b'.Regular settings := by
  obtain ⟨_, _, _, _, edit⟩ := leave_edit regular.valid left
  have found := leave?_cases regular.valid id ticket
  split at found
  · simp [found] at left
  · obtain ⟨b₁, heq, _, _, change⟩ := found
    rw [left, Option.some.injEq, Prod.mk.injEq] at heq
    exact edit.regular regular (heq.2 ▸ change.valid) (.inl (.refl _))

end Regular

end Broker

end Custody
