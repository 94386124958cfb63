import Custody.Proofs.Broker.Apart
import Custody.Proofs.Ranking
import Mathlib.Data.List.TakeWhile

/-!
# Enrolment

An id is ranked as it was enrolled last. What enrols an id and what undoes that is told by
marks, and the ranking is the stable sort of the enrolments that no later mark undid.

* `Mark.inForce`, `Mark.mem_inForce`: the enrolments that stand;
* `Broker.terms?`: what a resource was registered with, and its priority;
* `Broker.Posts`: an operation leaves a mark, or none; `Broker.Posts.inOrder`: and the ranking
  stays that of the marks;
* `Broker.register_posts`, `Broker.request_posts`, `Broker.takeAny_posts`,
  `Broker.withdraw_posts`, `Broker.unregister_posts`, `Broker.handOver_held_posts`: the mark of
  each operation.
-/

namespace Custody

/-- What became of the place of an id in the ranking. -/
inductive Mark (ι : Type)
  | enrolled (priority : Priority) (id : ι)
  | undone (id : ι)
  deriving DecidableEq, Repr

namespace Mark

variable {ι : Type}

def id : Mark ι → ι
  | enrolled _ id => id
  | undone id => id

@[simp]
theorem id_enrolled (priority : Priority) (x : ι) : (enrolled priority x).id = x := rfl

@[simp]
theorem id_undone (x : ι) : (undone x).id = x := rfl

/-- The entry of the ranking that a mark adds. -/
def adds? : Mark ι → Option (Priority × ι)
  | enrolled priority id => some (priority, id)
  | undone _ => none

theorem adds?_id {mark : Mark ι} {entry : Priority × ι} (adds : mark.adds? = some entry) :
    entry.2 = mark.id := by
  cases mark with
  | enrolled priority id => rw [← Option.some.inj adds, id_enrolled]
  | undone id => cases adds

theorem adds?_eq_some {mark : Mark ι} {priority : Priority} {x : ι} :
    mark.adds? = some (priority, x) ↔ mark = enrolled priority x := by
  cases mark <;> simp [adds?]

variable [DecidableEq ι]

/-- Of marks in order, the enrolments that no later mark of their id undoes or replaces. -/
def inForce : List (Mark ι) → List (Priority × ι)
  | [] => []
  | mark :: later =>
    if later.any fun other => other.id = mark.id then inForce later
    else mark.adds?.toList ++ inForce later

/-- A mark puts an end to the enrolment of its id, and may be one. -/
theorem inForce_concat (history : List (Mark ι)) (mark : Mark ι) :
    inForce (history ++ [mark]) =
      (inForce history).filter (fun entry => entry.2 ≠ mark.id) ++ mark.adds?.toList := by
  induction history with
  | nil => simp [inForce]
  | cons first later ih =>
    rw [List.cons_append, inForce, inForce, ih, List.any_append]
    by_cases again : later.any fun other => other.id = first.id
    · simp [again]
    · rw [if_neg again]
      by_cases same : mark.id = first.id
      · have gone : first.adds?.toList.filter (fun entry => entry.2 ≠ mark.id) = [] := by
          rw [List.filter_eq_nil_iff]
          intro entry adds
          simp [adds?_id (Option.mem_toList.1 adds), same]
        rw [List.filter_append, gone]
        simp [same]
      · have kept : first.adds?.toList.filter (fun entry => entry.2 ≠ mark.id) =
            first.adds?.toList := by
          rw [List.filter_eq_self]
          intro entry adds
          simp [adds?_id (Option.mem_toList.1 adds), Ne.symm same]
        rw [List.filter_append, kept]
        simp [again, same]

/-- An enrolment stands if nothing came of its id since. -/
theorem mem_inForce {history : List (Mark ι)} {priority : Priority} {x : ι} :
    (priority, x) ∈ inForce history ↔
      ∃ before later, history = before ++ enrolled priority x :: later ∧
        ∀ mark ∈ later, mark.id ≠ x := by
  induction history with
  | nil => simp [inForce]
  | cons first later ih =>
    have last_iff : ¬(later.any fun other => other.id = first.id) ↔
        ∀ mark ∈ later, mark.id ≠ first.id := by simp
    rw [inForce]
    constructor
    · intro mem
      split at mem
      · obtain ⟨before, after, split, last⟩ := ih.1 mem
        exact ⟨first :: before, after, by rw [split, List.cons_append], last⟩
      · rename_i last
        rcases List.mem_append.1 mem with mem | mem
        · obtain rfl := adds?_eq_some.1 (Option.mem_toList.1 mem)
          exact ⟨[], later, rfl, last_iff.1 last⟩
        · obtain ⟨before, after, split, last⟩ := ih.1 mem
          exact ⟨first :: before, after, by rw [split, List.cons_append], last⟩
    · rintro ⟨before, after, split, last⟩
      cases before with
      | nil =>
        obtain ⟨rfl, rfl⟩ := List.cons.inj split
        rw [if_neg (last_iff.2 last)]
        exact List.mem_append_left _ (by simp [adds?])
      | cons other before =>
        have mem := ih.2 ⟨before, after, (List.cons.inj split).2, last⟩
        split_ifs
        · exact mem
        · exact List.mem_append_right _ mem

end Mark

/-- What a resource was registered with, and the priority it was last given up at, which is
that of its registration at first. -/
structure Terms (ρ : Type) where
  resource : ρ
  priority : Priority
  deriving DecidableEq, Repr

def Entry.terms {ρ : Type} (entry : Entry ρ) : Terms ρ := ⟨entry.resource, entry.lastPriority⟩

namespace Broker

variable {ι ρ : Type} [DecidableEq ι] {b b' b'' : Broker ι ρ} {id : ι}

def terms? (b : Broker ι ρ) (id : ι) : Option (Terms ρ) := (b.onRecord? id).map Entry.terms

theorem terms?_eq_none_iff : b.terms? id = none ↔ b.isBusy? id = none := by
  simp [terms?, isBusy?_eq]

theorem exists_terms {busy : Bool} (known : b.isBusy? id = some busy) :
    ∃ terms, b.terms? id = some terms := by
  rw [← Option.ne_none_iff_exists', Ne, terms?_eq_none_iff, known]
  simp

theorem lastPriority_of_terms? {terms : Terms ρ} (known : b.terms? id = some terms) :
    b.lastPriority id = terms.priority := by
  obtain ⟨entry, onRecord, rfl⟩ := Option.map_eq_some_iff.1 known
  exact lastPriority_of_onRecord? onRecord

/-- Someone who listens stands in line for the id. -/
def attended (b : Broker ι ρ) (listens : RequestId → Bool) (id : ι) : Bool :=
  (b.line id).any fun signal => listens signal.request

theorem attended_eq_false_iff {listens : RequestId → Bool} :
    b.attended listens id = false ↔
      (b.line id).dropWhile (fun signal => !listens signal.request) = [] := by
  simp [attended, List.dropWhile_eq_nil_iff]

/-- The ranking with one mark more, if there is one. -/
def rankingAfter (b : Broker ι ρ) : Option (Mark ι) → List (Priority × ι)
  | none => b.ranking
  | some (.enrolled priority id) => b.rankingWith priority id
  | some (.undone id) => b.rankingWithout id

/-- The ranking changes by a mark, and the terms are as given. Only what is not ranked is
enrolled. -/
structure Posts (b b' : Broker ι ρ) (mark? : Option (Mark ι)) (terms? : ι → Option (Terms ρ)) :
    Prop where
  ranking : b'.ranking = b.rankingAfter mark?
  unranked : ∀ priority id, mark? = some (.enrolled priority id) → id ∉ b.idleIds
  terms : ∀ x, b'.terms? x = terms? x

theorem Posts.refl (b : Broker ι ρ) : Posts b b none b.terms? :=
  ⟨rfl, by simp, fun _ => rfl⟩

/-- What leaves no mark and changes no terms goes unnoticed. -/
theorem Posts.before_quiet {mark? : Option (Mark ι)} {terms? : ι → Option (Terms ρ)}
    (posts : Posts b b' mark? terms?) (quiet : Posts b' b'' none b'.terms?) :
    Posts b b'' mark? terms? where
  ranking := quiet.ranking.trans posts.ranking
  unranked := posts.unranked
  terms x := (quiet.terms x).trans (posts.terms x)

theorem rankingWithout_eq_filter (h : b.Valid) (id : ι) :
    b.rankingWithout id = b.ranking.filter fun ranked => ranked.2 ≠ id := by
  have gone := h.not_mem_unrank id
  rw [RankedQueue.toList, (unrank_edit h id).2] at gone
  rw [← rankingWithout_apart b id, List.filter_eq_self.2]
  intro ranked mem
  have other : ranked.2 ≠ id := fun heq => gone (List.mem_map.2 ⟨ranked, mem, heq⟩)
  simpa using other

/-- If the ranking is that of the marks so far, it is that of the marks with one more. -/
theorem Posts.inOrder {order : ServingOrder} {history : List (Mark ι)} {mark? : Option (Mark ι)}
    {terms? : ι → Option (Terms ρ)} (posts : Posts b b' mark? terms?) (h : b.Valid)
    (ordered : b.idle.order = order)
    (listed : b.ranking = RankedQueue.inOrder order (Mark.inForce history)) :
    b'.ranking = RankedQueue.inOrder order (Mark.inForce (history ++ mark?.toList)) := by
  rw [posts.ranking]
  cases marked : mark? with
  | none => rw [rankingAfter, listed, Option.toList_none, List.append_nil]
  | some mark =>
    rw [Option.toList_some, Mark.inForce_concat]
    cases mark with
    | undone id =>
      rw [rankingAfter, rankingWithout_eq_filter h, listed, RankedQueue.inOrder_filter,
        Mark.adds?, Option.toList_none, List.append_nil, Mark.id_undone]
    | enrolled priority id =>
      -- The id is not ranked, so that there is no enrolment of it to put an end to.
      have unranked := posts.unranked priority id marked
      have absent : b.ranking.filter (fun ranked => ranked.2 ≠ id) = b.ranking := by
        rw [List.filter_eq_self]
        intro ranked mem
        have other : ranked.2 ≠ id := by
          rintro rfl
          exact unranked (List.mem_map_of_mem mem)
        simpa using other
      rw [rankingAfter, rankingWith, ordered, Mark.adds?, Option.toList_some,
        RankedQueue.inOrder_concat, Mark.id_enrolled, ← RankedQueue.inOrder_filter, ← listed,
        absent]

/-- What comes into the ranking is enrolled. -/
theorem Posts.enrolled {mark? : Option (Mark ι)} {terms? : ι → Option (Terms ρ)}
    (posts : Posts b b' mark? terms?) (absent : id ∉ b.idleIds) (listed : id ∈ b'.idleIds) :
    ∃ priority, mark? = some (.enrolled priority id) := by
  rw [idleIds_eq, posts.ranking] at listed
  obtain ⟨ranked, mem, rfl⟩ := List.mem_map.1 listed
  have before : ranked ∉ b.ranking := fun mem => absent (List.mem_map_of_mem mem)
  cases mark? with
  | none => exact absurd mem before
  | some mark =>
    cases mark with
    | undone other => exact absurd (List.mem_of_mem_eraseP mem) before
    | enrolled priority other =>
      have ranks := RankedQueue.ranked_perm b.idle.order (priority, other) b.ranking
      rcases List.mem_cons.1 (ranks.mem_iff.1 mem) with rfl | mem
      · exact ⟨priority, rfl⟩
      · exact absurd mem before

/-! ### The mark of each operation -/

theorem Edit.posts {after? : Option (Entry ρ)} {ranking : List (Priority × ι)}
    {retired : List ι} {ticket : UInt64} (edit : Edit b b' id after? ranking retired ticket)
    {mark? : Option (Mark ι)} (ranked : ranking = b.rankingAfter mark?)
    (unranked : ∀ priority id, mark? = some (.enrolled priority id) → id ∉ b.idleIds) :
    Posts b b' mark? fun x => if x = id then after?.map Entry.terms else b.terms? x where
  ranking := edit.ranking.trans ranked
  unranked := unranked
  terms x := by
    rw [terms?, edit.entry]
    split <;> rfl

/-- An edit that enrols nothing and leaves the terms of the id as they were. -/
theorem Edit.posts_of_kept {entry entry' : Entry ρ} {ranking : List (Priority × ι)}
    {retired : List ι} {ticket : UInt64}
    (edit : Edit b b' id (some entry') ranking retired ticket)
    (known : b.onRecord? id = some entry) (kept : entry'.terms = entry.terms)
    {mark? : Option (Mark ι)} (ranked : ranking = b.rankingAfter mark?)
    (none : ∀ priority x, mark? ≠ some (.enrolled priority x)) : Posts b b' mark? b.terms? where
  ranking := edit.ranking.trans ranked
  unranked priority x heq := absurd heq (none priority x)
  terms x := by
    rw [terms?, edit.entry]
    split
    · rename_i heq
      rw [heq, terms?, known, Option.map_some, Option.map_some, kept]
    · rfl

theorem register_posts (h : b.Valid) {resource : ρ} {priority : Priority}
    (hok : b.register id resource priority = .ok b') :
    Posts b b' (some (.enrolled priority id)) fun x =>
      if x = id then some ⟨resource, priority⟩ else b.terms? x := by
  have unknown := (register_change h hok).1
  refine (register_edit h hok).posts rfl fun _ _ heq => ?_
  obtain ⟨-, rfl⟩ := Mark.enrolled.inj (Option.some.inj heq)
  exact h.not_ranked (by simp [unknown])

theorem unregister_posts (h : b.Valid) {busy : Bool} (known : b.isBusy? id = some busy) :
    Posts b (b.unregister id).2 (some (.undone id)) fun x =>
      if x = id then none else b.terms? x := by
  obtain ⟨record, hget, -⟩ := exists_record known
  obtain ⟨-, -, -, edit⟩ := unregister_edit h (onRecord?_of_get? hget)
  exact edit.posts rfl (by simp)

theorem withdraw_posts (h : b.Valid) (id : ι) :
    Posts b (b.withdraw id).2 (some (.undone id)) b.terms? where
  ranking := (withdraw_edit h id).2.ranking
  unranked := by simp
  terms _ := rfl

/-- A caller takes what is free out of the ranking. -/
theorem request_posts (h : b.Valid) (id : ι) (caller : RequestId) (cancelled : Bool) :
    match (b.request id caller cancelled).1 with
    | .granted _ => Posts b (b.request id caller cancelled).2 (some (.undone id)) b.terms?
    | .unknown => Posts b (b.request id caller cancelled).2 none b.terms?
    | .cancelled => Posts b (b.request id caller cancelled).2 none b.terms?
    | .full => Posts b (b.request id caller cancelled).2 none b.terms?
    | .queued _ => Posts b (b.request id caller cancelled).2 none b.terms? := by
  cases known : b.onRecord? id with
  | none =>
    rw [request_unknown (by simp [isBusy?_eq, known])]
    exact .refl b
  | some entry =>
    cases busy : entry.busy with
    | false =>
      obtain ⟨granted, edit⟩ := request_free_edit h known busy caller cancelled
      rw [granted]
      exact edit.posts_of_kept known rfl rfl (by simp)
    | true =>
      have held := isBusy?_of_onRecord? known
      rw [busy] at held
      cases cancelled with
      | true =>
        rw [request_cancelled held]
        exact .refl b
      | false =>
        have edited := request_held_edit h known busy caller
        split at edited
        · obtain ⟨queued, edit⟩ := edited
          rw [queued]
          exact edit.posts_of_kept known rfl rfl (by simp)
        · rw [edited]
          exact .refl b

theorem takeAny_posts (h : b.Valid) :
    Posts b b.takeAny?.2 (b.takeAny?.1.map fun taken => .undone taken.1) b.terms? := by
  have edited := takeAny_edit h
  split at edited
  · rw [edited]
    exact .refl b
  · rename_i ranked rest first
    obtain ⟨entry, known, -, taken, edit⟩ := edited
    rw [taken]
    refine edit.posts_of_kept known rfl ?_ (by simp)
    simp [rankingAfter, rankingWithout, first]

theorem leave_posts (h : b.Valid) {ticket : UInt64} {signal : Signal}
    (left : b.leave? id ticket = some (signal, b')) : Posts b b' none b.terms? := by
  obtain ⟨entry, known, -, -, edit⟩ := leave_edit h left
  exact edit.posts_of_kept known rfl rfl (by simp)

/-- What is held and given up has the priority that it is given up at, and is ranked at it if
nobody in line listens. -/
theorem handOver_held_posts (h : b.Valid) (held : b.isBusy? id = some true)
    (listens : RequestId → Bool) (priority : Priority) :
    (∃ handover, (b.handOver listens id priority).verdict = .ok handover) ∧
    Posts b (b.handOver listens id priority).broker
      (if b.attended listens id then none else some (.enrolled priority id)) fun x =>
        if x = id then (b.terms? id).map fun terms => { terms with priority := priority }
        else b.terms? x := by
  obtain ⟨record, hget, busy⟩ := exists_record held
  have known := onRecord?_of_get? hget
  have line := line_of_onRecord? known
  have terms : ((b.terms? id).map fun terms => { terms with priority := priority }) =
      some ⟨record.resource, priority⟩ := by
    rw [terms?, known]
    rfl
  rw [terms]
  cases first : record.entry.waiters.dropWhile fun signal => !listens signal.request with
  | nil =>
    have nobody : b.attended listens id = false := attended_eq_false_iff.2 (line ▸ first)
    have verdict := (handOver_idle h held (line ▸ first) priority).1
    rw [nobody]
    refine ⟨⟨_, verdict⟩, (handOver_idle_edit h known busy first priority).2.posts rfl ?_⟩
    intro _ _ heq
    obtain ⟨-, rfl⟩ := Mark.enrolled.inj (Option.some.inj heq)
    exact h.not_ranked (by simp [held])
  | cons signal rest =>
    have somebody : b.attended listens id = true := by
      rw [← Bool.not_eq_false, attended_eq_false_iff, line, first]
      exact List.cons_ne_nil _ _
    obtain ⟨_, _, verdict, _⟩ := handOver_waiter h held (line ▸ first) priority
    rw [somebody]
    refine ⟨⟨_, verdict⟩, (handOver_waiter_edit h known busy first priority).2.posts rfl ?_⟩
    intro _ _ heq
    cases heq

/-- What is not held is not given up. -/
theorem handOver_refused_posts (h : b.Valid) (refused : b.isBusy? id ≠ some true)
    (listens : RequestId → Bool) (priority : Priority) :
    (∃ refusal, (b.handOver listens id priority).verdict = .error refusal) ∧
    Posts b (b.handOver listens id priority).broker none b.terms? := by
  rcases busy : b.isBusy? id with _ | _ | _
  · have unknown : b.onRecord? id = none := by simpa [isBusy?_eq] using busy
    have verdict := (handOver_unknown h busy listens priority).1
    have edit := handOver_unknown_edit unknown listens priority
    refine ⟨⟨_, verdict⟩, edit.ranking, by simp, fun x => ?_⟩
    rw [terms?, edit.entry]
    split
    · rename_i heq
      rw [heq, terms?, unknown]
    · rfl
  · obtain ⟨verdict, _, _, same⟩ := handOver_free busy listens priority
    rw [same]
    exact ⟨⟨_, verdict⟩, .refl b⟩
  · exact absurd busy refused

end Broker

end Custody
