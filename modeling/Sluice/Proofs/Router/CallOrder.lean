import Mathlib.Data.List.Pairwise
import Sluice.Proofs.Router.Scripts
import Sluice.Proofs.Router.Sendings

/-! # Publishings keep the order of their calls

A publishing is called when its task takes its first step, in which it asks for the lock. Until it
has come back, no publishing that was called later does anything at all; so one is under way at a
time, nobody overtakes anybody, and the messages are delivered in the order of the calls, whatever
becomes of a publishing and whatever others do.
-/

namespace Sluice

namespace Work

/-- A publishing comes to the lock once. -/
theorem once_publish (r : Router) (values : Context) (f : Except RouterError Unit → Outcome) :
    (r.publish values >>= fun x => Script.done (f x)).Once true .ahead := by
  refine once_locked (inner_ask rfl fun m => ?_) f
  split
  next => exact inner_done _
  next held _ => exact (honours_publishWith suits_inside (fun _ => rfl) values).inner

/-- So does whatever else a router is asked to do, and sends nothing. -/
theorem once_work (r : Router) (job : Job) :
    (job.work r).Once (job.values? r).isSome .ahead := by
  cases job with
  | start files defaults =>
      refine once_locked (Discreet.inner (discreet_bind (discreet_start _ _ _) fun x => ?_)) _
      cases x <;> exact discreet_done _
  | publish values => exact once_publish r values _
  | visit phase values =>
      by_cases hphase : r.config.executionPhase = phase
      · rw [Job.work_visit hphase]
        simp only [Job.values?, if_pos hphase, Option.isSome_some]
        exact once_publish r values _
      · rw [Job.work_visit_other hphase]
        exact .nothing _
  | state => exact once_locked (Discreet.inner (discreet_ask rfl fun x => discreet_done _)) _
  | close =>
      exact .raise (.inl rfl) fun _ => .raise (.inr rfl) fun _ => once_locked discreet_close.inner _

end Work

namespace Scene

variable {J α : Type}

/-- A task has done something, and has not come back yet. What a publishing does first is to take
the lock. -/
def IsUnderWay (s : Scene J α) (i : Nat) : Prop := s.goesOn i = true ∧ s.moment.own i ≠ []

end Scene

/-- A list of which each member leaves at most itself leaves a part of those that may stay. -/
theorem flatMap_sublist_filter {p : Nat → Bool} {f : Nat → List Nat}
    (h : ∀ i, (f i).Sublist (if p i then [i] else [])) (l : List Nat) :
    (l.flatMap f).Sublist (l.filter p) := by
  induction l with
  | nil => exact List.Sublist.refl _
  | cons i l ih =>
      rw [List.flatMap_cons, List.filter_cons]
      have happend := (h i).append ih
      cases hp : p i with
      | true => simpa [hp] using happend
      | false => simpa [hp] using happend

namespace Router

/-- The tasks of a life in the order of their first steps. -/
def calls (r : Router) (choices : List (Choice Job)) : List Nat :=
  ({} : Life).calls (Job.work r) [] choices

/-- The publishings among some tasks. -/
def publishings (r : Router) (s : Life) (tasks : List Nat) : List Nat :=
  tasks.filter fun i => (r.published? s i).isSome

/-- Publishings keep the order in which they were called. -/
structure InCallOrder (r : Router) (calls : List Nat) (s : Life) : Prop where
  /-- Everybody is called once. -/
  nodup : calls.Nodup
  /-- Nobody publishes who was not called. -/
  called : ∀ i, (r.published? s i).isSome → i ∉ calls → s.moment.own i = []
  /-- Until a publishing has come back, none does anything that was called later. -/
  behind : (r.publishings s calls).Pairwise fun i j => s.goesOn i = true → s.moment.own j = []
  /-- One publishing is under way at a time. -/
  alone : ∀ i j, (r.published? s i).isSome → (r.published? s j).isSome →
    s.IsUnderWay i → s.IsUnderWay j → i = j
  /-- Messages are delivered in the order of the calls, and of each publishing at most one. -/
  delivered : (s.deliveries.map Prod.fst).Sublist (r.publishings s calls)
  /-- A publishing that came back has delivered its message, or failed. -/
  returned : ∀ i x, (r.published? s i).isSome → s.outcome? i = some x →
    (x.isPublished = true ↔ i ∈ s.deliveries.map Prod.fst)
  /-- Every message carries the values of the publishing that delivered it. -/
  carried : ∀ d ∈ s.deliveries, ∃ values, r.published? s d.1 = some values ∧
    d.2.message.Carries r values
  /-- Every message went to the destination of the router. -/
  supplied : ∀ e ∈ s.past, e.task.isSome → e.sent ≠ [] → e.Supplies

variable {r : Router} {choices : List (Choice Job)} {i : Nat}

theorem isDirect_eq (r : Router) (s : Life) :
    (s.isDirect fun job => (job.values? r).isSome) = fun i => (r.published? s i).isSome := by
  funext i
  rw [Scene.isDirect, published?]
  cases s.jobs[i]? <;> rfl

/-- Whatever publishes begins by asking for the lock. -/
theorem locks_of_values {job : Job} (h : (job.values? r).isSome = true) :
    ∃ next, job.work r = Script.ask .lock next := by
  cases job with
  | publish values => exact ⟨_, rfl⟩
  | visit phase values =>
      by_cases hphase : r.config.executionPhase = phase
      · rw [Job.work_visit hphase]
        exact ⟨_, rfl⟩
      · simp [Job.values?, hphase] at h
  | _ => simp [Job.values?] at h

/-- The tasks of a life keep their ranks before the lock. -/
theorem queued_life (r : Router) (choices : List (Choice Job)) :
    ∃ asked, (r.life choices).Queued (Job.work r) (fun job => (job.values? r).isSome) asked ∧
      (r.life choices).Called (fun job => (job.values? r).isSome) asked (r.calls choices) := by
  obtain ⟨hqueued, hcalled⟩ :=
    Scene.queued_empty (Job.work r) fun job => (job.values? r).isSome
  have hsound : ({} : Life).Sound (Gate.free r.config.admission).life (Job.account r) :=
    Scene.sound_empty ⟨inOrder_empty _, once_empty⟩
  obtain ⟨asked, -, hlast⟩ := hqueued.run hcalled hsound (fun _ => locks_of_values)
    (Work.once_work r) (fun job _ _ hown => Gate.abides_work job hown) choices
  exact ⟨asked, hlast⟩

section Sendings

variable {asked : List Nat}
variable (hqueued : (r.life choices).Queued (Job.work r) (fun job => (job.values? r).isSome) asked)

include hqueued

/-- Whoever delivers anything publishes. -/
theorem published_of_sent (hsent : (r.life choices).sentBy i ≠ []) :
    ∃ values, r.published? (r.life choices) i = some values := by
  rw [published?]
  cases hjob : (r.life choices).jobs[i]? with
  | none =>
      have hsound := sound_life (G := .free r.config.admission) once_empty choices
      have hown := hsound.fresh i (hsound.jobs ▸ List.getElem?_eq_none_iff.mp hjob)
      exact absurd (congrArg (List.flatMap Event.sent) hown) hsent
  | some job =>
      cases hvalues : job.values? r with
      | none => exact absurd (hqueued.quiet i job hjob (by simp [hvalues])) hsent
      | some values => exact ⟨values, hvalues⟩

theorem mem_deliveries {d : Nat × Parcel} :
    d ∈ (r.life choices).deliveries ↔ d.2 ∈ (r.life choices).sentBy d.1 := by
  rw [hqueued.ranked.log, List.mem_flatMap]
  constructor
  · rintro ⟨i, -, hd⟩
    obtain ⟨p, hp, rfl⟩ := List.mem_map.mp hd
    exact hp
  · intro hd
    refine ⟨d.1, ?_, List.mem_map.mpr ⟨d.2, hd, rfl⟩⟩
    by_contra hnew
    rw [(hqueued.ranked.fresh d.1 hnew).sentBy] at hd
    exact absurd hd List.not_mem_nil

theorem delivers_iff : i ∈ (r.life choices).deliveries.map Prod.fst ↔
    (r.life choices).sentBy i ≠ [] := by
  rw [List.mem_map]
  constructor
  · rintro ⟨d, hd, rfl⟩
    exact List.ne_nil_of_mem ((mem_deliveries hqueued).mp hd)
  · intro hsome
    obtain ⟨p, hp⟩ := List.exists_mem_of_ne_nil _ hsome
    exact ⟨(i, p), (mem_deliveries hqueued).mpr hp, rfl⟩

/-- Messages are delivered in the order in which publishings asked for the lock. -/
theorem deliveries_sublist : ((r.life choices).deliveries.map Prod.fst).Sublist
    (r.publishings (r.life choices) asked) := by
  rw [hqueued.ranked.log, List.map_flatMap, publishings]
  refine flatMap_sublist_filter (fun i => ?_) asked
  rw [List.map_map]
  cases hvalues : r.published? (r.life choices) i with
  | none =>
      have hnone : (r.life choices).sentBy i = [] := by
        by_contra hsome
        obtain ⟨values, hvalues'⟩ := published_of_sent hqueued hsome
        simp [hvalues] at hvalues'
      simp [hnone]
  | some values =>
      have hone : ((r.life choices).sentBy i).length ≤ 1 := (begins_life r choices hvalues).sends.1
      cases hsent : (r.life choices).sentBy i with
      | nil => simp
      | cons p rest =>
          rw [hsent, List.length_cons] at hone
          have hrest : rest = [] := List.eq_nil_of_length_eq_zero (by omega)
          simp [hrest]

/-- A publishing that came back has delivered its message, or failed. -/
theorem isPublished_iff {x : Outcome} (hpublishes : (r.published? (r.life choices) i).isSome)
    (houtcome : (r.life choices).outcome? i = some x) :
    x.isPublished = true ↔ i ∈ (r.life choices).deliveries.map Prod.fst := by
  obtain ⟨values, hvalues⟩ := Option.isSome_iff_exists.mp hpublishes
  obtain ⟨y, haccount, hy⟩ := account_of_outcome hvalues houtcome
  rw [hy, delivers_iff hqueued]
  rcases haccount.sends (noted_life r choices i) with ⟨hfailed, hnone⟩ | ⟨hok, p, hone, -⟩
  · simp [hfailed, Scene.sentBy, hnone]
  · simp [hok, Scene.sentBy, hone]

/-- Every message carries the values of the publishing that delivered it. -/
theorem carries_of_delivery {d : Nat × Parcel} (hd : d ∈ (r.life choices).deliveries) :
    ∃ values, r.published? (r.life choices) d.1 = some values ∧ d.2.message.Carries r values := by
  have hsent := (mem_deliveries hqueued).mp hd
  obtain ⟨values, hvalues⟩ := published_of_sent hqueued (List.ne_nil_of_mem hsent)
  exact ⟨values, hvalues, (begins_life r choices hvalues).sends.2 d.2 hsent⟩

end Sendings

/-- Publishings asked for the lock in the order in which they were called. -/
theorem publishings_asked {asked : List Nat}
    (hcalled : (r.life choices).Called (fun job => (job.values? r).isSome) asked
      (r.calls choices)) :
    r.publishings (r.life choices) asked = r.publishings (r.life choices) (r.calls choices) := by
  have hagree := hcalled.agree
  rw [isDirect_eq] at hagree
  exact hagree

/-- Concurrent publishings keep the order of their calls, whatever is chosen. -/
theorem publishes_in_call_order (r : Router) (choices : List (Choice Job)) :
    r.InCallOrder (r.calls choices) (r.life choices) := by
  obtain ⟨asked, hqueued, hcalled⟩ := queued_life r choices
  have hagree := publishings_asked hcalled
  have hnothing : ∀ i, (r.published? (r.life choices) i).isSome →
      (r.life choices).Untouched (fun job => (job.values? r).isSome) i →
        (r.life choices).moment.own i = [] := by
    intro i hpublishes huntouched
    obtain ⟨values, hvalues⟩ := Option.isSome_iff_exists.mp hpublishes
    obtain ⟨job, hjob, hvalues⟩ := Option.bind_eq_some_iff.mp hvalues
    exact huntouched.nothing job hjob (by simp [hvalues])
  have hmem : ∀ i, (r.published? (r.life choices) i).isSome → (i ∈ asked ↔ i ∈ r.calls choices) :=
    fun i hpublishes => hcalled.mem_iff (by rw [isDirect_eq]; exact hpublishes)
  have hbehind : (r.publishings (r.life choices) (r.calls choices)).Pairwise fun i j =>
      (r.life choices).goesOn i = true → (r.life choices).moment.own j = [] := by
    rw [← hagree]
    refine (hqueued.ranked.behind.filter _).imp_of_mem fun _ hj hij hgoes => ?_
    exact hnothing _ (List.mem_filter.mp hj).2 (hij hgoes)
  have hcalledFirst : ∀ i, (r.published? (r.life choices) i).isSome →
      i ∉ r.calls choices → (r.life choices).moment.own i = [] := fun i hpublishes hnew =>
    hnothing i hpublishes (hqueued.ranked.fresh i (mt (hmem i hpublishes).mp hnew))
  refine ⟨hcalled.nodup, hcalledFirst, hbehind, ?_, hagree ▸ deliveries_sublist hqueued,
    fun i x hpublishes houtcome => isPublished_iff hqueued hpublishes houtcome,
    fun d hd => carries_of_delivery hqueued hd, ?_⟩
  · intro i j hi hj hunder hunder'
    by_contra hij
    have hcalls : ∀ k, (r.published? (r.life choices) k).isSome →
        (r.life choices).moment.own k ≠ [] →
          k ∈ r.publishings (r.life choices) (r.calls choices) := by
      intro k hk hown
      refine List.mem_filter.mpr ⟨?_, hk⟩
      by_contra hnew
      exact hown (hcalledFirst k hk hnew)
    -- whoever of the two was called later would have done nothing yet
    have hapart : (r.publishings (r.life choices) (r.calls choices)).Pairwise fun i j =>
        ¬ ((r.life choices).IsUnderWay i ∧ (r.life choices).IsUnderWay j) :=
      hbehind.imp fun hij hboth => hboth.2.2 (hij hboth.1.1)
    have hsymm : Std.Symm fun i j =>
        ¬ ((r.life choices).IsUnderWay i ∧ (r.life choices).IsUnderWay j) :=
      ⟨fun i j hnot hboth => hnot hboth.symm⟩
    exact hapart.forall (hcalls i hi hunder.2) (hcalls j hj hunder'.2) hij ⟨hunder, hunder'⟩
  · intro e he htask hsome
    obtain ⟨i, hi⟩ := Option.isSome_iff_exists.mp htask
    have hown : e ∈ (r.life choices).moment.own i := List.mem_filter.mpr ⟨he, by simp [hi]⟩
    have hsent : (r.life choices).sentBy i ≠ [] := by
      intro hnone
      exact hsome (List.flatMap_eq_nil_iff.mp hnone e hown)
    obtain ⟨values, hvalues⟩ := published_of_sent hqueued hsent
    exact (begins_life r choices hvalues).supplies e hown hsome

end Router

end Sluice
