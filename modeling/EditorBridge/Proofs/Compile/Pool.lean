import EditorBridge.Proofs.Compile.Alone
import Mathlib.Data.Fintype.Basic

/-!
# Compiles that share a journal

Any number of compiles run side by side and record into one journal. A schedule says whose turn it
is at each step, and a program may end in any way. What the journal holds is an interleaving of what
the compiles would have recorded alone.

## Main definitions

* `Interleaves`: a list that is put together from others without losing their order.
* `Task.next`, `Task.alone`: one step of a compile, and the compile by itself.
* `Pool`, `Pool.step`, `Pool.after`: compiles that share a journal, and what a schedule leaves of
  them.
* `Pool.Follows`: the invariant, which ties the journal to what each compile has recorded.

## Main results

* `Pool.follows_after`: the invariant holds after every schedule.
* `Pool.exists_ended`: every schedule can be continued until all compiles have ended.
* `Pool.journal_after`: compiles that share a journal do not disturb one another.
-/

namespace EditorBridge

/-! ## Interleavings -/

section Interleaving

variable {ι α : Type} [DecidableEq ι]

/-- A list is an interleaving of the parts: its items can be tagged with the part they are from,
such that the items of each part make up that part, in order. -/
def Interleaves (parts : ι → List α) (whole : List α) : Prop :=
  ∃ tagged : List (ι × α), tagged.map Prod.snd = whole ∧
    ∀ i, (tagged.filter (·.1 = i)).map Prod.snd = parts i

theorem interleaves_nil : Interleaves (fun _ : ι => ([] : List α)) [] :=
  ⟨[], rfl, fun _ => rfl⟩

/-- What one part grows by may be put behind all the others. -/
theorem Interleaves.append {parts : ι → List α} {whole : List α} (h : Interleaves parts whole)
    (i : ι) (more : List α) :
    Interleaves (Function.update parts i (parts i ++ more)) (whole ++ more) := by
  obtain ⟨tagged, hwhole, hparts⟩ := h
  refine ⟨tagged ++ more.map (i, ·), by simp [hwhole], fun j => ?_⟩
  by_cases hj : j = i
  · subst hj
    simp [hparts, List.filter_map, Function.comp_def]
  · have hi : ¬ i = j := fun h => hj h.symm
    simp [hparts, List.filter_map, Function.comp_def, hj, hi]

end Interleaving

namespace Compile

/-! ## One compile -/

namespace Task

variable (ends : Invocation → Outcome)

/-- One step of a compile whose programs end as given: what it records, and what is left to do. A
compile that has ended stays as it is. -/
def next : Task → List Entry × Task
  | .finished result => ([], .finished result)
  | .record entry rest => ([entry], rest)
  | .launch invocation rest => ([], rest (ends invocation))

/-- What a compile leaves that runs alone, on a log that does not fail. -/
def alone (task : Task) : Run Unit :=
  task.complete (fun invocation _ => (ends invocation, ())) ()

/-- What a compile records alone is what it records in one step and then in the rest. -/
theorem entries_alone_eq (task : Task) :
    (task.alone ends).entries = (task.next ends).1 ++ ((task.next ends).2.alone ends).entries := by
  cases task <;> simp [alone, next]

/-- A step does not change what result a compile will have. -/
theorem result_alone_next (task : Task) :
    ((task.next ends).2.alone ends).result = (task.alone ends).result := by
  cases task <;> simp [alone, next]

end Task

/-! ## Compiles side by side -/

/-- Compiles that share a journal. -/
structure Pool (ι : Type) where
  /-- What was reported so far, in order. -/
  journal : Journal
  /-- What each compile has still to do. -/
  tasks : ι → Task

namespace Pool

variable {ι : Type} [DecidableEq ι]

/-- The compiles of some requests, all just dispatched. -/
def start (requests : ι → Request) : Pool ι :=
  ⟨[], fun i => .dispatch (requests i)⟩

/-- All compiles have ended. -/
def Ended (pool : Pool ι) : Prop :=
  ∀ i, ∃ result, pool.tasks i = .finished result

variable (ends : ι → Invocation → Outcome)

/-- One of the compiles takes a step. -/
def step (pool : Pool ι) (i : ι) : Pool ι :=
  let (recorded, rest) := (pool.tasks i).next (ends i)
  ⟨pool.journal ++ recorded, Function.update pool.tasks i rest⟩

/-- What is left when the compiles have taken steps in some order. -/
def after (pool : Pool ι) (schedule : List ι) : Pool ι :=
  schedule.foldl (step ends) pool

@[simp]
theorem after_append (pool : Pool ι) (schedule more : List ι) :
    pool.after ends (schedule ++ more) = (pool.after ends schedule).after ends more :=
  List.foldl_append

/-- The journal only grows. -/
theorem journal_prefix_after (pool : Pool ι) (schedule : List ι) :
    pool.journal <+: (pool.after ends schedule).journal := by
  induction schedule generalizing pool with
  | nil => exact List.prefix_rfl
  | cons i schedule ih => exact (List.prefix_append _ _).trans (ih (pool.step ends i))

/-! ### The invariant -/

/-- The journal is an interleaving of what the compiles have recorded, and each compile has recorded
what it would have recorded alone, up to what it has still to do. -/
structure Follows (requests : ι → Request) (pool : Pool ι) (recorded : ι → List Entry) : Prop where
  interleaves : Interleaves recorded pool.journal
  entries : ∀ i, ((Task.dispatch (requests i)).alone (ends i)).entries =
    recorded i ++ ((pool.tasks i).alone (ends i)).entries
  result : ∀ i, ((pool.tasks i).alone (ends i)).result =
    ((Task.dispatch (requests i)).alone (ends i)).result

variable {ends} {requests : ι → Request} {pool : Pool ι} {recorded : ι → List Entry}

theorem follows_start : Follows ends requests (start requests) fun _ => [] where
  interleaves := interleaves_nil
  entries _ := rfl
  result _ := rfl

theorem Follows.step (hfollows : Follows ends requests pool recorded) (i : ι) :
    Follows ends requests (pool.step ends i)
      (Function.update recorded i (recorded i ++ ((pool.tasks i).next (ends i)).1)) where
  interleaves := hfollows.interleaves.append i _
  entries j := by
    rw [hfollows.entries j]
    by_cases hj : j = i
    · subst hj
      simp [Pool.step, (pool.tasks j).entries_alone_eq]
    · simp [Pool.step, hj]
  result j := by
    rw [← hfollows.result j]
    by_cases hj : j = i
    · subst hj
      simp [Pool.step, Task.result_alone_next]
    · simp [Pool.step, hj]

theorem follows_after (requests : ι → Request) (schedule : List ι) :
    ∃ recorded, Follows ends requests ((start requests).after ends schedule) recorded := by
  induction schedule using List.reverseRecOn with
  | nil => exact ⟨_, follows_start⟩
  | append_singleton schedule i ih =>
    obtain ⟨recorded, hfollows⟩ := ih
    rw [after_append]
    exact ⟨_, hfollows.step i⟩

/-- A compile that has ended has recorded all that it would have recorded alone. -/
theorem Follows.of_finished (hfollows : Follows ends requests pool recorded) {i : ι}
    {result : Result} (hfinished : pool.tasks i = .finished result) :
    recorded i = ((Task.dispatch (requests i)).alone (ends i)).entries ∧
      result = .ofOutcome (requests i) (ends i (requests i).invocation) := by
  have hentries := hfollows.entries i
  have hresult := hfollows.result i
  rw [hfinished] at hentries hresult
  constructor
  · rw [hentries]
    exact (List.append_nil _).symm
  · simpa [Task.alone, Task.complete_dispatch] using hresult

/-! ### How schedules end -/

/-- A compile ends when it has had its turn often enough, and the others do not notice. -/
theorem exists_finished (ends : ι → Invocation → Outcome) (pool : Pool ι) (i : ι) :
    ∃ schedule result,
      (pool.after ends schedule).tasks = Function.update pool.tasks i (.finished result) := by
  generalize htask : pool.tasks i = task
  induction task generalizing pool with
  | finished result => exact ⟨[], result, by rw [← htask, Function.update_eq_self]; rfl⟩
  | record entry rest ih =>
    obtain ⟨schedule, result, hended⟩ := ih (pool.step ends i) (by simp [step, htask, Task.next])
    exact ⟨i :: schedule, result, hended.trans (by simp [step])⟩
  | launch invocation rest ih =>
    obtain ⟨schedule, result, hended⟩ := ih (ends i invocation) (pool.step ends i)
      (by simp [step, htask, Task.next])
    exact ⟨i :: schedule, result, hended.trans (by simp [step])⟩

/-- However far the compiles have come, they can all come to their ends. -/
theorem exists_ended [Fintype ι] (pool : Pool ι) :
    ∃ schedule, (pool.after ends schedule).Ended := by
  have hsome : ∀ indices : List ι, ∃ schedule, ∀ i ∈ indices, ∃ result,
      (pool.after ends schedule).tasks i = .finished result := by
    intro indices
    induction indices with
    | nil => exact ⟨[], fun _ hmem => nomatch hmem⟩
    | cons i indices ih =>
      obtain ⟨schedule, hended⟩ := ih
      obtain ⟨more, result, hmore⟩ := (pool.after ends schedule).exists_finished ends i
      refine ⟨schedule ++ more, List.forall_mem_cons.mpr ⟨⟨result, by simp [hmore]⟩, ?_⟩⟩
      intro j hj
      rw [after_append, hmore]
      by_cases hji : j = i
      · exact ⟨result, by simp [hji]⟩
      · simpa [hji] using hended j hj
  obtain ⟨schedule, hended⟩ := hsome Finset.univ.toList
  exact ⟨schedule, fun i => hended i (Finset.mem_toList.mpr (Finset.mem_univ i))⟩

/-- Whatever requests share a journal, however their programs end and in whatever order they take
their steps, they do not disturb one another. What was once reported stays as it is, in the journal,
in the log and among the notifications. The journal is at any time an interleaving of beginnings of
what each compile records alone, and when all have ended, which they always can, it is an
interleaving of the whole: the announcement of the file, and the report of the compile's own result
with its one notification at the end. That result is a success exactly if it has no message, if the
program was started and exited with code zero, and if the notification is good news. -/
theorem journal_after [Fintype ι] (requests : ι → Request) (ends : ι → Invocation → Outcome)
    (schedule : List ι) :
    let pool := (start requests).after ends schedule
    let alone := fun i => ((Task.dispatch (requests i)).alone (ends i)).entries
    (∀ earlier, earlier <+: schedule →
      let past := (start requests).after ends earlier
      past.journal <+: pool.journal ∧ past.journal.lines <+: pool.journal.lines ∧
        past.journal.notifications <+: pool.journal.notifications) ∧
    (∃ recorded, Interleaves recorded pool.journal ∧ ∀ i, recorded i <+: alone i) ∧
    (∃ more, (pool.after ends more).Ended) ∧
    (pool.Ended → Interleaves alone pool.journal ∧
      ∀ i, ∃ (result : Result) (lines : List String) (shown : Notification),
        pool.tasks i = .finished result ∧
        alone i = .line ("Compiling: " ++ (requests i).filePath.display) :: report result ∧
        report result = lines.map .line ++ [.notification shown] ∧
        (result.exitSucceeded = true ↔ result.errorMessage = none) ∧
        (result.exitSucceeded = true ↔ ∃ finished,
          ends i (requests i).invocation = .ok finished ∧ finished.status = .exited 0) ∧
        (result.exitSucceeded = true ↔ shown.level = .info)) := by
  intro pool alone
  obtain ⟨recorded, hfollows⟩ : ∃ recorded, Follows ends requests pool recorded :=
    follows_after requests schedule
  refine ⟨?_, ⟨recorded, hfollows.interleaves, fun i => ⟨_, (hfollows.entries i).symm⟩⟩,
    exists_ended pool, fun hended => ⟨?_, fun i => ?_⟩⟩
  · rintro earlier ⟨more, rfl⟩ past
    have hgrown : past.journal <+: pool.journal := by
      simp only [pool, after_append]
      exact journal_prefix_after ends past more
    exact ⟨hgrown, hgrown.filterMap _, hgrown.filterMap _⟩
  · have hrecorded : recorded = alone := by
      funext i
      obtain ⟨result, hfinished⟩ := hended i
      exact (hfollows.of_finished hfinished).1
    exact hrecorded ▸ hfollows.interleaves
  · obtain ⟨result, hfinished⟩ := hended i
    obtain rfl := (hfollows.of_finished hfinished).2
    obtain ⟨lines, shown, hreport, hshown⟩ :=
      exists_report_eq (.ofOutcome (requests i) (ends i (requests i).invocation))
    refine ⟨_, lines, shown, hfinished, ?_, hreport,
      Result.exitSucceeded_ofOutcome_iff_message _ _, Result.exitSucceeded_ofOutcome_iff _ _,
      hshown.symm⟩
    simp only [alone, Task.alone, Task.complete_dispatch]

end Pool

end Compile

end EditorBridge
