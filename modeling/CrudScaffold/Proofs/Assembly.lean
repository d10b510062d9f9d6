import Mathlib.Tactic.Lemma
import Mathlib.Tactic.SplitIfs
import CrudScaffold.Assembly
import CrudScaffold.Proofs.Project.Members

/-!
# Runs of an assembler

An assembler is used for one project after another, and between the projects it keeps the stage that
the last of them ended in. Nothing comes of this but the first words of the next report: each
project is the one that it would have been alone (`Assembler.runAll_eq`), and the changes of stage
in all reports follow one another from the first to the last without a gap
(`Assembler.leads_stageChanges`).
-/

namespace CrudScaffold

/-! ### Stages -/

namespace Stage

/-- A stage that an assembler can be in between two runs. -/
def IsRest (stage : Stage) : Prop := stage ∈ [idle, assembled, failed]

/-- The stage that may follow another one. A project begins where an assembler is at rest. -/
def Follows (before after : Stage) : Prop :=
  (before.IsRest ∧ after = .validating) ∨
    (before = .validating ∧ after ∈ [generating, failed]) ∨
      (before = .generating ∧ after = .assembled)

/-- Changes of stage that lead from one stage to another, each from where the last one ended. -/
def Leads : Stage → List (Stage × Stage) → Stage → Prop
  | stage, [], last => stage = last
  | stage, (before, after) :: changes, last =>
    before = stage ∧ Follows before after ∧ Leads after changes last

/-- Changes that lead on from where others lead make one row with them. -/
lemma Leads.append {first middle last : Stage} {changes more : List (Stage × Stage)}
    (h : Leads first changes middle) (hmore : Leads middle more last) :
    Leads first (changes ++ more) last := by
  induction changes generalizing first with
  | nil =>
    obtain rfl : first = middle := h
    exact hmore
  | cons change changes ih =>
    obtain ⟨hbefore, hfollows, h⟩ := h
    exact ⟨hbefore, hfollows, ih h⟩

end Stage

/-! ### What is said of stages -/

/-- The change of stage that an event tells of. -/
def Event.stageChange? : Event → Option (Stage × Stage)
  | .stageChanged before after => some (before, after)
  | _ => none

/-- The changes of stage in a report. -/
def stageChanges (events : List Event) : List (Stage × Stage) :=
  events.filterMap Event.stageChange?

@[simp] lemma stageChanges_append (events more : List Event) :
    stageChanges (events ++ more) = stageChanges events ++ stageChanges more :=
  List.filterMap_append

lemma stageChanges_eq_nil_iff {events : List Event} :
    stageChanges events = [] ↔ ∀ event ∈ events, event.stageChange? = none :=
  List.filterMap_eq_nil_iff

/-- Warnings tell of no change of stage. -/
lemma Event.stageChange?_of_isWarning {event : Event} (h : event.isWarning) :
    event.stageChange? = none := by
  cases event with
  | stageChanged => exact absurd h Bool.false_ne_true
  | _ => rfl

lemma stageChanges_nameNotices (s : Snapshot) : stageChanges s.nameNotices = [] := by
  refine stageChanges_eq_nil_iff.mpr fun event hevent => Event.stageChange?_of_isWarning ?_
  rcases List.mem_append.mp hevent with h | h
  · obtain ⟨l, hl, h⟩ := List.mem_flatten.mp h
    obtain ⟨i, hi, rfl⟩ := List.mem_mapIdx.mp hl
    split_ifs at h
    · rw [List.mem_singleton.mp h]
      rfl
    · exact absurd h List.not_mem_nil
  · rcases List.mem_append.mp h with h | h
    · obtain ⟨r, -, h⟩ := List.mem_flatMap.mp h
      obtain ⟨id, -, rfl⟩ := List.mem_map.mp h
      rfl
    · obtain ⟨c, -, h⟩ := List.mem_flatMap.mp h
      exact RelationshipIndex.isWarning_of_mem_repeatedNames h

lemma Entity.stageChanges_notices (c : ClassDef) (typeName : String) :
    stageChanges (notices c typeName) = [] := by
  refine stageChanges_eq_nil_iff.mpr fun event hevent => ?_
  rcases List.mem_append.mp hevent with h | h
  · obtain ⟨finding, -, h⟩ := List.mem_flatMap.mp h
    cases finding with
    | unusable raw =>
      rw [List.mem_singleton.mp h]
      rfl
    | repeated raw name =>
      rw [List.mem_singleton.mp h]
      rfl
    | kept a unknownTag extraKey =>
      rcases List.mem_append.mp h with h | h
      all_goals
        split_ifs at h
        · rw [List.mem_singleton.mp h]
          rfl
        · exact absurd h List.not_mem_nil
  · split_ifs at h
    · rw [List.mem_singleton.mp h]
      rfl
    · exact absurd h List.not_mem_nil

lemma stageChanges_attributeNotices (s : Snapshot) : stageChanges s.attributeNotices = [] := by
  refine stageChanges_eq_nil_iff.mpr fun event hevent => ?_
  obtain ⟨c, -, h⟩ := List.mem_flatMap.mp hevent
  split at h
  · exact stageChanges_eq_nil_iff.mp (Entity.stageChanges_notices c _) event h
  · exact absurd h List.not_mem_nil

lemma stageChanges_artifactNotices (made : List String) (artifacts : List (String × String)) :
    stageChanges (artifactNotices made artifacts) = [] := by
  induction artifacts generalizing made with
  | nil => rfl
  | cons artifact rest ih =>
    obtain ⟨path, typeName⟩ := artifact
    have hrepeated : stageChanges
        (if path ∈ made then [.repeatedTypeName path typeName] else []) = [] := by
      split_ifs <;> rfl
    change stageChanges ((if path ∈ made then [.repeatedTypeName path typeName] else []) ++
      artifactNotices (path :: made) rest) = []
    rw [stageChanges_append, hrepeated, ih, List.append_nil]

/-- The stage that a run on a diagram ends in. -/
def Snapshot.lastStage (s : Snapshot) : Stage := if s.isEmpty then .failed else .assembled

/-- A run of an assembler ends at rest. -/
lemma Snapshot.isRest_lastStage (s : Snapshot) : s.lastStage.IsRest := by
  rw [lastStage]
  split_ifs <;> simp [Stage.IsRest]

/-- Between the two changes that begin a run and the one that ends it nothing is said of stages. -/
lemma stageChanges_report (stage : Stage) (s : Snapshot) (config : Config) (name : String) :
    stageChanges (report stage s config name) =
      if s.isEmpty then [(stage, .validating), (.validating, .failed)]
      else [(stage, .validating), (.validating, .generating), (.generating, .assembled)] := by
  have hown (paths : List String) : stageChanges (paths.map .projectArtifact) = [] := by
    refine stageChanges_eq_nil_iff.mpr fun event hevent => ?_
    obtain ⟨path, -, rfl⟩ := List.mem_map.mp hevent
    rfl
  rw [report]
  split_ifs
  · rfl
  · simp only [stageChanges_append, stageChanges_nameNotices, stageChanges_attributeNotices,
      stageChanges_artifactNotices, hown]
    rfl

/-- The changes that a run reports lead from where an assembler is at rest to where the run ends. -/
lemma leads_stageChanges_report {stage : Stage} (h : stage.IsRest) (s : Snapshot) (config : Config)
    (name : String) :
    Stage.Leads stage (stageChanges (report stage s config name)) s.lastStage := by
  rw [stageChanges_report, Snapshot.lastStage]
  split_ifs
  · exact ⟨rfl, .inl ⟨h, rfl⟩, rfl, .inr (.inl ⟨rfl, by simp⟩), rfl⟩
  · exact ⟨rfl, .inl ⟨h, rfl⟩, rfl, .inr (.inl ⟨rfl, by simp⟩), rfl, .inr (.inr ⟨rfl, rfl⟩), rfl⟩

/-! ### One project after another -/

namespace Assembler

/-- What an assembler makes of diagrams with the names of their projects, one after another, and the
assembler then. -/
def runAll (a : Assembler) : List (Snapshot × String) →
    List (Except GenerateError FileTree) × Assembler
  | [] => ([], a)
  | (s, name) :: jobs =>
    let (result, next) := a.run s name
    let (results, last) := next.runAll jobs
    (result :: results, last)

/-- What an assembler reports on the way. -/
def reports (a : Assembler) : List (Snapshot × String) → List Event
  | [] => []
  | (s, name) :: jobs => report a.stage s a.config name ++ (a.run s name).2.reports jobs

/-- The stage that an assembler is in after some projects. -/
def lastStage (stage : Stage) : List (Snapshot × String) → Stage
  | [] => stage
  | (s, _) :: jobs => lastStage s.lastStage jobs

/-- **One run.** The project is that of the settings, whatever the stage, and the run leaves nothing
but the stage it ends in. -/
lemma run_eq (a : Assembler) (s : Snapshot) (name : String) :
    a.run s name = (generate s a.config name, { a with stage := s.lastStage }) := by
  rw [run, generate, Snapshot.lastStage]
  split_ifs <;> rfl

/-- **Many runs.** Each project is what it would have been alone, and of all runs together nothing
is left but the stage that the last one ended in. -/
theorem runAll_eq (a : Assembler) (jobs : List (Snapshot × String)) :
    a.runAll jobs =
      (jobs.map fun job => generate job.1 a.config job.2,
        { a with stage := lastStage a.stage jobs }) := by
  induction jobs generalizing a with
  | nil => rfl
  | cons job jobs ih =>
    obtain ⟨s, name⟩ := job
    simp only [runAll, run_eq, ih, List.map_cons, lastStage]

/-- **The stages of many runs.** From an assembler at rest the changes of stage in all reports lead,
one after another and without a gap, to the stage that the last run ends in. -/
theorem leads_stageChanges (a : Assembler) (h : a.stage.IsRest) (jobs : List (Snapshot × String)) :
    Stage.Leads a.stage (stageChanges (a.reports jobs)) (a.runAll jobs).2.stage := by
  induction jobs generalizing a with
  | nil => rfl
  | cons job jobs ih =>
    obtain ⟨s, name⟩ := job
    have hfirst : Stage.Leads a.stage (stageChanges (report a.stage s a.config name)) s.lastStage :=
      leads_stageChanges_report h s a.config name
    have hrest := ih { a with stage := s.lastStage } s.isRest_lastStage
    rw [reports, run_eq, stageChanges_append]
    simpa only [runAll, run_eq] using hfirst.append hrest

end Assembler

end CrudScaffold
