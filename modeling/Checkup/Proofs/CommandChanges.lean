import Checkup.CommandLine
import Checkup.Proofs.Outcomes
import Checkup.Proofs.TreeChanges

/-!
# What a command changes

A run changes its two report files and makes missing folders on the way to them, and
nothing else, however it ends. A template is written where nothing was, or nothing is
written. Without settings, and for everything else that a command may be asked for, the
tree stays as it is.
-/

namespace Checkup.Command

open FileTree

/-- What a run leaves of a tree. -/
structure RunTouches (around : Surroundings) (config asked : Option String) (ending : Ending) : Prop where
  /-- With settings a run changes nothing but the report files and missing folders on
  the way to them. -/
  found : ∀ settings,
    Settings.load around.tree (settingsFile around.tree config) around.environment = .ok settings →
      around.tree.ChangesOnly ending.tree
        (Report.Touches around.tree ending.tree (reportFolder settings asked))
  /-- Without settings nothing changes at all. -/
  refused : ∀ fault,
    Settings.load around.tree (settingsFile around.tree config) around.environment = .error fault →
      ending.tree = around.tree

/-- A file with a text was made where nothing was, and nothing else changed. -/
structure Creates (old new : FileTree) (path : Path) (text : String) : Prop where
  absent : old.holds path = false
  created : ∃ place, new.locate path = .ok place ∧ old.sight place = .nothing ∧
    new.sight place = .file (Text.encode text) ∧ old.ChangesOnly new (· = place)

/-- What writing a template leaves of a tree. -/
structure TemplateTouches (tree : FileTree) (file : String) (ending : Ending) : Prop where
  /-- The file is made and nothing else, or nothing changes. -/
  created : Creates tree ending.tree (.ofString file) Settings.template ∨
    ∀ place, ending.tree.sight place = tree.sight place
  /-- Where something is already, nothing changes at all. -/
  taken : tree.holds (.ofString file) = true → ending.tree = tree ∧ ending.exitCode = 1
  /-- A failure changes nothing at all. -/
  failed : ending.exitCode ≠ 0 → ending.tree = tree

/-- What a command leaves of a tree. -/
def TouchesOwn (around : Surroundings) (ending : Ending) : Command → Prop
  | run config _ _ asked => RunTouches around config asked ending
  | template file => TemplateTouches around.tree file ending
  | help | mistake | version => ending.tree = around.tree

/-- A run that finishes leaves the tree as writing its report does. -/
theorem tree_finish (around : Surroundings) (settings : Settings) (run : Run) (log : List String)
    (folder : Path) :
    (finish around settings run log folder).tree = (run.report.writeFiles around.tree folder).1 := by
  unfold finish
  dsimp only
  split <;> rfl

/-- A run touches its own files only. -/
theorem executeRun_touches (around : Surroundings) (config : Option String) (verbose : Bool)
    (flags : RunFlags) (asked : Option String) :
    RunTouches around config asked (executeRun around config verbose flags asked) where
  found settings hs := by
    unfold executeRun
    dsimp only
    rw [hs]
    dsimp only
    rw [tree_finish]
    exact Report.changesOnly_writeFiles _ _ _
  refused fault hs := by
    unfold executeRun
    dsimp only
    rw [hs]
    cases fault <;> rfl

/-- A file written where nothing was is made, and nothing else changes. Nothing is seen of
it only if the folder above is gone. -/
theorem creates_of_writeText {tree changed : FileTree} {path : Path} {text : String}
    (ha : tree.holds path = false) (h : tree.writeText path text = .ok changed) :
    Creates tree changed path text ∨ ∀ place, changed.sight place = tree.sight place := by
  have hchange := changesOnly_writeBytes h
  by_cases hs : ∀ place, changed.sight place = tree.sight place
  · exact .inr hs
  · obtain ⟨place, hplace⟩ := Classical.not_forall.mp hs
    obtain ⟨hwrote, hbefore⟩ := hchange.places place hplace
    refine .inl ⟨ha, place, hwrote.located, ?_, hwrote.after, hchange.mono fun other hother => ?_⟩
    · rw [hbefore]
      unfold holds at ha
      cases hf : tree.find path with
      | ok node =>
        rw [hf] at ha
        cases ha
      | error trouble => rfl
    · have hsame : (Except.ok other : Except FileTrouble (List String)) = .ok place :=
        hother.1.located.symm.trans hwrote.located
      cases hsame
      rfl

/-- A template is written where nothing was, to a path that a file system admits. -/
theorem of_writeTemplate {tree changed : FileTree} {file : String}
    (h : Settings.writeTemplate tree file = .ok changed) :
    tree.holds (.ofString file) = false ∧
      tree.writeText (.ofString file) Settings.template = .ok changed := by
  unfold Settings.writeTemplate at h
  dsimp only at h
  split at h
  · cases h
  · next hholds =>
    obtain ⟨path, haccept, h⟩ := bind_eq_ok_iff.mp h
    have hpath : path = .ofString file := by
      unfold accept at haccept
      split at haccept
      · cases haccept
      · cases haccept
        rfl
    subst hpath
    refine ⟨Bool.eq_false_iff.mpr hholds, ?_⟩
    split at h
    · next written hwritten =>
      cases h
      exact hwritten
    · cases h

/-- Writing a template touches its own file only. -/
theorem executeTemplate_touches (tree : FileTree) (file : String) :
    TemplateTouches tree file (executeTemplate tree file) := by
  cases hw : Settings.writeTemplate tree file with
  | ok changed =>
    have hending : executeTemplate tree file = { executeTemplate tree file with tree := changed, exitCode := 0 } := by
      unfold executeTemplate
      rw [hw]
    obtain ⟨habsent, hwritten⟩ := of_writeTemplate hw
    rw [hending]
    exact {
      created := creates_of_writeText habsent hwritten
      taken := fun ht => by
        rw [habsent] at ht
        cases ht
      failed := fun hne => absurd rfl hne }
  | error fault =>
    have htree : (executeTemplate tree file).tree = tree ∧ (executeTemplate tree file).exitCode = 1 := by
      unfold executeTemplate
      rw [hw]
      cases fault <;> exact ⟨rfl, rfl⟩
    exact {
      created := .inr fun place => by rw [htree.1]
      taken := fun _ => htree
      failed := fun _ => htree.1 }

/-- A command touches nothing but its own files, in any tree, with any tools and whatever
it is asked for. -/
theorem execute_touchesOwn (around : Surroundings) (command : Command) :
    TouchesOwn around (command.execute around) command := by
  cases command with
  | run config verbose flags asked => exact executeRun_touches around config verbose flags asked
  | template file => exact executeTemplate_touches around.tree file
  | help | mistake | version => rfl

end Checkup.Command
