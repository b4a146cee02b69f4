import Criteria.Proofs.Logging.Levels
import Criteria.Proofs.Running
import Mathlib.Data.List.Induction

/-!
# Configurations in turn

What a configuration gives anew is as after that configuration alone: the root level, the format, the
record of levels and the levels of the loggers that it names. A logger that it does not name keeps the level
it had (`reconfigured`), so that the levels in force are those of the last configuration alone exactly if
each level left over is in force there anyway.
-/

namespace Criteria.Logging

open Loggers

variable {s c : Settings} {cs : List Settings} {l : Logging}

/-! ## One configuration -/

/-- The logging with the levels of settings on record. -/
def noted (l : Logging) (levels : List (String × String)) : Logging :=
  { l with
    rootLevel := (levels.lookup rootKey).getD "INFO"
    moduleLevels := levels.filter fun m => m.1 ≠ rootKey }

/-- The levels that levels on record put in force, that of the root first. -/
def inForce (levels : List (String × String)) : List (String × Nat) :=
  (rootName, levelNumber ((levels.lookup rootKey).getD "INFO")) ::
    (levels.filter fun m => m.1 ≠ rootKey).map fun m => (standing m.1, levelNumber m.2)

/-- The levels that a configuration gives to loggers; none if it fails. -/
def given (s : Settings) : List (String × Nat) :=
  match levelsOf s, s.get formatKey (.str "console") with
  | .ok levels, .ok _ => inForce levels
  | _, _ => []

@[simp] theorem run_lift {α : Type} (l : Logging) (outcome : Except Fault α) :
    runFrom l (lift outcome) = (outcome, l) := by
  cases outcome <;> rfl

/-- Putting levels in force sets them one by one, that of the root first. -/
theorem setAll_inForce (ls : Loggers) (levels : List (String × String)) :
    (levels.filter fun m => m.1 ≠ rootKey).foldl (fun ls m => ls.setLevel m.1 (levelNumber m.2))
        { ls with root := levelNumber ((levels.lookup rootKey).getD "INFO") } =
      ls.setAll (inForce levels) := by
  rw [inForce, setAll_cons, setAll, List.foldl_map]
  simp only [setLevel_standing]
  rfl

/-- A configuration fails with the levels or with the format, and has put nothing in force then. -/
theorem run_configure (l : Logging) (s : Settings) :
    runFrom l (configure s) =
      match levelsOf s, s.get formatKey (.str "console") with
      | .error f, _ => (.error f, l)
      | .ok levels, .error f => (.error f, l.noted levels)
      | .ok levels, .ok format =>
        (.ok (),
          { l.noted levels with
            format := Text.toLower format.text
            configured := true
            loggers := l.loggers.setAll (inForce levels) }) := by
  rw [configure, runFrom_bind, run_lift]
  cases hlevels : levelsOf s with
  | error f => rfl
  | ok levels =>
      dsimp only
      rw [runFrom_bind_ok (runFrom_modify _ _), runFrom_bind, run_lift]
      cases hformat : s.get formatKey (.str "console") with
      | error f => rfl
      | ok format =>
          dsimp only
          rw [runFrom_modify, setAll_inForce]
          rfl

/-- A configuration sets the levels that it gives, which are none if it fails. -/
theorem loggers_configure (l : Logging) (s : Settings) :
    (runFrom l (configure s)).2.loggers = l.loggers.setAll (given s) := by
  rw [run_configure, given]
  cases levelsOf s with
  | error f => rfl
  | ok levels => cases s.get formatKey (.str "console") <;> rfl

theorem standing_given (s : Settings) : Standing (given s) := by
  rw [given]
  split
  · intro l hl
    rcases List.mem_cons.mp hl with rfl | hl
    · rfl
    · obtain ⟨m, -, rfl⟩ := List.mem_map.mp hl
      exact standing_standing m.1
  · exact fun l hl => absurd hl List.not_mem_nil

/-- Whether a configuration comes into force. -/
def Succeeds (s : Settings) : Prop := (runFrom {} (configure s)).1 = .ok ()

/-- Whether a configuration fails does not depend on earlier ones. -/
theorem outcome_configure (l : Logging) (s : Settings) :
    (runFrom l (configure s)).1 = (runFrom {} (configure s)).1 := by
  rw [run_configure, run_configure]
  cases levelsOf s with
  | error f => rfl
  | ok levels => cases s.get formatKey (.str "console") <;> rfl

/-- A configuration comes into force if its levels and its format can be had. -/
theorem succeeds_iff :
    Succeeds s ↔ ∃ levels format, levelsOf s = .ok levels ∧ s.get formatKey (.str "console") = .ok format := by
  rw [Succeeds, run_configure]
  cases levelsOf s with
  | error f => simp
  | ok levels => cases s.get formatKey (.str "console") <;> simp

/-- A configuration that comes into force gives the root a level. -/
theorem lastLevel_root (h : Succeeds s) : lastLevel (given s) rootName ≠ none := by
  obtain ⟨levels, format, hlevels, hformat⟩ := succeeds_iff.mp h
  rw [given, hlevels, hformat]
  dsimp only
  rw [inForce, lastLevel_cons, if_pos rfl]
  simp

/-- A configuration that succeeds leaves nothing but loggers of what was before. -/
theorem configure_of_succeeds (h : Succeeds s) (l l' : Logging) :
    (runFrom l (configure s)).2 =
      { (runFrom l' (configure s)).2 with loggers := l.loggers.setAll (given s) } := by
  obtain ⟨levels, format, hlevels, hformat⟩ := succeeds_iff.mp h
  rw [run_configure, run_configure, given, hlevels, hformat]
  rfl

/-- A configuration that fails may be on record, but nothing of it is in force. -/
theorem configure_of_fails (h : ¬ Succeeds s) (l : Logging) :
    ∃ rootLevel moduleLevels, (runFrom l (configure s)).2 = { l with rootLevel, moduleLevels } := by
  rw [succeeds_iff] at h
  rw [run_configure]
  cases hlevels : levelsOf s with
  | error f => exact ⟨l.rootLevel, l.moduleLevels, rfl⟩
  | ok levels =>
      cases hformat : s.get formatKey (.str "console") with
      | error f => exact ⟨_, _, rfl⟩
      | ok format => exact absurd ⟨levels, format, hlevels, hformat⟩ h

/-! ## Configurations in turn -/

/-- The logging after configurations in turn, from that of a new process. -/
def after (cs : List Settings) : Logging := cs.foldl (fun l s => (runFrom l (configure s)).2) {}

theorem after_append (cs : List Settings) (c : Settings) :
    after (cs ++ [c]) = (runFrom (after cs) (configure c)).2 := by
  rw [after, List.foldl_append, ← after]
  rfl

/-- The loggers have the levels given by all configurations one after the other. -/
theorem loggers_after (cs : List Settings) : (after cs).loggers = ({} : Loggers).setAll (cs.flatMap given) := by
  induction cs using List.reverseRecOn with
  | nil => rfl
  | append_singleton cs c ih =>
      rw [after_append, loggers_configure, ih, List.flatMap_append, setAll_append, List.flatMap_singleton]

theorem standing_flatMap_given (cs : List Settings) : Standing (cs.flatMap given) := by
  intro l hl
  obtain ⟨s, -, hs⟩ := List.mem_flatMap.mp hl
  exact standing_given s l hs

/-- Configurations that give levels to the root and to loggers of plain names only. -/
def PlainNames (cs : List Settings) : Prop := ∀ s ∈ cs, AllPlain (given s)

theorem placed_after (h : PlainNames cs) : Placed (after cs).loggers := by
  rw [loggers_after]
  refine (placed_empty 30).setAll fun l hl => ?_
  obtain ⟨s, hs, hl⟩ := List.mem_flatMap.mp hl
  exact h s hs l hl

/-- What a configuration `c` leaves of the configurations `cs` before it. -/
structure Reconfigured (cs : List Settings) (c : Settings) : Prop where
  outcome : (runFrom (after cs) (configure c)).1 = (runFrom {} (configure c)).1
  failed : ¬ Succeeds c →
    (after (cs ++ [c])).loggers = (after cs).loggers ∧ (after (cs ++ [c])).format = (after cs).format
  /-- All is as after `c` alone, but for the loggers besides the root. -/
  anew : Succeeds c → ∃ known, after (cs ++ [c]) =
    { after [c] with loggers := { root := (after [c]).loggers.root, known := known } }
  /-- A logger keeps its own level unless `c` gives it one. -/
  own : ∀ name, (after (cs ++ [c])).loggers.ownLevel name =
    (lastLevel (given c) (standing name)).getD ((after cs).loggers.ownLevel name)
  /-- The tree is that of the names in all configurations, with the last level that each was given. -/
  tree : (after (cs ++ [c])).loggers =
    (({} : Loggers).askAll (((cs ++ [c]).flatMap given).map Prod.fst)).withLevels fun a =>
      (lastLevel ((cs ++ [c]).flatMap given) a).getD (({} : Loggers).ownLevel a)
  /-- With plain names the level in force is the nearest own level upwards. -/
  force : PlainNames (cs ++ [c]) → ∀ name, (after (cs ++ [c])).loggers.levelInForce name =
    firstLevel (after (cs ++ [c])).loggers.ownLevel (after (cs ++ [c])).loggers.root (name :: ancestors name)
  /-- The levels in force are those after `c` alone exactly if each level left over is in force there. -/
  agrees : Succeeds c → PlainNames (cs ++ [c]) →
    ((∀ name, (after (cs ++ [c])).loggers.levelInForce name = (after [c]).loggers.levelInForce name) ↔
      ∀ name, lastLevel (given c) (standing name) = none →
        (after cs).loggers.ownLevel name = 0 ∨
          (after cs).loggers.ownLevel name = (after [c]).loggers.levelInForce name)

/-- **Configuring again gives all anew but the levels of loggers that it does not name**, after any
configurations. -/
theorem reconfigured (cs : List Settings) (c : Settings) : Reconfigured cs c where
  outcome := outcome_configure _ c
  failed h := by
    obtain ⟨rootLevel, moduleLevels, hrun⟩ := configure_of_fails h (after cs)
    rw [after_append, hrun]
    exact ⟨rfl, rfl⟩
  anew h := by
    have hfresh : after [c] = (runFrom {} (configure c)).2 := rfl
    have hroot := root_setAll (after cs).loggers (standing_given c) (lastLevel_root h)
    refine ⟨((after cs).loggers.setAll (given c)).known, ?_⟩
    rw [after_append, configure_of_succeeds h (after cs) {}, hfresh, loggers_configure, ← hroot]
  own name := by
    rw [after_append, loggers_configure, ownLevel_setAll _ (standing_given c)]
  tree := by
    rw [loggers_after]
    exact setAll_withLevels (rootless_empty 30) ({} : Loggers).ownLevel (standing_flatMap_given _)
  force h := (placed_after h).levelInForce_eq
  agrees h hplain := by
    have hbefore : PlainNames cs := fun s hs => hplain s (List.mem_append_left _ hs)
    have hlast := hplain c (List.mem_append_right _ List.mem_cons_self)
    have hfresh : (after [c]).loggers = ({} : Loggers).setAll (given c) := by
      rw [loggers_after, List.flatMap_singleton]
    rw [after_append, loggers_configure, hfresh]
    exact setAll_agrees_iff (placed_after hbefore) (standing_given c) hlast (lastLevel_root h)

/-- Settings with levels for loggers. -/
def levelSettings (levels : Entries) : Settings where
  entries := [(.str "flyspec", .map [(.str "logging", .map [(.str "level", .map levels)])])]

def debuggedApp : Settings := levelSettings [(.str "app", .str "debug")]

/-- The level of a logger stays in force below it though the last configuration names no logger. -/
theorem debuggedApp_left_over :
    Succeeds (levelSettings []) ∧ PlainNames [debuggedApp, levelSettings []] ∧
      (after [debuggedApp, levelSettings []]).loggers.levelInForce "app.db" = 10 ∧
      (after [levelSettings []]).loggers.levelInForce "app.db" = 20 ∧
      ¬ ∀ name, (after [debuggedApp, levelSettings []]).loggers.levelInForce name =
        (after [levelSettings []]).loggers.levelInForce name := by
  have hsucceeds : Succeeds (levelSettings []) :=
    succeeds_iff.mpr ⟨[], .str "console", rfl, rfl⟩
  have hplain : PlainNames [debuggedApp, levelSettings []] := by
    unfold PlainNames AllPlain
    decide +kernel
  have h := reconfigured [debuggedApp] (levelSettings [])
  refine ⟨hsucceeds, hplain, by decide +kernel, by decide +kernel, fun hsame => ?_⟩
  have hleft := (h.agrees hsucceeds hplain).mp hsame "app" (by decide +kernel)
  revert hleft
  decide +kernel

end Criteria.Logging
