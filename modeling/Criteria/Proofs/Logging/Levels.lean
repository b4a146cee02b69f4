import Criteria.Proofs.Logging.Hierarchy
import Mathlib.Logic.Function.Basic

/-!
# Levels in turn

Setting levels one after the other leaves each logger with the last one that it was given
(`ownLevel_setAll`). The tree that results is that of asking for the loggers in the same order, whatever the
levels (`setAll_withLevels`). Levels that were in the tree before do not matter exactly if they are in force
in a fresh tree anyway (`setAll_agrees_iff`).
-/

namespace Criteria.Loggers

variable {ls : Loggers} {a name : String}

/-! ## Trees with other levels -/

/-- The tree with other levels. -/
def relevel (ls : Loggers) (root : Nat) (level : Logger → Nat) : Loggers where
  root := root
  known := ls.known.map fun l => { l with level := level l }

theorem find?_relevel (ls : Loggers) (root : Nat) (level : Logger → Nat) (a : String) :
    (ls.relevel root level).find? a = (ls.find? a).map fun l => { l with level := level l } := by
  rw [find?, relevel, List.find?_map]
  rfl

theorem nearest_relevel (ls : Loggers) (root : Nat) (level : Logger → Nat) (a : String) :
    (ls.relevel root level).nearest a = ls.nearest a := by
  simp only [nearest, find?_relevel, Option.isSome_map]

/-- Where loggers stand does not depend on levels. -/
theorem Placed.relevel (h : Placed ls) (root : Nat) (level : Logger → Nat) : Placed (ls.relevel root level) := by
  constructor
  · intro l hl
    obtain ⟨k, hk, rfl⟩ := List.mem_map.mp hl
    exact h.plain k hk
  · intro l hl
    obtain ⟨k, hk, rfl⟩ := List.mem_map.mp hl
    rw [nearest_relevel]
    exact h.parent k hk

theorem setLevel_of_root (h : isRootName name = true) (level : Nat) :
    ls.setLevel name level = ls.relevel level (·.level) := by
  rw [setLevel, if_pos h, relevel]
  simp

theorem setLevel_of_other (h : isRootName name = false) (level : Nat) :
    ls.setLevel name level = (ls.ask name).relevel ls.root fun l => if l.name = name then level else l.level := by
  rw [setLevel, if_neg (by simp [h]), relevel]
  simp only [root_ask]
  congr 1
  refine List.map_congr_left fun l _ => ?_
  split <;> rfl

/-! ## One name for each logger -/

/-- One name for the root, which is known by two; the other loggers keep theirs. -/
def standing (name : String) : String := if isRootName name then rootName else name

theorem standing_of_root (h : isRootName name = true) : standing name = rootName := if_pos h

theorem standing_of_other (h : isRootName name = false) : standing name = name := if_neg (by simp [h])

theorem standing_standing (name : String) : standing (standing name) = standing name := by
  cases h : isRootName name with
  | true => rw [standing_of_root h]; rfl
  | false => rw [standing_of_other h, standing_of_other h]

theorem setLevel_standing (ls : Loggers) (name : String) (level : Nat) :
    ls.setLevel (standing name) level = ls.setLevel name level := by
  cases h : isRootName name with
  | true => rw [standing_of_root h, setLevel_of_root h, setLevel_of_root rfl]
  | false => rw [standing_of_other h]

/-! ## Own levels -/

theorem ownLevel_of_root (h : isRootName a = true) : ls.ownLevel a = ls.root := by
  rw [ownLevel, if_pos h]

theorem ownLevel_of_other (h : isRootName a = false) : ls.ownLevel a = ((ls.find? a).map (·.level)).getD 0 := by
  rw [ownLevel, if_neg (by simp [h])]

/-- Asking for a logger changes no level. -/
theorem ownLevel_ask (ls : Loggers) (name a : String) : (ls.ask name).ownLevel a = ls.ownLevel a := by
  cases ha : isRootName a with
  | true => rw [ownLevel_of_root ha, ownLevel_of_root ha, root_ask]
  | false =>
      rw [ownLevel_of_other ha, ownLevel_of_other ha]
      by_cases hname : a = name
      · subst hname
        cases h : ls.find? a with
        | some l => rw [ask_of_known h, h]
        | none =>
            rw [find?_ask_of_new ha h]
            rfl
      · obtain ⟨f, hlevel, -, hfind⟩ := find?_ask_of_ne ls hname
        rw [hfind, Option.map_map]
        congr 2
        funext l
        exact hlevel l

/-- Setting a level changes that of one logger. -/
theorem ownLevel_setLevel (ls : Loggers) (name : String) (level : Nat) (a : String) :
    (ls.setLevel name level).ownLevel a = if standing a = standing name then level else ls.ownLevel a := by
  cases hname : isRootName name with
  -- The root is known under one name, and the levels of the others are left alone.
  | true =>
      rw [setLevel_of_root hname, standing_of_root hname]
      cases ha : isRootName a with
      | true => rw [standing_of_root ha, if_pos rfl, ownLevel_of_root ha, relevel]
      | false =>
          rw [standing_of_other ha, if_neg (ne_rootName ha).symm, ownLevel_of_other ha, ownLevel_of_other ha,
            find?_relevel, Option.map_map]
          rfl
  -- A logger is asked for first, which changes no level, and then given its own.
  | false =>
      rw [setLevel_of_other hname, standing_of_other hname]
      cases ha : isRootName a with
      | true =>
          rw [standing_of_root ha, if_neg (ne_rootName hname), ownLevel_of_root ha, ownLevel_of_root ha, relevel]
      | false =>
          rw [standing_of_other ha, ownLevel_of_other ha, find?_relevel, Option.map_map]
          have hask := ownLevel_ask ls name a
          rw [ownLevel_of_other ha] at hask
          rw [← hask]
          by_cases heq : a = name
          · subst heq
            obtain ⟨l, hl⟩ := Option.isSome_iff_exists.mp (isSome_find?_ask ls ha)
            simp [hl, name_of_find? hl]
          · rw [if_neg heq]
            cases hl : (ls.ask name).find? a with
            | none => rfl
            | some l =>
                have hl' : l.name ≠ name := name_of_find? hl ▸ heq
                simp [hl']

/-! ## Levels one after the other -/

def setAll (ls : Loggers) (levels : List (String × Nat)) : Loggers :=
  levels.foldl (fun ls l => ls.setLevel l.1 l.2) ls

def askAll (ls : Loggers) (names : List String) : Loggers := names.foldl ask ls

/-- The last level that is given under a name. -/
def lastLevel (levels : List (String × Nat)) (name : String) : Option Nat := levels.reverse.lookup name

/-- Levels by loggers, the root among them under its own name. -/
def Standing (levels : List (String × Nat)) : Prop := ∀ l ∈ levels, standing l.1 = l.1

@[simp] theorem setAll_nil (ls : Loggers) : ls.setAll [] = ls := rfl

@[simp] theorem setAll_cons (ls : Loggers) (l : String × Nat) (levels : List (String × Nat)) :
    ls.setAll (l :: levels) = (ls.setLevel l.1 l.2).setAll levels := rfl

theorem setAll_append (ls : Loggers) (levels later : List (String × Nat)) :
    ls.setAll (levels ++ later) = (ls.setAll levels).setAll later := List.foldl_append

/-- Of levels given under a name the last one counts. -/
theorem lastLevel_cons (l : String × Nat) (levels : List (String × Nat)) (name : String) :
    lastLevel (l :: levels) name =
      (lastLevel levels name).or (if name = l.1 then some l.2 else none) := by
  rw [lastLevel, List.reverse_cons, List.lookup_append, List.lookup_cons, ← lastLevel, List.lookup_nil]
  by_cases h : name = l.1
  · rw [if_pos h, beq_iff_eq.mpr h]
  · rw [if_neg h, beq_eq_false_iff_ne.mpr h]

/-- A logger has the last level that it was given, and else the one from before. -/
theorem ownLevel_setAll (ls : Loggers) {levels : List (String × Nat)} (h : Standing levels) (name : String) :
    (ls.setAll levels).ownLevel name =
      (lastLevel levels (standing name)).getD (ls.ownLevel name) := by
  induction levels generalizing ls with
  | nil => rfl
  | cons l levels ih =>
      have hl := h l List.mem_cons_self
      rw [setAll_cons, ih _ fun k hk => h k (List.mem_cons_of_mem l hk), ownLevel_setLevel, hl, lastLevel_cons]
      cases lastLevel levels (standing name) with
      | some level => rfl
      | none => split <;> rfl

/-- The root has the level that is given to it, whatever the tree. -/
theorem root_setAll (ls : Loggers) {levels : List (String × Nat)} (h : Standing levels)
    (hroot : lastLevel levels rootName ≠ none) : (ls.setAll levels).root = (({} : Loggers).setAll levels).root := by
  have hown : isRootName rootName = true := rfl
  rw [← ownLevel_of_root hown, ← ownLevel_of_root hown, ownLevel_setAll ls h, ownLevel_setAll {} h]
  obtain ⟨level, hlevel⟩ := Option.ne_none_iff_exists'.mp hroot
  rw [standing_of_root hown, hlevel, Option.getD_some, Option.getD_some]

/-- Levels of the root and of loggers with plain names. -/
def AllPlain (levels : List (String × Nat)) : Prop := ∀ l ∈ levels, isRootName l.1 = true ∨ IsPlain l.1

theorem Placed.setLevel (h : Placed ls) (hname : isRootName name = true ∨ IsPlain name) (level : Nat) :
    Placed (ls.setLevel name level) := by
  rcases hname with hroot | hplain
  · rw [setLevel_of_root hroot]
    exact h.relevel _ _
  · rw [setLevel_of_other hplain.isRootName]
    exact (h.ask hplain).relevel _ _

/-- Setting levels keeps every logger below the nearest known one above it. -/
theorem Placed.setAll (h : Placed ls) {levels : List (String × Nat)} (hplain : AllPlain levels) :
    Placed (ls.setAll levels) := by
  induction levels generalizing ls with
  | nil => exact h
  | cons l levels ih =>
      rw [setAll_cons]
      exact ih (h.setLevel (hplain l List.mem_cons_self) l.2) fun k hk => hplain k (List.mem_cons_of_mem l hk)

/-! ## Levels left over -/

theorem isPlain_of_ownLevel (h : Placed ls) (hroot : isRootName a = false) (hne : ls.ownLevel a ≠ 0) : IsPlain a := by
  rw [ownLevel_of_other hroot] at hne
  cases hfind : ls.find? a with
  | none => exact absurd (by rw [hfind]; rfl) hne
  | some l => exact name_of_find? hfind ▸ h.plain l (mem_of_find? hfind)

theorem ownLevel_fresh (hroot : isRootName a = false) : ({} : Loggers).ownLevel a = 0 := ownLevel_of_other hroot

/-- Levels set in a tree have the same effect as in a fresh one exactly if each level left over in the tree is in
force in the fresh one anyway. -/
theorem setAll_agrees_iff (h : Placed ls) {levels : List (String × Nat)} (hstanding : Standing levels)
    (hplain : AllPlain levels) (hroot : lastLevel levels rootName ≠ none) :
    (∀ name, (ls.setAll levels).levelInForce name = (({} : Loggers).setAll levels).levelInForce name) ↔
      ∀ name, lastLevel levels (standing name) = none →
        ls.ownLevel name = 0 ∨ ls.ownLevel name = (({} : Loggers).setAll levels).levelInForce name := by
  have hlater := h.setAll hplain
  have hfresh := (placed_empty 30).setAll hplain
  have hother : ∀ {a}, lastLevel levels (standing a) = none → isRootName a = false := by
    intro a ha
    rw [Bool.eq_false_iff]
    intro hname
    exact hroot (standing_of_root hname ▸ ha)
  constructor
  · intro hagree a hnone
    by_cases hzero : ls.ownLevel a = 0
    · exact .inl hzero
    · have hown : (ls.setAll levels).ownLevel a = ls.ownLevel a := by
        rw [ownLevel_setAll ls hstanding, hnone, Option.getD_none]
      refine .inr ?_
      rw [← hagree, hlater.levelInForce_eq, firstLevel, hown, if_neg hzero]
  · -- On the way up, each name either has the same level in both trees, or one that ends the walk in both.
    intro hleft name
    rw [hlater.levelInForce_eq, hfresh.levelInForce_eq, root_setAll ls hstanding hroot]
    refine firstLevel_congr fun nearer a rest hsplit => ?_
    rw [ownLevel_setAll ls hstanding, ownLevel_setAll {} hstanding]
    cases hlast : lastLevel levels (standing a) with
    | some level => exact .inl rfl
    | none =>
        have ha := hother hlast
        rcases hleft a hlast with hzero | hforce
        · exact .inl (by rw [Option.getD_none, Option.getD_none, hzero, ownLevel_fresh ha])
        · by_cases hzero : ls.ownLevel a = 0
          · exact .inl (by rw [Option.getD_none, Option.getD_none, hzero, ownLevel_fresh ha])
          · refine .inr ⟨hzero, ?_⟩
            have hdot := (isPlain_of_ownLevel h ha hzero).2
            rw [Option.getD_none, hforce, hfresh.levelInForce_eq, eq_ancestors_of_way hsplit hdot]

/-! ## The tree -/

/-- The tree in which each logger has the level of its name. -/
def withLevels (ls : Loggers) (own : String → Nat) : Loggers := ls.relevel (own rootName) fun l => own l.name

/-- No logger goes by a name of the root. -/
def Rootless (ls : Loggers) : Prop := ∀ l ∈ ls.known, isRootName l.name = false

theorem rootless_empty (root : Nat) : Rootless { root := root } := fun _ h => absurd h List.not_mem_nil

theorem Rootless.ask (h : Rootless ls) (name : String) : Rootless (ls.ask name) := by
  intro l hl
  rcases name_of_mem_ask hl with ⟨k, hk, hname⟩ | ⟨hroot, hname⟩
  · exact hname ▸ h k hk
  · exact hname ▸ hroot

theorem withLevels_update (ls : Loggers) (own : String → Nat) (hname : rootName ≠ name) (level : Nat) :
    (ls.withLevels own).relevel (own rootName) (fun l => if l.name = name then level else l.level) =
      ls.withLevels (Function.update own name level) := by
  rw [withLevels, withLevels, relevel, relevel, relevel, Function.update_of_ne hname, List.map_map]
  congr 1
  refine List.map_congr_left fun l _ => ?_
  simp [Function.comp, Function.update_apply]

/-- The levels of the others do not matter when a logger is asked for. -/
theorem ask_withLevels (ls : Loggers) (own : String → Nat) (hroot : isRootName name = false) :
    ∃ level, (ls.withLevels own).ask name = (ls.ask name).withLevels (Function.update own name level) := by
  have hfind : (ls.withLevels own).find? name = (ls.find? name).map fun l => { l with level := own l.name } :=
    find?_relevel ls _ _ name
  cases h : ls.find? name with
  | some l =>
      refine ⟨own name, ?_⟩
      rw [h, Option.map_some] at hfind
      rw [ask_of_known h, ask_of_known hfind, Function.update_eq_self]
  | none =>
      -- A new logger has no level of its own.
      refine ⟨0, ?_⟩
      rw [h, Option.map_none] at hfind
      rw [ask_of_new hroot h, ask_of_new hroot hfind, withLevels, nearest_relevel, withLevels, relevel, relevel,
        Function.update_of_ne (ne_rootName hroot), List.map_append, List.map_map, List.map_map, List.map_singleton,
        Function.update_self]
      congr 2
      refine List.map_congr_left fun l hl => ?_
      dsimp only [Function.comp]
      have hadopts : adopts name { l with level := own l.name } = adopts name l := rfl
      rw [hadopts]
      split <;> rw [Function.update_of_ne (name_ne_of_mem h hl)]

/-- Setting a level is asking for the logger in the tree and giving it that level. -/
theorem setLevel_withLevels (h : Rootless ls) (own : String → Nat) (hname : standing name = name) (level : Nat) :
    (ls.withLevels own).setLevel name level = (ls.ask name).withLevels (Function.update own name level) := by
  cases hroot : isRootName name with
  | true =>
      obtain rfl : rootName = name := by rw [← hname, standing_of_root hroot]
      rw [setLevel_of_root hroot, ask_of_root hroot, withLevels, withLevels, relevel, relevel, relevel,
        Function.update_self, List.map_map]
      congr 1
      refine List.map_congr_left fun l hl => ?_
      rw [Function.update_of_ne (ne_rootName (h l hl)).symm]
      rfl
  | false =>
      have hne := ne_rootName hroot
      obtain ⟨asked, hask⟩ := ask_withLevels ls own hroot
      have hupdate := withLevels_update (ls.ask name) (Function.update own name asked) hne level
      rw [Function.update_of_ne hne, Function.update_idem] at hupdate
      rw [setLevel_of_other hroot, hask]
      exact hupdate

/-- Setting levels asks for their loggers, and overwrites the levels of these alone. -/
theorem setAll_withLevels (h : Rootless ls) (own : String → Nat) {levels : List (String × Nat)}
    (hlevels : Standing levels) :
    (ls.withLevels own).setAll levels =
      (ls.askAll (levels.map Prod.fst)).withLevels fun a => (lastLevel levels a).getD (own a) := by
  induction levels generalizing ls own with
  | nil => rfl
  | cons l levels ih =>
      have hrest : Standing levels := fun k hk => hlevels k (List.mem_cons_of_mem l hk)
      rw [setAll_cons, setLevel_withLevels h own (hlevels l List.mem_cons_self), ih (h.ask l.1) _ hrest]
      have hown : (fun a => (lastLevel levels a).getD (Function.update own l.1 l.2 a)) =
          fun a => (lastLevel (l :: levels) a).getD (own a) := by
        funext a
        rw [lastLevel_cons, Function.update_apply]
        cases lastLevel levels a with
        | some level => rfl
        | none => split <;> rfl
      rw [hown]
      rfl

end Criteria.Loggers
