import Criteria.Proofs.Logging.Ancestors
import Mathlib.Data.List.Count
import Mathlib.Data.List.Find

/-!
# Trees of loggers

In a tree that grows by asking for loggers each logger stands below the nearest known one of the names
above it (`Placed.ask`). The level in force for a logger is then the first level that is not zero among its
own and those of the names above it, and the root's if there is none (`Placed.levelInForce_eq`).
-/

namespace Criteria.Loggers

variable {ls : Loggers} {l : Logger} {a m name : String} {root : Nat} {own own' : String → Nat}

/-! ## Known loggers -/

theorem mem_of_find? (h : ls.find? a = some l) : l ∈ ls.known := List.mem_of_find?_eq_some h

theorem name_of_find? (h : ls.find? a = some l) : l.name = a := by
  simpa using List.find?_some h

theorem name_ne_of_mem (h : ls.find? name = none) (hl : l ∈ ls.known) : l.name ≠ name := by
  intro hname
  exact List.find?_eq_none.mp h l hl (by simp [hname])

theorem eq_of_isRootName (h : isRootName name = true) : name = "" ∨ name = rootName := by
  simpa [isRootName] using h

theorem ne_rootName (h : isRootName name = false) : rootName ≠ name := by
  rintro rfl
  cases h

/-- The nearest known logger above a name. -/
def nearest (ls : Loggers) (name : String) : Option String :=
  (ancestors name).find? fun a => (ls.find? a).isSome

/-- The level of a logger besides the root, zero if it is not known. -/
def levelOf (ls : Loggers) (name : String) : Nat := ((ls.find? name).map (·.level)).getD 0

theorem ask_of_root (h : isRootName name = true) : ls.ask name = ls := by
  rw [ask, h]
  rfl

theorem ask_of_known (h : ls.find? name = some l) : ls.ask name = ls := by
  rw [ask, h]
  simp

theorem ask_of_new (hroot : isRootName name = false) (h : ls.find? name = none) :
    ls.ask name =
      { ls with
        known :=
          (ls.known.map fun l => if adopts name l then { l with parent := some name } else l) ++
            [{ name := name, parent := ls.nearest name }] } := by
  rw [ask, hroot, h]
  rfl

/-- Asking for a logger keeps the known ones; only what is above them may change. -/
theorem find?_ask_of_ne (ls : Loggers) (hne : a ≠ name) :
    ∃ f : Logger → Logger, (∀ l, (f l).level = l.level) ∧
      (∀ l, adopts name l = false → f l = l) ∧ (ls.ask name).find? a = (ls.find? a).map f := by
  cases hroot : isRootName name with
  | true => exact ⟨id, fun _ => rfl, fun _ _ => rfl, by rw [ask_of_root hroot, Option.map_id, id]⟩
  | false =>
      cases h : ls.find? name with
      | some l => exact ⟨id, fun _ => rfl, fun _ _ => rfl, by rw [ask_of_known h, Option.map_id, id]⟩
      | none =>
          -- A new logger becomes the parent of those that it adopts, and changes nothing else about them.
          refine ⟨fun l => if adopts name l then { l with parent := some name } else l, ?_, ?_, ?_⟩
          · intro l
            dsimp only
            split <;> rfl
          · intro l hl
            simp [hl]
          · rw [ask_of_new hroot h, find?, List.find?_append, List.find?_map]
            have hname : ((fun l : Logger => l.name == a) ∘ fun l =>
                if adopts name l then { l with parent := some name } else l) = fun l => l.name == a := by
              funext l
              dsimp only [Function.comp]
              split <;> rfl
            rw [hname]
            simp [find?, hne.symm]

theorem isSome_find?_ask_of_ne (hne : a ≠ name) :
    ((ls.ask name).find? a).isSome = (ls.find? a).isSome := by
  obtain ⟨f, -, -, hfind⟩ := find?_ask_of_ne ls hne
  rw [hfind, Option.isSome_map]

theorem find?_ask_of_new (hroot : isRootName name = false) (h : ls.find? name = none) :
    (ls.ask name).find? name = some { name := name, parent := ls.nearest name } := by
  rw [ask_of_new hroot h, find?, List.find?_append, List.find?_eq_none.mpr, Option.none_or]
  · simp
  · intro l hl
    obtain ⟨k, hk, rfl⟩ := List.mem_map.mp hl
    have := name_ne_of_mem h hk
    split <;> simpa using this

theorem isSome_find?_ask (ls : Loggers) (hroot : isRootName name = false) :
    ((ls.ask name).find? name).isSome = true := by
  cases h : ls.find? name with
  | some l => rw [ask_of_known h, h, Option.isSome_some]
  | none => rw [find?_ask_of_new hroot h, Option.isSome_some]

/-- Asking for a logger makes no other name known. -/
theorem name_of_mem_ask (hl : l ∈ (ls.ask name).known) :
    (∃ k ∈ ls.known, k.name = l.name) ∨ isRootName name = false ∧ l.name = name := by
  cases hroot : isRootName name with
  | true =>
      rw [ask_of_root hroot] at hl
      exact .inl ⟨l, hl, rfl⟩
  | false =>
      cases hfind : ls.find? name with
      | some k =>
          rw [ask_of_known hfind] at hl
          exact .inl ⟨l, hl, rfl⟩
      | none =>
          rw [ask_of_new hroot hfind] at hl
          rcases List.mem_append.mp hl with hl | hl
          · obtain ⟨k, hk, rfl⟩ := List.mem_map.mp hl
            refine .inl ⟨k, hk, ?_⟩
            split <;> rfl
          · obtain rfl := List.mem_singleton.mp hl
            exact .inr ⟨rfl, rfl⟩

@[simp] theorem root_ask (ls : Loggers) (name : String) : (ls.ask name).root = ls.root := by
  rw [ask]
  split <;> rfl

theorem adopts_of_notMem (h : name ∉ ancestors l.name) : adopts name l = false := by
  simp [adopts, h]

/-! ## Plain names -/

/-- The names under which a tree does not depend on the order of asking: they do not begin the root's
name, as the empty one does, and do not end with a dot. -/
def IsPlain (name : String) : Prop :=
  ¬ name.toList <+: rootName.toList ∧ name.toList.getLast? ≠ some '.'

instance : Decidable (IsPlain name) := inferInstanceAs (Decidable (_ ∧ _))

theorem IsPlain.isRootName (h : IsPlain name) : isRootName name = false := by
  rw [Bool.eq_false_iff]
  intro hroot
  refine h.1 ?_
  rcases eq_of_isRootName hroot with rfl | rfl <;> decide

/-- The name of a nearer logger above `m` begins with that of one farther away. -/
theorem isPrefix_of_mem_nearer {nearer rest : List String} (h : ancestors m = nearer ++ name :: rest)
    (ha : a ∈ nearer) : name.toList <+: a.toList := by
  have hbegins : ∀ b ∈ ancestors m, b.toList <+: m.toList := by
    intro b hb
    obtain ⟨s, hs⟩ := exists_of_mem_ancestors hb
    exact ⟨'.' :: s, hs.symm⟩
  have hlt : name.toList.length < a.toList.length := by
    have hpairs := pairwise_ancestors m
    rw [h, List.pairwise_append] at hpairs
    exact hpairs.2.2 a ha name List.mem_cons_self
  refine List.prefix_of_prefix_length_le (hbegins name ?_) (hbegins a ?_) (Nat.le_of_lt hlt)
  · simp [h]
  · simp [h, ha]

/-- On the way up a name does not come twice. -/
theorem notMem_nearer {nearer rest : List String} (h : ancestors m = nearer ++ name :: rest) :
    name ∉ nearer := by
  intro hmem
  have hpairs := pairwise_ancestors m
  rw [h, List.pairwise_append] at hpairs
  exact Nat.lt_irrefl _ (hpairs.2.2 name hmem name List.mem_cons_self)

/-! ## Growing trees -/

theorem nearest_ask_of_notMem (h : name ∉ ancestors m) : (ls.ask name).nearest m = ls.nearest m := by
  refine List.find?_congr fun a ha => ?_
  rw [isSome_find?_ask_of_ne]
  rintro rfl
  exact h ha

/-- A new logger comes nearest to those below it, unless the nearest one has a name that begins with its own. -/
theorem nearest_ask (hplain : IsPlain name) (hnew : ls.find? name = none) (m : String) :
    (ls.ask name).nearest m =
      if name ∈ ancestors m ∧ ¬ name.toList <+: ((ls.nearest m).getD rootName).toList then some name
      else ls.nearest m := by
  by_cases hmem : name ∈ ancestors m
  · obtain ⟨nearer, rest, hsplit⟩ := List.append_of_mem hmem
    have hrest : rest = ancestors name := eq_ancestors_of_append hsplit hplain.2
    have hsame : nearer.find? (fun a => ((ls.ask name).find? a).isSome) =
        nearer.find? fun a => (ls.find? a).isSome := by
      refine List.find?_congr fun a ha => isSome_find?_ask_of_ne ?_
      rintro rfl
      exact notMem_nearer hsplit ha
    have hself : (name :: rest).find? (fun a => ((ls.ask name).find? a).isSome) = some name :=
      List.find?_cons_of_pos (isSome_find?_ask ls hplain.isRootName)
    rw [nearest, nearest, hsplit, List.find?_append, List.find?_append, hsame]
    -- A known logger between `m` and the new name stays nearest, and its name begins with the new one.
    cases hnearer : nearer.find? fun a => (ls.find? a).isSome with
    | some b =>
        have hb := isPrefix_of_mem_nearer hsplit (List.mem_of_find?_eq_some hnearer)
        rw [Option.some_or, Option.some_or, if_neg]
        exact fun h => h.2 hb
    | none =>
        rw [Option.none_or, Option.none_or, hself, List.find?_cons_of_neg (by simp [hnew]), hrest, if_pos]
        refine ⟨by simp, ?_⟩
        -- What was nearest lies further up, so that its name is too short to begin with the new one.
        cases hfar : (ancestors name).find? fun a => (ls.find? a).isSome with
        | none => exact hplain.1
        | some b =>
            intro hbegins
            have hlt := length_lt_of_mem_ancestors (List.mem_of_find?_eq_some hfar)
            exact Nat.not_lt.mpr hbegins.length_le hlt
  · rw [nearest_ask_of_notMem hmem, if_neg fun h => hmem h.1]

/-- Each logger has a plain name and stands below the nearest known one above it. -/
structure Placed (ls : Loggers) : Prop where
  plain : ∀ l ∈ ls.known, IsPlain l.name
  parent : ∀ l ∈ ls.known, l.parent = ls.nearest l.name

theorem placed_empty (root : Nat) : Placed { root := root } where
  plain _ h := absurd h List.not_mem_nil
  parent _ h := absurd h List.not_mem_nil

/-- Asking for a logger keeps every logger below the nearest known one above it. -/
theorem Placed.ask (h : Placed ls) (hplain : IsPlain name) : Placed (ls.ask name) := by
  cases hknown : ls.find? name with
  | some l => rwa [ask_of_known hknown]
  | none =>
      have hask := ask_of_new hplain.isRootName hknown
      constructor
      · intro l hl
        rcases name_of_mem_ask hl with ⟨k, hk, hname⟩ | ⟨-, hname⟩
        · exact hname ▸ h.plain k hk
        · exact hname ▸ hplain
      · intro l hl
        rw [hask] at hl
        rcases List.mem_append.mp hl with hl | hl
        · -- A known logger is adopted exactly if the new one has come nearest to it.
          obtain ⟨k, hk, rfl⟩ := List.mem_map.mp hl
          have hparent := h.parent k hk
          have hadopts : adopts name k = true ↔
              name ∈ ancestors k.name ∧ ¬ name.toList <+: ((ls.nearest k.name).getD rootName).toList := by
            rw [← hparent, adopts, Bool.and_eq_true, List.contains_iff_mem, Bool.not_eq_true',
              ← Bool.not_eq_true, List.isPrefixOf_iff_prefix]
          by_cases hk' : adopts name k = true
          · rw [if_pos hk']
            rw [nearest_ask hplain hknown, if_pos (hadopts.mp hk')]
          · rw [if_neg hk', nearest_ask hplain hknown, if_neg fun h => hk' (hadopts.mpr h), hparent]
        · -- The new logger goes below what was nearest to its name, as its name is not above itself.
          obtain rfl := List.mem_singleton.mp hl
          rw [nearest_ask_of_notMem]
          exact fun hmem => Nat.lt_irrefl _ (length_lt_of_mem_ancestors hmem)

/-- A logger whose name begins the root's is not put above one that stood below the root before. -/
example : ((({} : Loggers).ask "ro.x").ask "ro").find? "ro.x" = some { name := "ro.x", parent := none } ∧
    ((({} : Loggers).ask "ro").ask "ro.x").find? "ro.x" = some { name := "ro.x", parent := some "ro" } := by
  decide +kernel

/-! ## The way upwards -/

/-- The first level that is not zero on a way upwards, the root's if there is none. -/
def firstLevel (level : String → Nat) (root : Nat) : List String → Nat
  | [] => root
  | a :: rest => if level a = 0 then firstLevel level root rest else level a

/-- Levels of zero are passed over. -/
theorem firstLevel_append {nearer : List String} (h : ∀ a ∈ nearer, own a = 0) (rest : List String) :
    firstLevel own root (nearer ++ rest) = firstLevel own root rest := by
  induction nearer with
  | nil => rfl
  | cons a nearer ih =>
      rw [List.cons_append, firstLevel, if_pos (h a List.mem_cons_self)]
      exact ih fun b hb => h b (List.mem_cons_of_mem a hb)

/-- Levels may be added that are those in force at their places anyway. -/
theorem firstLevel_congr {names : List String}
    (h : ∀ nearer a rest, names = nearer ++ a :: rest →
      own' a = own a ∨ own' a ≠ 0 ∧ own' a = firstLevel own root (a :: rest)) :
    firstLevel own' root names = firstLevel own root names := by
  induction names with
  | nil => rfl
  | cons a rest ih =>
      rcases h [] a rest rfl with hsame | ⟨hne, hforce⟩
      · have hrest := ih fun nearer b behind hsplit => h (a :: nearer) b behind (by rw [hsplit]; rfl)
        rw [firstLevel, firstLevel, hsame, hrest]
      · rw [firstLevel, if_neg hne, hforce]

/-- How many known loggers have names shorter than `m`; a walk upwards from there takes no more steps. -/
def shorter (ls : Loggers) (m : String) : Nat :=
  ls.known.countP fun l => l.name.toList.length < m.toList.length

/-- On the way up fewer loggers are left with shorter names, which bounds the walk. -/
theorem shorter_lt (hl : l ∈ ls.known) (hlt : l.name.toList.length < m.toList.length) :
    ls.shorter l.name < ls.shorter m := by
  obtain ⟨before, behind, hsplit⟩ := List.append_of_mem hl
  have hmono : ∀ known : List Logger,
      known.countP (fun k => k.name.toList.length < l.name.toList.length) ≤
        known.countP fun k => k.name.toList.length < m.toList.length := by
    intro known
    refine List.countP_mono_left fun k _ hk => ?_
    rw [decide_eq_true_iff] at hk ⊢
    exact Nat.lt_trans hk hlt
  have hbefore := hmono before
  have hbehind := hmono behind
  rw [shorter, shorter, hsplit, List.countP_append, List.countP_append, List.countP_cons_of_neg (by simp),
    List.countP_cons_of_pos (by simpa using hlt)]
  omega

theorem levelFrom_none (ls : Loggers) (steps : Nat) : ls.levelFrom steps none = ls.root := by
  cases steps <;> rfl

theorem levelFrom_of_unknown (h : ls.find? a = none) (steps : Nat) :
    ls.levelFrom steps (some a) = ls.root := by
  cases steps with
  | zero => rfl
  | succ steps => simp [levelFrom, h]

theorem levelFrom_of_known (h : ls.find? a = some l) (steps : Nat) :
    ls.levelFrom (steps + 1) (some a) = if l.level = 0 then ls.levelFrom steps l.parent else l.level := by
  simp [levelFrom, h]

theorem levelOf_of_known (h : ls.find? a = some l) : ls.levelOf a = l.level := by
  rw [levelOf, h]
  rfl

theorem levelOf_of_unknown (h : ls.find? a = none) : ls.levelOf a = 0 := by
  rw [levelOf, h]
  rfl

/-- Where no logger is known above a name, the first level above it is that of the root. -/
theorem firstLevel_of_nearest_none (h : ls.nearest m = none) :
    firstLevel ls.levelOf ls.root (ancestors m) = ls.root := by
  have hzero : ∀ a ∈ ancestors m, ls.levelOf a = 0 := by
    intro a ha
    exact levelOf_of_unknown (by simpa using List.find?_eq_none.mp h a ha)
  have hwalk : firstLevel ls.levelOf ls.root (ancestors m ++ []) = ls.root := firstLevel_append hzero []
  rwa [List.append_nil] at hwalk

/-- Above a name, levels are looked for from the nearest known logger on. -/
theorem Placed.firstLevel_of_nearest (h : Placed ls) (hnearest : ls.nearest m = some a) :
    firstLevel ls.levelOf ls.root (ancestors m) = firstLevel ls.levelOf ls.root (a :: ancestors a) := by
  obtain ⟨hknown, nearer, rest, hsplit, hnearer⟩ := List.find?_eq_some_iff_append.mp hnearest
  obtain ⟨l, hl⟩ := Option.isSome_iff_exists.mp hknown
  have hplain : IsPlain a := name_of_find? hl ▸ h.plain l (mem_of_find? hl)
  have hzero : ∀ b ∈ nearer, ls.levelOf b = 0 := by
    intro b hb
    exact levelOf_of_unknown (by simpa using hnearer b hb)
  rw [hsplit, firstLevel_append hzero, eq_ancestors_of_append hsplit hplain.2]

/-- A nearest logger is known, and fewer names are shorter than its own. -/
theorem exists_of_nearest (h : ls.nearest m = some a) :
    ∃ l, ls.find? a = some l ∧ a.toList.length < m.toList.length ∧ ls.shorter a < ls.shorter m := by
  obtain ⟨hknown, -⟩ := List.find?_eq_some_iff_append.mp h
  obtain ⟨l, hl⟩ := Option.isSome_iff_exists.mp hknown
  have hlt := length_lt_of_mem_ancestors (List.mem_of_find?_eq_some h)
  obtain rfl := name_of_find? hl
  exact ⟨l, hl, hlt, shorter_lt (mem_of_find? hl) hlt⟩

/-- The walk upwards from the nearest logger above `m`, by induction on its steps. -/
theorem Placed.levelFrom_nearest (h : Placed ls) {steps : Nat} (hsteps : ls.shorter m ≤ steps) :
    ls.levelFrom steps (ls.nearest m) = firstLevel ls.levelOf ls.root (ancestors m) := by
  induction steps generalizing m with
  | zero =>
      cases hnearest : ls.nearest m with
      | none => rw [levelFrom_none, firstLevel_of_nearest_none hnearest]
      | some a =>
          obtain ⟨l, -, -, hlt⟩ := exists_of_nearest hnearest
          exact absurd hlt (Nat.not_lt.mpr (Nat.le_trans hsteps (Nat.zero_le _)))
  | succ steps ih =>
      cases hnearest : ls.nearest m with
      | none => rw [levelFrom_none, firstLevel_of_nearest_none hnearest]
      | some a =>
          obtain ⟨l, hl, -, hlt⟩ := exists_of_nearest hnearest
          have hparent : l.parent = ls.nearest a := name_of_find? hl ▸ h.parent l (mem_of_find? hl)
          rw [levelFrom_of_known hl, hparent, ih (by omega), h.firstLevel_of_nearest hnearest, firstLevel,
            levelOf_of_known hl]

/-- A logger asked for changes nothing on the ways between those with shorter names. -/
theorem Placed.levelFrom_ask (h : Placed ls) (steps : Nat) (hlen : m.toList.length ≤ name.toList.length) :
    (ls.ask name).levelFrom steps (ls.nearest m) = ls.levelFrom steps (ls.nearest m) := by
  induction steps generalizing m with
  | zero => exact root_ask ls name
  | succ steps ih =>
      cases hnearest : ls.nearest m with
      | none => rw [levelFrom_none, levelFrom_none, root_ask]
      | some a =>
          obtain ⟨l, hl, hlt, -⟩ := exists_of_nearest hnearest
          have hne : a ≠ name := by
            rintro rfl
            omega
          obtain ⟨f, -, hkept, hfind⟩ := find?_ask_of_ne ls hne
          have hname := name_of_find? hl
          -- A logger on the way has a shorter name than the new one, so that it is not adopted.
          have hl' : (ls.ask name).find? a = some l := by
            rw [hfind, hl, Option.map_some, hkept l]
            refine adopts_of_notMem fun hmem => ?_
            have := length_lt_of_mem_ancestors hmem
            rw [hname] at this
            omega
          have hparent : l.parent = ls.nearest a := hname ▸ h.parent l (mem_of_find? hl)
          rw [levelFrom_of_known hl, levelFrom_of_known hl', hparent, ih (by omega)]

/-! ## The level in force -/

/-- The level in force for a logger once it is asked for. -/
def levelInForce (ls : Loggers) (name : String) : Nat := (ls.ask name).effectiveLevel name

/-- Names by which the root is known are never those of other loggers. -/
theorem Placed.find?_of_root (h : Placed ls) (hroot : isRootName name = true) : ls.find? name = none := by
  refine List.find?_eq_none.mpr fun l hl hname => ?_
  have := (h.plain l hl).isRootName
  rw [beq_iff_eq.mp hname, hroot] at this
  cases this

theorem ancestors_of_root (hroot : isRootName name = true) : ancestors name = [] := by
  rcases eq_of_isRootName hroot with rfl | rfl <;> decide

theorem getLast?_of_root (hroot : isRootName name = true) : name.toList.getLast? ≠ some '.' := by
  rcases eq_of_isRootName hroot with rfl | rfl <;> decide

/-- Once a logger is asked for, the walk along parents is the walk along the names above it. -/
theorem Placed.levelInForce_eq_levelOf (h : Placed ls) (name : String) :
    ls.levelInForce name = firstLevel ls.levelOf ls.root (name :: ancestors name) := by
  rw [levelInForce, effectiveLevel, firstLevel]
  cases hroot : isRootName name with
  | true =>
      have hnone := h.find?_of_root hroot
      rw [ask_of_root hroot, levelFrom_of_unknown hnone, levelOf_of_unknown hnone, if_pos rfl,
        ancestors_of_root hroot, firstLevel]
  | false =>
      cases hfind : ls.find? name with
      -- A known logger: the steps allowed suffice, since only loggers with shorter names are passed.
      | some l =>
          have hl := mem_of_find? hfind
          have hparent : l.parent = ls.nearest name := name_of_find? hfind ▸ h.parent l hl
          have hshorter : ls.shorter name < ls.known.length :=
            List.countP_lt_length_iff.mpr ⟨l, hl, by simp [name_of_find? hfind]⟩
          obtain ⟨steps, hsteps⟩ := Nat.exists_eq_add_one_of_ne_zero (Nat.ne_zero_of_lt hshorter)
          rw [ask_of_known hfind, hsteps, levelFrom_of_known hfind, levelOf_of_known hfind, hparent,
            h.levelFrom_nearest (by omega)]
      -- A new one has no level and hands the question on to what is nearest.
      | none =>
          have hlen : (ls.ask name).known.length = ls.known.length + 1 := by
            rw [ask_of_new hroot hfind]
            simp
          rw [hlen, levelFrom_of_known (find?_ask_of_new hroot hfind), if_pos rfl, levelOf_of_unknown hfind,
            if_pos rfl, h.levelFrom_ask _ (Nat.le_refl _), h.levelFrom_nearest List.countP_le_length]

/-- The level in force is the first one that is not zero among a logger's own level and those of the
names above it, and the root's if there is none. -/
theorem Placed.levelInForce_eq (h : Placed ls) (name : String) :
    ls.levelInForce name = firstLevel ls.ownLevel ls.root (name :: ancestors name) := by
  rw [h.levelInForce_eq_levelOf]
  refine (firstLevel_congr fun nearer a rest hsplit => ?_).symm
  cases hroot : isRootName a with
  | false => exact .inl (by rw [ownLevel, hroot, if_neg Bool.false_ne_true, levelOf])
  | true =>
      -- The root's names are the last on a way, where its level is in force anyway.
      have hown : ls.ownLevel a = ls.root := by rw [ownLevel, hroot, if_pos rfl]
      have hzero := levelOf_of_unknown (h.find?_of_root hroot)
      rw [eq_ancestors_of_way hsplit (getLast?_of_root hroot), ancestors_of_root hroot, firstLevel, hzero, hown,
        if_pos rfl, firstLevel]
      by_cases hlevel : ls.root = 0
      · exact .inl hlevel
      · exact .inr ⟨hlevel, rfl⟩

end Criteria.Loggers
